import PduExamObserver.ResearchRuntime.Collecting

/-! # Steps of the service

What a step does to each session: nothing, one section, or a recovery in a new process. -/

namespace PduExamObserver.ResearchRuntime
open Stateful Transition
set_option autoImplicit false

variable {setup : Setup} {w : World} {a : Action} {index : Nat} {c after : Collection}

/-! ## Sections of a collection -/

def Section.collects : Section → Bool
  | .preflight .. | .startSyntheticDemo .. | .startRealCollection .. | .ingestFrame .. | .recordFocusContext ..
  | .markContamination | .captureFails .. | .workerEnds | .beginStop | .finishStop .. | .sealSession
  | .beginExport .. | .beginWithdraw .. => true
  | .review .. | .lock | .finishExport | .finishWithdraw .. | .withdrawTestArtifacts .. => false

theorem Collects.beginExport (setup : Setup) (env : ExportEnv) : Collects (beginExport setup env) := by
  refine .bind (.requireState _) fun row => .bind .get fun _ => .bind (.liftExcept _) fun _ => .ite (fun _ => .throw _)
    fun _ => .ite (fun _ => .throw _) fun _ => ?_
  exact .ite (fun _ => .bind (.liftExcept _) fun _ => .liftExcept _) fun _ => .liftExcept _

theorem Collects.beginWithdraw (setup : Setup) (reference : String) (answer : AuthorityAnswer) :
    Collects (beginWithdraw setup reference answer) := .bind .get fun _ => .liftExcept _

theorem collects_perform {part : Section} (active : Bool) (h : part.collects = true) :
    Collects (perform setup active part) := by
  cases part with
  | preflight requested measured => exact .bind (.preflight _ _) fun _ => .return _
  | startSyntheticDemo fixtureName env => exact .bind (.startSyntheticDemo _ _ _ _) fun _ => .return _
  | startRealCollection reference answer => exact .bind (.startRealCollection _ _ _ _) fun _ => .return _
  | ingestFrame env => exact .bind (.ingestFrame _ _) fun _ => .return _
  | recordFocusContext focus => exact .bind (.recordFocusContext _) fun _ => .return _
  | markContamination => exact .bind .markContamination fun _ => .return _
  | captureFails code closeRaises => exact .bind (.captureFails _ _) fun _ => .return _
  | workerEnds => exact .bind .workerEnds fun _ => .return _
  | beginStop => exact .bind .beginStop fun _ => .return _
  | finishStop joined env => exact .bind (.finishStop _ _ _) fun _ => .return _
  | sealSession => exact .bind (.sealSession _) fun _ => .return _
  | beginExport env => exact .bind (.beginExport _ _) fun _ => .return _
  | beginWithdraw reference answer => exact .bind (.beginWithdraw _ _ _) fun _ => .return _
  | review request => cases h
  | lock => cases h
  | finishExport => cases h
  | finishWithdraw call env => cases h
  | withdrawTestArtifacts fault => cases h

theorem liftExcept_final {α : Type} (result : Except RuntimeError α) (c : Collection) :
    final ((liftExcept result).run c) = c := by
  cases result <;> rfl

theorem beginWithdraw_final (setup : Setup) (reference : String) (answer : AuthorityAnswer) (c : Collection) :
    final ((beginWithdraw setup reference answer).run c) = c := by
  unfold beginWithdraw
  rw [run_bind_ok (EStateM.run_get c)]
  exact liftExcept_final _ c

theorem beginExport_final (setup : Setup) (env : ExportEnv) (c : Collection) :
    final ((beginExport setup env).run c) = c := by
  have hlook : Keeps (fun c after => after = c) (beginExport setup env) := by
    have hsame : IsPreorder Collection fun c after => after = c := { refl := fun _ => rfl, trans := fun _ _ _ h h' => h'.trans h }
    exact Keeps.bind (.requireState _) fun row => Keeps.bind (fun _ => rfl) fun _ =>
      Keeps.bind (liftExcept_final _) fun _ => Keeps.ite (fun _ _ => rfl) fun _ => Keeps.ite (fun _ _ => rfl)
        fun _ => Keeps.ite (fun _ => Keeps.bind (liftExcept_final _) fun _ => liftExcept_final _)
          fun _ => liftExcept_final _
  exact hlook c

theorem collects_over_eq {part : Section} (active : Bool) (h : part.collects = true)
    (hover : c.session.state.isOver = true) :
    ∃ worker, final ((perform setup active part).run c) = { c with worker } := by
  have hrefused : ∀ {x : Op Unit}, (∃ e, x.run c = .error e c) →
      ∃ worker, final ((do x; return none : Op (Option Pending)).run c) = { c with worker } := by
    rintro x ⟨e, hrun⟩
    rw [run_bind_error hrun]
    exact ⟨c.worker, rfl⟩
  have hstate : ∀ state : SessionState, state.isOver = false → c.session.state ≠ state := by
    rintro state hstate rfl
    rw [hstate] at hover
    cases hover
  cases part with
  | preflight requested measured => exact hrefused (over_kept (by simp [SessionState.isOver]) _ hover)
  | startSyntheticDemo fixtureName env => exact hrefused (over_kept (by simp [SessionState.isOver]) _ hover)
  | startRealCollection reference answer => exact hrefused (over_kept (by simp [SessionState.isOver]) _ hover)
  | ingestFrame env => exact hrefused (over_kept (by simp [SessionState.isOver]) _ hover)
  | recordFocusContext focus =>
    cases focus with
    | none => exact ⟨c.worker, rfl⟩
    | some focus => exact hrefused (over_kept (by simp [SessionState.isOver]) _ hover)
  | markContamination => exact hrefused (over_kept (by simp [SessionState.isOver]) _ hover)
  | captureFails code closeRaises =>
    have hrun : (captureFails code closeRaises).run c = .ok () c := by
      unfold captureFails
      rw [locked_run, run_bind_ok (sessionRow_run c), if_neg (hstate .recording rfl)]
      rfl
    have hall : (perform setup active (.captureFails code closeRaises)).run c = _ := run_bind_ok hrun
    rw [hall]
    exact ⟨c.worker, rfl⟩
  | workerEnds => exact ⟨false, rfl⟩
  | beginStop =>
    have hrun : ∃ e, beginStop.run c = .error e c := by
      unfold beginStop
      rw [EStateM.run_bind, requireState_run, if_neg (by simpa using hstate .recording rfl)]
      exact ⟨_, rfl⟩
    obtain ⟨e, hrun⟩ := hrun
    have hall : (perform setup active .beginStop).run c = _ := run_bind_error hrun
    rw [hall]
    exact ⟨c.worker, rfl⟩
  | finishStop joined env => exact hrefused (over_kept (by simp [SessionState.isOver]) _ hover)
  | sealSession => exact hrefused (over_kept (by simp [SessionState.isOver]) _ hover)
  | beginExport env =>
    have hkept := beginExport_final setup env c
    unfold perform
    rw [EStateM.run_bind]
    cases hrun : (beginExport setup env).run c <;> rw [hrun] at hkept <;> exact ⟨c.worker, hkept⟩
  | beginWithdraw reference answer =>
    have hkept := beginWithdraw_final setup reference answer c
    unfold perform
    rw [EStateM.run_bind]
    cases hrun : (beginWithdraw setup reference answer).run c <;> rw [hrun] at hkept <;> exact ⟨c.worker, hkept⟩
  | review request => cases h
  | lock => cases h
  | finishExport => cases h
  | finishWithdraw call env => cases h
  | withdrawTestArtifacts fault => cases h

theorem collects_over {part : Section} (active : Bool) (h : part.collects = true) (hover : c.session.state.isOver = true) :
    (final ((perform setup active part).run c)).session = c.session := by
  obtain ⟨worker, hrun⟩ : ∃ worker, final ((perform setup active part).run c) = { c with worker } :=
    collects_over_eq active h hover
  rw [hrun]

/-! ## Steps -/

/-- What a step does to the session at `index`. -/
inductive StepsTo (setup : Setup) (w : World) (a : Action) (index : Nat) (c : Collection) : Collection → Prop
  | stays : StepsTo setup w a index c c
  | performs (part : Section) : a = .act index part → w.running = true →
      (∀ pending, part.continues = some pending → (index, pending) ∈ w.calls) →
      StepsTo setup w a index c (final ((perform setup w.active part).run c))
  | restarts (fault : Option Fault) : a = .restart fault →
      StepsTo setup w a index c (recover fault c.restarted)

theorem act_collections (setup : Setup) (w : World) (index : Nat) (c : Collection) (part : Section)
    (hcalls : ∀ pending, part.continues = some pending → (index, pending) ∈ w.calls)
    (hcapture : ¬ (part.isCapture && !c.worker) = true) :
    (w.act setup index part c).collections =
      w.collections.set index (final ((perform setup w.active part).run c)) := by
  unfold World.act
  rw [if_neg, if_neg hcapture]
  · cases (perform setup w.active part).run c <;> rfl
  · cases hcontinues : part.continues with
    | none => simp
    | some pending => simpa [hcontinues] using hcalls pending hcontinues

theorem act_cases (setup : Setup) (w : World) (index : Nat) (part : Section) (c : Collection) :
    w.act setup index part c = w ∨
      (∀ pending, part.continues = some pending → (index, pending) ∈ w.calls) ∧
      (w.act setup index part c).collections =
        w.collections.set index (final ((perform setup w.active part).run c)) := by
  by_cases hcalls : ∀ pending, part.continues = some pending → (index, pending) ∈ w.calls
  · by_cases hcapture : (part.isCapture && !c.worker) = true
    · left
      unfold World.act
      dsimp only
      rw [if_pos hcapture, ite_self]
    · exact .inr ⟨hcalls, act_collections setup w index c part hcalls hcapture⟩
  · left
    obtain ⟨pending, hpending⟩ := not_forall.mp hcalls
    obtain ⟨hcontinues, hmissing⟩ := Classical.not_imp.mp hpending
    unfold World.act
    rw [if_pos (by simpa [hcontinues] using hmissing)]

theorem step_collections (h : (w.step setup a).collections[index]? = some after) :
    (∃ c, w.collections[index]? = some c ∧ StepsTo setup w a index c after) ∨
      ∃ sessionId sourceKind pseudonym, after = createSession sessionId sourceKind pseudonym := by
  cases a with
  | create sessionId sourceKind pseudonym =>
    simp only [World.step] at h
    split at h
    · rcases Nat.lt_or_ge index w.collections.length with hlt | hge
      · rw [List.getElem?_append_left hlt] at h
        exact .inl ⟨after, h, .stays⟩
      · rw [List.getElem?_append_right hge] at h
        exact .inr ⟨sessionId, sourceKind, pseudonym, List.mem_singleton.mp (List.mem_of_getElem? h)⟩
    · exact .inl ⟨after, h, .stays⟩
  | act acted part =>
    simp only [World.step] at h
    split at h
    · next c hrunning hfound =>
      rcases act_cases setup w acted part c with hsame | ⟨hcalls, hset⟩
      · rw [hsame] at h
        exact .inl ⟨after, h, .stays⟩
      · rw [hset, List.getElem?_set] at h
        by_cases hindex : acted = index
        · subst hindex
          rw [if_pos rfl] at h
          split at h
          · obtain rfl := Option.some.inj h
            exact .inl ⟨c, hfound, .performs part rfl hrunning hcalls⟩
          · cases h
        · rw [if_neg hindex] at h
          exact .inl ⟨after, h, .stays⟩
    · exact .inl ⟨after, h, .stays⟩
  | restart fault =>
    simp only [World.step, List.getElem?_map, Option.map_eq_some_iff] at h
    obtain ⟨c, hfound, rfl⟩ := h
    exact .inl ⟨c, hfound, .restarts fault rfl⟩

theorem step_follows (setup : Setup) (a : Action) (h : w.collections[index]? = some c) :
    ∃ after, (w.step setup a).collections[index]? = some after ∧ StepsTo setup w a index c after := by
  obtain ⟨hlt, -⟩ := List.getElem?_eq_some_iff.mp h
  cases a with
  | create sessionId sourceKind pseudonym =>
    refine ⟨c, ?_, .stays⟩
    simp only [World.step]
    split
    · rw [List.getElem?_append_left hlt]
      exact h
    · exact h
  | act acted part =>
    simp only [World.step]
    split
    · next other hrunning hfound =>
      rcases act_cases setup w acted part other with hsame | ⟨hcalls, hset⟩
      · exact ⟨c, by rw [hsame, h], .stays⟩
      · rw [hset, List.getElem?_set]
        by_cases hindex : acted = index
        · subst hindex
          rw [if_pos rfl, if_pos hlt]
          obtain rfl := Option.some.inj (h.symm.trans hfound)
          exact ⟨_, rfl, .performs part rfl hrunning hcalls⟩
        · rw [if_neg hindex]
          exact ⟨c, h, .stays⟩
    · exact ⟨c, h, .stays⟩
  | restart fault =>
    refine ⟨_, ?_, .restarts fault rfl⟩
    simp [World.step, List.getElem?_map, h]

theorem collections_invariant {guard : World → Action → Prop} {P : Collection → Prop}
    (hcreate : ∀ sessionId sourceKind pseudonym, P (createSession sessionId sourceKind pseudonym))
    (hstep : ∀ w a index c after, ReachableBy (service setup) guard w → guard w a → w.collections[index]? = some c →
      P c → StepsTo setup w a index c after → P after)
    (h : ReachableBy (service setup) guard w) : ∀ c ∈ w.collections, P c := by
  induction h with
  | init hinit =>
    rw [show _ = _ from hinit]
    simp
  | step hreach hguard hnext ih =>
    intro after hafter
    rw [← show _ = _ from hnext] at hafter
    obtain ⟨index, hindex⟩ := List.mem_iff_getElem?.mp hafter
    rcases step_collections hindex with ⟨c, hfound, hsteps⟩ | ⟨sessionId, sourceKind, pseudonym, rfl⟩
    · exact hstep _ _ index c after hreach hguard hfound (ih c (List.mem_of_getElem? hfound)) hsteps
    · exact hcreate _ _ _

theorem collections_later {R : Collection → Collection → Prop} (hrefl : ∀ c, R c c)
    (htrans : ∀ {a b c}, R a b → R b c → R a c) (hreach : Reachable (service setup) w)
    (hstep : ∀ w a index c after, Reachable (service setup) w → w.collections[index]? = some c →
      StepsTo setup w a index c after → R c after)
    {w' : World} (hlater : Later (service setup) w w') (hfound : w.collections[index]? = some c) :
    ∃ after, w'.collections[index]? = some after ∧ R c after := by
  induction hlater with
  | refl => exact ⟨c, hfound, hrefl c⟩
  | tail hbegins hnext ih =>
    obtain ⟨middle, hmiddle, hrelated⟩ := ih
    obtain ⟨a, rfl⟩ := hnext
    obtain ⟨after, hafter, hsteps⟩ := step_follows setup a hmiddle
    exact ⟨after, hafter, htrans hrelated (hstep _ a index middle after (Later.reachable hbegins hreach) hmiddle hsteps)⟩

end PduExamObserver.ResearchRuntime
