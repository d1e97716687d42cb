import PduExamObserver.ResearchRuntime.Export
import PduExamObserver.ResearchRuntime.WithdrawnOnce

/-! # The exports of a withdrawn session

`export_allowlisted` gives the lock up between its two sections, and the second one does not look at the state again. A
withdrawal in between has listed the exports without the one that is still to come. -/

namespace PduExamObserver.ResearchRuntime
open Stateful Transition
set_option autoImplicit false

variable {α : Type} {setup : Setup} {w w' : World} {a : Action} {index : Nat} {c after : Collection}

/-- Nothing withdraws a session while a call of `export_allowlisted` for it is between its two sections. -/
def NoExportInFlight (w : World) : Action → Prop
  | .act index (.finishWithdraw _ _) => (index, Pending.export) ∉ w.calls
  | .act index (.withdrawTestArtifacts _) => (index, Pending.export) ∉ w.calls
  | _ => True

instance (w : World) (a : Action) : Decidable (NoExportInFlight w a) := by
  cases a with
  | act index part =>
    cases part with
    | finishWithdraw | withdrawTestArtifacts => exact decidable_of_iff _ (not_congr List.contains_iff_mem)
    | _ => exact .isTrue trivial
  | _ => exact .isTrue trivial

/-! ## What annotation leaves alone -/

def Collection.SameFollowUp (c after : Collection) : Prop :=
  after.session.exports = c.session.exports ∧ after.session.withdrawalTasks = c.session.withdrawalTasks

namespace Collection.SameFollowUp

theorem refl (c : Collection) : c.SameFollowUp c := ⟨rfl, rfl⟩

theorem trans {a b c : Collection} (hab : a.SameFollowUp b) (hbc : b.SameFollowUp c) : a.SameFollowUp c :=
  ⟨hbc.1.trans hab.1, hbc.2.trans hab.2⟩

end Collection.SameFollowUp

instance : IsPreorder Collection Collection.SameFollowUp where
  refl := .refl
  trans _ _ _ h h' := h.trans h'

abbrev KeepsFollowUp (x : Op α) : Prop := Keeps Collection.SameFollowUp x

theorem KeepsFollowUp.bind {β : Type} {x : Op α} {f : α → Op β} (hx : KeepsFollowUp x) (hf : ∀ a, KeepsFollowUp (f a)) :
    KeepsFollowUp (x >>= f) := Keeps.bind hx hf

theorem KeepsFollowUp.ite {p : Prop} [Decidable p] {x y : Op α} (hx : p → KeepsFollowUp x) (hy : ¬ p → KeepsFollowUp y) :
    KeepsFollowUp (if p then x else y) := Keeps.ite hx hy

theorem KeepsFollowUp.locked {x : Op α} (hx : KeepsFollowUp x) : KeepsFollowUp (locked x) :=
  Keeps.transaction (fun _ _ _ => ⟨rfl, rfl⟩) hx

theorem KeepsFollowUp.review (setup : Setup) (request : ReviewRequest) : KeepsFollowUp (review setup request) := by
  have hliftExcept (result : Except RuntimeError Int) : KeepsFollowUp (liftExcept result) := by
    intro c
    cases result <;> exact .refl c
  have hreviewed (row : Session) : KeepsFollowUp (reviewedEvent row request) := by
    unfold reviewedEvent
    split <;> exact fun _ => ⟨rfl, rfl⟩
  unfold ResearchRuntime.review
  split
  · refine .ite (fun _ => .throw _) fun _ => .locked (.bind (.requireState _) fun row => .ite (fun _ => .throw _)
      fun _ => .ite (fun _ => .throw _) fun _ => .bind (fun _ => ⟨rfl, rfl⟩) fun _ => .bind (hliftExcept _) fun _ =>
      .ite (fun _ => .throw _) fun _ => .bind (hreviewed row) fun eventId => .bind (fun _ => ⟨rfl, rfl⟩) fun _ => ?_)
    exact .ite (fun _ _ => ⟨rfl, rfl⟩) fun _ => .throw _
  · exact .throw _

theorem KeepsFollowUp.lock : KeepsFollowUp lock := by
  refine .locked (.bind (.requireState _) fun _ => .ite (fun _ => .return _) fun _ => .ite (fun _ => .throw _)
    fun _ => .ite (fun _ => .throw _) fun _ => ?_)
  exact fun _ => ⟨rfl, rfl⟩

/-! ## The calls in flight -/

theorem export_in_flight (hcall : (index, Pending.export) ∈ (w.step setup a).calls) :
    (index, Pending.export) ∈ w.calls ∨ ∃ env, a = .act index (.beginExport env) ∧
      ∃ c, w.collections[index]? = some c ∧ c.session.state = .sealed := by
  cases a with
  | create sessionId sourceKind pseudonym =>
    simp only [World.step] at hcall
    split at hcall <;> exact .inl hcall
  | restart fault => cases hcall
  | act acted part =>
    simp only [World.step] at hcall
    split at hcall
    · next c hrunning hfound =>
      unfold World.act at hcall
      dsimp only at hcall
      split at hcall
      · exact .inl hcall
      split at hcall
      · exact .inl hcall
      have hkept {calls : List (Nat × Pending)} (call : Option (Nat × Pending)) (hsub : calls ⊆ w.calls)
          (hmem : (index, Pending.export) ∈ calls ++ call.toList) :
          (index, Pending.export) ∈ w.calls ∨ call = some (index, Pending.export) :=
        (List.mem_append.mp hmem).imp (fun hold => hsub hold) Option.mem_toList.mp
      split at hcall
      · next pending after hrun =>
        rcases hkept _ (by split <;> simp [List.erase_subset]) hcall with hold | hnew
        · exact .inl hold
        · obtain ⟨rfl, rfl⟩ : acted = index ∧ pending = some .export := by
            cases pending with
            | none => cases hnew
            | some pending => simpa using hnew
          right
          cases part with
          | beginExport env =>
            refine ⟨env, rfl, c, hfound, ?_⟩
            obtain ⟨_, middle, hbegin, -⟩ := run_bind_eq_ok hrun
            obtain ⟨row, _, hstate, -⟩ := run_bind_eq_ok hbegin
            simpa using (requireState_eq_ok hstate).1
          | beginStop =>
            obtain ⟨_, _, -, h⟩ := run_bind_eq_ok hrun
            cases h
          | beginWithdraw reference answer =>
            obtain ⟨_, _, -, h⟩ := run_bind_eq_ok hrun
            cases h
          | _ =>
            obtain ⟨_, _, -, h⟩ := run_bind_eq_ok hrun
            cases h
      · next e after hrun =>
        rcases hkept none (by split <;> simp [List.erase_subset]) (List.mem_append_left _ hcall) with hold | hnew
        · exact .inl hold
        · cases hnew
    · exact .inl hcall

/-! ## Steps -/

inductive FollowsUp (w : World) (a : Action) (index : Nat) (c after : Collection) : Prop
  | quiet (same : c.SameFollowUp after) (receipts : after.session.withdrawals = c.session.withdrawals)
      (sourceKind : after.session.sourceKind = c.session.sourceKind) (fresh : c.fresh ≤ after.fresh)
      (stays : c.session.state = .withdrawn ∨ c.session.state = .failed →
        after.session.state = .withdrawn ∨ after.session.state = .failed)
      (withdrawn : after.session.state = .withdrawn → c.session.state = .withdrawn ∨
        c.session.sourceKind ≠ .real ∧ ∃ fault, a = .act index (.withdrawTestArtifacts fault))
  | exports (acts : a = .act index .finishExport) (flight : (index, Pending.export) ∈ w.calls)
      (added : after.session.exports = c.session.exports ++ [c.fresh])
      (tasks : after.session.withdrawalTasks = c.session.withdrawalTasks)
      (receipts : after.session.withdrawals = c.session.withdrawals)
      (sourceKind : after.session.sourceKind = c.session.sourceKind) (state : after.session.state = c.session.state)
      (fresh : c.fresh < after.fresh)
  | withdraws (call : WithdrawCall) (env : RemovalEnv) (receipt : WithdrawalReceipt)
      (acts : a = .act index (.finishWithdraw call env)) (kept : after.session.exports = c.session.exports)
      (tasks : after.session.withdrawalTasks =
        c.session.withdrawalTasks ++ c.session.exports.filter (· ∉ c.session.withdrawalTasks))
      (receipts : after.session.withdrawals = c.session.withdrawals ++ [receipt])
      (count : receipt.exportCount = c.session.exports.length)
      (sourceKind : after.session.sourceKind = c.session.sourceKind) (state : after.session.state = .withdrawn)
      (fresh : c.fresh ≤ after.fresh)

theorem finishWithdraw_followsUp (setup : Setup) (w : World) (call : WithdrawCall) (env : RemovalEnv) (c : Collection) :
    FollowsUp w (.act index (.finishWithdraw call env)) index c (final ((finishWithdraw setup call env).run c)) := by
  rcases finishWithdraw_cases setup call env c with
    ⟨failureCode, hrun, -⟩ | hrun | ⟨removed, hremoves, hrun, -⟩ | ⟨inventory, removed, hinventory, hremoves, hrun⟩
  · rw [hrun]
    exact .quiet ⟨rfl, rfl⟩ (withdrawals_logged _ rfl) rfl (Nat.le_succ _) (fun _ => .inr rfl) nofun
  · rw [hrun]
    exact .quiet ⟨rfl, rfl⟩ rfl rfl (Nat.le_refl _) id .inl
  · rw [hrun]
    exact .quiet ⟨rfl, rfl⟩ rfl rfl (le_of_eq hremoves.fresh.symm) id .inl
  · rw [hrun]
    have hsession : removed.session = c.session := hremoves.session
    have hfresh : removed.fresh = c.fresh := hremoves.fresh
    have hexports : removed.session.exports = c.session.exports := by rw [hsession]
    have hsourceKind : removed.session.sourceKind = c.session.sourceKind := by rw [hsession]
    refine .withdraws call env ⟨call.authorityReference, call.withdrawalAuthoritySha256, call.decision,
      removed.session.exports.length, inventory⟩ rfl hexports ?_ ?_ (congrArg List.length hexports) hsourceKind rfl
      (by rw [← hfresh]; exact Nat.le_succ _)
    · rw [← hsession]
      rfl
    · rw [← hsession]
      simp [Collection.withdrawn, Collection.logged, List.filterMap_append, Event.withdrawal?, Session.withdrawals]

theorem withdrawTestArtifacts_followsUp (setup : Setup) (w : World) (fault : Option Fault) (c : Collection) :
    FollowsUp w (.act index (.withdrawTestArtifacts fault)) index c
      (final ((withdrawTestArtifacts setup fault).run c)) := by
  rcases withdrawTestArtifacts_cases setup fault c with
    ⟨e, removed, hrun, hremoves, -⟩ | ⟨removed, hrun, hremoves, hreal, -⟩
  · rw [hrun]
    have hsession : removed.session = c.session := hremoves.session
    refine .quiet ⟨congrArg Session.exports hsession, congrArg Session.withdrawalTasks hsession⟩
      (congrArg Session.withdrawals hsession) (congrArg Session.sourceKind hsession) (le_of_eq hremoves.fresh.symm)
      (fun h => ?_) fun h => .inl ?_
    · exact hsession ▸ h
    · exact hsession ▸ h
  · rw [hrun]
    have hsession : removed.session = c.session := hremoves.session
    have hfresh : removed.fresh = c.fresh := hremoves.fresh
    have hsame : c.SameFollowUp removed := ⟨congrArg Session.exports hsession, congrArg Session.withdrawalTasks hsession⟩
    have hreceipts : removed.session.withdrawals = c.session.withdrawals := congrArg Session.withdrawals hsession
    have hsourceKind : removed.session.sourceKind = c.session.sourceKind := by rw [hsession]
    exact .quiet hsame ((withdrawals_logged _ rfl).trans hreceipts) hsourceKind
      (by rw [← hfresh]; exact Nat.le_succ _) (fun _ => .inl rfl) fun _ => .inr ⟨hreal, fault, rfl⟩

theorem recover_followsUp (w : World) (fault : Option Fault) (c : Collection) :
    FollowsUp w a index c (recover fault c.restarted) := by
  rcases recover_cases fault c with hrun | ⟨hstate, moved, hmoved, hrun | hrun⟩
  · rw [hrun]
    exact .quiet ⟨rfl, rfl⟩ rfl rfl (Nat.le_refl _) id .inl
  all_goals
    rw [hrun]
    have hsession : moved.session = c.session := hmoved.session
    have hfresh : moved.fresh = c.fresh := hmoved.fresh
    have hsame : c.SameFollowUp moved := ⟨congrArg Session.exports hsession, congrArg Session.withdrawalTasks hsession⟩
    have hreceipts : moved.session.withdrawals = c.session.withdrawals := congrArg Session.withdrawals hsession
    have hsourceKind : moved.session.sourceKind = c.session.sourceKind := by rw [hsession]
  · exact .quiet hsame hreceipts hsourceKind (le_of_eq hfresh.symm) (fun h => hsession ▸ h) fun h => .inl (hsession ▸ h)
  · exact .quiet hsame ((withdrawals_logged _ rfl).trans hreceipts) hsourceKind (by rw [← hfresh]; exact Nat.le_succ _)
      (fun _ => .inr rfl) nofun

theorem notes_followsUp (hnotes : c.Notes after) (hsame : c.SameFollowUp after) : FollowsUp w a index c after :=
  .quiet hsame hnotes.withdrawals hnotes.sourceKind hnotes.tracks.fresh (fun h => by rwa [hnotes.state])
    fun h => .inl (by rwa [← hnotes.state])

theorem steps_followsUp (hsteps : StepsTo setup w a index c after) (hsound : c.Sound) : FollowsUp w a index c after := by
  have hreturn := fun x : Op Unit => final_returnNone x c
  cases hsteps with
  | stays => exact .quiet ⟨rfl, rfl⟩ rfl rfl (Nat.le_refl _) id .inl
  | restarts fault ha => exact recover_followsUp w fault c
  | performs part ha hrunning hcalls =>
    subst ha
    cases hcollects : part.collects with
    | true =>
      have hworks : c.Works (final ((perform setup w.active part).run c)) := collects_perform w.active hcollects c
      refine .quiet ⟨hworks.session.exports, hworks.session.withdrawalTasks⟩ (hworks.withdrawals hsound.linked)
        hworks.session.sourceKind hworks.tracks.fresh (fun h => ?_) fun h => .inl (hworks.state h)
      have hover : c.session.state.isOver = true := by rcases h with h | h <;> rw [h] <;> rfl
      have hkept : (final ((perform setup w.active part).run c)).session = c.session :=
        collects_over w.active hcollects hover
      rwa [hkept]
    | false =>
      cases part with
      | review request =>
        exact notes_followsUp ((TakesNotes.bind (.review setup request) fun _ => .return _) c)
          ((KeepsFollowUp.bind (.review setup request) fun _ => .return _) c)
      | lock =>
        exact notes_followsUp ((TakesNotes.bind .lock fun _ => .return _) c)
          ((KeepsFollowUp.bind .lock fun _ => .return _) c)
      | finishExport => exact .exports rfl (hcalls _ rfl) rfl rfl rfl rfl rfl (Nat.lt_succ_self _)
      | finishWithdraw call env =>
        rw [perform, hreturn]
        exact finishWithdraw_followsUp setup w call env c
      | withdrawTestArtifacts fault =>
        rw [perform, hreturn]
        exact withdrawTestArtifacts_followsUp setup w fault c
      | _ => cases hcollects

/-! ## Runs -/

structure Followed (w : World) (index : Nat) (c : Collection) : Prop where
  idle : c.session.state = .withdrawn ∨ c.session.withdrawals ≠ [] → (index, Pending.export) ∉ w.calls
  ended : c.session.withdrawals ≠ [] → c.session.state = .withdrawn ∨ c.session.state = .failed
  numbered : ∀ exportId ∈ c.session.exports, exportId < c.fresh
  distinct : c.session.exports.Nodup
  once : c.session.withdrawalTasks.Nodup
  tasks : c.session.withdrawals ≠ [] → ∀ exportId ∈ c.session.exports, exportId ∈ c.session.withdrawalTasks
  counted : ∀ receipt ∈ c.session.withdrawals, receipt.exportCount = c.session.exports.length
  recorded : c.session.sourceKind = .real → c.session.state = .withdrawn → c.session.withdrawals ≠ []

namespace Followed

theorem created (w : World) (sessionId : String) (sourceKind : SourceKind) (pseudonym : String)
    (hcalls : (index, Pending.export) ∉ w.calls) : Followed w index (createSession sessionId sourceKind pseudonym) where
  idle _ := hcalls
  ended h := absurd rfl h
  numbered _ h := nomatch h
  distinct := .nil
  once := .nil
  tasks _ _ h := nomatch h
  counted _ h := nomatch h
  recorded _ h := nomatch h

theorem idle_step (h : Followed w index c) (hfound : w.collections[index]? = some c)
    (hcalls : (index, Pending.export) ∉ w.calls)
    (hover : c.session.state = .withdrawn ∨ c.session.withdrawals ≠ [] ∨ ∀ env, a ≠ .act index (.beginExport env)) :
    (index, Pending.export) ∉ (w.step setup a).calls := by
  intro hcall
  rcases export_in_flight hcall with hold | ⟨env, rfl, found, hfound', hsealed⟩
  · exact hcalls hold
  obtain rfl := Option.some.inj (hfound.symm.trans hfound')
  rcases hover with hwithdrawn | hreceipts | hother
  · rw [hwithdrawn] at hsealed
    cases hsealed
  · rcases h.ended hreceipts with hstate | hstate <;> rw [hstate] at hsealed <;> cases hsealed
  · exact hother env rfl

theorem step (h : Followed w index c) (hfound : w.collections[index]? = some c) (hguard : NoExportInFlight w a)
    (hstep : FollowsUp w a index c after) : Followed (w.step setup a) index after := by
  cases hstep with
  | quiet hsame hreceipts hsourceKind hfresh hstays hwithdrawn =>
    refine ⟨fun hafter => ?_, fun hafter => ?_, fun exportId hmem => ?_, ?_, ?_, fun hafter exportId hmem => ?_,
      fun receipt hmem => ?_, fun hreal hstate => ?_⟩
    · rw [hreceipts] at hafter
      rcases hafter with hstate | hsome
      · rcases hwithdrawn hstate with hold | ⟨hreal, fault, rfl⟩
        · exact h.idle_step hfound (h.idle (.inl hold)) (.inl hold)
        · exact h.idle_step hfound hguard (.inr (.inr nofun))
      · exact h.idle_step hfound (h.idle (.inr hsome)) (.inr (.inl hsome))
    · exact hstays (h.ended (hreceipts ▸ hafter))
    · exact (h.numbered exportId (hsame.1 ▸ hmem)).trans_le hfresh
    · exact hsame.1 ▸ h.distinct
    · exact hsame.2 ▸ h.once
    · rw [hsame.2]
      exact h.tasks (hreceipts ▸ hafter) exportId (hsame.1 ▸ hmem)
    · rw [hsame.1]
      exact h.counted receipt (hreceipts ▸ hmem)
    · rw [hreceipts]
      rw [hsourceKind] at hreal
      rcases hwithdrawn hstate with hold | ⟨htest, -⟩
      · exact h.recorded hreal hold
      · exact absurd hreal htest
  | exports ha hflight hadded htasks hreceipts hsourceKind hstate hfresh =>
    subst ha
    have hidle : c.session.withdrawals = [] := not_not.mp fun hsome => h.idle (.inr hsome) hflight
    have hopen : c.session.state ≠ .withdrawn := fun hwithdrawn => h.idle (.inl hwithdrawn) hflight
    rw [hidle] at hreceipts
    refine ⟨fun hafter => ?_, fun hsome => absurd hreceipts hsome, fun exportId hmem => ?_, ?_, ?_,
      fun hsome => absurd hreceipts hsome, fun receipt hmem => ?_, fun _ hwithdrawn => ?_⟩
    · rw [hstate, hreceipts] at hafter
      exact hafter.elim (fun hwithdrawn => absurd hwithdrawn hopen) fun hsome => absurd rfl hsome
    · rw [hadded] at hmem
      rcases List.mem_append.mp hmem with hold | hnew
      · exact (h.numbered exportId hold).trans hfresh
      · rw [List.mem_singleton.mp hnew]
        exact hfresh
    · rw [hadded]
      refine h.distinct.append (List.nodup_singleton _) fun exportId hold hnew => ?_
      have hlt := h.numbered exportId hold
      rw [List.mem_singleton.mp hnew] at hlt
      exact Nat.lt_irrefl _ hlt
    · exact htasks ▸ h.once
    · rw [hreceipts] at hmem
      cases hmem
    · exact absurd (hstate ▸ hwithdrawn) hopen
  | withdraws call env receipt ha hkept htasks hreceipts hcount hsourceKind hstate hfresh =>
    subst ha
    refine ⟨fun _ => h.idle_step hfound hguard (.inr (.inr nofun)), fun _ => .inl hstate, fun exportId hmem => ?_, ?_, ?_,
      fun _ exportId hmem => ?_, fun added hmem => ?_, fun _ _ => ?_⟩
    · exact (h.numbered exportId (hkept ▸ hmem)).trans_le hfresh
    · exact hkept ▸ h.distinct
    · rw [htasks]
      refine h.once.append (h.distinct.filter _) fun exportId hold hnew => ?_
      exact absurd hold (by simpa using (List.mem_filter.mp hnew).2)
    · rw [htasks, List.mem_append, List.mem_filter]
      rw [hkept] at hmem
      by_cases htask : exportId ∈ c.session.withdrawalTasks
      · exact .inl htask
      · exact .inr ⟨hmem, by simpa using htask⟩
    · rw [hkept]
      rw [hreceipts] at hmem
      rcases List.mem_append.mp hmem with hold | hnew
      · exact h.counted added hold
      · rw [List.mem_singleton.mp hnew, hcount]
    · rw [hreceipts]
      simp

end Followed

theorem reachable_calls (h : ReachableBy (service setup) NoExportInFlight w) :
    ∀ index, (index, Pending.export) ∈ w.calls → (w.collections[index]?).isSome := by
  induction h with
  | init hinit =>
    rw [show _ = _ from hinit]
    intro index hcall
    cases hcall
  | @step w w' a hreach hguard hnext ih =>
    rw [← show _ = _ from hnext]
    intro index hcall
    have hthere : (w.collections[index]?).isSome := by
      rcases export_in_flight hcall with hold | ⟨env, -, c, hfound, -⟩
      · exact ih index hold
      · rw [hfound]
        rfl
    obtain ⟨c, hfound⟩ := Option.isSome_iff_exists.mp hthere
    obtain ⟨after, hafter, -⟩ := step_follows setup a hfound
    rw [hafter]
    rfl

theorem reachable_followed (h : ReachableBy (service setup) NoExportInFlight w) :
    ∀ index c, w.collections[index]? = some c → Followed w index c := by
  induction h with
  | init hinit =>
    rw [show _ = _ from hinit]
    intro index c hfound
    cases hfound
  | @step w w' a hreach hguard hnext ih =>
    rw [← show _ = _ from hnext]
    intro index after hafter
    cases hbefore : w.collections[index]? with
    | some c =>
      rcases step_collections hafter with ⟨found, hfound, hsteps⟩ | ⟨sessionId, sourceKind, pseudonym, rfl⟩
      · have hsound := reachable_sound hreach.reachable found (List.mem_of_getElem? hfound)
        exact (ih index found hfound).step hfound hguard (steps_followsUp hsteps hsound)
      · obtain ⟨followed, hfollowed, hsteps⟩ := step_follows setup a hbefore
        have hsound := reachable_sound hreach.reachable c (List.mem_of_getElem? hbefore)
        obtain rfl := Option.some.inj (hafter.symm.trans hfollowed)
        exact (ih index c hbefore).step hbefore hguard (steps_followsUp hsteps hsound)
    | none =>
      have hcalls : (index, Pending.export) ∉ (w.step setup a).calls := by
        intro hcall
        rcases export_in_flight hcall with hold | ⟨env, -, c, hfound, -⟩
        · rw [Option.isSome_iff_exists.mp (reachable_calls hreach index hold) |>.choose_spec] at hbefore
          cases hbefore
        · rw [hbefore] at hfound
          cases hfound
      rcases step_collections hafter with ⟨found, hfound, -⟩ | ⟨sessionId, sourceKind, pseudonym, rfl⟩
      · rw [hbefore] at hfound
        cases hfound
      · exact .created _ _ _ _ hcalls

theorem exports_later (hreach : Reachable (service setup) w) {w' : World} (hlater : Later (service setup) w w')
    (hfound : w.collections[index]? = some c) :
    ∃ after, w'.collections[index]? = some after ∧ c.session.exports <+: after.session.exports := by
  let keeps (c after : Collection) : Prop := c.session.exports <+: after.session.exports
  have htrans : ∀ {a b c : Collection}, keeps a b → keeps b c → keeps a c := fun hab hbc => List.IsPrefix.trans hab hbc
  refine collections_later (R := keeps) (fun c => List.prefix_refl c.session.exports) htrans hreach ?_ hlater hfound
  intro w a index c after hreach hfound hsteps
  show c.session.exports <+: after.session.exports
  cases steps_followsUp hsteps (reachable_sound hreach c (List.mem_of_getElem? hfound)) with
  | quiet hsame => rw [hsame.1]
  | exports ha hflight hadded => exact ⟨[c.fresh], hadded.symm⟩
  | withdraws call env receipt ha hkept => rw [hkept]

theorem finishExport_step (hrunning : w.running = true) (hfound : w.collections[index]? = some c)
    (hflight : (index, Pending.export) ∈ w.calls) :
    ∃ after, (w.step setup (.act index .finishExport)).collections[index]? = some after ∧
      after.session.exports = c.session.exports ++ [c.fresh] := by
  have hcalls : ∀ pending, Section.finishExport.continues = some pending → (index, pending) ∈ w.calls := by
    rintro pending hcontinues
    obtain rfl := Option.some.inj hcontinues
    exact hflight
  obtain ⟨hlt, -⟩ := List.getElem?_eq_some_iff.mp hfound
  have hstep : w.step setup (.act index .finishExport) = w.act setup index .finishExport c := by
    simp only [World.step, hrunning, hfound]
  rw [hstep, act_collections setup w index c .finishExport hcalls (by simp [Section.isCapture]), List.getElem?_set,
    if_pos rfl, if_pos hlt]
  exact ⟨_, rfl, rfl⟩

/-- In every run in which nothing withdraws a session while an export of it is between its sections: the bundle of an
export goes out of a session that is not withdrawn, its row is new and stays, a withdrawn session has one follow-up task
for each of its exports and counts them all in each receipt, and no real session is withdrawn without a receipt. -/
theorem export_followed_up (setup : Setup) : ∀ w, ReachableBy (service setup) NoExportInFlight w →
    ∀ (index : Nat) (c : Collection), w.collections[index]? = some c →
    ((index, Pending.export) ∈ w.calls → c.session.state ≠ .withdrawn ∧ c.session.withdrawals = [] ∧
      (w.running = true → ∃ after, (w.step setup (.act index .finishExport)).collections[index]? = some after ∧
        after.session.exports = c.session.exports ++ [c.fresh] ∧ c.fresh ∉ c.session.exports)) ∧
    (∀ w', Later (service setup) w w' →
      ∃ after, w'.collections[index]? = some after ∧ c.session.exports <+: after.session.exports) ∧
    (c.session.withdrawals ≠ [] → (∀ exportId ∈ c.session.exports, c.session.withdrawalTasks.count exportId = 1) ∧
      ∀ receipt ∈ c.session.withdrawals, receipt.exportCount = c.session.exports.length) ∧
    (c.session.sourceKind = .real → c.session.state = .withdrawn → c.session.withdrawals ≠ []) := by
  intro w hreach index c hfound
  have hfollowed := reachable_followed hreach index c hfound
  refine ⟨fun hflight => ⟨fun hstate => hfollowed.idle (.inl hstate) hflight,
    not_not.mp fun hsome => hfollowed.idle (.inr hsome) hflight, fun hrunning => ?_⟩, fun w' hlater => ?_,
    fun hsome => ⟨fun exportId hmem => ?_, hfollowed.counted⟩, hfollowed.recorded⟩
  · obtain ⟨after, hafter, hadded⟩ := finishExport_step hrunning hfound hflight
    exact ⟨after, hafter, hadded, fun hmem => Nat.lt_irrefl _ (hfollowed.numbered _ hmem)⟩
  · exact exports_later hreach.reachable hlater hfound
  · exact List.count_eq_one_of_mem hfollowed.once (hfollowed.tasks hsome exportId hmem)

namespace Sample

/-- The sample run with a locked session and a call of `export_allowlisted` in flight. -/
def exporting : List Action :=
  annotations .confirmed .confirmed ++
    [.act 0 (.beginExport { authority := answer, exportNow := 1, built := .ok () })]

/-- A call of `withdraw`, both sections. -/
def withdrawal : List Action := [.act 0 (.beginWithdraw "A" answer), withdrawing false]

end Sample

/-- The sample session is withdrawn between the two sections of an export: the bundle goes out of a withdrawn session,
without a follow-up, and the receipt counts no export. -/
theorem export_not_followed_up :
    ∃ c ∈ (Sample.run (Sample.exporting ++ Sample.withdrawal)).collections, c.session.state = .withdrawn ∧
      (0, Pending.export) ∈ (Sample.run (Sample.exporting ++ Sample.withdrawal)).calls ∧
      ∃ after ∈ (Sample.run (Sample.exporting ++ Sample.withdrawal ++ [.act 0 .finishExport])).collections,
        after.session.state = .withdrawn ∧ after.session.exports ≠ [] ∧ after.session.withdrawalTasks = [] ∧
        after.session.withdrawals.map WithdrawalReceipt.exportCount = [0] := by
  decide +kernel

/-- An export of the sample session that ends before the withdrawal. -/
theorem export_followed_up_sample :
    ∃ c, (Sample.run (Sample.exporting ++ [.act 0 .finishExport] ++ Sample.withdrawal)).collections[0]? = some c ∧
      c.session.exports ≠ [] ∧ ∀ exportId ∈ c.session.exports, c.session.withdrawalTasks.count exportId = 1 := by
  have hguarded : Guarded (World.step Sample.setup) NoExportInFlight {}
      (Sample.exporting ++ [.act 0 .finishExport] ++ Sample.withdrawal) := by decide +kernel
  have hsample : ∃ c, (Sample.run (Sample.exporting ++ [.act 0 .finishExport] ++ Sample.withdrawal)).collections[0]? =
      some c ∧ c.session.exports ≠ [] ∧ c.session.withdrawals ≠ [] := by
    have hsome : ((Sample.run (Sample.exporting ++ [.act 0 .finishExport] ++ Sample.withdrawal)).collections[0]?).any
        (fun c => c.session.exports ≠ [] ∧ c.session.withdrawals ≠ []) = true := by decide +kernel
    cases hfound : (Sample.run (Sample.exporting ++ [.act 0 .finishExport] ++ Sample.withdrawal)).collections[0]? with
    | none =>
      rw [hfound] at hsome
      cases hsome
    | some c =>
      rw [hfound] at hsome
      exact ⟨c, rfl, by simpa using hsome⟩
  obtain ⟨c, hfound, hexports, hreceipts⟩ := hsample
  exact ⟨c, hfound, hexports,
    ((export_followed_up Sample.setup _ (reachableBy_foldl _ (.init rfl) hguarded) 0 c hfound).2.2.1 hreceipts).1⟩

end PduExamObserver.ResearchRuntime
