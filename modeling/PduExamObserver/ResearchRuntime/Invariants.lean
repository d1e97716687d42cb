import PduExamObserver.ResearchRuntime.Removal

/-! # What holds of every session

The links between events and memory, the names of the files and of the records, and the timeline of an open stream,
in every state of every run. -/

namespace PduExamObserver.ResearchRuntime
open Stateful Transition
set_option autoImplicit false

variable {α : Type} {setup : Setup} {w : World} {a : Action} {index : Nat} {c after : Collection}

/-! ## Sections that take notes -/

structure Collection.Notes (c after : Collection) : Prop where
  state : after.session.state = c.session.state
  sourceKind : after.session.sourceKind = c.session.sourceKind
  frameSeq : after.session.frameSeq = c.session.frameSeq
  artifacts : after.session.artifacts = c.session.artifacts
  withdrawals : after.session.withdrawals = c.session.withdrawals
  memory : after.memory = c.memory
  directory : after.directory = c.directory
  tracks : c.Tracks after

namespace Collection.Notes

theorem refl (c : Collection) : c.Notes c := ⟨rfl, rfl, rfl, rfl, rfl, rfl, rfl, .refl c⟩

theorem trans {a b c : Collection} (hab : a.Notes b) (hbc : b.Notes c) : a.Notes c where
  state := hbc.state.trans hab.state
  sourceKind := hbc.sourceKind.trans hab.sourceKind
  frameSeq := hbc.frameSeq.trans hab.frameSeq
  artifacts := hbc.artifacts.trans hab.artifacts
  withdrawals := hbc.withdrawals.trans hab.withdrawals
  memory := hbc.memory.trans hab.memory
  directory := hbc.directory.trans hab.directory
  tracks := hab.tracks.trans hbc.tracks

theorem rollback (h : c.Notes after) : c.Notes (c.rollback after) :=
  ⟨rfl, rfl, rfl, rfl, rfl, h.memory, h.directory, h.tracks.rollback⟩

theorem row (c : Collection) {changes : Session → Session} (hstate : (changes c.session).state = c.session.state)
    (hsourceKind : (changes c.session).sourceKind = c.session.sourceKind)
    (hframeSeq : (changes c.session).frameSeq = c.session.frameSeq)
    (hartifacts : (changes c.session).artifacts = c.session.artifacts)
    (hevents : (changes c.session).events = c.session.events) :
    c.Notes { c with session := changes c.session } :=
  ⟨hstate, hsourceKind, hframeSeq, hartifacts, by rw [Session.withdrawals, hevents, ← Session.withdrawals], rfl, rfl, .of_eq rfl hevents rfl⟩

theorem logged (c : Collection) {body : EventBody}
    (hrefers : c.Linked → ∀ eventId, body.refers = some eventId → eventId < c.fresh)
    (hbody : Event.withdrawal? ⟨c.fresh, c.session.nextSeq, body⟩ = none) : c.Notes (c.logged body) where
  state := rfl
  sourceKind := rfl
  frameSeq := rfl
  artifacts := rfl
  withdrawals := by simp [Session.withdrawals, Collection.logged, List.filterMap_append, hbody]
  memory := rfl
  directory := rfl
  tracks := .logged c body hrefers

theorem drawn (c : Collection) : c.Notes { c with fresh := c.fresh + 1 } := by
  refine ⟨rfl, rfl, rfl, rfl, rfl, rfl, rfl, Nat.le_succ _, fun entry h => .inl h, fun h => ⟨?_, ?_, h.observable, h.log⟩⟩
  · exact fun e he => (h.event e he).trans (Nat.lt_succ_self _)
  · exact fun entry hentry => (h.logical entry hentry).trans (Nat.lt_succ_self _)

theorem attached (h : c.Notes after) (hattached : c.Attached) : after.Attached := by
  intro hsome
  rw [h.memory] at hsome
  have hfile := hattached hsome
  unfold Collection.hasFile Collection.files at hfile ⊢
  rwa [h.directory]

end Collection.Notes

instance : IsPreorder Collection Collection.Notes where
  refl := .refl
  trans _ _ _ h h' := h.trans h'

abbrev TakesNotes (x : Op α) : Prop := Keeps Collection.Notes x

theorem TakesNotes.bind {β : Type} {x : Op α} {f : α → Op β} (hx : TakesNotes x) (hf : ∀ a, TakesNotes (f a)) :
    TakesNotes (x >>= f) := Keeps.bind hx hf

theorem TakesNotes.ite {p : Prop} [Decidable p] {x y : Op α} (hx : p → TakesNotes x) (hy : ¬ p → TakesNotes y) :
    TakesNotes (if p then x else y) := Keeps.ite hx hy

theorem TakesNotes.locked {x : Op α} (hx : TakesNotes x) : TakesNotes (locked x) :=
  Keeps.transaction (fun _ _ h => h.rollback) hx

theorem TakesNotes.uuid : TakesNotes uuid := Collection.Notes.drawn

theorem TakesNotes.append {body : EventBody} (hrefers : body.refers = none)
    (hbody : ∀ eventId eventSeq, Event.withdrawal? ⟨eventId, eventSeq, body⟩ = none) : TakesNotes (appendEvent body) :=
  fun c => .logged c (fun _ _ heq => nomatch hrefers.symm.trans heq) (hbody _ _)

theorem TakesNotes.row {changes : Session → Session} (hstate : ∀ row, (changes row).state = row.state)
    (hsourceKind : ∀ row, (changes row).sourceKind = row.sourceKind)
    (hframeSeq : ∀ row, (changes row).frameSeq = row.frameSeq)
    (hartifacts : ∀ row, (changes row).artifacts = row.artifacts) (hevents : ∀ row, (changes row).events = row.events) :
    TakesNotes (updateSession changes) :=
  fun c => Collection.Notes.row c (hstate c.session) (hsourceKind c.session) (hframeSeq c.session)
    (hartifacts c.session) (hevents c.session)

theorem storeReview_notes (row : Session) (request : ReviewRequest) (label : Showcase.Label)
    (reviewStatus : ReviewStatus) {eventId : Nat} (hknown : ∃ e ∈ c.session.events, e.eventId = eventId) :
    c.Notes (final ((storeReview row request label reviewStatus eventId).run c)) := by
  obtain ⟨e, he, rfl⟩ := hknown
  let decision : Review :=
    { reviewId := c.fresh, eventId := e.eventId, label, reviewStatus
      startMs := request.startMs
      endMs := request.endMs
      reason := strip request.reason
      revision := row.revision + 1
      operatorPseudonym := row.operatorPseudonym }
  have hrow := @Collection.Notes.row { c with fresh := c.fresh + 1 }
    (fun old => { old with reviews := old.reviews ++ [decision], revision := decision.revision }) rfl rfl rfl rfl rfl
  refine ((Collection.Notes.drawn c).trans hrow).trans (.logged _ (fun h eventId heq => ?_) rfl)
  obtain rfl := Option.some.inj heq
  exact h.event e he

theorem TakesNotes.reviewedEvent (row : Session) (request : ReviewRequest) : TakesNotes (reviewedEvent row request) := by
  unfold ResearchRuntime.reviewedEvent
  split
  · exact .return _
  · exact .append rfl fun _ _ => rfl

theorem TakesNotes.review (setup : Setup) (request : ReviewRequest) : TakesNotes (review setup request) := by
  unfold ResearchRuntime.review
  split
  · refine .ite (fun _ => .throw _) fun _ => .locked (.bind (.requireState _) fun row => .ite (fun _ => .throw _) fun _ =>
      .ite (fun _ => .throw _) fun _ => .bind .get fun _ => .bind (.liftExcept _) fun _ => .ite (fun _ => .throw _)
      fun _ => .bind (.reviewedEvent row request) fun eventId => fun c => ?_)
    rw [run_bind_ok (EStateM.run_get c)]
    split
    · next hknown =>
      obtain ⟨e, he, hfound⟩ := List.any_eq_true.mp hknown
      have hid : e.eventId = eventId ∧ e.body.isObservable = true := by simpa using hfound
      exact storeReview_notes row request _ _ ⟨e, he, hid.1⟩
    · exact .refl c
  · exact .throw _

theorem TakesNotes.lock : TakesNotes lock :=
  .locked (.bind (.requireState _) fun _ => .ite (fun _ => .return _) fun _ => .ite (fun _ => .throw _) fun _ =>
    .ite (fun _ => .throw _) fun _ =>
    .bind (.row (fun _ => rfl) (fun _ => rfl) (fun _ => rfl) (fun _ => rfl) fun _ => rfl) fun _ =>
    .bind (.append rfl fun _ _ => rfl) fun _ => .return _)

theorem TakesNotes.finishExport : TakesNotes finishExport :=
  .locked (.bind .uuid fun _ => .row (fun _ => rfl) (fun _ => rfl) (fun _ => rfl) (fun _ => rfl) fun _ => rfl)

/-! ## Every session -/

structure Collection.Sound (c : Collection) : Prop where
  linked : c.Linked
  attached : c.session.state.isOver = false → c.Attached
  nodup : c.names.Nodup
  artifacts : ∀ record ∈ c.session.artifacts, record.name ∈ finalNames

namespace Collection.Sound

theorem created (sessionId : String) (sourceKind : SourceKind) (pseudonym : String) :
    (createSession sessionId sourceKind pseudonym).Sound := by
  refine ⟨⟨?_, ?_, ?_, ⟨rfl, List.pairwise_singleton _ _, ?_⟩⟩, fun _ h => ?_, List.nodup_nil, ?_⟩
  · intro e he
    rw [List.mem_singleton.mp he]
    exact Nat.zero_lt_one
  · simp [createSession]
  · simp [createSession]
  · intro e he eventId heq
    rw [List.mem_singleton.mp he] at heq
    cases heq
  · cases h
  · simp [createSession]

theorem works (h : c.Sound) (hworks : c.Works after)
    (hearly : after.session.state.isOver = false → c.session.state.isOver = false) : after.Sound where
  linked := hworks.tracks.linked h.linked
  attached hstate := hworks.attached (h.attached (hearly hstate))
  nodup := hworks.nodup h.nodup
  artifacts record hrecord := (hworks.session.artifacts record hrecord).elim (h.artifacts record) id

theorem notes (h : c.Sound) (hnotes : c.Notes after) : after.Sound where
  linked := hnotes.tracks.linked h.linked
  attached hstate := hnotes.attached (h.attached (hnotes.state ▸ hstate))
  nodup := by
    rw [names_congr hnotes.directory]
    exact h.nodup
  artifacts := by
    rw [hnotes.artifacts]
    exact h.artifacts

theorem logged (h : c.Sound) (body : EventBody) (hrefers : body.refers = none) : (c.logged body).Sound :=
  ⟨(Tracks.logged c body fun _ _ heq => nomatch hrefers.symm.trans heq).linked h.linked, h.attached, h.nodup,
    h.artifacts⟩

theorem refiled (h : c.Sound) (hfresh : after.fresh = c.fresh) (hevents : after.session.events = c.session.events)
    (hartifacts : after.session.artifacts = c.session.artifacts)
    (hlogical : ∀ entry ∈ after.memory.logicalEvents, entry ∈ c.memory.logicalEvents)
    (hstream : after.session.state.isOver = false → after.memory.stream = none) (hnodup : after.names.Nodup) :
    after.Sound where
  linked := by
    refine ⟨?_, fun entry hentry => ?_, fun entry hentry => ?_, by rw [hevents]; exact h.linked.log⟩
    · rw [hevents, hfresh]
      exact h.linked.event
    · rw [hfresh]
      exact h.linked.logical entry (hlogical entry hentry)
    · rw [hevents]
      exact h.linked.observable entry (hlogical entry hentry)
  attached hstate hsome := by
    rw [hstream hstate] at hsome
    cases hsome
  nodup := hnodup
  artifacts := by
    rw [hartifacts]
    exact h.artifacts

end Collection.Sound

theorem Collection.Removes.nodup (h : c.Removes after) (hnodup : c.names.Nodup) : after.names.Nodup :=
  (h.files.map Prod.fst).nodup hnodup

theorem finishWithdraw_sound (setup : Setup) (call : WithdrawCall) (env : RemovalEnv) (h : c.Sound) :
    (final ((finishWithdraw setup call env).run c)).Sound := by
  rcases finishWithdraw_cases setup call env c with
    ⟨failureCode, hrun, -⟩ | hrun | ⟨removed, hremoves, hrun, -⟩ | ⟨inventory, removed, -, hremoves, hrun⟩
  · rw [hrun]
    refine Collection.Sound.logged ?_ _ rfl
    exact h.refiled rfl rfl rfl (fun _ => id) (fun _ => rfl) h.nodup
  · rw [hrun]
    exact h.refiled rfl rfl rfl (fun _ => id) (fun _ => rfl) h.nodup
  · rw [hrun]
    refine h.refiled hremoves.fresh rfl rfl ?_ (fun _ => ?_) (hremoves.nodup h.nodup)
    · exact fun entry hentry => by rwa [Collection.rollback, hremoves.memory] at hentry
    · rw [Collection.rollback, hremoves.memory]
      rfl
  · rw [hrun]
    have hevents : removed.session.events = c.session.events := congrArg Session.events hremoves.session
    have hartifacts : removed.session.artifacts = c.session.artifacts := congrArg Session.artifacts hremoves.session
    refine Collection.Sound.logged ?_ _ rfl
    refine h.refiled hremoves.fresh hevents hartifacts ?_ (fun hstate => ?_) (hremoves.nodup h.nodup)
    · exact fun entry hentry => by rwa [hremoves.memory] at hentry
    · cases hstate

theorem withdrawTestArtifacts_sound (setup : Setup) (fault : Option Fault) (h : c.Sound) :
    (final ((withdrawTestArtifacts setup fault).run c)).Sound := by
  rcases withdrawTestArtifacts_cases setup fault c with ⟨e, removed, hrun, hremoves, hearly⟩ | ⟨removed, hrun, hremoves, -⟩
  · rw [hrun]
    refine ⟨?_, fun hstate => ?_, hremoves.nodup h.nodup, ?_⟩
    · refine (Collection.Tracks.of_eq hremoves.fresh ?_ ?_).linked h.linked
      · exact congrArg Session.events hremoves.session
      · exact congrArg Memory.logicalEvents hremoves.memory
    · rw [final_error, hremoves.session] at hstate
      rw [hearly hstate]
      exact h.attached hstate
    · rw [final_error, hremoves.session]
      exact h.artifacts
  · rw [hrun]
    have hevents : removed.session.events = c.session.events := congrArg Session.events hremoves.session
    have hartifacts : removed.session.artifacts = c.session.artifacts := congrArg Session.artifacts hremoves.session
    refine Collection.Sound.logged ?_ _ rfl
    refine h.refiled hremoves.fresh hevents hartifacts ?_ (fun hstate => ?_) (hremoves.nodup h.nodup)
    · exact fun entry hentry => by rwa [hremoves.memory] at hentry
    · cases hstate

theorem recover_sound (fault : Option Fault) (h : c.Sound) : (recover fault c.restarted).Sound := by
  have hmoved : ∀ moved, c.restarted.Renames moved → moved.Sound := by
    intro moved hmoved
    refine h.refiled hmoved.fresh ?_ ?_ ?_ (fun _ => ?_) (hmoved.nodup h.nodup)
    · exact congrArg Session.events hmoved.session
    · exact congrArg Session.artifacts hmoved.session
    · intro entry hentry
      rw [hmoved.memory] at hentry
      cases hentry
    · rw [hmoved.memory]
      rfl
  rcases recover_cases fault c with hrun | ⟨-, moved, hrenames, hrun | hrun⟩
  · rw [hrun]
    exact hmoved _ (.refl _)
  · rw [hrun]
    exact hmoved moved hrenames
  · rw [hrun]
    have hsound := hmoved moved hrenames
    refine Collection.Sound.logged ?_ _ rfl
    refine hsound.refiled rfl rfl rfl (fun _ => id) (fun hstate => ?_) hsound.nodup
    cases hstate

theorem perform_sound (part : Section) (active : Bool) (h : c.Sound) :
    (final ((perform setup active part).run c)).Sound := by
  have hreturn : ∀ {x : Op Unit}, (final (x.run c)).Sound →
      (final ((do x; return none : Op (Option Pending)).run c)).Sound := by
    intro x hx
    rwa [final_returnNone]
  cases hcollects : part.collects with
  | true =>
    refine h.works (collects_perform active hcollects c) fun hearly => Bool.eq_false_iff.mpr fun hover => ?_
    rw [collects_over active hcollects hover, hover] at hearly
    cases hearly
  | false =>
    cases part with
    | review request =>
      exact h.notes ((TakesNotes.bind (.review setup request) fun _ => .return _) c)
    | lock => exact h.notes ((TakesNotes.bind .lock fun _ => .return _) c)
    | finishExport => exact h.notes ((TakesNotes.bind .finishExport fun _ => .return _) c)
    | finishWithdraw call env => exact hreturn (finishWithdraw_sound setup call env h)
    | withdrawTestArtifacts fault => exact hreturn (withdrawTestArtifacts_sound setup fault h)
    | _ => cases hcollects

theorem steps_sound (hsteps : StepsTo setup w a index c after) (h : c.Sound) : after.Sound := by
  cases hsteps with
  | stays => exact h
  | performs part ha hrunning hcalls => exact perform_sound part w.active h
  | restarts fault ha => exact recover_sound fault h

theorem reachable_sound (h : Reachable (service setup) w) : ∀ c ∈ w.collections, c.Sound :=
  collections_invariant Collection.Sound.created (fun _ _ _ _ _ _ _ _ hsound hsteps => steps_sound hsteps hsound) h

/-! ## The names of a recording -/

theorem finishWithdraw_names (setup : Setup) (call : WithdrawCall) (env : RemovalEnv)
    (hearly : (final ((finishWithdraw setup call env).run c)).session.state.isOver = false) :
    c.session.state.isOver = false ∧ ∀ name ∈ (final ((finishWithdraw setup call env).run c)).names, name ∈ c.names := by
  rcases finishWithdraw_cases setup call env c with
    ⟨failureCode, hrun, -⟩ | hrun | ⟨removed, hremoves, hrun, -⟩ | ⟨inventory, removed, -, -, hrun⟩
  · rw [hrun] at hearly
    cases hearly
  · rw [hrun] at hearly ⊢
    exact ⟨hearly, fun _ => id⟩
  · rw [hrun] at hearly ⊢
    exact ⟨hearly, fun name hname => (hremoves.files.map Prod.fst).subset hname⟩
  · rw [hrun] at hearly
    cases hearly

theorem withdrawTestArtifacts_names (setup : Setup) (fault : Option Fault)
    (hearly : (final ((withdrawTestArtifacts setup fault).run c)).session.state.isOver = false) :
    final ((withdrawTestArtifacts setup fault).run c) = c := by
  rcases withdrawTestArtifacts_cases setup fault c with ⟨e, removed, hrun, hremoves, hsame⟩ | ⟨removed, hrun, -⟩
  · rw [hrun, final_error] at hearly ⊢
    rw [hremoves.session] at hearly
    exact hsame hearly
  · rw [hrun] at hearly
    cases hearly

theorem perform_names (part : Section) (active : Bool)
    (hearly : (final ((perform setup active part).run c)).session.state.isOver = false) :
    c.session.state.isOver = false ∧ ∀ name ∈ (final ((perform setup active part).run c)).names,
      name ∈ c.names ∨ name ∈ finalNames ∨ name ∈ partialNames := by
  have hreturn := fun x : Op Unit => final_returnNone x c
  have hnotes : ∀ {after : Collection}, c.Notes after → after.session.state.isOver = false →
      c.session.state.isOver = false ∧ ∀ name ∈ after.names, name ∈ c.names ∨ name ∈ finalNames ∨ name ∈ partialNames := by
    intro after hnotes hearly
    rw [hnotes.state] at hearly
    rw [names_congr hnotes.directory]
    exact ⟨hearly, fun _ => .inl⟩
  cases hcollects : part.collects with
  | true =>
    refine ⟨Bool.eq_false_iff.mpr fun hover => ?_, (collects_perform active hcollects c).names⟩
    rw [collects_over active hcollects hover, hover] at hearly
    cases hearly
  | false =>
    cases part with
    | review request => exact hnotes ((TakesNotes.bind (.review setup request) fun _ => .return _) c) hearly
    | lock => exact hnotes ((TakesNotes.bind .lock fun _ => .return _) c) hearly
    | finishExport => exact hnotes ((TakesNotes.bind .finishExport fun _ => .return _) c) hearly
    | finishWithdraw call env =>
      rw [perform, hreturn] at hearly ⊢
      obtain ⟨hstate, hnames⟩ := finishWithdraw_names setup call env hearly
      exact ⟨hstate, fun name hname => .inl (hnames name hname)⟩
    | withdrawTestArtifacts fault =>
      rw [perform, hreturn] at hearly ⊢
      have hsame := withdrawTestArtifacts_names setup fault hearly
      rw [hsame] at hearly ⊢
      exact ⟨hearly, fun _ => .inl⟩
    | _ => cases hcollects

theorem running_of_step (setup : Setup) (w : World) (hrestart : ∀ fault, a ≠ .restart fault) (h : (w.step setup a).running = true) :
    w.running = true := by
  cases a with
  | create sessionId sourceKind pseudonym =>
    simp only [World.step] at h
    split at h
    · assumption
    · exact h
  | act index part =>
    simp only [World.step] at h
    split at h
    · assumption
    · exact h
  | restart fault => exact absurd rfl (hrestart fault)

theorem reachable_names (h : Reachable (service setup) w) : ∀ c ∈ w.collections, c.session.state.isOver = false →
    (c.session.state = .recording → w.running = true) → ∀ name ∈ c.names, name ∈ finalNames ∨ name ∈ partialNames := by
  induction h with
  | init hinit =>
    rw [show _ = _ from hinit]
    simp
  | @step w w' a hreach _ hnext ih =>
    rw [← show _ = _ from hnext]
    intro after hafter hearly hrunning
    obtain ⟨index, hindex⟩ := List.mem_iff_getElem?.mp hafter
    by_cases hrestart : ∃ fault, a = .restart fault
    · obtain ⟨fault, rfl⟩ := hrestart
      simp only [World.step, List.getElem?_map, Option.map_eq_some_iff] at hindex
      obtain ⟨c, hfound, rfl⟩ := hindex
      have hmem := List.mem_of_getElem? hfound
      by_cases hstate : c.session.state = .recording
      · obtain ⟨moved, hmoved, hrun, -⟩ := recover_run (c := c.restarted) fault hstate (reachable_sound hreach c hmem).nodup
        cases fault with
        | none =>
          rw [hrun] at hearly
          cases hearly
        | some fault =>
          rw [hrun] at hrunning
          cases hrunning ((congrArg Session.state hmoved.session).trans hstate)
      · have hsame : recover fault c.restarted = c.restarted := if_neg hstate
        rw [hsame] at hearly ⊢
        exact ih c hmem hearly fun h => absurd h hstate
    · have hprocess := running_of_step setup w (fun fault h => hrestart ⟨fault, h⟩)
      rcases step_collections hindex with ⟨c, hfound, hsteps⟩ | ⟨sessionId, sourceKind, pseudonym, rfl⟩
      · have hmem := List.mem_of_getElem? hfound
        cases hsteps with
        | stays => exact ih _ hmem hearly fun h => hprocess (hrunning h)
        | performs part ha hrunning' hcalls =>
          obtain ⟨hbefore, hnames⟩ := perform_names part w.active hearly
          intro name hname
          rcases hnames name hname with hold | hnew
          · exact ih c hmem hbefore (fun _ => hrunning') name hold
          · exact hnew
        | restarts fault ha => exact absurd ⟨fault, ha⟩ hrestart
      · exact fun name hname => absurd hname List.not_mem_nil

end PduExamObserver.ResearchRuntime
