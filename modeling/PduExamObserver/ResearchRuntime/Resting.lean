import PduExamObserver.ResearchRuntime.Invariants

/-! # Sections without frames

What every section but the two that write frames keeps of the timeline: no line is added to a file, and an open stream
stays at its place or is closed. -/

namespace PduExamObserver.ResearchRuntime
open Showcase Stateful
set_option autoImplicit false

variable {α : Type} {setup : Setup} {c after : Collection}

/-! ## Files and streams at rest -/

def SessionState.waits : SessionState → Bool
  | .draft | .preflightReady => true
  | _ => false

structure Collection.Rests (c after : Collection) : Prop where
  frameSeq : after.session.frameSeq = c.session.frameSeq
  sourceKind : after.session.sourceKind = c.session.sourceKind
  stream : after.memory.stream.isSome = true → c.memory.stream.isSome = true
  directory : after.memory.stream.isSome = true → after.directory = c.directory
  contents : ∀ file ∈ after.files, file.2.lines = [] ∨ ∃ old ∈ c.files, file.2.lines = old.2.lines
  recording : after.session.state = .recording →
    c.session.state = .recording ∨ c.session.state.waits = true ∧ c.session.sourceKind = .real
  waiting : after.session.state.waits = true → c.session.state.waits = true

namespace Collection.Rests

theorem refl (c : Collection) : c.Rests c :=
  ⟨rfl, rfl, id, fun _ => rfl, fun file h => .inr ⟨file, h, rfl⟩, .inl, id⟩

theorem trans {a b c : Collection} (hab : a.Rests b) (hbc : b.Rests c) : a.Rests c where
  frameSeq := hbc.frameSeq.trans hab.frameSeq
  sourceKind := hbc.sourceKind.trans hab.sourceKind
  stream := hab.stream ∘ hbc.stream
  directory h := (hbc.directory h).trans (hab.directory (hbc.stream h))
  contents file h := by
    rcases hbc.contents file h with hempty | ⟨middle, hmiddle, heq⟩
    · exact .inl hempty
    · rw [heq]
      exact hab.contents middle hmiddle
  recording h := by
    rcases hbc.recording h with hrecording | ⟨hwaits, hreal⟩
    · exact hab.recording hrecording
    · exact .inr ⟨hab.waiting hwaits, hab.sourceKind ▸ hreal⟩
  waiting := hab.waiting ∘ hbc.waiting

theorem rollback (h : c.Rests after) : c.Rests (c.rollback after) :=
  ⟨rfl, rfl, h.stream, h.directory, h.contents, .inl, id⟩

theorem of_directory (hframeSeq : after.session.frameSeq = c.session.frameSeq)
    (hsourceKind : after.session.sourceKind = c.session.sourceKind)
    (hstream : after.memory.stream.isSome = true → c.memory.stream.isSome = true)
    (hdirectory : after.directory = c.directory)
    (hrecording : after.session.state = .recording →
      c.session.state = .recording ∨ c.session.state.waits = true ∧ c.session.sourceKind = .real)
    (hwaiting : after.session.state.waits = true → c.session.state.waits = true) : c.Rests after where
  frameSeq := hframeSeq
  sourceKind := hsourceKind
  stream := hstream
  directory _ := hdirectory
  contents file h := by
    refine .inr ⟨file, ?_, rfl⟩
    rwa [Collection.files, hdirectory] at h
  recording := hrecording
  waiting := hwaiting

theorem of_emits (h : c.Emits after) : c.Rests after := by
  refine of_directory ?_ ?_ (fun hsome => h.stream ▸ hsome) h.directory (fun hstate => .inl ?_) fun hstate => ?_
  · rw [h.session]
  · rw [h.session]
  · rwa [h.session] at hstate
  · rwa [h.session] at hstate

theorem of_rearranges (h : c.Rearranges after) (hclosed : c.memory.stream = none) : c.Rests after := by
  have hstream : after.memory.stream = none := by rw [h.memory, hclosed]
  refine ⟨h.frameSeq, h.session.sourceKind, fun hsome => ?_, fun hsome => ?_, h.contents, fun hstate => .inl ?_,
    fun hstate => ?_⟩
  · rw [hstream] at hsome
    cases hsome
  · rw [hstream] at hsome
    cases hsome
  · exact h.state ▸ hstate
  · exact h.state ▸ hstate

theorem closed (c : Collection) : c.Rests c.closed :=
  of_directory rfl rfl (fun h => by cases h) rfl .inl id

theorem failed (c : Collection) (failureCode : String) : c.Rests (c.failed failureCode) :=
  of_directory rfl rfl (fun h => by cases h) rfl (fun h => by cases h) fun h => by cases h

end Collection.Rests

/-! ## Operations -/

instance : IsPreorder Collection Collection.Rests where
  refl := .refl
  trans _ _ _ h h' := h.trans h'

abbrev LeavesTimeline (x : Op α) : Prop := Keeps Collection.Rests x

namespace LeavesTimeline

theorem bind {β : Type} {x : Op α} {f : α → Op β} (hx : LeavesTimeline x) (hf : ∀ a, LeavesTimeline (f a)) :
    LeavesTimeline (x >>= f) := Keeps.bind hx hf

theorem locked {x : Op α} (hx : LeavesTimeline x) : LeavesTimeline (locked x) :=
  Keeps.transaction (fun _ _ h => h.rollback) hx

theorem ite {p : Prop} [Decidable p] {x y : Op α} (hx : p → LeavesTimeline x) (hy : ¬ p → LeavesTimeline y) :
    LeavesTimeline (if p then x else y) := Keeps.ite hx hy

theorem tryCatch {x : Op α} {handle : RuntimeError → Op α} (hx : LeavesTimeline x)
    (hhandle : ∀ e, LeavesTimeline (handle e)) : LeavesTimeline (tryCatch x handle) :=
  Keeps.tryCatch hx hhandle

theorem row {changes : Session → Session} (hframeSeq : ∀ row, (changes row).frameSeq = row.frameSeq)
    (hsourceKind : ∀ row, (changes row).sourceKind = row.sourceKind)
    (hrecording : ∀ row, (changes row).state = .recording → row.state = .recording)
    (hwaiting : ∀ row, (changes row).state.waits = true → row.state.waits = true) :
    LeavesTimeline (updateSession changes) :=
  fun c => .of_directory (hframeSeq c.session) (hsourceKind c.session) id rfl (fun h => .inl (hrecording c.session h))
    (hwaiting c.session)

theorem memory {changes : Memory → Memory} (hstream : ∀ memory, (changes memory).stream = memory.stream) :
    LeavesTimeline (updateMemory changes) :=
  fun c => .of_directory rfl rfl (fun h => hstream c.memory ▸ h) rfl .inl id

theorem append (body : EventBody) : LeavesTimeline (appendEvent body) := fun _ => .of_directory rfl rfl id rfl .inl id

theorem failLocked (raises : Bool) (failureCode : String) : LeavesTimeline (failLocked raises failureCode) := by
  intro c
  rw [failLocked_run]
  split
  · exact .closed c
  · exact .failed c failureCode

theorem preflight (requested : Option Diagnostic) (measured : Except RuntimeError Diagnostic) :
    LeavesTimeline (preflight requested measured) := by
  intro c
  have hrun : (ResearchRuntime.preflight requested measured).run c = _ := rfl
  conv at hrun => rhs; unfold ResearchRuntime.preflight
  rw [locked_run, EStateM.run_bind, requireState_run] at hrun
  by_cases hstate : c.session.state ∈ [SessionState.draft]
  · rw [if_pos hstate] at hrun
    dsimp only at hrun
    rw [EStateM.run_bind, liftExcept_run] at hrun
    have hwaits : c.session.state.waits = true := by
      rw [List.mem_singleton.mp hstate]
      rfl
    cases hdiagnostic : diagnosticFor c.session.sourceKind requested measured with
    | error e =>
      rw [hdiagnostic] at hrun
      rw [hrun]
      exact .refl c
    | ok diagnostic =>
      rw [hdiagnostic] at hrun
      rw [hrun]
      refine .of_directory rfl rfl id rfl (fun h => ?_) fun _ => hwaits
      change (if _ then SessionState.preflightReady else .failed) = _ at h
      split at h <;> cases h
  · rw [if_neg hstate] at hrun
    rw [hrun]
    exact .refl c

theorem startRealCollection (setup : Setup) (active : Bool) (reference : String) (answer : AuthorityAnswer) :
    LeavesTimeline (startRealCollection setup active reference answer) := by
  intro c
  have hrun : (ResearchRuntime.startRealCollection setup active reference answer).run c = _ := rfl
  conv at hrun => rhs; unfold ResearchRuntime.startRealCollection
  rw [locked_run, EStateM.run_bind, requireState_run] at hrun
  by_cases hstate : c.session.state ∈ [SessionState.preflightReady]
  · rw [if_pos hstate] at hrun
    dsimp only at hrun
    have hwaits : c.session.state.waits = true := by
      rw [List.mem_singleton.mp hstate]
      rfl
    by_cases hreal : c.session.sourceKind ≠ .real
    · rw [if_pos hreal] at hrun
      rw [hrun]
      exact .refl c
    · rw [if_neg hreal, EStateM.run_bind, liftExcept_run] at hrun
      cases hauthority : validateAuthority setup answer reference false with
      | error e =>
        rw [hauthority] at hrun
        rw [hrun]
        exact .refl c
      | ok authority =>
        rw [hauthority] at hrun
        dsimp only at hrun
        by_cases hsession : authority "session_pseudonym" ≠ some (.str c.session.sessionId)
        · rw [if_pos hsession] at hrun
          rw [hrun]
          exact .refl c
        · rw [if_neg hsession] at hrun
          rw [hrun]
          cases active with
          | true => exact .refl c
          | false => exact .of_directory rfl rfl id rfl (fun _ => .inr ⟨hwaits, not_not.mp hreal⟩) fun h => by cases h
  · rw [if_neg hstate] at hrun
    rw [hrun]
    exact .refl c

theorem recordFocusContext (focus : Option Focus) : LeavesTimeline (recordFocusContext focus) := by
  cases focus with
  | none => exact .throw _
  | some focus =>
    exact .locked (.bind (.requireState _) fun row =>
      .bind (.row (fun _ => rfl) (fun _ => rfl) (fun _ => id) fun _ => id) fun _ => .bind (.append _) fun _ => .return _)

theorem markContamination : LeavesTimeline markContamination :=
  .locked (.bind (.requireState _) fun _ => .ite
    (fun _ => .bind (.row (fun _ => rfl) (fun _ => rfl) (fun _ => id) fun _ => id) fun _ =>
      .bind (.append _) fun _ => .return _)
    fun _ => .return _)

theorem captureFails (code : String) (closeRaises : Bool) : LeavesTimeline (captureFails code closeRaises) :=
  .locked (.bind .sessionRow fun _ => .ite (fun _ => .failLocked _ _) fun _ => .return _)

theorem workerEnds : LeavesTimeline workerEnds := fun _ => .of_directory rfl rfl id rfl .inl id

theorem beginStop : LeavesTimeline beginStop :=
  .bind (.requireState _) fun _ => .bind .get fun _ => .return _

theorem persistRuleEvents (row : Session) (signal : String) (policy : RulePolicy) (confidence : Option Rat)
    (events : List RuleEvent) : LeavesTimeline (persistRuleEvents row signal policy confidence events) := by
  intro c
  obtain ⟨after, hrun, hafter⟩ := persistRuleEvents_run row signal policy confidence events c
  rw [hrun]
  exact .of_emits hafter.1

theorem closeEngine (row : Session) (engine : Option TemporalRuleEngine) (signal : String) :
    LeavesTimeline (closeEngine row engine signal) := by
  refine .bind .get fun c => ?_
  dsimp only
  split
  · split
    · exact .throw _
    · exact .persistRuleEvents _ _ _ _ _
  · exact .return _

theorem finalizeStream (setup : Setup) (env : FinalizeEnv) : LeavesTimeline (finalizeStream setup env) := by
  intro c
  unfold ResearchRuntime.finalizeStream
  rw [run_bind_ok (EStateM.run_get c)]
  by_cases hstream : c.memory.stream.isNone = true
  · rw [if_pos hstream]
    exact .refl c
  · rw [if_neg hstream, EStateM.run_bind, closeStream_run]
    by_cases hraises : env.closeRaises = true ∧ c.memory.stream.isSome = true
    · rw [if_pos hraises]
      exact .closed c
    · rw [if_neg hraises]
      have hmoves : Moves (do transcode setup env; finalizeArtifacts setup env.fault) :=
        .bind (.transcode setup env) fun _ => .finalizeArtifacts setup env.fault
      exact (Collection.Rests.closed c).trans (.of_rearranges (hmoves c.closed) rfl)

theorem finishCollection : LeavesTimeline finishCollection := by
  refine .bind .sessionRow fun row => .bind .get fun c => .bind (.memory fun _ => rfl) fun _ =>
    .bind (.closeEngine row _ _) fun _ => .bind .get fun c => .bind (.memory fun _ => rfl) fun _ =>
    .bind (.closeEngine row _ _) fun _ => .bind (.row (fun _ => rfl) (fun _ => rfl) ?_ ?_) fun _ =>
    .bind (.append _) fun _ => .return _
  · exact fun _ h => by cases h
  · exact fun _ h => by cases h

theorem finishStop (setup : Setup) (joined : Bool) (env : FinalizeEnv) : LeavesTimeline (finishStop setup joined env) := by
  refine .locked (.bind (.requireState _) fun _ => .bind .get fun c => .ite (fun _ => .failLocked _ _) fun _ =>
    .bind (.memory fun _ => rfl) fun _ => .bind (.tryCatch ?_ fun e => ?_) fun finalized =>
    .ite (fun _ => .finishCollection) fun _ => .return _)
  · exact .bind (.finalizeStream setup env) fun _ => .return _
  · exact .ite (fun _ => .bind (.failLocked _ _) fun _ => .return _) fun _ => .throw _

theorem sealSession (setup : Setup) : LeavesTimeline (sealSession setup) := by
  refine .locked (.bind (.requireState _) fun _ => .bind .get fun _ => .bind (.liftExcept _) fun _ =>
    .bind (.row (fun _ => rfl) (fun _ => rfl) ?_ ?_) fun _ => .bind (.append _) fun _ => .return _)
  · exact fun _ h => by cases h
  · exact fun _ h => by cases h

end LeavesTimeline

/-! ## Removal and recovery -/

theorem Collection.Rests.logged (h : c.Rests after) (body : EventBody) : c.Rests (after.logged body) :=
  h.trans (.of_directory rfl rfl id rfl .inl id)

theorem Collection.Rests.ended (h : c.Rests after) {row : Session} (hframeSeq : row.frameSeq = after.session.frameSeq)
    (hsourceKind : row.sourceKind = after.session.sourceKind) (hover : row.state.isOver = true) :
    c.Rests { after with session := row } := by
  refine h.trans (.of_directory hframeSeq hsourceKind id rfl (fun hstate => ?_) fun hstate => ?_)
  · change row.state = _ at hstate
    rw [hstate] at hover
    cases hover
  · change row.state.waits = _ at hstate
    cases hrow : row.state <;> rw [hrow] at hstate hover <;> cases hstate <;> cases hover

theorem Collection.Removes.contents (h : c.Removes after) : ∀ file ∈ after.files,
    file.2.lines = [] ∨ ∃ old ∈ c.files, file.2.lines = old.2.lines :=
  fun file hfile => .inr ⟨file, h.files.subset hfile, rfl⟩

end PduExamObserver.ResearchRuntime
