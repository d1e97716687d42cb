import PduExamObserver.ResearchRuntime.Ingest

/-! # What collecting keeps

The operations from the creation of a session to its seal leave alone what annotation and withdrawal keep, and do
nothing to a session that is beyond its collection. -/

namespace PduExamObserver.ResearchRuntime
open Showcase Stateful
set_option autoImplicit false

variable {α : Type} {c after : Collection}

structure Collection.Works (c after : Collection) : Prop where
  session : c.session.Collected after.session
  state : after.session.state = .withdrawn → c.session.state = .withdrawn
  withdrawals : c.Linked → after.session.withdrawals = c.session.withdrawals
  tracks : c.Tracks after
  directory : after.directory.isSome = c.directory.isSome
  quarantine : after.quarantine = c.quarantine
  names : ∀ name ∈ after.names, name ∈ c.names ∨ name ∈ finalNames ∨ name ∈ partialNames
  nodup : c.names.Nodup → after.names.Nodup
  attached : c.Attached → after.Attached

namespace Collection.Works

theorem refl (c : Collection) : c.Works c where
  session := .refl _
  state := id
  withdrawals _ := rfl
  tracks := .refl c
  directory := rfl
  quarantine := rfl
  names _ := .inl
  nodup := id
  attached := id

theorem trans {a b c : Collection} (hab : a.Works b) (hbc : b.Works c) : a.Works c where
  session := hab.session.trans hbc.session
  state := hab.state ∘ hbc.state
  withdrawals h := (hbc.withdrawals (hab.tracks.linked h)).trans (hab.withdrawals h)
  tracks := hab.tracks.trans hbc.tracks
  directory := hbc.directory.trans hab.directory
  quarantine := hbc.quarantine.trans hab.quarantine
  names name h := (hbc.names name h).elim (hab.names name) .inr
  nodup := hbc.nodup ∘ hab.nodup
  attached := hbc.attached ∘ hab.attached

theorem of_settles (h : c.Settles after) (hstate : after.session.state = .withdrawn → c.session.state = .withdrawn) :
    c.Works after where
  session := h.session
  state := hstate
  withdrawals := h.withdrawals
  tracks := h.tracks
  directory := by rw [h.directory]
  quarantine := h.quarantine
  names := by
    rw [names_congr h.directory]
    exact fun _ => .inl
  nodup := by
    rw [names_congr h.directory]
    exact id
  attached hattached hsome := by
    have hfile := hattached (h.stream hsome)
    unfold Collection.hasFile Collection.files at hfile ⊢
    rwa [h.directory]

theorem rollback (h : c.Works after) : c.Works (c.rollback after) where
  session := .refl _
  state := id
  withdrawals _ := rfl
  tracks := h.tracks.rollback
  directory := h.directory
  quarantine := h.quarantine
  names := h.names
  nodup := h.nodup
  attached := h.attached

end Collection.Works

instance : IsPreorder Collection Collection.Works where
  refl := .refl
  trans _ _ _ h h' := h.trans h'

abbrev Collects (x : Op α) : Prop := Keeps Collection.Works x

theorem Collects.bind {β : Type} {x : Op α} {f : α → Op β} (hx : Collects x) (hf : ∀ a, Collects (f a)) :
    Collects (x >>= f) := Keeps.bind hx hf

theorem Collects.locked {x : Op α} (hx : Collects x) : Collects (locked x) :=
  Keeps.transaction (fun _ _ h => h.rollback) hx

theorem Collects.ite {p : Prop} [Decidable p] {x y : Op α} (hx : p → Collects x) (hy : ¬ p → Collects y) :
    Collects (if p then x else y) := Keeps.ite hx hy

theorem Collects.tryCatch {x : Op α} {handle : RuntimeError → Op α} (hx : Collects x)
    (hhandle : ∀ e, Collects (handle e)) : Collects (tryCatch x handle) :=
  Keeps.tryCatch hx hhandle

theorem Collects.forM {γ : Type} {items : List γ} {g : γ → Op Unit} (h : ∀ item ∈ items, Collects (g item)) :
    Collects (forM items g) := Keeps.forM h

theorem Collects.row {changes : Session → Session} (hcollected : ∀ row : Session, row.Collected (changes row))
    (hevents : ∀ row, (changes row).events = row.events)
    (hstate : ∀ row, (changes row).state = .withdrawn → row.state = .withdrawn) : Collects (updateSession changes) :=
  fun c => .of_settles (.of_row c (hcollected c.session) (hevents c.session)) (hstate c.session)

theorem Collects.append {body : EventBody} (hrefers : body.refers = none)
    (hbody : ∀ eventId eventSeq, Event.withdrawal? ⟨eventId, eventSeq, body⟩ = none) :
    Collects (appendEvent body) := fun c => .of_settles (.logged c hrefers (hbody _ _)) id

theorem Collects.memory {changes : Memory → Memory}
    (hlogical : ∀ memory, (changes memory).logicalEvents = memory.logicalEvents)
    (hstream : ∀ memory : Memory, (changes memory).stream.isSome = true → memory.stream.isSome = true) :
    Collects (updateMemory changes) := by
  intro c
  refine ⟨.refl _, id, fun _ => rfl, .of_eq rfl rfl (hlogical c.memory), rfl, rfl, fun _ => .inl, id, fun h hsome => ?_⟩
  exact h (hstream c.memory hsome)

theorem Collects.failLocked (raises : Bool) (failureCode : String) : Collects (failLocked raises failureCode) := by
  intro c
  rw [failLocked_run]
  split
  · exact .of_settles (.closed c) id
  · exact .of_settles (.failed c failureCode) fun h => by cases h

/-! ## Frames -/

theorem Collects.writeFrame (env : WriteEnv) (observation : Observation) : Collects (writeFrame env observation) := by
  intro c
  have hworks : ∀ after, c.Writes observation after → (c.Attached → after.Attached) → c.Works after := by
    intro after h hattached
    refine ⟨by rw [h.session]; exact .refl _, by rw [h.session]; exact id, fun _ => by rw [h.session],
      .of_eq h.fresh (by rw [h.session]) (by rw [h.memory]), h.directory, h.quarantine, fun name hname => ?_, h.nodup,
      hattached⟩
    rcases h.names name hname with hold | rfl | rfl
    · exact .inl hold
    · exact .inr (.inr (by decide))
    · exact .inr (.inr (by decide))
  rcases writeFrame_run env observation c with
    ⟨-, after, hrun, hwrote⟩ | ⟨-, e, after, hrun, -, hwrites, hattached, -⟩
  · rw [hrun]
    exact hworks after hwrote.writes fun h _ => (hwrote.attached h).1
  · rw [hrun]
    exact hworks after hwrites hattached

theorem works_of_emits (h : c.Emits after) : c.Works after :=
  .of_settles (.of_emits h) fun hstate => by rwa [h.session] at hstate

theorem Collects.persistRuleEvents (row : Session) (signal : String) (policy : RulePolicy) (confidence : Option Rat)
    (events : List RuleEvent) : Collects (persistRuleEvents row signal policy confidence events) := by
  intro c
  obtain ⟨after, hrun, hafter⟩ := persistRuleEvents_run row signal policy confidence events c
  rw [hrun]
  exact works_of_emits hafter.1

theorem Collects.emitModelOrRule (setup : Setup) (env : EmitEnv) (row : Session) (observation : Observation) :
    Collects (emitModelOrRule setup env row observation) := by
  intro c
  rcases emitModelOrRule_run setup env row observation c with ⟨-, _, after, hrun, hafter⟩ | ⟨-, e, after, hrun, hafter⟩
  · rw [hrun]
    exact works_of_emits hafter
  · rw [hrun]
    exact works_of_emits hafter

theorem Collects.writeRefused (closeRaises : Bool) (e : RuntimeError) : Collects (writeRefused closeRaises e) := by
  cases he : e.isArtifactError with
  | true =>
    obtain ⟨failureCode, hhandler⟩ := writeRefused_run he closeRaises
    rw [hhandler]
    exact .bind (.failLocked _ _) fun _ => .return _
  | false =>
    have hthrow : ResearchRuntime.writeRefused closeRaises e = MonadExcept.throw e := by
      cases e <;> first | rfl | cases he
    rw [hthrow]
    exact .throw e

theorem Collects.recordFrame (setup : Setup) (env : FrameEnv) (row : Session) (observation : Observation) (hole : Nat) :
    Collects (recordFrame setup env row observation hole) :=
  .ite (fun _ => .throw _) fun _ => .bind (.row (fun _ => ⟨rfl, rfl, rfl, rfl, rfl, rfl, rfl, fun _ => .inl⟩) (fun _ => rfl) fun _ => id) fun _ =>
    .bind (.memory (fun _ => rfl) fun _ => id) fun _ =>
      .bind (.append rfl fun _ _ => rfl) fun _ => .emitModelOrRule setup env.emit row observation

theorem Collects.storeFrame (setup : Setup) (env : FrameEnv) (row : Session) (observation : Observation) (dropped : Nat) :
    Collects (storeFrame setup env row observation dropped) := by
  refine .bind (.tryCatch ?_ (.writeRefused env.closeRaises)) fun missing => ?_
  · rw [map_eq_pure_bind]
    exact .bind (.writeFrame _ _) fun _ => .return _
  · cases missing with
    | none => exact .return _
    | some missing => exact .recordFrame setup env row observation _

theorem Collects.takeFrame (setup : Setup) (env : FrameEnv) (row : Session) (capturedNs : Int) (dropped : Nat) :
    Collects (takeFrame setup env row capturedNs dropped) := by
  refine .bind .get fun c => .ite (fun _ => .failLocked _ _) fun _ => ?_
  cases env.analysis with
  | error code => exact .failLocked _ _
  | poses state blur exposure landmarks => exact .storeFrame setup env row _ dropped

theorem Collects.ingestFrame (setup : Setup) (env : FrameEnv) : Collects (ingestFrame setup env) := by
  refine .locked (.bind (.requireState _) fun row => .bind (.liftExcept _) fun refusal => ?_)
  cases refusal with
  | some code => exact .failLocked _ _
  | none => exact .bind (.liftExcept _) fun capturedNs => .takeFrame setup env row _ _

/-! ## Before and after the frames -/

theorem Collects.preflight (requested : Option Diagnostic) (measured : Except RuntimeError Diagnostic) :
    Collects (preflight requested measured) := by
  refine .locked (.bind (.requireState _) fun row => .bind (.liftExcept _) fun diagnostic =>
    .bind (.row ?_ (fun _ => rfl) ?_) fun _ => .bind (.append rfl fun _ _ => rfl) fun _ => .return _)
  · exact fun _ => ⟨rfl, rfl, rfl, rfl, rfl, rfl, rfl, fun _ => .inl⟩
  · intro row h
    split at h <;> cases h

theorem Collects.writeFixtureFrame (setup : Setup) (env : FixtureEnv) (frameSeq : Nat) :
    Collects (writeFixtureFrame setup env frameSeq) :=
  .bind (.writeFrame _ _) fun _ => .bind (.memory (fun _ => rfl) fun _ => id) fun _ => .bind .sessionRow fun row =>
    .bind (.emitModelOrRule setup _ row _) fun _ =>
      .bind (.row (fun _ => ⟨rfl, rfl, rfl, rfl, rfl, rfl, rfl, fun _ => .inl⟩) (fun _ => rfl) fun _ => id) fun _ =>
        .bind (.append rfl fun _ _ => rfl) fun _ => .return _

theorem Collects.assertNoActiveCollection (active : Bool) : Collects (assertNoActiveCollection active) :=
  .ite (fun _ => .throw _) fun _ => .return _

theorem Collects.startSyntheticDemo (setup : Setup) (active : Bool) (fixtureName : String) (env : FixtureEnv) :
    Collects (startSyntheticDemo setup active fixtureName env) := by
  refine .locked (.bind (.requireState _) fun row => .ite (fun _ => .throw _) fun _ =>
    .bind (.assertNoActiveCollection _) fun _ => .bind (.row ?_ (fun _ => rfl) ?_) fun _ =>
    .bind (.append rfl fun _ _ => rfl) fun _ => .bind (.append rfl fun _ _ => rfl) fun _ => .bind (.append rfl fun _ _ => rfl) fun _ =>
    .tryCatch ?_ fun e => .ite (fun _ => .failLocked _ _) fun _ => .throw _)
  · exact fun _ => ⟨rfl, rfl, rfl, rfl, rfl, rfl, rfl, fun _ => .inl⟩
  · exact fun _ h => by cases h
  · exact .ite (fun _ => .throw _) fun _ => .forM fun frameSeq _ => .writeFixtureFrame setup env frameSeq

theorem Collects.startRealCollection (setup : Setup) (active : Bool) (reference : String) (answer : AuthorityAnswer) :
    Collects (startRealCollection setup active reference answer) := by
  refine .locked (.bind (.requireState _) fun row => .ite (fun _ => .throw _) fun _ =>
    .bind (.liftExcept _) fun authority => .ite (fun _ => .throw _) fun _ =>
    .bind (.assertNoActiveCollection _) fun _ => .bind (.row ?_ (fun _ => rfl) ?_) fun _ =>
    .bind (.append rfl fun _ _ => rfl) fun _ => .bind (.memory (fun _ => rfl) fun _ => id) fun _ => ?_)
  · exact fun _ => ⟨rfl, rfl, rfl, rfl, rfl, rfl, rfl, fun _ => .inl⟩
  · exact fun _ h => by cases h
  · exact fun _ => ⟨.refl _, id, fun _ => rfl, .of_eq rfl rfl rfl, rfl, rfl, fun _ => .inl, id, id⟩

theorem Collects.recordFocusContext (focus : Option Focus) : Collects (recordFocusContext focus) := by
  cases focus with
  | none => exact .throw _
  | some focus =>
    exact .locked (.bind (.requireState _) fun row =>
      .bind (.row (fun _ => ⟨rfl, rfl, rfl, rfl, rfl, rfl, rfl, fun _ => .inl⟩) (fun _ => rfl) fun _ => id) fun _ =>
        .bind (.append rfl fun _ _ => rfl) fun _ => .return _)

theorem Collects.markContamination : Collects markContamination :=
  .locked (.bind (.requireState _) fun _ => .ite
    (fun _ => .bind (.row (fun _ => ⟨rfl, rfl, rfl, rfl, rfl, rfl, rfl, fun _ => .inl⟩) (fun _ => rfl) fun _ => id) fun _ =>
      .bind (.append rfl fun _ _ => rfl) fun _ => .return _)
    fun _ => .return _)

theorem Collects.captureFails (code : String) (closeRaises : Bool) : Collects (captureFails code closeRaises) :=
  .locked (.bind .sessionRow fun _ => .ite (fun _ => .failLocked _ _) fun _ => .return _)

theorem Collects.workerEnds : Collects workerEnds :=
  fun _ => ⟨.refl _, id, fun _ => rfl, .of_eq rfl rfl rfl, rfl, rfl, fun _ => .inl, id, id⟩

theorem Collects.beginStop : Collects beginStop :=
  .bind (.requireState _) fun _ => .bind .get fun _ => .return _

/-! ## Finalization -/

def Collection.unfiled (c : Collection) (name : String) : Collection :=
  { c with directory := c.directory.map fun directory => directory.erase name }

theorem unfiled_files (c : Collection) (name : String) : (c.unfiled name).files = c.files.erase name := by
  unfold Collection.files Collection.unfiled
  cases c.directory with
  | none => rfl
  | some directory => rfl

theorem unfiled_sublist (c : Collection) (name : String) : (c.unfiled name).files.Sublist c.files := by
  rw [unfiled_files]
  exact List.filter_sublist

theorem renameFile_cases (source destination : String) (c : Collection) :
    (renameFile source destination).run c = .error .osError c ∨
    ∃ content, (source, content) ∈ c.files ∧
      (renameFile source destination).run c = .ok () ((c.unfiled source).filed destination content) := by
  unfold renameFile
  rw [run_bind_ok (EStateM.run_get c)]
  cases hlookup : c.files.lookup source with
  | none => exact .inl rfl
  | some content => exact .inr ⟨content, lookup_mem hlookup, rfl⟩

theorem renamed_content {source destination : String} {content : Content} {file : String × Content}
    (hcontent : (source, content) ∈ c.files) (hfile : file ∈ ((c.unfiled source).filed destination content).files) :
    ∃ old ∈ c.files, file.2 = old.2 := by
  rcases mem_filed hfile with hkept | rfl
  · exact ⟨file, (unfiled_sublist c source).subset hkept, rfl⟩
  · exact ⟨_, hcontent, rfl⟩

structure Collection.Rearranges (c after : Collection) : Prop where
  session : c.session.Collected after.session
  state : after.session.state = c.session.state
  events : after.session.events = c.session.events
  memory : after.memory = c.memory
  fresh : after.fresh = c.fresh
  directory : after.directory.isSome = c.directory.isSome
  quarantine : after.quarantine = c.quarantine
  names : ∀ name ∈ after.names, name ∈ c.names ∨ name ∈ finalNames ∨ name ∈ partialNames
  nodup : c.names.Nodup → after.names.Nodup
  frameSeq : after.session.frameSeq = c.session.frameSeq
  contents : ∀ file ∈ after.files, file.2.lines = [] ∨ ∃ old ∈ c.files, file.2.lines = old.2.lines

namespace Collection.Rearranges

theorem refl (c : Collection) : c.Rearranges c :=
  ⟨.refl _, rfl, rfl, rfl, rfl, rfl, rfl, fun _ => .inl, id, rfl, fun file h => .inr ⟨file, h, rfl⟩⟩

theorem trans {a b c : Collection} (hab : a.Rearranges b) (hbc : b.Rearranges c) : a.Rearranges c where
  session := hab.session.trans hbc.session
  state := hbc.state.trans hab.state
  events := hbc.events.trans hab.events
  memory := hbc.memory.trans hab.memory
  fresh := hbc.fresh.trans hab.fresh
  directory := hbc.directory.trans hab.directory
  quarantine := hbc.quarantine.trans hab.quarantine
  names name h := (hbc.names name h).elim (hab.names name) .inr
  nodup := hbc.nodup ∘ hab.nodup
  frameSeq := hbc.frameSeq.trans hab.frameSeq
  contents file h := by
    rcases hbc.contents file h with hempty | ⟨middle, hmiddle, heq⟩
    · exact .inl hempty
    · rw [heq]
      exact hab.contents middle hmiddle

theorem filed {a b : Collection} (h : a.Rearranges b) {name : String} {content : Content}
    (hname : name ∈ finalNames ∨ name ∈ partialNames)
    (hlines : content.lines = [] ∨ ∃ old ∈ a.files, content.lines = old.2.lines) :
    a.Rearranges (b.filed name content) where
  session := h.session
  state := h.state
  events := h.events
  memory := h.memory
  fresh := h.fresh
  directory := by simpa [Collection.filed] using h.directory
  quarantine := h.quarantine
  names other hother := by
    obtain ⟨file, hfile, rfl⟩ := List.mem_map.mp hother
    rcases mem_filed hfile with hold | rfl
    · exact h.names _ (List.mem_map_of_mem hold)
    · exact .inr hname
  nodup hnodup := filed_nodup (h.nodup hnodup) name content
  frameSeq := h.frameSeq
  contents file hfile := by
    rcases mem_filed hfile with hold | rfl
    · exact h.contents file hold
    · exact hlines

theorem unfiled (c : Collection) (name : String) : c.Rearranges (c.unfiled name) where
  session := .refl _
  state := rfl
  events := rfl
  memory := rfl
  fresh := rfl
  directory := by simp [Collection.unfiled]
  quarantine := rfl
  names _ h := .inl (((unfiled_sublist c name).map Prod.fst).subset h)
  nodup := ((unfiled_sublist c name).map Prod.fst).nodup
  frameSeq := rfl
  contents file h := .inr ⟨file, (unfiled_sublist c name).subset h, rfl⟩

theorem works (h : c.Rearranges after) (hstream : c.memory.stream = none) : c.Works after where
  session := h.session
  state := by
    rw [h.state]
    exact id
  withdrawals _ := by rw [Session.withdrawals, h.events, ← Session.withdrawals]
  tracks := .of_eq h.fresh h.events (by rw [h.memory])
  directory := h.directory
  quarantine := h.quarantine
  names := h.names
  nodup := h.nodup
  attached _ hsome := by
    rw [h.memory, hstream] at hsome
    cases hsome

end Collection.Rearranges

instance : IsPreorder Collection Collection.Rearranges where
  refl := .refl
  trans _ _ _ h h' := h.trans h'

abbrev Moves (x : Op α) : Prop := Keeps Collection.Rearranges x

theorem Moves.bind {β : Type} {x : Op α} {f : α → Op β} (hx : Moves x) (hf : ∀ a, Moves (f a)) : Moves (x >>= f) :=
  Keeps.bind hx hf

theorem Moves.ite {p : Prop} [Decidable p] {x y : Op α} (hx : p → Moves x) (hy : ¬ p → Moves y) :
    Moves (if p then x else y) := Keeps.ite hx hy

theorem Moves.removeFile (name : String) : Moves (removeFile name) := fun c => .unfiled c name

theorem Moves.renameFile {source destination : String} (hname : destination ∈ finalNames ∨ destination ∈ partialNames) :
    Moves (renameFile source destination) := by
  intro c
  rcases renameFile_cases source destination c with hrun | ⟨content, hcontent, hrun⟩
  · rw [hrun]
    exact .refl c
  · rw [hrun]
    exact (Collection.Rearranges.unfiled c source).filed hname (.inr ⟨_, hcontent, rfl⟩)

theorem Moves.recordArtifact (setup : Setup) {name : String} (hname : name ∈ finalNames) :
    Moves (recordArtifact setup name) := by
  refine .bind .get fun c => ?_
  split
  · exact .throw _
  · intro c
    refine ⟨⟨rfl, rfl, rfl, rfl, rfl, rfl, rfl, fun record h => ?_⟩, rfl, rfl, rfl, rfl, rfl, rfl, fun _ => .inl, id, rfl,
      fun file h => .inr ⟨file, h, rfl⟩⟩
    rcases List.mem_append.mp h with hold | hnew
    · exact .inl (List.mem_of_mem_filter hold)
    · rw [List.mem_singleton.mp hnew]
      exact .inr hname

theorem Moves.runTranscoder (setup : Setup) (run : Transcode) : Moves (runTranscoder setup run) := by
  refine .bind ?_ fun _ => ?_
  · cases run.output with
    | none => exact .return _
    | some octets => exact fun c => (Collection.Rearranges.refl c).filed (.inr (by decide)) (.inl rfl)
  · cases run.outcome with
    | osError => exact .throw _
    | timeout => exact .throw _
    | exited returnCode => exact .bind .get fun _ => .ite (fun _ => .throw _) fun _ => .return _

theorem Moves.transcode (setup : Setup) (env : FinalizeEnv) : Moves (transcode setup env) := by
  refine .bind .get fun _ => .ite (fun _ => .throw _) fun _ => ?_
  cases env.transcode with
  | none => exact .throw _
  | some run => exact .runTranscoder setup run

theorem keeps_stepwise {R : Collection → Collection → Prop} [IsPreorder Collection R] (fault : Option Fault)
    {steps : List (Op Unit)} (h : ∀ step ∈ steps, Keeps R step) : Keeps R (stepwise fault steps) := by
  unfold stepwise interrupted
  cases fault with
  | none => exact Keeps.forM h
  | some fault =>
    exact Keeps.bind (Keeps.forM fun step hstep => h step (List.mem_of_mem_take hstep)) fun _ => Keeps.throw _

theorem Moves.finalizeArtifacts (setup : Setup) (fault : Option Fault) : Moves (finalizeArtifacts setup fault) := by
  refine keeps_stepwise fault fun step hstep => ?_
  simp only [List.mem_cons, List.not_mem_nil, or_false] at hstep
  rcases hstep with rfl | rfl | rfl | rfl | rfl
  · exact Moves.renameFile (.inl (by decide))
  · exact Moves.removeFile _
  · exact Moves.renameFile (.inl (by decide))
  · exact Moves.recordArtifact setup (by decide)
  · exact Moves.recordArtifact setup (by decide)

theorem Collects.finalizeStream (setup : Setup) (env : FinalizeEnv) : Collects (finalizeStream setup env) := by
  intro c
  unfold ResearchRuntime.finalizeStream
  rw [run_bind_ok (EStateM.run_get c)]
  by_cases hstream : c.memory.stream.isNone = true
  · rw [if_pos hstream]
    exact .refl c
  · rw [if_neg hstream, EStateM.run_bind, closeStream_run]
    have hclosed : c.Works c.closed := .of_settles (.closed c) id
    by_cases hraises : env.closeRaises = true ∧ c.memory.stream.isSome = true
    · rw [if_pos hraises]
      exact hclosed
    · rw [if_neg hraises]
      have hmoves : Moves (do transcode setup env; finalizeArtifacts setup env.fault) :=
        .bind (.transcode setup env) fun _ => .finalizeArtifacts setup env.fault
      exact hclosed.trans ((hmoves c.closed).works rfl)

/-! ## `stop` and `seal` -/

theorem Collects.closeEngine (row : Session) (engine : Option TemporalRuleEngine) (signal : String) :
    Collects (closeEngine row engine signal) := by
  refine .bind .get fun c => ?_
  dsimp only
  split
  · split
    · exact .throw _
    · exact .persistRuleEvents _ _ _ _ _
  · exact .return _

theorem Collects.finishCollection : Collects finishCollection := by
  refine .bind .sessionRow fun row => .bind .get fun c => .bind (.memory (fun _ => rfl) fun _ => id) fun _ =>
    .bind (.closeEngine row _ _) fun _ => .bind .get fun c => .bind (.memory (fun _ => rfl) fun _ => id) fun _ =>
    .bind (.closeEngine row _ _) fun _ => .bind (.row ?_ (fun _ => rfl) ?_) fun _ =>
    .bind (.append rfl fun _ _ => rfl) fun _ => .return _
  · exact fun _ => ⟨rfl, rfl, rfl, rfl, rfl, rfl, rfl, fun _ => .inl⟩
  · exact fun _ h => by cases h

theorem Collects.finishStop (setup : Setup) (joined : Bool) (env : FinalizeEnv) : Collects (finishStop setup joined env) := by
  refine .locked (.bind (.requireState _) fun _ => .bind .get fun c => .ite (fun _ => .failLocked _ _) fun _ =>
    .bind (.memory (fun _ => rfl) fun _ => id) fun _ => .bind (.tryCatch ?_ fun e => ?_) fun finalized =>
    .ite (fun _ => .finishCollection) fun _ => .return _)
  · exact .bind (.finalizeStream setup env) fun _ => .return _
  · exact .ite (fun _ => .bind (.failLocked _ _) fun _ => .return _) fun _ => .throw _

theorem Collects.sealSession (setup : Setup) : Collects (sealSession setup) := by
  refine .locked (.bind (.requireState _) fun _ => .bind .get fun _ => .bind (.liftExcept _) fun _ =>
    .bind (.row ?_ (fun _ => rfl) ?_) fun _ => .bind (.append rfl fun _ _ => rfl) fun _ => .return _)
  · exact fun _ => ⟨rfl, rfl, rfl, rfl, rfl, rfl, rfl, fun _ => .inl⟩
  · exact fun _ h => by cases h

/-! ## A session beyond its collection -/

def SessionState.isOver : SessionState → Bool
  | .sealed | .failed | .withdrawn => true
  | .draft | .preflightReady | .recording | .stopped => false

theorem over_kept {states : List SessionState} (hstates : ∀ state ∈ states, state.isOver = false) (f : Session → Op α)
    (hover : c.session.state.isOver = true) : ∃ e, (locked (requireState states >>= f)).run c = .error e c := by
  rw [locked_run, EStateM.run_bind, requireState_run, if_neg]
  · exact ⟨_, rfl⟩
  · intro hmem
    rw [hstates _ hmem] at hover
    cases hover

end PduExamObserver.ResearchRuntime
