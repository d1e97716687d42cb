import PduExamObserver.ResearchRuntime.Steps

/-! # Removing artifacts

How the sections that end a session run: the withdrawals, and the recovery of a recording. Only files go away in
them, and the row and the events change at the very end. -/

namespace PduExamObserver.ResearchRuntime
open Stateful
set_option autoImplicit false

variable {setup : Setup} {c after : Collection} {call : WithdrawCall} {env : RemovalEnv}
  {inventory : List InventoryItem}

/-! ## Names of files -/

theorem hasFile_iff {name : String} : c.hasFile name = true ↔ name ∈ c.names := by
  unfold Collection.hasFile Collection.names
  rw [List.lookup_isSome_iff]
  simp

theorem mem_unfiled_names {name other : String} : other ∈ (c.unfiled name).names ↔ other ∈ c.names ∧ other ≠ name := by
  unfold Collection.names
  rw [unfiled_files]
  constructor
  · intro h
    obtain ⟨file, hfile, rfl⟩ := List.mem_map.mp h
    obtain ⟨hmem, hne⟩ := Directory.mem_erase.mp hfile
    exact ⟨List.mem_map_of_mem hmem, hne⟩
  · rintro ⟨h, hne⟩
    obtain ⟨file, hfile, rfl⟩ := List.mem_map.mp h
    exact List.mem_map_of_mem (Directory.mem_erase.mpr ⟨hfile, hne⟩)

theorem mem_filed_names (hdirectory : c.directory.isSome = true) {name other : String} {content : Content} :
    other ∈ (c.filed name content).names ↔ other = name ∨ other ∈ c.names := by
  rw [← hasFile_iff, ← hasFile_iff, Collection.hasFile, filed_lookup hdirectory]
  by_cases hother : other = name
  · simp [hother]
  · simp [hother, Collection.hasFile]

theorem names_directory {name : String} (h : name ∈ c.names) : c.directory.isSome = true :=
  hasFile_directory (hasFile_iff.mpr h)

theorem renameFile_run {source : String} (h : source ∈ c.names) (destination : String) :
    ∃ content, (renameFile source destination).run c = .ok () ((c.unfiled source).filed destination content) := by
  have hfile := hasFile_iff.mpr h
  unfold Collection.hasFile at hfile
  obtain ⟨content, hcontent⟩ := Option.isSome_iff_exists.mp hfile
  refine ⟨content, ?_⟩
  unfold renameFile
  rw [run_bind_ok (EStateM.run_get c), hcontent]
  rfl

structure Collection.Quarantines (moved : List String) (c after : Collection) : Prop where
  origin : ∀ file ∈ after.files, (file ∈ c.files ∧ file.1 ∉ moved) ∨ ∃ old ∈ moved, file.1 = quarantined old
  stays : ∀ name ∈ c.names, name ∉ moved → name ∈ after.names
  renamed : ∀ name ∈ moved, quarantined name ∉ moved → quarantined name ∈ after.names

theorem Collection.Quarantines.origin_name {moved : List String} (h : c.Quarantines moved after) :
    ∀ name ∈ after.names, (name ∈ c.names ∧ name ∉ moved) ∨ ∃ old ∈ moved, name = quarantined old := by
  intro name hname
  obtain ⟨file, hfile, rfl⟩ := List.mem_map.mp hname
  exact (h.origin file hfile).imp_left fun hkept => ⟨List.mem_map_of_mem hkept.1, hkept.2⟩

theorem renames_run (moved : List String) (hmem : ∀ name ∈ moved, name ∈ c.names) (hnodup : moved.Nodup) :
    ∃ after, (stepwise none (moved.map fun name => renameFile name (quarantined name))).run c = .ok () after ∧
      c.Quarantines moved after := by
  induction moved generalizing c with
  | nil =>
    refine ⟨c, rfl, ?_, fun name h _ => h, ?_⟩
    · exact fun file h => .inl ⟨h, List.not_mem_nil⟩
    · exact fun name h => absurd h List.not_mem_nil
  | cons first rest ih =>
    obtain ⟨hfirst, hrest⟩ := List.nodup_cons.mp hnodup
    obtain ⟨content, hrun⟩ := renameFile_run (hmem first List.mem_cons_self) (quarantined first)
    have hdirectory : (c.unfiled first).directory.isSome = true := by
      simpa [Collection.unfiled] using names_directory (hmem first List.mem_cons_self)
    have hnames : ∀ name, name ∈ ((c.unfiled first).filed (quarantined first) content).names ↔
        name = quarantined first ∨ name ∈ c.names ∧ name ≠ first := by
      intro name
      rw [mem_filed_names hdirectory, mem_unfiled_names]
    obtain ⟨after, hafter, h⟩ := ih (c := (c.unfiled first).filed (quarantined first) content)
      (fun name hname => (hnames name).mpr (.inr ⟨hmem name (List.mem_cons_of_mem _ hname),
        fun heq => hfirst (heq ▸ hname)⟩)) hrest
    refine ⟨after, ?_, fun file hfile => ?_, fun name hname hnot => ?_, fun name hname hnot => ?_⟩
    · have hstep : (stepwise none ((first :: rest).map fun name => renameFile name (quarantined name))).run c =
          (renameFile first (quarantined first) >>= fun _ =>
            stepwise none (rest.map fun name => renameFile name (quarantined name))).run c := rfl
      rw [hstep, run_bind_ok hrun]
      exact hafter
    · rcases h.origin file hfile with ⟨hmoved, hnot⟩ | ⟨old, hold, heq⟩
      · rcases mem_filed hmoved with hkept | rfl
        · rw [unfiled_files, Directory.mem_erase] at hkept
          exact .inl ⟨hkept.1, List.not_mem_cons_of_ne_of_not_mem hkept.2 hnot⟩
        · exact .inr ⟨first, List.mem_cons_self, rfl⟩
      · exact .inr ⟨old, List.mem_cons_of_mem _ hold, heq⟩
    · obtain ⟨hne, hnot⟩ := List.ne_and_not_mem_of_not_mem_cons hnot
      exact h.stays name ((hnames name).mpr (.inr ⟨hname, hne⟩)) hnot
    · have hlater : quarantined name ∉ rest := List.not_mem_of_not_mem_cons hnot
      rcases List.mem_cons.mp hname with rfl | hname
      · exact h.stays _ ((hnames _).mpr (.inl rfl)) hlater
      · exact h.renamed name hname hlater

structure Collection.Removes (c after : Collection) : Prop where
  session : after.session = c.session
  memory : after.memory = c.memory
  worker : after.worker = c.worker
  fresh : after.fresh = c.fresh
  files : after.files.Sublist c.files

namespace Collection.Removes

theorem refl (c : Collection) : c.Removes c := ⟨rfl, rfl, rfl, rfl, List.Sublist.refl _⟩

theorem trans {a b c : Collection} (hab : a.Removes b) (hbc : b.Removes c) : a.Removes c :=
  ⟨hbc.session.trans hab.session, hbc.memory.trans hab.memory, hbc.worker.trans hab.worker, hbc.fresh.trans hab.fresh,
    hbc.files.trans hab.files⟩

end Collection.Removes

instance : IsPreorder Collection Collection.Removes where
  refl := .refl
  trans _ _ _ h h' := h.trans h'

theorem removeFile_removes (name : String) : Keeps Collection.Removes (removeFile name) := by
  intro c
  refine ⟨rfl, rfl, rfl, rfl, ?_⟩
  unfold Collection.files
  change (((c.directory.map fun directory => directory.erase name)).getD []).Sublist (c.directory.getD [])
  cases c.directory with
  | none => exact List.Sublist.refl _
  | some directory => exact List.filter_sublist

theorem unlinkFile_removes (name : String) : Keeps Collection.Removes (unlinkFile name) :=
  Keeps.bind Keeps.get fun _ =>
    Keeps.ite (fun _ => removeFile_removes name) fun _ => Keeps.throw _

theorem removeDirectory_removes : Keeps Collection.Removes removeDirectory :=
  Keeps.bind Keeps.get fun _ =>
    Keeps.ite (fun _ _ => ⟨rfl, rfl, rfl, rfl, List.nil_sublist _⟩) fun _ => Keeps.throw _

theorem deletionSteps_removes (inventory : List InventoryItem) :
    ∀ step ∈ deletionSteps inventory, Keeps Collection.Removes step := by
  intro step hstep
  rcases List.mem_append.mp hstep with hfile | hdirectory
  · obtain ⟨item, -, rfl⟩ := List.mem_map.mp hfile
    exact unlinkFile_removes item.name
  · rw [List.mem_singleton.mp hdirectory]
    exact removeDirectory_removes

theorem removalSteps_removes (decision : WithdrawalDecision) (inventory : List InventoryItem) (present : Bool) :
    ∀ step ∈ removalSteps decision inventory present, Keeps Collection.Removes step := by
  intro step hstep
  unfold removalSteps at hstep
  split at hstep
  · cases hstep
  · cases decision with
    | deleteOwnedRuntimeArtifacts => exact deletionSteps_removes inventory step hstep
    | quarantineRuntimeArtifacts =>
      rw [List.mem_singleton.mp hstep]
      exact fun c => ⟨rfl, rfl, rfl, rfl, List.nil_sublist _⟩

theorem stepwise_removes (fault : Option Fault) {steps : List (Op Unit)}
    (h : ∀ step ∈ steps, Keeps Collection.Removes step) : Keeps Collection.Removes (stepwise fault steps) :=
  keeps_stepwise fault h

/-! ## `withdraw` -/

def Collection.quiesced (c : Collection) : Collection :=
  { c with memory := { c.memory with stream := none, captureThread := false } }

def Collection.withdrawn (c : Collection) (call : WithdrawCall) (inventory : List InventoryItem) : Collection :=
  ({ c with session := { c.session with
      withdrawalTasks := c.session.withdrawalTasks ++ c.session.exports.filter (· ∉ c.session.withdrawalTasks)
      state := .withdrawn } } : Collection).logged (.withdrawalRecorded
    { authorityReference := call.authorityReference
      withdrawalAuthoritySha256 := call.withdrawalAuthoritySha256
      decision := call.decision
      exportCount := c.session.exports.length
      artifacts := inventory })

theorem finishWithdraw_timeout (hwait : call.joined = true ∧ c.worker = true) :
    (finishWithdraw setup call env).run c = (locked (failLocked env.closeRaises "CAMERA_STOP_TIMEOUT")).run c := by
  unfold finishWithdraw
  rw [locked_run, run_bind_ok (EStateM.run_get c), if_pos (by simpa using hwait), locked_run]

theorem finishWithdraw_raises (hwait : ¬ (call.joined = true ∧ c.worker = true))
    (hclose : env.closeRaises = true ∧ c.memory.stream.isSome = true) :
    (finishWithdraw setup call env).run c = .error .osError c.quiesced := by
  unfold finishWithdraw
  rw [locked_run, run_bind_ok (EStateM.run_get c), if_neg (by simpa using hwait), run_bind_ok (updateMemory_run _ _),
    EStateM.run_bind, closeStream_run, if_pos hclose]
  rfl

theorem finishWithdraw_run (hwait : ¬ (call.joined = true ∧ c.worker = true))
    (hclose : ¬ (env.closeRaises = true ∧ c.memory.stream.isSome = true)) :
    (finishWithdraw setup call env).run c =
      match withdrawalInventory setup c.session c.directory with
      | .error e => .error e c.quiesced
      | .ok inventory =>
        match (stepwise env.fault (removalSteps call.decision inventory c.directory.isSome)).run c.quiesced with
        | .error e removed => .error e (c.rollback removed)
        | .ok _ removed => .ok () (removed.withdrawn call inventory) := by
  unfold finishWithdraw
  rw [locked_run, run_bind_ok (EStateM.run_get c), if_neg (by simpa using hwait), run_bind_ok (updateMemory_run _ _)]
  have hclosed : (closeStream env.closeRaises).run
      { c with memory := { c.memory with captureThread := false } } = .ok () c.quiesced := by
    rw [closeStream_run, if_neg hclose]
    rfl
  rw [run_bind_ok hclosed, run_bind_ok (EStateM.run_get _)]
  have hsession : c.quiesced.session = c.session := rfl
  have hdirectory : c.quiesced.directory = c.directory := rfl
  rw [hsession, hdirectory]
  cases withdrawalInventory setup c.session c.directory with
  | error e => rfl
  | ok inventory =>
    dsimp only
    rw [run_bind_ok (liftExcept_ok_run _ _), EStateM.run_bind]
    cases (stepwise env.fault (removalSteps call.decision inventory c.directory.isSome)).run c.quiesced with
    | error e removed => rfl
    | ok _ removed => rfl

theorem finishWithdraw_cases (setup : Setup) (call : WithdrawCall) (env : RemovalEnv) (c : Collection) :
    (∃ failureCode, (final ((finishWithdraw setup call env).run c)) = c.failed failureCode ∧
      call.joined = true ∧ c.worker = true) ∨
    (final ((finishWithdraw setup call env).run c)) = c.closed ∨
    (∃ removed, c.quiesced.Removes removed ∧ final ((finishWithdraw setup call env).run c) = c.rollback removed ∧
      removed.session = c.session) ∨
    (∃ inventory removed, withdrawalInventory setup c.session c.directory = .ok inventory ∧
      c.quiesced.Removes removed ∧
      (finishWithdraw setup call env).run c = .ok () (removed.withdrawn call inventory)) := by
  by_cases hwait : call.joined = true ∧ c.worker = true
  · rw [finishWithdraw_timeout hwait, locked_run, failLocked_run]
    by_cases hclose : env.closeRaises = true ∧ c.memory.stream.isSome = true
    · rw [if_pos hclose]
      exact .inr (.inl rfl)
    · rw [if_neg hclose]
      exact .inl ⟨_, rfl, hwait⟩
  · by_cases hclose : env.closeRaises = true ∧ c.memory.stream.isSome = true
    · rw [finishWithdraw_raises hwait hclose]
      exact .inr (.inr (.inl ⟨c.quiesced, .refl _, rfl, rfl⟩))
    · rw [finishWithdraw_run hwait hclose]
      cases hinventory : withdrawalInventory setup c.session c.directory with
      | error e => exact .inr (.inr (.inl ⟨c.quiesced, .refl _, rfl, rfl⟩))
      | ok inventory =>
        dsimp only
        have hremoves := stepwise_removes env.fault
          (removalSteps_removes call.decision inventory c.directory.isSome) c.quiesced
        cases hrun : (stepwise env.fault (removalSteps call.decision inventory c.directory.isSome)).run c.quiesced with
        | error e removed =>
          rw [hrun] at hremoves
          exact .inr (.inr (.inl ⟨removed, hremoves, rfl, hremoves.session⟩))
        | ok _ removed =>
          rw [hrun] at hremoves
          exact .inr (.inr (.inr ⟨inventory, removed, rfl, hremoves, rfl⟩))

/-! ## `withdraw_test_artifacts` -/

def Collection.testWithdrawn (c : Collection) : Collection :=
  ({ c with session := { c.session with state := .withdrawn } } : Collection).logged .testArtifactsWithdrawn

theorem withdrawTestArtifacts_cases (setup : Setup) (fault : Option Fault) (c : Collection) :
    (∃ e removed, (withdrawTestArtifacts setup fault).run c = .error e removed ∧ c.Removes removed ∧
      (c.session.state.isOver = false → removed = c)) ∨
    (∃ removed, (withdrawTestArtifacts setup fault).run c = .ok () removed.testWithdrawn ∧ c.Removes removed ∧
      c.session.sourceKind ≠ .real ∧ (c.session.state = .sealed ∨ c.session.state = .failed)) := by
  have hrun : (withdrawTestArtifacts setup fault).run c = _ := rfl
  conv at hrun => rhs; unfold withdrawTestArtifacts
  rw [locked_run, run_bind_ok (EStateM.run_get c)] at hrun
  rw [hrun]
  by_cases hreal : c.session.sourceKind = .real
  · rw [if_pos hreal]
    exact .inl ⟨_, c, rfl, .refl c, fun _ => rfl⟩
  · rw [if_neg hreal]
    by_cases hstate : c.session.state ≠ .sealed ∧ c.session.state ≠ .failed
    · rw [if_pos hstate]
      exact .inl ⟨_, c, rfl, .refl c, fun _ => rfl⟩
    · rw [if_neg hstate, EStateM.run_bind, liftExcept_run]
      have hover : c.session.state = .sealed ∨ c.session.state = .failed := by
        rw [not_and_or, not_not, not_not] at hstate
        exact hstate
      cases withdrawalInventory setup c.session c.directory with
      | error e => exact .inl ⟨e, c, rfl, .refl c, fun _ => rfl⟩
      | ok inventory =>
        dsimp only
        have hsteps : ∀ step ∈ (if c.directory.isSome then deletionSteps inventory else []),
            Keeps Collection.Removes step := by
          intro step hstep
          split at hstep
          · exact deletionSteps_removes inventory step hstep
          · cases hstep
        have hremoves := stepwise_removes fault hsteps c
        rw [EStateM.run_bind]
        cases hremove : (stepwise fault (if c.directory.isSome then deletionSteps inventory else [])).run c with
        | error e removed =>
          rw [hremove] at hremoves
          refine .inl ⟨e, c.rollback removed, rfl,
            ⟨rfl, hremoves.memory, hremoves.worker, hremoves.fresh, hremoves.files⟩, fun hearly => ?_⟩
          rcases hover with hsealed | hfailed
          · rw [hsealed] at hearly
            cases hearly
          · rw [hfailed] at hearly
            cases hearly
        | ok _ removed =>
          rw [hremove] at hremoves
          exact .inr ⟨removed, rfl, hremoves, hreal, hover⟩

/-! ## `recover` -/

structure Collection.Renames (c after : Collection) : Prop where
  session : after.session = c.session
  memory : after.memory = c.memory
  worker : after.worker = c.worker
  fresh : after.fresh = c.fresh
  directory : after.directory.isSome = c.directory.isSome
  nodup : c.names.Nodup → after.names.Nodup
  contents : ∀ file ∈ after.files, ∃ old ∈ c.files, file.2 = old.2

namespace Collection.Renames

theorem refl (c : Collection) : c.Renames c := ⟨rfl, rfl, rfl, rfl, rfl, id, fun file h => ⟨file, h, rfl⟩⟩

theorem trans {a b c : Collection} (hab : a.Renames b) (hbc : b.Renames c) : a.Renames c :=
  ⟨hbc.session.trans hab.session, hbc.memory.trans hab.memory, hbc.worker.trans hab.worker, hbc.fresh.trans hab.fresh,
    hbc.directory.trans hab.directory, hbc.nodup ∘ hab.nodup, fun file h => by
      obtain ⟨middle, hmiddle, heq⟩ := hbc.contents file h
      obtain ⟨old, hold, heq'⟩ := hab.contents middle hmiddle
      exact ⟨old, hold, heq.trans heq'⟩⟩

end Collection.Renames

instance : IsPreorder Collection Collection.Renames where
  refl := .refl
  trans _ _ _ h h' := h.trans h'

theorem renameFile_renames (source destination : String) :
    Keeps Collection.Renames (renameFile source destination) := by
  intro c
  rcases renameFile_cases source destination c with hrun | ⟨content, hcontent, hrun⟩
  · rw [hrun]
    exact .refl c
  · rw [hrun]
    refine ⟨rfl, rfl, rfl, rfl, by simp [Collection.filed, Collection.unfiled], fun h => ?_, fun file hfile => ?_⟩
    · exact filed_nodup (((removeFile_removes source c).files.map Prod.fst).nodup h) destination content
    · exact renamed_content hcontent hfile

def Collection.recovered (c : Collection) : Collection :=
  ({ c with session := { c.session with
      state := .failed
      failureCode := some "RECOVERY_REQUIRED" } } : Collection).logged (.technicalFailure "RECOVERY_REQUIRED")

theorem recoverSession_cases (fault : Option Fault) (c : Collection) :
    (∃ e moved, (recoverSession fault).run c = .error e moved ∧ c.Renames moved) ∨
    (∃ moved, (recoverSession fault).run c = .ok () moved.recovered ∧ c.Renames moved) := by
  have hrenames : Keeps Collection.Renames
      (stepwise fault (c.partials.map fun name => renameFile name (quarantined name))) := by
    refine keeps_stepwise fault fun step hstep => ?_
    obtain ⟨name, -, rfl⟩ := List.mem_map.mp hstep
    exact renameFile_renames name _
  have hmoved := hrenames c
  have hrun : (recoverSession fault).run c = _ := rfl
  conv at hrun => rhs; unfold recoverSession
  rw [locked_run, run_bind_ok (EStateM.run_get c), EStateM.run_bind] at hrun
  rw [hrun]
  cases hmove : (stepwise fault (c.partials.map fun name => renameFile name (quarantined name))).run c with
  | error e moved =>
    rw [hmove] at hmoved
    exact .inl ⟨e, c.rollback moved, rfl,
      ⟨rfl, hmoved.memory, hmoved.worker, hmoved.fresh, hmoved.directory, hmoved.nodup, hmoved.contents⟩⟩
  | ok _ moved =>
    rw [hmove] at hmoved
    exact .inr ⟨moved, rfl, hmoved⟩

theorem recover_run (fault : Option Fault) (hstate : c.session.state = .recording) (hnodup : c.names.Nodup) :
    ∃ moved, c.Renames moved ∧ recover fault c = (if fault.isNone then moved.recovered else moved) ∧
      c.Quarantines (match fault with
        | none => c.partials
        | some fault => c.partials.take fault.steps) moved := by
  have hpartials : c.partials.Nodup := hnodup.filter _
  have hmem : ∀ name ∈ c.partials, name ∈ c.names := fun name h => List.mem_of_mem_filter h
  have hrun : recover fault c = final ((recoverSession fault).run c) := if_pos hstate
  rw [hrun]
  have hsteps : ∀ step ∈ c.partials.map fun name => renameFile name (quarantined name),
      Keeps Collection.Renames step := by
    intro step hstep
    obtain ⟨name, -, rfl⟩ := List.mem_map.mp hstep
    exact renameFile_renames name _
  have hrenames := keeps_stepwise fault hsteps c
  have hrecover : (recoverSession fault).run c = _ := rfl
  conv at hrecover => rhs; unfold recoverSession
  rw [locked_run, run_bind_ok (EStateM.run_get c), EStateM.run_bind] at hrecover
  rw [hrecover]
  cases fault with
  | none =>
    obtain ⟨moved, hmove, hquarantines⟩ := renames_run c.partials hmem hpartials
    rw [hmove] at hrenames ⊢
    exact ⟨moved, hrenames, rfl, hquarantines⟩
  | some fault =>
    obtain ⟨moved, hmove, hquarantines⟩ := renames_run (c.partials.take fault.steps)
      (fun name h => hmem name (List.mem_of_mem_take h)) (hpartials.sublist (List.take_sublist _ _))
    have hstepwise : (stepwise (some fault) (c.partials.map fun name => renameFile name (quarantined name))).run c =
        .error fault.error moved := by
      unfold stepwise interrupted
      rw [List.map_take] at hmove
      exact run_bind_ok hmove
    rw [hstepwise] at hrenames ⊢
    have hrollback : c.rollback moved = moved := by
      unfold Collection.rollback
      rw [← show moved.session = c.session from hrenames.session]
    exact ⟨moved, hrenames, hrollback, hquarantines⟩

theorem recover_cases (fault : Option Fault) (c : Collection) :
    recover fault c.restarted = c.restarted ∨
    c.session.state = .recording ∧ ∃ moved, c.restarted.Renames moved ∧
      (recover fault c.restarted = moved ∨ recover fault c.restarted = moved.recovered) := by
  unfold recover
  by_cases hstate : c.restarted.session.state = .recording
  · rw [if_pos hstate]
    refine .inr ⟨hstate, ?_⟩
    rcases recoverSession_cases fault c.restarted with ⟨e, moved, hrun, hmoved⟩ | ⟨moved, hrun, hmoved⟩
    · rw [hrun]
      exact ⟨moved, hmoved, .inl rfl⟩
    · rw [hrun]
      exact ⟨moved, hmoved, .inr rfl⟩
  · rw [if_neg hstate]
    exact .inl rfl

end PduExamObserver.ResearchRuntime
