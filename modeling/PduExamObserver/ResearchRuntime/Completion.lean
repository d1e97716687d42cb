import PduExamObserver.ResearchRuntime.Recovery

/-! # Completing a withdrawal

A withdrawal whose deletion is interrupted is called again. The second call starts from the files that the first one
has left, and from the row as it was. -/

namespace PduExamObserver.ResearchRuntime
open Stateful Transition
set_option autoImplicit false

variable {setup : Setup} {w : World} {c after : Collection} {row next : Session} {reference : String}
  {answer : AuthorityAnswer} {call : WithdrawCall} {inventory : List InventoryItem} {name : String} {gone : List String}

/-! ## The inventory -/

def itemOf (setup : Setup) (file : String × Content) : InventoryItem :=
  ⟨file.1, setup.digests.sha256 file.2, setup.digests.size file.2⟩

def Session.allowedNames (row : Session) : List String :=
  if row.state = .sealed then row.artifacts.map ArtifactRecord.name else runtimeNames

def Session.Owns (setup : Setup) (row : Session) (file : String × Content) : Prop :=
  file.1 ∈ row.allowedNames ∧ ∀ expected, (row.artifacts.find? fun record => record.name = file.1) = some expected →
    expected.sha256 = setup.digests.sha256 file.2 ∧ expected.sizeBytes = setup.digests.size file.2

theorem inventoryItem_eq (allowed : List String) (file : String × Content) (item : InventoryItem)
    (h : inventoryItem setup row allowed file = .ok item) : item = itemOf setup file := by
  unfold inventoryItem at h
  dsimp only at h
  split at h
  · cases h
  · split at h
    · cases h
      rfl
    · split at h
      · cases h
      · cases h
        rfl

theorem inventoryItem_ok_iff (file : String × Content) :
    inventoryItem setup row row.allowedNames file = .ok (itemOf setup file) ↔ row.Owns setup file := by
  unfold inventoryItem Session.Owns
  dsimp only
  by_cases hallowed : file.1 ∈ row.allowedNames
  · rw [if_neg (not_not.mpr hallowed)]
    cases hfind : row.artifacts.find? fun record => record.name = file.1 with
    | none => simp [itemOf, hallowed]
    | some expected =>
      dsimp only
      by_cases hmatches : expected.sha256 = setup.digests.sha256 file.2 ∧ expected.sizeBytes = setup.digests.size file.2
      · rw [if_neg (by simp [hmatches])]
        simp [itemOf, hallowed, hmatches]
      · rw [if_pos (by rwa [not_and_or] at hmatches)]
        simp [hallowed, hmatches]
  · rw [if_pos hallowed]
    simp [hallowed]

theorem withdrawalInventory_ok_iff (files : Directory) :
    withdrawalInventory setup row (some files) = .ok inventory ↔
      (row.state = .sealed → verifyArtifacts setup row (some files) = .ok ()) ∧ (∀ file ∈ files, row.Owns setup file) ∧
        inventory = (files.insertionSort fun a b => a.1 ≤ b.1).map (itemOf setup) := by
  have hloop : ∀ result, ((files.insertionSort fun a b => a.1 ≤ b.1).mapM (inventoryItem setup row row.allowedNames)) =
      .ok result ↔ (∀ file ∈ files, row.Owns setup file) ∧
        result = (files.insertionSort fun a b => a.1 ≤ b.1).map (itemOf setup) := by
    intro result
    rw [mapM_eq_ok_iff (inventoryItem_eq row.allowedNames)]
    simp only [List.mem_insertionSort, inventoryItem_ok_iff]
  unfold withdrawalInventory
  dsimp only
  by_cases hsealed : row.state = .sealed
  · rw [if_pos hsealed, bind_ok_iff]
    constructor
    · rintro ⟨⟨⟩, hverify, hrest⟩
      exact ⟨fun _ => hverify, (hloop inventory).mp hrest⟩
    · rintro ⟨hverify, hrest⟩
      exact ⟨(), hverify hsealed, (hloop inventory).mpr hrest⟩
  · rw [if_neg hsealed]
    constructor
    · intro hrest
      exact ⟨fun h => absurd h hsealed, (hloop inventory).mp hrest⟩
    · rintro ⟨-, hrest⟩
      exact (hloop inventory).mpr hrest

/-! ## The deletion -/

def Collection.without (c : Collection) (gone : List String) : Collection :=
  { c with directory := c.directory.map fun directory => directory.filter fun file => file.1 ∉ gone }

theorem without_files (c : Collection) (gone : List String) :
    (c.without gone).files = c.files.filter fun file => file.1 ∉ gone := by
  unfold Collection.files Collection.without
  cases c.directory with
  | none => rfl
  | some directory => rfl

theorem unlinkFile_run (h : name ∈ c.names) : (unlinkFile name).run c = .ok () (c.unfiled name) := by
  unfold unlinkFile
  rw [run_bind_ok (EStateM.run_get c), if_pos (hasFile_iff.mpr h)]
  rfl

theorem stepwise_cons (first : Op Unit) (rest : List (Op Unit)) :
    stepwise none (first :: rest) = first >>= fun _ => stepwise none rest := rfl

theorem stepwise_some (fault : Fault) (steps : List (Op Unit)) :
    stepwise (some fault) steps = stepwise none (steps.take fault.steps) >>= fun _ => throw fault.error := rfl

theorem unlinks_run (hmem : ∀ name ∈ gone, name ∈ c.names) (hnodup : gone.Nodup) :
    (stepwise none (gone.map unlinkFile)).run c = .ok () (c.without gone) := by
  induction gone generalizing c with
  | nil =>
    have hsame : c.without [] = c := by
      unfold Collection.without
      cases hdirectory : c.directory with
      | none => simp [← hdirectory]
      | some directory => simp [← hdirectory]
    rw [hsame]
    rfl
  | cons first rest ih =>
    obtain ⟨hfirst, hrest⟩ := List.nodup_cons.mp hnodup
    rw [List.map_cons, stepwise_cons, run_bind_ok (unlinkFile_run (hmem first List.mem_cons_self)), ih _ hrest]
    · congr 1
      unfold Collection.without Collection.unfiled Directory.erase
      cases c.directory with
      | none => rfl
      | some directory =>
        simp only [Option.map_some, List.filter_filter, Collection.mk.injEq, Option.some.injEq, true_and, and_true]
        apply List.filter_congr
        intro file _
        by_cases hname : file.1 = first <;> simp [hname]
    · intro name hname
      exact mem_unfiled_names.mpr ⟨hmem name (List.mem_cons_of_mem _ hname), fun heq => hfirst (heq ▸ hname)⟩

theorem deletion_run (hdirectory : c.directory.isSome = true) (hgone : ∀ name, name ∈ gone ↔ name ∈ c.names)
    (hnodup : gone.Nodup) :
    (stepwise none (gone.map unlinkFile ++ [removeDirectory])).run c = .ok () { c with directory := none } := by
  have hsplit : stepwise none (gone.map unlinkFile ++ [removeDirectory]) =
      stepwise none (gone.map unlinkFile) >>= fun _ => stepwise none [removeDirectory] := List.forM_append
  rw [hsplit, run_bind_ok (unlinks_run (fun name h => (hgone name).mp h) hnodup)]
  obtain ⟨directory, hsome⟩ := Option.isSome_iff_exists.mp hdirectory
  have hempty : (c.without gone).directory = some [] := by
    have hfiles := without_files c gone
    rw [List.filter_eq_nil_iff.mpr] at hfiles
    · unfold Collection.without at hfiles ⊢
      rw [hsome] at hfiles ⊢
      exact congrArg some hfiles
    · intro file hfile
      have hname : file.1 ∈ gone := (hgone file.1).mpr (List.mem_map_of_mem hfile)
      simp [hname]
  have hremove : removeDirectory.run (c.without gone) = .ok () { c with directory := none } := by
    unfold removeDirectory
    rw [run_bind_ok (EStateM.run_get _), if_pos hempty]
    rfl
  rw [stepwise_cons, run_bind_ok hremove]
  rfl

def Collection.leftBy (c : Collection) (gone : List String) (fault : Fault) : Collection :=
  if fault.steps ≤ gone.length then c.without (gone.take fault.steps) else { c with directory := none }

theorem deletion_interrupted (hdirectory : c.directory.isSome = true) (hgone : ∀ name, name ∈ gone ↔ name ∈ c.names)
    (hnodup : gone.Nodup) (fault : Fault) :
    (stepwise (some fault) (gone.map unlinkFile ++ [removeDirectory])).run c = .error fault.error (c.leftBy gone fault) := by
  rw [stepwise_some, Collection.leftBy]
  by_cases hsteps : fault.steps ≤ gone.length
  · rw [if_pos hsteps, List.take_append_of_le_length (by simpa using hsteps), ← List.map_take,
      run_bind_ok (unlinks_run (fun name h => (hgone name).mp (List.mem_of_mem_take h))
        (hnodup.sublist (List.take_sublist _ _)))]
    rfl
  · rw [if_neg hsteps, List.take_of_length_le (by simp; omega), run_bind_ok (deletion_run hdirectory hgone hnodup)]
    rfl

/-! ## A whole call -/

/-- A call of `withdraw` that no other call comes between; `joins` says that the worker ends while it is joined. -/
def withdraw (setup : Setup) (reference : String) (answer : AuthorityAnswer) (joins : Bool) (env : RemovalEnv) :
    Op Unit := do
  let call ← beginWithdraw setup reference answer
  if joins then workerEnds
  finishWithdraw setup call env

def Collection.joined (c : Collection) (joins : Bool) : Collection := if joins then { c with worker := false } else c

theorem joined_session (joins : Bool) : (c.joined joins).session = c.session := by
  cases joins <;> rfl

theorem joined_directory (joins : Bool) : (c.joined joins).directory = c.directory := by
  cases joins <;> rfl

theorem withdraw_run (hcall : withdrawalCall setup c.session c.memory.captureThread reference answer = .ok call)
    (joins : Bool) (env : RemovalEnv) :
    (withdraw setup reference answer joins env).run c = (finishWithdraw setup call env).run (c.joined joins) := by
  have hbegin : (beginWithdraw setup reference answer).run c = .ok call c := by
    unfold beginWithdraw
    rw [run_bind_ok (EStateM.run_get c), hcall]
    rfl
  unfold withdraw
  rw [run_bind_ok hbegin]
  cases joins <;> rfl

theorem withdrawalCall_joined {joined : Bool}
    (h : withdrawalCall setup row joined reference answer = .ok call) : call.joined = joined := by
  unfold withdrawalCall at h
  split at h
  · cases h
  · split at h
    · cases h
    · obtain ⟨record, -, h⟩ := bind_ok_iff.mp h
      split at h
      · cases h
      · obtain ⟨decision, -, h⟩ := bind_ok_iff.mp h
        split at h
        · cases h
        · cases h
          rfl

theorem validateAuthority_withdrawal {again : AuthorityAnswer} (h : again.record = answer.record) :
    validateAuthority setup again reference true = validateAuthority setup answer reference true := by
  unfold validateAuthority
  rw [h]
  simp [authorityBinds]

theorem withdrawalCall_again {joined joined' : Bool} {again : AuthorityAnswer}
    (h : withdrawalCall setup row joined reference answer = .ok call) (hrecord : again.record = answer.record)
    (hkind : next.sourceKind = row.sourceKind) (hid : next.sessionId = row.sessionId)
    (hpseudonym : next.participantPseudonym = row.participantPseudonym)
    (hstate : next.state = row.state ∨ next.state = .failed) :
    withdrawalCall setup next joined' reference again = .ok { call with joined := joined' } := by
  unfold withdrawalCall at h ⊢
  split at h
  · cases h
  · next hreal =>
    split at h
    · cases h
    · next hopen =>
      have hnext : ¬ (next.state = .withdrawn ∨ next.state = .draft) := by
        rcases hstate with hsame | hfailed
        · rwa [hsame]
        · simp [hfailed]
      rw [hkind, if_neg hreal, if_neg hnext, hid, hpseudonym, validateAuthority_withdrawal hrecord]
      obtain ⟨record, hvalid, h⟩ := bind_ok_iff.mp h
      rw [hvalid, ok_bind]
      split at h
      · cases h
      · next hmatch =>
        rw [if_neg hmatch]
        obtain ⟨decision, hdecision, h⟩ := bind_ok_iff.mp h
        rw [hdecision, ok_bind]
        split at h
        · cases h
        · next hdigest =>
          rw [if_neg hdigest]
          cases h
          rfl

def DeletionAllowed (setup : Setup) (reference : String) (answer : AuthorityAnswer) (joins : Bool) (c : Collection) : Prop :=
  ∃ call, (beginWithdraw setup reference answer).run c = .ok call c ∧ call.decision = .deleteOwnedRuntimeArtifacts ∧
    ∃ after, (withdraw setup reference answer joins {}).run c = .ok () after ∧ after.session.state = .withdrawn

def Completes (setup : Setup) (reference : String) (answer : AuthorityAnswer) (joins : Bool) (c : Collection) : Prop :=
  ∃ after, (withdraw setup reference answer joins {}).run c = .ok () after ∧ after.session.state = .withdrawn ∧
    after.directory = none

theorem beginWithdraw_ok (h : (beginWithdraw setup reference answer).run c = .ok call after) :
    withdrawalCall setup c.session c.memory.captureThread reference answer = .ok call := by
  unfold beginWithdraw at h
  rw [run_bind_ok (EStateM.run_get c)] at h
  exact (liftExcept_eq_ok h).1

theorem allowed_parts {joins : Bool} (h : DeletionAllowed setup reference answer joins c) :
    ∃ call inventory, withdrawalCall setup c.session c.memory.captureThread reference answer = .ok call ∧
      call.decision = .deleteOwnedRuntimeArtifacts ∧ ¬ (call.joined = true ∧ (c.joined joins).worker = true) ∧
      withdrawalInventory setup c.session c.directory = .ok inventory := by
  obtain ⟨call, hbegin, hdecision, after, hrun, hstate⟩ := h
  have hcall := beginWithdraw_ok hbegin
  rw [withdraw_run hcall] at hrun
  by_cases hwait : call.joined = true ∧ (c.joined joins).worker = true
  · rw [finishWithdraw_timeout hwait, locked_run, failLocked_run, if_neg (by simp)] at hrun
    cases hrun
    cases hstate
  · rw [finishWithdraw_run hwait (by simp), joined_session, joined_directory] at hrun
    cases hinventory : withdrawalInventory setup c.session c.directory with
    | error e =>
      rw [hinventory] at hrun
      cases hrun
    | ok inventory => exact ⟨call, inventory, hcall, hdecision, hwait, rfl⟩

theorem inventory_perm (h : withdrawalInventory setup row c.directory = .ok inventory) :
    (inventory.map InventoryItem.name).Perm c.names := by
  unfold Collection.names Collection.files
  cases hdirectory : c.directory with
  | none =>
    rw [hdirectory] at h
    cases h
    exact .refl _
  | some files =>
    rw [hdirectory, withdrawalInventory_ok_iff] at h
    obtain ⟨-, -, rfl⟩ := h
    rw [List.map_map]
    exact (List.perm_insertionSort _ files).map Prod.fst

theorem withdraw_interrupted {joins : Bool} (h : DeletionAllowed setup reference answer joins c) (hnodup : c.names.Nodup)
    (fault : Fault) :
    ∃ (left : Collection) (gone : List String),
      final ((withdraw setup reference answer joins { fault := some fault }).run c) = left ∧ gone.Perm c.names ∧ left.session = c.session ∧ left.memory.captureThread = false ∧
      left.directory = if fault.steps ≤ gone.length then (c.without (gone.take fault.steps)).directory else none := by
  obtain ⟨call, inventory, hcall, hdecision, hwait, hinventory⟩ := allowed_parts h
  obtain ⟨gone, hgone⟩ : ∃ gone, gone = inventory.map InventoryItem.name := ⟨_, rfl⟩
  have hperm : gone.Perm c.names := hgone ▸ inventory_perm hinventory
  refine ⟨_, gone, rfl, hperm, ?_⟩
  rw [withdraw_run hcall, finishWithdraw_run hwait (by simp), joined_session, joined_directory, hinventory]
  dsimp only
  rw [hdecision, removalSteps]
  cases hdirectory : c.directory with
  | none =>
    have hnothing : (stepwise (some fault) []).run (c.joined joins).quiesced =
        .error fault.error (c.joined joins).quiesced := by
      rw [stepwise_some, List.take_nil]
      rfl
    rw [if_pos (show (!(none : Option Directory).isSome) = true from rfl), hnothing]
    refine ⟨joined_session joins, rfl, ?_⟩
    have hgone : (c.joined joins).quiesced.directory = none := (joined_directory joins).trans hdirectory
    unfold Collection.without
    rw [hdirectory, Option.map_none, ite_self]
    exact hgone
  | some files =>
    have hsteps : deletionSteps inventory = gone.map unlinkFile ++ [removeDirectory] := by
      rw [hgone, List.map_map]
      rfl
    have hquiesced : (c.joined joins).quiesced.directory = c.directory := joined_directory joins
    have hnames : (c.joined joins).quiesced.names = c.names := names_congr hquiesced
    rw [if_neg (by simp), hsteps, deletion_interrupted (by rw [hquiesced, hdirectory]; rfl)
      (fun name => by rw [hnames]; exact hperm.mem_iff) (hperm.nodup_iff.mpr hnodup) fault]
    dsimp only [final_error]
    refine ⟨joined_session joins, ?_, ?_⟩
    · change ((c.joined joins).quiesced.leftBy gone fault).memory.captureThread = false
      unfold Collection.leftBy
      split <;> rfl
    · change ((c.joined joins).quiesced.leftBy gone fault).directory = _
      unfold Collection.leftBy
      split
      · unfold Collection.without
        rw [hquiesced]
      · rfl

theorem completes_iff (hcall : withdrawalCall setup c.session c.memory.captureThread reference answer = .ok call)
    (hdecision : call.decision = .deleteOwnedRuntimeArtifacts) (hthread : c.memory.captureThread = false)
    (hnodup : c.names.Nodup) (joins : Bool) :
    Completes setup reference answer joins c ↔
      ∃ inventory, withdrawalInventory setup c.session c.directory = .ok inventory := by
  have hwait : ¬ (call.joined = true ∧ (c.joined joins).worker = true) := by
    rw [withdrawalCall_joined hcall, hthread]
    simp
  unfold Completes
  rw [withdraw_run hcall, finishWithdraw_run hwait (by simp), joined_session, joined_directory]
  cases hinventory : withdrawalInventory setup c.session c.directory with
  | error e => simp
  | ok inventory =>
    dsimp only
    refine ⟨fun _ => ⟨inventory, rfl⟩, fun _ => ?_⟩
    have hperm := inventory_perm hinventory
    have hquiesced : (c.joined joins).quiesced.directory = c.directory := joined_directory joins
    rw [hdecision, removalSteps]
    cases hdirectory : c.directory with
    | none => exact ⟨_, rfl, rfl, hquiesced.trans hdirectory⟩
    | some files =>
      have hnames : (c.joined joins).quiesced.names = c.names := names_congr hquiesced
      have hsteps : deletionSteps inventory = (inventory.map InventoryItem.name).map unlinkFile ++ [removeDirectory] := by
        rw [List.map_map]
        rfl
      rw [if_neg (by simp), hsteps, deletion_run (by rw [hquiesced, hdirectory]; rfl)
        (fun name => by rw [hnames]; exact hperm.mem_iff) (hperm.nodup_iff.mpr hnodup)]
      exact ⟨_, rfl, rfl, rfl⟩

/-! ## The call again -/

def Collection.resumed (c : Collection) (restarts : Bool) : Collection :=
  if restarts then recover none c.restarted else c

theorem inventory_sealed_missing (hsealed : row.state = .sealed) {files left : Directory} (name : String)
    (howned : ∀ file ∈ files, row.Owns setup file) (hname : name ∈ files.map Prod.fst)
    (hgone : name ∉ left.map Prod.fst) : ¬ ∃ inventory, withdrawalInventory setup row (some left) = .ok inventory := by
  rintro ⟨inventory, hinventory⟩
  have hverify := ((withdrawalInventory_ok_iff left).mp hinventory).1 hsealed
  obtain ⟨file, hfile, rfl⟩ := List.mem_map.mp hname
  have hallowed := (howned file hfile).1
  rw [Session.allowedNames, if_pos hsealed] at hallowed
  obtain ⟨record, hrecord, hsame⟩ := List.mem_map.mp hallowed
  have hmatches : recordMatches setup (some left) record = true := by
    unfold verifyArtifacts at hverify
    dsimp only at hverify
    split at hverify
    · cases hverify
    · split at hverify
      · next hall => exact List.all_eq_true.mp hall record hrecord
      · cases hverify
  have hlookup : left.lookup record.name = none := by
    rw [← Option.not_isSome_iff_eq_none, List.lookup_isSome_iff, hsame]
    simpa using hgone
  unfold recordMatches at hmatches
  rw [Option.getD_some, hlookup] at hmatches
  cases hmatches

theorem quarantined_not_final (h : name ∈ partialNames) : quarantined name ∉ finalNames := by
  intro hfinal
  have hpartial := quarantined_isPartial (isPartial_of_partialNames h)
  rw [isPartial_of_finalNames hfinal] at hpartial
  cases hpartial

theorem resumed_inventory {left : Collection} (hsession : left.session = c.session) (hsub : ∀ file ∈ left.files, file ∈ c.files)
    (hnodup : left.names.Nodup) (hsealed : c.session.state ≠ .sealed) (howned : ∀ file ∈ c.files, c.session.Owns setup file)
    (hartifacts : ∀ record ∈ c.session.artifacts, record.name ∈ finalNames)
    (hnames : c.session.state = .recording → ∀ name ∈ c.names, name ∈ finalNames ∨ name ∈ partialNames)
    (restarts : Bool) :
    ∃ inventory, withdrawalInventory setup (left.resumed restarts).session (left.resumed restarts).directory =
      .ok inventory := by
  have haccepted : ∀ d : Collection, d.session.state ≠ .sealed → (∀ file ∈ d.files, d.session.Owns setup file) →
      ∃ inventory, withdrawalInventory setup d.session d.directory = .ok inventory := by
    intro d hd hfiles
    unfold Collection.files at hfiles
    cases hdirectory : d.directory with
    | none => exact ⟨[], rfl⟩
    | some files =>
      rw [hdirectory] at hfiles
      exact ⟨_, (withdrawalInventory_ok_iff files).mpr ⟨fun h => absurd h hd, hfiles, rfl⟩⟩
  have hleft : ∀ d : Collection, d.session = left.session → d.directory = left.directory →
      ∃ inventory, withdrawalInventory setup d.session d.directory = .ok inventory := by
    intro d hdSession hdDirectory
    refine haccepted d (by rw [hdSession, hsession]; exact hsealed) fun file hfile => ?_
    unfold Collection.files at hfile
    rw [hdDirectory] at hfile
    rw [hdSession, hsession]
    exact howned file (hsub file hfile)
  cases restarts with
  | false => exact hleft left rfl rfl
  | true =>
    by_cases hrecording : c.session.state = .recording
    · obtain ⟨moved, hmoved, hrun, hquarantines⟩ :=
        recover_run (c := left.restarted) none ((congrArg Session.state hsession).trans hrecording) hnodup
      have hresumed : left.resumed true = moved.recovered := hrun
      rw [hresumed]
      have hrows : moved.recovered.session.artifacts = c.session.artifacts :=
        (congrArg Session.artifacts hmoved.session).trans (congrArg Session.artifacts hsession)
      have hfailed : moved.recovered.session.state ≠ .sealed := fun h => by cases h
      have hallowed : moved.recovered.session.allowedNames = runtimeNames := if_neg hfailed
      refine haccepted _ hfailed fun file hfile => ?_
      unfold Session.Owns
      rw [hrows, hallowed]
      rcases hquarantines.origin file hfile with ⟨hold, -⟩ | ⟨old, hold, hname⟩
      · have howns := howned file (hsub file hold)
        unfold Session.Owns Session.allowedNames at howns
        rwa [if_neg hsealed] at howns
      · obtain ⟨hmem, hpartial⟩ := mem_partials.mp hold
        obtain ⟨oldFile, holdFile, rfl⟩ := List.mem_map.mp hmem
        have hold : oldFile.1 ∈ partialNames := by
          rcases hnames hrecording _ (List.mem_map_of_mem (hsub oldFile holdFile)) with hfinal | hpartialName
          · rw [isPartial_of_finalNames hfinal] at hpartial
            cases hpartial
          · exact hpartialName
        rw [hname]
        refine ⟨List.mem_append_right _ (List.mem_map_of_mem hold), fun expected hexpected => ?_⟩
        have hfinal := hartifacts expected (List.mem_of_find?_eq_some hexpected)
        have hrecord : expected.name = quarantined oldFile.1 := by simpa using List.find?_some hexpected
        rw [hrecord] at hfinal
        exact absurd hfinal (quarantined_not_final hold)
    · have hsame : left.resumed true = left.restarted := if_neg fun h => hrecording ((congrArg Session.state hsession).symm.trans h)
      rw [hsame]
      exact hleft _ rfl rfl

/-- A withdrawal with a deletion that was allowed and is interrupted, called again in the same process or in the next
one, comes to its end exactly if the session is not sealed, no file was deleted, or the directory was gone already. -/
theorem withdraw_again_iff (setup : Setup) : ∀ w, Reachable (service setup) w → w.running = true → ∀ c ∈ w.collections,
    ∀ reference answer joins, DeletionAllowed setup reference answer joins c →
    ∀ fault restarts again joins', again.record = answer.record →
      (Completes setup reference again joins'
          ((final ((withdraw setup reference answer joins { fault := some fault }).run c)).resumed restarts) ↔
        c.session.state ≠ .sealed ∨ fault.steps = 0 ∨ c.names.length < fault.steps) := by
  intro w hreach hrunning c hmem reference answer joins hallowed fault restarts again joins' hrecord
  have hsound := reachable_sound hreach c hmem
  obtain ⟨left, gone, hleft, hperm, hsession, hthread, hdirectory⟩ := withdraw_interrupted hallowed hsound.nodup fault
  rw [hleft]
  obtain ⟨call, inventory, hcall, hdecision, -, hinventory⟩ := allowed_parts hallowed
  -- the files that are left
  have hsub : ∀ file ∈ left.files, file ∈ c.files := by
    intro file hfile
    unfold Collection.files at hfile
    rw [hdirectory] at hfile
    split at hfile
    · change file ∈ (c.without _).files at hfile
      rw [without_files] at hfile
      exact List.mem_of_mem_filter hfile
    · cases hfile
  have hnodup : left.names.Nodup := by
    unfold Collection.names Collection.files
    rw [hdirectory]
    split
    · change ((c.without _).files.map Prod.fst).Nodup
      rw [without_files]
      exact (List.filter_sublist.map Prod.fst).nodup hsound.nodup
    · exact List.nodup_nil
  have howned : ∀ file ∈ c.files, c.session.Owns setup file := by
    unfold Collection.files
    cases hsome : c.directory with
    | none => exact fun file h => by cases h
    | some files =>
      rw [hsome, withdrawalInventory_ok_iff] at hinventory
      exact hinventory.2.1
  -- the session that the second call finds
  have hresumed : (left.resumed restarts).names.Nodup ∧ (left.resumed restarts).memory.captureThread = false ∧
      ((left.resumed restarts).session = c.session ∨
        c.session.state = .recording ∧ ∃ moved : Collection, moved.session = c.session ∧
          left.resumed restarts = moved.recovered) := by
    cases restarts with
    | false => exact ⟨hnodup, hthread, .inl hsession⟩
    | true =>
      by_cases hrecording : c.session.state = .recording
      · obtain ⟨moved, hmoved, hrun, -⟩ :=
          recover_run (c := left.restarted) none ((congrArg Session.state hsession).trans hrecording) hnodup
        have hnext : left.resumed true = moved.recovered := hrun
        rw [hnext]
        refine ⟨hmoved.nodup hnodup, congrArg Memory.captureThread hmoved.memory, .inr ⟨hrecording, moved, ?_, rfl⟩⟩
        exact hmoved.session.trans hsession
      · have hsame : left.resumed true = left.restarted :=
          if_neg fun h => hrecording ((congrArg Session.state hsession).symm.trans h)
        rw [hsame]
        exact ⟨hnodup, rfl, .inl hsession⟩
  obtain ⟨hnodupNext, hthreadNext, hsessionNext⟩ := hresumed
  have hcallNext : withdrawalCall setup (left.resumed restarts).session (left.resumed restarts).memory.captureThread
      reference again = .ok { call with joined := (left.resumed restarts).memory.captureThread } := by
    rcases hsessionNext with hsame | ⟨-, moved, hmoved, hnext⟩
    · exact withdrawalCall_again hcall hrecord (by rw [hsame]) (by rw [hsame]) (by rw [hsame]) (.inl (by rw [hsame]))
    · have hkind : moved.session.sourceKind = c.session.sourceKind := by rw [hmoved]
      have hid : moved.session.sessionId = c.session.sessionId := by rw [hmoved]
      have hpseudonym : moved.session.participantPseudonym = c.session.participantPseudonym := by rw [hmoved]
      rw [hnext]
      exact withdrawalCall_again hcall hrecord hkind hid hpseudonym (.inr rfl)
  rw [completes_iff hcallNext hdecision hthreadNext hnodupNext]
  have hlength := hperm.length_eq
  have hcount : c.names.length = c.files.length := List.length_map ..
  by_cases hsealed : c.session.state = .sealed
  · -- the row and the files are those that the interrupted call has left
    have hsame : (left.resumed restarts).session = c.session ∧ (left.resumed restarts).directory = left.directory := by
      cases restarts with
      | false => exact ⟨hsession, rfl⟩
      | true =>
        have hstate : left.restarted.session.state ≠ .recording := by
          rw [show left.restarted.session = c.session from hsession, hsealed]
          decide
        have hnext : left.resumed true = left.restarted := if_neg hstate
        rw [hnext]
        exact ⟨hsession, rfl⟩
    rw [hsame.1, hsame.2, hdirectory]
    by_cases hlate : fault.steps ≤ gone.length
    · rw [if_pos hlate]
      by_cases hzero : fault.steps = 0
      · have hkept : (c.without (gone.take fault.steps)).directory = c.directory := by
          rw [hzero]
          unfold Collection.without
          cases c.directory <;> simp
        rw [hkept]
        exact iff_of_true ⟨inventory, hinventory⟩ (.inr (.inl hzero))
      · have hcondition : ¬ (c.session.state ≠ .sealed ∨ fault.steps = 0 ∨ c.names.length < fault.steps) := by
          rintro (hstate | hsteps | hsteps)
          · exact hstate hsealed
          · exact hzero hsteps
          · omega
        refine iff_of_false ?_ hcondition
        cases hsome : c.directory with
        | none =>
          have hempty : c.names = [] := by
            unfold Collection.names Collection.files
            rw [hsome]
            rfl
          rw [hempty, List.length_nil] at hlength
          omega
        | some files =>
          have hwithout : (c.without (gone.take fault.steps)).directory =
              some (files.filter fun file => file.1 ∉ gone.take fault.steps) := by
            unfold Collection.without
            rw [hsome]
            rfl
          rw [hwithout]
          have hfiles : c.files = files := by
            unfold Collection.files
            rw [hsome]
            rfl
          rw [hfiles] at howned
          obtain ⟨first, hfirst⟩ := List.exists_mem_of_ne_nil (gone.take fault.steps) (by
            rw [Ne, List.take_eq_nil_iff, ← List.length_eq_zero_iff]
            omega)
          refine inventory_sealed_missing hsealed first howned ?_ ?_
          · have hname := hperm.mem_iff.mp (List.mem_of_mem_take hfirst)
            unfold Collection.names at hname
            rwa [hfiles] at hname
          · intro hleftName
            obtain ⟨file, hfile, rfl⟩ := List.mem_map.mp hleftName
            have hnot := (List.mem_filter.mp hfile).2
            simp [hfirst] at hnot
    · rw [if_neg hlate]
      exact iff_of_true ⟨[], rfl⟩ (.inr (.inr (by omega)))
  · refine iff_of_true ?_ (.inl hsealed)
    exact resumed_inventory hsession hsub hnodup hsealed howned hsound.artifacts
      (fun hrecording => reachable_names hreach c hmem (by rw [hrecording]; rfl) fun _ => hrunning) restarts

namespace Sample

def sealed : List Action := recording ++ sealing

theorem deletion_allowed : ∃ c ∈ (run sealed).collections, DeletionAllowed Sample.setup "A" Sample.answer false c ∧
    returned ((withdraw Sample.setup "A" Sample.answer false {}).run
      (final ((withdraw Sample.setup "A" Sample.answer false { fault := some ⟨1, false⟩ }).run c))) = none := by
  have hsample : ∃ c ∈ (run sealed).collections,
      (returned ((beginWithdraw Sample.setup "A" Sample.answer).run c)).map WithdrawCall.decision = some .deleteOwnedRuntimeArtifacts ∧
      returned ((withdraw Sample.setup "A" Sample.answer false {}).run c) = some () ∧
      (final ((withdraw Sample.setup "A" Sample.answer false {}).run c)).session.state = .withdrawn ∧
      returned ((withdraw Sample.setup "A" Sample.answer false {}).run
        (final ((withdraw Sample.setup "A" Sample.answer false { fault := some ⟨1, false⟩ }).run c))) = none := by
    decide +kernel
  obtain ⟨c, hmem, hdecision, hreturned, hstate, hnone⟩ := hsample
  obtain ⟨call, hcall, hdeletes⟩ := Option.map_eq_some_iff.mp hdecision
  have hbegin := eq_ok_of_returned hcall
  rw [beginWithdraw_final] at hbegin
  exact ⟨c, hmem, ⟨call, hbegin, hdeletes, _, eq_ok_of_returned hreturned, hstate⟩, hnone⟩

end Sample

/-- The deletion of the sealed sample session is interrupted after its first file; the call again does not complete. -/
theorem withdraw_again_fails : ∃ c ∈ (Sample.run Sample.sealed).collections,
    DeletionAllowed Sample.setup "A" Sample.answer false c ∧
      ¬ Completes Sample.setup "A" Sample.answer false
        (final ((withdraw Sample.setup "A" Sample.answer false { fault := some ⟨1, false⟩ }).run c)) := by
  obtain ⟨c, hmem, hallowed, hnone⟩ := Sample.deletion_allowed
  refine ⟨c, hmem, hallowed, ?_⟩
  rintro ⟨after, hrun, -⟩
  rw [hrun] at hnone
  cases hnone

/-- The deletion is interrupted before its first file, and completed in the next process. -/
theorem withdraw_again_sample : ∃ c ∈ (Sample.run Sample.sealed).collections,
    Completes Sample.setup "A" Sample.answer false
      ((final ((withdraw Sample.setup "A" Sample.answer false { fault := some ⟨0, true⟩ }).run c)).resumed true) := by
  have hrunning : (Sample.run Sample.sealed).running = true := by decide +kernel
  obtain ⟨c, hmem, hallowed, -⟩ := Sample.deletion_allowed
  refine ⟨c, hmem, ?_⟩
  exact (withdraw_again_iff Sample.setup _ (Sample.run_reachable _) hrunning c hmem "A" Sample.answer false hallowed
    ⟨0, true⟩ true Sample.answer false rfl).mpr (.inr (.inl rfl))

end PduExamObserver.ResearchRuntime
