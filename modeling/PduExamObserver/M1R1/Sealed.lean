import PduExamObserver.M1R1.Store

/-! # Sealed artifacts keep their files

The database compares artifact ids exactly, the file system up to case. An intent that is neither sealed nor
quarantined still moves the files that its id denotes, and the guard of `persist` does not look at intents. -/

namespace PduExamObserver.M1R1
open M1 Table Folder Transition
set_option autoImplicit false

/-! ## What is kept -/

/-- `recover` will move the files of the intent's artifact. -/
def WriteIntent.Unresolved (row : WriteIntent) : Prop := row.status = .pending ∨ row.status = .failed

instance (row : WriteIntent) : Decidable row.Unresolved := inferInstanceAs (Decidable (_ ∨ _))

structure Describes (rt : Runtime) (manifest : ArtifactManifest) (bytes : List UInt8) : Prop where
  byteSize : bytes.length = manifest.byteSize
  sha256 : rt.sha256Bytes bytes = manifest.sha256

structure SealedFile (store : Store) (intent : WriteIntent) (manifest : ArtifactManifest) (bytes : List UInt8) :
    Prop where
  intent_mem : intent ∈ store.writeIntents
  status : intent.status = .sealed
  manifest_mem : manifest ∈ store.manifests
  artifactId : manifest.artifactId = intent.artifactId
  final : (intent.artifactId, bytes) ∈ store.files.finals

structure FilesKept (rt : Runtime) (store : Store) : Prop where
  distinct : Distinct caseFold store.files.finals
  described : ∀ intent ∈ store.writeIntents, intent.status = .sealed → ∀ manifest ∈ store.manifests,
    manifest.artifactId = intent.artifactId →
      ∃ bytes, (intent.artifactId, bytes) ∈ store.files.finals ∧ Describes rt manifest bytes
  apart : ∀ intent ∈ store.writeIntents, intent.status = .sealed → ∀ other ∈ store.writeIntents, other.Unresolved →
    caseFold intent.artifactId ≠ caseFold other.artifactId
  registered : ∀ intent ∈ store.writeIntents, intent.status = .sealed →
    ∃ target ∈ store.targets, target.artifactId = intent.artifactId ∧
      target.relativePath = some (finalPath intent.artifactId)

/-- No artifact is persisted while the intent of another artifact, with an id that differs only in case, is pending or
failed. -/
def NoCaseTwin (store : Store) : StoreAction → Prop
  | .persist intent _ _ _ => ∀ row ∈ store.writeIntents, row.Unresolved →
      caseFold row.artifactId = caseFold intent.artifactId → row.artifactId = intent.artifactId
  | _ => True

instance (store : Store) (action : StoreAction) : Decidable (NoCaseTwin store action) := by
  unfold NoCaseTwin
  split
  · infer_instance
  · exact .isTrue trivial

variable {rt : Runtime} {store store' : Store} {intent : ArtifactIntent} {payload : List UInt8}

/-! ## Steps that seal nothing -/

structure Keeps (touched : String → Prop) (store store' : Store) : Prop where
  intents : ∀ row ∈ store.writeIntents, row.status = .sealed → row ∈ store'.writeIntents
  manifests : store.manifests ⊆ store'.manifests
  targets : store.targets ⊆ store'.targets
  distinct : Distinct caseFold store.files.finals → Distinct caseFold store'.files.finals
  finals : ∀ entry ∈ store.files.finals, ¬ touched entry.1 → entry ∈ store'.files.finals

/-- Nothing is sealed, and no intent comes up that `recover` would process. -/
structure Retires (touched : String → Prop) (store store' : Store) : Prop extends Keeps touched store store' where
  manifests_eq : store'.manifests = store.manifests
  sealed_mem : ∀ row ∈ store'.writeIntents, row.status = .sealed → row ∈ store.writeIntents
  unresolved_mem : ∀ row ∈ store'.writeIntents, row.Unresolved →
    ∃ old ∈ store.writeIntents, old.Unresolved ∧ old.artifactId = row.artifactId

variable {touched : String → Prop} {manifest : ArtifactManifest}

theorem FilesKept.retires (h : FilesKept rt store) (hstep : Retires touched store store')
    (huntouched : ∀ intent manifest bytes, SealedFile store intent manifest bytes → ¬ touched intent.artifactId) :
    FilesKept rt store' where
  distinct := hstep.distinct h.distinct
  described intent hintent hstatus manifest hmanifest hid := by
    have hold := hstep.sealed_mem intent hintent hstatus
    rw [hstep.manifests_eq] at hmanifest
    obtain ⟨bytes, hfinal, hbytes⟩ := h.described intent hold hstatus manifest hmanifest hid
    have hfile : SealedFile store intent manifest bytes := ⟨hold, hstatus, hmanifest, hid, hfinal⟩
    exact ⟨bytes, hstep.finals _ hfinal (huntouched intent manifest bytes hfile), hbytes⟩
  apart intent hintent hstatus other hother hunresolved := by
    obtain ⟨old, hold, holdUnresolved, hid⟩ := hstep.unresolved_mem other hother hunresolved
    have hne := h.apart intent (hstep.sealed_mem intent hintent hstatus) hstatus old hold holdUnresolved
    rwa [hid] at hne
  registered intent hintent hstatus := by
    obtain ⟨target, htarget, hpath⟩ := h.registered intent (hstep.sealed_mem intent hintent hstatus) hstatus
    exact ⟨target, hstep.targets htarget, hpath⟩

theorem SealedFile.keeps {row : WriteIntent}
    {bytes : List UInt8} (h : SealedFile store row manifest bytes) (hstep : Keeps touched store store')
    (huntouched : ¬ touched row.artifactId) : SealedFile store' row manifest bytes where
  intent_mem := hstep.intents row h.intent_mem h.status
  status := h.status
  manifest_mem := hstep.manifests h.manifest_mem
  artifactId := h.artifactId
  final := hstep.finals _ h.final huntouched

def Denotes (artifactId : String) (name : String) : Prop := caseFold name = caseFold artifactId

structure Spares (artifactId : String) (files files' : Files) : Prop where
  distinct : Distinct caseFold files.finals → Distinct caseFold files'.finals
  finals : ∀ entry ∈ files.finals, ¬ Denotes artifactId entry.1 → entry ∈ files'.finals

theorem Spares.of_finals_eq {artifactId : String} {files files' : Files} (h : files'.finals = files.finals) :
    Spares artifactId files files' where
  distinct hdistinct := by rwa [h]
  finals entry hentry _ := by rwa [h]

theorem filesAt_spares (files : Files) (artifactId : String) (payload : List UInt8) (stage : Stage) :
    Spares artifactId files (filesAt files artifactId payload stage) := by
  cases stage with
  | opening => exact .of_finals_eq rfl
  | writing written => exact .of_finals_eq rfl
  | complete => exact .of_finals_eq rfl
  | renamed =>
    refine ⟨fun h => h.put artifactId payload, fun entry hentry hname => ?_⟩
    exact mem_put.mpr (.inl ⟨hentry, hname⟩)

theorem quarantineFiles_spares (files : Files) (artifactId : String) (moves : Nat) :
    Spares artifactId files (quarantineFiles files artifactId moves) := by
  by_cases hmoves : 2 ≤ moves
  · have heq : (quarantineFiles files artifactId moves).finals = remove caseFold files.finals artifactId := if_pos hmoves
    refine ⟨fun h => ?_, fun entry hentry hname => ?_⟩
    · rw [heq]
      exact h.remove artifactId
    · rw [heq]
      exact mem_remove.mpr ⟨hentry, hname⟩
  · exact .of_finals_eq (if_neg hmoves)

theorem retires_of_spares {artifactId : String} {files : Files} (h : Spares artifactId store.files files) :
    Retires (Denotes artifactId) store { store with files } where
  intents _ hrow _ := hrow
  manifests := List.Subset.refl _
  targets := List.Subset.refl _
  distinct := h.distinct
  finals := h.finals
  manifests_eq := rfl
  sealed_mem _ hrow _ := hrow
  unresolved_mem row hrow hunresolved := ⟨row, hrow, hunresolved, rfl⟩

theorem retires_of_update {p : WriteIntent → Prop} [DecidablePred p] {status : IntentStatus}
    (hp : ∀ row, p row → row.Unresolved) (hstatus : status ≠ .sealed) :
    Retires touched store
      { store with writeIntents := update p (fun row => { row with status }) store.writeIntents } where
  intents row hrow hsealed := by
    refine mem_update_of_neg hrow fun hrowp => ?_
    rcases hp row hrowp with h | h <;> rw [hsealed] at h <;> cases h
  manifests := List.Subset.refl _
  targets := List.Subset.refl _
  distinct := id
  finals _ hentry _ := hentry
  manifests_eq := rfl
  sealed_mem row hrow hsealed := by
    obtain ⟨old, hold, rfl⟩ := mem_update.mp hrow
    by_cases hpold : p old
    · rw [if_pos hpold] at hsealed
      exact absurd hsealed hstatus
    · rwa [if_neg hpold]
  unresolved_mem row hrow hunresolved := by
    obtain ⟨old, hold, rfl⟩ := mem_update.mp hrow
    by_cases hpold : p old
    · exact ⟨old, hold, hp old hpold, by rw [if_pos hpold]⟩
    · rw [if_neg hpold] at hunresolved ⊢
      exact ⟨old, hold, hunresolved, rfl⟩

theorem Keeps.trans {a b c : Store} (hab : Keeps touched a b) (hbc : Keeps touched b c) :
    Keeps touched a c where
  intents row hrow hstatus := hbc.intents row (hab.intents row hrow hstatus) hstatus
  manifests := fun _ h => hbc.manifests (hab.manifests h)
  targets := fun _ h => hbc.targets (hab.targets h)
  distinct h := hbc.distinct (hab.distinct h)
  finals entry hentry hname := hbc.finals entry (hab.finals entry hentry hname) hname

theorem Retires.trans {a b c : Store} (hab : Retires touched a b)
    (hbc : Retires touched b c) : Retires touched a c where
  toKeeps := hab.toKeeps.trans hbc.toKeeps
  manifests_eq := hbc.manifests_eq.trans hab.manifests_eq
  sealed_mem row hrow hstatus := hab.sealed_mem row (hbc.sealed_mem row hrow hstatus) hstatus
  unresolved_mem row hrow hunresolved := by
    obtain ⟨mid, hmid, hmidUnresolved, hmidId⟩ := hbc.unresolved_mem row hrow hunresolved
    obtain ⟨old, hold, holdUnresolved, holdId⟩ := hab.unresolved_mem mid hmid hmidUnresolved
    exact ⟨old, hold, holdUnresolved, holdId.trans hmidId⟩

theorem recordFailure_retires (intentId : String) {status : IntentStatus}
    (hstatus : status ≠ .sealed) : Retires touched store (recordFailure store intentId status) :=
  retires_of_update (fun _ hrow => .inl hrow.2) hstatus

theorem markFailed_retires (intentId artifactId : String) (cleanup : Cleanup) :
    Retires (Denotes artifactId) store (markFailed store intentId artifactId cleanup) := by
  have hmoved (moves : Nat) := retires_of_spares (quarantineFiles_spares store.files artifactId moves)
  cases cleanup with
  | done =>
    refine (hmoved 2).trans (recordFailure_retires intentId ?_)
    split
    · exact fun h => by cases h
    · exact fun h => by cases h
  | firstFails => exact recordFailure_retires intentId (by decide)
  | secondFails => exact (hmoved 1).trans (recordFailure_retires intentId (by decide))
  | dies moves => exact hmoved moves

/-! ## Persisting -/

theorem caseFold_finalPath {a b : String} (h : caseFold a = caseFold b) :
    (finalPath a).map caseFold = (finalPath b).map caseFold := by
  have hletters : a.toList.map Char.toLower = b.toList.map Char.toLower := by
    have htoList := congrArg String.toList h
    simpa only [caseFold, String.toList_ofList] using htoList
  have hname : caseFold (a ++ ".bin") = caseFold (b ++ ".bin") := by
    rw [caseFold, caseFold, String.toList_append, String.toList_append, List.map_append, List.map_append, hletters]
  simp only [finalPath, List.map_cons, List.map_nil, hname]

theorem normalizedRelativePath_ok {parts path : List String} (h : normalizedRelativePath parts = .ok path) :
    path = parts := by
  unfold normalizedRelativePath at h
  split at h
  · cases h
    rfl
  · cases h

def pendingIntent (rt : Runtime) (intent : ArtifactIntent) (payload : List UInt8) : WriteIntent where
  id := intent.intentId
  sessionId := intent.sessionId
  artifactId := intent.artifactId
  requestHash := requestHash rt intent payload
  status := .pending

/-- The store with the intent that `persist` processes. -/
def withIntent (rt : Runtime) (store : Store) (intent : ArtifactIntent) (payload : List UInt8) : Store :=
  { store with writeIntents := store.writeIntents ++ [pendingIntent rt intent payload] }

theorem persist_cases {source : Option (List UInt8)} {fault : Fault} {cleanup : Cleanup}
    (h : persist rt store intent source fault cleanup = .ok store') :
    store' = store ∨ ∃ payload, requireMutableRetained store.ledger intent.sessionId = .ok () ∧
      collides store intent.artifactId (finalPath intent.artifactId) = false ∧
      (∀ row ∈ store.writeIntents, row.id ≠ intent.intentId ∧ row.artifactId ≠ intent.artifactId) ∧
      store' = sealArtifact rt (withIntent rt store intent payload) intent payload fault cleanup := by
  simp only [persist, bind_ok_iff, require_eq_ok, orError_eq_ok] at h
  obtain ⟨-, -, path, hpath, -, hcollides, payload, -, -, -, created, hcreated, h⟩ := h
  obtain rfl := normalizedRelativePath_ok hpath
  cases created with
  | none =>
    cases h
    exact .inl rfl
  | some created =>
    cases h
    suffices h : requireMutableRetained store.ledger intent.sessionId = .ok () ∧
        (∀ row ∈ store.writeIntents, row.id ≠ intent.intentId ∧ row.artifactId ≠ intent.artifactId) ∧
        sealArtifact rt created intent payload fault cleanup =
          sealArtifact rt (withIntent rt store intent payload) intent payload fault cleanup from
      .inr ⟨payload, h.1, hcollides, h.2⟩
    unfold createIntent at hcreated
    cases hexisting : store.writeIntents.find? fun row => row.id = intent.intentId with
    | some existing =>
      simp only [hexisting] at hcreated
      split at hcreated
      · cases hcreated
      · split at hcreated <;> cases hcreated
    | none =>
      simp only [hexisting, bind_ok_iff, insert_eq_ok] at hcreated
      obtain ⟨⟨⟩, hmutable, -, -, -, -, rows, ⟨hfree, rfl⟩, hcreated⟩ := hcreated
      cases hcreated
      refine ⟨hmutable, fun row hrow => ?_, rfl⟩
      have hclash := not_or.mp (hfree row hrow)
      exact hclash

theorem FilesKept.withIntent (payload : List UInt8) (h : FilesKept rt store)
    (hcollides : collides store intent.artifactId (finalPath intent.artifactId) = false)
    (hfresh : ∀ row ∈ store.writeIntents, row.id ≠ intent.intentId ∧ row.artifactId ≠ intent.artifactId) :
    FilesKept rt (withIntent rt store intent payload) ∧
      ∀ row ∈ store.writeIntents, row.status = .sealed → caseFold row.artifactId ≠ caseFold intent.artifactId := by
  have hsealed : ∀ row ∈ store.writeIntents, row.status = .sealed →
      caseFold row.artifactId ≠ caseFold intent.artifactId := by
    intro row hrow hstatus heq
    obtain ⟨target, htarget, hid, hpath⟩ := h.registered row hrow hstatus
    have hcollision : collides store intent.artifactId (finalPath intent.artifactId) = true := by
      refine List.any_eq_true.mpr ⟨target, htarget, ?_⟩
      rw [hpath, hid]
      simp only [Option.any_some, decide_eq_true_eq]
      exact ⟨caseFold_finalPath heq, (hfresh row hrow).2⟩
    rw [hcollides] at hcollision
    cases hcollision
  have hold : ∀ row ∈ (M1R1.withIntent rt store intent payload).writeIntents, row.status = .sealed →
      row ∈ store.writeIntents := by
    intro row hrow hstatus
    rcases List.mem_append.mp hrow with hrow | hrow
    · exact hrow
    · obtain rfl := List.mem_singleton.mp hrow
      cases hstatus
  refine ⟨⟨h.distinct, ?_, ?_, ?_⟩, hsealed⟩
  · intro row hrow hstatus manifest hmanifest hid
    exact h.described row (hold row hrow hstatus) hstatus manifest hmanifest hid
  · intro row hrow hstatus other hother hunresolved
    rcases List.mem_append.mp hother with hother | hother
    · exact h.apart row (hold row hrow hstatus) hstatus other hother hunresolved
    · obtain rfl := List.mem_singleton.mp hother
      exact hsealed row (hold row hrow hstatus) hstatus
  · intro row hrow hstatus
    exact h.registered row (hold row hrow hstatus) hstatus

theorem withIntent_keeps (touched : String → Prop) : Keeps touched store (withIntent rt store intent payload) where
  intents _ hrow _ := List.mem_append_left _ hrow
  manifests := List.Subset.refl _
  targets := List.Subset.refl _
  distinct := id
  finals _ hentry _ := hentry

theorem commitSeal_ok (h : commitSeal rt store intent manifest = .ok store') :
    (∀ old ∈ store.manifests, old.artifactId ≠ manifest.artifactId) ∧
      store'.manifests = store.manifests ++ [manifest] ∧
      (∃ target : ReconciliationTarget, target.artifactId = manifest.artifactId ∧
        target.relativePath = some manifest.relativePath ∧ store'.targets = store.targets ++ [target]) ∧
      store'.writeIntents = update (fun row => row.id = intent.intentId) (fun row => { row with status := .sealed })
        store.writeIntents ∧
      store'.files = store.files := by
  simp only [commitSeal, bind_ok_iff, insert_eq_ok] at h
  obtain ⟨-, -, -, -, artifactRegistry, -, manifests, ⟨hfree, rfl⟩, targets, htargets, dependencies, -, ledger, -,
    auditEvents, -, h⟩ := h
  cases h
  have hmanifest : ∀ old ∈ store.manifests, old.artifactId ≠ manifest.artifactId :=
    fun old hold => (not_or.mp (hfree old hold)).1
  simp only [registerLocalTarget, bind_ok_iff, insert_eq_ok] at htargets
  obtain ⟨path, hpath, binding, -, -, rfl⟩ := htargets
  obtain rfl := normalizedRelativePath_ok hpath
  exact ⟨hmanifest, rfl, ⟨_, rfl, rfl, rfl⟩, rfl, rfl⟩

def sealedManifest (rt : Runtime) (intent : ArtifactIntent) (payload : List UInt8) : ArtifactManifest :=
  intent.manifest payload.length (rt.sha256Bytes payload)

def renamedStore (store : Store) (intent : ArtifactIntent) (payload : List UInt8) : Store :=
  { store with files := filesAt store.files intent.artifactId payload .renamed }

theorem sealArtifact_rule {rt : Runtime} {store : Store} {intent : ArtifactIntent} {payload : List UInt8}
    {P : Store → Prop} (hstopped : ∀ stage cleanup, P (markFailed
      { store with files := filesAt store.files intent.artifactId payload stage } intent.intentId intent.artifactId cleanup))
    (fault : Fault) (cleanup : Cleanup) :
    P (sealArtifact rt store intent payload fault cleanup) ∨
      commitSeal rt (renamedStore store intent payload) intent (sealedManifest rt intent payload) =
        .ok (sealArtifact rt store intent payload fault cleanup) := by
  unfold sealArtifact
  simp only
  split
  · exact .inl (hstopped _ _)
  · cases fault with
    | stops stage cleanup => exact .inl (hstopped stage cleanup)
    | none =>
      cases hcommit : commitSeal rt (renamedStore store intent payload) intent (sealedManifest rt intent payload) with
      | error e =>
        left
        simp only [renamedStore, sealedManifest] at hcommit
        simp only [hcommit]
        exact hstopped _ _
      | ok sealed =>
        right
        simp only [renamedStore, sealedManifest] at hcommit
        simp only [hcommit]

theorem sealArtifact_cases (rt : Runtime) (store : Store) (intent : ArtifactIntent) (payload : List UInt8)
    (fault : Fault) (cleanup : Cleanup) :
    Retires (Denotes intent.artifactId) store (sealArtifact rt store intent payload fault cleanup) ∨
      commitSeal rt (renamedStore store intent payload) intent (sealedManifest rt intent payload) =
        .ok (sealArtifact rt store intent payload fault cleanup) :=
  sealArtifact_rule (fun stage _ =>
    (retires_of_spares (filesAt_spares store.files intent.artifactId payload stage)).trans (markFailed_retires _ _ _))
    fault cleanup

theorem FilesKept.sealed (h : FilesKept rt store)
    (hcollides : collides store intent.artifactId (finalPath intent.artifactId) = false)
    (hfresh : ∀ row ∈ store.writeIntents, row.id ≠ intent.intentId ∧ row.artifactId ≠ intent.artifactId)
    (hguard : ∀ row ∈ store.writeIntents, row.Unresolved → caseFold row.artifactId = caseFold intent.artifactId →
      row.artifactId = intent.artifactId)
    (hcommit : commitSeal rt (renamedStore (M1R1.withIntent rt store intent payload) intent payload) intent
      (sealedManifest rt intent payload) = .ok store') :
    FilesKept rt store' ∧ Keeps (Denotes intent.artifactId) store store' := by
  obtain ⟨-, hsealed⟩ := h.withIntent payload hcollides hfresh
  obtain ⟨hmanifest, hmanifests, ⟨target, htargetId, htargetPath, htargets⟩, hintents, hfiles⟩ := commitSeal_ok hcommit
  have hrows : store'.writeIntents =
      store.writeIntents ++ [{ pendingIntent rt intent payload with status := .sealed }] := by
    rw [hintents, renamedStore, M1R1.withIntent, update, List.map_append]
    have hold : store.writeIntents.map (fun row => if row.id = intent.intentId then { row with status := .sealed } else row) =
        store.writeIntents := by
      have hsame : ∀ row ∈ store.writeIntents,
          (if row.id = intent.intentId then { row with status := .sealed } else row) = id row :=
        fun row hrow => if_neg (hfresh row hrow).1
      rw [List.map_congr_left hsame, List.map_id]
    rw [hold, List.map_singleton, if_pos (show (pendingIntent rt intent payload).id = intent.intentId from rfl)]
  have hfinals : store'.files.finals = put caseFold store.files.finals intent.artifactId payload := by
    rw [hfiles]
    rfl
  have hkeeps : Keeps (Denotes intent.artifactId) store store' := by
    constructor
    · intro row hrow _
      rw [hrows]
      exact List.mem_append_left _ hrow
    · rw [hmanifests]
      exact List.subset_append_left _ _
    · rw [htargets]
      exact List.subset_append_left _ _
    · intro hdistinct
      rw [hfinals]
      exact hdistinct.put _ _
    · intro entry hentry hname
      rw [hfinals]
      exact mem_put.mpr (.inl ⟨hentry, hname⟩)
  refine ⟨⟨hkeeps.distinct h.distinct, ?_, ?_, ?_⟩, hkeeps⟩
  · intro row hrow hstatus manifest hmem hid
    rw [hrows] at hrow
    rw [hmanifests] at hmem
    rcases List.mem_append.mp hrow with hrow | hrow
    · rcases List.mem_append.mp hmem with hmem | hmem
      · obtain ⟨bytes, hfinal, hbytes⟩ := h.described row hrow hstatus manifest hmem hid
        exact ⟨bytes, hkeeps.finals _ hfinal (hsealed row hrow hstatus), hbytes⟩
      · obtain rfl := List.mem_singleton.mp hmem
        exact absurd hid.symm (hfresh row hrow).2
    · obtain rfl := List.mem_singleton.mp hrow
      rcases List.mem_append.mp hmem with hmem | hmem
      · exact absurd hid (hmanifest manifest hmem)
      · obtain rfl := List.mem_singleton.mp hmem
        refine ⟨payload, ?_, ⟨rfl, rfl⟩⟩
        rw [hfinals]
        exact mem_put.mpr (.inr rfl)
  · intro row hrow hstatus other hother hunresolved
    rw [hrows] at hrow hother
    rcases List.mem_append.mp hother with hother | hother
    · rcases List.mem_append.mp hrow with hrow | hrow
      · exact h.apart row hrow hstatus other hother hunresolved
      · obtain rfl := List.mem_singleton.mp hrow
        intro heq
        exact (hfresh other hother).2 (hguard other hother hunresolved heq.symm)
    · obtain rfl := List.mem_singleton.mp hother
      rcases hunresolved with hpending | hfailed
      · cases hpending
      · cases hfailed
  · intro row hrow hstatus
    rw [hrows] at hrow
    rcases List.mem_append.mp hrow with hrow | hrow
    · obtain ⟨old, hold, hpath⟩ := h.registered row hrow hstatus
      exact ⟨old, hkeeps.targets hold, hpath⟩
    · obtain rfl := List.mem_singleton.mp hrow
      refine ⟨target, ?_, htargetId, htargetPath⟩
      rw [htargets]
      exact List.mem_append_right _ (List.mem_singleton.mpr rfl)

/-! ## Every step -/

theorem terminalizeRecovery_retires {intentId sessionId : String}
    (h : terminalizeRecovery store intentId sessionId = .ok store') : Retires touched store store' := by
  have hupdate : Retires touched store { store with
      writeIntents := update (fun row => row.id = intentId ∧ row.Unresolved)
        (fun row => { row with status := .quarantined }) store.writeIntents } :=
    retires_of_update (fun _ hrow => hrow.2) (by decide)
  unfold terminalizeRecovery at h
  simp only at h
  split at h
  · cases h
    exact hupdate
  · split at h
    · cases h
      exact hupdate
    · simp only [bind_ok_iff] at h
      obtain ⟨ledger, -, auditEvents, -, h⟩ := h
      cases h
      exact { hupdate with }

theorem recoverIntent_retires (store : Store) (intentId : String) (moves : Nat) (commits : Bool) :
    recoverIntent store intentId moves commits = store ∨
      ∃ row ∈ store.writeIntents, row.Unresolved ∧
        Retires (Denotes row.artifactId) store (recoverIntent store intentId moves commits) := by
  unfold recoverIntent
  split
  · exact .inl rfl
  · next row hrow =>
    have hmem := List.mem_of_find?_eq_some hrow
    have hunresolved : row.Unresolved := by
      have hfound := List.find?_some hrow
      simp only [decide_eq_true_eq] at hfound
      exact hfound.2
    have hmoved := retires_of_spares (quarantineFiles_spares store.files row.artifactId moves)
    refine .inr ⟨row, hmem, hunresolved, ?_⟩
    simp only
    split
    · split
      · next hterminal => exact hmoved.trans (terminalizeRecovery_retires hterminal)
      · exact hmoved
    · exact hmoved

theorem sweepOrphan_retires (store : Store) (artifactId : String) :
    sweepOrphan store artifactId = store ∨
      ((∃ entry ∈ store.files.finals, entry.1 = artifactId) ∧
        (∀ manifest ∈ store.manifests, manifest.artifactId ≠ artifactId) ∧
        Retires (Denotes artifactId) store (sweepOrphan store artifactId)) := by
  unfold sweepOrphan
  split
  · next horphan =>
    refine .inr ⟨horphan.1, horphan.2, retires_of_spares ⟨fun h => h.remove artifactId, fun entry hentry hname => ?_⟩⟩
    exact mem_remove.mpr ⟨hentry, hname⟩
  · exact .inl rfl

theorem keeps_refl (touched : String → Prop) (store : Store) : Keeps touched store store where
  intents _ hrow _ := hrow
  manifests := List.Subset.refl _
  targets := List.Subset.refl _
  distinct := id
  finals _ hentry _ := hentry

theorem backend_keeps {clock : Clock} {action : M1Action} (h : backend rt clock store action = .ok store') :
    ∃ ledger taskTargets, store' = { store with ledger, taskTargets } := by
  unfold backend at h
  split at h
  · cases h
  · cases h
  · simp only [bind_ok_iff] at h
    obtain ⟨ledger, -, taskTargets, -, h⟩ := h
    cases h
    exact ⟨ledger, taskTargets, rfl⟩

theorem registerExternalTarget_keeps {artifactId exportId manifestSha256 : String}
    (h : registerExternalTarget rt store artifactId exportId manifestSha256 = .ok store') :
    ∃ targets, store' = { store with targets } ∧ store.targets ⊆ targets := by
  simp only [registerExternalTarget, bind_ok_iff] at h
  obtain ⟨-, -, -, -, manifest, -, -, -, actual, -, -, -, persisted, -, -, -, h⟩ := h
  cases h
  exact ⟨_, rfl, fun _ hrow => mem_insertOrIgnore hrow⟩

theorem storeStep_keeps {action : StoreAction} (h : FilesKept rt store) (hguard : NoCaseTwin store action) :
    FilesKept rt (storeStep rt store action) ∧
      ∀ row manifest bytes, SealedFile store row manifest bytes →
        SealedFile (storeStep rt store action) row manifest bytes := by
  have hretires {touched : String → Prop} (next : Store) (hstep : Retires touched store next)
      (huntouched : ∀ row manifest bytes, SealedFile store row manifest bytes → ¬ touched row.artifactId) :
      FilesKept rt next ∧ ∀ row manifest bytes, SealedFile store row manifest bytes → SealedFile next row manifest bytes :=
    ⟨h.retires hstep huntouched, fun row manifest bytes hfile =>
      hfile.keeps hstep.toKeeps (huntouched row manifest bytes hfile)⟩
  have hnothing : Retires (fun _ => False) store store :=
    { keeps_refl (fun _ => False) store with
      manifests_eq := rfl
      sealed_mem := fun _ hrow _ => hrow
      unresolved_mem := fun row hrow hunresolved => ⟨row, hrow, hunresolved, rfl⟩ }
  have hsame := hretires store hnothing fun _ _ _ _ hfalse => hfalse
  unfold storeStep
  split
  · next next hnext =>
    cases action with
    | backend clock action =>
      obtain ⟨ledger, taskTargets, rfl⟩ := backend_keeps hnext
      have hledger : Retires (fun _ => False) store { store with ledger, taskTargets } := { hnothing with }
      exact hretires _ hledger fun _ _ _ _ hfalse => hfalse
    | registerExternalTarget artifactId exportId manifestSha256 =>
      obtain ⟨targets, rfl, hsubset⟩ := registerExternalTarget_keeps hnext
      have hregistered : Retires (fun _ => False) store { store with targets } := { hnothing with targets := hsubset }
      exact hretires _ hregistered fun _ _ _ _ hfalse => hfalse
    | persist intent source fault cleanup =>
      rcases persist_cases hnext with rfl | ⟨payload, -, hcollides, hfresh, rfl⟩
      · exact hsame
      · obtain ⟨hcreated, hapart⟩ := h.withIntent payload hcollides hfresh
        have hkeepsIntent : Keeps (Denotes intent.artifactId) store (withIntent rt store intent payload) :=
          withIntent_keeps _
        rcases sealArtifact_cases rt (withIntent rt store intent payload) intent payload fault cleanup with
          hstopped | hsealed
        · have huntouched (row : WriteIntent) (manifest : ArtifactManifest) (bytes : List UInt8)
              (hfile : SealedFile (withIntent rt store intent payload) row manifest bytes) :
              ¬ Denotes intent.artifactId row.artifactId := by
            rcases List.mem_append.mp hfile.intent_mem with hrow | hrow
            · exact hapart row hrow hfile.status
            · obtain rfl := List.mem_singleton.mp hrow
              exact absurd hfile.status fun hstatus => by cases hstatus
          refine ⟨hcreated.retires hstopped huntouched, fun row manifest bytes hfile => ?_⟩
          exact hfile.keeps (hkeepsIntent.trans hstopped.toKeeps) (hapart row hfile.intent_mem hfile.status)
        · obtain ⟨hkept, hkeeps⟩ := h.sealed hcollides hfresh hguard hsealed
          exact ⟨hkept, fun row manifest bytes hfile =>
            hfile.keeps hkeeps (hapart row hfile.intent_mem hfile.status)⟩
    | recoverIntent intentId moves commits =>
      cases hnext
      rcases recoverIntent_retires store intentId moves commits with heq | ⟨row, hrow, hunresolved, hstep⟩
      · rw [heq]
        exact hsame
      · exact hretires _ hstep fun intent manifest bytes hfile =>
          h.apart intent hfile.intent_mem hfile.status row hrow hunresolved
    | sweepOrphan artifactId =>
      cases hnext
      rcases sweepOrphan_retires store artifactId with heq | ⟨⟨entry, hentry, rfl⟩, hunknown, hstep⟩
      · rw [heq]
        exact hsame
      · refine hretires _ hstep fun intent manifest bytes hfile hname => ?_
        -- one file has the name, so the orphan is the artifact's own file, and that one has a manifest
        have heq : (intent.artifactId, bytes) = entry :=
          List.inj_on_of_nodup_map h.distinct hfile.final hentry hname
        exact hunknown manifest hfile.manifest_mem (hfile.artifactId.trans (congrArg Prod.fst heq))
  · exact hsame

theorem filesKept_of_reachableBy (h : ReachableBy (storeSystem rt) NoCaseTwin store) : FilesKept rt store := by
  refine h.invariant ?_ ?_
  · rintro _ rfl
    exact ⟨List.nodup_nil, fun _ hrow => absurd hrow List.not_mem_nil, fun _ hrow => absurd hrow List.not_mem_nil,
      fun _ hrow => absurd hrow List.not_mem_nil⟩
  · rintro store action _ hkept hguard rfl
    exact (storeStep_keeps hkept hguard).1

/-- A sealed artifact has the file that its manifest describes, and that file stays through every later step. -/
theorem sealed_file_kept {later : Store} {row : WriteIntent}
    (h : ReachableBy (storeSystem rt) NoCaseTwin store) (hlater : LaterBy (storeSystem rt) NoCaseTwin store later)
    (hrow : row ∈ store.writeIntents) (hstatus : row.status = .sealed) (hmanifest : manifest ∈ store.manifests)
    (hid : manifest.artifactId = row.artifactId) :
    ∃ bytes, bytes.length = manifest.byteSize ∧ rt.sha256Bytes bytes = manifest.sha256 ∧
      read? caseFold store.files.finals row.artifactId = some bytes ∧
      read? caseFold later.files.finals row.artifactId = some bytes := by
  have hkept := filesKept_of_reachableBy h
  obtain ⟨bytes, hfinal, hbytes⟩ := hkept.described row hrow hstatus manifest hmanifest hid
  have hfile : SealedFile store row manifest bytes := ⟨hrow, hstatus, hmanifest, hid, hfinal⟩
  have hlaterFile : FilesKept rt later ∧ SealedFile later row manifest bytes := by
    induction hlater with
    | refl => exact ⟨hkept, hfile⟩
    | tail _ hstep ih =>
      obtain ⟨action, hguard, rfl⟩ := hstep
      obtain ⟨hkeptMid, hfileMid⟩ := ih
      obtain ⟨hnext, hkeeps⟩ := storeStep_keeps hkeptMid hguard
      exact ⟨hnext, hkeeps _ _ _ hfileMid⟩
  exact ⟨bytes, hbytes.byteSize, hbytes.sha256, read?_eq_some hkept.distinct hfinal rfl,
    read?_eq_some hlaterFile.1.distinct hlaterFile.2.final rfl⟩

/-- The write of `b` stops after its file has been moved, and the next start quarantines that file. -/
def laterRun : List StoreAction := [Sample.persist "j" "b" (.stops .renamed (.dies 0)), .recoverIntent "j" 2 true]

/-- The file of `a` stays. -/
theorem sealed_file_kept_sample :
    ∃ bytes : List UInt8, bytes.length = 1 ∧ Sample.runtime.sha256Bytes bytes = "x" ∧
      read? caseFold ((Sample.sessions ++ [Sample.persist "i" "a"]).foldl (storeStep Sample.runtime) {}).files.finals "a" =
        some bytes ∧
      read? caseFold (laterRun.foldl (storeStep Sample.runtime)
        ((Sample.sessions ++ [Sample.persist "i" "a"]).foldl (storeStep Sample.runtime) {})).files.finals "a" = some bytes :=
  have hrow : { id := "i", sessionId := "research-aaa", artifactId := "a", requestHash := "", status := .sealed } ∈
      ((Sample.sessions ++ [Sample.persist "i" "a"]).foldl (storeStep Sample.runtime) {}).writeIntents := by decide +kernel
  have hmanifest : (Sample.fixture "i" "a").manifest 1 "x" ∈
      ((Sample.sessions ++ [Sample.persist "i" "a"]).foldl (storeStep Sample.runtime) {}).manifests := by decide +kernel
  sealed_file_kept (reachableBy_foldl _ (.init rfl) (by decide +kernel)) (laterBy_foldl _ (by decide +kernel)) hrow rfl
    hmanifest rfl

/-- The first attempt at `a` fails before it writes anything, `A` is sealed, and the next start quarantines its file. -/
def twinRun : List StoreAction :=
  Sample.sessions ++ [Sample.persist "i" "a" (.stops .opening .done), Sample.persist "j" "A", .recoverIntent "i" 2 true]

theorem case_twin_quarantined :
    Reachable (storeSystem Sample.runtime) (twinRun.foldl (storeStep Sample.runtime) {}) ∧
      ∃ row ∈ (twinRun.foldl (storeStep Sample.runtime) {}).writeIntents, row.status = .sealed ∧
        ∃ manifest ∈ (twinRun.foldl (storeStep Sample.runtime) {}).manifests, manifest.artifactId = row.artifactId ∧
          read? caseFold (twinRun.foldl (storeStep Sample.runtime) {}).files.finals row.artifactId = none :=
  ⟨reachable_foldl _ (.init rfl), by decide +kernel⟩

end PduExamObserver.M1R1
