import PduExamObserver.M1R1.Schema

/-! # Persisting artifacts

`persist` and `recover` of the store, with the files that they move, and the registration of targets. -/

namespace PduExamObserver.M1R1
open M1 Table Folder
set_option autoImplicit false

/-! ## Names -/

/-- `_opaque`. -/
def opaqueId (value label : String) : Except StoreError Unit :=
  require (1 ≤ value.length ∧ value.length ≤ 128 ∧
      value.toList.all fun ch => ch.isAlphanum || "-_".toList.contains ch)
    (.persistenceFailure s!"invalid opaque {label}")

def reservedNames : List String :=
  ["aux", "clock$", "com1", "com2", "com3", "com4", "com5", "com6", "com7", "com8", "com9", "con", "lpt1", "lpt2",
    "lpt3", "lpt4", "lpt5", "lpt6", "lpt7", "lpt8", "lpt9", "nul", "prn"]

/-- A part of a path that `_normalized_relative_path` accepts. -/
def validPart (part : String) : Bool :=
  part ≠ "" ∧ part ≠ "." ∧ part ≠ ".." ∧ part.toList.all (fun ch => !"/\\:".toList.contains ch) ∧
    part.toList.getLast? ≠ some ' ' ∧ part.toList.getLast? ≠ some '.' ∧
    caseFold (String.ofList (part.toList.takeWhile (· ≠ '.'))) ∉ reservedNames

/-- `_normalized_relative_path`, for ASCII paths. -/
def normalizedRelativePath (parts : List String) : Except StoreError (List String) :=
  if parts ≠ [] ∧ parts.all validPart then .ok parts
  else .error (.targetRegistration "invalid server-derived relative path")

/-- The final path of `_paths`, below the storage root. -/
def finalPath (artifactId : String) : List String := ["artifacts", "m2", artifactId ++ ".bin"]

/-! ## Intents -/

structure ArtifactIntent where
  intentId : String
  artifactId : String
  sessionId : String
  artifactKind : String
  technicalInputKind : String
  captureProfileVersion : String
  monotonicTimingOrigin : String
  processingVersion : String
  parentIds : List String := []
  technicalFailureCode : Option String := none

def allowedInputKinds : List String := ["DETERMINISTIC_FIXTURE", "AI_RENDERED_FIXTURE"]

def allowedFailures : List String :=
  ["INPUT_UNAVAILABLE", "INPUT_MALFORMED", "FRAME_STALLED", "CLOCK_REGRESSION", "POSE_ENGINE_UNAVAILABLE",
    "POSE_ENGINE_EXCEPTION", "POSE_OUTPUT_INVALID", "QUALITY_INSUFFICIENT", "ENCODER_UNAVAILABLE",
    "ENCODER_WRITE_FAILED", "ENCODER_FINALIZE_FAILED", "DISK_UNAVAILABLE", "DISK_SPACE_INSUFFICIENT",
    "DISK_THROUGHPUT_INSUFFICIENT", "DISK_FSYNC_FAILED", "ATOMIC_RENAME_FAILED", "MANIFEST_VALIDATION_FAILED",
    "SCHEMA_INCOMPATIBLE", "PRIVACY_STOP", "UNKNOWN_TECHNICAL_FAILURE"]

def captureProfiles : List String := ["fixture-profile-v1", "ai-rendered-profile-v1"]

def timingOrigins : List String := ["synthetic-monotonic-v1", "ai-rendered-monotonic-v1"]

def processingVersions : List String := ["fixture-generator-v1", "ai-renderer-v1"]

def validateIntent (intent : ArtifactIntent) : Except StoreError Unit := do
  opaqueId intent.intentId "intent id"
  opaqueId intent.artifactId "artifact id"
  opaqueId intent.sessionId "session id"
  require (intent.artifactKind = "TECHNICAL_FIXTURE") (.persistenceFailure "artifact kind is not authorized for P1")
  require (intent.technicalInputKind ∈ allowedInputKinds)
    (.persistenceFailure "technical input kind is not authorized for P1")
  require (intent.captureProfileVersion ∈ captureProfiles)
    (.persistenceFailure "capture profile version is not allowlisted for P1")
  require (intent.monotonicTimingOrigin ∈ timingOrigins)
    (.persistenceFailure "monotonic timing origin is not allowlisted for P1")
  require (intent.processingVersion ∈ processingVersions)
    (.persistenceFailure "processing version is not allowlisted for P1")
  require (∀ code ∈ intent.technicalFailureCode, code ∈ allowedFailures)
    (.persistenceFailure "technical failure code is not allowlisted")
  require (intent.artifactId ∉ intent.parentIds) (.invalidTransition "artifact parent cycle is not allowed")
  require intent.parentIds.Nodup (.persistenceFailure "duplicate artifact parent")
  let _ ← intent.parentIds.mapM fun parent => opaqueId parent "parent id"
  return ()

def requestHash (rt : Runtime) (intent : ArtifactIntent) (payload : List UInt8) : String :=
  rt.sha256 (.obj [("intent", .obj [("artifact_id", .str intent.artifactId), ("artifact_kind", .str intent.artifactKind),
      ("capture_profile_version", .str intent.captureProfileVersion), ("intent_id", .str intent.intentId),
      ("monotonic_timing_origin", .str intent.monotonicTimingOrigin),
      ("parent_ids", .arr (intent.parentIds.map .str)), ("processing_version", .str intent.processingVersion),
      ("session_id", .str intent.sessionId),
      ("technical_failure_code", M1Backend.jsonOrNull intent.technicalFailureCode),
      ("technical_input_kind", .str intent.technicalInputKind)]),
    ("sha256", .str (rt.sha256Bytes payload))])

def requireMutableRetained (db : Database) (sessionId : String) : Except StoreError Unit := do
  let missing := StoreError.invalidTransition "research session is missing"
  let session ← orError missing ((db.session? sessionId).filter (·.sessionKind = .research))
  let participant ← orError missing (db.participantOf? session)
  require (participant.withdrawnAt = none ∧ session.state ≠ .withdrawn ∧ session.collectionBlocked = false)
    (.invalidTransition "Withdrawn or blocked research records cannot be mutated")
  require (∃ record ∈ db.retentionRecords, record.sessionId = session.id)
    (.invalidTransition "retention decision is required")

def requireValidParents (db : Database) (sessionId : String) (parents : List String) : Except StoreError Unit := do
  require (∀ parent ∈ parents, M1Backend.validParent db parent = true)
    (.invalidTransition "artifact parent is missing or invalidated")
  require (∀ parent ∈ parents, ∀ artifact ∈ db.artifact? parent, artifact.sessionId = sessionId)
    (.invalidTransition "artifact parent belongs to another session")

/-- `_create_intent`: the store with the new intent, or none for an intent that is sealed already. -/
def createIntent (rt : Runtime) (store : Store) (intent : ArtifactIntent) (payload : List UInt8) :
    Except StoreError (Option Store) :=
  let hash := requestHash rt intent payload
  match store.writeIntents.find? fun row => row.id = intent.intentId with
  | some existing =>
    if existing.requestHash ≠ hash then
      .error (.persistenceFailure "idempotency key was reused with a different request")
    else if existing.status = .sealed then .ok none
    else .error (.persistenceFailure "intent is already terminal or pending")
  | none => do
    requireMutableRetained store.ledger intent.sessionId
    requireValidParents store.ledger intent.sessionId intent.parentIds
    require (store.ledger.artifact? intent.artifactId = none) (.persistenceFailure "artifact id already exists")
    let writeIntents ← insert WriteIntent.Clash .integrityError store.writeIntents
      { id := intent.intentId, sessionId := intent.sessionId, artifactId := intent.artifactId, requestHash := hash
        status := .pending }
    return some { store with writeIntents }

/-! ## Sealing -/

/-- `_manifest_binding_from_row`. -/
def manifestBinding (rt : Runtime) (manifest : ArtifactManifest) : Except StoreError String := do
  let path ← normalizedRelativePath manifest.relativePath
  return rt.sha256 (.obj [("artifact_id", .str manifest.artifactId), ("artifact_kind", .str manifest.artifactKind),
    ("byte_size", .int manifest.byteSize), ("capture_profile_version", .str manifest.captureProfileVersion),
    ("manifest_schema_version", .int manifest.manifestSchemaVersion),
    ("monotonic_timing_origin", .str manifest.monotonicTimingOrigin),
    ("processing_version", .str manifest.processingVersion), ("relative_path", .str ("/".intercalate path)),
    ("sha256", .str manifest.sha256), ("technical_failure_code", M1Backend.jsonOrNull manifest.technicalFailureCode),
    ("technical_input_kind", .str manifest.technicalInputKind)])

/-- `_target_identity`: the target's id and the digest of its locator. -/
def targetIdentity (rt : Runtime) (artifactId : String) (locator : Json) : String × String :=
  let locatorDigest := rt.sha256 locator
  ("target-" ++ String.ofList ((rt.sha256Text (artifactId ++ ":" ++ locatorDigest)).toList.take 24), locatorDigest)

/-- `_after_manifest_insert` of version 3. -/
def registerLocalTarget (rt : Runtime) (targets : List ReconciliationTarget) (manifest : ArtifactManifest) :
    Except StoreError (List ReconciliationTarget) := do
  let path ← normalizedRelativePath manifest.relativePath
  let manifestSha256 ← manifestBinding rt manifest
  let (id, locatorDigest) := targetIdentity rt manifest.artifactId
    (.obj [("artifact_id", .str manifest.artifactId), ("relative_path", .str ("/".intercalate path)),
      ("root_scope", .str RootScope.researchRoot.value), ("target_kind", .str TargetKind.localResearchFile.value)])
  insert ReconciliationTarget.Clash .integrityError targets
    { id, artifactId := manifest.artifactId, targetKind := .localResearchFile, rootScope := .researchRoot, locatorDigest
      relativePath := some path, exportId := none, expectedByteSize := some manifest.byteSize
      expectedSha256 := some manifest.sha256, manifestSchemaVersion := manifest.manifestSchemaVersion, manifestSha256 }

def ArtifactIntent.manifest (intent : ArtifactIntent) (byteSize : Nat) (sha256 : String) : ArtifactManifest where
  artifactId := intent.artifactId
  artifactKind := intent.artifactKind
  technicalInputKind := intent.technicalInputKind
  manifestSchemaVersion := 2
  relativePath := finalPath intent.artifactId
  byteSize
  sha256
  captureProfileVersion := intent.captureProfileVersion
  monotonicTimingOrigin := intent.monotonicTimingOrigin
  processingVersion := intent.processingVersion
  technicalFailureCode := intent.technicalFailureCode

def commitSeal (rt : Runtime) (store : Store) (intent : ArtifactIntent) (manifest : ArtifactManifest) :
    Except StoreError Store := do
  requireMutableRetained store.ledger intent.sessionId
  requireValidParents store.ledger intent.sessionId intent.parentIds
  let artifactRegistry ← insert Artifact.Clash .integrityError store.ledger.artifactRegistry
    { id := intent.artifactId, sessionId := intent.sessionId, status := .valid }
  let manifests ← insert ArtifactManifest.Clash .integrityError store.manifests manifest
  let targets ← registerLocalTarget rt store.targets manifest
  let artifactDependencies ← intent.parentIds.foldlM
    (fun dependencies parent => insert ArtifactDependency.Clash .integrityError dependencies (parent, intent.artifactId))
    store.ledger.artifactDependencies
  let payload : Dict := [("artifact_id", .str intent.artifactId), ("schema_version", .int 2)]
  let (ledger, _) ← (M1Backend.event { store.ledger with artifactRegistry, artifactDependencies } intent.sessionId
    "M2ArtifactSealed" payload).mapError .ledger
  let auditEvents ← insert AuditEvent.Clash .integrityError ledger.auditEvents
    { id := s!"m2-audit-{intent.intentId}", eventType := "M2_ARTIFACT_SEALED", sessionId := some intent.sessionId
      payload }
  let writeIntents := update (fun row => row.id = intent.intentId) (fun row => { row with status := .sealed })
    store.writeIntents
  return { store with ledger := { ledger with auditEvents }, manifests, targets, writeIntents }

/-! ## Persisting -/

/-- How far `_persist_locked` gets before it raises or the process dies. -/
inductive Stage where
  /-- before the partial file is there -/
  | opening
  | writing (written : List UInt8)
  | complete
  /-- after `os.replace`, up to the commit -/
  | renamed

def filesAt (files : Files) (artifactId : String) (payload : List UInt8) : Stage → Files
  | .opening => files
  | .writing written => { files with partials := put caseFold files.partials artifactId written }
  | .complete => { files with partials := put caseFold files.partials artifactId payload }
  | .renamed =>
    { partials := remove caseFold files.partials artifactId
      finals := put caseFold files.finals artifactId payload }

/-- How the clean-up after a failure goes: an `OSError` of the first or the second move, or the process dies after some
moves. -/
inductive Cleanup where
  | done
  | firstFails
  | secondFails
  | dies (moves : Nat)

/-- `_quarantine` of the partial and then of the final file. -/
def quarantineFiles (files : Files) (artifactId : String) (moves : Nat) : Files where
  partials := if 1 ≤ moves then remove caseFold files.partials artifactId else files.partials
  finals := if 2 ≤ moves then remove caseFold files.finals artifactId else files.finals

def recordFailure (store : Store) (intentId : String) (status : IntentStatus) : Store :=
  { store with
    writeIntents := update (fun row => row.id = intentId ∧ row.status = .pending) (fun row => { row with status })
      store.writeIntents }

def markFailed (store : Store) (intentId artifactId : String) : Cleanup → Store
  | .done =>
    let moved := contains caseFold store.files.partials artifactId || contains caseFold store.files.finals artifactId
    recordFailure { store with files := quarantineFiles store.files artifactId 2 } intentId
      (if moved then .quarantined else .failed)
  | .firstFails => recordFailure store intentId .failed
  | .secondFails => recordFailure { store with files := quarantineFiles store.files artifactId 1 } intentId .failed
  | .dies moves => { store with files := quarantineFiles store.files artifactId moves }

/-- What stops `persist` after the intent is there: nothing, or an exception or the end of the process at a stage, with
the clean-up that follows. -/
inductive Fault where
  | none
  | stops (stage : Stage) (cleanup : Cleanup)

/-- The part of `_persist_locked` after `_create_intent`; the partial file is created exclusively. -/
def sealArtifact (rt : Runtime) (store : Store) (intent : ArtifactIntent) (payload : List UInt8) (fault : Fault)
    (cleanup : Cleanup) : Store :=
  let stopped (stage : Stage) (cleanup : Cleanup) :=
    markFailed { store with files := filesAt store.files intent.artifactId payload stage } intent.intentId
      intent.artifactId cleanup
  if contains caseFold store.files.partials intent.artifactId then stopped .opening cleanup
  else
    match fault with
    | .stops stage cleanup => stopped stage cleanup
    | .none =>
      let renamed := { store with files := filesAt store.files intent.artifactId payload .renamed }
      match commitSeal rt renamed intent (intent.manifest payload.length (rt.sha256Bytes payload)) with
      | .ok store => store
      | .error _ => stopped .renamed cleanup

/-- The guard of `persist` in version 3: a registered target of another artifact has the same name. -/
def collides (store : Store) (artifactId : String) (path : List String) : Bool :=
  store.targets.any fun row =>
    row.relativePath.any (fun registered => registered.map caseFold = path.map caseFold) ∧ row.artifactId ≠ artifactId

/-- `persist`; none as payload is a source that raises, and `cleanup` is how the clean-up goes after a failure that no
fault has caused. -/
def persist (rt : Runtime) (store : Store) (intent : ArtifactIntent) (source : Option (List UInt8)) (fault : Fault)
    (cleanup : Cleanup) : Except StoreError Store := do
  validateIntent intent
  let path ← normalizedRelativePath (finalPath intent.artifactId)
  require (collides store intent.artifactId path = false) (.targetRegistration "local target case-fold collision")
  let payload ← orError (.persistenceFailure "artifact write source failed") source
  require (payload ≠ []) (.persistenceFailure "artifact bytes are missing or malformed")
  match ← createIntent rt store intent payload with
  | none => return store
  | some created => return sealArtifact rt created intent payload fault cleanup

/-! ## Recovery -/

def terminalizeRecovery (store : Store) (intentId sessionId : String) : Except StoreError Store :=
  let writeIntents := update (fun row : WriteIntent => row.id = intentId ∧ (row.status = .pending ∨ row.status = .failed))
    (fun row => { row with status := .quarantined }) store.writeIntents
  let store := { store with writeIntents }
  match store.ledger.session? sessionId with
  | none => .ok store
  | some session =>
    if session.state = .withdrawn then .ok store
    else do
      let sessions := update (fun s => s.id = sessionId)
        (fun s => { s with state := .failed, collectionBlocked := true }) store.ledger.sessions
      let payload : Dict := [("intent_id", .str intentId)]
      let (ledger, _) ← (M1Backend.event { store.ledger with sessions } sessionId "M2IntentQuarantined"
        payload).mapError .ledger
      let auditEvents ← insert AuditEvent.Clash .integrityError ledger.auditEvents
        { id := s!"m2-recovery-{intentId}", eventType := "M2_INTENT_QUARANTINED", sessionId := some sessionId, payload }
      return { store with ledger := { ledger with auditEvents } }

/-- One round of the first loop of `recover`, for a row that is pending or failed; `moves` is less than two if a move
raises or the process dies. -/
def recoverIntent (store : Store) (intentId : String) (moves : Nat) (commits : Bool) : Store :=
  match store.writeIntents.find? fun row => row.id = intentId ∧ (row.status = .pending ∨ row.status = .failed) with
  | none => store
  | some row =>
    let moved := { store with files := quarantineFiles store.files row.artifactId moves }
    if 2 ≤ moves ∧ commits then
      match terminalizeRecovery moved row.id row.sessionId with
      | .ok store => store
      | .error _ => moved
    else moved

/-- One round of the second loop of `recover`, for a file with the given name. -/
def sweepOrphan (store : Store) (artifactId : String) : Store :=
  if (∃ entry ∈ store.files.finals, entry.1 = artifactId) ∧ ∀ manifest ∈ store.manifests, manifest.artifactId ≠ artifactId
  then { store with files := { store.files with finals := remove caseFold store.files.finals artifactId } }
  else store

end PduExamObserver.M1R1
