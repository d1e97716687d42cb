import PduExamObserver.M1.Runs
import PduExamObserver.M1R1.Persistence

/-! # The operations of the version 3 store

Registering a copy outside the store, the operations of `M1R1Backend`, and every operation but those of the
reconciliation as one action. -/

namespace PduExamObserver.M1R1
open M1 Table Folder Transition
set_option autoImplicit false

/-! ## External targets -/

def opaqueExternalId (value : String) : Except StoreError Unit :=
  require (1 ≤ value.length ∧ value.length ≤ 128 ∧
      value.toList.all fun ch => ch.isAlphanum || "._-".toList.contains ch)
    (.targetRegistration "invalid export id")

def registerExternalTarget (rt : Runtime) (store : Store) (artifactId exportId manifestSha256 : String) :
    Except StoreError Store := do
  opaqueId artifactId "artifact id"
  opaqueExternalId exportId
  let invalid := StoreError.targetRegistration "artifact manifest is not valid"
  let manifest ← orError invalid (store.manifests.find? fun row => row.artifactId = artifactId)
  let _ ← orError invalid ((store.ledger.artifact? artifactId).filter (·.status = .valid))
  let actual ← manifestBinding rt manifest
  require (manifestSha256 = actual) (.targetRegistration "manifest binding does not match")
  let (id, locatorDigest) := targetIdentity rt artifactId
    (.obj [("artifact_id", .str artifactId), ("export_id", .str exportId),
      ("root_scope", .str RootScope.externalAttestation.value), ("target_kind", .str TargetKind.externalCopy.value)])
  let targets := insertOrIgnore ReconciliationTarget.Clash store.targets
    { id, artifactId, targetKind := .externalCopy, rootScope := .externalAttestation, locatorDigest
      relativePath := none, exportId := some exportId, expectedByteSize := none, expectedSha256 := none
      manifestSchemaVersion := manifest.manifestSchemaVersion, manifestSha256 := actual }
  let conflict := StoreError.targetRegistration "external target idempotency conflict"
  let persisted ← orError conflict (targets.find? fun row => row.id = id)
  require (persisted.artifactId = artifactId ∧ persisted.targetKind = .externalCopy ∧
      persisted.rootScope = .externalAttestation ∧ persisted.locatorDigest = locatorDigest ∧
      persisted.exportId = some exportId ∧ persisted.manifestSha256 = actual) conflict
  return { store with targets }

/-! ## The ledger's operations -/

/-- The rows that `_after_withdrawal_receipt` selects, as it inserts them. -/
def withdrawalTargets (ledger : Database) (targets : List ReconciliationTarget) (participantId receiptId : String) :
    List TaskTarget :=
  ledger.withdrawalTasks.flatMap fun task =>
    match ledger.session? task.withdrawalSubjectSessionId, ledger.artifact? task.artifactId with
    | some subject, some artifact =>
      if subject.participantId = some participantId then
        (targets.filter fun target => target.artifactId = task.artifactId).map fun target =>
          { withdrawalTaskId := task.id, participantId, withdrawalReceiptId := receiptId
            withdrawalSubjectSessionId := task.withdrawalSubjectSessionId, artifactId := task.artifactId
            artifactSessionId := artifact.sessionId, targetId := target.id, targetKind := target.targetKind
            rootScope := target.rootScope, state := .pendingConfirmation, stateVersion := 0, blockerCode := none }
      else []
    | _, _ => []

/-- `_after_withdrawal_receipt`; the requirement is the foreign key from an artifact's session to its participant. -/
def afterWithdrawalReceipt (ledger : Database) (targets : List ReconciliationTarget) (taskTargets : List TaskTarget)
    (receipt : WithdrawalReceipt) : Except StoreError (List TaskTarget) := do
  let rows := withdrawalTargets ledger targets receipt.participantId receipt.id
  require (∀ row ∈ rows, row.artifactSessionId ∈ ledger.sessionIdsOf receipt.participantId) .integrityError
  return rows.foldl (insertOrIgnore TaskTarget.Clash) taskTargets

/-- An operation of `M1R1Backend`: the one of `M1Backend`, with the hook for the receipts that its transaction
writes. -/
def backend (rt : Runtime) (clock : Clock) (store : Store) (action : M1Action) : Except StoreError Store :=
  match action with
  | .registerArtifact _ _ _ => .error (.ledger (.invalidTransition "TARGET_REGISTRATION_REQUIRED"))
  -- the store of version 3 has no `add_dependency`
  | .addDependency parent _ => .error (.keyError parent)
  | action => do
    let ledger ← (action.run rt.toRuntime clock store.ledger).mapError .ledger
    let written := ledger.withdrawalReceipts.drop store.ledger.withdrawalReceipts.length
    let taskTargets ← written.foldlM (afterWithdrawalReceipt ledger store.targets) store.taskTargets
    return { store with ledger, taskTargets }

/-! ## Actions -/

inductive StoreAction where
  | backend (clock : Clock) (action : M1Action)
  | registerExternalTarget (artifactId exportId manifestSha256 : String)
  | persist (intent : ArtifactIntent) (source : Option (List UInt8)) (fault : Fault) (cleanup : Cleanup)
  /-- a round of the first loop of `recover` -/
  | recoverIntent (intentId : String) (moves : Nat) (commits : Bool)
  /-- a round of its second loop -/
  | sweepOrphan (artifactId : String)

def StoreAction.run (rt : Runtime) (store : Store) : StoreAction → Except StoreError Store
  | .backend clock action => M1R1.backend rt clock store action
  | .registerExternalTarget artifactId exportId manifestSha256 =>
    M1R1.registerExternalTarget rt store artifactId exportId manifestSha256
  | .persist intent source fault cleanup => M1R1.persist rt store intent source fault cleanup
  | .recoverIntent intentId moves commits => .ok (M1R1.recoverIntent store intentId moves commits)
  | .sweepOrphan artifactId => .ok (M1R1.sweepOrphan store artifactId)

def storeStep (rt : Runtime) (store : Store) (action : StoreAction) : Store :=
  match action.run rt store with
  | .ok store => store
  | .error _ => store

/-- Every sequence of the operations, from a new root. A restart is the rounds of `recover`, in any order and number. -/
def storeSystem (rt : Runtime) : System Store StoreAction := ofFun (fun store => store = {}) (storeStep rt)

/-! ## A runtime to evaluate runs with -/

namespace Sample

def runtime : Runtime where
  toRuntime := M1.sampleRuntime
  sha256Bytes bytes := String.ofList (bytes.map fun byte => Char.ofNat byte.toNat)
  sha256Text text := text
  rootIdentityDigest := "root"

/-- A study with a participant and the research sessions `research-aaa` and `research-aaaaa`. -/
def sessions : List StoreAction := M1.twoSessionsRun.map fun (clock, action) => .backend clock action

def fixture (intentId artifactId : String) : ArtifactIntent where
  intentId
  artifactId
  sessionId := "research-aaa"
  artifactKind := "TECHNICAL_FIXTURE"
  technicalInputKind := "DETERMINISTIC_FIXTURE"
  captureProfileVersion := "fixture-profile-v1"
  monotonicTimingOrigin := "synthetic-monotonic-v1"
  processingVersion := "fixture-generator-v1"

def persist (intentId artifactId : String) (fault : Fault := .none) : StoreAction :=
  .persist (fixture intentId artifactId) (some [120]) fault .done

end Sample

end PduExamObserver.M1R1
