import PduExamObserver.Library.Folder
import PduExamObserver.M1.Backend

/-! # The operational ledger, version 3

The tables that versions 2 and 3 add to the ledger, and the files of the M2 artifacts. The `created_at`, `updated_at`,
`started_at`, `terminal_at` and `sealed_at` columns are written and never read, and are left out; a relative path is
the list of its parts. -/

namespace PduExamObserver.M1R1
open M1 Table
set_option autoImplicit false

inductive StoreError where
  | persistenceFailure (message : String)
  | invalidTransition (message : String)
  | targetRegistration (message : String)
  | schemaIntegrity (message : String)
  | keyError (key : String)
  /-- `sqlite3.IntegrityError` -/
  | integrityError
  /-- an exception of the ledger's backend -/
  | ledger (e : M1Error)
  deriving DecidableEq

/-! ## Artifacts -/

structure ArtifactManifest where
  artifactId : String
  artifactKind : String
  technicalInputKind : String
  manifestSchemaVersion : Nat
  relativePath : List String
  byteSize : Nat
  sha256 : String
  captureProfileVersion : String
  monotonicTimingOrigin : String
  processingVersion : String
  technicalFailureCode : Option String
  deriving DecidableEq

inductive IntentStatus where
  | pending
  | sealed
  | failed
  | quarantined
  deriving DecidableEq, Repr

/-- A row of `m2_write_intents`; its two paths are derived from the artifact's id. -/
structure WriteIntent where
  id : String
  sessionId : String
  artifactId : String
  requestHash : String
  status : IntentStatus
  deriving DecidableEq

inductive TargetKind where
  | localResearchFile
  | localExportStagingFile
  | externalCopy
  deriving DecidableEq, Repr

def TargetKind.value : TargetKind → String
  | .localResearchFile => "LOCAL_RESEARCH_FILE"
  | .localExportStagingFile => "LOCAL_EXPORT_STAGING_FILE"
  | .externalCopy => "EXTERNAL_COPY"

inductive RootScope where
  | researchRoot
  | exportStaging
  | externalAttestation
  deriving DecidableEq, Repr

def RootScope.value : RootScope → String
  | .researchRoot => "RESEARCH_ROOT"
  | .exportStaging => "EXPORT_STAGING"
  | .externalAttestation => "EXTERNAL_ATTESTATION"

structure ReconciliationTarget where
  id : String
  artifactId : String
  targetKind : TargetKind
  rootScope : RootScope
  locatorDigest : String
  relativePath : Option (List String)
  exportId : Option String
  expectedByteSize : Option Nat
  expectedSha256 : Option String
  manifestSchemaVersion : Nat
  manifestSha256 : String
  deriving DecidableEq

/-! ## Withdrawal targets -/

inductive TargetState where
  | pendingConfirmation
  | inProgress
  | localDeletionVerified
  | externalDeletionAttested
  | recoveryRequired
  | blocked
  deriving DecidableEq, Repr

structure TaskTarget where
  withdrawalTaskId : String
  participantId : String
  withdrawalReceiptId : String
  withdrawalSubjectSessionId : String
  artifactId : String
  artifactSessionId : String
  targetId : String
  targetKind : TargetKind
  rootScope : RootScope
  state : TargetState
  stateVersion : Nat
  blockerCode : Option String
  deriving DecidableEq

/-! ## Challenges and what they allow -/

inductive ProcedureStatus where
  | approved
  | revoked
  deriving DecidableEq, Repr

structure ProcedureAuthority where
  id : String
  authorityReference : String
  sourceDocumentSha256 : String
  status : ProcedureStatus
  approvedAt : Rat
  expiresAt : Option Rat
  revokedAt : Option Rat
  deriving DecidableEq

inductive HoldStatus where
  | active
  | released
  deriving DecidableEq, Repr

structure Hold where
  id : String
  participantId : String
  status : HoldStatus
  deriving DecidableEq

structure StepUp where
  id : String
  reviewerSessionDigest : String
  authenticationEpoch : Nat
  verifiedAt : Rat
  expiresAt : Rat
  consumedAt : Option Rat
  deriving DecidableEq

inductive ChallengeAction where
  | executeLocalReconciliation
  | attestExternalDeletion
  deriving DecidableEq, Repr

inductive ChallengeStatus where
  | issued
  | consumed
  | expired
  | revoked
  deriving DecidableEq, Repr

structure Challenge where
  id : String
  participantId : String
  withdrawalReceiptId : String
  reviewerSessionDigest : String
  tokenDigest : String
  planSha256 : String
  targetStateVersion : Nat
  stepUpAuthenticationId : String
  targetId : Option String
  action : ChallengeAction
  status : ChallengeStatus
  issuedAt : Rat
  expiresAt : Rat
  deriving DecidableEq

inductive ExecutionKind where
  | localRun
  | externalAttestation
  deriving DecidableEq, Repr

structure Execution where
  id : String
  challengeId : String
  executionKind : ExecutionKind
  deriving DecidableEq

inductive RunState where
  | queued
  | running
  | completed
  | blocked
  | recoveryRequired
  | failedTechnical
  deriving DecidableEq, Repr

structure Run where
  id : String
  executionId : String
  participantId : String
  challengeId : String
  planSha256 : String
  state : RunState
  failureCode : Option String
  deriving DecidableEq

inductive AttemptStage where
  | predeletePending
  | predeleteVerified
  | deleteMarked
  | absenceVerified
  | recoveryRequired
  | blocked
  deriving DecidableEq, Repr

structure PredeleteSnapshot where
  byteSize : Nat
  sha256 : String
  volumeIdentityDigest : String
  fileIdentityDigest : String
  deriving DecidableEq

/-- A row of `reconciliation_attempts`; its four observed columns are written together. -/
structure Attempt where
  id : String
  runId : String
  withdrawalTaskId : String
  targetId : String
  attemptNumber : Nat
  stage : AttemptStage
  observed : Option PredeleteSnapshot
  failureCode : Option String
  deriving DecidableEq

structure Attestation where
  id : String
  executionId : String
  participantId : String
  withdrawalReceiptId : String
  planSha256 : String
  withdrawalTaskId : String
  targetId : String
  challengeId : String
  procedureAuthorityId : String
  reviewerSessionDigest : String
  deriving DecidableEq

structure ReceiptBody where
  blockedTargetTotal : Nat
  complete : Bool
  completionBasis : List String
  externalDeletionAttestedTotal : Nat
  externalTargetTotal : Nat
  localDeletionVerifiedTotal : Nat
  localTargetTotal : Nat
  participantPseudonym : String
  planSha256 : String
  recoveryRequiredTotal : Nat
  taskCompleted : Nat
  taskTotal : Nat
  withdrawalReceiptId : String
  deriving DecidableEq

/-- A row of `reconciliation_receipts`, with the body that `body_json` encodes. -/
structure ReceiptRow where
  id : String
  participantId : String
  withdrawalReceiptId : String
  body : ReceiptBody
  bodySha256 : String
  deriving DecidableEq

/-! ## Uniqueness constraints -/

abbrev ArtifactManifest.Clash (a b : ArtifactManifest) : Prop :=
  a.artifactId = b.artifactId ∨ a.relativePath = b.relativePath

abbrev WriteIntent.Clash (a b : WriteIntent) : Prop := a.id = b.id ∨ a.artifactId = b.artifactId

abbrev ReconciliationTarget.Clash (a b : ReconciliationTarget) : Prop :=
  a.id = b.id ∨ a.locatorDigest = b.locatorDigest

abbrev TaskTarget.Clash (a b : TaskTarget) : Prop := a.targetId = b.targetId

abbrev ProcedureAuthority.Clash (a b : ProcedureAuthority) : Prop :=
  a.id = b.id ∨ a.authorityReference = b.authorityReference

abbrev StepUp.Clash (a b : StepUp) : Prop := a.id = b.id

abbrev Challenge.Clash (a b : Challenge) : Prop :=
  a.id = b.id ∨ a.tokenDigest = b.tokenDigest ∨ a.stepUpAuthenticationId = b.stepUpAuthenticationId

abbrev Execution.Clash (a b : Execution) : Prop := a.id = b.id ∨ a.challengeId = b.challengeId

abbrev Run.Clash (a b : Run) : Prop := a.id = b.id ∨ a.executionId = b.executionId

abbrev Attempt.Clash (a b : Attempt) : Prop :=
  a.id = b.id ∨ a.runId = b.runId ∧ a.targetId = b.targetId ∨
    a.withdrawalTaskId = b.withdrawalTaskId ∧ a.targetId = b.targetId ∧ a.attemptNumber = b.attemptNumber

abbrev Attestation.Clash (a b : Attestation) : Prop :=
  a.id = b.id ∨ a.executionId = b.executionId ∨ a.withdrawalTaskId = b.withdrawalTaskId ∧ a.targetId = b.targetId

abbrev ReceiptRow.Clash (a b : ReceiptRow) : Prop :=
  a.id = b.id ∨ a.participantId = b.participantId ∨ a.withdrawalReceiptId = b.withdrawalReceiptId

/-! ## The store -/

/-- The files of `staging/m2-partials` and `artifacts/m2`, each under the artifact's id. -/
structure Files where
  partials : List (String × List UInt8) := []
  finals : List (String × List UInt8) := []

structure Store where
  ledger : Database := {}
  manifests : List ArtifactManifest := []
  writeIntents : List WriteIntent := []
  targets : List ReconciliationTarget := []
  taskTargets : List TaskTarget := []
  procedures : List ProcedureAuthority := []
  holds : List Hold := []
  stepUps : List StepUp := []
  challenges : List Challenge := []
  executions : List Execution := []
  runs : List Run := []
  attempts : List Attempt := []
  attestations : List Attestation := []
  receipts : List ReceiptRow := []
  files : Files := {}

/-- What the store takes from the standard library besides the ledger's runtime: `sha256Bytes` and `sha256Text` are
hexadecimal digests, `rootIdentityDigest` is the one of the root's device and inode. -/
structure Runtime extends M1.Runtime where
  sha256Bytes : List UInt8 → String
  sha256Text : String → String
  rootIdentityDigest : String

/-- `casefold` on ASCII text. NTFS compares the names of artifacts in the same way. -/
def caseFold (s : String) : String := String.ofList (s.toList.map Char.toLower)

end PduExamObserver.M1R1
