import Mathlib.Data.List.MinMax
import PduExamObserver.M1R1.Confirmation

/-! # Local runs and the final receipt

`ReconciliationCoordinator.run_local` commits between the steps of the deletion primitive, so each of its transactions
is a function of its own; `Progress` is what the call keeps in its frame from one to the next. -/

namespace PduExamObserver.M1R1
open M1 Table Folder
set_option autoImplicit false

/-! ## The binding of a run -/

/-- The arguments of `permits_execution`. -/
structure ExecutionAuthorityBinding where
  rootIdentityDigest : String
  executionId : String
  planSha256 : String
  targetIds : List String

def recoverySnapshot (store : Store) (targetId : String) : Option PredeleteSnapshot :=
  ((store.attempts.filter fun attempt =>
    attempt.targetId = targetId ∧ attempt.stage = .recoveryRequired ∧ attempt.observed.isSome = true).argmax
      Attempt.attemptNumber).bind Attempt.observed

def planForConsumed (rt : Runtime) (store : Store) (consumed : ConsumedChallenge) :
    Except ReconciliationError ReconciliationPlan := do
  let receipt ← orError (.reconciliationBlocked "WITHDRAWAL_BINDING_INVALID")
    (store.ledger.withdrawalReceipts.find? fun row =>
      row.id = consumed.withdrawalReceiptId ∧ row.participantId = consumed.participantId)
  let plan ← planForSession rt store receipt.subjectSessionId
  require (plan.planSha256 = consumed.planSha256) (.reconciliationBlocked "PLAN_CHANGED")
  require (plan.body.otherBlockers = []) (.reconciliationBlocked "PLAN_BLOCKED")
  return plan

def PlanBody.runTargets (body : PlanBody) : List String :=
  ((body.targets.filter fun target => target.targetKind.isLocal ∧ target.open = true).map
    PlanTarget.targetId).insertionSort (· ≤ ·)

def authorityBinding (rt : Runtime) (store : Store) (consumed : ConsumedChallenge) :
    Except ReconciliationError ExecutionAuthorityBinding := do
  require (consumed.executionKind = .localRun ∧ consumed.targetId = none)
    (.reconciliationBlocked "LOCAL_EXECUTION_BINDING_INVALID")
  let plan ← planForConsumed rt store consumed
  let targetIds := plan.body.runTargets
  require (targetIds ≠ []) (.reconciliationBlocked "NO_LOCAL_TARGET_REQUIRES_RECONCILIATION")
  require (∀ target ∈ plan.body.targets, target.targetId ∈ targetIds → target.state = .recoveryRequired →
      recoverySnapshot store target.targetId ≠ none)
    (.reconciliationBlocked "RECOVERY_SNAPSHOT_REQUIRED")
  return { rootIdentityDigest := rt.rootIdentityDigest, executionId := consumed.executionId
           planSha256 := consumed.planSha256, targetIds }

/-! ## A run -/

/-- How far `primitive.delete` has got with a target: before `on_verified`, after it, and when the disposition has been
requested and the handle is closed. -/
inductive Phase where
  | pending
  | verified
  | disposed
  deriving DecidableEq, Repr

structure CurrentTarget where
  targetId : String
  attemptId : String
  phase : Phase
  deriving DecidableEq

structure Progress where
  runId : String
  targetIds : List String
  /-- the targets that the loop has not reached -/
  remaining : List String
  current : Option CurrentTarget
  deriving DecidableEq

inductive RunStart where
  | replay (runId : String) (state : RunState)
  | started (store : Store) (progress : Progress)

def TaskTarget.Open (row : TaskTarget) : Prop := row.state = .pendingConfirmation ∨ row.state = .recoveryRequired

instance (row : TaskTarget) : Decidable row.Open := inferInstanceAs (Decidable (_ ∨ _))

def TaskTarget.moved (row : TaskTarget) (state : TargetState) (blockerCode : Option String) : TaskTarget :=
  { row with state, stateVersion := row.stateVersion + 1, blockerCode }

/-- `run_local` up to the loop over the targets. -/
def startRun (rt : Runtime) (store : Store) (consumed : ConsumedChallenge)
    (authority : Option (ExecutionAuthorityBinding → Bool)) (runId : String) : Except ReconciliationError RunStart := do
  let binding ← authorityBinding rt store consumed
  require (∃ permits ∈ authority, permits binding = true) (.reconciliationAuthorityNotIssued "AUTHORITY_NOT_ISSUED")
  let invalid := ReconciliationError.reconciliationBlocked "LOCAL_EXECUTION_BINDING_INVALID"
  let execution ← orError invalid (store.executions.find? fun row =>
    row.id = consumed.executionId ∧ row.challengeId = consumed.challengeId)
  let challenge ← orError invalid (store.challenges.find? fun row => row.id = execution.challengeId)
  require (execution.executionKind = .localRun ∧ challenge.status = .consumed ∧
    challenge.action = .executeLocalReconciliation ∧ challenge.planSha256 = consumed.planSha256 ∧
    challenge.participantId = consumed.participantId) invalid
  match store.runs.find? fun row => row.executionId = consumed.executionId with
  | some existing => return .replay existing.id existing.state
  | none =>
    let runs ← insert Run.Clash (.store .integrityError) store.runs
      { id := runId, executionId := consumed.executionId, participantId := consumed.participantId
        challengeId := consumed.challengeId, planSha256 := consumed.planSha256, state := .running, failureCode := none }
    let taskTargets := update (fun row : TaskTarget => row.targetId ∈ binding.targetIds ∧ row.Open)
      (fun row => row.moved .inProgress none) store.taskTargets
    return .started { store with runs, taskTargets }
      { runId, targetIds := binding.targetIds, remaining := binding.targetIds, current := none }

/-- The first transaction of `_run_target`, for the next target. -/
def beginTarget (store : Store) (progress : Progress) (targetId attemptId : String) :
    Except ReconciliationError (Store × Progress) := do
  let invalid := ReconciliationError.reconciliationBlocked "LOCAL_TARGET_BINDING_INVALID"
  let row ← orError invalid (store.taskTargets.find? fun row => row.targetId = targetId ∧ row.state = .inProgress)
  let target ← orError invalid (store.target? row.targetId)
  require (target.targetKind.isLocal = true) invalid
  let attemptNumber := ((store.attempts.filter fun attempt =>
    attempt.withdrawalTaskId = row.withdrawalTaskId ∧ attempt.targetId = targetId).map Attempt.attemptNumber).foldl max 0 + 1
  let attempts ← insert Attempt.Clash (.store .integrityError) store.attempts
    { id := attemptId, runId := progress.runId, withdrawalTaskId := row.withdrawalTaskId, targetId, attemptNumber
      stage := .predeletePending, observed := none, failureCode := none }
  return ({ store with attempts },
    { progress with remaining := progress.remaining.tail, current := some { targetId, attemptId, phase := .pending } })

structure LocalDeletionTarget where
  targetId : String
  rootScope : RootScope
  relativePath : List String
  expectedByteSize : Nat
  expectedSha256 : String
  requiredVolumeIdentityDigest : Option String
  requiredFileIdentityDigest : Option String

/-- What `_run_target` passes to the primitive. -/
def deletionTarget (store : Store) (targetId : String) : Option LocalDeletionTarget := do
  let target ← store.target? targetId
  let relativePath ← target.relativePath
  let expectedByteSize ← target.expectedByteSize
  let expectedSha256 ← target.expectedSha256
  let snapshot := recoverySnapshot store targetId
  return { targetId, rootScope := target.rootScope, relativePath, expectedByteSize, expectedSha256
           requiredVolumeIdentityDigest := snapshot.map PredeleteSnapshot.volumeIdentityDigest
           requiredFileIdentityDigest := snapshot.map PredeleteSnapshot.fileIdentityDigest }

/-- `_verify_target` and the comparison with the identity of the last attempt, for a file that could be opened and
read. -/
def verifyTarget (target : LocalDeletionTarget) (observed : PredeleteSnapshot) : Except String Unit := do
  require (observed.byteSize = target.expectedByteSize) "TARGET_SIZE_MISMATCH"
  require (observed.sha256 = target.expectedSha256) "TARGET_HASH_MISMATCH"
  require ((∀ digest ∈ target.requiredVolumeIdentityDigest, observed.volumeIdentityDigest = digest) ∧
      ∀ digest ∈ target.requiredFileIdentityDigest, observed.fileIdentityDigest = digest)
    "RECOVERY_TARGET_IDENTITY_CHANGED"

def updateAttempt (store : Store) (p : Attempt → Prop) [DecidablePred p] (f : Attempt → Attempt) : Store :=
  { store with attempts := update p f store.attempts }

def updateTargets (store : Store) (p : TaskTarget → Prop) [DecidablePred p] (f : TaskTarget → TaskTarget) : Store :=
  { store with taskTargets := update p f store.taskTargets }

def updateRuns (store : Store) (p : Run → Prop) [DecidablePred p] (f : Run → Run) : Store :=
  { store with runs := update p f store.runs }

/-- The callback `verified`. -/
def recordVerified (store : Store) (attemptId : String) (observed : PredeleteSnapshot) : Store :=
  updateAttempt store (fun attempt => attempt.id = attemptId)
    fun attempt => { attempt with stage := .predeleteVerified, observed := some observed }

def disposeFile (files : Files) (relativePath : List String) : Files :=
  { files with finals := files.finals.filter fun entry =>
      (finalPath entry.1).map caseFold ≠ relativePath.map caseFold }

/-- The transaction for a `DeletionBlocked`. -/
def recordBlocked (store : Store) (runId targetId attemptId code : String) (dispositionMayHaveOccurred : Bool) : Store :=
  let recovers := dispositionMayHaveOccurred = true
  let store := updateAttempt store (fun attempt => attempt.id = attemptId)
    fun attempt => { attempt with stage := if recovers then .recoveryRequired else .blocked, failureCode := some code }
  let store := updateTargets store (fun row => row.targetId = targetId)
    fun row => row.moved (if recovers then .recoveryRequired else .blocked) (some code)
  updateRuns store (fun run => run.id = runId)
    fun run => { run with state := if recovers then .recoveryRequired else .blocked, failureCode := some code }

/-- The last transaction of `_run_target`. -/
def recordAbsence (store : Store) (targetId attemptId : String) : Store :=
  let store := updateAttempt store (fun attempt => attempt.id = attemptId ∧ attempt.stage = .predeleteVerified)
    fun attempt => { attempt with stage := .absenceVerified }
  updateTargets store (fun row => row.targetId = targetId ∧ row.state = .inProgress)
    fun row => row.moved .localDeletionVerified none

/-- The last transaction of `run_local`. -/
def completeRun (store : Store) (runId : String) : Store :=
  updateRuns store (fun run => run.id = runId) fun run => { run with state := .completed }

/-- What `ResearchStoreV3.recover` does after the recovery of the intents. -/
def recoverRuns (store : Store) : Store :=
  let interrupted := some "PROCESS_INTERRUPTED"
  let store := updateRuns store (fun run => run.state = .queued ∨ run.state = .running)
    fun run => { run with state := .recoveryRequired, failureCode := interrupted }
  let store := updateTargets store (fun row => row.state = .inProgress)
    fun row => row.moved .recoveryRequired interrupted
  updateAttempt store (fun attempt => attempt.stage = .predeletePending ∨ attempt.stage = .predeleteVerified ∨
      attempt.stage = .deleteMarked)
    fun attempt => { attempt with stage := .recoveryRequired, failureCode := interrupted }

/-! ## The final receipt -/

/-- `_existing`: the body that the receipt's row encodes, when its digest is the one of the row. -/
def existingReceipt (rt : Runtime) (store : Store) (sessionId : String) : Except ReconciliationError (Option ReceiptBody) :=
  match (store.ledger.session? sessionId).bind fun session =>
    store.receipts.find? fun row => session.participantId = some row.participantId with
  | none => .ok none
  | some row =>
    if row.bodySha256 = row.body.sha256 rt then .ok (some row.body)
    else .error (.schemaIntegrity "reconciliation receipt binding is invalid")

/-- The first query of `_require_terminal_evidence`. -/
def AttestationEvidence (store : Store) (participantId receiptId targetId : String) (now : Seconds) : Prop :=
  ∃ attestation ∈ store.attestations, attestation.targetId = targetId ∧ attestation.participantId = participantId ∧
    attestation.withdrawalReceiptId = receiptId ∧
    (∃ execution ∈ store.executions, execution.id = attestation.executionId ∧
      execution.challengeId = attestation.challengeId ∧ execution.executionKind = .externalAttestation) ∧
    (∃ challenge ∈ store.challenges, challenge.id = attestation.challengeId ∧
      challenge.planSha256 = attestation.planSha256 ∧ challenge.participantId = attestation.participantId ∧
      challenge.withdrawalReceiptId = attestation.withdrawalReceiptId ∧ challenge.targetId = some attestation.targetId ∧
      challenge.action = .attestExternalDeletion ∧ challenge.status = .consumed) ∧
    ∃ procedure ∈ store.procedures, procedure.id = attestation.procedureAuthorityId ∧ procedure.current now

def DeletionEvidence (store : Store) (participantId receiptId targetId : String) : Prop :=
  ∃ attempt ∈ store.attempts, attempt.targetId = targetId ∧ attempt.stage = .absenceVerified ∧
    ∃ run ∈ store.runs, run.id = attempt.runId ∧ run.participantId = participantId ∧ run.state = .completed ∧
      (∃ execution ∈ store.executions, execution.id = run.executionId ∧ execution.challengeId = run.challengeId ∧
        execution.executionKind = .localRun) ∧
      ∃ challenge ∈ store.challenges, challenge.id = run.challengeId ∧ challenge.planSha256 = run.planSha256 ∧
        challenge.participantId = run.participantId ∧ challenge.withdrawalReceiptId = receiptId ∧
        challenge.targetId = none ∧ challenge.action = .executeLocalReconciliation ∧ challenge.status = .consumed

instance (store : Store) (participantId receiptId targetId : String) (now : Seconds) :
    Decidable (AttestationEvidence store participantId receiptId targetId now) :=
  inferInstanceAs (Decidable (∃ attestation ∈ store.attestations, _))

instance (store : Store) (participantId receiptId targetId : String) :
    Decidable (DeletionEvidence store participantId receiptId targetId) :=
  inferInstanceAs (Decidable (∃ attempt ∈ store.attempts, _))

/-- The evidence that `_require_terminal_evidence` asks for. -/
def TerminalEvidence (store : Store) (body : PlanBody) (now : Seconds) (target : PlanTarget) : Prop :=
  if target.targetKind = .externalCopy
  then AttestationEvidence store body.participantId body.withdrawalReceiptId target.targetId now
  else DeletionEvidence store body.participantId body.withdrawalReceiptId target.targetId

instance (store : Store) (body : PlanBody) (now : Seconds) (target : PlanTarget) :
    Decidable (TerminalEvidence store body now target) := by
  unfold TerminalEvidence
  infer_instance

/-- The tasks that `finalize` completes: those with targets of the participant, all of them ended. -/
def finishedTasks (store : Store) (participantId : String) : List String :=
  let own := store.taskTargets.filter fun row => row.participantId = participantId
  (own.map TaskTarget.withdrawalTaskId).filter fun taskId => own.all fun row =>
    row.withdrawalTaskId ≠ taskId ∨ (row.targetKind = .externalCopy ∧ row.state = .externalDeletionAttested) ∨
      (row.targetKind ≠ .externalCopy ∧ row.state = .localDeletionVerified)

def receiptId (rt : Runtime) (body : ReceiptBody) : String :=
  "reconciliation-receipt-" ++ String.ofList ((body.sha256 rt).toList.take 24)

/-- `finalize`: the store and the body of the receipt. -/
def finalize (rt : Runtime) (store : Store) (sessionId : String) (now : Seconds) :
    Except ReconciliationError (Store × ReceiptBody) := do
  let plan ← planForSession rt store sessionId
  match ← existingReceipt rt store sessionId with
  | some existing =>
    require (plan.body.complete = true) (.schemaIntegrity "reconciliation receipt state is invalid")
    require (∀ target ∈ plan.body.targets, TerminalEvidence store plan.body now target)
      (.reconciliationBlocked "TERMINAL_EVIDENCE_BINDING_INVALID")
    -- equal canonical texts are the texts of equal bodies
    require (existing = ReceiptBody.fromPlan plan)
      (.schemaIntegrity "reconciliation receipt replay binding is invalid")
    return (store, existing)
  | none =>
    require (plan.body.complete = true) (.reconciliationBlocked "RECONCILIATION_NOT_COMPLETE")
    require (∀ target ∈ plan.body.targets, TerminalEvidence store plan.body now target)
      (.reconciliationBlocked "TERMINAL_EVIDENCE_BINDING_INVALID")
    let body := ReceiptBody.fromPlan plan
    let finished := finishedTasks store plan.body.participantId
    let withdrawalTasks := update (fun task => task.id ∈ finished) (fun task => { task with status := .completed })
      store.ledger.withdrawalTasks
    let receipts ← insert ReceiptRow.Clash (.store .integrityError) store.receipts
      { id := receiptId rt body, participantId := plan.body.participantId
        withdrawalReceiptId := plan.body.withdrawalReceiptId, body, bodySha256 := body.sha256 rt }
    return ({ store with ledger := { store.ledger with withdrawalTasks }, receipts }, body)

end PduExamObserver.M1R1
