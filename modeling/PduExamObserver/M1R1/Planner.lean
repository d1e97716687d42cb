import PduExamObserver.M1R1.Store

/-! # The reconciliation plan

`ReconciliationPlanner.plan_for_session` and the receipt that `ReconciliationReceipt.from_plan` makes of a plan. -/

namespace PduExamObserver.M1R1
open M1 Table
set_option autoImplicit false

inductive ReconciliationError where
  | store (e : StoreError)
  | reconciliationBlocked (code : String)
  | challengeRejected (code : String)
  | procedureAuthorityNotIssued (code : String)
  | reconciliationAuthorityNotIssued (code : String)
  | schemaIntegrity (message : String)
  deriving DecidableEq

def TargetState.value : TargetState → String
  | .pendingConfirmation => "PENDING_CONFIRMATION"
  | .inProgress => "IN_PROGRESS"
  | .localDeletionVerified => "LOCAL_DELETION_VERIFIED"
  | .externalDeletionAttested => "EXTERNAL_DELETION_ATTESTED"
  | .recoveryRequired => "RECOVERY_REQUIRED"
  | .blocked => "BLOCKED"

def TargetKind.isLocal (kind : TargetKind) : Bool := kind = .localResearchFile ∨ kind = .localExportStagingFile

/-! ## The rows of a plan -/

structure PlanTarget where
  rootScope : RootScope
  state : TargetState
  stateVersion : Nat
  targetId : String
  targetKind : TargetKind
  withdrawalTaskId : String
  deriving DecidableEq

structure PlanTask where
  artifactId : String
  withdrawalTaskId : String
  deriving DecidableEq

structure PlanBody where
  blockerCodes : List String
  complete : Bool
  confirmationPhrase : String
  externalTargetTotal : Nat
  localTargetTotal : Nat
  participantId : String
  participantPseudonym : String
  recoveryRequiredTotal : Nat
  blockedTargetTotal : Nat
  targetStateVersion : Nat
  targetTotal : Nat
  targets : List PlanTarget
  taskTotal : Nat
  tasks : List PlanTask
  withdrawalReceiptId : String
  deriving DecidableEq

structure ReconciliationPlan where
  body : PlanBody
  planSha256 : String
  deriving DecidableEq

/-- A row of the join in `plan_for_session`. -/
structure Mapping where
  row : TaskTarget
  target : ReconciliationTarget
  artifactStatus : ArtifactStatus

def Mapping.planTarget (mapping : Mapping) : PlanTarget where
  rootScope := mapping.row.rootScope
  state := mapping.row.state
  stateVersion := mapping.row.stateVersion
  targetId := mapping.row.targetId
  targetKind := mapping.row.targetKind
  withdrawalTaskId := mapping.row.withdrawalTaskId

def PlanTarget.terminal (target : PlanTarget) : Bool :=
  (target.targetKind = .externalCopy ∧ target.state = .externalDeletionAttested) ∨
    (target.targetKind.isLocal ∧ target.state = .localDeletionVerified)

def Store.target? (store : Store) (targetId : String) : Option ReconciliationTarget :=
  store.targets.find? fun row => row.id = targetId

def Store.manifest? (store : Store) (artifactId : String) : Option ArtifactManifest :=
  store.manifests.find? fun row => row.artifactId = artifactId

def tasksOf (db : Database) (participantId : String) : List WithdrawalTask :=
  (db.withdrawalTasks.filter fun task => task.withdrawalSubjectSessionId ∈ db.sessionIdsOf participantId).insertionSort
    fun a b => a.id ≤ b.id

def Store.mapping? (store : Store) (row : TaskTarget) : Option Mapping :=
  match store.target? row.targetId, store.ledger.artifact? row.artifactId with
  | some target, some artifact => some ⟨row, target, artifact.status⟩
  | _, _ => none

def mappingsOf (store : Store) (participantId receiptId : String) : List Mapping :=
  ((store.taskTargets.filter fun row =>
      row.participantId = participantId ∧ row.withdrawalReceiptId = receiptId).filterMap store.mapping?).insertionSort
    fun a b => a.row.targetId ≤ b.row.targetId

/-! ## Blockers -/

def manifestMatches (rt : Runtime) (mapping : Mapping) (manifest : ArtifactManifest) : Bool :=
  match manifestBinding rt manifest, normalizedRelativePath manifest.relativePath with
  | .ok manifestSha256, .ok path =>
    manifestSha256 = mapping.target.manifestSha256 ∧
      (mapping.row.targetKind = .localResearchFile → mapping.target.relativePath = some path ∧
        mapping.target.expectedByteSize = some manifest.byteSize ∧ mapping.target.expectedSha256 = some manifest.sha256)
  | _, _ => false

def mappingBlockers (rt : Runtime) (store : Store) (mapping : Mapping) : List String :=
  (match mapping.row.state with
    | .blocked => [M1.orElse mapping.row.blockerCode "TARGET_BLOCKED"]
    | .recoveryRequired => ["RECOVERY_REQUIRED"]
    | _ => []) ++
  (if mapping.artifactStatus ≠ .invalidated then ["ARTIFACT_NOT_INVALIDATED"] else []) ++
  (match store.manifest? mapping.row.artifactId with
    | none => ["MANIFEST_BINDING_INVALID"]
    | some manifest => if manifestMatches rt mapping manifest then [] else ["MANIFEST_BINDING_INVALID"])

def hasIntent (store : Store) (participantId : String) (status : IntentStatus) : Prop :=
  ∃ row ∈ store.writeIntents, row.sessionId ∈ store.ledger.sessionIdsOf participantId ∧ row.status = status

instance (store : Store) (participantId : String) (status : IntentStatus) :
    Decidable (hasIntent store participantId status) := inferInstanceAs (Decidable (∃ row ∈ store.writeIntents, _))

def hasPendingLegacyIntent (db : Database) (participantId : String) : Prop :=
  ∃ row ∈ db.writeIntents, row.sessionId ∈ db.sessionIdsOf participantId ∧ row.status = .pending

instance (db : Database) (participantId : String) : Decidable (hasPendingLegacyIntent db participantId) :=
  inferInstanceAs (Decidable (∃ row ∈ db.writeIntents, _))

def onlyIf (p : Prop) [Decidable p] (code : String) : List String := if p then [code] else []

/-- `_blockers`, with repetitions. -/
def blockers (rt : Runtime) (store : Store) (participantId : String) (tasks : List WithdrawalTask)
    (mappings : List Mapping) : List String :=
  onlyIf (∃ task ∈ tasks, ∀ mapping ∈ mappings, mapping.row.withdrawalTaskId ≠ task.id) "TARGET_BINDING_MISSING" ++
  onlyIf (hasPendingLegacyIntent store.ledger participantId ∨ hasIntent store participantId .pending)
    "ACTIVE_WRITE_INTENT" ++
  onlyIf (hasIntent store participantId .failed) "FAILED_WRITE_INTENT_UNRESOLVED" ++
  onlyIf (hasIntent store participantId .quarantined) "QUARANTINED_WRITE_INTENT_UNRESOLVED" ++
  onlyIf (∃ hold ∈ store.holds, hold.participantId = participantId ∧ hold.status = .active) "APPROVED_HOLD_ACTIVE" ++
  mappings.flatMap (mappingBlockers rt store)

/-! ## The plan -/

def hexDigit (ch : Char) : Nat := if ch.isDigit then ch.toNat - 48 else ch.toNat - 87

/-- `int(digest[:15], 16)`. -/
def hexPrefix (digest : String) : Nat := (digest.toList.take 15).foldl (fun value ch => 16 * value + hexDigit ch) 0

def targetStateVersion (rt : Runtime) (targets : List PlanTarget) : Nat :=
  hexPrefix (rt.sha256 (.arr (targets.map fun target =>
    .arr [.str target.targetId, .str target.state.value, .int target.stateVersion])))

def PlanTarget.json (target : PlanTarget) : Json :=
  .obj [("root_scope", .str target.rootScope.value), ("state", .str target.state.value),
    ("state_version", .int target.stateVersion), ("target_id", .str target.targetId),
    ("target_kind", .str target.targetKind.value), ("withdrawal_task_id", .str target.withdrawalTaskId)]

def PlanBody.json (body : PlanBody) : Json :=
  .obj [("blocked_target_total", .int body.blockedTargetTotal), ("blocker_codes", .arr (body.blockerCodes.map .str)),
    ("complete", .bool body.complete), ("confirmation_phrase", .str body.confirmationPhrase),
    ("external_target_total", .int body.externalTargetTotal), ("local_target_total", .int body.localTargetTotal),
    ("operational_ledger_version", .int 3), ("participant_id", .str body.participantId),
    ("participant_pseudonym", .str body.participantPseudonym), ("plan_schema_version", .int 1),
    ("recovery_required_total", .int body.recoveryRequiredTotal),
    ("target_state_version", .int body.targetStateVersion), ("target_total", .int body.targetTotal),
    ("targets", .arr (body.targets.map PlanTarget.json)), ("task_total", .int body.taskTotal),
    ("tasks", .arr (body.tasks.map fun task => .obj [("artifact_id", .str task.artifactId),
      ("withdrawal_task_id", .str task.withdrawalTaskId)])),
    ("withdrawal_receipt_id", .str body.withdrawalReceiptId)]

def planSha256 (rt : Runtime) (body : PlanBody) : String := rt.sha256 body.json

def planBody (rt : Runtime) (store : Store) (participant : Participant) (receiptId : String) : PlanBody :=
  let tasks := tasksOf store.ledger participant.id
  let mappings := mappingsOf store participant.id receiptId
  let codes := blockers rt store participant.id tasks mappings
  let targets := mappings.map Mapping.planTarget
  { blockerCodes := codes.dedup.insertionSort (· ≤ ·)
    complete := !tasks.isEmpty && codes.isEmpty && targets.all PlanTarget.terminal
    confirmationPhrase := "DOI_SOAT " ++ participant.pseudonym
    externalTargetTotal := targets.countP fun target => target.targetKind = .externalCopy
    localTargetTotal := targets.countP fun target => target.targetKind.isLocal
    participantId := participant.id
    participantPseudonym := participant.pseudonym
    recoveryRequiredTotal := targets.countP fun target => target.state = .recoveryRequired
    blockedTargetTotal := targets.countP fun target => target.state = .blocked
    targetStateVersion := targetStateVersion rt targets
    targetTotal := targets.length
    targets
    taskTotal := tasks.length
    tasks := tasks.map fun task => { artifactId := task.artifactId, withdrawalTaskId := task.id }
    withdrawalReceiptId := receiptId }

def planForSession (rt : Runtime) (store : Store) (sessionId : String) :
    Except ReconciliationError ReconciliationPlan := do
  (opaqueId sessionId "session id").mapError .store
  let missing := ReconciliationError.store (.keyError sessionId)
  let session ← orError missing ((store.ledger.session? sessionId).filter (·.sessionKind = .research))
  let participant ← orError missing (store.ledger.participantOf? session)
  let receipt ← orError (.reconciliationBlocked "WITHDRAWAL_NOT_RECORDED")
    (store.ledger.withdrawalReceipt? participant.id)
  let body := planBody rt store participant receipt.id
  return { body, planSha256 := planSha256 rt body }

/-! ## Receipts -/

/-- `ReconciliationReceipt.from_plan`: the body of the receipt. -/
def ReceiptBody.fromPlan (plan : ReconciliationPlan) : ReceiptBody :=
  let targets := plan.body.targets
  let attested := targets.countP fun target =>
    target.targetKind = .externalCopy ∧ target.state = .externalDeletionAttested
  let verified := targets.countP fun target => target.targetKind.isLocal ∧ target.state = .localDeletionVerified
  { blockedTargetTotal := targets.countP fun target => target.state = .blocked
    complete := plan.body.complete
    completionBasis := onlyIf (attested ≠ 0) "EXTERNAL_DELETION_ATTESTED" ++
      onlyIf (verified ≠ 0) "LOCAL_DELETION_VERIFIED"
    externalDeletionAttestedTotal := attested
    externalTargetTotal := targets.countP fun target => target.targetKind = .externalCopy
    localDeletionVerifiedTotal := verified
    localTargetTotal := targets.countP fun target => target.targetKind.isLocal
    participantPseudonym := plan.body.participantPseudonym
    planSha256 := plan.planSha256
    recoveryRequiredTotal := targets.countP fun target => target.state = .recoveryRequired
    taskCompleted := plan.body.tasks.countP fun task =>
      let own := targets.filter fun target => target.withdrawalTaskId = task.withdrawalTaskId
      own ≠ [] ∧ own.all PlanTarget.terminal
    taskTotal := plan.body.tasks.length
    withdrawalReceiptId := plan.body.withdrawalReceiptId }

def ReceiptBody.json (body : ReceiptBody) : Json :=
  .obj [("blocked_target_total", .int body.blockedTargetTotal), ("collection_authorized", .bool false),
    ("complete", .bool body.complete), ("completion_basis", .arr (body.completionBasis.map .str)),
    ("external_deletion_attested_total", .int body.externalDeletionAttestedTotal),
    ("external_target_total", .int body.externalTargetTotal), ("human_review_required", .bool true),
    ("local_deletion_verified_total", .int body.localDeletionVerifiedTotal),
    ("local_target_total", .int body.localTargetTotal), ("operational_ledger_version", .int 3),
    ("participant_pseudonym", .str body.participantPseudonym), ("plan_sha256", .str body.planSha256),
    ("real_data_deletion_authorized_for_this_run", .bool false), ("receipt_schema_version", .int 1),
    ("recovery_required_total", .int body.recoveryRequiredTotal), ("research_ready", .bool false),
    ("task_completed", .int body.taskCompleted), ("task_total", .int body.taskTotal),
    ("withdrawal_receipt_id", .str body.withdrawalReceiptId)]

def ReceiptBody.sha256 (rt : Runtime) (body : ReceiptBody) : String := rt.sha256 body.json

end PduExamObserver.M1R1
