import PduExamObserver.M1R1.Planner

/-! # Challenges

`ConfirmationService`: a challenge is issued after a PIN step-up and consumed at most once. A call takes the readings
of its clocks and its random tokens as arguments; a reading that is not finite is none. -/

namespace PduExamObserver.M1R1
open M1 Table
set_option autoImplicit false

/-- The store, the deadlines that `ConfirmationService` keeps in memory, and the digest of the current reviewer
session. -/
structure Desk where
  store : Store := {}
  deadlines : List (String × Seconds × Seconds) := []
  reviewer : Option String := none

/-! ## Reviewer sessions -/

def setStatus (p : Challenge → Prop) [DecidablePred p] (status : ChallengeStatus) (challenges : List Challenge) :
    List Challenge := update p (fun challenge => { challenge with status }) challenges

/-- `revoke_issued_challenges_for_reviewer_session`. -/
def revokeIssued (desk : Desk) (digest : String) : Desk :=
  let ids := (desk.store.challenges.filter fun challenge =>
    challenge.reviewerSessionDigest = digest ∧ challenge.status = .issued).map Challenge.id
  { desk with
    store := { desk.store with
      challenges := setStatus (fun challenge => challenge.reviewerSessionDigest = digest ∧ challenge.status = .issued)
        .revoked desk.store.challenges }
    deadlines := desk.deadlines.filter fun deadline => deadline.1 ∉ ids }

/-- `_invalidate_reviewer_session`. -/
def endReviewerSession (desk : Desk) : Desk :=
  match desk.reviewer with
  | none => desk
  | some digest => { revokeIssued desk digest with reviewer := none }

/-- A call of `reviewer_session_digest` with the token of the given digest: whether that session is current. A session
that is found expired ends. -/
def readReviewer (desk : Desk) (digest : String) (alive : Bool) : Desk × Bool :=
  match desk.reviewer with
  | none => (desk, false)
  | some current => if alive then (desk, decide (current = digest)) else (endReviewerSession desk, false)

/-- `_session_digest`, of what the callback has returned. -/
def sessionDigest (digest : Option String) : Except ReconciliationError String := do
  let digest ← orError (.challengeRejected "REVIEWER_SESSION_INVALID") digest
  require (digest.length = 64) (.challengeRejected "REVIEWER_SESSION_INVALID")
  return digest

/-! ## Issuing -/

/-- The arguments of `create_challenge` and what it reads: the reviewer session and the clocks before the lock, the
outcome of the login (none, or the suffix of its rejection), whether the reviewer session is alive and the clocks
inside the lock, and the tokens drawn. -/
structure CreateRequest where
  sessionId : String
  action : Option ChallengeAction
  targetId : Option String
  reviewerDigest : Option String
  now : Option Seconds
  monotonicNow : Option Seconds
  rejectedLogin : Option String
  reviewerAlive : Bool
  currentNow : Option Seconds
  currentMonotonicNow : Option Seconds
  challengeId : String
  challengeToken : String
  stepUpId : String

structure IssuedChallenge where
  challengeId : String
  challengeToken : String
  action : ChallengeAction
  targetId : Option String
  planSha256 : String
  targetStateVersion : Nat
  confirmationPhrase : String
  expiresAt : Seconds

def ttl : Seconds := 120

def PlanTarget.open (target : PlanTarget) : Bool := target.state = .pendingConfirmation ∨ target.state = .recoveryRequired

def PlanBody.otherBlockers (body : PlanBody) : List String := body.blockerCodes.filter (· ≠ "RECOVERY_REQUIRED")

def requireBinding (body : PlanBody) (action : ChallengeAction) (targetId : Option String) :
    Except ReconciliationError Unit :=
  match action with
  | .executeLocalReconciliation => do
    require (targetId = none) (.challengeRejected "LOCAL_CHALLENGE_MUST_NOT_BIND_TARGET")
    require (∃ target ∈ body.targets, target.targetKind.isLocal = true ∧ target.open = true)
      (.challengeRejected "NO_LOCAL_TARGET_REQUIRES_RECONCILIATION")
  | .attestExternalDeletion =>
    require (∃ target ∈ body.targets, some target.targetId = targetId ∧ target.targetKind = .externalCopy ∧
        target.rootScope = .externalAttestation ∧ target.open = true)
      (.challengeRejected "EXTERNAL_TARGET_BINDING_INVALID")

/-- The checks of `create_challenge` before the lock: the reviewer's digest and the two readings. -/
def admitCreate (request : CreateRequest) : Except ReconciliationError (String × Seconds × Seconds × ChallengeAction) := do
  let digest ← sessionDigest request.reviewerDigest
  let now ← orError (.challengeRejected "CLOCK_INVALID") request.now
  let monotonicNow ← orError (.challengeRejected "MONOTONIC_CLOCK_INVALID") request.monotonicNow
  match request.rejectedLogin with
  | some suffix => .error (.challengeRejected ("PIN_STEP_UP_REJECTED" ++ suffix))
  | none => do
    let action ← orError (.challengeRejected "CHALLENGE_ACTION_INVALID") request.action
    return (digest, now, monotonicNow, action)

def issueChallenge (rt : Runtime) (desk : Desk) (request : CreateRequest) (plan : ReconciliationPlan) (digest : String)
    (isCurrent : Bool) (now monotonicNow : Seconds) (action : ChallengeAction) :
    Except ReconciliationError (Desk × IssuedChallenge) := do
  require (isCurrent = true) (.challengeRejected "REVIEWER_SESSION_INVALID")
  let currentNow ← orError (.challengeRejected "CLOCK_INVALID") request.currentNow
  let currentMonotonicNow ← orError (.challengeRejected "MONOTONIC_CLOCK_INVALID") request.currentMonotonicNow
  require (monotonicNow ≤ currentMonotonicNow) (.challengeRejected "MONOTONIC_CLOCK_INVALID")
  require (now ≤ currentNow) (.challengeRejected "CLOCK_ROLLBACK_DETECTED")
  require (currentNow < now + ttl ∧ currentMonotonicNow < monotonicNow + ttl) (.challengeRejected "CHALLENGE_EXPIRED")
  match plan.body.otherBlockers with
  | code :: _ => .error (.challengeRejected ("PLAN_BLOCKED:" ++ code))
  | [] => do
    requireBinding plan.body action request.targetId
    let epoch := (desk.store.stepUps.map StepUp.authenticationEpoch).foldl (fun next epoch => max next (epoch + 1)) 0
    let stepUps ← insert StepUp.Clash (.store .integrityError) desk.store.stepUps
      { id := request.stepUpId, reviewerSessionDigest := digest, authenticationEpoch := epoch, verifiedAt := now
        expiresAt := now + ttl, consumedAt := none }
    let challenges ← insert Challenge.Clash (.store .integrityError) desk.store.challenges
      { id := request.challengeId, participantId := plan.body.participantId
        withdrawalReceiptId := plan.body.withdrawalReceiptId, reviewerSessionDigest := digest
        tokenDigest := rt.sha256Text request.challengeToken, planSha256 := plan.planSha256
        targetStateVersion := plan.body.targetStateVersion, stepUpAuthenticationId := request.stepUpId
        targetId := request.targetId, action, status := .issued, issuedAt := now, expiresAt := now + ttl }
    let deadlines := (request.challengeId, monotonicNow, monotonicNow + ttl) ::
      desk.deadlines.filter fun deadline => deadline.1 ≠ request.challengeId
    return ({ desk with store := { desk.store with stepUps, challenges }, deadlines },
      { challengeId := request.challengeId, challengeToken := request.challengeToken, action
        targetId := request.targetId, planSha256 := plan.planSha256
        targetStateVersion := plan.body.targetStateVersion, confirmationPhrase := plan.body.confirmationPhrase
        expiresAt := now + ttl })

def createChallenge (rt : Runtime) (desk : Desk) (request : CreateRequest) :
    Desk × Except ReconciliationError IssuedChallenge :=
  match admitCreate request with
  | .error e => (desk, .error e)
  | .ok (digest, now, monotonicNow, action) =>
    match planForSession rt desk.store request.sessionId with
    | .error e => (desk, .error e)
    | .ok plan =>
      let (desk, isCurrent) := readReviewer desk digest request.reviewerAlive
      match issueChallenge rt desk request plan digest isCurrent now monotonicNow action with
      | .error e => (desk, .error e)
      | .ok (desk, issued) => (desk, .ok issued)

/-! ## Consuming -/

structure ConsumedChallenge where
  challengeId : String
  executionId : String
  executionKind : ExecutionKind
  participantId : String
  withdrawalReceiptId : String
  planSha256 : String
  targetId : Option String
  reviewerSessionDigest : String
  deriving DecidableEq

/-- The arguments of `permits_external_attestation`. -/
structure AttestationBinding where
  rootIdentityDigest : String
  challengeId : String
  planSha256 : String
  targetId : String
  procedureAuthorityId : String

/-- The arguments of `consume_challenge` and `attest_external_deletion`, and what `_consume` reads and draws. -/
structure ConsumeRequest where
  sessionId : String
  challengeToken : String
  confirmationPhrase : String
  procedureAuthorityId : Option String
  externalAuthority : Option (AttestationBinding → Bool)
  reviewerDigest : Option String
  reviewerAlive : Bool
  now : Option Seconds
  monotonicNow : Option Seconds
  executionId : String
  attestationId : String

/-- The branches of `_consume`: a rejection that leaves the challenge alone, one that closes it, an authority that is
not there, or consumption at the given time. -/
inductive Verdict where
  | refuse (code : String)
  | close (status : ChallengeStatus) (code : String)
  | unauthorized
  | accept (now : Seconds)

def Desk.deadline? (desk : Desk) (challengeId : String) : Option (Seconds × Seconds) :=
  (desk.deadlines.find? fun deadline => deadline.1 = challengeId).map Prod.snd

def permitsAttestation (rt : Runtime) (request : ConsumeRequest) (challenge : Challenge) : Bool :=
  match request.externalAuthority, challenge.targetId, request.procedureAuthorityId with
  | some permits, some targetId, some procedureAuthorityId =>
    permits { rootIdentityDigest := rt.rootIdentityDigest, challengeId := challenge.id
              planSha256 := challenge.planSha256, targetId, procedureAuthorityId }
  | _, _, _ => false

def Challenge.binds (challenge : Challenge) (plan : ReconciliationPlan) : Prop :=
  challenge.participantId = plan.body.participantId ∧ challenge.withdrawalReceiptId = plan.body.withdrawalReceiptId ∧
    challenge.planSha256 = plan.planSha256 ∧ challenge.targetStateVersion = plan.body.targetStateVersion

instance (challenge : Challenge) (plan : ReconciliationPlan) : Decidable (challenge.binds plan) :=
  inferInstanceAs (Decidable (_ ∧ _))

def verdict (rt : Runtime) (desk : Desk) (request : ConsumeRequest) (plan : ReconciliationPlan) (digest : String)
    (isCurrent : Bool) (challenge : Challenge) : Verdict :=
  if challenge.status = .consumed then .refuse "CHALLENGE_ALREADY_CONSUMED"
  else if challenge.status ≠ .issued then .refuse "CHALLENGE_NOT_ACTIVE"
  else if isCurrent = false then .close .revoked "REVIEWER_SESSION_INVALID"
  else match request.now with
  | none => .close .revoked "CLOCK_INVALID"
  | some now =>
    if challenge.reviewerSessionDigest ≠ digest then .refuse "REVIEWER_SESSION_INVALID"
    else match desk.deadline? challenge.id with
    | none => .close .expired "CHALLENGE_EXPIRED"
    | some (issued, expires) =>
      match request.monotonicNow with
      | none => .close .revoked "MONOTONIC_CLOCK_INVALID"
      | some monotonicNow =>
        if monotonicNow < issued then .close .revoked "MONOTONIC_CLOCK_INVALID"
        else if expires ≤ monotonicNow then .close .expired "CHALLENGE_EXPIRED"
        else if now < challenge.issuedAt then .close .revoked "CLOCK_ROLLBACK_DETECTED"
        else if challenge.expiresAt ≤ now then .close .expired "CHALLENGE_EXPIRED"
        else if request.confirmationPhrase ≠ plan.body.confirmationPhrase then .refuse "CONFIRMATION_PHRASE_MISMATCH"
        else if ¬ challenge.binds plan then .close .revoked "PLAN_CHANGED"
        else if challenge.action = .attestExternalDeletion ∧ request.procedureAuthorityId = none then
          .refuse "EXTERNAL_ATTESTATION_REQUIRES_PROCEDURE"
        else if challenge.action = .attestExternalDeletion ∧ permitsAttestation rt request challenge = false then
          .unauthorized
        else .accept now

def ChallengeAction.executionKind : ChallengeAction → ExecutionKind
  | .executeLocalReconciliation => .localRun
  | .attestExternalDeletion => .externalAttestation

def ProcedureAuthority.current (procedure : ProcedureAuthority) (now : Seconds) : Prop :=
  procedure.status = .approved ∧ procedure.revokedAt = none ∧ procedure.approvedAt ≤ now ∧
    ∀ expiresAt ∈ procedure.expiresAt, now < expiresAt

instance (procedure : ProcedureAuthority) (now : Seconds) : Decidable (procedure.current now) :=
  inferInstanceAs (Decidable (_ ∧ _))

def insertExternalAttestation (store : Store) (consumed : ConsumedChallenge) (procedureAuthorityId attestationId : String)
    (attestedAt : Seconds) : Except ReconciliationError Store := do
  let invalid := ReconciliationError.challengeRejected "EXTERNAL_TARGET_BINDING_INVALID"
  require (consumed.executionKind = .externalAttestation) invalid
  let targetId ← orError invalid consumed.targetId
  let notCurrent := ReconciliationError.challengeRejected "PROCEDURE_AUTHORITY_NOT_CURRENT"
  let procedure ← orError notCurrent (store.procedures.find? fun row => row.id = procedureAuthorityId)
  require (procedure.current attestedAt) notCurrent
  let row ← orError invalid (store.taskTargets.find? fun row => row.participantId = consumed.participantId ∧
    row.withdrawalReceiptId = consumed.withdrawalReceiptId ∧ row.targetId = targetId)
  require (row.targetKind = .externalCopy ∧ row.rootScope = .externalAttestation ∧
    (row.state = .pendingConfirmation ∨ row.state = .recoveryRequired)) invalid
  let attestations ← insert Attestation.Clash (.store .integrityError) store.attestations
    { id := attestationId, executionId := consumed.executionId, participantId := consumed.participantId
      withdrawalReceiptId := consumed.withdrawalReceiptId, planSha256 := consumed.planSha256
      withdrawalTaskId := row.withdrawalTaskId, targetId, challengeId := consumed.challengeId, procedureAuthorityId
      reviewerSessionDigest := consumed.reviewerSessionDigest }
  let taskTargets := update (fun other : TaskTarget => other.withdrawalTaskId = row.withdrawalTaskId ∧ other.targetId = targetId)
    (fun other => { other with state := .externalDeletionAttested, stateVersion := other.stateVersion + 1
                               blockerCode := none }) store.taskTargets
  return { store with attestations, taskTargets }

/-- The writes of the last branch of `_consume`. -/
def consumeAccepted (store : Store) (request : ConsumeRequest) (digest : String) (challenge : Challenge) (now : Seconds) :
    Except ReconciliationError (Store × ConsumedChallenge) := do
  let executionKind := challenge.action.executionKind
  let executions ← insert Execution.Clash (.store .integrityError) store.executions
    { id := request.executionId, challengeId := challenge.id, executionKind }
  let challenges := setStatus (fun row => row.id = challenge.id ∧ row.status = .issued) .consumed store.challenges
  let stepUps := update (fun row : StepUp => row.id = challenge.stepUpAuthenticationId)
    (fun row => { row with consumedAt := some now }) store.stepUps
  let consumed : ConsumedChallenge :=
    { challengeId := challenge.id, executionId := request.executionId, executionKind
      participantId := challenge.participantId, withdrawalReceiptId := challenge.withdrawalReceiptId
      planSha256 := challenge.planSha256, targetId := challenge.targetId, reviewerSessionDigest := digest }
  let store := { store with executions, challenges, stepUps }
  match request.procedureAuthorityId with
  | none => return (store, consumed)
  | some procedureAuthorityId =>
    let store ← insertExternalAttestation store consumed procedureAuthorityId request.attestationId now
    return (store, consumed)

def Desk.dropDeadline (desk : Desk) (challengeId : String) : Desk :=
  { desk with deadlines := desk.deadlines.filter fun deadline => deadline.1 ≠ challengeId }

/-- The transaction of `_consume`: a rejection commits, an exception rolls back. -/
def consumeTransaction (rt : Runtime) (desk : Desk) (request : ConsumeRequest) (plan : ReconciliationPlan)
    (digest : String) (isCurrent : Bool) : Desk × Except ReconciliationError ConsumedChallenge :=
  match desk.store.challenges.find? fun row => row.tokenDigest = rt.sha256Text request.challengeToken with
  | none => (desk, .error (.challengeRejected "CHALLENGE_INVALID"))
  | some challenge =>
    match verdict rt desk request plan digest isCurrent challenge with
    | .refuse code => (desk, .error (.challengeRejected code))
    | .close status code =>
      let challenges := setStatus (fun row => row.id = challenge.id) status desk.store.challenges
      ({ desk with store := { desk.store with challenges } }.dropDeadline challenge.id, .error (.challengeRejected code))
    | .unauthorized => (desk, .error (.procedureAuthorityNotIssued "AUTHORITY_NOT_ISSUED"))
    | .accept now =>
      match consumeAccepted desk.store request digest challenge now with
      | .error e => (desk, .error e)
      | .ok (store, consumed) => ({ desk with store }.dropDeadline challenge.id, .ok consumed)

def consume (rt : Runtime) (desk : Desk) (request : ConsumeRequest) :
    Desk × Except ReconciliationError ConsumedChallenge :=
  match sessionDigest request.reviewerDigest with
  | .error e => (desk, .error e)
  | .ok digest =>
    match planForSession rt desk.store request.sessionId with
    | .error e => (desk, .error e)
    | .ok plan =>
      let (desk, isCurrent) := readReviewer desk digest request.reviewerAlive
      consumeTransaction rt desk request plan digest isCurrent

/-! ## Procedures and the start of the service -/

/-- `import_procedure_authority`; `permits` is the answer of the governance authority. -/
def importProcedureAuthority (store : Store) (authorityId authorityReference sourceDocumentSha256 : String)
    (permits : Bool) (now : Seconds) : Except ReconciliationError Store := do
  require (permits = true) (.procedureAuthorityNotIssued "AUTHORITY_NOT_ISSUED")
  (opaqueId authorityId "procedure authority id").mapError .store
  require (1 ≤ authorityReference.length ∧ authorityReference.length ≤ 128 ∧
      authorityReference.toList.all fun ch => ch.isAlphanum || "._-".toList.contains ch)
    (.procedureAuthorityNotIssued "PROCEDURE_REFERENCE_INVALID")
  require (sourceDocumentSha256.length = 64 ∧
      sourceDocumentSha256.toList.all fun ch => "0123456789abcdef".toList.contains ch)
    (.procedureAuthorityNotIssued "PROCEDURE_SOURCE_DIGEST_INVALID")
  let procedures ← insert ProcedureAuthority.Clash (.store .integrityError) store.procedures
    { id := authorityId, authorityReference, sourceDocumentSha256, status := .approved, approvedAt := now
      expiresAt := none, revokedAt := none }
  return { store with procedures }

/-- What `ConfirmationService.__init__` writes. -/
def expireIssued (store : Store) : Store :=
  { store with challenges := setStatus (fun challenge => challenge.status = .issued) .expired store.challenges }

end PduExamObserver.M1R1
