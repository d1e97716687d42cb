import PduExamObserver.WireContracts
import PduExamObserver.Library.Table

/-! # The operational ledger, version 1

The tables of `m1.py`, each with its primary key and `UNIQUE` constraints as a relation `Clash`, and
the errors that a transaction can end in. The `created_at`, `confirmed_at` and `recorded_at` columns
are written and never read, and are left out. -/

namespace PduExamObserver.M1
open Table
set_option autoImplicit false

inductive M1Error where
  | keyError (key : String)
  | invalidTransition (message : String)
  | idempotencyConflict (message : String)
  | schemaIntegrity (message : String)
  /-- `sqlite3.IntegrityError`: a primary key, `UNIQUE` or foreign key constraint failed -/
  | integrityError
  deriving DecidableEq, Repr

structure StorageRoot where
  id : String
  encryptionStatus : String
  aclStatus : String

inductive StudyStatus where
  | approvalPending
  deriving DecidableEq, Repr

structure Study where
  id : String
  studyCode : String
  status : StudyStatus := .approvalPending

structure Participant where
  id : String
  studyId : String
  pseudonym : String
  withdrawnAt : Option Seconds := none

structure Session where
  id : String
  studyId : Option String := none
  participantId : Option String := none
  sessionKind : SessionKind
  state : SessionState
  eventSeq : Nat := 0
  submitted : Bool := false
  durationSeconds : Int
  startedAt : Option Seconds := none
  collectionBlocked : Bool := false
  withdrawnAt : Option Seconds := none

structure ConsentReceipt where
  id : String
  sessionId : String
  consentVersion : String

structure RetentionRecord where
  id : String
  sessionId : String
  decision : String

structure ExamAttempt where
  id : String
  sessionId : String
  submitted : Bool

structure AnswerVersion where
  id : String
  sessionId : String
  answerId : String
  questionId : String
  value : Json

structure SessionEvent where
  sessionId : String
  eventSeq : Nat
  eventType : String
  payload : Dict

/-- `response` is the dictionary that `response_json` encodes. -/
structure IdempotencyRecord where
  scope : String
  idempotencyKey : String
  requestHash : String
  response : Dict

structure Artifact where
  id : String
  sessionId : String
  status : ArtifactStatus

/-- A row of `artifact_dependencies`: the parent's and the child's artifact id. -/
abbrev ArtifactDependency := String × String

structure WithdrawalReceipt where
  id : String
  participantId : String
  subjectSessionId : String
  response : Dict

inductive WithdrawalTaskStatus where
  | pending
  | completed
  deriving DecidableEq, Repr

structure WithdrawalTask where
  id : String
  withdrawalSubjectSessionId : String
  artifactId : String
  status : WithdrawalTaskStatus

inductive WriteIntentStatus where
  | pending
  | quarantined
  deriving DecidableEq, Repr

structure WriteIntent where
  id : String
  sessionId : String
  manifestRelativePath : String
  status : WriteIntentStatus

structure AuditEvent where
  id : String
  eventType : String
  sessionId : Option String
  payload : Dict

/-! ## Uniqueness constraints -/

abbrev StorageRoot.Clash (a b : StorageRoot) : Prop := a.id = b.id

abbrev Study.Clash (a b : Study) : Prop := a.id = b.id ∨ a.studyCode = b.studyCode

abbrev Participant.Clash (a b : Participant) : Prop := a.id = b.id ∨ a.pseudonym = b.pseudonym

abbrev Session.Clash (a b : Session) : Prop := a.id = b.id

abbrev ConsentReceipt.Clash (a b : ConsentReceipt) : Prop := a.id = b.id ∨ a.sessionId = b.sessionId

abbrev RetentionRecord.Clash (a b : RetentionRecord) : Prop := a.id = b.id ∨ a.sessionId = b.sessionId

abbrev ExamAttempt.Clash (a b : ExamAttempt) : Prop := a.id = b.id

abbrev AnswerVersion.Clash (a b : AnswerVersion) : Prop := a.id = b.id

abbrev SessionEvent.Clash (a b : SessionEvent) : Prop :=
  a.sessionId = b.sessionId ∧ a.eventSeq = b.eventSeq

abbrev IdempotencyRecord.Clash (a b : IdempotencyRecord) : Prop :=
  a.scope = b.scope ∧ a.idempotencyKey = b.idempotencyKey

abbrev Artifact.Clash (a b : Artifact) : Prop := a.id = b.id

abbrev ArtifactDependency.Clash (a b : ArtifactDependency) : Prop := a = b

abbrev WithdrawalReceipt.Clash (a b : WithdrawalReceipt) : Prop :=
  a.id = b.id ∨ a.participantId = b.participantId

abbrev WithdrawalTask.Clash (a b : WithdrawalTask) : Prop :=
  a.id = b.id ∨
    a.withdrawalSubjectSessionId = b.withdrawalSubjectSessionId ∧ a.artifactId = b.artifactId

abbrev WriteIntent.Clash (a b : WriteIntent) : Prop := a.id = b.id

abbrev AuditEvent.Clash (a b : AuditEvent) : Prop := a.id = b.id

/-! ## The database -/

structure Database where
  storageRoots : List StorageRoot := []
  studies : List Study := []
  participants : List Participant := []
  sessions : List Session := []
  consentReceipts : List ConsentReceipt := []
  retentionRecords : List RetentionRecord := []
  examAttempts : List ExamAttempt := []
  answerVersions : List AnswerVersion := []
  sessionEvents : List SessionEvent := []
  idempotencyRecords : List IdempotencyRecord := []
  artifactRegistry : List Artifact := []
  artifactDependencies : List ArtifactDependency := []
  withdrawalReceipts : List WithdrawalReceipt := []
  withdrawalTasks : List WithdrawalTask := []
  writeIntents : List WriteIntent := []
  auditEvents : List AuditEvent := []
  tokensDrawn : Nat := 0

namespace Database

def study? (db : Database) (studyId : String) : Option Study :=
  db.studies.find? fun study => study.id = studyId

def participant? (db : Database) (participantId : String) : Option Participant :=
  db.participants.find? fun participant => participant.id = participantId

def session? (db : Database) (sessionId : String) : Option Session :=
  db.sessions.find? fun session => session.id = sessionId

def artifact? (db : Database) (artifactId : String) : Option Artifact :=
  db.artifactRegistry.find? fun artifact => artifact.id = artifactId

/-- `LEFT JOIN participants p ON p.id = s.participant_id`. -/
def participantOf? (db : Database) (session : Session) : Option Participant :=
  session.participantId.bind db.participant?

def idempotencyRecord? (db : Database) (scope key : String) : Option IdempotencyRecord :=
  db.idempotencyRecords.find? fun record => record.scope = scope ∧ record.idempotencyKey = key

def withdrawalReceipt? (db : Database) (participantId : String) : Option WithdrawalReceipt :=
  db.withdrawalReceipts.find? fun receipt => receipt.participantId = participantId

/-- `SELECT id FROM sessions WHERE participant_id = ?`. -/
def sessionIdsOf (db : Database) (participantId : String) : List String :=
  (db.sessions.filter fun session => session.participantId = some participantId).map Session.id

end Database

end PduExamObserver.M1
