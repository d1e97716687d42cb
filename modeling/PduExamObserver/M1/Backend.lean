import Mathlib.Data.List.Sort
import PduExamObserver.Domain.State
import PduExamObserver.Library.Lineage
import PduExamObserver.M1.Schema
import PduExamObserver.Services.EventLog

/-! # `M1Backend` over the operational ledger

Each operation is a function from the tables to the tables and its result, or the error that rolled
its transaction back. The `async` handlers call an operation without suspending, so a check made
before the transaction sees the same tables. Publishing to live streams, pairing codes and the
files of write intents are outside the tables and are not part of this model. -/

namespace PduExamObserver
set_option autoImplicit false

/-! ## `json.dumps(payload, sort_keys=True)` -/

mutual

def Json.sortKeys : Json → Json
  | .arr items => .arr (Json.sortItems items)
  | .obj fields => .obj ((Json.sortFields fields).insertionSort fun a b => a.1 ≤ b.1)
  | .null => .null
  | .bool b => .bool b
  | .int n => .int n
  | .float q => .float q
  | .str s => .str s

def Json.sortItems : List Json → List Json
  | [] => []
  | item :: rest => item.sortKeys :: Json.sortItems rest

def Json.sortFields : List (String × Json) → List (String × Json)
  | [] => []
  | (name, value) :: rest => (name, value.sortKeys) :: Json.sortFields rest

end

namespace M1
open Table

/-- What the backend takes from the standard library and its configuration. `tokenUrlsafe i n` is the
`i`th draw of `token_urlsafe`, of `n` bytes; draws do not repeat. `sha256` is the hexadecimal digest
of a JSON value's text. Dates are proleptic ordinals; `fromTimestamp` reads the local time zone. -/
structure Runtime where
  tokenUrlsafe : Nat → Nat → String
  token_inj : ∀ {i j n m : Nat}, tokenUrlsafe i n = tokenUrlsafe j m → i = j
  sha256 : Json → String
  fromIsoformat : String → Option Int
  fromTimestamp : Seconds → Int
  durationSeconds : Int := 2700

/-- The readings of `self.clock()` during one call, in order. -/
abbrev Clock := Nat → Seconds

/-- One draw of `token_urlsafe(n)`. -/
def Database.token (rt : Runtime) (db : Database) (n : Nat) : Database × String :=
  ({ db with tokensDrawn := db.tokensDrawn + 1 }, rt.tokenUrlsafe db.tokensDrawn n)

/-- Python's `value or fallback` on optional strings. -/
def orElse (value : Option String) (fallback : String) : String :=
  match value with
  | none => fallback
  | some value => if value = "" then fallback else value

namespace M1Backend

def key (key : Option String) (fallback : String) : Except M1Error String :=
  let value := orElse key fallback
  if (1 ≤ value.length ∧ value.length ≤ 128) ∧ ¬ value.toList.any (fun ch => "\\/:".toList.contains ch)
  then .ok value
  else .error (.invalidTransition "Invalid idempotency key")

/-- `_event`: the next event of a session, and the dictionary to publish. -/
def event (db : Database) (sessionId eventType : String) (payload : Dict) :
    Except M1Error (Database × Dict) := do
  let row ← orError (.keyError sessionId) (db.session? sessionId)
  let sequence := row.eventSeq + 1
  let sessions := update (fun s => s.id = sessionId) (fun s => { s with eventSeq := sequence }) db.sessions
  let sessionEvents ← insert SessionEvent.Clash .integrityError db.sessionEvents
    { sessionId, eventSeq := sequence, eventType, payload }
  return ({ db with sessions, sessionEvents },
    Dict.update [("event_seq", .int sequence), ("type", .str eventType)] payload)

def requestHash (rt : Runtime) (payload : Dict) : String := rt.sha256 (Json.obj payload).sortKeys

def mutate (rt : Runtime) (db : Database) (scope key : String) (payload : Dict)
    (operation : Database → Except M1Error (Database × Dict)) : Except M1Error (Database × Dict) :=
  let digest := requestHash rt payload
  match db.idempotencyRecord? scope key with
  | some row =>
    if row.requestHash ≠ digest then
      .error (.idempotencyConflict "Idempotency key was reused with a different request payload")
    else .ok (db, row.response)
  | none => do
    let (db, response) ← operation db
    let idempotencyRecords ← insert IdempotencyRecord.Clash .integrityError db.idempotencyRecords
      { scope, idempotencyKey := key, requestHash := digest, response }
    return ({ db with idempotencyRecords }, response)

/-! ## Checks -/

def requireMutableResearch (db : Database) (sessionId : String) : Except M1Error Unit := do
  let session ← orError (.keyError sessionId) ((db.session? sessionId).filter (·.sessionKind = .research))
  let participant ← orError (.keyError sessionId) (db.participantOf? session)
  require (participant.withdrawnAt = none ∧ session.state ≠ .withdrawn ∧ session.collectionBlocked = false)
    (.invalidTransition "Withdrawn or blocked research records cannot be mutated")

/-- The row that `require_valid_parents` looks at for one parent is there and clear. -/
def validParent (db : Database) (parent : String) : Bool :=
  match db.artifact? parent with
  | none => false
  | some artifact =>
    match db.session? artifact.sessionId with
    | none => false
    | some session =>
      artifact.status = .valid ∧ session.state ≠ .withdrawn ∧
        (db.participantOf? session).bind Participant.withdrawnAt = none

def requireValidParents (db : Database) (parents : List String) : Except M1Error Unit :=
  require (∀ parent ∈ parents, validParent db parent)
    (.invalidTransition "Artifact parent is missing, invalidated, or belongs to a withdrawn record")

/-! ## Demo sessions -/

/-- `create_session`: the session's id and its pairing code. -/
def createSession (rt : Runtime) (db : Database) : Except M1Error (Database × String × String) := do
  let (db, sessionId) := db.token rt 18
  let (db, pairing) := db.token rt 12
  let sessions ← insert Session.Clash .integrityError db.sessions
    { id := sessionId, sessionKind := .demo, state := .draft, durationSeconds := rt.durationSeconds }
  return ({ db with sessions }, sessionId, pairing)

def appendEvent (db : Database) (sessionId eventType : String) (payload : Dict) :
    Except M1Error (Database × Dict) :=
  event db sessionId eventType payload

/-- The compare-and-set of `apply_session_action`, with its event; nothing when the state stays. -/
def moveSession (db : Database) (row : Session) (nextState : SessionState) (startedAt : Option Seconds) :
    Except M1Error Database :=
  if nextState = row.state then .ok db else do
    require ((db.sessions.filter fun s => s.id = row.id ∧ s.state = row.state).length = 1)
      (.schemaIntegrity "session lifecycle compare-and-set failed")
    let sessions := update (fun s => s.id = row.id ∧ s.state = row.state)
      (fun s => { s with state := nextState, startedAt }) db.sessions
    let (db, _) ← event { db with sessions } row.id "SessionStateChanged" [("state", .str nextState.value)]
    return db

/-- `apply_session_action`; an unknown session is no error. -/
def applySessionAction (clock : Clock) (db : Database) (sessionId action : String) :
    Except M1Error (Database × Option Services.SessionSnapshot) :=
  match db.session? sessionId with
  | none => .ok (db, none)
  | some row => do
    require (row.sessionKind ≠ .research)
      (.invalidTransition "Research sessions cannot enter the M0 lifecycle in M1")
    let nextState ← (Domain.transition row.state action).mapError fun e => .invalidTransition e.message
    let startedAt := if action = "start" ∧ nextState ≠ row.state then some (clock 0) else row.startedAt
    let db ← moveSession db row nextState startedAt
    let persisted ← orError .integrityError (db.session? sessionId)
    let record : Services.SessionRecord :=
      { sessionId, state := nextState, eventSeq := persisted.eventSeq, submitted := persisted.submitted
        durationSeconds := row.durationSeconds, startedAt }
    return (db, some (record.snapshot (clock 1)))

/-- The body of the answer request, with the keys of `payload`. -/
structure AnswerRequest where
  answerId : String
  questionId : String
  value : Json

def AnswerRequest.payload (request : AnswerRequest) : Dict :=
  [("answer_id", .str request.answerId), ("question_id", .str request.questionId),
    ("value", request.value)]

def recordAnswerOperation (rt : Runtime) (sessionId : String) (request : AnswerRequest) (db : Database) :
    Except M1Error (Database × Dict) := do
  let row ← orError (.keyError sessionId) (db.session? sessionId)
  require (row.state = .recording ∧ row.submitted = false)
    (.invalidTransition "Answers are accepted only while the session is recording")
  let (db, token) := db.token rt 12
  let answerVersions ← insert AnswerVersion.Clash .integrityError db.answerVersions
    { id := token, sessionId, answerId := request.answerId, questionId := request.questionId
      value := request.value }
  let (db, _) ← event { db with answerVersions } sessionId "AnswerRecorded"
    [("answer_id", .str request.answerId)]
  return (db, [("schema_version", .int 1), ("accepted", .bool true)])

def recordAnswer (rt : Runtime) (db : Database) (sessionId idempotencyKey : String)
    (request : AnswerRequest) : Except M1Error (Database × Dict) := do
  let key ← key (some idempotencyKey) request.answerId
  mutate rt db s!"answer:{sessionId}" key request.payload (recordAnswerOperation rt sessionId request)

def submitExamOperation (rt : Runtime) (sessionId : String) (db : Database) :
    Except M1Error (Database × Dict) := do
  let row ← orError (.keyError sessionId) (db.session? sessionId)
  require (row.state = .recording)
    (.invalidTransition "Exam can be submitted only while the session is recording")
  require (row.submitted = false)
    (.idempotencyConflict "Exam was already submitted with a different idempotency key")
  let sessions := update (fun s => s.id = sessionId) (fun s => { s with submitted := true }) db.sessions
  let (db, token) := { db with sessions }.token rt 12
  let examAttempts ← insert ExamAttempt.Clash .integrityError db.examAttempts
    { id := token, sessionId, submitted := true }
  let (db, _) ← event { db with examAttempts } sessionId "ExamSubmitted" []
  return (db, [("schema_version", .int 1), ("submitted", .bool true)])

def submitExam (rt : Runtime) (db : Database) (sessionId idempotencyKey : String) :
    Except M1Error (Database × Dict) := do
  let key ← key (some idempotencyKey) "submit"
  mutate rt db s!"submit:{sessionId}" key [("submit", .bool true)] (submitExamOperation rt sessionId)

/-! ## Studies, participants and research sessions -/

def createStudyOperation (rt : Runtime) (studyCode : String) (db : Database) :
    Except M1Error (Database × Dict) := do
  let (db, token) := db.token rt 9
  let studyId := s!"study-{token}"
  let studies ← insert Study.Clash .integrityError db.studies { id := studyId, studyCode }
  return ({ db with studies },
    [("schema_version", .int 1), ("study_id", .str studyId), ("status", .str "APPROVAL_PENDING")])

def createStudy (rt : Runtime) (db : Database) (studyCode : String) (idempotencyKey : Option String) :
    Except M1Error (Database × Dict) := do
  let key ← key idempotencyKey s!"study-{studyCode}"
  mutate rt db "research-study" key [("study_code", .str studyCode)] (createStudyOperation rt studyCode)

def createParticipantOperation (rt : Runtime) (studyId : String) (db : Database) :
    Except M1Error (Database × Dict) := do
  let _ ← orError (.keyError studyId) (db.study? studyId)
  let (db, token) := db.token rt 9
  let participantId := s!"participant-{token}"
  let (db, token) := db.token rt 8
  let pseudonym := s!"p-{token}"
  let participants ← insert Participant.Clash .integrityError db.participants
    { id := participantId, studyId, pseudonym }
  return ({ db with participants },
    [("schema_version", .int 1), ("participant_id", .str participantId),
      ("participant_pseudonym", .str pseudonym)])

def createParticipant (rt : Runtime) (db : Database) (studyId : String)
    (idempotencyKey : Option String) : Except M1Error (Database × Dict) := do
  let key ← key idempotencyKey s!"participant-{studyId}"
  mutate rt db "research-participant" key [("study_id", .str studyId)]
    (createParticipantOperation rt studyId)

/-- The arguments of `create_research_session`. -/
structure SessionRequest where
  studyId : String
  participantId : String
  retentionPolicyReference : Option String := none
  retentionEndDate : Option String := none

def jsonOrNull : Option String → Json
  | none => .null
  | some s => .str s

def SessionRequest.payload (request : SessionRequest) : Dict :=
  [("study_id", .str request.studyId), ("participant_id", .str request.participantId),
    ("retention_policy_reference", jsonOrNull request.retentionPolicyReference),
    ("retention_end_date", jsonOrNull request.retentionEndDate)]

def checkRetention (rt : Runtime) (clock : Clock) (request : SessionRequest) : Except M1Error Unit := do
  require (¬ (request.retentionPolicyReference.isSome ∧ request.retentionEndDate.isSome))
    (.invalidTransition "Only one retention value may be supplied")
  match request.retentionEndDate with
  | none => return ()
  | some retentionEndDate =>
    let parsed ← orError (.invalidTransition "Retention end date must be a valid ISO date")
      (rt.fromIsoformat retentionEndDate)
    require (¬ parsed < rt.fromTimestamp (clock 0))
      (.invalidTransition "Retention end date may not be in the past")

def createResearchSessionOperation (rt : Runtime) (request : SessionRequest) (db : Database) :
    Except M1Error (Database × Dict) := do
  let participant ← orError (.keyError request.participantId)
    ((db.participant? request.participantId).filter (·.studyId = request.studyId))
  require (participant.withdrawnAt = none)
    (.invalidTransition "Withdrawn participant cannot receive a session")
  let (db, token) := db.token rt 12
  let sessionId := s!"research-{token}"
  let sessions ← insert Session.Clash .integrityError db.sessions
    { id := sessionId, studyId := some request.studyId, participantId := some request.participantId
      sessionKind := .research, state := .draft, durationSeconds := rt.durationSeconds }
  let decision := orElse request.retentionPolicyReference (orElse request.retentionEndDate "PENDING")
  let (db, token) := { db with sessions }.token rt 8
  let retentionRecords ← insert RetentionRecord.Clash .integrityError db.retentionRecords
    { id := s!"retention-{token}", sessionId, decision }
  return ({ db with retentionRecords },
    [("schema_version", .int 1), ("session_id", .str sessionId),
      ("session_kind", .str SessionKind.research.value), ("state", .str SessionState.draft.value),
      ("participant_pseudonym", .str participant.pseudonym)])

def createResearchSession (rt : Runtime) (clock : Clock) (db : Database) (request : SessionRequest)
    (idempotencyKey : Option String) : Except M1Error (Database × Dict) := do
  checkRetention rt clock request
  let key ← key idempotencyKey s!"session-{request.participantId}"
  mutate rt db "research-session" key request.payload (createResearchSessionOperation rt request)

def confirmOperatorConsentOperation (sessionId receiptId version : String) (db : Database) :
    Except M1Error (Database × Dict) := do
  requireMutableResearch db sessionId
  let consentReceipts := insertOrReplace ConsentReceipt.Clash db.consentReceipts
    { id := receiptId, sessionId, consentVersion := version }
  let sessions := update (fun s => s.id = sessionId ∧ s.state = .draft)
    (fun s => { s with state := .consentConfirmed }) db.sessions
  let (db, _) ← event { db with consentReceipts, sessions } sessionId "OperatorConsentConfirmed"
    [("consent_version", .str version)]
  return (db, [("schema_version", .int 1), ("session_id", .str sessionId),
    ("consent_confirmed", .bool true)])

def confirmOperatorConsent (rt : Runtime) (db : Database) (sessionId receiptId version : String)
    (idempotencyKey : Option String) : Except M1Error (Database × Dict) := do
  requireMutableResearch db sessionId
  let key ← key idempotencyKey s!"consent-{sessionId}"
  mutate rt db s!"research-consent:{sessionId}" key
    [("receipt_id", .str receiptId), ("version", .str version)]
    (confirmOperatorConsentOperation sessionId receiptId version)

/-- What `research_session` returns, without the schema version. -/
structure ResearchSession where
  sessionId : String
  sessionKind : SessionKind
  state : SessionState
  participantPseudonym : String
  collectionBlocked : Bool
  participantWithdrawn : Bool

def researchSession (db : Database) (sessionId : String) : Except M1Error ResearchSession := do
  let session ← orError (.keyError sessionId) (db.session? sessionId)
  let participant ← orError (.keyError sessionId) (db.participantOf? session)
  return {
    sessionId := session.id
    sessionKind := session.sessionKind
    state := session.state
    participantPseudonym := participant.pseudonym
    collectionBlocked := session.collectionBlocked
    participantWithdrawn := participant.withdrawnAt.isSome }

/-! ## Artifacts -/

/-- `register_artifact`; the mutability check is made before and again inside the transaction. -/
def registerArtifact (db : Database) (artifactId sessionId : String) (parents : List String) :
    Except M1Error Database := do
  requireMutableResearch db sessionId
  requireValidParents db parents
  let artifactRegistry ← insert Artifact.Clash .integrityError db.artifactRegistry
    { id := artifactId, sessionId, status := .valid }
  let artifactDependencies ← parents.foldlM
    (fun dependencies parent => insert ArtifactDependency.Clash .integrityError dependencies (parent, artifactId))
    db.artifactDependencies
  return { db with artifactRegistry, artifactDependencies }

def addDependency (db : Database) (parent child : String) : Except M1Error Database := do
  requireValidParents db [parent]
  let _ ← orError (.invalidTransition "Artifact dependency child is missing") (db.artifact? child)
  let artifactDependencies ← insert ArtifactDependency.Clash .integrityError db.artifactDependencies
    (parent, child)
  return { db with artifactDependencies }

/-! ## Withdrawal -/

/-- The recursive query of `withdraw`: the artifacts of the participant's sessions and everything that
depends on them. -/
def withdrawalLineage (db : Database) (participantId : String) : List String :=
  lineage db.artifactDependencies
    ((db.artifactRegistry.filter fun a => a.sessionId ∈ db.sessionIdsOf participantId).map Artifact.id)

def invalidateArtifact (rt : Runtime) (sessionId : String) (db : Database) (artifactId : String) :
    Database :=
  let artifactRegistry := update (fun a => a.id = artifactId)
    (fun a => { a with status := .invalidated }) db.artifactRegistry
  let (db, token) := db.token rt 8
  { db with
    artifactRegistry
    withdrawalTasks := insertOrIgnore WithdrawalTask.Clash db.withdrawalTasks
      { id := s!"withdrawal-{token}", withdrawalSubjectSessionId := sessionId, artifactId
        status := .pending } }

/-- The two updates that close the participant's records; `COALESCE` keeps an earlier time. -/
def markWithdrawn (clock : Clock) (participantId : String) (db : Database) : Database :=
  { db with
    participants := update (fun p => p.id = participantId)
      (fun p => { p with withdrawnAt := some (p.withdrawnAt.getD (clock 0)) }) db.participants
    sessions := update (fun s => s.participantId = some participantId)
      (fun s => { s with
        state := .withdrawn
        collectionBlocked := true
        withdrawnAt := some (s.withdrawnAt.getD (clock 1)) }) db.sessions }

/-- `SELECT COUNT(*) FROM withdrawal_tasks` over the participant's sessions. -/
def taskCount (db : Database) (participantId : String) : Nat :=
  (db.withdrawalTasks.filter fun t =>
    t.withdrawalSubjectSessionId ∈ db.sessionIdsOf participantId).length

def withdrawalResponse (receiptId pseudonym : String) (count : Nat) : Dict :=
  [("schema_version", .int 1), ("withdrawal_receipt_id", .str receiptId),
    ("participant_pseudonym", .str pseudonym), ("terminal", .bool true), ("task_count", .int count)]

theorem withdrawalResponse_taskCount (receiptId pseudonym : String) (count : Nat) :
    Dict.get (withdrawalResponse receiptId pseudonym count) "task_count" = some (.int count) := by
  simp [withdrawalResponse, Dict.get]

def withdrawOperation (rt : Runtime) (clock : Clock) (sessionId participantId pseudonym : String)
    (db : Database) : Except M1Error (Database × Dict) := do
  let current ← orError (.keyError sessionId) ((db.session? sessionId).filter (·.sessionKind = .research))
  require (current.participantId = some participantId) (.keyError sessionId)
  match db.withdrawalReceipt? participantId with
  | some receipt => return (db, receipt.response)
  | none =>
    let db := markWithdrawn clock participantId db
    let artifacts := withdrawalLineage db participantId
    -- the foreign key of `withdrawal_tasks.artifact_id`
    require (∀ artifactId ∈ artifacts, (db.artifact? artifactId).isSome) .integrityError
    let db := artifacts.foldl (invalidateArtifact rt sessionId) db
    let (db, _) ← event db sessionId "WithdrawalRequested" []
    let count := taskCount db participantId
    let (db, token) := db.token rt 8
    let auditEvents ← insert AuditEvent.Clash .integrityError db.auditEvents
      { id := s!"audit-{token}", eventType := "ParticipantWithdrawn", sessionId := some sessionId
        payload := [] }
    let (db, token) := { db with auditEvents }.token rt 8
    let receiptId := s!"withdrawal-receipt-{token}"
    let response := withdrawalResponse receiptId pseudonym count
    let withdrawalReceipts ← insert WithdrawalReceipt.Clash .integrityError db.withdrawalReceipts
      { id := receiptId, participantId, subjectSessionId := sessionId, response }
    return ({ db with withdrawalReceipts }, response)

def withdraw (rt : Runtime) (clock : Clock) (db : Database) (sessionId : String)
    (idempotencyKey : Option String) : Except M1Error (Database × Dict) := do
  let record ← researchSession db sessionId
  let session ← orError (.keyError sessionId) ((db.session? sessionId).filter (·.sessionKind = .research))
  let participantId ← orError (.keyError sessionId) session.participantId
  let key ← key idempotencyKey s!"withdraw-{participantId}"
  mutate rt db s!"research-withdraw:{participantId}" key
    [("participant_id", .str participantId), ("participant_pseudonym", .str record.participantPseudonym)]
    (withdrawOperation rt clock sessionId participantId record.participantPseudonym)

/-! ## Write intents, opening the store, and the reviewer audit -/

/-- `create_write_intent`; `partialFile` is what `_partial_file` made of the path. -/
def createWriteIntent (rt : Runtime) (db : Database) (sessionId : String)
    (partialFile : Except M1Error String) : Except M1Error Database := do
  requireMutableResearch db sessionId
  let manifestRelativePath ← partialFile
  let (db, token) := db.token rt 8
  let writeIntents ← insert WriteIntent.Clash .integrityError db.writeIntents
    { id := s!"intent-{token}", sessionId, manifestRelativePath, status := .pending }
  return { db with writeIntents }

/-- The transaction that `_recover_pending_intents` runs for one row. An exception or a crash between
two rows leaves the rows before it recovered. -/
def recoverIntent (db : Database) (row : WriteIntent) : Except M1Error Database := do
  let writeIntents := update (fun i => i.id = row.id) (fun i => { i with status := .quarantined })
    db.writeIntents
  let session ← orError (.schemaIntegrity "pending write intent session is missing")
    (db.session? row.sessionId)
  let recoveredState : SessionState :=
    if session.state = .withdrawn ∨ ((db.participantOf? session).bind Participant.withdrawnAt).isSome
    then .withdrawn
    else .failed
  let sessions := update (fun s => s.id = row.sessionId)
    (fun s => { s with state := recoveredState, collectionBlocked := true }) db.sessions
  return { db with writeIntents, sessions }

/-- The row that `__init__` writes. -/
def openStore (db : Database) (encryptionStatus aclStatus : String) : Database :=
  { db with
    storageRoots := insertOrReplace StorageRoot.Clash db.storageRoots
      { id := "active", encryptionStatus, aclStatus } }

def recordReviewerAudit (rt : Runtime) (db : Database) (eventKind : String) :
    Except M1Error Database := do
  let (db, token) := db.token rt 8
  let auditEvents ← insert AuditEvent.Clash .integrityError db.auditEvents
    { id := s!"reviewer-audit-{token}", eventType := eventKind, sessionId := none, payload := [] }
  return { db with auditEvents }

end M1Backend

end M1

end PduExamObserver
