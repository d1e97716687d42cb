import PduExamObserver.Library.Transition
import PduExamObserver.M1.Backend

/-! # What an operation can do to the ledger

Every committed operation is one of the changes below, followed by writes that no rule about
participants, sessions, artifacts or receipts depends on. The invariants of the ledger are proved
once for each change. -/

namespace PduExamObserver.M1
open Table Transition M1Backend
set_option autoImplicit false

structure SessionView where
  id : String
  participantId : Option String
  sessionKind : SessionKind
  state : SessionState
  collectionBlocked : Bool

def Session.view (s : Session) : SessionView :=
  ⟨s.id, s.participantId, s.sessionKind, s.state, s.collectionBlocked⟩

structure Quiet (db db' : Database) : Prop where
  participants : db'.participants = db.participants
  sessions : db'.sessions.map Session.view = db.sessions.map Session.view
  consentReceipts : db'.consentReceipts = db.consentReceipts
  artifactRegistry : db'.artifactRegistry = db.artifactRegistry
  artifactDependencies : db'.artifactDependencies = db.artifactDependencies
  withdrawalReceipts : db'.withdrawalReceipts = db.withdrawalReceipts
  withdrawalTasks : db'.withdrawalTasks = db.withdrawalTasks
  writeIntents : db'.writeIntents = db.writeIntents
  idempotencyRecords : db.idempotencyRecords <+: db'.idempotencyRecords
  tokensDrawn : db.tokensDrawn ≤ db'.tokensDrawn

theorem Quiet.refl (db : Database) : Quiet db db :=
  ⟨rfl, rfl, rfl, rfl, rfl, rfl, rfl, rfl, List.prefix_refl _, le_rfl⟩

theorem Quiet.trans {db mid db' : Database} (h : Quiet db mid) (h' : Quiet mid db') : Quiet db db' where
  participants := h'.participants.trans h.participants
  sessions := h'.sessions.trans h.sessions
  consentReceipts := h'.consentReceipts.trans h.consentReceipts
  artifactRegistry := h'.artifactRegistry.trans h.artifactRegistry
  artifactDependencies := h'.artifactDependencies.trans h.artifactDependencies
  withdrawalReceipts := h'.withdrawalReceipts.trans h.withdrawalReceipts
  withdrawalTasks := h'.withdrawalTasks.trans h.withdrawalTasks
  writeIntents := h'.writeIntents.trans h.writeIntents
  idempotencyRecords := h.idempotencyRecords.trans h'.idempotencyRecords
  tokensDrawn := h.tokensDrawn.trans h'.tokensDrawn

def closeParticipant (rt : Runtime) (clock : Clock) (sessionId participantId : String) (db : Database) :
    Database :=
  (withdrawalLineage (markWithdrawn clock participantId db) participantId).foldl
    (invalidateArtifact rt sessionId) (markWithdrawn clock participantId db)

theorem foldl_invalidateArtifact {γ : Type*} (g : Database → γ) {rt : Runtime} {sessionId : String}
    (hg : ∀ db artifactId, g (invalidateArtifact rt sessionId db artifactId) = g db)
    (artifacts : List String) (db : Database) :
    g (artifacts.foldl (invalidateArtifact rt sessionId) db) = g db := by
  induction artifacts generalizing db with
  | nil => rfl
  | cons a artifacts ih => rw [List.foldl_cons, ih, hg]

section Close

variable {rt : Runtime} {clock : Clock} {sessionId participantId : String} {db : Database}

theorem closeParticipant_participants : (closeParticipant rt clock sessionId participantId db).participants =
    (markWithdrawn clock participantId db).participants :=
  foldl_invalidateArtifact Database.participants (fun _ _ => rfl) _ _

theorem closeParticipant_sessions : (closeParticipant rt clock sessionId participantId db).sessions =
    (markWithdrawn clock participantId db).sessions :=
  foldl_invalidateArtifact Database.sessions (fun _ _ => rfl) _ _

theorem closeParticipant_dependencies :
    (closeParticipant rt clock sessionId participantId db).artifactDependencies = db.artifactDependencies :=
  foldl_invalidateArtifact Database.artifactDependencies (fun _ _ => rfl) _ _

theorem closeParticipant_consentReceipts :
    (closeParticipant rt clock sessionId participantId db).consentReceipts = db.consentReceipts :=
  foldl_invalidateArtifact Database.consentReceipts (fun _ _ => rfl) _ _

theorem closeParticipant_writeIntents :
    (closeParticipant rt clock sessionId participantId db).writeIntents = db.writeIntents :=
  foldl_invalidateArtifact Database.writeIntents (fun _ _ => rfl) _ _

theorem closeParticipant_idempotencyRecords :
    (closeParticipant rt clock sessionId participantId db).idempotencyRecords = db.idempotencyRecords :=
  foldl_invalidateArtifact Database.idempotencyRecords (fun _ _ => rfl) _ _

theorem closeParticipant_withdrawalReceipts :
    (closeParticipant rt clock sessionId participantId db).withdrawalReceipts = db.withdrawalReceipts :=
  foldl_invalidateArtifact Database.withdrawalReceipts (fun _ _ => rfl) _ _

theorem foldl_invalidateArtifact_registry (artifacts : List String) (db : Database) :
    (artifacts.foldl (invalidateArtifact rt sessionId) db).artifactRegistry =
      update (fun a => a.id ∈ artifacts) (fun a => { a with status := .invalidated })
        db.artifactRegistry := by
  induction artifacts generalizing db with
  | nil => simp [update]
  | cons artifactId artifacts ih =>
    rw [List.foldl_cons, ih, invalidateArtifact]
    simp only [update, List.map_map]
    apply List.map_congr_left
    intro a _
    by_cases h : a.id = artifactId <;> by_cases h' : a.id ∈ artifacts <;> simp_all

theorem closeParticipant_artifacts :
    (closeParticipant rt clock sessionId participantId db).artifactRegistry =
      update (fun a => a.id ∈ withdrawalLineage (markWithdrawn clock participantId db) participantId)
        (fun a => { a with status := .invalidated }) db.artifactRegistry :=
  foldl_invalidateArtifact_registry _ _

end Close

abbrev ConsentPolicy := Database → String → String → Prop

inductive Change (rt : Runtime) (allowed : ConsentPolicy) (db : Database) : Database → Prop
  | nothing : Change rt allowed db db
  | participant (p : Participant) (hfree : ∀ q ∈ db.participants, ¬ q.Clash p)
      (hopen : p.withdrawnAt = none) :
      Change rt allowed db { db with participants := db.participants ++ [p] }
  | demoSession (s : Session) (hfree : ∀ q ∈ db.sessions, ¬ q.Clash s) (hstate : s.state = .draft)
      (hkind : s.sessionKind = .demo) (howner : s.participantId = none) :
      Change rt allowed db { db with sessions := db.sessions ++ [s] }
  | researchSession (s : Session) (p : Participant) (hfree : ∀ q ∈ db.sessions, ¬ q.Clash s)
      (hstate : s.state = .draft) (hkind : s.sessionKind = .research)
      (howner : s.participantId = some p.id) (hp : p ∈ db.participants) (hopen : p.withdrawnAt = none) :
      Change rt allowed db { db with sessions := db.sessions ++ [s] }
  | lifecycle (row : Session) (hrow : db.session? row.id = some row) (hkind : row.sessionKind ≠ .research)
      (nextState : SessionState) (startedAt : Option Seconds) :
      Change rt allowed db { db with
        sessions := update (fun s => s.id = row.id ∧ s.state = row.state)
          (fun s => { s with state := nextState, startedAt }) db.sessions }
  | consent (sessionId receiptId version : String) (hmutable : requireMutableResearch db sessionId = .ok ())
      (hallowed : allowed db sessionId receiptId) :
      Change rt allowed db { db with
        consentReceipts := insertOrReplace ConsentReceipt.Clash db.consentReceipts
          { id := receiptId, sessionId, consentVersion := version }
        sessions := update (fun s => s.id = sessionId ∧ s.state = .draft)
          (fun s => { s with state := .consentConfirmed }) db.sessions }
  | artifact (artifactId sessionId : String) (parents : List String)
      (hmutable : requireMutableResearch db sessionId = .ok ())
      (hparents : ∀ parent ∈ parents, validParent db parent = true)
      (hfree : ∀ a ∈ db.artifactRegistry, a.id ≠ artifactId) :
      Change rt allowed db { db with
        artifactRegistry := db.artifactRegistry ++ [{ id := artifactId, sessionId, status := .valid }]
        artifactDependencies := db.artifactDependencies ++ parents.map fun parent => (parent, artifactId) }
  | dependency (parent child : String) (hparent : validParent db parent = true)
      (hchild : (db.artifact? child).isSome) :
      Change rt allowed db { db with artifactDependencies := db.artifactDependencies ++ [(parent, child)] }
  | writeIntent (i : WriteIntent) (hmutable : requireMutableResearch db i.sessionId = .ok ()) :
      Change rt allowed db { db with writeIntents := db.writeIntents ++ [i] }
  | recover (row : WriteIntent) (hrow : row ∈ db.writeIntents) (session : Session)
      (hsession : db.session? row.sessionId = some session) (recoveredState : SessionState)
      (hrecovered : recoveredState = if session.state = .withdrawn ∨
        ((db.participantOf? session).bind Participant.withdrawnAt).isSome then .withdrawn else .failed) :
      Change rt allowed db { db with
        writeIntents := update (fun i => i.id = row.id) (fun i => { i with status := .quarantined })
          db.writeIntents
        sessions := update (fun s => s.id = row.sessionId)
          (fun s => { s with state := recoveredState, collectionBlocked := true }) db.sessions }
  | withdraw (clock : Clock) (session : Session) (participantId : String) (receipt : WithdrawalReceipt)
      (hsession : db.session? session.id = some session)
      (howner : session.participantId = some participantId)
      (hfirst : ∀ r ∈ db.withdrawalReceipts, r.participantId ≠ participantId)
      (hregistered : ∀ artifactId ∈ withdrawalLineage (markWithdrawn clock participantId db) participantId,
        ((markWithdrawn clock participantId db).artifact? artifactId).isSome)
      (hparticipant : receipt.participantId = participantId)
      (hsubject : receipt.subjectSessionId = session.id)
      (hcount : Dict.get receipt.response "task_count" =
        some (.int (taskCount (closeParticipant rt clock session.id participantId db) participantId)))
      (hfree : ∀ r ∈ db.withdrawalReceipts, r.id ≠ receipt.id) :
      Change rt allowed db { closeParticipant rt clock session.id participantId db with
        withdrawalReceipts := db.withdrawalReceipts ++ [receipt] }

theorem sessionIdsOf_eq (db : Database) (participantId : String) :
    db.sessionIdsOf participantId =
      ((db.sessions.map Session.view).filter fun v => v.participantId = some participantId).map
        SessionView.id := by
  rw [List.filter_map, List.map_map]
  rfl

theorem Quiet.sessionIdsOf {db db' : Database} (h : Quiet db db') (participantId : String) :
    db'.sessionIdsOf participantId = db.sessionIdsOf participantId := by
  rw [sessionIdsOf_eq, sessionIdsOf_eq, h.sessions]

theorem Quiet.taskCount {db db' : Database} (h : Quiet db db') (participantId : String) :
    taskCount db' participantId = taskCount db participantId := by
  rw [M1Backend.taskCount, M1Backend.taskCount, h.withdrawalTasks, h.sessionIdsOf]

def Commits (rt : Runtime) (allowed : ConsentPolicy) (db db' : Database) : Prop := ∃ mid, Change rt allowed db mid ∧ Quiet mid db'

theorem Quiet.commits {rt : Runtime} {allowed : ConsentPolicy} {db db' : Database} (h : Quiet db db') : Commits rt allowed db db' :=
  ⟨db, .nothing, h⟩

theorem Commits.quiet {rt : Runtime} {allowed : ConsentPolicy} {db mid db' : Database} (h : Commits rt allowed db mid) (h' : Quiet mid db') :
    Commits rt allowed db db' := by
  obtain ⟨m, hm, hq⟩ := h
  exact ⟨m, hm, hq.trans h'⟩

/-! ## The operations commit changes -/

section Operations

variable {rt : Runtime} {allowed : ConsentPolicy} {clock : Clock} {db db' : Database} {sessionId : String} {response : Dict}

theorem view_update {p : Session → Prop} [DecidablePred p] {f : Session → Session}
    (h : ∀ s, p s → (f s).view = s.view) (sessions : List Session) :
    (update p f sessions).map Session.view = sessions.map Session.view :=
  map_update Session.view h

theorem event_quiet {eventType : String} {payload : Dict} {published : Dict}
    (h : event db sessionId eventType payload = .ok (db', published)) : Quiet db db' := by
  simp only [event, bind_ok_iff, orError_eq_ok, insert_eq_ok, pure_eq_ok, Prod.mk.injEq] at h
  obtain ⟨row, -, rows, -, rfl, -⟩ := h
  exact { Quiet.refl _ with sessions := by apply view_update; intro s _; rfl }

/-- A call is answered from its record, or it runs its operation and records the answer. -/
theorem mutate_cases {scope key : String} {payload : Dict} {operation : Database → Except M1Error (Database × Dict)}
    (h : mutate rt db scope key payload operation = .ok (db', response)) :
    (∃ row, db.idempotencyRecord? scope key = some row ∧ row.requestHash = requestHash rt payload ∧
      row.response = response ∧ db' = db) ∨
    db.idempotencyRecord? scope key = none ∧ ∃ mid, operation db = .ok (mid, response) ∧
      mid.idempotencyRecord? scope key = none ∧ db' = { mid with
        idempotencyRecords := mid.idempotencyRecords ++ [⟨scope, key, requestHash rt payload, response⟩] } := by
  unfold mutate at h
  cases hrow : db.idempotencyRecord? scope key with
  | some row =>
    simp only [hrow] at h
    split at h
    · cases h
    · next hsame =>
      cases h
      exact .inl ⟨row, rfl, not_not.mp hsame, rfl, rfl⟩
  | none =>
    simp only [hrow, bind_ok_iff, insert_eq_ok, pure_eq_ok, Prod.mk.injEq] at h
    obtain ⟨⟨mid, r⟩, hmid, records, ⟨hfree, rfl⟩, rfl, rfl⟩ := h
    refine .inr ⟨rfl, mid, hmid, ?_, rfl⟩
    rw [Database.idempotencyRecord?, List.find?_eq_none]
    simpa using hfree

theorem mutate_commits {scope key : String} {payload : Dict}
    {operation : Database → Except M1Error (Database × Dict)}
    (hop : ∀ {mid}, db.idempotencyRecord? scope key = none → operation db = .ok (mid, response) →
      Commits rt allowed db mid)
    (h : mutate rt db scope key payload operation = .ok (db', response)) : Commits rt allowed db db' := by
  obtain ⟨row, -, -, -, rfl⟩ | ⟨hrow, mid, hmid, -, rfl⟩ := mutate_cases h
  · exact (Quiet.refl _).commits
  · refine (hop hrow hmid).quiet ?_
    exact { Quiet.refl _ with idempotencyRecords := List.prefix_append _ _ }

theorem createStudyOperation_commits {studyCode : String}
    (h : createStudyOperation rt studyCode db = .ok (db', response)) : Commits rt allowed db db' := by
  simp only [createStudyOperation, Database.token, bind_ok_iff, insert_eq_ok, pure_eq_ok, Prod.mk.injEq] at h
  obtain ⟨studies, -, rfl, -⟩ := h
  exact Quiet.commits { Quiet.refl _ with tokensDrawn := Nat.le_succ _ }

theorem createParticipantOperation_commits {studyId : String}
    (h : createParticipantOperation rt studyId db = .ok (db', response)) : Commits rt allowed db db' := by
  simp only [createParticipantOperation, Database.token, bind_ok_iff, orError_eq_ok, insert_eq_ok, pure_eq_ok, Prod.mk.injEq] at h
  obtain ⟨study, -, participants, ⟨hfree, rfl⟩, rfl, -⟩ := h
  exact ⟨_, .participant _ hfree rfl, { Quiet.refl _ with tokensDrawn := Nat.le_add_right _ 2 }⟩

theorem createResearchSessionOperation_commits {request : SessionRequest}
    (h : createResearchSessionOperation rt request db = .ok (db', response)) : Commits rt allowed db db' := by
  simp only [createResearchSessionOperation, Database.token, bind_ok_iff, orError_eq_ok, require_eq_ok,
    insert_eq_ok, pure_eq_ok, Prod.mk.injEq] at h
  obtain ⟨participant, hp, -, hopen, sessions, ⟨hfree, rfl⟩, records, -, rfl, -⟩ := h
  obtain ⟨hp, -⟩ := Option.filter_eq_some_iff.mp hp
  have hmem := List.mem_of_find?_eq_some hp
  have hid : participant.id = request.participantId := by simpa using List.find?_some hp
  refine ⟨_, .researchSession _ participant hfree rfl rfl (by rw [hid]) hmem hopen, ?_⟩
  exact { Quiet.refl _ with tokensDrawn := Nat.le_add_right _ 2 }

theorem confirmOperatorConsentOperation_commits {receiptId version : String}
    (hallowed : allowed db sessionId receiptId)
    (h : confirmOperatorConsentOperation sessionId receiptId version db = .ok (db', response)) :
    Commits rt allowed db db' := by
  simp only [confirmOperatorConsentOperation, bind_ok_iff, pure_eq_ok, Prod.mk.injEq] at h
  obtain ⟨_, hmutable, ⟨mid, published⟩, hevent, rfl, -⟩ := h
  exact ⟨_, .consent sessionId receiptId version hmutable hallowed, event_quiet hevent⟩

theorem recordAnswerOperation_commits {request : AnswerRequest}
    (h : recordAnswerOperation rt sessionId request db = .ok (db', response)) : Commits rt allowed db db' := by
  simp only [recordAnswerOperation, Database.token, bind_ok_iff, orError_eq_ok, require_eq_ok,
    insert_eq_ok, pure_eq_ok, Prod.mk.injEq] at h
  obtain ⟨row, -, -, -, answers, -, ⟨mid, published⟩, hevent, rfl, -⟩ := h
  refine Quiet.commits (Quiet.trans ?_ (event_quiet hevent))
  exact { Quiet.refl _ with tokensDrawn := Nat.le_succ _ }

theorem submitExamOperation_commits
    (h : submitExamOperation rt sessionId db = .ok (db', response)) : Commits rt allowed db db' := by
  simp only [submitExamOperation, Database.token, bind_ok_iff, orError_eq_ok, require_eq_ok,
    insert_eq_ok, pure_eq_ok, Prod.mk.injEq] at h
  obtain ⟨row, -, -, -, -, -, attempts, -, ⟨mid, published⟩, hevent, rfl, -⟩ := h
  refine Quiet.commits (Quiet.trans ?_ (event_quiet hevent))
  exact { Quiet.refl _ with
    sessions := by apply view_update; intro s _; rfl
    tokensDrawn := Nat.le_succ _ }

theorem withdrawOperation_commits {participantId pseudonym : String}
    (h : withdrawOperation rt clock sessionId participantId pseudonym db = .ok (db', response)) :
    Commits rt allowed db db' := by
  simp only [withdrawOperation, bind_ok_iff, orError_eq_ok, require_eq_ok] at h
  obtain ⟨session, hsession, _, howner, h⟩ := h
  obtain ⟨hsession, -⟩ := Option.filter_eq_some_iff.mp hsession
  have hid : session.id = sessionId := by simpa using List.find?_some hsession
  subst hid
  cases hreceipt : db.withdrawalReceipt? participantId with
  | some receipt =>
    simp only [hreceipt, pure_eq_ok, Prod.mk.injEq] at h
    obtain ⟨rfl, -⟩ := h
    exact (Quiet.refl _).commits
  | none =>
    simp only [hreceipt, Database.token, bind_ok_iff, require_eq_ok, insert_eq_ok, pure_eq_ok, Prod.mk.injEq] at h
    obtain ⟨_, hregistered, ⟨mid, published⟩, hevent, audits, -, receipts, ⟨hfree, rfl⟩, rfl, -⟩ := h
    have hq : Quiet (closeParticipant rt clock session.id participantId db) mid := event_quiet hevent
    have hfirst : ∀ r ∈ db.withdrawalReceipts, r.participantId ≠ participantId := by
      have := List.find?_eq_none.mp hreceipt
      simpa using this
    refine ⟨_, .withdraw clock session participantId
      ⟨?id, participantId, session.id, withdrawalResponse ?id pseudonym (taskCount mid participantId)⟩
      hsession howner hfirst hregistered rfl rfl ?_ ?_, ?_⟩
    rotate_left 3
    · exact { hq with
        withdrawalReceipts := by rw [hq.withdrawalReceipts, closeParticipant_withdrawalReceipts]
        tokensDrawn := hq.tokensDrawn.trans (Nat.le_add_right _ 2) }
    · rw [withdrawalResponse_taskCount, hq.taskCount]
    · intro r hr heq
      have hsame : (closeParticipant rt clock session.id participantId db).withdrawalReceipts = db.withdrawalReceipts :=
        closeParticipant_withdrawalReceipts
      rw [← hsame, ← hq.withdrawalReceipts] at hr
      exact hfree r hr (.inl heq)

theorem createSession_commits {sessionId pairing : String}
    (h : createSession rt db = .ok (db', sessionId, pairing)) : Commits rt allowed db db' := by
  simp only [createSession, Database.token, bind_ok_iff, insert_eq_ok, pure_eq_ok, Prod.mk.injEq] at h
  obtain ⟨sessions, ⟨hfree, rfl⟩, rfl, -⟩ := h
  exact ⟨_, .demoSession _ hfree rfl rfl rfl,
    { Quiet.refl _ with tokensDrawn := Nat.le_add_right _ 2 }⟩

theorem moveSession_commits {row : Session} {nextState : SessionState} {startedAt : Option Seconds}
    (hrow : db.session? row.id = some row) (hkind : row.sessionKind ≠ .research)
    (h : moveSession db row nextState startedAt = .ok db') : Commits rt allowed db db' := by
  unfold moveSession at h
  split at h
  · cases h
    exact (Quiet.refl _).commits
  · simp only [bind_ok_iff, pure_eq_ok] at h
    obtain ⟨_, -, ⟨mid, published⟩, hevent, rfl⟩ := h
    exact ⟨_, .lifecycle row hrow hkind nextState startedAt, event_quiet hevent⟩

theorem applySessionAction_commits {action : String} {snapshot : Option Services.SessionSnapshot}
    (h : applySessionAction clock db sessionId action = .ok (db', snapshot)) : Commits rt allowed db db' := by
  unfold applySessionAction at h
  cases hrow : db.session? sessionId with
  | none =>
    simp only [hrow, Except.ok.injEq, Prod.mk.injEq] at h
    obtain ⟨rfl, -⟩ := h
    exact (Quiet.refl _).commits
  | some row =>
    have hid : row.id = sessionId := by simpa using List.find?_some hrow
    subst hid
    simp only [hrow, bind_ok_iff, require_eq_ok, pure_eq_ok, Prod.mk.injEq] at h
    obtain ⟨_, hkind, nextState, -, mid, hmove, persisted, -, rfl, -⟩ := h
    exact moveSession_commits hrow hkind hmove

theorem registerArtifact_commits {artifactId : String} {parents : List String}
    (h : registerArtifact db artifactId sessionId parents = .ok db') : Commits rt allowed db db' := by
  simp only [registerArtifact, requireValidParents, bind_ok_iff, require_eq_ok, insert_eq_ok, pure_eq_ok] at h
  obtain ⟨_, hmutable, _, hparents, registry, ⟨hfree, rfl⟩, dependencies, hdeps, rfl⟩ := h
  rw [foldlM_insert_eq_ok (fun parent => (parent, artifactId)) parents hdeps]
  exact ⟨_, .artifact artifactId sessionId parents hmutable hparents hfree, Quiet.refl _⟩

theorem addDependency_commits {parent child : String} (h : addDependency db parent child = .ok db') :
    Commits rt allowed db db' := by
  simp only [addDependency, requireValidParents, bind_ok_iff, require_eq_ok, orError_eq_ok, insert_eq_ok,
    pure_eq_ok] at h
  obtain ⟨_, hparents, artifact, hchild, dependencies, ⟨-, rfl⟩, rfl⟩ := h
  exact ⟨_, .dependency parent child (hparents parent (List.mem_singleton_self _)) (by rw [hchild]; rfl),
    Quiet.refl _⟩

theorem createWriteIntent_commits {partialFile : Except M1Error String}
    (h : createWriteIntent rt db sessionId partialFile = .ok db') : Commits rt allowed db db' := by
  simp only [createWriteIntent, Database.token, bind_ok_iff, insert_eq_ok, pure_eq_ok] at h
  obtain ⟨_, hmutable, path, -, intents, ⟨-, rfl⟩, rfl⟩ := h
  exact ⟨_, .writeIntent _ hmutable, { Quiet.refl _ with tokensDrawn := Nat.le_succ _ }⟩

theorem recoverIntent_commits {row : WriteIntent} (hrow : row ∈ db.writeIntents)
    (h : recoverIntent db row = .ok db') : Commits rt allowed db db' := by
  simp only [recoverIntent, bind_ok_iff, orError_eq_ok, pure_eq_ok] at h
  obtain ⟨session, hsession, rfl⟩ := h
  exact ⟨_, .recover row hrow session hsession _ rfl, Quiet.refl _⟩

theorem recordReviewerAudit_commits {eventKind : String}
    (h : recordReviewerAudit rt db eventKind = .ok db') : Commits rt allowed db db' := by
  simp only [recordReviewerAudit, Database.token, bind_ok_iff, insert_eq_ok, pure_eq_ok] at h
  obtain ⟨audits, -, rfl⟩ := h
  exact Quiet.commits { Quiet.refl _ with tokensDrawn := Nat.le_succ _ }

end Operations

end PduExamObserver.M1
