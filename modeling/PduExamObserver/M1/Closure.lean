import PduExamObserver.M1.Wellformed

/-! # Withdrawal closes a participant

Withdrawal invalidates the artifacts of the participant's sessions and everything that depends on
them, and files one task for each. Nothing later reopens what it closed: a dependency needs a valid
parent, so the lineage of a withdrawn participant never grows. -/

namespace PduExamObserver.M1
open Table Transition M1Backend
set_option autoImplicit false

variable {rt : Runtime} {allowed : ConsentPolicy} {db mid db' : Database} {participantId : String}

def SessionsClosed (db : Database) (participantId : String) : Prop :=
  ∀ s ∈ db.sessions, s.participantId = some participantId → s.state = .withdrawn ∧ s.collectionBlocked = true

def Withdrawn (db : Database) (participantId : String) : Prop :=
  ∃ p ∈ db.participants, p.id = participantId ∧ p.withdrawnAt ≠ none

def Invalidated (db : Database) (artifactId : String) : Prop :=
  ∃ a ∈ db.artifactRegistry, a.id = artifactId ∧ a.status = .invalidated

def taskId (rt : Runtime) (draw : Nat) : String := s!"withdrawal-{rt.tokenUrlsafe draw 8}"

structure Receipted (db : Database) (participantId : String) (receipt : WithdrawalReceipt) : Prop where
  participant : receipt.participantId = participantId
  subject : receipt.subjectSessionId ∈ db.sessionIdsOf participantId
  count : Dict.get receipt.response "task_count" =
    some (.int (withdrawalLineage db participantId).length)
  tasks : ∀ x, x ∈ withdrawalLineage db participantId ↔ ∃ t ∈ db.withdrawalTasks,
    t.withdrawalSubjectSessionId = receipt.subjectSessionId ∧ t.artifactId = x

structure Closed (rt : Runtime) (db : Database) : Prop where
  sessions : ∀ id, Withdrawn db id → SessionsClosed db id
  artifacts : ∀ id, Withdrawn db id → ∀ a ∈ db.artifactRegistry, a.sessionId ∈ db.sessionIdsOf id →
    a.status = .invalidated
  children : ∀ e ∈ db.artifactDependencies, Invalidated db e.1 → Invalidated db e.2
  receipts : ∀ id, Withdrawn db id → ∃ receipt ∈ db.withdrawalReceipts, Receipted db id receipt
  receipts_withdrawn : ∀ receipt ∈ db.withdrawalReceipts, Withdrawn db receipt.participantId
  tasks_withdrawn : ∀ t ∈ db.withdrawalTasks,
    ∃ id, Withdrawn db id ∧ t.withdrawalSubjectSessionId ∈ db.sessionIdsOf id
  tasks_keyed : Keyed (fun t : WithdrawalTask => (t.withdrawalSubjectSessionId, t.artifactId))
    db.withdrawalTasks
  task_ids : ∀ t ∈ db.withdrawalTasks, ∃ draw < db.tokensDrawn, t.id = taskId rt draw

variable {sessionId x : String} {f : Session → Session}

theorem mem_sessionIdsOf : sessionId ∈ db.sessionIdsOf participantId ↔
    ∃ s ∈ db.sessions, s.participantId = some participantId ∧ s.id = sessionId := by
  simp only [Database.sessionIdsOf, List.mem_map, List.mem_filter, decide_eq_true_eq]
  constructor
  · rintro ⟨s, ⟨hs, howner⟩, hid⟩
    exact ⟨s, hs, howner, hid⟩
  · rintro ⟨s, hs, howner, hid⟩
    exact ⟨s, ⟨hs, howner⟩, hid⟩

theorem Wellformed.owner_unique (hw : Wellformed db) {other : String}
    (h : sessionId ∈ db.sessionIdsOf participantId) (h' : sessionId ∈ db.sessionIdsOf other) :
    participantId = other := by
  obtain ⟨s, hs, howner, hid⟩ := mem_sessionIdsOf.mp h
  obtain ⟨s', hs', howner', hid'⟩ := mem_sessionIdsOf.mp h'
  have hsame : s = s' := hw.sessions.eq hs hs' (hid.trans hid'.symm)
  rw [hsame, howner'] at howner
  exact (Option.some.inj howner).symm

theorem mem_withdrawalLineage : x ∈ withdrawalLineage db participantId ↔
    ∃ a ∈ db.artifactRegistry, a.sessionId ∈ db.sessionIdsOf participantId ∧
      Descends db.artifactDependencies a.id x := by
  rw [withdrawalLineage, mem_lineage]
  simp only [List.mem_map, List.mem_filter, decide_eq_true_eq]
  constructor
  · rintro ⟨_, ⟨a, ⟨ha, howned⟩, rfl⟩, hx⟩
    exact ⟨a, ha, howned, hx⟩
  · rintro ⟨a, ha, howned, hx⟩
    exact ⟨a.id, ⟨a, ⟨ha, howned⟩, rfl⟩, hx⟩

theorem Closed.descends (hc : Closed rt db) {y : String} (h : Descends db.artifactDependencies x y)
    (hx : Invalidated db x) : Invalidated db y := by
  induction h with
  | refl => exact hx
  | tail _ he ih => exact hc.children _ he ih

theorem Closed.lineage_invalidated (hc : Closed rt db) (hw : Withdrawn db participantId)
    (hx : x ∈ withdrawalLineage db participantId) : Invalidated db x := by
  obtain ⟨a, ha, howned, hdesc⟩ := mem_withdrawalLineage.mp hx
  exact hc.descends hdesc ⟨a, ha, rfl, hc.artifacts _ hw a ha howned⟩

theorem Wellformed.not_invalidated (hw : Wellformed db) {a : Artifact} (ha : a ∈ db.artifactRegistry)
    (hvalid : a.status = .valid) : ¬ Invalidated db a.id := by
  rintro ⟨b, hb, hid, hstatus⟩
  rw [hw.artifacts.eq hb ha hid, hvalid] at hstatus
  cases hstatus

/-! ## Steps that close nobody -/

structure Keeps (db mid : Database) : Prop where
  participants : ∀ p ∈ db.participants, p ∈ mid.participants
  withdrawn : ∀ id, Withdrawn mid id → Withdrawn db id
  sessionIds : ∀ id, Withdrawn db id → mid.sessionIdsOf id = db.sessionIdsOf id
  sessions : ∀ id, Withdrawn db id → SessionsClosed db id → SessionsClosed mid id
  registry : ∃ new, mid.artifactRegistry = db.artifactRegistry ++ new ∧
    ∀ a ∈ new, a.status = .valid ∧ ∀ id, Withdrawn db id → a.sessionId ∉ db.sessionIdsOf id
  dependencies : ∃ new, mid.artifactDependencies = db.artifactDependencies ++ new ∧
    ∀ e ∈ new, ∃ a ∈ db.artifactRegistry, a.id = e.1 ∧ a.status = .valid
  receipts : mid.withdrawalReceipts = db.withdrawalReceipts
  tasks : mid.withdrawalTasks = db.withdrawalTasks
  tokensDrawn : db.tokensDrawn ≤ mid.tokensDrawn

theorem Keeps.withdrawn_iff (h : Keeps db mid) (id : String) : Withdrawn mid id ↔ Withdrawn db id := by
  refine ⟨h.withdrawn id, ?_⟩
  rintro ⟨p, hp, hid, hw⟩
  exact ⟨p, h.participants p hp, hid, hw⟩

theorem Keeps.invalidated_iff (h : Keeps db mid) (x : String) : Invalidated mid x ↔ Invalidated db x := by
  obtain ⟨new, hreg, hnew⟩ := h.registry
  constructor
  · rintro ⟨a, ha, hid, hstatus⟩
    rw [hreg, List.mem_append] at ha
    rcases ha with ha | ha
    · exact ⟨a, ha, hid, hstatus⟩
    · rw [(hnew a ha).1] at hstatus
      cases hstatus
  · rintro ⟨a, ha, hid, hstatus⟩
    refine ⟨a, ?_, hid, hstatus⟩
    rw [hreg]
    exact List.mem_append_left _ ha

theorem Keeps.lineage (h : Keeps db mid) (hwf : Wellformed db) (hc : Closed rt db)
    (hw : Withdrawn db participantId) :
    (withdrawalLineage mid participantId).Perm (withdrawalLineage db participantId) := by
  obtain ⟨newArtifacts, hreg, hnewArtifacts⟩ := h.registry
  obtain ⟨newEdges, hdeps, hnewEdges⟩ := h.dependencies
  refine lineage_perm ?_ ?_ ?_
  · rw [hdeps]
    exact List.subset_append_left _ _
  · intro x
    rw [h.sessionIds _ hw, hreg, List.filter_append, List.map_append, List.mem_append]
    constructor
    · rintro (hold | hnew)
      · exact hold
      · simp only [List.mem_map, List.mem_filter, decide_eq_true_eq] at hnew
        obtain ⟨a, ⟨ha, howned⟩, -⟩ := hnew
        exact absurd howned ((hnewArtifacts a ha).2 _ hw)
    · exact Or.inl
  · intro e he
    rw [hdeps, List.mem_append] at he
    rcases he with he | he
    · exact .inl he
    · right
      intro hin
      obtain ⟨a, ha, hid, hvalid⟩ := hnewEdges e he
      rw [← hid] at hin
      exact hwf.not_invalidated ha hvalid (hc.lineage_invalidated hw hin)

theorem Closed.keeps (hc : Closed rt db) (hwf : Wellformed db) (h : Keeps db mid) : Closed rt mid where
  sessions id hw := h.sessions id (h.withdrawn id hw) (hc.sessions id (h.withdrawn id hw))
  artifacts id hw a ha howned := by
    have hw' := h.withdrawn id hw
    obtain ⟨new, hreg, hnew⟩ := h.registry
    rw [h.sessionIds id hw'] at howned
    rw [hreg, List.mem_append] at ha
    rcases ha with ha | ha
    · exact hc.artifacts id hw' a ha howned
    · exact absurd howned ((hnew a ha).2 id hw')
  children e he hinv := by
    obtain ⟨new, hdeps, hnew⟩ := h.dependencies
    rw [h.invalidated_iff] at hinv ⊢
    rw [hdeps, List.mem_append] at he
    rcases he with he | he
    · exact hc.children e he hinv
    · obtain ⟨a, ha, hid, hvalid⟩ := hnew e he
      rw [← hid] at hinv
      exact absurd hinv (hwf.not_invalidated ha hvalid)
  receipts id hw := by
    have hw' := h.withdrawn id hw
    obtain ⟨receipt, hmem, hr⟩ := hc.receipts id hw'
    have hperm := h.lineage hwf hc hw'
    refine ⟨receipt, by rw [h.receipts]; exact hmem, hr.participant, ?_, ?_, ?_⟩
    · rw [h.sessionIds id hw']
      exact hr.subject
    · rw [hperm.length_eq]
      exact hr.count
    · intro x
      rw [hperm.mem_iff, h.tasks]
      exact hr.tasks x
  receipts_withdrawn receipt hmem := by
    rw [h.receipts] at hmem
    rw [h.withdrawn_iff]
    exact hc.receipts_withdrawn receipt hmem
  tasks_withdrawn t ht := by
    rw [h.tasks] at ht
    obtain ⟨id, hw, howned⟩ := hc.tasks_withdrawn t ht
    exact ⟨id, (h.withdrawn_iff id).mpr hw, by rw [h.sessionIds id hw]; exact howned⟩
  tasks_keyed := by
    rw [h.tasks]
    exact hc.tasks_keyed
  task_ids t ht := by
    rw [h.tasks] at ht
    obtain ⟨draw, hdraw, hid⟩ := hc.task_ids t ht
    exact ⟨draw, hdraw.trans_le h.tokensDrawn, hid⟩

theorem Keeps.refl (db : Database) : Keeps db db where
  participants _ hp := hp
  withdrawn _ hw := hw
  sessionIds _ _ := rfl
  sessions _ _ hs := hs
  registry := ⟨[], by simp, by simp⟩
  dependencies := ⟨[], by simp, by simp⟩
  receipts := rfl
  tasks := rfl
  tokensDrawn := le_rfl

theorem Quiet.keeps (h : Quiet mid db') : Keeps mid db' where
  participants p hp := by
    rw [h.participants]
    exact hp
  withdrawn id hw := by
    rw [Withdrawn, h.participants] at hw
    exact hw
  sessionIds id _ := h.sessionIdsOf id
  sessions id _ hs s' hs' howner := by
    obtain ⟨s, hmem, hv⟩ := h.session_back hs'
    have hparticipant : s.participantId = s'.participantId := congrArg SessionView.participantId hv
    have hstate : s.state = s'.state := congrArg SessionView.state hv
    have hblocked : s.collectionBlocked = s'.collectionBlocked := congrArg SessionView.collectionBlocked hv
    rw [← hstate, ← hblocked]
    exact hs s hmem (by rw [hparticipant, howner])
  registry := ⟨[], by simp [h.artifactRegistry], by simp⟩
  dependencies := ⟨[], by simp [h.artifactDependencies], by simp⟩
  receipts := h.withdrawalReceipts
  tasks := h.withdrawalTasks
  tokensDrawn := h.tokensDrawn

theorem mutable_not_withdrawn (hwf : Wellformed db)
    (h : requireMutableResearch db sessionId = .ok ()) (hw : Withdrawn db participantId) :
    sessionId ∉ db.sessionIdsOf participantId := by
  simp only [requireMutableResearch, bind_ok_iff, orError_eq_ok, require_eq_ok] at h
  obtain ⟨session, hsession, participant, hparticipant, hopen, -, -⟩ := h
  obtain ⟨hsession, -⟩ := Option.filter_eq_some_iff.mp hsession
  have hsid : session.id = sessionId := by simpa using List.find?_some hsession
  intro howned
  obtain ⟨s, hs, howner, hid⟩ := mem_sessionIdsOf.mp howned
  have hsame : s = session := hwf.sessions.eq hs (List.mem_of_find?_eq_some hsession) (hid.trans hsid.symm)
  subst hsame
  obtain ⟨p, hp, hpid, hpw⟩ := hw
  rw [Database.participantOf?, howner, Option.bind_some, ← hpid, hwf.participant_of_mem hp,
    Option.some_inj] at hparticipant
  rw [hparticipant] at hpw
  exact hpw hopen

theorem validParent_valid (h : validParent db x = true) :
    ∃ a ∈ db.artifactRegistry, a.id = x ∧ a.status = .valid := by
  unfold validParent at h
  cases ha : db.artifact? x with
  | none => simp [ha] at h
  | some a =>
    cases hs : db.session? a.sessionId with
    | none => simp [ha, hs] at h
    | some s =>
      simp only [ha, hs, decide_eq_true_eq] at h
      exact ⟨a, List.mem_of_find?_eq_some ha, by simpa using List.find?_some ha, h.1⟩

theorem sessionIdsOf_update {p : Session → Prop} [DecidablePred p]
    (hf : ∀ s, (f s).id = s.id ∧ (f s).participantId = s.participantId) (sessions : List Session) :
    ((update p f sessions).filter fun s => s.participantId = some participantId).map Session.id =
      (sessions.filter fun s => s.participantId = some participantId).map Session.id := by
  induction sessions with
  | nil => rfl
  | cons s sessions ih =>
    rw [update, List.map_cons, ← update, List.filter_cons, List.filter_cons]
    by_cases hp : p s
    · by_cases howner : s.participantId = some participantId
      · simp [hp, hf s, howner, ih]
      · simp [hp, hf s, howner, ih]
    · by_cases howner : s.participantId = some participantId
      · simp [hp, howner, ih]
      · simp [hp, howner, ih]

theorem Keeps.of_sessions {p : Session → Prop} [DecidablePred p]
    (hf : ∀ s, (f s).id = s.id ∧ (f s).participantId = s.participantId)
    (hclosed : ∀ id, Withdrawn db id → ∀ s ∈ db.sessions, p s → s.participantId = some id →
      s.state = .withdrawn → (f s).state = .withdrawn ∧ (f s).collectionBlocked = true) :
    Keeps db { db with sessions := update p f db.sessions } :=
  { Keeps.refl db with
    sessionIds := fun id _ => sessionIdsOf_update hf db.sessions
    sessions := fun id hw hs s' hs' howner => by
      obtain ⟨s, hmem, rfl⟩ := mem_update.mp hs'
      split at howner
      · next hp =>
        rw [(hf s).2] at howner
        rw [if_pos hp]
        exact hclosed id hw s hmem hp howner (hs s hmem howner).1
      · next hp =>
        rw [if_neg hp]
        exact hs s hmem howner }

theorem Keeps.participant {p : Participant} (hopen : p.withdrawnAt = none) :
    Keeps db { db with participants := db.participants ++ [p] } :=
  { Keeps.refl db with
    participants := fun q hq => List.mem_append_left _ hq
    withdrawn := by
      rintro id ⟨q, hq, hid, hw⟩
      rcases List.mem_append.mp hq with hq | hq
      · exact ⟨q, hq, hid, hw⟩
      · rw [List.mem_singleton.mp hq] at hw
        exact absurd hopen hw }

theorem Keeps.session {s : Session} (howner : ∀ id, Withdrawn db id → s.participantId ≠ some id) :
    Keeps db { db with sessions := db.sessions ++ [s] } :=
  { Keeps.refl db with
    sessionIds := fun id hw => by
      simp [Database.sessionIdsOf, List.filter_append, howner id hw]
    sessions := fun id hw hs q hq hqo => by
      rcases List.mem_append.mp hq with hq | hq
      · exact hs q hq hqo
      · rw [List.mem_singleton.mp hq] at hqo
        exact absurd hqo (howner id hw) }

theorem Keeps.artifact (hwf : Wellformed db) {artifactId : String} {parents : List String}
    (hmutable : requireMutableResearch db sessionId = .ok ())
    (hparents : ∀ parent ∈ parents, validParent db parent = true) :
    Keeps db { db with
      artifactRegistry := db.artifactRegistry ++ [{ id := artifactId, sessionId, status := .valid }]
      artifactDependencies := db.artifactDependencies ++ parents.map fun parent => (parent, artifactId) } :=
  { Keeps.refl db with
    registry := by
      refine ⟨_, rfl, ?_⟩
      intro a ha
      rw [List.mem_singleton.mp ha]
      exact ⟨rfl, fun id hw => mutable_not_withdrawn hwf hmutable hw⟩
    dependencies := by
      refine ⟨_, rfl, ?_⟩
      intro e he
      obtain ⟨parent, hparent, rfl⟩ := List.mem_map.mp he
      exact validParent_valid (hparents parent hparent) }

theorem Keeps.dependency {parent child : String} (hparent : validParent db parent = true) :
    Keeps db { db with artifactDependencies := db.artifactDependencies ++ [(parent, child)] } :=
  { Keeps.refl db with
    dependencies := by
      refine ⟨_, rfl, ?_⟩
      intro e he
      rw [List.mem_singleton.mp he]
      exact validParent_valid hparent }

theorem Keeps.lifecycle (hwf : Wellformed db) {row : Session} (hrow : db.session? row.id = some row)
    (hkind : row.sessionKind ≠ .research) (nextState : SessionState) (startedAt : Option Seconds) :
    Keeps db { db with
      sessions := update (fun s => s.id = row.id ∧ s.state = row.state)
        (fun s => { s with state := nextState, startedAt }) db.sessions } := by
  refine Keeps.of_sessions (fun _ => ⟨rfl, rfl⟩) ?_
  intro id hw s hs hp howner _
  have hsame : s = row := hwf.sessions.eq hs (List.mem_of_find?_eq_some hrow) hp.1
  exact absurd (hwf.owned_research s hs (by simp [howner])) (by rw [hsame]; exact hkind)

theorem Keeps.confirm (db : Database) (sessionId : String) :
    Keeps db { db with
      sessions := update (fun s => s.id = sessionId ∧ s.state = .draft)
        (fun s => { s with state := .consentConfirmed }) db.sessions } := by
  refine Keeps.of_sessions (fun _ => ⟨rfl, rfl⟩) ?_
  intro id hw s hs hp howner hstate
  rw [hp.2] at hstate
  cases hstate

theorem Keeps.recover (hwf : Wellformed db) {session : Session}
    (hsession : db.session? sessionId = some session) {recoveredState : SessionState}
    (hrecovered : recoveredState = if session.state = .withdrawn ∨
      ((db.participantOf? session).bind Participant.withdrawnAt).isSome then .withdrawn else .failed) :
    Keeps db { db with
      sessions := update (fun s => s.id = sessionId)
        (fun s => { s with state := recoveredState, collectionBlocked := true }) db.sessions } := by
  refine Keeps.of_sessions (fun _ => ⟨rfl, rfl⟩) ?_
  intro id hw s hs hp howner hstate
  have hsid : session.id = sessionId := by simpa using List.find?_some hsession
  have hsame : s = session :=
    hwf.sessions.eq hs (List.mem_of_find?_eq_some hsession) (hp.trans hsid.symm)
  rw [hrecovered, if_pos (.inl (by rw [← hsame]; exact hstate))]
  exact ⟨rfl, rfl⟩

end PduExamObserver.M1
