import Mathlib.Data.List.Infix
import PduExamObserver.M1.Wellformed

/-! # Idempotent replay

`_mutate` finds the record of an earlier call by scope and key and never deletes one. Two callers
check something else first: the retention date against the clock, and the session's mutability.
A repeated call gets its recorded response exactly when those checks still pass. -/

namespace PduExamObserver.M1
open Table Transition M1Backend
set_option autoImplicit false

variable {rt : Runtime} {allowed : ConsentPolicy} {clock : Clock} {db db₁ db₂ mid db' : Database}

/-! ## What survives every step -/

def Session.identity (s : Session) : String × Option String × SessionKind :=
  (s.id, s.participantId, s.sessionKind)

def Participant.identity (p : Participant) : String × String := (p.id, p.pseudonym)

structure Persists (db db' : Database) : Prop where
  records : db.idempotencyRecords <+: db'.idempotencyRecords
  sessions : db.sessions.map Session.identity <+: db'.sessions.map Session.identity
  participants : db.participants.map Participant.identity <+: db'.participants.map Participant.identity

theorem Persists.refl (db : Database) : Persists db db :=
  ⟨List.prefix_refl _, List.prefix_refl _, List.prefix_refl _⟩

theorem Persists.trans (h : Persists db mid) (h' : Persists mid db') : Persists db db' :=
  ⟨h.records.trans h'.records, h.sessions.trans h'.sessions, h.participants.trans h'.participants⟩

theorem identity_update {p : Session → Prop} [DecidablePred p] {f : Session → Session}
    (h : ∀ s, (f s).identity = s.identity) (sessions : List Session) :
    sessions.map Session.identity <+: (update p f sessions).map Session.identity := by
  rw [map_update Session.identity fun s _ => h s]

theorem Quiet.persists (h : Quiet mid db') : Persists mid db' where
  records := h.idempotencyRecords
  sessions := by
    have hviews : ∀ sessions : List Session, sessions.map Session.identity =
        (sessions.map Session.view).map fun v => (v.id, v.participantId, v.sessionKind) := by
      intro sessions
      rw [List.map_map]
      rfl
    rw [hviews, hviews, h.sessions]
  participants := by
    rw [h.participants]

theorem Change.persists (h : Change rt allowed db mid) : Persists db mid := by
  cases h with
  | participant p =>
    exact { Persists.refl db with participants := by rw [List.map_append]; exact List.prefix_append _ _ }
  | demoSession s =>
    exact { Persists.refl db with sessions := by rw [List.map_append]; exact List.prefix_append _ _ }
  | researchSession s =>
    exact { Persists.refl db with sessions := by rw [List.map_append]; exact List.prefix_append _ _ }
  | lifecycle | consent | recover =>
    exact { Persists.refl db with sessions := by apply identity_update; intro s; rfl }
  | nothing | artifact | dependency | writeIntent => exact { Persists.refl db with }
  | withdraw clock session participantId receipt =>
    refine ⟨?_, ?_, ?_⟩
    · change _ <+: (closeParticipant _ _ _ _ _).idempotencyRecords
      rw [closeParticipant_idempotencyRecords]
    · change _ <+: (closeParticipant _ _ _ _ _).sessions.map _
      rw [closeParticipant_sessions]
      apply identity_update
      intro s
      rfl
    · change _ <+: (closeParticipant _ _ _ _ _).participants.map _
      have hsame : (markWithdrawn clock participantId db).participants.map Participant.identity =
          db.participants.map Participant.identity := map_update Participant.identity fun _ _ => rfl
      rw [closeParticipant_participants, hsame]

theorem Commits.persists (h : Commits rt allowed db db') : Persists db db' := by
  obtain ⟨mid, hchange, hquiet⟩ := h
  exact hchange.persists.trans hquiet.persists

theorem later_persists (h : Later (system rt) db db') : Persists db db' := by
  have hcommits := later_commits h
  clear h
  induction hcommits with
  | refl => exact Persists.refl db
  | tail _ hstep ih => exact ih.trans hstep.persists

variable {key scope : String} {row : IdempotencyRecord} {call : MutateCall} {response : Dict}

theorem Persists.record (h : Persists db db') (hrow : db.idempotencyRecord? scope key = some row) : db'.idempotencyRecord? scope key = some row := by
  obtain ⟨tail, htail⟩ := h.records
  rw [Database.idempotencyRecord?] at hrow ⊢
  rw [← htail, List.find?_append, hrow]
  rfl

theorem Persists.session (h : Persists db db') {sessionId : String} {s : Session}
    (hs : db.session? sessionId = some s) : ∃ s', db'.session? sessionId = some s' ∧
      s'.participantId = s.participantId ∧ s'.sessionKind = s.sessionKind := by
  obtain ⟨s', hs', hid⟩ := find_of_prefix h.sessions (fun c => c.1 = sessionId) hs
  exact ⟨s', hs', congrArg (fun c => c.2.1) hid, congrArg (fun c => c.2.2) hid⟩

theorem Persists.participant (h : Persists db db') {participantId : String} {p : Participant}
    (hp : db.participant? participantId = some p) : ∃ p', db'.participant? participantId = some p' ∧
      p'.pseudonym = p.pseudonym := by
  obtain ⟨p', hp', hid⟩ := find_of_prefix h.participants (fun c => c.1 = participantId) hp
  exact ⟨p', hp', congrArg Prod.snd hid⟩

/-! ## What a call hands to `_mutate` -/

structure Request where
  scope : String
  key : String
  payload : Dict

namespace MutateCall

/-- Scope, key and payload of a call; `withdraw` looks its participant up. -/
def request (db : Database) : MutateCall → Except M1Error Request
  | .createStudy studyCode idempotencyKey => do
    let key ← M1Backend.key idempotencyKey s!"study-{studyCode}"
    return ⟨"research-study", key, [("study_code", .str studyCode)]⟩
  | .createParticipant studyId idempotencyKey => do
    let key ← M1Backend.key idempotencyKey s!"participant-{studyId}"
    return ⟨"research-participant", key, [("study_id", .str studyId)]⟩
  | .createResearchSession request idempotencyKey => do
    let key ← M1Backend.key idempotencyKey s!"session-{request.participantId}"
    return ⟨"research-session", key, request.payload⟩
  | .confirmOperatorConsent sessionId receiptId version idempotencyKey => do
    let key ← M1Backend.key idempotencyKey s!"consent-{sessionId}"
    return ⟨s!"research-consent:{sessionId}", key, [("receipt_id", .str receiptId), ("version", .str version)]⟩
  | .withdraw sessionId idempotencyKey => do
    let record ← M1Backend.researchSession db sessionId
    let session ← orError (.keyError sessionId) ((db.session? sessionId).filter (·.sessionKind = .research))
    let participantId ← orError (.keyError sessionId) session.participantId
    let key ← M1Backend.key idempotencyKey s!"withdraw-{participantId}"
    return ⟨s!"research-withdraw:{participantId}", key,
      [("participant_id", .str participantId),
        ("participant_pseudonym", .str record.participantPseudonym)]⟩
  | .recordAnswer sessionId idempotencyKey request => do
    let key ← M1Backend.key (some idempotencyKey) request.answerId
    return ⟨s!"answer:{sessionId}", key, request.payload⟩
  | .submitExam sessionId idempotencyKey => do
    let key ← M1Backend.key (some idempotencyKey) "submit"
    return ⟨s!"submit:{sessionId}", key, [("submit", .bool true)]⟩

def admission (rt : Runtime) (clock : Clock) (db : Database) : MutateCall → Except M1Error Unit
  | .createResearchSession request _ => checkRetention rt clock request
  | .confirmOperatorConsent sessionId _ _ _ => requireMutableResearch db sessionId
  | _ => .ok ()

theorem run_eq (rt : Runtime) (clock : Clock) (db : Database) (call : MutateCall) :
    ∃ operation : Database → Except M1Error (Database × Dict),
    call.run rt clock db = (do
      call.admission rt clock db
      let r ← call.request db
      M1Backend.mutate rt db r.scope r.key r.payload operation) := by
  cases call with
  | createStudy studyCode idempotencyKey =>
    refine ⟨createStudyOperation rt studyCode, ?_⟩
    simp only [run, request, admission, M1Backend.createStudy, bind_assoc, pure_bind, ok_bind]
  | createParticipant studyId idempotencyKey =>
    refine ⟨createParticipantOperation rt studyId, ?_⟩
    simp only [run, request, admission, M1Backend.createParticipant, bind_assoc, pure_bind, ok_bind]
  | createResearchSession request idempotencyKey =>
    refine ⟨createResearchSessionOperation rt request, ?_⟩
    simp only [run, MutateCall.request, admission, M1Backend.createResearchSession, bind_assoc, pure_bind]
  | confirmOperatorConsent sessionId receiptId version idempotencyKey =>
    refine ⟨confirmOperatorConsentOperation sessionId receiptId version, ?_⟩
    simp only [run, request, admission, M1Backend.confirmOperatorConsent, bind_assoc, pure_bind]
  | withdraw sessionId idempotencyKey =>
    simp only [run, request, admission, M1Backend.withdraw, bind_assoc, pure_bind, ok_bind]
    -- the operation depends on the rows that the request was made from
    cases M1Backend.researchSession db sessionId with
    | error e => exact ⟨fun _ => .error e, by simp only [error_bind]⟩
    | ok record =>
      cases (db.session? sessionId).filter (·.sessionKind = .research) with
      | none => exact ⟨fun _ => .error (.keyError sessionId), by simp only [orError, ok_bind, error_bind]⟩
      | some session =>
        simp only [ok_bind, orError]
        cases session.participantId with
        | none => exact ⟨fun _ => .error (.keyError sessionId), by simp only [error_bind]⟩
        | some participantId =>
          refine ⟨withdrawOperation rt clock sessionId participantId record.participantPseudonym, ?_⟩
          simp only [ok_bind]
  | recordAnswer sessionId idempotencyKey request =>
    refine ⟨recordAnswerOperation rt sessionId request, ?_⟩
    simp only [run, MutateCall.request, admission, M1Backend.recordAnswer, bind_assoc, pure_bind, ok_bind]
  | submitExam sessionId idempotencyKey =>
    refine ⟨submitExamOperation rt sessionId, ?_⟩
    simp only [run, request, admission, M1Backend.submitExam, bind_assoc, pure_bind, ok_bind]

/-- What `admission` asks: the retention date is valid and not in the past, and the session to confirm is a
research session that is still open for mutation. -/
def Admitted (rt : Runtime) (clock : Clock) (db : Database) : MutateCall → Prop
  | .createResearchSession request _ =>
    ¬ (request.retentionPolicyReference.isSome ∧ request.retentionEndDate.isSome) ∧
      ∀ date, request.retentionEndDate = some date →
        ∃ day, rt.fromIsoformat date = some day ∧ rt.fromTimestamp (clock 0) ≤ day
  | .confirmOperatorConsent sessionId _ _ _ =>
    ∃ session participant, db.session? sessionId = some session ∧ session.sessionKind = .research ∧
      db.participantOf? session = some participant ∧ participant.withdrawnAt = none ∧
      session.state ≠ .withdrawn ∧ session.collectionBlocked = false
  | _ => True

theorem admission_eq_ok :
    call.admission rt clock db = .ok () ↔ call.Admitted rt clock db := by
  cases call with
  | createResearchSession request idempotencyKey =>
    simp only [admission, Admitted, checkRetention, bind_ok_iff, require_eq_ok, exists_const]
    cases request.retentionEndDate with
    | none => simp [pure, Except.pure]
    | some date => simp [bind_ok_iff]
  | confirmOperatorConsent sessionId receiptId version idempotencyKey =>
    simp [admission, Admitted, requireMutableResearch, bind_ok_iff, Option.filter_eq_some_iff, and_assoc]
  | createStudy | createParticipant | withdraw | recordAnswer | submitExam => simp [admission, Admitted]

theorem admission_error {e : M1Error} (h : call.admission rt clock db = .error e)
    (message : String) : e ≠ .idempotencyConflict message := by
  rintro rfl
  cases call with
  | createResearchSession request idempotencyKey =>
    simp only [admission, checkRetention, bind_error_iff, require_eq_error, reduceCtorEq, and_false,
      false_or] at h
    obtain ⟨_, -, h⟩ := h
    cases hdate : request.retentionEndDate with
    | none => simp [hdate, pure, Except.pure] at h
    | some date => simp [hdate, bind_error_iff] at h
  | confirmOperatorConsent sessionId receiptId version idempotencyKey =>
    simp [admission, requireMutableResearch, bind_error_iff] at h
  | createStudy | createParticipant | withdraw | recordAnswer | submitExam => cases h

theorem request_persists {r : Request} (h : call.request db = .ok r)
    (hp : Persists db db') : call.request db' = .ok r := by
  cases call with
  | withdraw sessionId idempotencyKey =>
    simp only [request, M1Backend.researchSession, bind_ok_iff, orError_eq_ok, pure_eq_ok, Option.filter_eq_some_iff] at h ⊢
    obtain ⟨_, ⟨session, hs, participant, hpart, rfl⟩, session₂, ⟨hs₂, hkind⟩, participantId, howner, key, hkey,
      rfl⟩ := h
    cases hs.symm.trans hs₂
    obtain ⟨session', hs', howner', hkind'⟩ := hp.session hs
    rw [Database.participantOf?, howner] at hpart
    obtain ⟨participant', hpart', hpseudonym⟩ := hp.participant hpart
    refine ⟨_, ⟨session', hs', participant', ?_, rfl⟩, session', ⟨hs', ?_⟩, participantId, ?_, key, hkey, ?_⟩
    · rw [Database.participantOf?, howner', howner]
      exact hpart'
    · rw [hkind']
      exact hkind
    · rw [howner', howner]
    · rw [hpseudonym]
  | createStudy | createParticipant | createResearchSession | confirmOperatorConsent | recordAnswer
  | submitExam => exact h

end MutateCall

/-! ## The record -/

/-- The text that `request_hash` digests. -/
abbrev requestText (payload : Dict) : Json := (Json.obj payload).sortKeys

theorem mutate_records {payload : Dict}
    {operation : Database → Except M1Error (Database × Dict)}
    (h : mutate rt db scope key payload operation = .ok (db', response)) :
    ∃ row, db'.idempotencyRecord? scope key = some row ∧ row.requestHash = requestHash rt payload ∧
      row.response = response := by
  obtain ⟨row, hrow, hhash, hresponse, rfl⟩ | ⟨-, mid, -, hnone, rfl⟩ := mutate_cases h
  · exact ⟨row, hrow, hhash, hresponse⟩
  · refine ⟨⟨scope, key, requestHash rt payload, response⟩, ?_, rfl, rfl⟩
    rw [Database.idempotencyRecord?] at hnone ⊢
    rw [List.find?_append, hnone]
    simp

theorem mutate_of_record {payload : Dict}
    (operation : Database → Except M1Error (Database × Dict))
    (hrow : db.idempotencyRecord? scope key = some row) :
    mutate rt db scope key payload operation =
      if row.requestHash ≠ requestHash rt payload then
        .error (.idempotencyConflict "Idempotency key was reused with a different request payload")
      else .ok (db, row.response) := by
  simp only [mutate, hrow]

namespace MutateCall

theorem run_records (h : call.run rt clock db = .ok (db', response)) :
    ∃ r row, call.request db = .ok r ∧ db'.idempotencyRecord? r.scope r.key = some row ∧
      row.requestHash = requestHash rt r.payload ∧ row.response = response := by
  obtain ⟨operation, heq⟩ := run_eq rt clock db call
  rw [heq] at h
  simp only [bind_ok_iff] at h
  obtain ⟨_, -, r, hr, h⟩ := h
  obtain ⟨row, hrow, hhash, hresponse⟩ := mutate_records h
  exact ⟨r, row, hr, hrow, hhash, hresponse⟩

theorem run_of_record (rt : Runtime) (clock : Clock) {r : Request}
    (hr : call.request db = .ok r) (hrow : db.idempotencyRecord? r.scope r.key = some row) :
    call.run rt clock db = (do
      call.admission rt clock db
      if row.requestHash ≠ requestHash rt r.payload then
        .error (.idempotencyConflict "Idempotency key was reused with a different request payload")
      else .ok (db, row.response)) := by
  obtain ⟨operation, heq⟩ := run_eq rt clock db call
  rw [heq, hr]
  simp only [ok_bind, mutate_of_record operation hrow]

theorem step_of_run (h : call.run rt clock db = .ok (db', response)) :
    step rt db (clock, .mutate call) = db' := by
  simp only [step, M1Action.run, h, Except.map]

theorem step_of_idle
    (h : ∀ db₁ response, call.run rt clock db = .ok (db₁, response) → db₁ = db) :
    step rt db (clock, .mutate call) = db := by
  cases hrun : call.run rt clock db with
  | error e => simp only [step, M1Action.run, hrun, Except.map]
  | ok result =>
    rw [step_of_run hrun]
    exact h result.1 result.2 hrun

end MutateCall

/-- After a call has committed, in every later ledger and at every clock: the same call answers with the
recorded response exactly when it is still admitted, a call with the same scope and key and another payload is
an idempotency conflict exactly when it is admitted, and neither changes a table. -/
theorem mutate_replay (rt : Runtime) (call : MutateCall) (clock : Clock) (db db₁ db₂ : Database)
    (response : Dict) (hcommitted : call.run rt clock db = .ok (db₁, response))
    (hlater : Later (system rt) db₁ db₂) (clock₂ : Clock) :
    (call.run rt clock₂ db₂ = .ok (db₂, response) ↔ call.Admitted rt clock₂ db₂) ∧
    step rt db₂ (clock₂, .mutate call) = db₂ ∧
    ∃ r, call.request db₂ = .ok r ∧
      ∀ other r', other.request db₂ = .ok r' → r'.scope = r.scope → r'.key = r.key →
        requestText r'.payload ≠ requestText r.payload →
        -- the two texts are no collision of the digest
        (rt.sha256 (requestText r'.payload) = rt.sha256 (requestText r.payload) →
          requestText r'.payload = requestText r.payload) →
        (other.run rt clock₂ db₂ =
          .error (.idempotencyConflict "Idempotency key was reused with a different request payload") ↔
            other.Admitted rt clock₂ db₂) ∧
        step rt db₂ (clock₂, .mutate other) = db₂ := by
  obtain ⟨r, row, hr, hrow, hhash, hresponse⟩ := MutateCall.run_records hcommitted
  have hsince : Persists db₁ db₂ := later_persists hlater
  have hpersists : Persists db db₂ :=
    (MutateCall.run_commits (confirms_anyConsent db (clock, .mutate call)) hcommitted).persists.trans hsince
  have hr₂ := MutateCall.request_persists hr hpersists
  have hrow₂ := hsince.record hrow
  have hrun := MutateCall.run_of_record rt clock₂ hr₂ hrow₂
  rw [if_neg (not_not.mpr hhash), hresponse] at hrun
  refine ⟨?_, ?_, r, hr₂, ?_⟩
  · rw [hrun, bind_ok_iff, ← MutateCall.admission_eq_ok]
    exact ⟨fun ⟨_, hok, _⟩ => hok, fun hok => ⟨(), hok, rfl⟩⟩
  · refine MutateCall.step_of_idle fun db' response' h => ?_
    simp only [hrun, bind_ok_iff, Except.ok.injEq, Prod.mk.injEq] at h
    obtain ⟨_, -, rfl, -⟩ := h
    rfl
  · intro other r' hr' hscope hkey hpayload hcollision
    rw [← hscope, ← hkey] at hrow₂
    have hother := MutateCall.run_of_record rt clock₂ hr' hrow₂
    have hdiffer : row.requestHash ≠ requestHash rt r'.payload := by
      rw [hhash]
      exact fun hsame => hpayload (hcollision hsame.symm)
    rw [if_pos hdiffer] at hother
    constructor
    · rw [hother, bind_error_iff, ← MutateCall.admission_eq_ok]
      constructor
      · rintro (herror | ⟨_, hok, -⟩)
        · exact absurd rfl (MutateCall.admission_error herror _)
        · exact hok
      · exact fun hok => .inr ⟨(), hok, rfl⟩
    · refine MutateCall.step_of_idle fun db' response' h => ?_
      simp only [hother, bind_ok_iff, reduceCtorEq, and_false, exists_false] at h

def confirmOnce : MutateCall := .confirmOperatorConsent "research-aaa" "R" "v1" none

def confirmOther : MutateCall := .confirmOperatorConsent "research-aaa" "R2" "v1" none

def confirmedLedger : Database :=
  step sampleRuntime (twoSessionsRun.foldl (step sampleRuntime) {}) (noon, .mutate confirmOnce)

theorem confirmedLedger_eq : ∃ response, confirmOnce.run sampleRuntime noon
    (twoSessionsRun.foldl (step sampleRuntime) {}) = .ok (confirmedLedger, response) := by
  obtain ⟨⟨db, response⟩, hrun⟩ : ∃ r, confirmOnce.run sampleRuntime noon
      (twoSessionsRun.foldl (step sampleRuntime) {}) = .ok r := ok_of_isOk (by decide +kernel)
  rw [confirmedLedger, MutateCall.step_of_run hrun]
  exact ⟨response, hrun⟩

def laterLedger : Database := step sampleRuntime confirmedLedger (noon, .mutate (.createStudy "T" none))

theorem mutate_replay_confirm : ∃ response,
    confirmOnce.run sampleRuntime noon laterLedger = .ok (laterLedger, response) ∧
    confirmOther.run sampleRuntime noon laterLedger =
      .error (.idempotencyConflict "Idempotency key was reused with a different request payload") := by
  obtain ⟨response, hrun⟩ := confirmedLedger_eq
  have hlater : Later (system sampleRuntime) confirmedLedger laterLedger := .single ⟨_, rfl⟩
  have hadmitted : confirmOnce.Admitted sampleRuntime noon laterLedger := by
    obtain ⟨_, hok⟩ := ok_of_isOk
      (show (confirmOnce.admission sampleRuntime noon laterLedger).isOk = true by decide +kernel)
    exact MutateCall.admission_eq_ok.mp hok
  obtain ⟨hsame, -, r, hr, hother⟩ :=
    mutate_replay sampleRuntime confirmOnce noon _ _ _ response hrun hlater noon
  cases hr
  refine ⟨response, hsame.mpr hadmitted, ?_⟩
  have hdigest : sampleRuntime.sha256 (requestText [("receipt_id", .str "R2"), ("version", .str "v1")]) ≠
      sampleRuntime.sha256 (requestText [("receipt_id", .str "R"), ("version", .str "v1")]) := by
    decide +kernel
  exact (hother confirmOther _ rfl rfl rfl (fun h => hdigest (congrArg sampleRuntime.sha256 h))
    (fun h => absurd h hdigest)).1.mpr hadmitted

def withdrawnLedger : Database := step sampleRuntime confirmedLedger (noon, .mutate (.withdraw "research-aaa" none))

/-- After the withdrawal the same confirmation is refused. -/
theorem mutate_replay_refused :
    ¬ ∀ (rt : Runtime) (call : MutateCall) (clock : Clock) (db db₁ db₂ : Database) (response : Dict)
        (clock₂ : Clock), Reachable (system rt) db → call.run rt clock db = .ok (db₁, response) →
        Later (system rt) db₁ db₂ → call.run rt clock₂ db₂ = .ok (db₂, response) := by
  intro hclaim
  obtain ⟨response, hrun⟩ := confirmedLedger_eq
  have hlater : Later (system sampleRuntime) confirmedLedger withdrawnLedger := .single ⟨_, rfl⟩
  have hrepeat := hclaim sampleRuntime confirmOnce noon _ _ _ response noon
    (reachable_foldl twoSessionsRun (.init rfl)) hrun hlater
  have hfails : (confirmOnce.run sampleRuntime noon withdrawnLedger).isOk = false := by decide +kernel
  rw [hrepeat] at hfails
  cases hfails

end PduExamObserver.M1
