import PduExamObserver.M1.Withdrawal

/-! # What the operations write

Every writer counts `event_seq` of a session and inserts the event under the new number by hand. What the operations of
the ledger write to the sessions, the events, the receipts and the artifacts, and why the numbers have no gap. -/

namespace PduExamObserver.M1
open Table M1Backend
set_option autoImplicit false

variable {rt : Runtime} {clock : Clock} {db db' mid : Database} {sessionId : String} {response : Dict}

def Database.eventSeqs (db : Database) (sessionId : String) : List Nat :=
  (db.sessionEvents.filter fun e => e.sessionId = sessionId).map SessionEvent.eventSeq

/-- The events of every session have the numbers up to its counter, and each event is one of a session. -/
structure Gapless (db : Database) : Prop where
  ids : Keyed Session.id db.sessions
  numbered : ∀ s ∈ db.sessions, db.eventSeqs s.id = List.range' 1 s.eventSeq
  referred : ∀ e ∈ db.sessionEvents, ∃ s ∈ db.sessions, s.id = e.sessionId

def Session.counter (s : Session) : String × Nat := (s.id, s.eventSeq)

def Artifact.owner (a : Artifact) : String × String := (a.id, a.sessionId)

structure SameLog (db db' : Database) : Prop where
  counters : db'.sessions.map Session.counter = db.sessions.map Session.counter
  events : db'.sessionEvents = db.sessionEvents
  audits : db'.auditEvents = db.auditEvents
  receipts : db'.withdrawalReceipts = db.withdrawalReceipts
  artifacts : db'.artifactRegistry.map Artifact.owner = db.artifactRegistry.map Artifact.owner
  dependencies : db'.artifactDependencies = db.artifactDependencies
  tokensDrawn : db.tokensDrawn ≤ db'.tokensDrawn

theorem SameLog.refl (db : Database) : SameLog db db := ⟨rfl, rfl, rfl, rfl, rfl, rfl, Nat.le_refl _⟩

def auditId (rt : Runtime) (draw : Nat) : String := s!"audit-{rt.tokenUrlsafe draw 8}"

def receiptId (rt : Runtime) (draw : Nat) : String := s!"withdrawal-receipt-{rt.tokenUrlsafe draw 8}"

def SparesAudits (rt : Runtime) (db : Database) (id : String) : Prop :=
  ∀ draw, db.tokensDrawn ≤ draw → id ≠ auditId rt draw

theorem sparesAudits_drawn {draw : Nat} (h : draw < db.tokensDrawn) : SparesAudits rt db (auditId rt draw) := by
  intro later hlater heq
  have hsame : draw = later := rt.token_inj ((String.append_right_inj _).mp heq)
  omega

theorem sparesAudits_of_head {id : String} (h : id.toList.head? ≠ some 'a') : SparesAudits rt db id := by
  rintro draw - rfl
  refine h ?_
  rw [auditId, String.toList_append]
  rfl

/-- One write of an operation to these tables; only an operation that `registers` adds artifacts. -/
inductive Writes (rt : Runtime) (registers : Bool) (db : Database) : Database → Prop
  | same {db' : Database} (h : SameLog db db') : Writes rt registers db db'
  | event {db' : Database} {sessionId eventType : String} {payload published : Dict}
      (h : event db sessionId eventType payload = .ok (db', published)) : Writes rt registers db db'
  | session (s : Session) (hfree : ∀ old ∈ db.sessions, ¬ Session.Clash old s) (hseq : s.eventSeq = 0) :
      Writes rt registers db { db with sessions := db.sessions ++ [s] }
  | audit (e : AuditEvent) (hid : SparesAudits rt db e.id) :
      Writes rt registers db { db with auditEvents := db.auditEvents ++ [e] }
  | receipt (r : WithdrawalReceipt) (draw : Nat) (hdraw : draw < db.tokensDrawn) (hid : r.id = receiptId rt draw) :
      Writes rt registers db { db with withdrawalReceipts := db.withdrawalReceipts ++ [r] }
  | artifacts (artifactRegistry : List Artifact) (artifactDependencies : List ArtifactDependency)
      (h : registers = true) : Writes rt registers db { db with artifactRegistry, artifactDependencies }

abbrev Logged (rt : Runtime) (registers : Bool) : Database → Database → Prop :=
  Relation.ReflTransGen (Writes rt registers)

theorem SameLog.logged {registers : Bool} (h : SameLog db db') : Logged rt registers db db' := .single (.same h)

theorem counter_update {p : Session → Prop} [DecidablePred p] {f : Session → Session}
    (h : ∀ s, (f s).counter = s.counter) (sessions : List Session) :
    (update p f sessions).map Session.counter = sessions.map Session.counter :=
  map_update Session.counter fun s _ => h s

variable {eventType : String} {payload published : Dict}

namespace Gapless

theorem empty : Gapless {} := ⟨.nil, fun _ h => (nomatch h), fun _ h => (nomatch h)⟩

theorem same (h : Gapless db) (hcounters : db'.sessions.map Session.counter = db.sessions.map Session.counter)
    (hevents : db'.sessionEvents = db.sessionEvents) : Gapless db' := by
  have hids : db'.sessions.map Session.id = db.sessions.map Session.id := by
    have hfirst := congrArg (List.map Prod.fst) hcounters
    rwa [List.map_map, List.map_map] at hfirst
  have hold : ∀ s' ∈ db'.sessions, ∃ s ∈ db.sessions, s.id = s'.id ∧ s.eventSeq = s'.eventSeq := by
    intro s' hs'
    have hmem : s'.counter ∈ db.sessions.map Session.counter := hcounters ▸ List.mem_map_of_mem hs'
    obtain ⟨s, hs, heq⟩ := List.mem_map.mp hmem
    exact ⟨s, hs, congrArg Prod.fst heq, congrArg Prod.snd heq⟩
  refine ⟨?_, fun s' hs' => ?_, fun e he => ?_⟩
  · rw [Keyed, hids]
    exact h.ids
  · obtain ⟨s, hs, hid, hseq⟩ := hold s' hs'
    rw [Database.eventSeqs, hevents, ← hid, ← hseq]
    exact h.numbered s hs
  · rw [hevents] at he
    obtain ⟨s, hs, hid⟩ := h.referred e he
    have hmem : s.id ∈ db'.sessions.map Session.id := hids ▸ List.mem_map_of_mem hs
    obtain ⟨s', hs', heq⟩ := List.mem_map.mp hmem
    exact ⟨s', hs', heq.trans hid⟩

theorem free (h : Gapless db) {row : Session} (hrow : db.session? sessionId = some row) :
    ∀ e ∈ db.sessionEvents, ¬ (e.sessionId = sessionId ∧ e.eventSeq = row.eventSeq + 1) := by
  rintro e he ⟨hsession, hseq⟩
  have hmem := List.mem_of_find?_eq_some hrow
  have hid : row.id = sessionId := by simpa using List.find?_some hrow
  have hnumber : e.eventSeq ∈ db.eventSeqs row.id :=
    List.mem_map_of_mem (List.mem_filter.mpr ⟨he, by simpa [hid] using hsession⟩)
  rw [h.numbered row hmem, List.mem_range'_1] at hnumber
  omega

theorem event_ok (h : Gapless db) {row : Session} (hrow : db.session? sessionId = some row) (eventType : String)
    (payload : Dict) : ∃ result, event db sessionId eventType payload = .ok result := by
  have hrow' : orError (M1Error.keyError sessionId) (db.session? sessionId) = .ok row := orError_eq_ok.mpr hrow
  exact ⟨_, bind_ok_iff.mpr ⟨row, hrow', bind_ok_iff.mpr ⟨_, insert_eq_ok.mpr ⟨h.free hrow, rfl⟩, rfl⟩⟩⟩

theorem event (h : Gapless db) (hevent : M1Backend.event db sessionId eventType payload = .ok (db', published)) : Gapless db' := by
  simp only [M1Backend.event, bind_ok_iff, orError_eq_ok, insert_eq_ok, pure_eq_ok, Prod.mk.injEq] at hevent
  obtain ⟨row, hrow, rows, ⟨-, rfl⟩, rfl, -⟩ := hevent
  have hmem := List.mem_of_find?_eq_some hrow
  have hid : row.id = sessionId := by simpa using List.find?_some hrow
  refine ⟨h.ids.update fun _ _ => rfl, fun s' hs' => ?_, fun e he => ?_⟩
  · obtain ⟨s, hs, rfl⟩ := mem_update.mp hs'
    by_cases hsession : s.id = sessionId
    · have hsame : s = row := h.ids.eq hs hmem (hsession.trans hid.symm)
      subst hsame
      have hnumbered := h.numbered s hs
      rw [Database.eventSeqs, hid] at hnumbered
      rw [if_pos hsession, Database.eventSeqs]
      simp only [hsession, List.filter_append, List.map_append, hnumbered, List.range'_1_concat]
      simp [Nat.add_comm]
    · rw [if_neg hsession, ← h.numbered s hs, Database.eventSeqs]
      have hother : ¬ sessionId = s.id := fun heq => hsession heq.symm
      simp [List.filter_append, hother, Database.eventSeqs]
  · rcases List.mem_append.mp he with hold | hnew
    · obtain ⟨s, hs, hsession⟩ := h.referred e hold
      refine ⟨_, mem_update.mpr ⟨s, hs, rfl⟩, ?_⟩
      split <;> exact hsession
    · rw [List.mem_singleton.mp hnew]
      refine ⟨_, mem_update.mpr ⟨row, hmem, rfl⟩, ?_⟩
      split <;> exact hid

theorem created (h : Gapless db) {s : Session} (hfree : ∀ old ∈ db.sessions, ¬ Session.Clash old s)
    (hseq : s.eventSeq = 0) (hsessions : db'.sessions = db.sessions ++ [s])
    (hevents : db'.sessionEvents = db.sessionEvents) : Gapless db' := by
  have hnone : db.eventSeqs s.id = [] := by
    rw [Database.eventSeqs, List.filter_eq_nil_iff.mpr, List.map_nil]
    intro e he hsession
    obtain ⟨old, hold, heq⟩ := h.referred e he
    exact hfree old hold (heq.trans (by simpa using hsession))
  refine ⟨?_, fun s' hs' => ?_, fun e he => ?_⟩
  · rw [hsessions]
    exact h.ids.concat hfree
  · rw [Database.eventSeqs, hevents, ← Database.eventSeqs]
    rw [hsessions] at hs'
    rcases List.mem_append.mp hs' with hold | hnew
    · exact h.numbered s' hold
    · rw [List.mem_singleton.mp hnew, hnone, hseq]
      rfl
  · rw [hevents] at he
    obtain ⟨old, hold, heq⟩ := h.referred e he
    exact ⟨old, hsessions ▸ List.mem_append_left _ hold, heq⟩

theorem sameEvent (h : Gapless db) (hevent : M1Backend.event mid sessionId eventType payload = .ok (db', published))
    (hcounters : mid.sessions.map Session.counter = db.sessions.map Session.counter)
    (hevents : mid.sessionEvents = db.sessionEvents) : Gapless db' := (h.same hcounters hevents).event hevent

theorem writes {registers : Bool} (h : Gapless db) (hwrites : Writes rt registers db db') : Gapless db' := by
  cases hwrites with
  | same hsame => exact h.same hsame.counters hsame.events
  | event hevent => exact h.event hevent
  | session s hfree hseq => exact h.created hfree hseq rfl rfl
  | audit e hid => exact h.same rfl rfl
  | receipt r draw hdraw hid => exact h.same rfl rfl
  | artifacts registry dependencies hregisters => exact h.same rfl rfl

theorem logged {registers : Bool} (h : Gapless db) (hlogged : Logged rt registers db db') : Gapless db' := by
  induction hlogged with
  | refl => exact h
  | tail _ hwrites ih => exact ih.writes hwrites

end Gapless

/-! ## The operations -/

def M1Action.registers : M1Action → Bool
  | .registerArtifact .. | .addDependency .. => true
  | _ => false

section Operations

variable {registers : Bool}

theorem logged_event (hevent : event mid sessionId eventType payload = .ok (db', published)) (hsame : SameLog db mid) :
    Logged rt registers db db' := hsame.logged.tail (.event hevent)

theorem mutate_logged {scope key : String} {operation : Database → Except M1Error (Database × Dict)}
    (hop : ∀ {mid}, operation db = .ok (mid, response) → Logged rt registers db mid)
    (hmutate : mutate rt db scope key payload operation = .ok (db', response)) : Logged rt registers db db' := by
  obtain ⟨row, -, -, -, rfl⟩ | ⟨-, mid, hmid, -, rfl⟩ := mutate_cases hmutate
  · exact .refl
  · exact (hop hmid).tail (.same { SameLog.refl mid with })

theorem createStudyOperation_logged {studyCode : String}
    (hop : createStudyOperation rt studyCode db = .ok (db', response)) : Logged rt registers db db' := by
  simp only [createStudyOperation, Database.token, bind_ok_iff, insert_eq_ok, pure_eq_ok, Prod.mk.injEq] at hop
  obtain ⟨studies, -, rfl, -⟩ := hop
  exact SameLog.logged { SameLog.refl db with tokensDrawn := Nat.le_succ _ }

theorem createParticipantOperation_logged {studyId : String}
    (hop : createParticipantOperation rt studyId db = .ok (db', response)) : Logged rt registers db db' := by
  simp only [createParticipantOperation, Database.token, bind_ok_iff, orError_eq_ok, insert_eq_ok, pure_eq_ok, Prod.mk.injEq] at hop
  obtain ⟨study, -, participants, -, rfl, -⟩ := hop
  exact SameLog.logged { SameLog.refl db with tokensDrawn := Nat.le_add_right _ 2 }

theorem createResearchSessionOperation_logged {request : SessionRequest}
    (hop : createResearchSessionOperation rt request db = .ok (db', response)) : Logged rt registers db db' := by
  simp only [createResearchSessionOperation, Database.token, bind_ok_iff, orError_eq_ok, require_eq_ok, insert_eq_ok,
    pure_eq_ok, Prod.mk.injEq] at hop
  obtain ⟨participant, -, -, -, sessions, ⟨hfree, rfl⟩, records, -, rfl, -⟩ := hop
  refine .tail (.single (.session _ hfree rfl)) (.same { SameLog.refl _ with tokensDrawn := ?_ })
  exact Nat.le_add_right _ 2

theorem confirmOperatorConsentOperation_logged {receiptId version : String}
    (hop : confirmOperatorConsentOperation sessionId receiptId version db = .ok (db', response)) :
    Logged rt registers db db' := by
  simp only [confirmOperatorConsentOperation, bind_ok_iff, pure_eq_ok, Prod.mk.injEq] at hop
  obtain ⟨_, -, ⟨mid, published⟩, hevent, rfl, -⟩ := hop
  exact logged_event hevent { SameLog.refl db with counters := by apply counter_update; intro s; rfl }

theorem recordAnswerOperation_logged {request : AnswerRequest}
    (hop : recordAnswerOperation rt sessionId request db = .ok (db', response)) : Logged rt registers db db' := by
  simp only [recordAnswerOperation, Database.token, bind_ok_iff, orError_eq_ok, require_eq_ok, insert_eq_ok, pure_eq_ok, Prod.mk.injEq] at hop
  obtain ⟨row, -, -, -, answers, -, ⟨mid, published⟩, hevent, rfl, -⟩ := hop
  exact logged_event hevent { SameLog.refl db with tokensDrawn := Nat.le_succ _ }

theorem submitExamOperation_logged (hop : submitExamOperation rt sessionId db = .ok (db', response)) :
    Logged rt registers db db' := by
  simp only [submitExamOperation, Database.token, bind_ok_iff, orError_eq_ok, require_eq_ok, insert_eq_ok, pure_eq_ok, Prod.mk.injEq] at hop
  obtain ⟨row, -, -, -, -, -, attempts, -, ⟨mid, published⟩, hevent, rfl, -⟩ := hop
  exact logged_event hevent { SameLog.refl db with
    counters := by apply counter_update; intro s; rfl
    tokensDrawn := Nat.le_succ _ }

theorem closeParticipant_same (rt : Runtime) (clock : Clock) (sessionId participantId : String) (db : Database) :
    SameLog db (closeParticipant rt clock sessionId participantId db) where
  counters := by
    rw [closeParticipant_sessions]
    apply counter_update
    intro s
    rfl
  events := foldl_invalidateArtifact Database.sessionEvents (fun _ _ => rfl) _ _
  audits := foldl_invalidateArtifact Database.auditEvents (fun _ _ => rfl) _ _
  receipts := closeParticipant_withdrawalReceipts
  artifacts := by
    rw [closeParticipant_artifacts]
    exact map_update Artifact.owner fun _ _ => rfl
  dependencies := closeParticipant_dependencies
  tokensDrawn := by
    rw [closeParticipant, foldl_invalidateArtifact_tokens]
    exact Nat.le_add_right _ _

theorem withdrawOperation_logged {participantId pseudonym : String}
    (hop : withdrawOperation rt clock sessionId participantId pseudonym db = .ok (db', response)) :
    Logged rt registers db db' := by
  simp only [withdrawOperation, bind_ok_iff, orError_eq_ok, require_eq_ok] at hop
  obtain ⟨session, -, _, -, hop⟩ := hop
  cases hreceipt : db.withdrawalReceipt? participantId with
  | some receipt =>
    simp only [hreceipt, pure_eq_ok, Prod.mk.injEq] at hop
    obtain ⟨rfl, -⟩ := hop
    exact .refl
  | none =>
    simp only [hreceipt, Database.token, bind_ok_iff, require_eq_ok, insert_eq_ok, pure_eq_ok, Prod.mk.injEq] at hop
    obtain ⟨_, -, ⟨mid, published⟩, hevent, audits, ⟨-, rfl⟩, receipts, ⟨-, rfl⟩, rfl, -⟩ := hop
    have hmid : Logged rt registers db mid :=
      logged_event hevent (closeParticipant_same rt clock sessionId participantId db)
    have hdrawn : SameLog mid { mid with tokensDrawn := mid.tokensDrawn + 2 } :=
      { SameLog.refl mid with tokensDrawn := Nat.le_add_right _ 2 }
    refine ((hmid.tail (.same hdrawn)).tail (.audit _ ?_)).tail (.receipt _ (mid.tokensDrawn + 1) ?_ rfl)
    · exact sparesAudits_drawn (Nat.lt_add_of_pos_right (by omega))
    · exact Nat.lt_succ_self _

theorem MutateCall.run_logged {call : MutateCall} (hrun : call.run rt clock db = .ok (db', response)) :
    Logged rt registers db db' := by
  cases call with
  | createStudy studyCode idempotencyKey =>
    simp only [MutateCall.run, M1Backend.createStudy, bind_ok_iff] at hrun
    obtain ⟨key, -, hmutate⟩ := hrun
    exact mutate_logged createStudyOperation_logged hmutate
  | createParticipant studyId idempotencyKey =>
    simp only [MutateCall.run, M1Backend.createParticipant, bind_ok_iff] at hrun
    obtain ⟨key, -, hmutate⟩ := hrun
    exact mutate_logged createParticipantOperation_logged hmutate
  | createResearchSession request idempotencyKey =>
    simp only [MutateCall.run, M1Backend.createResearchSession, bind_ok_iff] at hrun
    obtain ⟨_, -, key, -, hmutate⟩ := hrun
    exact mutate_logged createResearchSessionOperation_logged hmutate
  | confirmOperatorConsent sessionId receiptId version idempotencyKey =>
    simp only [MutateCall.run, M1Backend.confirmOperatorConsent, bind_ok_iff] at hrun
    obtain ⟨_, -, key, -, hmutate⟩ := hrun
    exact mutate_logged confirmOperatorConsentOperation_logged hmutate
  | withdraw sessionId idempotencyKey =>
    simp only [MutateCall.run, M1Backend.withdraw, bind_ok_iff] at hrun
    obtain ⟨record, -, session, -, participantId, -, key, -, hmutate⟩ := hrun
    exact mutate_logged withdrawOperation_logged hmutate
  | recordAnswer sessionId idempotencyKey request =>
    simp only [MutateCall.run, M1Backend.recordAnswer, bind_ok_iff] at hrun
    obtain ⟨key, -, hmutate⟩ := hrun
    exact mutate_logged recordAnswerOperation_logged hmutate
  | submitExam sessionId idempotencyKey =>
    simp only [MutateCall.run, M1Backend.submitExam, bind_ok_iff] at hrun
    obtain ⟨key, -, hmutate⟩ := hrun
    exact mutate_logged submitExamOperation_logged hmutate

theorem applySessionAction_logged {action : String} {snapshot : Option Services.SessionSnapshot}
    (hrun : applySessionAction clock db sessionId action = .ok (db', snapshot)) : Logged rt registers db db' := by
  unfold applySessionAction at hrun
  cases hrow : db.session? sessionId with
  | none =>
    simp only [hrow, Except.ok.injEq, Prod.mk.injEq] at hrun
    obtain ⟨rfl, -⟩ := hrun
    exact .refl
  | some row =>
    simp only [hrow, bind_ok_iff, require_eq_ok, pure_eq_ok, Prod.mk.injEq] at hrun
    obtain ⟨_, -, nextState, -, mid, hmove, persisted, -, rfl, -⟩ := hrun
    unfold moveSession at hmove
    split at hmove
    · cases hmove
      exact .refl
    · simp only [bind_ok_iff, pure_eq_ok] at hmove
      obtain ⟨_, -, ⟨moved, published⟩, hevent, rfl⟩ := hmove
      exact logged_event hevent { SameLog.refl db with counters := by apply counter_update; intro s; rfl }

theorem recoverIntent_logged {row : WriteIntent} (hrun : recoverIntent db row = .ok db') :
    Logged rt registers db db' := by
  simp only [recoverIntent, bind_ok_iff, orError_eq_ok, pure_eq_ok] at hrun
  obtain ⟨session, -, rfl⟩ := hrun
  exact SameLog.logged { SameLog.refl db with counters := by apply counter_update; intro s; rfl }

theorem M1Action.run_logged {action : M1Action} (hrun : action.run rt clock db = .ok db') :
    Logged rt action.registers db db' := by
  cases action with
  | mutate call =>
    obtain ⟨response, hrun⟩ := map_fst_ok hrun
    exact call.run_logged hrun
  | createSession =>
    obtain ⟨ids, hrun⟩ := map_fst_ok hrun
    simp only [M1Backend.createSession, Database.token, bind_ok_iff, insert_eq_ok, pure_eq_ok, Prod.mk.injEq] at hrun
    obtain ⟨sessions, ⟨hfree, rfl⟩, rfl, -⟩ := hrun
    refine .tail (.single (.session _ hfree rfl)) (.same { SameLog.refl _ with tokensDrawn := ?_ })
    exact Nat.le_add_right _ 2
  | applySessionAction sessionId action =>
    obtain ⟨snapshot, hrun⟩ := map_fst_ok hrun
    exact applySessionAction_logged hrun
  | appendEvent sessionId eventType payload =>
    obtain ⟨published, hrun⟩ := map_fst_ok hrun
    exact .single (.event hrun)
  | registerArtifact artifactId sessionId parents =>
    simp only [M1Action.run, M1Backend.registerArtifact, bind_ok_iff, pure_eq_ok] at hrun
    obtain ⟨_, -, _, -, registry, -, dependencies, -, rfl⟩ := hrun
    exact .single (.artifacts registry dependencies rfl)
  | addDependency parent child =>
    simp only [M1Action.run, M1Backend.addDependency, bind_ok_iff, pure_eq_ok] at hrun
    obtain ⟨_, -, artifact, -, dependencies, -, rfl⟩ := hrun
    exact .single (.artifacts db.artifactRegistry dependencies rfl)
  | createWriteIntent sessionId partialFile =>
    simp only [M1Action.run, M1Backend.createWriteIntent, Database.token, bind_ok_iff, pure_eq_ok] at hrun
    obtain ⟨_, -, path, -, intents, -, rfl⟩ := hrun
    exact SameLog.logged { SameLog.refl db with tokensDrawn := Nat.le_succ _ }
  | recoverIntent intentId =>
    simp only [M1Action.run] at hrun
    split at hrun
    · cases hrun
      exact .refl
    · exact recoverIntent_logged hrun
  | openStore encryptionStatus aclStatus =>
    cases hrun
    exact SameLog.logged { SameLog.refl db with }
  | recordReviewerAudit eventKind =>
    simp only [M1Action.run, M1Backend.recordReviewerAudit, Database.token, bind_ok_iff, insert_eq_ok, pure_eq_ok] at hrun
    obtain ⟨audits, ⟨-, rfl⟩, rfl⟩ := hrun
    have hdrawn : SameLog db { db with tokensDrawn := db.tokensDrawn + 1 } :=
      { SameLog.refl db with tokensDrawn := Nat.le_succ _ }
    refine hdrawn.logged.tail (.audit _ (sparesAudits_of_head fun hhead => ?_))
    rw [String.toList_append] at hhead
    have hletter : some 'r' = some 'a' := hhead
    cases hletter

end Operations

/-! ## Drawn ids -/

structure DrawnIds (rt : Runtime) (db : Database) : Prop where
  audits : ∀ e ∈ db.auditEvents, SparesAudits rt db e.id
  receipts : ∀ r ∈ db.withdrawalReceipts, ∃ draw < db.tokensDrawn, r.id = receiptId rt draw

namespace DrawnIds

theorem empty (rt : Runtime) : DrawnIds rt {} := ⟨fun _ h => (nomatch h), fun _ h => (nomatch h)⟩

theorem same (h : DrawnIds rt db) (haudits : db'.auditEvents = db.auditEvents)
    (hreceipts : db'.withdrawalReceipts = db.withdrawalReceipts) (htokens : db.tokensDrawn ≤ db'.tokensDrawn) :
    DrawnIds rt db' := by
  refine ⟨fun e he draw hdraw => ?_, fun r hr => ?_⟩
  · rw [haudits] at he
    exact h.audits e he draw (htokens.trans hdraw)
  · rw [hreceipts] at hr
    obtain ⟨draw, hdraw, hid⟩ := h.receipts r hr
    exact ⟨draw, hdraw.trans_le htokens, hid⟩

theorem writes {registers : Bool} (h : DrawnIds rt db) (hwrites : Writes rt registers db db') : DrawnIds rt db' := by
  cases hwrites with
  | same hsame => exact h.same hsame.audits hsame.receipts hsame.tokensDrawn
  | event hevent =>
    simp only [M1Backend.event, bind_ok_iff, pure_eq_ok, Prod.mk.injEq] at hevent
    obtain ⟨row, -, rows, -, rfl, -⟩ := hevent
    exact h.same rfl rfl (Nat.le_refl _)
  | session s hfree hseq => exact h.same rfl rfl (Nat.le_refl _)
  | audit e hid =>
    refine ⟨fun old hold => ?_, h.receipts⟩
    rcases List.mem_append.mp hold with hold | hnew
    · exact h.audits old hold
    · rw [List.mem_singleton.mp hnew]
      exact hid
  | receipt r draw hdraw hid =>
    refine ⟨h.audits, fun old hold => ?_⟩
    rcases List.mem_append.mp hold with hold | hnew
    · exact h.receipts old hold
    · rw [List.mem_singleton.mp hnew]
      exact ⟨draw, hdraw, hid⟩
  | artifacts registry dependencies hregisters => exact h.same rfl rfl (Nat.le_refl _)

theorem logged {registers : Bool} (h : DrawnIds rt db) (hlogged : Logged rt registers db db') : DrawnIds rt db' := by
  induction hlogged with
  | refl => exact h
  | tail _ hwrites ih => exact ih.writes hwrites

end DrawnIds

theorem Logged.artifacts (h : Logged rt false db db') :
    db'.artifactRegistry.map Artifact.owner = db.artifactRegistry.map Artifact.owner ∧
      db'.artifactDependencies = db.artifactDependencies := by
  induction h with
  | refl => exact ⟨rfl, rfl⟩
  | tail _ hwrites ih =>
    cases hwrites with
    | same hsame => exact ⟨hsame.artifacts.trans ih.1, hsame.dependencies.trans ih.2⟩
    | event hevent =>
      simp only [M1Backend.event, bind_ok_iff, pure_eq_ok, Prod.mk.injEq] at hevent
      obtain ⟨row, -, rows, -, rfl, -⟩ := hevent
      exact ih
    | session s hfree hseq => exact ih
    | audit e hid => exact ih
    | receipt r draw hdraw hid => exact ih
    | artifacts registry dependencies hregisters => cases hregisters

theorem Gapless.action (h : Gapless db) {action : M1Action} (hrun : action.run rt clock db = .ok db') : Gapless db' :=
  h.logged (action.run_logged hrun)

end PduExamObserver.M1
