import PduExamObserver.M1.Wellformed

/-! # Consent receipts

`consent_receipts` has two unique keys: the session, which the upsert is meant for, and the receipt id,
which the client chooses. `INSERT OR REPLACE` removes every row that clashes on either. -/

namespace PduExamObserver.M1
open Table Transition M1Backend
set_option autoImplicit false

def ConsentOnFile (db : Database) : Prop :=
  ∀ s ∈ db.sessions, s.sessionKind = .research → s.state = .consentConfirmed →
    ∃ r ∈ db.consentReceipts, r.sessionId = s.id

def ownReceipt : ConsentPolicy := fun db sessionId receiptId =>
  ∀ r ∈ db.consentReceipts, r.id = receiptId → r.sessionId = sessionId

variable {rt : Runtime} {db mid db' : Database} {sessionId receiptId version : String}

theorem upsert_keeps_iff :
    (∀ r ∈ db.consentReceipts, r.sessionId ≠ sessionId →
      r ∈ insertOrReplace ConsentReceipt.Clash db.consentReceipts
        { id := receiptId, sessionId, consentVersion := version }) ↔ ownReceipt db sessionId receiptId := by
  constructor
  · intro hkeep r hr hid
    by_contra hne
    rcases mem_insertOrReplace.mp (hkeep r hr hne) with ⟨-, hfree⟩ | rfl
    · exact hfree (.inl hid)
    · exact hne rfl
  · intro hown r hr hne
    refine mem_insertOrReplace.mpr (.inl ⟨hr, ?_⟩)
    rintro (hid | hsession)
    · exact hne (hown r hr hid)
    · exact hne hsession

theorem ConsentOnFile.quiet (hc : ConsentOnFile mid) (h : Quiet mid db') : ConsentOnFile db' := by
  intro s' hs' hkind hstate
  obtain ⟨s, hs, hv⟩ := h.session_back hs'
  have hid : s.id = s'.id := congrArg SessionView.id hv
  have hkind' : s.sessionKind = s'.sessionKind := congrArg SessionView.sessionKind hv
  have hstate' : s.state = s'.state := congrArg SessionView.state hv
  rw [h.consentReceipts, ← hid]
  exact hc s hs (by rw [hkind', hkind]) (by rw [hstate', hstate])

theorem ConsentOnFile.update (hc : ConsentOnFile db) {p : Session → Prop} [DecidablePred p]
    {f : Session → Session}
    (hf : ∀ s ∈ db.sessions, p s → (f s).sessionKind = .research → (f s).state ≠ .consentConfirmed) :
    ∀ s ∈ update p f db.sessions, s.sessionKind = .research → s.state = .consentConfirmed →
      ∃ r ∈ db.consentReceipts, r.sessionId = s.id := by
  intro s' hs' hkind hstate
  obtain ⟨s, hs, rfl⟩ := mem_update.mp hs'
  split at hkind
  · next hp =>
    rw [if_pos hp] at hstate
    exact absurd hstate (hf s hs hp hkind)
  · next hp =>
    rw [if_neg hp] at hstate ⊢
    exact hc s hs hkind hstate

theorem ConsentOnFile.change (hw : Wellformed db) (hc : ConsentOnFile db)
    (h : Change rt ownReceipt db mid) : ConsentOnFile mid := by
  cases h with
  | nothing => exact hc
  | participant p hfree hopen => exact hc
  | demoSession s hfree hstate hkind howner =>
    intro q hq hqkind hqstate
    rcases List.mem_append.mp hq with hq | hq
    · exact hc q hq hqkind hqstate
    · rw [List.mem_singleton.mp hq, hstate] at hqstate
      cases hqstate
  | researchSession s p hfree hstate hkind howner hp hopen =>
    intro q hq hqkind hqstate
    rcases List.mem_append.mp hq with hq | hq
    · exact hc q hq hqkind hqstate
    · rw [List.mem_singleton.mp hq, hstate] at hqstate
      cases hqstate
  | lifecycle row hrow hkind nextState startedAt =>
    refine hc.update fun s hs hp hres => ?_
    -- the updated row is the demo session that was looked up
    have hsame := hw.session_of_mem hs
    rw [hp.1, hrow] at hsame
    cases hsame
    exact absurd hres hkind
  | consent sessionId receiptId version hmutable hallowed =>
    intro s' hs' hkind hstate
    obtain ⟨s, hs, rfl⟩ := mem_update.mp hs'
    by_cases hid : s.id = sessionId
    · refine ⟨_, mem_insertOrReplace.mpr (.inr rfl), ?_⟩
      split <;> exact hid.symm
    · rw [if_neg fun hp => hid hp.1] at hkind hstate ⊢
      obtain ⟨r, hr, hrs⟩ := hc s hs hkind hstate
      exact ⟨r, upsert_keeps_iff.mpr hallowed r hr (by rw [hrs]; exact hid), hrs⟩
  | artifact artifactId sessionId parents hmutable hparents hfree => exact hc
  | dependency parent child hparent hchild => exact hc
  | writeIntent i hmutable => exact hc
  | recover row hrow session hsession recoveredState hrecovered =>
    refine hc.update fun s hs hp _ hconfirmed => ?_
    simp only at hconfirmed
    rw [hrecovered] at hconfirmed
    split at hconfirmed <;> cases hconfirmed
  | withdraw clock session participantId receipt =>
    change ∀ s ∈ (closeParticipant _ _ _ _ _).sessions, _ → _ →
      ∃ r ∈ (closeParticipant _ _ _ _ _).consentReceipts, _
    rw [closeParticipant_sessions, closeParticipant_consentReceipts]
    exact hc.update fun s hs hp _ hconfirmed => (by cases hconfirmed)

theorem confirmOperatorConsent_receipts {clock : Clock} {idempotencyKey : Option String} {response : Dict}
    (h : (MutateCall.confirmOperatorConsent sessionId receiptId version idempotencyKey).run rt clock db =
      .ok (db', response))
    (hfresh : db.idempotencyRecord? (consentScope sessionId) (consentKey sessionId idempotencyKey) = none) :
    db'.consentReceipts = insertOrReplace ConsentReceipt.Clash db.consentReceipts
      { id := receiptId, sessionId, consentVersion := version } := by
  simp only [MutateCall.run, confirmOperatorConsent, bind_ok_iff] at h
  obtain ⟨_, -, key, hkey, h⟩ := h
  rw [key_eq hkey] at h
  unfold consentScope consentKey at hfresh
  simp only [mutate, hfresh, confirmOperatorConsentOperation, bind_ok_iff, insert_eq_ok, pure_eq_ok, Prod.mk.injEq] at h
  obtain ⟨_, ⟨_, -, ⟨mid, published⟩, hevent, rfl, -⟩, records, -, rfl, -⟩ := h
  exact (event_quiet hevent).consentReceipts

theorem confirmOperatorConsent_replay {clock : Clock} {idempotencyKey : Option String} {response : Dict}
    {row : IdempotencyRecord}
    (h : (MutateCall.confirmOperatorConsent sessionId receiptId version idempotencyKey).run rt clock db =
      .ok (db', response))
    (hrow : db.idempotencyRecord? (consentScope sessionId) (consentKey sessionId idempotencyKey) = some row) :
    db' = db := by
  simp only [MutateCall.run, confirmOperatorConsent, bind_ok_iff] at h
  obtain ⟨_, -, key, hkey, h⟩ := h
  rw [key_eq hkey] at h
  unfold consentScope consentKey at hrow
  simp only [mutate, hrow] at h
  split at h
  · cases h
  · cases h
    rfl

/-- As long as no confirmation reuses the receipt id of another session, every confirmed research session
has its receipt. A confirmation keeps the receipts of all other sessions exactly when it replays an
earlier one or its receipt id is not another session's. -/
theorem consent_receipt_kept (rt : Runtime) :
    (∀ db, ReachableBy (system rt) (Confirms ownReceipt) db → ConsentOnFile db) ∧
    ∀ db db' clock sessionId receiptId version idempotencyKey response,
      (MutateCall.confirmOperatorConsent sessionId receiptId version idempotencyKey).run rt clock db =
        .ok (db', response) →
      ((∀ r ∈ db.consentReceipts, r.sessionId ≠ sessionId → r ∈ db'.consentReceipts) ↔
        (db.idempotencyRecord? (consentScope sessionId) (consentKey sessionId idempotencyKey) = none →
          ownReceipt db sessionId receiptId)) := by
  constructor
  · intro db h
    have hboth : Wellformed db ∧ ConsentOnFile db :=
      reachableBy_invariant (I := fun db => Wellformed db ∧ ConsentOnFile db)
        ⟨wellformed_empty, fun _ hs => by cases hs⟩
        (fun _ _ hi hc => ⟨hi.1.change hc, hi.2.change hi.1 hc⟩)
        (fun _ _ hi hq => ⟨hi.1.quiet hq, hi.2.quiet hq⟩) h
    exact hboth.2
  · intro db db' clock sessionId receiptId version idempotencyKey response h
    cases hrow : db.idempotencyRecord? (consentScope sessionId) (consentKey sessionId idempotencyKey) with
    | none =>
      rw [confirmOperatorConsent_receipts h hrow, upsert_keeps_iff]
      simp
    | some row =>
      have hsame := confirmOperatorConsent_replay h hrow
      exact ⟨fun _ hnone => (by cases hnone), fun _ r hr _ => by rw [hsame]; exact hr⟩

def ownReceiptsRun : List (Clock × M1Action) :=
  twoSessionsRun ++
    [(noon, .mutate (.confirmOperatorConsent "research-aaa" "R1" "v1" none)),
      (noon, .mutate (.confirmOperatorConsent "research-aaaaa" "R2" "v1" none))]

theorem ownReceiptsRun_confirms : Guarded (step sampleRuntime) (Confirms ownReceipt) {} ownReceiptsRun := by
  refine ⟨trivial, trivial, trivial, trivial, fun _ _ => ?_, fun _ _ => ?_, trivial⟩
  · unfold ownReceipt
    decide +kernel
  · unfold ownReceipt
    decide +kernel

def confirmAgain : MutateCall := .confirmOperatorConsent "research-aaa" "R3" "v1" (some "again")

theorem consent_receipt_kept_two : ConsentOnFile (ownReceiptsRun.foldl (step sampleRuntime) {}) ∧
    ∃ db' response,
      confirmAgain.run sampleRuntime noon (ownReceiptsRun.foldl (step sampleRuntime) {}) =
        .ok (db', response) ∧
      ∀ r ∈ (ownReceiptsRun.foldl (step sampleRuntime) {}).consentReceipts,
        r.sessionId ≠ "research-aaa" → r ∈ db'.consentReceipts := by
  have hrun : ReachableBy (system sampleRuntime) (Confirms ownReceipt)
      (ownReceiptsRun.foldl (step sampleRuntime) {}) :=
    reachableBy_foldl _ (.init rfl) ownReceiptsRun_confirms
  obtain ⟨⟨db', response⟩, h⟩ : ∃ r, confirmAgain.run sampleRuntime noon
      (ownReceiptsRun.foldl (step sampleRuntime) {}) = .ok r := ok_of_isOk (by decide +kernel)
  refine ⟨(consent_receipt_kept sampleRuntime).1 _ hrun, db', response, h, ?_⟩
  refine ((consent_receipt_kept sampleRuntime).2 _ _ _ _ _ _ _ _ h).mpr fun _ => ?_
  unfold ownReceipt
  decide +kernel

def sharedReceiptRun : List (Clock × M1Action) :=
  twoSessionsRun ++
    [(noon, .mutate (.confirmOperatorConsent "research-aaa" "R" "v1" none)),
      (noon, .mutate (.confirmOperatorConsent "research-aaaaa" "R" "v1" none))]

theorem consent_receipt_lost :
    Reachable (system sampleRuntime) (sharedReceiptRun.foldl (step sampleRuntime) {}) ∧
      ¬ ConsentOnFile (sharedReceiptRun.foldl (step sampleRuntime) {}) := by
  refine ⟨reachable_foldl _ (.init rfl), ?_⟩
  unfold ConsentOnFile
  decide +kernel

end PduExamObserver.M1
