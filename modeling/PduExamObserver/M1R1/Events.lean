import PduExamObserver.M1R1.Reconciliation
import PduExamObserver.M1R1.StoreEffects

/-! # What a step can do

One constructor for each way in which a step of the reconciliation changes the world, with the checks that have passed. -/

namespace PduExamObserver.M1R1
open M1 Table Transition
set_option autoImplicit false

variable {rt : Runtime} {world : World} {store store' : Store} {desk desk' : Desk}

/-! ## Challenges that close -/

def Challenge.Closing (a b : Challenge) : Prop :=
  b = a ∨ a.status = .issued ∧ (b = { a with status := .expired } ∨ b = { a with status := .revoked })

instance : IsPreorder Challenge Challenge.Closing where
  refl _ := .inl rfl
  trans a b c hab hbc := by
    rcases hab with rfl | ⟨hissued, hb⟩
    · exact hbc
    · have hclosed : b.status ≠ .issued := by
        rcases hb with rfl | rfl
        · exact nofun
        · exact nofun
      rcases hbc with rfl | ⟨hstatus, -⟩
      · exact .inr ⟨hissued, hb⟩
      · exact absurd hstatus hclosed

structure Closing (desk desk' : Desk) : Prop where
  store : desk'.store = { desk.store with challenges := desk'.store.challenges }
  challenges : Grows Challenge.Clash Challenge.Closing (fun _ => False) desk.store.challenges desk'.store.challenges
  deadlines : ∀ deadline ∈ desk'.deadlines, deadline ∈ desk.deadlines

theorem Closing.refl (desk : Desk) : Closing desk desk := ⟨rfl, .refl _, fun _ h => h⟩

theorem setStatus_closing {p : Challenge → Prop} [DecidablePred p] {status : ChallengeStatus}
    {challenges : List Challenge} (hissued : ∀ challenge ∈ challenges, p challenge → challenge.status = .issued)
    (hstatus : status = .expired ∨ status = .revoked) :
    Grows Challenge.Clash Challenge.Closing (fun _ => False) challenges (setStatus p status challenges) := by
  refine Grows.update (fun _ => .inl rfl) fun challenge hmem hp => .inr ⟨hissued challenge hmem hp, ?_⟩
  rcases hstatus with rfl | rfl
  · exact .inl rfl
  · exact .inr rfl

theorem revokeIssued_closing (desk : Desk) (digest : String) : Closing desk (revokeIssued desk digest) := by
  refine ⟨rfl, setStatus_closing (fun _ _ h => h.2) (.inr rfl), fun deadline h => ?_⟩
  exact List.mem_of_mem_filter h

theorem Closing.reviewer (h : Closing desk desk') (reviewer : Option String) :
    Closing desk { desk' with reviewer } := ⟨h.store, h.challenges, h.deadlines⟩

theorem endReviewerSession_closing (desk : Desk) : Closing desk (endReviewerSession desk) := by
  unfold endReviewerSession
  split
  · exact .refl desk
  · exact (revokeIssued_closing desk _).reviewer none

theorem readReviewer_closing (desk : Desk) (digest : String) (alive : Bool) :
    Closing desk (readReviewer desk digest alive).1 := by
  unfold readReviewer
  split
  · exact .refl desk
  · split
    · exact .refl desk
    · exact endReviewerSession_closing desk

variable {digest : String} {now : Seconds} {isCurrent : Bool} {plan : ReconciliationPlan} {e : ReconciliationError}

theorem readReviewer_current {alive : Bool} (h : (readReviewer desk digest alive).2 = true) :
    desk.reviewer = some digest ∧ alive = true ∧ (readReviewer desk digest alive).1 = desk := by
  unfold readReviewer at h ⊢
  split at h
  · cases h
  · next current hcurrent =>
    split at h
    · next halive =>
      obtain rfl : current = digest := by simpa using h
      exact ⟨hcurrent, halive, by rw [if_pos halive]⟩
    · cases h

/-! ## Issuing -/

def issuedChallenge (rt : Runtime) (request : CreateRequest) (plan : ReconciliationPlan) (digest : String)
    (now : Seconds) (action : ChallengeAction) : Challenge where
  id := request.challengeId
  participantId := plan.body.participantId
  withdrawalReceiptId := plan.body.withdrawalReceiptId
  reviewerSessionDigest := digest
  tokenDigest := rt.sha256Text request.challengeToken
  planSha256 := plan.planSha256
  targetStateVersion := plan.body.targetStateVersion
  stepUpAuthenticationId := request.stepUpId
  targetId := request.targetId
  action
  status := .issued
  issuedAt := now
  expiresAt := now + ttl

def issuedResponse (request : CreateRequest) (plan : ReconciliationPlan) (now : Seconds) (action : ChallengeAction) :
    IssuedChallenge where
  challengeId := request.challengeId
  challengeToken := request.challengeToken
  action
  targetId := request.targetId
  planSha256 := plan.planSha256
  targetStateVersion := plan.body.targetStateVersion
  confirmationPhrase := plan.body.confirmationPhrase
  expiresAt := now + ttl

/-- What a call of `create_challenge` that returns has found. -/
structure Issues (rt : Runtime) (desk : Desk) (request : CreateRequest) (plan : ReconciliationPlan) (digest : String)
    (now monotonicNow : Seconds) (action : ChallengeAction) : Prop where
  planned : planForSession rt desk.store request.sessionId = .ok plan
  reviewer : request.reviewerDigest = some digest
  wallClock : request.now = some now
  monotonicClock : request.monotonicNow = some monotonicNow
  requested : request.action = some action
  binding : requireBinding plan.body action request.targetId = .ok ()
  free : ∀ challenge ∈ desk.store.challenges, ¬ Challenge.Clash challenge (issuedChallenge rt request plan digest now action)

def Desk.issue (rt : Runtime) (desk : Desk) (request : CreateRequest) (plan : ReconciliationPlan) (digest : String)
    (now monotonicNow : Seconds) (action : ChallengeAction) (stepUps : List StepUp) : Desk :=
  { desk with
    store := { desk.store with
      stepUps
      challenges := desk.store.challenges ++ [issuedChallenge rt request plan digest now action] }
    deadlines := (request.challengeId, monotonicNow, monotonicNow + ttl) ::
      desk.deadlines.filter fun deadline => deadline.1 ≠ request.challengeId }

theorem sessionDigest_ok {found : Option String} (h : sessionDigest found = .ok digest) :
    found = some digest := by
  simp only [sessionDigest, bind_ok_iff, orError_eq_ok] at h
  obtain ⟨other, hother, -, -, h⟩ := h
  cases h
  exact hother

theorem admitCreate_ok {request : CreateRequest} {monotonicNow : Seconds}
    {action : ChallengeAction} (h : admitCreate request = .ok (digest, now, monotonicNow, action)) :
    request.reviewerDigest = some digest ∧ request.now = some now ∧ request.monotonicNow = some monotonicNow ∧
      request.action = some action := by
  simp only [admitCreate, bind_ok_iff, orError_eq_ok] at h
  obtain ⟨digest', hdigest, now', hnow, monotonicNow', hmonotonic, h⟩ := h
  split at h
  · cases h
  · simp only [bind_ok_iff, orError_eq_ok] at h
    obtain ⟨action', haction, h⟩ := h
    cases h
    exact ⟨sessionDigest_ok hdigest, hnow, hmonotonic, haction⟩

theorem issueChallenge_ok {request : CreateRequest} {monotonicNow : Seconds} {action : ChallengeAction} {issued : IssuedChallenge}
    (h : issueChallenge rt desk request plan digest isCurrent now monotonicNow action = .ok (desk', issued)) :
    isCurrent = true ∧ requireBinding plan.body action request.targetId = .ok () ∧
      (∀ challenge ∈ desk.store.challenges,
        ¬ Challenge.Clash challenge (issuedChallenge rt request plan digest now action)) ∧
      issued = issuedResponse request plan now action ∧
      ∃ stepUps, desk' = desk.issue rt request plan digest now monotonicNow action stepUps := by
  simp only [issueChallenge, bind_ok_iff, require_eq_ok] at h
  obtain ⟨⟨⟩, hcurrent, -, -, -, -, -, -, -, -, -, -, h⟩ := h
  split at h
  · cases h
  · simp only [bind_ok_iff, insert_eq_ok] at h
    obtain ⟨⟨⟩, hbinding, stepUps, -, challenges, ⟨hfree, rfl⟩, h⟩ := h
    cases h
    exact ⟨hcurrent, hbinding, hfree, rfl, stepUps, rfl⟩

theorem createChallenge_ok {request : CreateRequest} {issued : IssuedChallenge}
    (h : createChallenge rt desk request = (desk', .ok issued)) :
    ∃ plan digest now monotonicNow action stepUps, Issues rt desk request plan digest now monotonicNow action ∧
      issued = issuedResponse request plan now action ∧
      desk' = desk.issue rt request plan digest now monotonicNow action stepUps := by
  unfold createChallenge at h
  split at h
  · cases h
  · next digest now monotonicNow action hadmit =>
    obtain ⟨hdigest, hnow, hmonotonic, haction⟩ := admitCreate_ok hadmit
    split at h
    · cases h
    · next plan hplan =>
      simp only at h
      split at h
      · cases h
      · next other issued' hissue =>
        cases h
        obtain ⟨hcurrent, hbinding, hfree, hid, stepUps, heq⟩ := issueChallenge_ok hissue
        obtain ⟨-, -, hsame⟩ := readReviewer_current hcurrent
        rw [hsame] at hfree heq
        exact ⟨plan, digest, now, monotonicNow, action, stepUps,
          ⟨hplan, hdigest, hnow, hmonotonic, haction, hbinding, hfree⟩, hid, heq⟩

theorem createChallenge_error {request : CreateRequest}
    (h : createChallenge rt desk request = (desk', .error e)) : Closing desk desk' := by
  unfold createChallenge at h
  split at h
  · cases h
    exact .refl desk
  · split at h
    · cases h
      exact .refl desk
    · simp only at h
      split at h
      · cases h
        exact readReviewer_closing desk _ _
      · cases h

/-! ## Consuming -/

/-- What a call of `consume_challenge` or `attest_external_deletion` that returns has found. -/
structure Consumes (rt : Runtime) (desk : Desk) (request : ConsumeRequest) (plan : ReconciliationPlan) (digest : String)
    (challenge : Challenge) (now monotonicNow : Seconds) : Prop where
  planned : planForSession rt desk.store request.sessionId = .ok plan
  session : request.reviewerDigest = some digest
  reviewer : desk.reviewer = some digest
  alive : request.reviewerAlive = true
  stored : challenge ∈ desk.store.challenges
  token : challenge.tokenDigest = rt.sha256Text request.challengeToken
  issued : challenge.status = .issued
  owner : challenge.reviewerSessionDigest = digest
  wallClock : request.now = some now
  monotonicClock : request.monotonicNow = some monotonicNow
  started : challenge.issuedAt ≤ now
  ends : now < challenge.expiresAt
  deadline : ∃ opens closes, (challenge.id, opens, closes) ∈ desk.deadlines ∧ opens ≤ monotonicNow ∧ monotonicNow < closes
  phrase : request.confirmationPhrase = plan.body.confirmationPhrase
  binds : challenge.binds plan
  procedure : challenge.action = .attestExternalDeletion → request.procedureAuthorityId ≠ none

theorem Desk.mem_deadlines {challengeId : String} {opens closes : Seconds}
    (h : desk.deadline? challengeId = some (opens, closes)) : (challengeId, opens, closes) ∈ desk.deadlines := by
  rw [Desk.deadline?, Option.map_eq_some_iff] at h
  obtain ⟨deadline, hfound, hvalue⟩ := h
  have hid : deadline.1 = challengeId := by simpa using List.find?_some hfound
  have hmem := List.mem_of_find?_eq_some hfound
  obtain ⟨id, other⟩ := deadline
  dsimp only at hid hvalue
  rw [hid, hvalue] at hmem
  exact hmem

theorem verdict_accept {request : ConsumeRequest} {challenge : Challenge} (h : verdict rt desk request plan digest isCurrent challenge = .accept now) :
    isCurrent = true ∧ challenge.status = .issued ∧ challenge.reviewerSessionDigest = digest ∧
      request.now = some now ∧ challenge.issuedAt ≤ now ∧ now < challenge.expiresAt ∧
      (∃ monotonicNow opens closes, request.monotonicNow = some monotonicNow ∧
        (challenge.id, opens, closes) ∈ desk.deadlines ∧ opens ≤ monotonicNow ∧ monotonicNow < closes) ∧
      request.confirmationPhrase = plan.body.confirmationPhrase ∧ challenge.binds plan ∧
      (challenge.action = .attestExternalDeletion → request.procedureAuthorityId ≠ none) := by
  unfold verdict at h
  obtain ⟨-, h⟩ := of_ite_ne h nofun
  obtain ⟨hissued, h⟩ := of_ite_ne h nofun
  obtain ⟨hcurrent, h⟩ := of_ite_ne h nofun
  cases hnow : request.now with
  | none =>
    rw [hnow] at h
    cases h
  | some wall =>
    rw [hnow] at h
    dsimp only at h
    obtain ⟨howner, h⟩ := of_ite_ne h nofun
    cases hdeadline : desk.deadline? challenge.id with
    | none =>
      rw [hdeadline] at h
      cases h
    | some deadline =>
      obtain ⟨opens, closes⟩ := deadline
      rw [hdeadline] at h
      dsimp only at h
      cases hmonotonic : request.monotonicNow with
      | none =>
        rw [hmonotonic] at h
        cases h
      | some monotonicNow =>
        rw [hmonotonic] at h
        dsimp only at h
        obtain ⟨hopens, h⟩ := of_ite_ne h nofun
        obtain ⟨hcloses, h⟩ := of_ite_ne h nofun
        obtain ⟨hstarted, h⟩ := of_ite_ne h nofun
        obtain ⟨hends, h⟩ := of_ite_ne h nofun
        obtain ⟨hphrase, h⟩ := of_ite_ne h nofun
        obtain ⟨hbinds, h⟩ := of_ite_ne h nofun
        obtain ⟨hprocedure, h⟩ := of_ite_ne h nofun
        obtain ⟨-, h⟩ := of_ite_ne h nofun
        cases h
        refine ⟨by simpa using hcurrent, not_not.mp hissued, not_not.mp howner, rfl, not_lt.mp hstarted,
          not_le.mp hends, ⟨monotonicNow, opens, closes, rfl, Desk.mem_deadlines hdeadline, not_lt.mp hopens,
            not_le.mp hcloses⟩, not_not.mp hphrase, not_not.mp hbinds, ?_⟩
        intro haction hnone
        exact hprocedure ⟨haction, hnone⟩

theorem verdict_close {request : ConsumeRequest} {code : String}
    {challenge : Challenge} {status : ChallengeStatus}
    (h : verdict rt desk request plan digest isCurrent challenge = .close status code) :
    challenge.status = .issued ∧ (status = .expired ∨ status = .revoked) := by
  unfold verdict at h
  obtain ⟨-, h⟩ := of_ite_ne h nofun
  obtain ⟨hissued, h⟩ := of_ite_ne h nofun
  refine ⟨not_not.mp hissued, ?_⟩
  rcases ite_eq_iff.mp h with ⟨-, h⟩ | ⟨-, h⟩
  · cases h
    exact .inr rfl
  cases hnow : request.now with
  | none =>
    rw [hnow] at h
    cases h
    exact .inr rfl
  | some wall =>
    rw [hnow] at h
    dsimp only at h
    obtain ⟨-, h⟩ := of_ite_ne h nofun
    cases hdeadline : desk.deadline? challenge.id with
    | none =>
      rw [hdeadline] at h
      cases h
      exact .inl rfl
    | some deadline =>
      rw [hdeadline] at h
      dsimp only at h
      cases hmonotonic : request.monotonicNow with
      | none =>
        rw [hmonotonic] at h
        cases h
        exact .inr rfl
      | some monotonicNow =>
        rw [hmonotonic] at h
        dsimp only at h
        rcases ite_eq_iff.mp h with ⟨-, h⟩ | ⟨-, h⟩
        · cases h
          exact .inr rfl
        rcases ite_eq_iff.mp h with ⟨-, h⟩ | ⟨-, h⟩
        · cases h
          exact .inl rfl
        rcases ite_eq_iff.mp h with ⟨-, h⟩ | ⟨-, h⟩
        · cases h
          exact .inr rfl
        rcases ite_eq_iff.mp h with ⟨-, h⟩ | ⟨-, h⟩
        · cases h
          exact .inl rfl
        obtain ⟨-, h⟩ := of_ite_ne h nofun
        rcases ite_eq_iff.mp h with ⟨-, h⟩ | ⟨-, h⟩
        · cases h
          exact .inr rfl
        obtain ⟨-, h⟩ := of_ite_ne h nofun
        obtain ⟨-, h⟩ := of_ite_ne h nofun
        cases h

theorem consume_ok {request : ConsumeRequest} {result : ConsumedChallenge}
    (h : consume rt desk request = (desk', .ok result)) :
    ∃ plan digest challenge now monotonicNow store,
      Consumes rt desk request plan digest challenge now monotonicNow ∧
      consumeAccepted desk.store request digest challenge now = .ok (store, result) ∧
      desk' = { desk with store }.dropDeadline challenge.id := by
  unfold consume at h
  split at h
  · cases h
  · next digest hdigest =>
    split at h
    · cases h
    · next plan hplan =>
      simp only [consumeTransaction] at h
      split at h
      · cases h
      · next challenge hfound =>
        split at h
        · cases h
        · cases h
        · cases h
        · next now hverdict =>
          split at h
          · cases h
          · next store result' haccepted =>
            cases h
            obtain ⟨hcurrent, hissued, howner, hnow, hstarted, hends, ⟨monotonicNow, opens, closes, hmonotonic,
              hdeadline, hopens, hcloses⟩, hphrase, hbinds, hprocedure⟩ := verdict_accept hverdict
            obtain ⟨hreviewer, halive, hsame⟩ := readReviewer_current hcurrent
            rw [hsame] at hfound hdeadline haccepted ⊢
            refine ⟨plan, digest, challenge, now, monotonicNow, store, ?_, haccepted, rfl⟩
            exact ⟨hplan, sessionDigest_ok hdigest, hreviewer, halive, List.mem_of_find?_eq_some hfound,
              by simpa using List.find?_some hfound, hissued, howner, hnow, hmonotonic, hstarted, hends,
              ⟨opens, closes, hdeadline, hopens, hcloses⟩, hphrase, hbinds, hprocedure⟩

theorem Closing.trans {desk'' : Desk} (h : Closing desk desk') (h' : Closing desk' desk'') : Closing desk desk'' where
  store := by rw [h'.store, h.store]
  challenges := h.challenges.trans h'.challenges
  deadlines deadline hmem := h.deadlines deadline (h'.deadlines deadline hmem)

theorem consume_error {request : ConsumeRequest}
    (hkeyed : Keyed Challenge.id desk.store.challenges) (h : consume rt desk request = (desk', .error e)) :
    Closing desk desk' := by
  unfold consume at h
  split at h
  · cases h
    exact .refl desk
  · next digest hdigest =>
    split at h
    · cases h
      exact .refl desk
    · have hread := readReviewer_closing desk digest request.reviewerAlive
      simp only [consumeTransaction] at h
      split at h
      · cases h
        exact hread
      · next challenge hfound =>
        split at h
        · cases h
          exact hread
        · next status code hverdict =>
          cases h
          obtain ⟨hissued, hstatus⟩ := verdict_close hverdict
          have hkeyed' : Keyed Challenge.id (readReviewer desk digest request.reviewerAlive).1.store.challenges := by
            refine hread.challenges.keyed (fun _ _ => .inl) ?_ hkeyed
            rintro a b (rfl | ⟨-, rfl | rfl⟩)
            · rfl
            · rfl
            · rfl
          refine hread.trans ⟨rfl, setStatus_closing (fun other hother hid => ?_) hstatus,
            fun deadline hmem => List.mem_of_mem_filter hmem⟩
          rw [hkeyed'.eq hother (List.mem_of_find?_eq_some hfound) hid]
          exact hissued
        · cases h
          exact hread
        · split at h
          · cases h
            exact hread
          · cases h

/-! ## Events -/

inductive Event (rt : Runtime) (world : World) : Action → World → Prop
  | store {action : Action} {store : Store} (h : StoreEffect rt world.store store) :
      Event rt world action (world.withStore store)
  | procedure {action : Action} {store : Store} (authorityId authorityReference digest : String) (permits : Bool)
      (now : Seconds)
      (h : importProcedureAuthority world.store authorityId authorityReference digest permits now = .ok store) :
      Event rt world action (world.withStore store)
  | closing {action : Action} {desk : Desk} (h : Closing world.toDesk desk) : Event rt world action (world.withDesk desk)
  | issue {action : Action} (request : CreateRequest) (plan : ReconciliationPlan) (digest : String)
      (now monotonicNow : Seconds) (challengeAction : ChallengeAction) (stepUps : List StepUp) (issued : IssuedChallenge)
      (hidle : world.progress = none) (h : Issues rt world.toDesk request plan digest now monotonicNow challengeAction)
      (hissued : issued = issuedResponse request plan now challengeAction) :
      Event rt world action
        { world.withDesk (world.toDesk.issue rt request plan digest now monotonicNow challengeAction stepUps) with
          issuances := world.issuances ++ [{ request, plan, issued }] }
  | consume {action : Action} {store : Store} (request : ConsumeRequest) (plan : ReconciliationPlan) (digest : String)
      (challenge : Challenge) (now monotonicNow : Seconds) (result : ConsumedChallenge) (hidle : world.progress = none)
      (h : Consumes rt world.toDesk request plan digest challenge now monotonicNow)
      (haccepted : consumeAccepted world.store request digest challenge now = .ok (store, result)) :
      Event rt world action
        { world.withDesk ({ world.toDesk with store }.dropDeadline challenge.id) with
          consumptions := world.consumptions ++ [{ request, reviewer := world.reviewer, plan, result }] }
  | started {action : Action} {store : Store} {progress : Progress} (consumed : ConsumedChallenge)
      (authority : Option (ExecutionAuthorityBinding → Bool)) (runId : String) (hidle : world.progress = none)
      (hconsumed : consumed ∈ world.consumptions.map Consumption.result)
      (h : startRun rt world.store consumed authority runId = .ok (.started store progress)) :
      Event rt world action { world.withStore store with progress := some progress }
  | begun {store : Store} {progress progress' : Progress} {targetId : String} {rest : List String} (attemptId : String)
      (hactive : world.progress = some progress) (hcurrent : progress.current = none)
      (hremaining : progress.remaining = targetId :: rest)
      (h : beginTarget world.store progress targetId attemptId = .ok (store, progress')) :
      Event rt world (.beginTarget attemptId) { world.withStore store with progress := some progress' }
  | verified {progress : Progress} {current : CurrentTarget} {target : LocalDeletionTarget} (observed : PredeleteSnapshot)
      (hactive : world.progress = some progress) (hcurrent : progress.current = some current)
      (hphase : current.phase = .pending) (htarget : deletionTarget world.store current.targetId = some target)
      (h : verifyTarget target observed = .ok ()) :
      Event rt world (.verified observed)
        { world.withStore (recordVerified world.store current.attemptId observed) with
          progress := some { progress with current := some { current with phase := .verified } } }
  | disposed {progress : Progress} {current : CurrentTarget} {target : LocalDeletionTarget}
      (hactive : world.progress = some progress) (hcurrent : progress.current = some current)
      (hphase : current.phase = .verified) (htarget : deletionTarget world.store current.targetId = some target) :
      Event rt world .dispose
        { world.withStore { world.store with files := disposeFile world.store.files target.relativePath } with
          progress := some { progress with current := some { current with phase := .disposed } } }
  | absent {progress : Progress} {current : CurrentTarget} (hactive : world.progress = some progress)
      (hcurrent : progress.current = some current) (hphase : current.phase = .disposed) :
      Event rt world .absenceVerified
        { world.withStore (recordAbsence world.store current.targetId current.attemptId) with
          progress := some { progress with current := none } }
  | blocked {progress : Progress} {current : CurrentTarget} (code : String) (dispositionMayHaveOccurred : Bool)
      (hactive : world.progress = some progress) (hcurrent : progress.current = some current) :
      Event rt world (.deletionBlocked code dispositionMayHaveOccurred)
        { world.withStore (recordBlocked world.store progress.runId current.targetId current.attemptId code
            dispositionMayHaveOccurred) with progress := none }
  | completed {progress : Progress} (hactive : world.progress = some progress) (hcurrent : progress.current = none)
      (hremaining : progress.remaining = []) :
      Event rt world .completeRun { world.withStore (completeRun world.store progress.runId) with progress := none }
  | abandoned {action : Action} {progress : Progress} (hactive : world.progress = some progress)
      (haction : action = .raised ∨ ∃ attemptId targetId rest e, action = .beginTarget attemptId ∧
        progress.remaining = targetId :: rest ∧ beginTarget world.store progress targetId attemptId = .error e) :
      Event rt world action { world with progress := none }
  | recovered (hidle : world.progress = none) : Event rt world .recover (world.withStore (recoverRuns world.store))
  | restarted : Event rt world .restart world.restart
  | finalized {action : Action} {store : Store} {body : ReceiptBody} (sessionId : String) (now : Seconds)
      (hidle : world.progress = none) (h : finalize rt world.store sessionId now = .ok (store, body)) :
      Event rt world action (world.withStore store)

namespace Event

variable {action : Action}

theorem unchanged (hok : LedgerOk rt.toRuntime world.store.ledger) : Event rt world action world :=
  .store (StoreEffect.refl hok)

theorem ofStoreAction {storeAction : StoreAction} (hok : LedgerOk rt.toRuntime world.store.ledger) :
    Event rt world action (world.apply (storeAction.run rt world.store)) := by
  cases h : storeAction.run rt world.store with
  | error e => exact unchanged hok
  | ok store => exact .store (StoreAction.run_effect hok h)

theorem ofImport {authorityId authorityReference : String} {permits : Bool}
    (hok : LedgerOk rt.toRuntime world.store.ledger) :
    Event rt world action
      (world.apply (importProcedureAuthority world.store authorityId authorityReference digest permits now)) := by
  cases h : importProcedureAuthority world.store authorityId authorityReference digest permits now with
  | error e => exact unchanged hok
  | ok store => exact .procedure _ _ _ _ _ h

theorem ofCreate {request : CreateRequest} (hidle : world.progress = none) :
    Event rt world action (world.create rt request) := by
  unfold World.create
  cases hcreate : createChallenge rt world.toDesk request with
  | mk desk outcome =>
    cases outcome with
    | error e => exact .closing (createChallenge_error hcreate)
    | ok issued =>
      obtain ⟨plan, digest, now, monotonicNow, challengeAction, stepUps, hissues, hid, rfl⟩ := createChallenge_ok hcreate
      rw [hissues.planned]
      exact .issue request plan digest now monotonicNow challengeAction stepUps issued hidle hissues hid

theorem ofConsume {request : ConsumeRequest} (hkeyed : Keyed Challenge.id world.store.challenges)
    (hidle : world.progress = none) : Event rt world action (world.consume rt request) := by
  unfold World.consume
  cases hconsume : M1R1.consume rt world.toDesk request with
  | mk desk outcome =>
    cases outcome with
    | error e => exact .closing (consume_error hkeyed hconsume)
    | ok result =>
      obtain ⟨plan, digest, challenge, now, monotonicNow, store, hconsumes, haccepted, rfl⟩ := consume_ok hconsume
      rw [hconsumes.planned]
      exact .consume request plan digest challenge now monotonicNow result hidle hconsumes haccepted

theorem ofStart {consumed : ConsumedChallenge} {authority : Option (ExecutionAuthorityBinding → Bool)} {runId : String}
    (hok : LedgerOk rt.toRuntime world.store.ledger) (hidle : world.progress = none) :
    Event rt world action (world.idleStep rt (.startRun consumed authority runId)) := by
  simp only [World.idleStep]
  split
  · next hconsumed =>
    split
    · next store progress hstart => exact .started consumed authority runId hidle hconsumed hstart
    · exact unchanged hok
    · exact unchanged hok
  · exact unchanged hok

theorem ofIdle (hok : LedgerOk rt.toRuntime world.store.ledger) (hkeyed : Keyed Challenge.id world.store.challenges)
    (hidle : world.progress = none) : Event rt world action (world.idleStep rt action) := by
  cases action with
  | store storeAction => exact ofStoreAction hok
  | importProcedureAuthority => exact ofImport hok
  | revokeReviewer =>
    simp only [World.idleStep]
    split
    · exact .closing (revokeIssued_closing _ _)
    · exact unchanged hok
  | clearReviewer => exact .closing ((Closing.refl world.toDesk).reviewer none)
  | login digest => exact .closing ((Closing.refl world.toDesk).reviewer (some digest))
  | createChallenge request => exact ofCreate hidle
  | consume request => exact ofConsume hkeyed hidle
  | startRun consumed authority runId => exact ofStart hok hidle
  | recover => exact .recovered hidle
  | finalize sessionId now =>
    simp only [World.idleStep]
    split
    · next store body hfinalize => exact .finalized sessionId now hidle hfinalize
    · exact unchanged hok
  | beginTarget | verified | dispose | absenceVerified | deletionBlocked | raised | completeRun | restart =>
    exact unchanged hok

theorem ofBeside (hok : LedgerOk rt.toRuntime world.store.ledger) : Event rt world action (world.besideStep rt action) := by
  cases action with
  | store storeAction =>
    simp only [World.besideStep]
    split
    · exact unchanged hok
    · exact ofStoreAction hok
  | importProcedureAuthority => exact ofImport hok
  | clearReviewer => exact .closing ((Closing.refl world.toDesk).reviewer none)
  | login digest => exact .closing ((Closing.refl world.toDesk).reviewer (some digest))
  | revokeReviewer | createChallenge | consume | startRun | beginTarget | verified | dispose | absenceVerified
  | deletionBlocked | raised | completeRun | recover | restart | finalize => exact unchanged hok

theorem ofRun {progress : Progress} (hok : LedgerOk rt.toRuntime world.store.ledger)
    (hactive : world.progress = some progress) : Event rt world action (world.runStep progress action) := by
  cases action with
  | beginTarget attemptId =>
    simp only [World.runStep]
    split
    · next targetId rest hcurrent hremaining =>
      split
      · next store progress' hbegin => exact .begun attemptId hactive hcurrent hremaining hbegin
      · next e hbegin => exact .abandoned hactive (.inr ⟨attemptId, targetId, rest, e, rfl, hremaining, hbegin⟩)
    · exact unchanged hok
  | verified observed =>
    simp only [World.runStep]
    split
    · next current hcurrent =>
      split
      · next hcheck =>
        obtain ⟨hphase, hany⟩ := hcheck
        obtain ⟨target, htarget, hverified⟩ := Option.any_eq_true _ _ |>.mp hany
        refine .verified observed hactive hcurrent hphase htarget ?_
        cases hverify : verifyTarget target observed with
        | error e =>
          rw [hverify] at hverified
          cases hverified
        | ok u => rfl
      · exact unchanged hok
    · exact unchanged hok
  | dispose =>
    simp only [World.runStep]
    split
    · next current hcurrent =>
      split
      · next hphase =>
        split
        · next target htarget => exact .disposed hactive hcurrent hphase htarget
        · exact unchanged hok
      · exact unchanged hok
    · exact unchanged hok
  | absenceVerified =>
    simp only [World.runStep]
    split
    · next current hcurrent =>
      split
      · next hphase => exact .absent hactive hcurrent hphase
      · exact unchanged hok
    · exact unchanged hok
  | deletionBlocked code dispositionMayHaveOccurred =>
    simp only [World.runStep]
    split
    · next current hcurrent => exact .blocked code dispositionMayHaveOccurred hactive hcurrent
    · exact unchanged hok
  | raised => exact .abandoned hactive (.inl rfl)
  | completeRun =>
    simp only [World.runStep]
    split
    · next hdone => exact .completed hactive hdone.1 hdone.2
    · exact unchanged hok
  | store | importProcedureAuthority | revokeReviewer | clearReviewer | login | createChallenge | consume | startRun
  | recover | restart | finalize => exact unchanged hok

end Event

theorem step_event (hok : LedgerOk rt.toRuntime world.store.ledger)
    (hkeyed : Keyed Challenge.id world.store.challenges) (action : Action) :
    Event rt world action (world.step rt action) := by
  unfold World.step
  split
  · exact .restarted
  · split
    · next hidle => exact Event.ofIdle hok hkeyed hidle
    · next progress hactive =>
      split
      · exact Event.ofRun hok hactive
      · exact Event.ofBeside hok

end PduExamObserver.M1R1
