import PduExamObserver.M1R1.RunSteps

/-! # A challenge is consumed as it was issued

Every stored challenge goes back to one call of `create_challenge`, every execution to one consumption, and a
consumption has found its challenge as the call that issued it has left it. -/

namespace PduExamObserver.M1R1
open M1 Table Transition
set_option autoImplicit false

variable {rt : Runtime} {world world' : World} {store store' : Store} {action : Action} {issuance : Issuance}
  {challenge challenge' : Challenge} {opens : Seconds}

/-! ## Issued challenges -/

structure IssuedAs (rt : Runtime) (store : Store) (issuance : Issuance) (challenge : Challenge) (opens : Seconds) :
    Prop where
  id : challenge.id = issuance.request.challengeId
  response : issuance.issued = issuedResponse issuance.request issuance.plan challenge.issuedAt challenge.action
  token : challenge.tokenDigest = rt.sha256Text issuance.request.challengeToken
  reviewer : issuance.request.reviewerDigest = some challenge.reviewerSessionDigest
  wallClock : issuance.request.now = some challenge.issuedAt
  monotonicClock : issuance.request.monotonicNow = some opens
  expires : challenge.expiresAt = challenge.issuedAt + ttl
  plan : challenge.planSha256 = issuance.plan.planSha256
  version : challenge.targetStateVersion = issuance.plan.body.targetStateVersion
  phrase : ∃ participant, store.ledger.participant? challenge.participantId = some participant ∧
    issuance.plan.body.confirmationPhrase = "DOI_SOAT " ++ participant.pseudonym
  withdrawal : ∃ receipt ∈ store.ledger.withdrawalReceipts, receipt.id = challenge.withdrawalReceiptId ∧
    receipt.participantId = challenge.participantId
  target : challenge.action = .executeLocalReconciliation → challenge.targetId = none

theorem IssuedAs.later (h : IssuedAs rt store issuance challenge opens) (hledger : LedgerStep store.ledger store'.ledger)
    (hlater : challenge.Later challenge') : IssuedAs rt store' issuance challenge' opens := by
  obtain ⟨hrow, -⟩ := hlater
  have hphrase : ∃ participant, store'.ledger.participant? challenge.participantId = some participant ∧
      issuance.plan.body.confirmationPhrase = "DOI_SOAT " ++ participant.pseudonym := by
    obtain ⟨participant, hfound, hphrase⟩ := h.phrase
    obtain ⟨participant', hfound', hpseudonym⟩ := hledger.persists.participant hfound
    exact ⟨participant', hfound', by rw [hphrase, hpseudonym]⟩
  have hwithdrawal : ∃ receipt ∈ store'.ledger.withdrawalReceipts, receipt.id = challenge.withdrawalReceiptId ∧
      receipt.participantId = challenge.participantId := by
    obtain ⟨receipt, hmem, hreceipt⟩ := h.withdrawal
    exact ⟨receipt, hledger.receipts.subset hmem, hreceipt⟩
  rw [hrow]
  exact ⟨h.id, h.response, h.token, h.reviewer, h.wallClock, h.monotonicClock, h.expires, h.plan, h.version, hphrase,
    hwithdrawal, h.target⟩

variable {desk : Desk} {digest : String} {monotonicNow now : Seconds} {plan : ReconciliationPlan}

theorem Issues.issuedAs {request : CreateRequest} {challengeAction : ChallengeAction} (hok : LedgerOk rt.toRuntime desk.store.ledger)
    (h : Issues rt desk request plan digest now monotonicNow challengeAction) :
    IssuedAs rt desk.store { request, plan, issued := issuedResponse request plan now challengeAction }
      (issuedChallenge rt request plan digest now challengeAction) monotonicNow := by
  obtain ⟨session, -, participant, hparticipant, receipt, hreceipt, -, -, -, howner, hbody, -⟩ :=
    planForSession_ok h.planned
  refine ⟨rfl, rfl, rfl, h.reviewer, h.wallClock, h.monotonicClock, rfl, rfl, rfl, ?_, ?_, ?_⟩
  · refine ⟨participant, ?_, ?_⟩
    · have hfound := hok.wellformed.participant_of_mem hparticipant
      change desk.store.ledger.participant? plan.body.participantId = _
      rw [hbody]
      exact hfound
    · change plan.body.confirmationPhrase = _
      rw [hbody]
      rfl
  · refine ⟨receipt, hreceipt, ?_, ?_⟩
    · change receipt.id = plan.body.withdrawalReceiptId
      rw [hbody]
      rfl
    · change receipt.participantId = plan.body.participantId
      rw [hbody]
      exact howner
  · intro haction
    have hbinding := h.binding
    change challengeAction = .executeLocalReconciliation at haction
    rw [haction] at hbinding
    simp only [requireBinding, bind_ok_iff, require_eq_ok] at hbinding
    obtain ⟨⟨⟩, htarget, -⟩ := hbinding
    exact htarget

/-! ## Consumptions -/

structure Fulfils (rt : Runtime) (issuance : Issuance) (consumption : Consumption) : Prop where
  challenge : consumption.result.challengeId = issuance.issued.challengeId
  token : rt.sha256Text consumption.request.challengeToken = rt.sha256Text issuance.issued.challengeToken
  reviewer : ∃ digest, issuance.request.reviewerDigest = some digest ∧ consumption.request.reviewerDigest = some digest ∧
    consumption.reviewer = some digest ∧ consumption.request.reviewerAlive = true
  wallClock : ∃ issuedAt now, issuance.request.now = some issuedAt ∧ consumption.request.now = some now ∧
    issuedAt ≤ now ∧ now < issuedAt + 120
  monotonicClock : ∃ issuedAt now, issuance.request.monotonicNow = some issuedAt ∧
    consumption.request.monotonicNow = some now ∧ issuedAt ≤ now ∧ now < issuedAt + 120
  phrase : consumption.request.confirmationPhrase = issuance.issued.confirmationPhrase
  currentPlan : consumption.plan.planSha256 = issuance.issued.planSha256
  version : consumption.plan.body.targetStateVersion = issuance.issued.targetStateVersion

structure ConsumedAs (challenge : Challenge) (result : ConsumedChallenge) : Prop where
  id : challenge.id = result.challengeId
  status : challenge.status = .consumed
  kind : challenge.action.executionKind = result.executionKind
  participant : challenge.participantId = result.participantId
  receipt : challenge.withdrawalReceiptId = result.withdrawalReceiptId
  plan : challenge.planSha256 = result.planSha256
  target : challenge.targetId = result.targetId

structure Confirmed (rt : Runtime) (world : World) : Prop where
  issued : ∀ challenge ∈ world.store.challenges, ∃ issuance ∈ world.issuances, ∃ opens,
    IssuedAs rt world.store issuance challenge opens ∧
      ∀ start stop, (challenge.id, start, stop) ∈ world.deadlines → start = opens ∧ stop = opens + ttl
  fulfilled : ∀ consumption ∈ world.consumptions, ∃ issuance ∈ world.issuances, Fulfils rt issuance consumption
  consumed : ∀ consumption ∈ world.consumptions, ∃ challenge ∈ world.store.challenges,
    ConsumedAs challenge consumption.result
  executions : world.store.executions.map (fun row => (row.id, row.challengeId, row.executionKind)) =
    world.consumptions.map fun row => (row.result.executionId, row.result.challengeId, row.result.executionKind)

/-! ## Steps -/

structure Idle (world world' : World) : Prop where
  challenges : ∀ challenge' ∈ world'.store.challenges, ∃ challenge ∈ world.store.challenges, challenge.Later challenge'
  kept : ∀ challenge ∈ world.store.challenges, challenge.status = .consumed → challenge ∈ world'.store.challenges
  deadlines : ∀ deadline ∈ world'.deadlines, deadline ∈ world.deadlines
  executions : world'.store.executions = world.store.executions
  issuances : world'.issuances = world.issuances
  consumptions : world'.consumptions = world.consumptions

theorem Idle.same (hchallenges : world'.store.challenges = world.store.challenges)
    (hdeadlines : world'.deadlines = world.deadlines) (hexecutions : world'.store.executions = world.store.executions)
    (hissuances : world'.issuances = world.issuances) (hconsumptions : world'.consumptions = world.consumptions) :
    Idle world world' := by
  refine ⟨fun challenge hmem => ?_, fun challenge hmem _ => ?_, fun deadline hmem => ?_, hexecutions, hissuances,
    hconsumptions⟩
  · exact ⟨challenge, hchallenges ▸ hmem, Std.Refl.refl challenge⟩
  · exact hchallenges.symm ▸ hmem
  · exact hdeadlines ▸ hmem

theorem idle_of_closing (h : Closing world.toDesk desk) : Idle world (world.withDesk desk) := by
  have hexecutions := congrArg Store.executions h.store
  refine ⟨fun challenge' hmem => ?_, fun challenge hmem hstatus => ?_, h.deadlines, hexecutions, rfl, rfl⟩
  · rcases h.challenges.back hmem with ⟨old, hold, hclosing⟩ | ⟨_, hfalse, -⟩
    · exact ⟨old, hold, hclosing.later⟩
    · exact hfalse.elim
  · obtain ⟨later, hlater, hclosing⟩ := h.challenges.forward hmem
    rw [hclosing.later.consumed hstatus] at hlater
    exact hlater

theorem idle_of_restart : Idle world world.restart := by
  have hexpired : ∀ challenge' ∈ world.restart.store.challenges, ∃ challenge ∈ world.store.challenges,
      (if challenge.status = .issued then { challenge with status := .expired } else challenge) = challenge' :=
    fun challenge' hmem => mem_update.mp hmem
  refine ⟨fun challenge' hmem => ?_, fun challenge hmem hstatus => ?_, nofun, rfl, rfl, rfl⟩
  · obtain ⟨challenge, hold, rfl⟩ := hexpired challenge' hmem
    refine ⟨challenge, hold, ?_⟩
    split
    · next hissued => exact ⟨rfl, .inr hissued⟩
    · exact Std.Refl.refl challenge
  · refine mem_update_of_neg hmem ?_
    rw [hstatus]
    exact nofun

theorem Confirmed.idle (h : Confirmed rt world) (hledger : LedgerStep world.store.ledger world'.store.ledger)
    (hidle : Idle world world') : Confirmed rt world' where
  issued challenge' hmem := by
    obtain ⟨challenge, hold, hlater⟩ := hidle.challenges challenge' hmem
    obtain ⟨issuance, hissuance, opens, hissued, hdeadlines⟩ := h.issued challenge hold
    refine ⟨issuance, hidle.issuances ▸ hissuance, opens, hissued.later hledger hlater, fun start stop hdeadline => ?_⟩
    have hid : challenge'.id = challenge.id := by rw [hlater.1]
    rw [hid] at hdeadline
    exact hdeadlines start stop (hidle.deadlines _ hdeadline)
  fulfilled := by
    rw [hidle.consumptions, hidle.issuances]
    exact h.fulfilled
  consumed := by
    rw [hidle.consumptions]
    intro consumption hmem
    obtain ⟨challenge, hchallenge, hconsumed⟩ := h.consumed consumption hmem
    exact ⟨challenge, hidle.kept challenge hchallenge hconsumed.status, hconsumed⟩
  executions := by
    rw [hidle.consumptions, hidle.executions]
    exact h.executions

theorem Confirmed.issue {request : CreateRequest} {challengeAction : ChallengeAction} {stepUps : List StepUp} {issued : IssuedChallenge}
    (hok : LedgerOk rt.toRuntime world.store.ledger) (h : Confirmed rt world)
    (hissues : Issues rt world.toDesk request plan digest now monotonicNow challengeAction)
    (hissued : issued = issuedResponse request plan now challengeAction) :
    Confirmed rt { world.withDesk (world.toDesk.issue rt request plan digest now monotonicNow challengeAction stepUps) with
      issuances := world.issuances ++ [{ request, plan, issued }] } where
  issued challenge hmem := by
    rcases List.mem_append.mp hmem with hold | hnew
    · obtain ⟨issuance, hissuance, opens, hrow, hdeadlines⟩ := h.issued challenge hold
      refine ⟨issuance, List.mem_append_left _ hissuance, opens, hrow.later (LedgerStep.refl _) (Std.Refl.refl _), ?_⟩
      intro start stop hdeadline
      rcases List.mem_cons.mp hdeadline with heq | hdeadline
      · exact absurd (.inl (congrArg Prod.fst heq)) (hissues.free challenge hold)
      · exact hdeadlines start stop (List.mem_of_mem_filter hdeadline)
    · obtain rfl := List.mem_singleton.mp hnew
      subst hissued
      refine ⟨_, List.mem_append_right _ (List.mem_singleton_self _), monotonicNow,
        (hissues.issuedAs hok).later (LedgerStep.refl _) (Std.Refl.refl _), fun start stop hdeadline => ?_⟩
      rcases List.mem_cons.mp hdeadline with heq | hdeadline
      · cases heq
        exact ⟨rfl, rfl⟩
      · have hother := List.of_mem_filter hdeadline
        exact absurd rfl (of_decide_eq_true hother)
  fulfilled consumption hmem := by
    obtain ⟨issuance, hissuance, hfulfils⟩ := h.fulfilled consumption hmem
    exact ⟨issuance, List.mem_append_left _ hissuance, hfulfils⟩
  consumed consumption hmem := by
    obtain ⟨challenge, hchallenge, hconsumed⟩ := h.consumed consumption hmem
    exact ⟨challenge, List.mem_append_left _ hchallenge, hconsumed⟩
  executions := h.executions

theorem consumeAccepted_tables {request : ConsumeRequest} {result : ConsumedChallenge}
    (h : consumeAccepted store request digest challenge now = .ok (store', result)) :
    store'.challenges = setStatus (fun row => row.id = challenge.id ∧ row.status = .issued) .consumed store.challenges ∧
      store'.executions = store.executions ++ [newExecution request challenge] ∧ store'.ledger = store.ledger ∧
      result = consumedChallenge request digest challenge := by
  obtain ⟨-, hresult, ⟨-, rfl⟩ | ⟨procedureAuthorityId, -, hattests⟩⟩ := consumeAccepted_ok h
  · exact ⟨rfl, rfl, rfl, hresult⟩
  · obtain ⟨row, procedure, -, -, rfl⟩ := insertExternalAttestation_ok hattests
    exact ⟨rfl, rfl, rfl, hresult⟩

theorem Consumes.fulfils {request : ConsumeRequest} (hok : LedgerOk rt.toRuntime world.store.ledger)
    (h : Consumes rt world.toDesk request plan digest challenge now monotonicNow)
    (hissued : IssuedAs rt world.store issuance challenge opens)
    (hdeadlines : ∀ start stop, (challenge.id, start, stop) ∈ world.deadlines → start = opens ∧ stop = opens + ttl) :
    Fulfils rt issuance
      { request, reviewer := world.reviewer, plan, result := consumedChallenge request digest challenge } := by
  have hresponse := hissued.response
  obtain ⟨hparticipant, -, hplan, hversion⟩ := h.binds
  refine ⟨?_, ?_, ?_, ?_, ?_, ?_, ?_, ?_⟩
  · rw [hresponse]
    exact hissued.id
  · rw [hresponse]
    exact h.token.symm.trans hissued.token
  · exact ⟨digest, h.owner ▸ hissued.reviewer, h.session, h.reviewer, h.alive⟩
  · have hends := h.ends
    rw [hissued.expires] at hends
    exact ⟨challenge.issuedAt, now, hissued.wallClock, h.wallClock, h.started, hends⟩
  · obtain ⟨start, stop, hdeadline, hstart, hstop⟩ := h.deadline
    obtain ⟨rfl, rfl⟩ := hdeadlines start stop hdeadline
    exact ⟨start, monotonicNow, hissued.monotonicClock, h.monotonicClock, hstart, hstop⟩
  · obtain ⟨session, -, participant, hmem, receipt, -, -, -, -, -, hbody, -⟩ := planForSession_ok h.planned
    obtain ⟨other, hother, hphrase⟩ := hissued.phrase
    have hid : challenge.participantId = participant.id := by
      rw [hparticipant, hbody]
      rfl
    rw [hid, hok.wellformed.participant_of_mem hmem] at hother
    cases hother
    have hcurrent : plan.body.confirmationPhrase = "DOI_SOAT " ++ participant.pseudonym := by
      rw [hbody]
      rfl
    rw [hresponse]
    change request.confirmationPhrase = issuance.plan.body.confirmationPhrase
    rw [h.phrase, hcurrent, hphrase]
  · rw [hresponse]
    exact hplan.symm.trans hissued.plan
  · rw [hresponse]
    exact hversion.symm.trans hissued.version

theorem Confirmed.consume {request : ConsumeRequest} {result : ConsumedChallenge} (hok : LedgerOk rt.toRuntime world.store.ledger)
    (h : Confirmed rt world) (hconsumes : Consumes rt world.toDesk request plan digest challenge now monotonicNow)
    (haccepted : consumeAccepted world.store request digest challenge now = .ok (store', result)) :
    Confirmed rt { world.withDesk ({ world.toDesk with store := store' }.dropDeadline challenge.id) with
      consumptions := world.consumptions ++ [{ request, reviewer := world.reviewer, plan, result }] } := by
  obtain ⟨hchallenges, hexecutions, hledger, rfl⟩ := consumeAccepted_tables haccepted
  refine ⟨fun challenge' hmem => ?_, fun consumption hmem => ?_, fun consumption hmem => ?_, ?_⟩
  · change challenge' ∈ store'.challenges at hmem
    rw [hchallenges] at hmem
    obtain ⟨old, hold, rfl⟩ := mem_update.mp hmem
    obtain ⟨issuance, hissuance, opens, hissued, hdeadlines⟩ := h.issued old hold
    have hlater : old.Later
        (if old.id = challenge.id ∧ old.status = .issued then { old with status := .consumed } else old) := by
      split
      · next hmatch => exact ⟨rfl, .inr hmatch.2⟩
      · exact Std.Refl.refl old
    have hstep : LedgerStep world.store.ledger store'.ledger := hledger ▸ LedgerStep.refl _
    refine ⟨issuance, hissuance, opens, hissued.later hstep hlater, fun start stop hdeadline => ?_⟩
    have hid := congrArg Challenge.id hlater.1
    rw [hid] at hdeadline
    exact hdeadlines start stop (List.mem_of_mem_filter hdeadline)
  · rcases List.mem_append.mp hmem with hold | hnew
    · exact h.fulfilled consumption hold
    · obtain rfl := List.mem_singleton.mp hnew
      obtain ⟨issuance, hissuance, opens, hissued, hdeadlines⟩ := h.issued challenge hconsumes.stored
      exact ⟨issuance, hissuance, hconsumes.fulfils hok hissued hdeadlines⟩
  · change ∃ other ∈ store'.challenges, _
    rw [hchallenges]
    rcases List.mem_append.mp hmem with hold | hnew
    · obtain ⟨other, hother, hconsumed⟩ := h.consumed consumption hold
      refine ⟨other, mem_update_of_neg hother ?_, hconsumed⟩
      rintro ⟨-, hissued⟩
      rw [hconsumed.status] at hissued
      cases hissued
    · obtain rfl := List.mem_singleton.mp hnew
      exact ⟨_, mem_update_of_pos hconsumes.stored ⟨rfl, hconsumes.issued⟩, rfl, rfl, rfl, rfl, rfl, rfl, rfl⟩
  · change store'.executions.map _ = _
    rw [hexecutions, List.map_append, List.map_append, h.executions]
    rfl

theorem Confirmed.event (hsound : Sound rt world) (h : Confirmed rt world) (hevent : Event rt world action world') :
    Confirmed rt world' := by
  have hledger := (hevent.growth hsound).ledger
  cases hevent with
  | store heffect =>
    have hchallenges := congrArg Store.challenges heffect.others
    have hexecutions := congrArg Store.executions heffect.others
    exact h.idle hledger (.same hchallenges rfl hexecutions rfl rfl)
  | procedure _ _ _ _ _ himport =>
    simp only [importProcedureAuthority, bind_ok_iff] at himport
    obtain ⟨-, -, -, -, -, -, -, -, procedures, -, himport⟩ := himport
    cases himport
    exact h.idle hledger (.same rfl rfl rfl rfl rfl)
  | closing hclosing => exact h.idle hledger (idle_of_closing hclosing)
  | issue request plan digest now monotonicNow challengeAction stepUps issued hidle hissues hissued =>
    exact h.issue hsound.ledger hissues hissued
  | consume request plan digest challenge now monotonicNow result hidle hconsumes haccepted =>
    exact h.consume hsound.ledger hconsumes haccepted
  | started consumed authority runId hidle hconsumed hstart =>
    obtain ⟨plan, participant, execution, challenge, -, rfl, rfl⟩ := startRun_ok hsound.ledger hstart
    exact h.idle hledger (.same rfl rfl rfl rfl rfl)
  | begun attemptId hactive hcurrent hremaining hbegin =>
    obtain ⟨row, -, -, attemptNumber, -, rfl, -⟩ := beginTarget_ok hbegin
    exact h.idle hledger (.same rfl rfl rfl rfl rfl)
  | restarted => exact h.idle hledger idle_of_restart
  | finalized sessionId now hidle hfinalize =>
    obtain ⟨plan, -, -, -, -, rfl | ⟨-, rfl⟩⟩ := finalize_ok hfinalize
    · exact h.idle hledger (.same rfl rfl rfl rfl rfl)
    · exact h.idle hledger (.same rfl rfl rfl rfl rfl)
  | verified | disposed | absent | blocked | completed | abandoned | recovered =>
    exact h.idle hledger (.same rfl rfl rfl rfl rfl)

theorem confirmed_empty : Confirmed rt {} where
  issued _ hmem := absurd hmem List.not_mem_nil
  fulfilled _ hmem := absurd hmem List.not_mem_nil
  consumed _ hmem := absurd hmem List.not_mem_nil
  executions := rfl

theorem confirmed_of_reachable (h : Reachable (system rt) world) : Sound rt world ∧ Confirmed rt world := by
  refine reachable_invariant (I := Confirmed rt) confirmed_empty ?_ h
  intro world world' action hsound hconfirmed _ hevent
  exact hconfirmed.event hsound hevent

/-! ## The guarantee -/

def Spared (store store' : Store) : Prop :=
  store'.executions = store.executions ∧
    ∀ challenge' ∈ store'.challenges, ∃ challenge ∈ store.challenges, challenge.Closing challenge'

theorem Closing.spared {desk' : Desk} (h : Closing desk desk') : Spared desk.store desk'.store := by
  have hexecutions := congrArg Store.executions h.store
  refine ⟨hexecutions, fun challenge' hmem => ?_⟩
  rcases h.challenges.back hmem with hold | ⟨_, hfalse, -⟩
  · exact hold
  · exact hfalse.elim

/-- No token that was presented has the digest of another one that was issued. -/
def NoTokenCollision (rt : Runtime) (world : World) : Prop :=
  ∀ consumption ∈ world.consumptions, ∀ issuance ∈ world.issuances,
    rt.sha256Text consumption.request.challengeToken = rt.sha256Text issuance.issued.challengeToken →
      consumption.request.challengeToken = issuance.issued.challengeToken

/-- A challenge is consumed at most once, by the reviewer it was issued to, in time, with its token and phrase and
under an unchanged plan; a consumption makes one execution, and an attempt that fails consumes nothing. -/
theorem challenge_consumed_once (h : Reachable (system rt) world) :
    (world.consumptions.map fun consumption => consumption.result.challengeId).Nodup ∧
      (∀ consumption ∈ world.consumptions, ∃ issuance ∈ world.issuances, Fulfils rt issuance consumption ∧
        (NoTokenCollision rt world → consumption.request.challengeToken = issuance.issued.challengeToken)) ∧
      (world.store.executions.map (fun row => (row.id, row.challengeId, row.executionKind)) =
        world.consumptions.map fun row => (row.result.executionId, row.result.challengeId, row.result.executionKind)) ∧
      (∀ request desk e, consume rt world.toDesk request = (desk, .error e) → Spared world.store desk.store) ∧
      ∀ request desk e, createChallenge rt world.toDesk request = (desk, .error e) → Spared world.store desk.store := by
  obtain ⟨hsound, hconfirmed⟩ := confirmed_of_reachable h
  refine ⟨?_, fun consumption hmem => ?_, hconfirmed.executions, fun request desk e hconsume => ?_,
    fun request desk e hcreate => ?_⟩
  · have hkeyed := hsound.keys.consumptions
    have hcolumn := congrArg (List.map fun row => row.2.1) hconfirmed.executions
    rw [List.map_map, List.map_map] at hcolumn
    rw [Keyed] at hkeyed
    change world.store.executions.map Execution.challengeId = world.consumptions.map _ at hcolumn
    rw [hcolumn] at hkeyed
    exact hkeyed
  · obtain ⟨issuance, hissuance, hfulfils⟩ := hconfirmed.fulfilled consumption hmem
    exact ⟨issuance, hissuance, hfulfils, fun hdigest => hdigest consumption hmem issuance hissuance hfulfils.token⟩
  · exact (consume_error hsound.keys.challenges hconsume).spared
  · exact (createChallenge_error hcreate).spared

theorem challenge_consumed_once_sample :
    (Sample.runActions (Sample.withdrawn ["a"] ++ Sample.confirmed "x")).consumptions.length = 1 ∧
      ∀ consumption ∈ (Sample.runActions (Sample.withdrawn ["a"] ++ Sample.confirmed "x")).consumptions,
        ∃ issuance ∈ (Sample.runActions (Sample.withdrawn ["a"] ++ Sample.confirmed "x")).issuances,
          Fulfils Sample.planRuntime issuance consumption ∧
            consumption.request.challengeToken = issuance.issued.challengeToken := by
  refine ⟨by decide +kernel, fun consumption hmem => ?_⟩
  obtain ⟨issuance, hissuance, hfulfils, htoken⟩ :=
    (challenge_consumed_once (Sample.runActions_reachable _)).2.1 consumption hmem
  exact ⟨issuance, hissuance, hfulfils, htoken fun _ _ _ _ => id⟩

end PduExamObserver.M1R1
