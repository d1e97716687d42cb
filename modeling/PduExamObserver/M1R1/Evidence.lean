import PduExamObserver.M1R1.Consumptions

/-! # The evidence for an ended target

A target has been verified absent by an attempt of a run for its participant, or attested under a consumed challenge.
The rows that say so are in five tables, and none of them is taken back. -/

namespace PduExamObserver.M1R1
open M1 Table Transition
set_option autoImplicit false

variable {rt : Runtime} {world world' : World} {store store' : Store} {action : Action} {progress : Progress} {run : Run}
  {current : CurrentTarget} {row : TaskTarget} {now : Seconds}

/-! ## What the evidence is -/

structure RowLinked (store : Store) (row : TaskTarget) : Prop where
  receipt : ∃ receipt ∈ store.ledger.withdrawalReceipts, receipt.id = row.withdrawalReceiptId ∧
    receipt.participantId = row.participantId
  target : ∃ target ∈ store.targets, target.id = row.targetId ∧ target.targetKind = row.targetKind
  artifact : ∃ artifact ∈ store.ledger.artifactRegistry, artifact.id = row.artifactId

structure RunLinked (store : Store) (run : Run) : Prop where
  execution : ∃ execution ∈ store.executions, execution.id = run.executionId ∧ execution.challengeId = run.challengeId ∧
    execution.executionKind = .localRun
  challenge : ∃ challenge ∈ store.challenges, challenge.id = run.challengeId ∧ challenge.planSha256 = run.planSha256 ∧
    challenge.participantId = run.participantId ∧ challenge.action = .executeLocalReconciliation ∧
    challenge.status = .consumed

def AbsenceSeen (store : Store) (accept : Run → Prop) (row : TaskTarget) : Prop :=
  ∃ attempt ∈ store.attempts, attempt.targetId = row.targetId ∧ attempt.stage = .absenceVerified ∧
    ∃ run ∈ store.runs, run.id = attempt.runId ∧ run.participantId = row.participantId ∧ accept run

structure Evidenced (store : Store) : Prop where
  linked : ∀ row ∈ store.taskTargets, RowLinked store row
  runs : ∀ run ∈ store.runs, RunLinked store run
  verified : ∀ row ∈ store.taskTargets, row.state = .localDeletionVerified →
    row.targetKind.isLocal = true ∧ AbsenceSeen store (fun _ => True) row
  attested : ∀ row ∈ store.taskTargets, row.state = .externalDeletionAttested → row.targetKind = .externalCopy ∧
    ∃ now, AttestationEvidence store row.participantId row.withdrawalReceiptId row.targetId now

/-! ## Growth keeps the evidence -/

theorem RowLinked.growth {row' : TaskTarget} (h : RowLinked store row) (hgrowth : StoreGrowth rt store store')
    (hlater : row.Later row') : RowLinked store' row' := by
  obtain ⟨hrow, -⟩ := hlater
  obtain ⟨receipt, hreceipt, hreceiptId⟩ := h.receipt
  obtain ⟨target, htarget, htargetId⟩ := h.target
  obtain ⟨artifact, hartifact, hartifactId⟩ := h.artifact
  obtain ⟨artifact', hartifact', hid, -⟩ := hgrowth.ledger.registered artifact hartifact
  rw [hrow]
  exact ⟨⟨receipt, hgrowth.ledger.receipts.subset hreceipt, hreceiptId⟩,
    ⟨target, hgrowth.targets_mem htarget, htargetId⟩, ⟨artifact', hartifact', hid.trans hartifactId⟩⟩

theorem FreshTarget.linked (hgrowth : StoreGrowth rt store store')
    (h : FreshTarget store.ledger store'.ledger store.targets row) : RowLinked store' row := by
  obtain ⟨target, htarget, htargetId⟩ := h.target
  exact ⟨h.receipt, ⟨target, hgrowth.targets_mem htarget, htargetId⟩, h.artifact⟩

theorem StoreGrowth.consumed_mem (hgrowth : StoreGrowth rt store store') {challenge : Challenge}
    (hmem : challenge ∈ store.challenges) (hstatus : challenge.status = .consumed) : challenge ∈ store'.challenges := by
  obtain ⟨later, hlater, hrow⟩ := hgrowth.challenges.forward hmem
  rw [hrow.consumed hstatus] at hlater
  exact hlater

theorem StoreGrowth.execution_mem (hgrowth : StoreGrowth rt store store') {execution : Execution}
    (hmem : execution ∈ store.executions) : execution ∈ store'.executions := by
  obtain ⟨later, hlater, rfl⟩ := hgrowth.executions.forward hmem
  exact hlater

theorem RunLinked.growth {run' : Run} (h : RunLinked store run) (hgrowth : StoreGrowth rt store store')
    (hid : run'.identity = run.identity) : RunLinked store' run' := by
  simp only [Run.identity, Prod.mk.injEq] at hid
  obtain ⟨-, hexecution', hparticipant', hchallenge', hplan'⟩ := hid
  obtain ⟨execution, hexecution, hexecutionId⟩ := h.execution
  obtain ⟨challenge, hchallenge, hid, hplan, hparticipant, haction, hstatus⟩ := h.challenge
  refine ⟨⟨execution, hgrowth.execution_mem hexecution, ?_⟩,
    ⟨challenge, hgrowth.consumed_mem hchallenge hstatus, ?_, ?_, ?_, haction, hstatus⟩⟩
  · rw [hexecution', hchallenge']
    exact hexecutionId
  · rw [hchallenge', hid]
  · rw [hplan', hplan]
  · rw [hparticipant', hparticipant]

theorem AbsenceSeen.growth {accept accept' : Run → Prop} (h : AbsenceSeen store accept row)
    (hgrowth : StoreGrowth rt store store')
    (haccept : ∀ run ∈ store.runs, ∀ run' ∈ store'.runs, run.Later run' → accept run → accept' run') :
    AbsenceSeen store' accept' row := by
  obtain ⟨attempt, hattempt, htarget, hstage, run, hrun, hid, hparticipant, haccepted⟩ := h
  obtain ⟨attempt', hattempt', hlater, hsame | hgoing⟩ := hgrowth.attempts.forward hattempt
  · obtain ⟨run', hrun', hrunLater⟩ := hgrowth.runs.forward hrun
    have hid' : run'.id = run.id := by rw [hrunLater.1]
    have hparticipant' : run'.participantId = run.participantId := by rw [hrunLater.1]
    subst hsame
    exact ⟨attempt', hattempt', htarget, hstage, run', hrun', hid'.trans hid, hparticipant'.trans hparticipant,
      haccept run hrun run' hrun' hrunLater haccepted⟩
  · rcases hgoing with hgoing | hgoing | hgoing <;> rw [hstage] at hgoing <;> cases hgoing

theorem AttestationEvidence.growth {participantId receiptId targetId : String}
    (h : AttestationEvidence store participantId receiptId targetId now) (hgrowth : StoreGrowth rt store store') :
    AttestationEvidence store' participantId receiptId targetId now := by
  obtain ⟨attestation, hattestation, htarget, hparticipant, hreceipt, ⟨execution, hexecution, hexecutionId⟩,
    ⟨challenge, hchallenge, hid, hplan, howner, hreceiptId, htargetId, haction, hstatus⟩,
    ⟨procedure, hprocedure, hprocedureId⟩⟩ := h
  obtain ⟨_, hattestation', rfl⟩ := hgrowth.attestations.forward hattestation
  obtain ⟨_, hprocedure', rfl⟩ := hgrowth.procedures.forward hprocedure
  exact ⟨attestation, hattestation', htarget, hparticipant, hreceipt,
    ⟨execution, hgrowth.execution_mem hexecution, hexecutionId⟩,
    ⟨challenge, hgrowth.consumed_mem hchallenge hstatus, hid, hplan, howner, hreceiptId, htargetId, haction, hstatus⟩,
    ⟨procedure, hprocedure', hprocedureId⟩⟩

/-! ## Where ended targets come from -/

theorem mem_of_update_moved {p : TaskTarget → Prop} [DecidablePred p] {state : TargetState} {blockerCode : Option String}
    {rows : List TaskTarget} (hmem : row ∈ update p (fun row => row.moved state blockerCode) rows)
    (hsettled : row.Settled) (hstate : state ≠ .localDeletionVerified ∧ state ≠ .externalDeletionAttested) :
    row ∈ rows := by
  obtain ⟨old, hold, rfl⟩ := mem_update.mp hmem
  split at hsettled
  · rcases hsettled with hverified | hattested
    · exact absurd hverified hstate.1
    · exact absurd hattested hstate.2
  · next hne =>
    rw [if_neg hne]
    exact hold

structure JustVerified (world world' : World) (row : TaskTarget) (progress : Progress) (current : CurrentTarget) :
    Prop where
  active : world.progress = some progress
  isCurrent : progress.current = some current
  phase : current.phase = .disposed
  target : row.targetId = current.targetId
  state : row.state = .localDeletionVerified
  store : world'.store = recordAbsence world.store current.targetId current.attemptId
  goesOn : world'.progress = some { progress with current := none }

structure JustAttested (rt : Runtime) (world world' : World) (row : TaskTarget) (request : ConsumeRequest)
    (digest : String) (challenge : Challenge) (now : Seconds) (procedureAuthorityId : String)
    (procedure : ProcedureAuthority) (old : TaskTarget) : Prop where
  row : row = old.moved .externalDeletionAttested none
  issued : challenge ∈ world.store.challenges ∧ challenge.status = .issued
  attests : Attests (consumedStore world.store request challenge now) (consumedChallenge request digest challenge)
    procedureAuthorityId now old procedure
  store : world'.store = { consumedStore world.store request challenge now with
    attestations := world.store.attestations ++
      [attestation (consumedChallenge request digest challenge) procedureAuthorityId request.attestationId old]
    taskTargets := attestedTargets old world.store.taskTargets }

theorem Event.settled_back (hsound : Sound rt world) (h : Event rt world action world')
    (hmem : row ∈ world'.store.taskTargets) (hsettled : row.Settled) :
    row ∈ world.store.taskTargets ∨ (∃ progress current, JustVerified world world' row progress current) ∨
      ∃ request digest challenge now procedureAuthorityId procedure old,
        JustAttested rt world world' row request digest challenge now procedureAuthorityId procedure old := by
  cases h with
  | store heffect =>
    rcases heffect.taskTargets.back hmem with ⟨old, hold, rfl⟩ | ⟨_, hfresh, rfl⟩
    · exact .inl hold
    · rcases hsettled with hstate | hstate <;> rw [hfresh.state] at hstate <;> cases hstate
  | procedure _ _ _ _ _ himport =>
    simp only [importProcedureAuthority, bind_ok_iff] at himport
    obtain ⟨-, -, -, -, -, -, -, -, procedures, -, himport⟩ := himport
    cases himport
    exact .inl hmem
  | closing hclosing =>
    have hrows := congrArg Store.taskTargets hclosing.store
    exact .inl (hrows ▸ hmem)
  | consume request plan digest challenge now monotonicNow result hidle hconsumes haccepted =>
    obtain ⟨-, rfl, ⟨-, rfl⟩ | ⟨procedureAuthorityId, -, hattests⟩⟩ := consumeAccepted_ok haccepted
    · exact .inl hmem
    · obtain ⟨old, procedure, hattested, -, rfl⟩ := insertExternalAttestation_ok hattests
      obtain ⟨row₀, hrow₀, hrow⟩ := mem_update.mp hmem
      split at hrow
      · next hsame =>
        obtain rfl : row₀ = old := hsound.keys.taskTargets.eq hrow₀ hattested.mem hsame.2
        exact .inr (.inr ⟨request, digest, challenge, now, procedureAuthorityId, procedure, row₀, hrow.symm,
          ⟨hconsumes.stored, hconsumes.issued⟩, hattested, rfl⟩)
      · exact .inl (hrow ▸ hrow₀)
  | started consumed authority runId hidle hconsumed hstart =>
    obtain ⟨plan, participant, execution, challenge, -, rfl, rfl⟩ := startRun_ok hsound.ledger hstart
    exact .inl (mem_of_update_moved hmem hsettled (by simp))
  | begun attemptId hactive hcurrent hremaining hbegin =>
    obtain ⟨other, -, -, attemptNumber, -, rfl, -⟩ := beginTarget_ok hbegin
    exact .inl hmem
  | absent hactive hcurrent hphase =>
    obtain ⟨old, hold, rfl⟩ := mem_update.mp hmem
    split
    · next hsame => exact .inr (.inl ⟨_, _, hactive, hcurrent, hphase, hsame.1, rfl, rfl, rfl⟩)
    · exact .inl hold
  | blocked code dispositionMayHaveOccurred hactive hcurrent =>
    refine .inl (mem_of_update_moved hmem hsettled ?_)
    cases dispositionMayHaveOccurred
    · exact (by simp)
    · exact (by simp)
  | recovered => exact .inl (mem_of_update_moved hmem hsettled (by simp))
  | restarted => exact .inl (mem_of_update_moved hmem hsettled (by simp))
  | finalized sessionId now hidle hfinalize =>
    obtain ⟨plan, -, -, -, -, rfl | ⟨-, rfl⟩⟩ := finalize_ok hfinalize
    · exact .inl hmem
    · exact .inl hmem
  | issue | verified | disposed | completed | abandoned => exact .inl hmem

/-! ## The step lemma -/

theorem JustVerified.absenceSeen (hsound : Sound rt world) (hmem : row ∈ world'.store.taskTargets)
    (h : JustVerified world world' row progress current) :
    row.targetKind.isLocal = true ∧ ∃ run, ActiveRun world.store progress run ∧
      AbsenceSeen world'.store (fun other => other = run) row := by
  obtain ⟨run, hrun⟩ := hsound.active progress h.active
  obtain ⟨attempt, hattempt, hfits⟩ := hrun.attempt current h.isCurrent
  have hverified := hfits.verified fun hpending => nomatch h.phase.symm.trans hpending
  obtain ⟨target, htarget, hstate⟩ := hrun.pending current.targetId (mem_pending_current h.isCurrent)
  -- the row is the one of the active target
  have hrow : row = target.moved .localDeletionVerified none := by
    rw [h.store] at hmem
    obtain ⟨old, hold, rfl⟩ := mem_update.mp hmem
    split
    · next hsame => rw [hsound.keys.taskTargets.eq hold htarget.mem (hsame.1.trans htarget.target.symm)]
    · next hne =>
      have hid := h.target
      rw [if_neg hne] at hid
      obtain rfl := hsound.keys.taskTargets.eq hold htarget.mem (hid.trans htarget.target.symm)
      exact absurd ⟨hid, hstate⟩ hne
  rw [hrow]
  refine ⟨htarget.isLocal, run, hrun, { attempt with stage := .absenceVerified }, ?_,
    hfits.target.trans htarget.target.symm, rfl, run, ?_, hrun.id.trans hfits.run.symm, htarget.participant.symm, rfl⟩
  · rw [h.store]
    exact mem_update_of_pos hattempt ⟨hfits.id, hverified.1⟩
  · rw [h.store]
    exact hrun.mem

theorem JustAttested.evidence {request : ConsumeRequest} {digest : String} {challenge : Challenge}
    {procedureAuthorityId : String} {procedure : ProcedureAuthority} {old : TaskTarget}
    (h : JustAttested rt world world' row request digest challenge now procedureAuthorityId procedure old) :
    row.targetKind = .externalCopy ∧
      AttestationEvidence world'.store row.participantId row.withdrawalReceiptId row.targetId now := by
  have hattests := h.attests
  have htarget : challenge.targetId = some old.targetId := hattests.target
  have hkind : challenge.action.executionKind = .externalAttestation := hattests.kind
  have haction : challenge.action = .attestExternalDeletion := by
    cases hcase : challenge.action with
    | executeLocalReconciliation =>
      rw [hcase] at hkind
      cases hkind
    | attestExternalDeletion => rfl
  have hconsumed : { challenge with status := .consumed } ∈ world'.store.challenges := by
    rw [h.store]
    exact mem_update_of_pos h.issued.1 ⟨rfl, h.issued.2⟩
  have hexecution : newExecution request challenge ∈ world'.store.executions := by
    rw [h.store]
    exact List.mem_append_right _ (List.mem_singleton_self _)
  have hattestation : attestation (consumedChallenge request digest challenge) procedureAuthorityId request.attestationId
      old ∈ world'.store.attestations := by
    rw [h.store]
    exact List.mem_append_right _ (List.mem_singleton_self _)
  have hprocedure : procedure ∈ world'.store.procedures := by
    rw [h.store]
    exact hattests.authority
  rw [h.row]
  exact ⟨hattests.external, _, hattestation, rfl, hattests.participant.symm, hattests.receipt.symm,
    ⟨_, hexecution, rfl, rfl, hkind⟩, ⟨_, hconsumed, rfl, rfl, rfl, rfl, htarget, haction, rfl⟩,
    ⟨procedure, hprocedure, hattests.authorityId, hattests.current⟩⟩

theorem Starts.linked {consumed : ConsumedChallenge} {runId : String} {plan : ReconciliationPlan}
    {participant : Participant} {execution : Execution} {challenge : Challenge}
    (h : Starts rt store consumed runId plan participant execution challenge)
    (hexecutions : store'.executions = store.executions) (hchallenges : store'.challenges = store.challenges) :
    RunLinked store' (newRun consumed runId) := by
  refine ⟨⟨execution, hexecutions.symm ▸ h.executed, h.executionId, h.executionChallenge, h.executionKind⟩, ?_⟩
  exact ⟨challenge, hchallenges.symm ▸ h.issued, h.challengeId, h.challengePlan, h.challengeParticipant, h.action,
    h.status⟩

theorem Evidenced.event (hsound : Sound rt world) (h : Evidenced world.store) (hevent : Event rt world action world') :
    Evidenced world'.store := by
  have hgrowth := hevent.growth hsound
  refine ⟨fun row hmem => ?_, fun run hmem => ?_, fun row hmem hstate => ?_, fun row hmem hstate => ?_⟩
  · rcases hgrowth.taskTargets.back hmem with ⟨old, hold, hlater⟩ | ⟨new, hfresh, hlater⟩
    · exact (h.linked old hold).growth hgrowth hlater
    · exact (hfresh.linked hgrowth).growth (StoreGrowth.refl hgrowth.ledgerOk) hlater
  · rcases hevent.runs_or_start hsound with hsame | ⟨consumed, runId, plan, participant, execution, challenge, -,
      hstarts, -, hstore⟩
    · have hid : run.identity ∈ world.store.runs.map Run.identity := hsame ▸ List.mem_map_of_mem hmem
      obtain ⟨old, hold, heq⟩ := List.mem_map.mp hid
      exact (h.runs old hold).growth hgrowth heq.symm
    · have hexecutions := congrArg Store.executions hstore
      have hchallenges := congrArg Store.challenges hstore
      rw [hstore] at hmem
      rcases List.mem_append.mp hmem with hold | hnew
      · exact (h.runs run hold).growth hgrowth rfl
      · obtain rfl := List.mem_singleton.mp hnew
        exact hstarts.linked hexecutions hchallenges
  · rcases hevent.settled_back hsound hmem (.inl hstate) with hold | ⟨progress, current, hverified⟩ |
      ⟨request, digest, challenge, now, procedureAuthorityId, procedure, old, hattested⟩
    · obtain ⟨hlocal, hseen⟩ := h.verified row hold hstate
      exact ⟨hlocal, hseen.growth hgrowth fun _ _ _ _ _ _ => trivial⟩
    · obtain ⟨hlocal, run, -, attempt, hattempt, htarget, hstage, other, hother, hid, hparticipant, -⟩ :=
        hverified.absenceSeen hsound hmem
      exact ⟨hlocal, attempt, hattempt, htarget, hstage, other, hother, hid, hparticipant, trivial⟩
    · rw [hattested.row] at hstate
      cases hstate
  · rcases hevent.settled_back hsound hmem (.inr hstate) with hold | ⟨progress, current, hverified⟩ |
      ⟨request, digest, challenge, now, procedureAuthorityId, procedure, old, hattested⟩
    · obtain ⟨hexternal, now, hevidence⟩ := h.attested row hold hstate
      exact ⟨hexternal, now, hevidence.growth hgrowth⟩
    · rw [hverified.state] at hstate
      cases hstate
    · obtain ⟨hexternal, hevidence⟩ := hattested.evidence
      exact ⟨hexternal, now, hevidence⟩

end PduExamObserver.M1R1
