import PduExamObserver.M1R1.Events

/-! # How the tables of the reconciliation evolve

Nothing is deleted from the tables, most columns never change, and what has ended stays as it ended. -/

namespace PduExamObserver.M1R1
open M1 Table Transition
set_option autoImplicit false

variable {rt : Runtime} {world world' : World} {store store' : Store} {action : Action}

/-! ## What a row may become -/

def Challenge.Later (a b : Challenge) : Prop :=
  b = { a with status := b.status } ∧ (b.status = a.status ∨ a.status = .issued)

def Run.Going (run : Run) : Prop := run.state = .queued ∨ run.state = .running

def Run.Later (a b : Run) : Prop :=
  b = { a with state := b.state, failureCode := b.failureCode } ∧ (b = a ∨ a.Going)

def Attempt.Going (attempt : Attempt) : Prop :=
  attempt.stage = .predeletePending ∨ attempt.stage = .predeleteVerified ∨ attempt.stage = .deleteMarked

def Attempt.Later (a b : Attempt) : Prop :=
  b = { a with stage := b.stage, observed := b.observed, failureCode := b.failureCode } ∧ (b = a ∨ a.Going)

def TaskTarget.Settled (row : TaskTarget) : Prop :=
  row.state = .localDeletionVerified ∨ row.state = .externalDeletionAttested

def TaskTarget.Later (a b : TaskTarget) : Prop :=
  b = { a with state := b.state, stateVersion := b.stateVersion, blockerCode := b.blockerCode } ∧
    a.stateVersion ≤ b.stateVersion ∧ (b = a ∨ ¬ a.Settled)

instance : IsPreorder Challenge Challenge.Later where
  refl _ := ⟨rfl, .inl rfl⟩
  trans a b c hab hbc := by
    obtain ⟨hb, hbstatus⟩ := hab
    obtain ⟨hc, hcstatus⟩ := hbc
    refine ⟨hc.trans (by rw [hb]), ?_⟩
    rcases hbstatus with hsame | hissued
    · rw [hsame] at hcstatus
      exact hcstatus
    · exact .inr hissued

instance : IsPreorder Run Run.Later where
  refl _ := ⟨rfl, .inl rfl⟩
  trans a b c hab hbc := by
    obtain ⟨hb, hbgoing⟩ := hab
    obtain ⟨hc, hcgoing⟩ := hbc
    refine ⟨hc.trans (by rw [hb]), ?_⟩
    rcases hbgoing with rfl | hgoing
    · exact hcgoing
    · exact .inr hgoing

instance : IsPreorder Attempt Attempt.Later where
  refl _ := ⟨rfl, .inl rfl⟩
  trans a b c hab hbc := by
    obtain ⟨hb, hbgoing⟩ := hab
    obtain ⟨hc, hcgoing⟩ := hbc
    refine ⟨hc.trans (by rw [hb]), ?_⟩
    rcases hbgoing with rfl | hgoing
    · exact hcgoing
    · exact .inr hgoing

instance : IsPreorder TaskTarget TaskTarget.Later where
  refl _ := ⟨rfl, le_rfl, .inl rfl⟩
  trans a b c hab hbc := by
    obtain ⟨hb, hbversion, hbopen⟩ := hab
    obtain ⟨hc, hcversion, hcopen⟩ := hbc
    refine ⟨hc.trans (by rw [hb]), hbversion.trans hcversion, ?_⟩
    rcases hbopen with rfl | hopen
    · exact hcopen
    · exact .inr hopen

theorem TaskTarget.moved_later {row : TaskTarget} {state : TargetState} {blockerCode : Option String}
    (h : ¬ row.Settled) : row.Later (row.moved state blockerCode) :=
  ⟨rfl, Nat.le_succ _, .inr h⟩

theorem Challenge.Closing.later {a b : Challenge} (h : a.Closing b) : a.Later b := by
  rcases h with rfl | ⟨hissued, rfl | rfl⟩
  · exact Std.Refl.refl b
  · exact ⟨rfl, .inr hissued⟩
  · exact ⟨rfl, .inr hissued⟩

theorem Challenge.Later.consumed {a b : Challenge} (h : a.Later b) (hstatus : a.status = .consumed) : b = a := by
  obtain ⟨hb, hsame | hissued⟩ := h
  · rw [hb, hsame]
  · rw [hstatus] at hissued
    cases hissued

/-! ## Growth of the store -/

structure StoreGrowth (rt : Runtime) (before after : Store) : Prop where
  ledgerOk : LedgerOk rt.toRuntime after.ledger
  ledger : LedgerStep before.ledger after.ledger
  manifests : Grows ArtifactManifest.Clash Eq (fun _ => True) before.manifests after.manifests
  targets : Grows ReconciliationTarget.Clash Eq (fun _ => True) before.targets after.targets
  taskTargets : Grows TaskTarget.Clash TaskTarget.Later (FreshTarget before.ledger after.ledger before.targets)
    before.taskTargets after.taskTargets
  procedures : Grows ProcedureAuthority.Clash Eq (fun _ => True) before.procedures after.procedures
  holds : after.holds = before.holds
  challenges : Grows Challenge.Clash Challenge.Later (fun challenge => challenge.status = .issued) before.challenges
    after.challenges
  executions : Grows Execution.Clash Eq (fun _ => True) before.executions after.executions
  runs : Grows Run.Clash Run.Later (fun run => run.state = .running) before.runs after.runs
  attempts : Grows Attempt.Clash Attempt.Later (fun attempt => attempt.stage = .predeletePending) before.attempts
    after.attempts
  attestations : Grows Attestation.Clash Eq (fun _ => True) before.attestations after.attestations
  receipts : Grows ReceiptRow.Clash Eq (fun _ => True) before.receipts after.receipts
  sealed : ∀ id, Withdrawn before.ledger id → AllSealed before id → AllSealed after id

theorem StoreGrowth.refl (h : LedgerOk rt.toRuntime store.ledger) : StoreGrowth rt store store where
  ledgerOk := h
  ledger := LedgerStep.refl _
  manifests := .refl _
  targets := .refl _
  taskTargets := .refl _
  procedures := .refl _
  holds := rfl
  challenges := .refl _
  executions := .refl _
  runs := .refl _
  attempts := .refl _
  attestations := .refl _
  receipts := .refl _
  sealed _ _ h := h

/-! ## Keys -/

structure Keys (store : Store) : Prop where
  manifests : Keyed ArtifactManifest.artifactId store.manifests
  targets : Keyed ReconciliationTarget.id store.targets
  taskTargets : Keyed TaskTarget.targetId store.taskTargets
  procedures : Keyed ProcedureAuthority.id store.procedures
  challenges : Keyed Challenge.id store.challenges
  tokens : Keyed Challenge.tokenDigest store.challenges
  executions : Keyed Execution.id store.executions
  consumptions : Keyed Execution.challengeId store.executions
  runs : Keyed Run.id store.runs
  runExecutions : Keyed Run.executionId store.runs
  attempts : Keyed Attempt.id store.attempts
  receipts : Keyed ReceiptRow.participantId store.receipts

theorem Keys.empty : Keys {} := by
  constructor <;> exact List.nodup_nil

theorem StoreGrowth.keys (h : StoreGrowth rt store store') (hkeys : Keys store) : Keys store' where
  manifests := h.manifests.keyed (fun _ _ => .inl) (fun _ _ heq => by rw [heq]) hkeys.manifests
  targets := h.targets.keyed (fun _ _ => .inl) (fun _ _ heq => by rw [heq]) hkeys.targets
  taskTargets := h.taskTargets.keyed (fun _ _ => id) (fun _ _ hlater => by rw [hlater.1]) hkeys.taskTargets
  procedures := h.procedures.keyed (fun _ _ => .inl) (fun _ _ heq => by rw [heq]) hkeys.procedures
  challenges := h.challenges.keyed (fun _ _ => .inl) (fun _ _ hlater => by rw [hlater.1]) hkeys.challenges
  tokens := h.challenges.keyed (fun _ _ heq => .inr (.inl heq)) (fun _ _ hlater => by rw [hlater.1]) hkeys.tokens
  executions := h.executions.keyed (fun _ _ => .inl) (fun _ _ heq => by rw [heq]) hkeys.executions
  consumptions := h.executions.keyed (fun _ _ => .inr) (fun _ _ heq => by rw [heq]) hkeys.consumptions
  runs := h.runs.keyed (fun _ _ => .inl) (fun _ _ hlater => by rw [hlater.1]) hkeys.runs
  runExecutions := h.runs.keyed (fun _ _ => .inr) (fun _ _ hlater => by rw [hlater.1]) hkeys.runExecutions
  attempts := h.attempts.keyed (fun _ _ => .inl) (fun _ _ hlater => by rw [hlater.1]) hkeys.attempts
  receipts := h.receipts.keyed (fun _ _ heq => .inr (.inl heq)) (fun _ _ heq => by rw [heq]) hkeys.receipts

/-! ## The active run -/

def Progress.pending (progress : Progress) : List String :=
  (progress.current.map CurrentTarget.targetId).toList ++ progress.remaining

structure AttemptFits (store : Store) (runId : String) (current : CurrentTarget) (attempt : Attempt) : Prop where
  id : attempt.id = current.attemptId
  run : attempt.runId = runId
  target : attempt.targetId = current.targetId
  pending : current.phase = .pending → attempt.stage = .predeletePending
  verified : current.phase ≠ .pending → attempt.stage = .predeleteVerified ∧ ∃ observed target,
    attempt.observed = some observed ∧ target ∈ store.targets ∧ target.id = current.targetId ∧
      target.expectedByteSize = some observed.byteSize ∧ target.expectedSha256 = some observed.sha256

structure RunTarget (store : Store) (participantId targetId : String) (row : TaskTarget) : Prop where
  mem : row ∈ store.taskTargets
  target : row.targetId = targetId
  participant : row.participantId = participantId
  isLocal : row.targetKind.isLocal = true

structure ActiveRun (store : Store) (progress : Progress) (run : Run) : Prop where
  mem : run ∈ store.runs
  id : run.id = progress.runId
  running : run.state = .running
  nodup : progress.pending.Nodup
  subset : ∀ targetId ∈ progress.pending, targetId ∈ progress.targetIds
  pending : ∀ targetId ∈ progress.pending, ∃ row, RunTarget store run.participantId targetId row ∧ row.state = .inProgress
  done : ∀ targetId ∈ progress.targetIds, targetId ∉ progress.pending →
    ∃ row, RunTarget store run.participantId targetId row ∧ row.state = .localDeletionVerified
  attempt : ∀ current, progress.current = some current →
    ∃ attempt ∈ store.attempts, AttemptFits store progress.runId current attempt

structure Sound (rt : Runtime) (world : World) : Prop where
  ledger : LedgerOk rt.toRuntime world.store.ledger
  keys : Keys world.store
  active : ∀ progress, world.progress = some progress → ∃ run, ActiveRun world.store progress run

/-! ## Operations outside the runs -/

theorem StoreEffect.growth (h : StoreEffect rt store store') : StoreGrowth rt store store' := by
  have hothers := h.others
  refine ⟨h.ledgerOk, h.ledger, h.manifests, h.targets, h.taskTargets.mono ?_ fun _ => id, ?_, ?_, ?_, ?_, ?_, ?_, ?_,
    ?_, h.sealed⟩
  · rintro row _ rfl
    exact Std.Refl.refl row
  · rw [hothers]
    exact .refl _
  · rw [hothers]
  · rw [hothers]
    exact .refl _
  · rw [hothers]
    exact .refl _
  · rw [hothers]
    exact .refl _
  · rw [hothers]
    exact .refl _
  · rw [hothers]
    exact .refl _
  · rw [hothers]
    exact .refl _

variable {digest : String} {now : Seconds} {challenge : Challenge}

theorem importProcedureAuthority_growth {authorityId authorityReference : String} {permits : Bool}
    (hok : LedgerOk rt.toRuntime store.ledger)
    (h : importProcedureAuthority store authorityId authorityReference digest permits now = .ok store') :
    StoreGrowth rt store store' := by
  simp only [importProcedureAuthority, bind_ok_iff] at h
  obtain ⟨-, -, -, -, -, -, -, -, procedures, hinsert, h⟩ := h
  cases h
  exact { StoreGrowth.refl hok with procedures := Grows.insert_ok hinsert trivial, sealed := fun _ _ h => h }

theorem Closing.growth {desk desk' : Desk} (hok : LedgerOk rt.toRuntime desk.store.ledger) (h : Closing desk desk') :
    StoreGrowth rt desk.store desk'.store := by
  have hchallenges : Grows Challenge.Clash Challenge.Later (fun challenge => challenge.status = .issued)
      desk.store.challenges desk'.store.challenges :=
    h.challenges.mono (fun _ _ => Challenge.Closing.later) fun _ hfalse => hfalse.elim
  rw [h.store] at hchallenges ⊢
  exact { StoreGrowth.refl hok with challenges := hchallenges, sealed := fun _ _ h => h }

theorem Issues.growth {desk : Desk} {request : CreateRequest} {plan : ReconciliationPlan}
    {monotonicNow : Seconds} {challengeAction : ChallengeAction} {stepUps : List StepUp}
    (hok : LedgerOk rt.toRuntime desk.store.ledger)
    (h : Issues rt desk request plan digest now monotonicNow challengeAction) :
    StoreGrowth rt desk.store (desk.issue rt request plan digest now monotonicNow challengeAction stepUps).store := by
  have hchallenges : Grows Challenge.Clash Challenge.Later (fun challenge => challenge.status = .issued)
      desk.store.challenges
      (desk.store.challenges ++ [issuedChallenge rt request plan digest now challengeAction]) :=
    .insert _ h.free rfl
  exact { StoreGrowth.refl hok with challenges := hchallenges, sealed := fun _ _ h => h }

/-! ## Consumption -/

structure Attests (store : Store) (consumed : ConsumedChallenge) (procedureAuthorityId : String) (now : Seconds)
    (row : TaskTarget) (procedure : ProcedureAuthority) : Prop where
  kind : consumed.executionKind = .externalAttestation
  target : consumed.targetId = some row.targetId
  authority : procedure ∈ store.procedures
  authorityId : procedure.id = procedureAuthorityId
  current : procedure.current now
  mem : row ∈ store.taskTargets
  participant : row.participantId = consumed.participantId
  receipt : row.withdrawalReceiptId = consumed.withdrawalReceiptId
  external : row.targetKind = .externalCopy
  isOpen : row.Open

def attestation (consumed : ConsumedChallenge) (procedureAuthorityId attestationId : String) (row : TaskTarget) :
    Attestation where
  id := attestationId
  executionId := consumed.executionId
  participantId := consumed.participantId
  withdrawalReceiptId := consumed.withdrawalReceiptId
  planSha256 := consumed.planSha256
  withdrawalTaskId := row.withdrawalTaskId
  targetId := row.targetId
  challengeId := consumed.challengeId
  procedureAuthorityId
  reviewerSessionDigest := consumed.reviewerSessionDigest

def attestedTargets (row : TaskTarget) (rows : List TaskTarget) : List TaskTarget :=
  update (fun other : TaskTarget => other.withdrawalTaskId = row.withdrawalTaskId ∧ other.targetId = row.targetId)
    (fun other => other.moved .externalDeletionAttested none) rows

variable {attestationId procedureAuthorityId : String} {consumed result : ConsumedChallenge}

theorem insertExternalAttestation_ok (h : insertExternalAttestation store consumed procedureAuthorityId attestationId now = .ok store') :
    ∃ row procedure, Attests store consumed procedureAuthorityId now row procedure ∧
      (∀ other ∈ store.attestations, ¬ Attestation.Clash other (attestation consumed procedureAuthorityId attestationId row)) ∧
      store' = { store with
        attestations := store.attestations ++ [attestation consumed procedureAuthorityId attestationId row]
        taskTargets := attestedTargets row store.taskTargets } := by
  simp only [insertExternalAttestation, bind_ok_iff, require_eq_ok, orError_eq_ok] at h
  obtain ⟨⟨⟩, hkind, targetId, htarget, procedure, hprocedure, ⟨⟩, hcurrent, row, hrow, ⟨⟩, hopen, attestations, hinsert,
    h⟩ := h
  cases h
  have hfound : row.participantId = consumed.participantId ∧ row.withdrawalReceiptId = consumed.withdrawalReceiptId ∧
      row.targetId = targetId := by simpa using List.find?_some hrow
  obtain ⟨hparticipant, hreceipt, rfl⟩ := hfound
  obtain ⟨hfree, rfl⟩ := insert_eq_ok.mp hinsert
  refine ⟨row, procedure, ?_, hfree, rfl⟩
  exact ⟨hkind, htarget, List.mem_of_find?_eq_some hprocedure, by simpa using List.find?_some hprocedure, hcurrent,
    List.mem_of_find?_eq_some hrow, hparticipant, hreceipt, hopen.1, hopen.2.2⟩

def consumedChallenge (request : ConsumeRequest) (digest : String) (challenge : Challenge) : ConsumedChallenge where
  challengeId := challenge.id
  executionId := request.executionId
  executionKind := challenge.action.executionKind
  participantId := challenge.participantId
  withdrawalReceiptId := challenge.withdrawalReceiptId
  planSha256 := challenge.planSha256
  targetId := challenge.targetId
  reviewerSessionDigest := digest

def newExecution (request : ConsumeRequest) (challenge : Challenge) : Execution where
  id := request.executionId
  challengeId := challenge.id
  executionKind := challenge.action.executionKind

/-- The store between the two halves of `_consume`. -/
def consumedStore (store : Store) (request : ConsumeRequest) (challenge : Challenge) (now : Seconds) : Store :=
  { store with
    executions := store.executions ++ [newExecution request challenge]
    challenges := setStatus (fun row => row.id = challenge.id ∧ row.status = .issued) .consumed store.challenges
    stepUps := update (fun row : StepUp => row.id = challenge.stepUpAuthenticationId)
      (fun row => { row with consumedAt := some now }) store.stepUps }

theorem consumeAccepted_ok {request : ConsumeRequest} (h : consumeAccepted store request digest challenge now = .ok (store', result)) :
    (∀ other ∈ store.executions, ¬ Execution.Clash other (newExecution request challenge)) ∧
      result = consumedChallenge request digest challenge ∧
      ((request.procedureAuthorityId = none ∧ store' = consumedStore store request challenge now) ∨
        ∃ procedureAuthorityId, request.procedureAuthorityId = some procedureAuthorityId ∧
          insertExternalAttestation (consumedStore store request challenge now) result procedureAuthorityId
            request.attestationId now = .ok store') := by
  simp only [consumeAccepted, bind_ok_iff, insert_eq_ok] at h
  obtain ⟨executions, ⟨hfree, rfl⟩, h⟩ := h
  refine ⟨hfree, ?_⟩
  split at h
  · next hnone =>
    cases h
    exact ⟨rfl, .inl ⟨hnone, rfl⟩⟩
  · next procedureAuthorityId hsome =>
    simp only [bind_ok_iff] at h
    obtain ⟨attested, hattested, h⟩ := h
    cases h
    exact ⟨rfl, .inr ⟨procedureAuthorityId, hsome, hattested⟩⟩

theorem consumedStore_growth {request : ConsumeRequest} (hok : LedgerOk rt.toRuntime store.ledger)
    (hfree : ∀ other ∈ store.executions, ¬ Execution.Clash other (newExecution request challenge)) :
    StoreGrowth rt store (consumedStore store request challenge now) := by
  refine { StoreGrowth.refl hok with executions := .insert _ hfree trivial, challenges := ?_, sealed := fun _ _ h => h }
  exact Grows.update (fun other => Std.Refl.refl other) fun other _ hother => ⟨rfl, .inr hother.2⟩

theorem TaskTarget.Open.not_settled {row : TaskTarget} (h : row.Open) : ¬ row.Settled := by
  rintro (hsettled | hsettled) <;> rcases h with h | h <;> rw [hsettled] at h <;> cases h

theorem insertExternalAttestation_growth (hok : LedgerOk rt.toRuntime store.ledger) (hkeys : Keyed TaskTarget.targetId store.taskTargets)
    (h : insertExternalAttestation store consumed procedureAuthorityId attestationId now = .ok store') :
    StoreGrowth rt store store' := by
  obtain ⟨row, procedure, hattests, hfree, rfl⟩ := insertExternalAttestation_ok h
  refine { StoreGrowth.refl hok with attestations := .insert _ hfree trivial, taskTargets := ?_, sealed := fun _ _ h => h }
  refine Grows.update (fun other => Std.Refl.refl other) fun other hother hsame => ?_
  obtain rfl := hkeys.eq hother hattests.mem hsame.2
  exact TaskTarget.moved_later hattests.isOpen.not_settled

theorem StoreGrowth.trans {mid : Store} (h : StoreGrowth rt store mid) (h' : StoreGrowth rt mid store')
    (hmid : mid.ledger = store.ledger) (hafter : store'.ledger = store.ledger) (htargets : mid.targets = store.targets) :
    StoreGrowth rt store store' where
  ledgerOk := h'.ledgerOk
  ledger := h.ledger.trans h'.ledger
  manifests := h.manifests.trans h'.manifests
  targets := h.targets.trans h'.targets
  taskTargets := by
    have hfirst := h.taskTargets
    have hsecond := h'.taskTargets
    rw [hmid] at hfirst hsecond
    rw [hafter, htargets] at hsecond
    rw [hafter]
    exact hfirst.trans hsecond
  procedures := h.procedures.trans h'.procedures
  holds := h'.holds.trans h.holds
  challenges := h.challenges.trans h'.challenges
  executions := h.executions.trans h'.executions
  runs := h.runs.trans h'.runs
  attempts := h.attempts.trans h'.attempts
  attestations := h.attestations.trans h'.attestations
  receipts := h.receipts.trans h'.receipts
  sealed id hw hsealed := h'.sealed id (h.ledger.withdrawn id hw) (h.sealed id hw hsealed)

theorem consumeAccepted_growth {request : ConsumeRequest} (hok : LedgerOk rt.toRuntime store.ledger)
    (hkeys : Keyed TaskTarget.targetId store.taskTargets)
    (h : consumeAccepted store request digest challenge now = .ok (store', result)) : StoreGrowth rt store store' := by
  obtain ⟨hfree, -, ⟨-, rfl⟩ | ⟨procedureAuthorityId, -, hattests⟩⟩ := consumeAccepted_ok h
  · exact consumedStore_growth hok hfree
  · have hgrowth : StoreGrowth rt (consumedStore store request challenge now) store' :=
      insertExternalAttestation_growth hok hkeys hattests
    obtain ⟨row, procedure, -, -, rfl⟩ := insertExternalAttestation_ok hattests
    exact (consumedStore_growth hok hfree).trans hgrowth rfl rfl rfl

end PduExamObserver.M1R1
