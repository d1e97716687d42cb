import PduExamObserver.M1R1.Evolution

/-! # What a plan says about the store

The rows that a plan lists, the participant that it is about, and what a call of `run_local` has checked when it
starts. -/

namespace PduExamObserver.M1R1
open M1 Table Transition
set_option autoImplicit false

variable {rt : Runtime} {store store' : Store}

/-! ## The rows -/

variable {mapping : Mapping} {participantId receiptId targetId : String} {participant : Participant}
  {plan : ReconciliationPlan} {consumed : ConsumedChallenge}

theorem Store.mapping?_row {row : TaskTarget} (h : store.mapping? row = some mapping) :
    mapping.row = row := by
  unfold Store.mapping? at h
  split at h
  · cases h
    rfl
  · cases h

theorem mem_mappingsOf :
    mapping ∈ mappingsOf store participantId receiptId ↔ mapping.row ∈ store.taskTargets ∧
      mapping.row.participantId = participantId ∧ mapping.row.withdrawalReceiptId = receiptId ∧
      store.mapping? mapping.row = some mapping := by
  simp only [mappingsOf, List.mem_insertionSort, List.mem_filterMap, List.mem_filter, decide_eq_true_eq]
  constructor
  · rintro ⟨row, ⟨hmem, hparticipant, hreceipt⟩, hmapping⟩
    obtain rfl := Store.mapping?_row hmapping
    exact ⟨hmem, hparticipant, hreceipt, hmapping⟩
  · rintro ⟨hmem, hparticipant, hreceipt, hmapping⟩
    exact ⟨mapping.row, ⟨hmem, hparticipant, hreceipt⟩, hmapping⟩

theorem mem_tasksOf {db : Database} {task : WithdrawalTask} :
    task ∈ tasksOf db participantId ↔ task ∈ ownTasks db participantId := by
  rw [tasksOf, List.mem_insertionSort, ownTasks]

theorem map_filterMap_sublist {α β γ : Type} {f : α → Option β} {g : β → γ} {h : α → γ}
    (hfg : ∀ a b, f a = some b → g b = h a) (rows : List α) : ((rows.filterMap f).map g).Sublist (rows.map h) := by
  induction rows with
  | nil => exact List.Sublist.refl _
  | cons row rest ih =>
    cases hrow : f row with
    | none =>
      rw [List.filterMap_cons_none hrow, List.map_cons]
      exact ih.cons _
    | some b =>
      rw [List.filterMap_cons_some hrow, List.map_cons, List.map_cons, hfg row b hrow]
      exact ih.cons_cons _

theorem mappingsOf_nodup (hkeys : Keyed TaskTarget.targetId store.taskTargets) (participantId receiptId : String) :
    ((mappingsOf store participantId receiptId).map fun mapping => mapping.row.targetId).Nodup := by
  have hperm := (List.perm_insertionSort (fun a b : Mapping => a.row.targetId ≤ b.row.targetId)
    ((store.taskTargets.filter fun row =>
      row.participantId = participantId ∧ row.withdrawalReceiptId = receiptId).filterMap store.mapping?)).map
    fun mapping => mapping.row.targetId
  rw [mappingsOf, hperm.nodup_iff]
  refine List.Nodup.sublist ?_ (hkeys.filter fun row =>
    decide (row.participantId = participantId ∧ row.withdrawalReceiptId = receiptId))
  exact map_filterMap_sublist (fun row mapping hmapping => by rw [Store.mapping?_row hmapping]) _

theorem mem_planTargets {target : PlanTarget}
    (h : target ∈ (planBody rt store participant receiptId).targets) :
    ∃ row ∈ store.taskTargets, row.participantId = participant.id ∧ row.withdrawalReceiptId = receiptId ∧
      row.targetId = target.targetId ∧ row.targetKind = target.targetKind ∧ row.state = target.state ∧
      row.stateVersion = target.stateVersion := by
  obtain ⟨mapping, hmapping, rfl⟩ := List.mem_map.mp h
  obtain ⟨hmem, hparticipant, hreceipt, -⟩ := mem_mappingsOf.mp hmapping
  exact ⟨mapping.row, hmem, hparticipant, hreceipt, rfl, rfl, rfl, rfl⟩

theorem mem_runTargets {body : PlanBody} : targetId ∈ body.runTargets ↔
    ∃ target ∈ body.targets, target.targetId = targetId ∧ target.targetKind.isLocal = true ∧ target.open = true := by
  simp only [PlanBody.runTargets, List.mem_insertionSort, List.mem_map, List.mem_filter, decide_eq_true_eq]
  constructor
  · rintro ⟨target, ⟨hmem, hlocal, hopen⟩, hid⟩
    exact ⟨target, hmem, hid, hlocal, hopen⟩
  · rintro ⟨target, hmem, hid, hlocal, hopen⟩
    exact ⟨target, ⟨hmem, hlocal, hopen⟩, hid⟩

theorem runTargets_nodup (hkeys : Keyed TaskTarget.targetId store.taskTargets) (participant : Participant)
    (receiptId : String) : (planBody rt store participant receiptId).runTargets.Nodup := by
  rw [PlanBody.runTargets, (List.perm_insertionSort _ _).nodup_iff]
  refine List.Nodup.sublist (List.filter_sublist.map _) ?_
  have htargets : (planBody rt store participant receiptId).targets.map PlanTarget.targetId =
      (mappingsOf store participant.id receiptId).map fun mapping => mapping.row.targetId := by
    change ((mappingsOf store participant.id receiptId).map Mapping.planTarget).map PlanTarget.targetId = _
    rw [List.map_map]
    rfl
  rw [htargets]
  exact mappingsOf_nodup hkeys _ _

theorem row_of_runTargets (h : targetId ∈ (planBody rt store participant receiptId).runTargets) :
    ∃ row ∈ store.taskTargets, row.targetId = targetId ∧ row.participantId = participant.id ∧
      row.withdrawalReceiptId = receiptId ∧ row.targetKind.isLocal = true ∧ row.Open := by
  obtain ⟨target, hmem, rfl, hlocal, hopen⟩ := mem_runTargets.mp h
  obtain ⟨row, hrow, hparticipant, hreceipt, hid, hkind, hstate, -⟩ := mem_planTargets hmem
  refine ⟨row, hrow, hid, hparticipant, hreceipt, by rw [hkind]; exact hlocal, ?_⟩
  rw [TaskTarget.Open, hstate]
  simpa [PlanTarget.open] using hopen

/-! ## The participant -/

theorem planForSession_ok {sessionId : String}
    (h : planForSession rt store sessionId = .ok plan) :
    ∃ session ∈ store.ledger.sessions, ∃ participant ∈ store.ledger.participants,
      ∃ receipt ∈ store.ledger.withdrawalReceipts, session.id = sessionId ∧ session.sessionKind = .research ∧
      session.participantId = some participant.id ∧ receipt.participantId = participant.id ∧
      plan.body = planBody rt store participant receipt.id ∧ plan.planSha256 = planSha256 rt plan.body := by
  simp only [planForSession, bind_ok_iff, orError_eq_ok] at h
  obtain ⟨-, -, session, hsession, participant, hparticipant, receipt, hreceipt, h⟩ := h
  cases h
  rw [Option.filter_eq_some_iff] at hsession
  obtain ⟨hfound, hkind⟩ := hsession
  rw [Database.participantOf?, Option.bind_eq_some_iff] at hparticipant
  obtain ⟨participantId, howner, hparticipant⟩ := hparticipant
  have hid : participant.id = participantId := by simpa using List.find?_some hparticipant
  have hreceiptId : receipt.participantId = participant.id := by simpa using List.find?_some hreceipt
  exact ⟨session, List.mem_of_find?_eq_some hfound, participant, List.mem_of_find?_eq_some hparticipant, receipt,
    List.mem_of_find?_eq_some hreceipt, by simpa using List.find?_some hfound, by simpa using hkind,
    by rw [hid]; exact howner, hreceiptId, rfl, rfl⟩

theorem planForConsumed_ok (hok : LedgerOk rt.toRuntime store.ledger) (h : planForConsumed rt store consumed = .ok plan) :
    ∃ participant ∈ store.ledger.participants, participant.id = consumed.participantId ∧
      plan.body = planBody rt store participant consumed.withdrawalReceiptId ∧
      planSha256 rt plan.body = consumed.planSha256 := by
  simp only [planForConsumed, bind_ok_iff, orError_eq_ok, require_eq_ok] at h
  obtain ⟨receipt, hreceipt, other, hplan, ⟨⟩, hdigest, ⟨⟩, -, h⟩ := h
  cases h
  have hfound : receipt.id = consumed.withdrawalReceiptId ∧ receipt.participantId = consumed.participantId := by
    simpa using List.find?_some hreceipt
  have hmem := List.mem_of_find?_eq_some hreceipt
  obtain ⟨session, hsession, participant, hparticipant, receipt', hreceipt', hid, -, howner, howner', hbody, hsha⟩ :=
    planForSession_ok hplan
  have hsubject := hok.subjects receipt hmem
  have hown : receipt.subjectSessionId ∈ store.ledger.sessionIdsOf participant.id :=
    mem_sessionIdsOf.mpr ⟨session, hsession, howner, hid⟩
  have hsame : receipt.participantId = participant.id := hok.wellformed.owner_unique hsubject hown
  have hreceipts : receipt' = receipt := hok.receipts.eq hreceipt' hmem (howner'.trans hsame.symm)
  refine ⟨participant, hparticipant, hsame.symm.trans hfound.2, ?_, hsha.symm.trans hdigest⟩
  rw [hbody, hreceipts, hfound.1]

/-! ## The start of a run -/

def newRun (consumed : ConsumedChallenge) (runId : String) : Run where
  id := runId
  executionId := consumed.executionId
  participantId := consumed.participantId
  challengeId := consumed.challengeId
  planSha256 := consumed.planSha256
  state := .running
  failureCode := none

def startedTargets (targetIds : List String) (rows : List TaskTarget) : List TaskTarget :=
  update (fun row : TaskTarget => row.targetId ∈ targetIds ∧ row.Open) (fun row => row.moved .inProgress none) rows

/-- What a call of `run_local` that starts a run has found. -/
structure Starts (rt : Runtime) (store : Store) (consumed : ConsumedChallenge) (runId : String) (plan : ReconciliationPlan)
    (participant : Participant) (execution : Execution) (challenge : Challenge) : Prop where
  owner : participant ∈ store.ledger.participants
  ownerId : participant.id = consumed.participantId
  body : plan.body = planBody rt store participant consumed.withdrawalReceiptId
  digest : planSha256 rt plan.body = consumed.planSha256
  targets : plan.body.runTargets ≠ []
  executed : execution ∈ store.executions
  executionId : execution.id = consumed.executionId
  executionChallenge : execution.challengeId = consumed.challengeId
  executionKind : execution.executionKind = .localRun
  issued : challenge ∈ store.challenges
  challengeId : challenge.id = consumed.challengeId
  status : challenge.status = .consumed
  action : challenge.action = .executeLocalReconciliation
  challengePlan : challenge.planSha256 = consumed.planSha256
  challengeParticipant : challenge.participantId = consumed.participantId
  free : ∀ run ∈ store.runs, ¬ Run.Clash run (newRun consumed runId)

theorem startRun_ok {authority : Option (ExecutionAuthorityBinding → Bool)}
    {runId : String} {progress : Progress} (hok : LedgerOk rt.toRuntime store.ledger)
    (h : startRun rt store consumed authority runId = .ok (.started store' progress)) :
    ∃ plan participant execution challenge, Starts rt store consumed runId plan participant execution challenge ∧
      store' = { store with
        runs := store.runs ++ [newRun consumed runId]
        taskTargets := startedTargets plan.body.runTargets store.taskTargets } ∧
      progress = { runId, targetIds := plan.body.runTargets, remaining := plan.body.runTargets, current := none } := by
  simp only [startRun, bind_ok_iff, orError_eq_ok, require_eq_ok] at h
  obtain ⟨binding, hbinding, ⟨⟩, -, execution, hexecution, challenge, hchallenge, ⟨⟩,
    ⟨hkind, hstatus, haction, hplan, hparticipant⟩, h⟩ := h
  split at h
  · cases h
  · simp only [bind_ok_iff, insert_eq_ok] at h
    obtain ⟨runs, ⟨hfree, rfl⟩, h⟩ := h
    cases h
    simp only [authorityBinding, bind_ok_iff, require_eq_ok] at hbinding
    obtain ⟨⟨⟩, -, plan, hplanned, ⟨⟩, htargets, ⟨⟩, -, hbinding⟩ := hbinding
    cases hbinding
    obtain ⟨participant, hmem, hid, hbody, hdigest⟩ := planForConsumed_ok hok hplanned
    have hfound : execution.id = consumed.executionId ∧ execution.challengeId = consumed.challengeId := by
      simpa using List.find?_some hexecution
    have hchallengeId : challenge.id = execution.challengeId := by simpa using List.find?_some hchallenge
    refine ⟨plan, participant, execution, challenge, ?_, rfl, rfl⟩
    exact ⟨hmem, hid, hbody, hdigest, htargets, List.mem_of_find?_eq_some hexecution, hfound.1, hfound.2, hkind,
      List.mem_of_find?_eq_some hchallenge, hchallengeId.trans hfound.2, hstatus, haction, hplan, hparticipant, hfree⟩

end PduExamObserver.M1R1
