import PduExamObserver.M1R1.Evidence

/-! # What a reconciliation receipt stands for

A receipt is written when every target of the participant has ended with its evidence, and later steps keep it so. -/

namespace PduExamObserver.M1R1
open M1 Table Transition
set_option autoImplicit false

variable {rt : Runtime} {world world' : World} {store store' : Store} {action : Action} {progress : Progress}
  {row : TaskTarget} {now : Seconds}

def TaskTarget.Finished (store : Store) (row : TaskTarget) : Prop :=
  (row.targetKind = .externalCopy ∧ row.state = .externalDeletionAttested ∧
      ∃ now, AttestationEvidence store row.participantId row.withdrawalReceiptId row.targetId now) ∨
    (row.targetKind.isLocal = true ∧ row.state = .localDeletionVerified ∧
      DeletionEvidence store row.participantId row.withdrawalReceiptId row.targetId)

structure ReceiptBacked (store : Store) (participantId : String) : Prop where
  withdrawn : Withdrawn store.ledger participantId
  tasks : ∀ task ∈ ownTasks store.ledger participantId, ∃ row ∈ store.taskTargets, row.withdrawalTaskId = task.id
  targets : ∀ row ∈ store.taskTargets, row.participantId = participantId → row.Finished store

/-! ## Growth -/

variable {participantId receiptId : String} {participant : Participant}

theorem DeletionEvidence.growth {targetId : String} (hgrowth : StoreGrowth rt store store')
    (h : DeletionEvidence store participantId receiptId targetId) :
    DeletionEvidence store' participantId receiptId targetId := by
  obtain ⟨attempt, hattempt, htarget, hstage, run, hrun, hid, hparticipant, hstate,
    ⟨execution, hexecution, hexecutionId⟩, ⟨challenge, hchallenge, hchallengeId, hplan, howner, hreceipt, htargetId,
      haction, hstatus⟩⟩ := h
  have hattempt' : attempt ∈ store'.attempts := by
    obtain ⟨later, hlater, -, hsame | hgoing⟩ := hgrowth.attempts.forward hattempt
    · exact hsame ▸ hlater
    · rcases hgoing with hgoing | hgoing | hgoing <;> rw [hstage] at hgoing <;> cases hgoing
  have hrun' : run ∈ store'.runs := by
    obtain ⟨later, hlater, -, hsame | hgoing⟩ := hgrowth.runs.forward hrun
    · exact hsame ▸ hlater
    · rcases hgoing with hgoing | hgoing <;> rw [hstate] at hgoing <;> cases hgoing
  exact ⟨attempt, hattempt', htarget, hstage, run, hrun', hid, hparticipant, hstate,
    ⟨execution, hgrowth.execution_mem hexecution, hexecutionId⟩,
    ⟨challenge, hgrowth.consumed_mem hchallenge hstatus, hchallengeId, hplan, howner, hreceipt, htargetId, haction,
      hstatus⟩⟩

theorem TaskTarget.Finished.settled (h : row.Finished store) : row.Settled := by
  rcases h with ⟨-, hstate, -⟩ | ⟨-, hstate, -⟩
  · exact .inr hstate
  · exact .inl hstate

theorem TaskTarget.Finished.growth (hgrowth : StoreGrowth rt store store') (h : row.Finished store) :
    row.Finished store' := by
  rcases h with ⟨hkind, hstate, now, hevidence⟩ | ⟨hkind, hstate, hevidence⟩
  · exact .inl ⟨hkind, hstate, now, hevidence.growth hgrowth⟩
  · exact .inr ⟨hkind, hstate, hevidence.growth hgrowth⟩

theorem ReceiptBacked.growth (hgrowth : StoreGrowth rt store store')
    (h : ReceiptBacked store participantId) : ReceiptBacked store' participantId := by
  refine ⟨hgrowth.ledger.withdrawn _ h.withdrawn, fun task htask => ?_, fun row hmem hparticipant => ?_⟩
  · have hidentity : taskIdentity task ∈ (ownTasks store.ledger participantId).map taskIdentity := by
      rw [← hgrowth.ledger.tasks _ h.withdrawn]
      exact List.mem_map_of_mem htask
    obtain ⟨old, hold, heq⟩ := List.mem_map.mp hidentity
    obtain ⟨row, hrow, hid⟩ := h.tasks old hold
    obtain ⟨row', hrow', hlater⟩ := hgrowth.taskTargets.forward hrow
    have hid' : row'.withdrawalTaskId = row.withdrawalTaskId := by rw [hlater.1]
    exact ⟨row', hrow', hid'.trans (hid.trans (congrArg Prod.fst heq))⟩
  · rcases hgrowth.taskTargets.back hmem with ⟨old, hold, hlater⟩ | ⟨new, hfresh, hlater⟩
    · have hold' : old.participantId = participantId := by
        rw [hlater.1] at hparticipant
        exact hparticipant
      have hfinished := h.targets old hold hold'
      rcases hlater.2.2 with hsame | hopen
      · rw [hsame]
        exact hfinished.growth hgrowth
      · exact absurd hfinished.settled hopen
    · have hnew : new.participantId = participantId := by
        rw [hlater.1] at hparticipant
        exact hparticipant
      exact absurd (hnew ▸ h.withdrawn) hfresh.opened

/-! ## The receipt of a complete plan -/

theorem RowLinked.mapping_some (hok : LedgerOk rt.toRuntime store.ledger) (h : RowLinked store row) :
    ∃ mapping, store.mapping? row = some mapping := by
  obtain ⟨target, htarget, htargetId, -⟩ := h.target
  obtain ⟨artifact, hartifact, hartifactId⟩ := h.artifact
  have hfoundArtifact : store.ledger.artifact? row.artifactId = some artifact := by
    rw [← hartifactId]
    exact hok.wellformed.artifact_of_mem hartifact
  obtain ⟨found, hfound⟩ : ∃ found, store.target? row.targetId = some found := by
    rw [← Option.isSome_iff_exists, Store.target?, List.find?_isSome]
    exact ⟨target, htarget, by simpa using htargetId⟩
  exact ⟨⟨row, found, artifact.status⟩, by rw [Store.mapping?, hfound, hfoundArtifact]⟩

theorem RowLinked.mapping (hok : LedgerOk rt.toRuntime store.ledger) (h : RowLinked store row) (hmem : row ∈ store.taskTargets)
    {receipt : WithdrawalReceipt} (hreceipt : receipt ∈ store.ledger.withdrawalReceipts)
    (hparticipant : receipt.participantId = row.participantId) :
    row.withdrawalReceiptId = receipt.id ∧
      ∃ mapping ∈ mappingsOf store row.participantId receipt.id, mapping.row = row := by
  obtain ⟨other, hother, hid, howner⟩ := h.receipt
  have hsame : other = receipt := hok.receipts.eq hother hreceipt (howner.trans hparticipant.symm)
  have hrowReceipt : row.withdrawalReceiptId = receipt.id := by rw [← hid, hsame]
  obtain ⟨mapping, hmapping⟩ := h.mapping_some hok
  obtain rfl := Store.mapping?_row hmapping
  exact ⟨hrowReceipt, mapping, mem_mappingsOf.mpr ⟨hmem, rfl, hrowReceipt, hmapping⟩, rfl⟩

theorem planTarget_mem {mapping : Mapping}
    (h : mapping ∈ mappingsOf store participant.id receiptId) :
    mapping.planTarget ∈ (planBody rt store participant receiptId).targets :=
  List.mem_map_of_mem h

theorem complete_iff :
    (planBody rt store participant receiptId).complete = true ↔
      tasksOf store.ledger participant.id ≠ [] ∧
        blockers rt store participant.id (tasksOf store.ledger participant.id) (mappingsOf store participant.id receiptId) = [] ∧
        ∀ target ∈ (planBody rt store participant receiptId).targets, target.terminal = true := by
  simp only [planBody, Bool.and_eq_true, Bool.not_eq_true', List.isEmpty_eq_false_iff, List.isEmpty_iff,
    List.all_eq_true, and_assoc]

theorem onlyIf_eq_nil {p : Prop} [Decidable p] {code : String} : onlyIf p code = [] ↔ ¬ p := by
  unfold onlyIf
  split
  · next h => simp [h]
  · next h => simp [h]

theorem task_mapped {tasks : List WithdrawalTask} {mappings : List Mapping}
    (h : blockers rt store participantId tasks mappings = []) {task : WithdrawalTask} (hmem : task ∈ tasks) :
    ∃ mapping ∈ mappings, mapping.row.withdrawalTaskId = task.id := by
  simp only [blockers, List.append_eq_nil_iff, onlyIf_eq_nil] at h
  obtain ⟨⟨⟨⟨⟨hmissing, -⟩, -⟩, -⟩, -⟩, -⟩ := h
  by_contra hnone
  refine hmissing ⟨task, hmem, fun mapping hmapping heq => hnone ⟨mapping, hmapping, heq⟩⟩

theorem terminal_finished {body : PlanBody} (hmapping : row.participantId = body.participantId)
    (hreceipt : row.withdrawalReceiptId = body.withdrawalReceiptId) {target : PlanTarget}
    (hid : row.targetId = target.targetId) (hkind : row.targetKind = target.targetKind) (hstate : row.state = target.state)
    (hterminal : target.terminal = true) (hevidence : TerminalEvidence store body now target) : row.Finished store := by
  rw [TaskTarget.Finished, hmapping, hreceipt, hid, hkind, hstate]
  simp only [PlanTarget.terminal, decide_eq_true_eq] at hterminal
  rcases hterminal with ⟨hexternal, hattested⟩ | ⟨hlocal, hverified⟩
  · rw [TerminalEvidence, if_pos hexternal] at hevidence
    exact .inl ⟨hexternal, hattested, now, hevidence⟩
  · have hne : target.targetKind ≠ .externalCopy := by
      intro hexternal
      rw [hexternal] at hlocal
      exact absurd hlocal (by decide)
    rw [TerminalEvidence, if_neg hne] at hevidence
    exact .inr ⟨hlocal, hverified, hevidence⟩

theorem receiptBacked_of_complete {receipt : WithdrawalReceipt} (now : Seconds)
    (hok : LedgerOk rt.toRuntime store.ledger) (h : Evidenced store)
    (hreceipt : receipt ∈ store.ledger.withdrawalReceipts) (howner : receipt.participantId = participant.id)
    (hcomplete : (planBody rt store participant receipt.id).complete = true)
    (hevidence : ∀ target ∈ (planBody rt store participant receipt.id).targets,
      TerminalEvidence store (planBody rt store participant receipt.id) now target) :
    ReceiptBacked store participant.id := by
  obtain ⟨-, hblockers, hterminal⟩ := complete_iff.mp hcomplete
  refine ⟨howner ▸ hok.closed.receipts_withdrawn receipt hreceipt, fun task htask => ?_, fun row hmem hparticipant => ?_⟩
  · obtain ⟨mapping, hmapping, hid⟩ := task_mapped hblockers (mem_tasksOf.mpr htask)
    exact ⟨mapping.row, (mem_mappingsOf.mp hmapping).1, hid⟩
  · obtain ⟨hrowReceipt, mapping, hmapping, rfl⟩ :=
      (h.linked row hmem).mapping hok hmem hreceipt (howner.trans hparticipant.symm)
    rw [hparticipant] at hmapping
    have htarget : mapping.planTarget ∈ (planBody rt store participant receipt.id).targets := planTarget_mem hmapping
    exact terminal_finished hparticipant hrowReceipt rfl rfl rfl (hterminal _ htarget) (hevidence _ htarget)

/-! ## Steps -/

theorem Event.receipts_back (hsound : Sound rt world) (h : Event rt world action world') {receipt : ReceiptRow}
    (hmem : receipt ∈ world'.store.receipts) :
    receipt ∈ world.store.receipts ∨ ∃ sessionId plan now, planForSession rt world.store sessionId = .ok plan ∧
      plan.body.complete = true ∧ (∀ target ∈ plan.body.targets, TerminalEvidence world.store plan.body now target) ∧
      receipt = newReceipt rt plan ∧ world'.store = finalizedStore rt world.store plan := by
  cases h with
  | store heffect =>
    have hreceipts := congrArg Store.receipts heffect.others
    exact .inl (hreceipts ▸ hmem)
  | procedure _ _ _ _ _ himport =>
    simp only [importProcedureAuthority, bind_ok_iff] at himport
    obtain ⟨-, -, -, -, -, -, -, -, procedures, -, himport⟩ := himport
    cases himport
    exact .inl hmem
  | closing hclosing =>
    have hreceipts := congrArg Store.receipts hclosing.store
    exact .inl (hreceipts ▸ hmem)
  | consume request plan digest challenge now monotonicNow result hidle hconsumes haccepted =>
    obtain ⟨-, -, ⟨-, rfl⟩ | ⟨procedureAuthorityId, -, hattests⟩⟩ := consumeAccepted_ok haccepted
    · exact .inl hmem
    · obtain ⟨row, procedure, -, -, rfl⟩ := insertExternalAttestation_ok hattests
      exact .inl hmem
  | started consumed authority runId hidle hconsumed hstart =>
    obtain ⟨plan, participant, execution, challenge, -, rfl, rfl⟩ := startRun_ok hsound.ledger hstart
    exact .inl hmem
  | begun attemptId hactive hcurrent hremaining hbegin =>
    obtain ⟨row, -, -, attemptNumber, -, rfl, -⟩ := beginTarget_ok hbegin
    exact .inl hmem
  | finalized sessionId now hidle hfinalize =>
    obtain ⟨plan, hplan, hcomplete, hevidence, -, rfl | ⟨-, rfl⟩⟩ := finalize_ok hfinalize
    · exact .inl hmem
    · rcases List.mem_append.mp hmem with hold | hnew
      · exact .inl hold
      · exact .inr ⟨sessionId, plan, now, hplan, hcomplete, hevidence, List.mem_singleton.mp hnew, rfl⟩
  | issue | verified | disposed | absent | blocked | completed | abandoned | recovered | restarted => exact .inl hmem

structure Backed (store : Store) : Prop where
  evidenced : Evidenced store
  receipts : ∀ receipt ∈ store.receipts, ReceiptBacked store receipt.participantId

theorem Backed.event (hsound : Sound rt world) (h : Backed world.store) (hevent : Event rt world action world') :
    Backed world'.store := by
  have hgrowth := hevent.growth hsound
  refine ⟨h.evidenced.event hsound hevent, fun receipt hmem => ?_⟩
  rcases hevent.receipts_back hsound hmem with hold | ⟨sessionId, plan, now, hplan, hcomplete, hevidence, rfl, hstore⟩
  · exact (h.receipts receipt hold).growth hgrowth
  · obtain ⟨session, -, participant, -, withdrawal, hwithdrawal, -, -, -, howner, hbody, -⟩ := planForSession_ok hplan
    rw [hbody] at hcomplete hevidence
    have hbacked : ReceiptBacked world.store participant.id :=
      receiptBacked_of_complete now hsound.ledger h.evidenced hwithdrawal howner hcomplete hevidence
    have hid : (newReceipt rt plan).participantId = participant.id := congrArg PlanBody.participantId hbody
    rw [hid]
    exact hbacked.growth hgrowth

theorem backed_of_reachableBy {guard : World → Action → Prop} (h : ReachableBy (system rt) guard world) :
    Sound rt world ∧ Backed world.store := by
  refine reachable_invariant (I := fun world => Backed world.store) ?_ ?_ h
  · refine ⟨⟨?_, ?_, ?_, ?_⟩, ?_⟩ <;> exact fun _ hmem => absurd hmem List.not_mem_nil
  · intro world world' action hsound hbacked _ hevent
    exact hbacked.event hsound hevent

/-! ## The files of a run -/

theorem World.runStep_files (hfiles : (world.runStep progress action).store.files ≠ world.store.files) :
    ∃ current, progress.current = some current ∧ current.phase = .verified := by
  cases action with
  | dispose =>
    simp only [World.runStep] at hfiles
    split at hfiles
    · next current hcurrent =>
      split at hfiles
      · next hphase => exact ⟨current, hcurrent, hphase⟩
      · exact absurd rfl hfiles
    · exact absurd rfl hfiles
  | beginTarget attemptId =>
    simp only [World.runStep] at hfiles
    split at hfiles
    · split at hfiles
      · next hbegin =>
        obtain ⟨row, -, -, attemptNumber, -, rfl, -⟩ := beginTarget_ok hbegin
        exact absurd rfl hfiles
      · exact absurd rfl hfiles
    · exact absurd rfl hfiles
  | verified | absenceVerified =>
    simp only [World.runStep] at hfiles
    split at hfiles
    · split at hfiles
      · exact absurd rfl hfiles
      · exact absurd rfl hfiles
    · exact absurd rfl hfiles
  | deletionBlocked | completeRun =>
    simp only [World.runStep] at hfiles
    split at hfiles
    · exact absurd rfl hfiles
    · exact absurd rfl hfiles
  | store | importProcedureAuthority | revokeReviewer | clearReviewer | login | createChallenge | consume | startRun
  | raised | recover | restart | finalize => exact absurd rfl hfiles

theorem file_goes_verified (hsound : Sound rt world) (hrun : action.ofRun = true)
    (hfiles : (world.step rt action).store.files ≠ world.store.files) :
    ∃ progress current, world.progress = some progress ∧ progress.current = some current ∧
      ∃ attempt ∈ world.store.attempts, attempt.runId = progress.runId ∧ attempt.targetId = current.targetId ∧
        attempt.stage = .predeleteVerified ∧ ∃ observed target, attempt.observed = some observed ∧
          target ∈ world.store.targets ∧ target.id = current.targetId ∧
          target.expectedByteSize = some observed.byteSize ∧ target.expectedSha256 = some observed.sha256 := by
  have hrestart : action ≠ .restart := by
    rintro rfl
    cases hrun
  cases hactive : world.progress with
  | none =>
    have hidle : world.step rt action = world.idleStep rt action := by
      cases action <;> simp [World.step, hactive] at hrestart ⊢
    rw [hidle] at hfiles
    cases action <;> first | exact absurd rfl hfiles | cases hrun
  | some progress =>
    have hstep : world.step rt action = world.runStep progress action := by
      cases action <;> simp [World.step, hactive, hrun] at hrestart ⊢
    rw [hstep] at hfiles
    obtain ⟨current, hcurrent, hphase⟩ := World.runStep_files hfiles
    obtain ⟨run, hactiveRun⟩ := hsound.active progress hactive
    obtain ⟨attempt, hattempt, hfits⟩ := hactiveRun.attempt current hcurrent
    obtain ⟨hstage, hobserved⟩ := hfits.verified fun hpending => nomatch hphase.symm.trans hpending
    exact ⟨progress, current, rfl, hcurrent, attempt, hattempt, hfits.run, hfits.target, hstage, hobserved⟩

/-- A target counts as deleted after an attempt has seen it gone, a file goes after an attempt has verified it, and a
receipt stands for targets that have all ended with their evidence. -/
theorem reconciliation_evidence (h : Reachable (system rt) world) :
    (∀ row ∈ world.store.taskTargets, row.state = .localDeletionVerified →
      ∃ attempt ∈ world.store.attempts, attempt.targetId = row.targetId ∧ attempt.stage = .absenceVerified ∧
        ∃ run ∈ world.store.runs, run.id = attempt.runId ∧ run.participantId = row.participantId ∧
          ∃ execution ∈ world.store.executions, execution.id = run.executionId ∧ execution.executionKind = .localRun) ∧
      (∀ action : Action, action.ofRun = true → (world.step rt action).store.files ≠ world.store.files →
        ∃ progress current, world.progress = some progress ∧ progress.current = some current ∧
          ∃ attempt ∈ world.store.attempts, attempt.runId = progress.runId ∧ attempt.targetId = current.targetId ∧
            attempt.stage = .predeleteVerified ∧ ∃ observed target, attempt.observed = some observed ∧
              target ∈ world.store.targets ∧ target.id = current.targetId ∧
              target.expectedByteSize = some observed.byteSize ∧ target.expectedSha256 = some observed.sha256) ∧
      ∀ receipt ∈ world.store.receipts,
        (∀ task ∈ ownTasks world.store.ledger receipt.participantId,
          ∃ row ∈ world.store.taskTargets, row.withdrawalTaskId = task.id) ∧
        ∀ row ∈ world.store.taskTargets, row.participantId = receipt.participantId → row.Finished world.store := by
  obtain ⟨hsound, hbacked⟩ := backed_of_reachableBy h
  refine ⟨fun row hmem hstate => ?_, fun action hrun hfiles => file_goes_verified hsound hrun hfiles, fun receipt hmem => ?_⟩
  · obtain ⟨-, attempt, hattempt, htarget, hstage, run, hrun, hid, hparticipant, -⟩ :=
      hbacked.evidenced.verified row hmem hstate
    obtain ⟨execution, hexecution, hexecutionId, -, hkind⟩ := (hbacked.evidenced.runs run hrun).execution
    exact ⟨attempt, hattempt, htarget, hstage, run, hrun, hid, hparticipant, execution, hexecution, hexecutionId, hkind⟩
  · exact ⟨(hbacked.receipts receipt hmem).tasks, (hbacked.receipts receipt hmem).targets⟩

def finalizedRun : List Action :=
  Sample.started "run" (Sample.withdrawn ["a"] ++ Sample.confirmed "x") ++ Sample.deleted "attempt" ++
    [.completeRun, .finalize "research-aaa" 200]

theorem reconciliation_evidence_sample :
    (Sample.runActions finalizedRun).store.receipts.length = 1 ∧
      ∀ receipt ∈ (Sample.runActions finalizedRun).store.receipts,
        ∀ row ∈ (Sample.runActions finalizedRun).store.taskTargets, row.participantId = receipt.participantId →
          row.Finished (Sample.runActions finalizedRun).store :=
  ⟨by decide +kernel, fun receipt hmem =>
    ((reconciliation_evidence (Sample.runActions_reachable finalizedRun)).2.2 receipt hmem).2⟩

end PduExamObserver.M1R1
