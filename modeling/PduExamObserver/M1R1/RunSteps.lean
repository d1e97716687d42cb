import PduExamObserver.M1R1.Plans

/-! # Every step keeps the store sound

The growth of the tables in every step, and the rows that an active run relies on. -/

namespace PduExamObserver.M1R1
open M1 Table Transition
set_option autoImplicit false

variable {rt : Runtime} {world world' : World} {store store' : Store} {action : Action} {progress progress' : Progress}
  {run : Run} {current : CurrentTarget}

/-! ## Inversions -/

def newAttempt (progress : Progress) (row : TaskTarget) (attemptId : String) (attemptNumber : Nat) : Attempt where
  id := attemptId
  runId := progress.runId
  withdrawalTaskId := row.withdrawalTaskId
  targetId := row.targetId
  attemptNumber
  stage := .predeletePending
  observed := none
  failureCode := none

variable {attemptId targetId : String} {plan : ReconciliationPlan} {row : TaskTarget}

theorem beginTarget_ok
    (h : beginTarget store progress targetId attemptId = .ok (store', progress')) :
    ∃ row ∈ store.taskTargets, row.targetId = targetId ∧ ∃ attemptNumber,
      (∀ other ∈ store.attempts, ¬ Attempt.Clash other (newAttempt progress row attemptId attemptNumber)) ∧
      store' = { store with attempts := store.attempts ++ [newAttempt progress row attemptId attemptNumber] } ∧
      progress' = { progress with
        remaining := progress.remaining.tail, current := some { targetId, attemptId, phase := .pending } } := by
  simp only [beginTarget, bind_ok_iff, orError_eq_ok, require_eq_ok, insert_eq_ok] at h
  obtain ⟨row, hrow, target, -, ⟨⟩, -, attempts, ⟨hfree, rfl⟩, h⟩ := h
  cases h
  have hfound : row.targetId = targetId ∧ row.state = .inProgress := by simpa using List.find?_some hrow
  obtain ⟨rfl, -⟩ := hfound
  exact ⟨row, List.mem_of_find?_eq_some hrow, rfl, _, hfree, rfl, rfl⟩

def newReceipt (rt : Runtime) (plan : ReconciliationPlan) : ReceiptRow where
  id := receiptId rt (ReceiptBody.fromPlan plan)
  participantId := plan.body.participantId
  withdrawalReceiptId := plan.body.withdrawalReceiptId
  body := ReceiptBody.fromPlan plan
  bodySha256 := (ReceiptBody.fromPlan plan).sha256 rt

def finalizedStore (rt : Runtime) (store : Store) (plan : ReconciliationPlan) : Store :=
  { store with
    ledger := completeTasks store.ledger fun task => task.id ∈ finishedTasks store plan.body.participantId
    receipts := store.receipts ++ [newReceipt rt plan] }

theorem finalize_ok {sessionId : String} {now : Seconds} {body : ReceiptBody}
    (h : finalize rt store sessionId now = .ok (store', body)) :
    ∃ plan, planForSession rt store sessionId = .ok plan ∧ plan.body.complete = true ∧
      (∀ target ∈ plan.body.targets, TerminalEvidence store plan.body now target) ∧ body = ReceiptBody.fromPlan plan ∧
      (store' = store ∨
        (∀ row ∈ store.receipts, ¬ ReceiptRow.Clash row (newReceipt rt plan)) ∧ store' = finalizedStore rt store plan) := by
  simp only [finalize, bind_ok_iff] at h
  obtain ⟨plan, hplan, existing, -, h⟩ := h
  refine ⟨plan, hplan, ?_⟩
  split at h
  · simp only [bind_ok_iff, require_eq_ok] at h
    obtain ⟨⟨⟩, hcomplete, ⟨⟩, hevidence, ⟨⟩, hsame, h⟩ := h
    cases h
    exact ⟨hcomplete, hevidence, hsame, .inl rfl⟩
  · simp only [bind_ok_iff, require_eq_ok, insert_eq_ok] at h
    obtain ⟨⟨⟩, hcomplete, ⟨⟩, hevidence, receipts, ⟨hfree, rfl⟩, h⟩ := h
    cases h
    exact ⟨hcomplete, hevidence, rfl, .inr ⟨hfree, rfl⟩⟩

/-! ## Growth -/

variable {challenge : Challenge} {consumed : ConsumedChallenge} {execution : Execution} {participant : Participant}
  {runId : String} {observed : PredeleteSnapshot} {attempts : List Attempt}

theorem Starts.growth (hok : LedgerOk rt.toRuntime store.ledger)
    (h : Starts rt store consumed runId plan participant execution challenge) :
    StoreGrowth rt store { store with
      runs := store.runs ++ [newRun consumed runId]
      taskTargets := startedTargets plan.body.runTargets store.taskTargets } := by
  refine { StoreGrowth.refl hok with runs := .insert _ h.free rfl, taskTargets := ?_, sealed := fun _ _ h => h }
  exact Grows.update (fun other => Std.Refl.refl other) fun row _ hrow => TaskTarget.moved_later hrow.2.not_settled

theorem beginTarget_growth (hok : LedgerOk rt.toRuntime store.ledger)
    (h : beginTarget store progress targetId attemptId = .ok (store', progress')) : StoreGrowth rt store store' := by
  obtain ⟨row, -, -, attemptNumber, hfree, rfl, -⟩ := beginTarget_ok h
  exact { StoreGrowth.refl hok with attempts := .insert _ hfree rfl, sealed := fun _ _ h => h }

theorem ActiveRun.attempt_going (h : ActiveRun store progress run) (hkeys : Keys store)
    (hcurrent : progress.current = some current) {attempt : Attempt} (hmem : attempt ∈ store.attempts)
    (hid : attempt.id = current.attemptId) : attempt.Going := by
  obtain ⟨other, hother, hfits⟩ := h.attempt current hcurrent
  obtain rfl := hkeys.attempts.eq hmem hother (hid.trans hfits.id.symm)
  by_cases hphase : current.phase = .pending
  · exact .inl (hfits.pending hphase)
  · exact .inr (.inl (hfits.verified hphase).1)

theorem ActiveRun.row_of_pending (h : ActiveRun store progress run) (hkeys : Keys store)
    (hpending : targetId ∈ progress.pending) (hmem : row ∈ store.taskTargets)
    (hid : row.targetId = targetId) : row.state = .inProgress := by
  obtain ⟨other, htarget, hstate⟩ := h.pending targetId hpending
  rw [hkeys.taskTargets.eq hmem htarget.mem (hid.trans htarget.target.symm)]
  exact hstate

theorem mem_pending_current (hcurrent : progress.current = some current) : current.targetId ∈ progress.pending := by
  simp [Progress.pending, hcurrent]

theorem not_settled_of_inProgress (h : row.state = .inProgress) : ¬ row.Settled := by
  rintro (hsettled | hsettled)
  · rw [h] at hsettled
    cases hsettled
  · rw [h] at hsettled
    cases hsettled

theorem ActiveRun.run_going (h : ActiveRun store progress run) (hkeys : Keys store) {other : Run}
    (hmem : other ∈ store.runs) (hid : other.id = progress.runId) : other.Going := by
  rw [hkeys.runs.eq hmem h.mem (hid.trans h.id.symm)]
  exact .inr h.running

theorem recordVerified_growth (hok : LedgerOk rt.toRuntime store.ledger)
    (hkeys : Keys store) (h : ActiveRun store progress run) (hcurrent : progress.current = some current) :
    StoreGrowth rt store (recordVerified store current.attemptId observed) := by
  refine { StoreGrowth.refl hok with attempts := ?_, sealed := fun _ _ h => h }
  exact Grows.update (fun other => Std.Refl.refl other) fun attempt hmem hid =>
    ⟨rfl, .inr (h.attempt_going hkeys hcurrent hmem hid)⟩

theorem recordAbsence_growth (hok : LedgerOk rt.toRuntime store.ledger) :
    StoreGrowth rt store (recordAbsence store targetId attemptId) := by
  refine { StoreGrowth.refl hok with attempts := ?_, taskTargets := ?_, sealed := fun _ _ h => h }
  · exact Grows.update (fun other => Std.Refl.refl other) fun row _ hrow =>
      TaskTarget.moved_later (not_settled_of_inProgress hrow.2)
  · exact Grows.update (fun other => Std.Refl.refl other) fun attempt _ hattempt =>
      ⟨rfl, .inr (.inr (.inl hattempt.2))⟩

theorem recordBlocked_growth {code : String} {dispositionMayHaveOccurred : Bool}
    (hok : LedgerOk rt.toRuntime store.ledger) (hkeys : Keys store) (h : ActiveRun store progress run)
    (hcurrent : progress.current = some current) :
    StoreGrowth rt store (recordBlocked store progress.runId current.targetId current.attemptId code
      dispositionMayHaveOccurred) := by
  refine { StoreGrowth.refl hok with attempts := ?_, taskTargets := ?_, runs := ?_, sealed := fun _ _ h => h }
  · exact Grows.update (fun other => Std.Refl.refl other) fun row hmem hid => TaskTarget.moved_later
      (not_settled_of_inProgress (h.row_of_pending hkeys (mem_pending_current hcurrent) hmem hid))
  · exact Grows.update (fun other => Std.Refl.refl other) fun other hmem hid => ⟨rfl, .inr (h.run_going hkeys hmem hid)⟩
  · exact Grows.update (fun other => Std.Refl.refl other) fun attempt hmem hid =>
      ⟨rfl, .inr (h.attempt_going hkeys hcurrent hmem hid)⟩

theorem completeRun_growth (hok : LedgerOk rt.toRuntime store.ledger) (hkeys : Keys store)
    (h : ActiveRun store progress run) : StoreGrowth rt store (completeRun store progress.runId) := by
  refine { StoreGrowth.refl hok with runs := ?_, sealed := fun _ _ h => h }
  exact Grows.update (fun other => Std.Refl.refl other) fun other hmem hid => ⟨rfl, .inr (h.run_going hkeys hmem hid)⟩

theorem recoverRuns_growth (hok : LedgerOk rt.toRuntime store.ledger) : StoreGrowth rt store (recoverRuns store) := by
  refine { StoreGrowth.refl hok with attempts := ?_, taskTargets := ?_, runs := ?_, sealed := fun _ _ h => h }
  · exact Grows.update (fun other => Std.Refl.refl other) fun row _ hrow =>
      TaskTarget.moved_later (not_settled_of_inProgress hrow)
  · exact Grows.update (fun other => Std.Refl.refl other) fun other _ hgoing => ⟨rfl, .inr hgoing⟩
  · exact Grows.update (fun other => Std.Refl.refl other) fun attempt _ hgoing => ⟨rfl, .inr hgoing⟩

theorem expireIssued_growth (hok : LedgerOk rt.toRuntime store.ledger) : StoreGrowth rt store (expireIssued store) := by
  refine { StoreGrowth.refl hok with challenges := ?_, sealed := fun _ _ h => h }
  exact Grows.update (fun other => Std.Refl.refl other) fun other _ hissued => ⟨rfl, .inr hissued⟩

theorem finalizedStore_growth (hok : LedgerOk rt.toRuntime store.ledger)
    (hfree : ∀ row ∈ store.receipts, ¬ ReceiptRow.Clash row (newReceipt rt plan)) :
    StoreGrowth rt store (finalizedStore rt store plan) := by
  obtain ⟨hok', hstep⟩ := hok.completeTasks (p := fun task => task.id ∈ finishedTasks store plan.body.participantId)
  refine { StoreGrowth.refl hok with
    ledgerOk := hok', ledger := hstep, receipts := .insert _ hfree trivial, taskTargets := .refl _
    sealed := fun _ _ h => h }

theorem Event.growth (hsound : Sound rt world) (h : Event rt world action world') :
    StoreGrowth rt world.store world'.store := by
  have hok := hsound.ledger
  have hkeys := hsound.keys
  cases h with
  | store heffect => exact heffect.growth
  | procedure _ _ _ _ _ himport => exact importProcedureAuthority_growth hok himport
  | closing hclosing => exact hclosing.growth hok
  | issue request plan digest now monotonicNow challengeAction stepUps issued hidle hissues => exact hissues.growth hok
  | consume request plan digest challenge now monotonicNow result hidle hconsumes haccepted =>
    exact consumeAccepted_growth hok hkeys.taskTargets haccepted
  | started consumed authority runId hidle hconsumed hstart =>
    obtain ⟨plan, participant, execution, challenge, hstarts, rfl, rfl⟩ := startRun_ok hok hstart
    exact hstarts.growth hok
  | begun attemptId hactive hcurrent hremaining hbegin => exact beginTarget_growth hok hbegin
  | verified observed hactive hcurrent =>
    obtain ⟨run, hrun⟩ := hsound.active _ hactive
    exact recordVerified_growth hok hkeys hrun hcurrent
  | disposed => exact { StoreGrowth.refl hok with sealed := fun _ _ h => h }
  | absent => exact recordAbsence_growth hok
  | blocked code dispositionMayHaveOccurred hactive hcurrent =>
    obtain ⟨run, hrun⟩ := hsound.active _ hactive
    exact recordBlocked_growth hok hkeys hrun hcurrent
  | completed hactive =>
    obtain ⟨run, hrun⟩ := hsound.active _ hactive
    exact completeRun_growth hok hkeys hrun
  | abandoned => exact StoreGrowth.refl hok
  | recovered => exact recoverRuns_growth hok
  | restarted => exact (recoverRuns_growth hok).trans (expireIssued_growth hok) rfl rfl rfl
  | finalized sessionId now hidle hfinalize =>
    obtain ⟨plan, -, -, -, -, rfl | ⟨hfree, rfl⟩⟩ := finalize_ok hfinalize
    · exact StoreGrowth.refl hok
    · exact finalizedStore_growth hok hfree

/-! ## The active run -/

theorem RunTarget.keeps {participantId : String}
    (h : RunTarget store participantId targetId row) (hrows : ∀ row ∈ store.taskTargets, row ∈ store'.taskTargets) :
    RunTarget store' participantId targetId row :=
  ⟨hrows row h.mem, h.target, h.participant, h.isLocal⟩

theorem ActiveRun.beside (h : ActiveRun store progress run) (hruns : store'.runs = store.runs)
    (hattempts : store'.attempts = store.attempts) (hrows : ∀ row ∈ store.taskTargets, row ∈ store'.taskTargets)
    (htargets : ∀ target ∈ store.targets, target ∈ store'.targets) : ActiveRun store' progress run := by
  refine { h with mem := hruns ▸ h.mem, pending := ?_, done := ?_, attempt := ?_ }
  · intro targetId hmem
    obtain ⟨row, hrow, hstate⟩ := h.pending targetId hmem
    exact ⟨row, hrow.keeps hrows, hstate⟩
  · intro targetId hmem hdone
    obtain ⟨row, hrow, hstate⟩ := h.done targetId hmem hdone
    exact ⟨row, hrow.keeps hrows, hstate⟩
  · intro current hcurrent
    obtain ⟨attempt, hmem, hfits⟩ := h.attempt current hcurrent
    refine ⟨attempt, hattempts ▸ hmem, { hfits with verified := fun hphase => ?_ }⟩
    obtain ⟨hstage, observed, target, hobserved, htarget, hexpected⟩ := hfits.verified hphase
    exact ⟨hstage, observed, target, hobserved, htargets target htarget, hexpected⟩

theorem StoreGrowth.targets_mem (h : StoreGrowth rt store store') {target : ReconciliationTarget}
    (hmem : target ∈ store.targets) : target ∈ store'.targets := by
  obtain ⟨other, hother, rfl⟩ := h.targets.forward hmem
  exact hother

theorem StoreEffect.rows_mem (h : StoreEffect rt store store') (hmem : row ∈ store.taskTargets) :
    row ∈ store'.taskTargets := by
  obtain ⟨other, hother, rfl⟩ := h.taskTargets.forward hmem
  exact hother

theorem Starts.active (hkeys : Keys store)
    (h : Starts rt store consumed runId plan participant execution challenge) :
    ActiveRun { store with
      runs := store.runs ++ [newRun consumed runId]
      taskTargets := startedTargets plan.body.runTargets store.taskTargets }
      { runId, targetIds := plan.body.runTargets, remaining := plan.body.runTargets, current := none }
      (newRun consumed runId) where
  mem := List.mem_append_right _ (List.mem_singleton_self _)
  id := rfl
  running := rfl
  nodup := by
    change plan.body.runTargets.Nodup
    rw [h.body]
    exact runTargets_nodup hkeys.taskTargets _ _
  subset targetId hmem := hmem
  pending targetId hmem := by
    change targetId ∈ plan.body.runTargets at hmem
    have hplanned := hmem
    rw [h.body] at hplanned
    obtain ⟨row, hrow, hid, hparticipant, -, hlocal, hopen⟩ := row_of_runTargets hplanned
    have hmoved : row.moved .inProgress none ∈ startedTargets plan.body.runTargets store.taskTargets :=
      mem_update_of_pos hrow ⟨hid ▸ hmem, hopen⟩
    exact ⟨row.moved .inProgress none, ⟨hmoved, hid, hparticipant.trans h.ownerId, hlocal⟩, rfl⟩
  done targetId hmem hdone := absurd hmem hdone
  attempt current hcurrent := by cases hcurrent

theorem ActiveRun.advanced (h : ActiveRun store progress run)
    (hrun : progress'.runId = progress.runId) (htargets : progress'.targetIds = progress.targetIds)
    (hpending : progress'.pending = progress.pending)
    (hattempt : ∀ current, progress'.current = some current →
      ∃ attempt ∈ attempts, AttemptFits { store with attempts } progress'.runId current attempt) :
    ActiveRun { store with attempts } progress' run := by
  refine ⟨h.mem, h.id.trans hrun.symm, h.running, ?_, ?_, ?_, ?_, hattempt⟩
  · rw [hpending]
    exact h.nodup
  · rw [hpending, htargets]
    exact h.subset
  · rw [hpending]
    intro other hother
    obtain ⟨target, htarget, hstate⟩ := h.pending other hother
    exact ⟨target, htarget.keeps fun _ hrow => hrow, hstate⟩
  · rw [hpending, htargets]
    intro other hother hdone
    obtain ⟨target, htarget, hstate⟩ := h.done other hother hdone
    exact ⟨target, htarget.keeps fun _ hrow => hrow, hstate⟩

theorem beginTarget_active {rest : List String} (h : ActiveRun store progress run)
    (hcurrent : progress.current = none) (hremaining : progress.remaining = targetId :: rest)
    (hbegin : beginTarget store progress targetId attemptId = .ok (store', progress')) :
    ActiveRun store' progress' run := by
  obtain ⟨row, -, rfl, attemptNumber, -, rfl, rfl⟩ := beginTarget_ok hbegin
  have hpending : Progress.pending { progress with
      remaining := progress.remaining.tail, current := some { targetId := row.targetId, attemptId, phase := .pending } } =
      progress.pending := by
    rw [Progress.pending, Progress.pending, hcurrent, hremaining]
    rfl
  refine h.advanced rfl rfl hpending fun current hsome => ?_
  cases hsome
  refine ⟨newAttempt progress row attemptId attemptNumber, List.mem_append_right _ (List.mem_singleton_self _), ?_⟩
  exact ⟨rfl, rfl, rfl, fun _ => rfl, fun hphase => absurd rfl hphase⟩

theorem ActiveRun.withPhase (phase : Phase) (h : ActiveRun store progress run)
    (hcurrent : progress.current = some current)
    (hattempt : ∃ attempt ∈ attempts, AttemptFits { store with attempts } progress.runId { current with phase } attempt) :
    ActiveRun { store with attempts } { progress with current := some { current with phase } } run := by
  have hpending : Progress.pending { progress with current := some { current with phase } } = progress.pending := by
    rw [Progress.pending, Progress.pending, hcurrent]
    rfl
  refine h.advanced rfl rfl hpending fun other hsome => ?_
  cases hsome
  exact hattempt

theorem deletionTarget_some {target : LocalDeletionTarget}
    (h : deletionTarget store targetId = some target) :
    ∃ row ∈ store.targets, row.id = targetId ∧ row.expectedByteSize = some target.expectedByteSize ∧
      row.expectedSha256 = some target.expectedSha256 ∧ row.relativePath = some target.relativePath := by
  simp only [deletionTarget, bind, Option.bind_eq_some_iff] at h
  obtain ⟨row, hrow, path, hpath, size, hsize, sha, hsha, h⟩ := h
  cases h
  exact ⟨row, List.mem_of_find?_eq_some hrow, by simpa using List.find?_some hrow, hsize, hsha, hpath⟩

theorem recordVerified_active {target : LocalDeletionTarget}
    (h : ActiveRun store progress run) (hcurrent : progress.current = some current)
    (htarget : deletionTarget store current.targetId = some target) (hverify : verifyTarget target observed = .ok ()) :
    ActiveRun (recordVerified store current.attemptId observed)
      { progress with current := some { current with phase := .verified } } run := by
  refine h.withPhase .verified hcurrent ?_
  obtain ⟨attempt, hmem, hfits⟩ := h.attempt current hcurrent
  simp only [verifyTarget, bind_ok_iff, require_eq_ok] at hverify
  obtain ⟨⟨⟩, hsize, ⟨⟩, hsha, -⟩ := hverify
  obtain ⟨row, hrow, hid, hexpectedSize, hexpectedSha, -⟩ := deletionTarget_some htarget
  refine ⟨_, mem_update_of_pos hmem hfits.id, hfits.id, hfits.run, hfits.target, nofun, fun _ => ?_⟩
  refine ⟨rfl, observed, row, rfl, hrow, hid, ?_, ?_⟩
  · rw [hexpectedSize, hsize]
  · rw [hexpectedSha, hsha]

theorem recordAbsence_active (h : ActiveRun store progress run)
    (hcurrent : progress.current = some current) :
    ActiveRun (recordAbsence store current.targetId current.attemptId) { progress with current := none } run := by
  have hpending : progress.pending = current.targetId :: progress.remaining := by
    rw [Progress.pending, hcurrent]
    rfl
  have hnodup := h.nodup
  rw [hpending, List.nodup_cons] at hnodup
  have hrest : Progress.pending { progress with current := none } = progress.remaining := rfl
  -- the rows of the other targets stay as they are
  have hother {targetId : String} {row : TaskTarget} (hrow : RunTarget store run.participantId targetId row)
      (hne : targetId ≠ current.targetId) :
      RunTarget (recordAbsence store current.targetId current.attemptId) run.participantId targetId row := by
    refine ⟨mem_update_of_neg hrow.mem ?_, hrow.target, hrow.participant, hrow.isLocal⟩
    rintro ⟨hsame, -⟩
    exact hne (hrow.target.symm.trans hsame)
  refine ⟨h.mem, h.id, h.running, ?_, ?_, ?_, ?_, nofun⟩
  · rw [hrest]
    exact hnodup.2
  · rw [hrest]
    intro targetId hmem
    refine h.subset targetId ?_
    rw [hpending]
    exact List.mem_cons_of_mem _ hmem
  · rw [hrest]
    intro targetId hmem
    have hold : targetId ∈ progress.pending := by
      rw [hpending]
      exact List.mem_cons_of_mem _ hmem
    obtain ⟨row, hrow, hstate⟩ := h.pending targetId hold
    exact ⟨row, hother hrow fun heq => hnodup.1 (heq ▸ hmem), hstate⟩
  · rw [hrest]
    intro targetId hmem hdone
    by_cases hsame : targetId = current.targetId
    · subst hsame
      obtain ⟨row, hrow, hstate⟩ := h.pending current.targetId (mem_pending_current hcurrent)
      have hmoved : row.moved .localDeletionVerified none ∈
          (recordAbsence store current.targetId current.attemptId).taskTargets :=
        mem_update_of_pos hrow.mem ⟨hrow.target, hstate⟩
      exact ⟨row.moved .localDeletionVerified none, ⟨hmoved, hrow.target, hrow.participant, hrow.isLocal⟩, rfl⟩
    · have hold : targetId ∉ progress.pending := by
        rw [hpending]
        exact fun hin => (List.mem_cons.mp hin).elim hsame hdone
      obtain ⟨row, hrow, hstate⟩ := h.done targetId hmem hold
      exact ⟨row, hother hrow hsame, hstate⟩

theorem Event.active (hsound : Sound rt world) (h : Event rt world action world') (hprogress : world'.progress = some progress') :
    ∃ run, ActiveRun world'.store progress' run := by
  cases h with
  | store heffect =>
    obtain ⟨run, hrun⟩ := hsound.active progress' hprogress
    have hruns := congrArg Store.runs heffect.others
    have hattempts := congrArg Store.attempts heffect.others
    exact ⟨run, hrun.beside hruns hattempts (fun row hrow => heffect.rows_mem hrow) fun target => heffect.growth.targets_mem⟩
  | procedure _ _ _ _ _ himport =>
    obtain ⟨run, hrun⟩ := hsound.active progress' hprogress
    simp only [importProcedureAuthority, bind_ok_iff] at himport
    obtain ⟨-, -, -, -, -, -, -, -, procedures, -, himport⟩ := himport
    cases himport
    exact ⟨run, hrun.beside rfl rfl (fun _ hrow => hrow) fun _ htarget => htarget⟩
  | closing hclosing =>
    obtain ⟨run, hrun⟩ := hsound.active progress' hprogress
    have hruns := congrArg Store.runs hclosing.store
    have hattempts := congrArg Store.attempts hclosing.store
    have hrows := congrArg Store.taskTargets hclosing.store
    have htargets := congrArg Store.targets hclosing.store
    exact ⟨run, hrun.beside hruns hattempts (fun _ hrow => hrows.symm ▸ hrow) fun _ htarget => htargets.symm ▸ htarget⟩
  | issue request plan digest now monotonicNow challengeAction stepUps issued hidle =>
    cases hidle.symm.trans hprogress
  | consume request plan digest challenge now monotonicNow result hidle =>
    cases hidle.symm.trans hprogress
  | started consumed authority runId hidle hconsumed hstart =>
    obtain ⟨plan, participant, execution, challenge, hstarts, rfl, rfl⟩ := startRun_ok hsound.ledger hstart
    cases hprogress
    exact ⟨_, hstarts.active hsound.keys⟩
  | begun attemptId hactive hcurrent hremaining hbegin =>
    obtain ⟨run, hrun⟩ := hsound.active _ hactive
    cases hprogress
    exact ⟨run, beginTarget_active hrun hcurrent hremaining hbegin⟩
  | verified observed hactive hcurrent hphase htarget hverify =>
    obtain ⟨run, hrun⟩ := hsound.active _ hactive
    cases hprogress
    exact ⟨run, recordVerified_active hrun hcurrent htarget hverify⟩
  | disposed hactive hcurrent hphase htarget =>
    obtain ⟨run, hrun⟩ := hsound.active _ hactive
    cases hprogress
    obtain ⟨attempt, hmem, hfits⟩ := hrun.attempt _ hcurrent
    have hverified := hfits.verified fun hpending => by cases hphase.symm.trans hpending
    have hmoved := hrun.withPhase .disposed hcurrent
      ⟨attempt, hmem, hfits.id, hfits.run, hfits.target, by simp, fun _ => hverified⟩
    exact ⟨run, hmoved.beside rfl rfl (fun _ hrow => hrow) fun _ htarget => htarget⟩
  | absent hactive hcurrent hphase =>
    obtain ⟨run, hrun⟩ := hsound.active _ hactive
    cases hprogress
    exact ⟨run, recordAbsence_active hrun hcurrent⟩
  | blocked => cases hprogress
  | completed => cases hprogress
  | abandoned => cases hprogress
  | recovered hidle => cases hidle.symm.trans hprogress
  | restarted => cases hprogress
  | finalized sessionId now hidle => cases hidle.symm.trans hprogress

theorem Event.sound (hsound : Sound rt world) (h : Event rt world action world') : Sound rt world' where
  ledger := (h.growth hsound).ledgerOk
  keys := (h.growth hsound).keys hsound.keys
  active _ hprogress := h.active hsound hprogress

theorem ledgerOk_empty : LedgerOk rt.toRuntime {} where
  wellformed := wellformed_empty
  closed := closed_empty _
  receipts := List.nodup_nil
  receiptIds := List.nodup_nil
  subjects := nofun

theorem sound_init : Sound rt {} := ⟨ledgerOk_empty, Keys.empty, nofun⟩

theorem reachable_invariant {I : World → Prop} {guard : World → Action → Prop} (hinit : I {})
    (hstep : ∀ {world world' action}, Sound rt world → I world → guard world action → Event rt world action world' →
      I world') (h : ReachableBy (system rt) guard world) : Sound rt world ∧ I world := by
  refine h.invariant (I := fun world => Sound rt world ∧ I world) ?_ ?_
  · rintro _ rfl
    exact ⟨sound_init, hinit⟩
  · rintro world action _ ⟨hsound, hI⟩ hguard rfl
    have hevent := step_event hsound.ledger hsound.keys.challenges action
    exact ⟨hevent.sound hsound, hstep hsound hI hguard hevent⟩

/-! ## The table of runs -/

def Run.identity (run : Run) : String × String × String × String × String :=
  (run.id, run.executionId, run.participantId, run.challengeId, run.planSha256)

theorem Event.runs_or_start (hsound : Sound rt world) (h : Event rt world action world') :
    world'.store.runs.map Run.identity = world.store.runs.map Run.identity ∨
      ∃ consumed runId plan participant execution challenge, consumed ∈ world.consumptions.map Consumption.result ∧
        Starts rt world.store consumed runId plan participant execution challenge ∧
        world'.consumptions = world.consumptions ∧
        world'.store = { world.store with
          runs := world.store.runs ++ [newRun consumed runId]
          taskTargets := startedTargets plan.body.runTargets world.store.taskTargets } := by
  cases h with
  | store heffect =>
    have hruns := congrArg Store.runs heffect.others
    exact .inl (congrArg _ hruns)
  | procedure _ _ _ _ _ himport =>
    simp only [importProcedureAuthority, bind_ok_iff] at himport
    obtain ⟨-, -, -, -, -, -, -, -, procedures, -, himport⟩ := himport
    cases himport
    exact .inl rfl
  | closing hclosing =>
    have hruns := congrArg Store.runs hclosing.store
    exact .inl (congrArg _ hruns)
  | consume request plan digest challenge now monotonicNow result hidle hconsumes haccepted =>
    obtain ⟨-, -, ⟨-, rfl⟩ | ⟨procedureAuthorityId, -, hattests⟩⟩ := consumeAccepted_ok haccepted
    · exact .inl rfl
    · obtain ⟨row, procedure, -, -, rfl⟩ := insertExternalAttestation_ok hattests
      exact .inl rfl
  | started consumed authority runId hidle hconsumed hstart =>
    obtain ⟨plan, participant, execution, challenge, hstarts, rfl, rfl⟩ := startRun_ok hsound.ledger hstart
    exact .inr ⟨consumed, runId, plan, participant, execution, challenge, hconsumed, hstarts, rfl, rfl⟩
  | begun attemptId hactive hcurrent hremaining hbegin =>
    obtain ⟨row, -, -, attemptNumber, -, rfl, -⟩ := beginTarget_ok hbegin
    exact .inl rfl
  | blocked => exact .inl (map_update Run.identity fun _ _ => rfl)
  | completed => exact .inl (map_update Run.identity fun _ _ => rfl)
  | recovered => exact .inl (map_update Run.identity fun _ _ => rfl)
  | restarted => exact .inl (map_update Run.identity fun _ _ => rfl)
  | finalized sessionId now hidle hfinalize =>
    obtain ⟨plan, -, -, -, -, rfl | ⟨-, rfl⟩⟩ := finalize_ok hfinalize
    · exact .inl rfl
    · exact .inl rfl
  | issue | verified | disposed | absent | abandoned => exact .inl rfl

end PduExamObserver.M1R1
