import PduExamObserver.M1R1.Finality
import PduExamObserver.M1R1.RunReplay

/-! # When a complete reconciliation can be finalized

`_require_terminal_evidence` accepts a deleted target only under a run that has ended `COMPLETED`. A call of `run_local`
that ends early after it has deleted a target leaves a target that counts for the plan and has no such run. -/

namespace PduExamObserver.M1R1
open M1 Table Transition
set_option autoImplicit false

variable {rt : Runtime} {world world' : World} {store store' : Store} {action : Action} {progress : Progress} {run : Run}
  {row : TaskTarget} {now : Seconds} {participant participant' : Participant}

def Action.interrupts (store : Store) (progress : Progress) : Action → Bool
  | .beginTarget attemptId =>
    progress.remaining.head?.any fun targetId => !(M1R1.beginTarget store progress targetId attemptId).isOk
  | .deletionBlocked _ _ => progress.current.isSome
  | .raised => true
  | .restart => true
  | _ => false

def KeepsRun (world : World) (action : Action) : Prop :=
  ∀ progress ∈ world.progress, action.interrupts world.store progress = true →
    ∀ attempt ∈ world.store.attempts, attempt.runId = progress.runId → attempt.stage ≠ .absenceVerified

instance (world : World) (action : Action) : Decidable (KeepsRun world action) :=
  inferInstanceAs (Decidable (∀ progress ∈ world.progress, _))

def Counted (world : World) (run : Run) : Prop :=
  run.state = .completed ∨ ∃ progress, world.progress = some progress ∧ run.id = progress.runId

/-! ## The runs behind the deleted targets -/

theorem Event.run_goes_on (h : Event rt world action world') (hactive : world.progress = some progress) :
    (∃ progress', world'.progress = some progress' ∧ progress'.runId = progress.runId) ∨
      (∀ run ∈ world'.store.runs, run.id = progress.runId → run.state = .completed) ∨
        action.interrupts world.store progress = true := by
  have hidle {P : Prop} (hnone : world.progress = none) : P := by
    rw [hactive] at hnone
    cases hnone
  have hsame {other : Progress} (hother : world.progress = some other) : other = progress :=
    Option.some.inj (hother.symm.trans hactive)
  cases h with
  | store | procedure | closing => exact .inl ⟨progress, hactive, rfl⟩
  | issue _ _ _ _ _ _ _ _ hnone => exact hidle hnone
  | consume _ _ _ _ _ _ _ hnone => exact hidle hnone
  | started _ _ _ hnone => exact hidle hnone
  | recovered hnone => exact hidle hnone
  | finalized _ _ hnone => exact hidle hnone
  | begun attemptId hother hcurrent hremaining hbegin =>
    obtain rfl := hsame hother
    obtain ⟨row, -, -, attemptNumber, -, -, rfl⟩ := beginTarget_ok hbegin
    exact .inl ⟨_, rfl, rfl⟩
  | verified observed hother =>
    obtain rfl := hsame hother
    exact .inl ⟨_, rfl, rfl⟩
  | disposed hother =>
    obtain rfl := hsame hother
    exact .inl ⟨_, rfl, rfl⟩
  | absent hother =>
    obtain rfl := hsame hother
    exact .inl ⟨_, rfl, rfl⟩
  | blocked code dispositionMayHaveOccurred hother hcurrent =>
    obtain rfl := hsame hother
    exact .inr (.inr (by rw [Action.interrupts, hcurrent]; rfl))
  | completed hother =>
    obtain rfl := hsame hother
    refine .inr (.inl fun run hmem hid => ?_)
    obtain ⟨old, -, rfl⟩ := mem_update.mp hmem
    split at hid
    · next heq => rw [if_pos heq]
    · next hne => exact absurd hid hne
  | abandoned hother haction =>
    obtain rfl := hsame hother
    refine .inr (.inr ?_)
    rcases haction with rfl | ⟨attemptId, targetId, rest, e, rfl, hremaining, hbegin⟩
    · rfl
    · rw [Action.interrupts, hremaining, List.head?_cons, Option.any_some, hbegin]
      rfl
  | restarted => exact .inr (.inr rfl)

theorem Counted.event (hevent : Event rt world action world') (hguard : KeepsRun world action) {run' : Run}
    (hmem : run' ∈ world'.store.runs) (hlater : run.Later run') (h : Counted world run) {attempt : Attempt}
    (hattempt : attempt ∈ world.store.attempts) (hrun : attempt.runId = run.id) (hstage : attempt.stage = .absenceVerified) :
    Counted world' run' := by
  have hid : run'.id = run.id := by rw [hlater.1]
  rcases h with hcompleted | ⟨progress, hactive, hcurrent⟩
  · rcases hlater.2 with rfl | hgoing
    · exact .inl hcompleted
    · rcases hgoing with hgoing | hgoing <;> rw [hcompleted] at hgoing <;> cases hgoing
  · rcases hevent.run_goes_on hactive with ⟨progress', hprogress', hsame⟩ | hcompleted | hinterrupts
    · exact .inr ⟨progress', hprogress', by rw [hid, hcurrent, hsame]⟩
    · exact .inl (hcompleted run' hmem (hid.trans hcurrent))
    · exact absurd hstage (hguard progress hactive hinterrupts attempt hattempt (hrun.trans hcurrent))

/-! ## What finalizing needs -/

def planOf (rt : Runtime) (store : Store) (participant : Participant) (receiptId : String) : ReconciliationPlan where
  body := planBody rt store participant receiptId
  planSha256 := planSha256 rt (planBody rt store participant receiptId)

def ReceiptMade (rt : Runtime) (store : Store) (row : ReceiptRow) : Prop :=
  ∃ participant ∈ store.ledger.participants, Complete rt store participant.id row.withdrawalReceiptId ∧
    row = newReceipt rt (planOf rt store participant row.withdrawalReceiptId) ∧
    ∃ withdrawal ∈ store.ledger.withdrawalReceipts, withdrawal.id = row.withdrawalReceiptId ∧
      withdrawal.participantId = participant.id

structure Finalizable (rt : Runtime) (world : World) : Prop where
  evidenced : Evidenced world.store
  confirmed : Confirmed rt world
  counted : ∀ row ∈ world.store.taskTargets, row.state = .localDeletionVerified →
    AbsenceSeen world.store (Counted world) row
  receipts : ∀ receipt ∈ world.store.receipts, ReceiptMade rt world.store receipt

variable {plan : ReconciliationPlan} {sessionId : String}

theorem plan_eq (h : planForSession rt store sessionId = .ok plan) :
    ∃ session ∈ store.ledger.sessions, ∃ participant ∈ store.ledger.participants,
      ∃ receipt ∈ store.ledger.withdrawalReceipts, session.id = sessionId ∧
      session.participantId = some participant.id ∧ receipt.participantId = participant.id ∧
      plan = planOf rt store participant receipt.id := by
  obtain ⟨session, hsession, participant, hparticipant, receipt, hreceipt, hid, -, howner, howner', hbody, hsha⟩ :=
    planForSession_ok h
  refine ⟨session, hsession, participant, hparticipant, receipt, hreceipt, hid, howner, howner', ?_⟩
  rw [hbody] at hsha
  obtain ⟨body, sha⟩ := plan
  dsimp only at hbody hsha
  rw [hbody, hsha, planOf]

theorem ReceiptMade.growth {row : ReceiptRow} (hok : LedgerOk rt.toRuntime store.ledger) (hkeys : Keys store)
    (hgrowth : StoreGrowth rt store store') (h : ReceiptMade rt store row) : ReceiptMade rt store' row := by
  obtain ⟨participant, hparticipant, hcomplete, hrow, withdrawal, hwithdrawal, hid, howner⟩ := h
  have hfound := hok.wellformed.participant_of_mem hparticipant
  obtain ⟨participant', hfound', hpseudonym⟩ := hgrowth.ledger.persists.participant hfound
  have hid' : participant'.id = participant.id := by simpa using List.find?_some hfound'
  have hidentity : participant'.identity = participant.identity := by
    rw [Participant.identity, Participant.identity, hid', hpseudonym]
  refine ⟨participant', List.mem_of_find?_eq_some hfound', ?_, ?_, withdrawal, hgrowth.ledger.receipts.subset hwithdrawal,
    hid, howner.trans hid'.symm⟩
  · rw [hid']
    exact hcomplete.growth hok hkeys hgrowth
  · rw [planOf, hcomplete.planBody_eq hok hkeys hgrowth hidentity]
    exact hrow

theorem Finalizable.event (hsound : Sound rt world) (h : Finalizable rt world) (hguard : KeepsRun world action)
    (hevent : Event rt world action world') : Finalizable rt world' := by
  have hgrowth := hevent.growth hsound
  refine ⟨h.evidenced.event hsound hevent, h.confirmed.event hsound hevent, fun row hmem hstate => ?_, fun receipt hmem => ?_⟩
  · rcases hevent.settled_back hsound hmem (.inl hstate) with hold | ⟨progress, current, hverified⟩ |
      ⟨request, digest, challenge, now, procedureAuthorityId, procedure, old, hattested⟩
    · obtain ⟨attempt, hattempt, htarget, hstage, run, hrun, hid, hparticipant, hcounted⟩ := h.counted row hold hstate
      obtain ⟨attempt', hattempt', -, hsame | hgoing⟩ := hgrowth.attempts.forward hattempt
      · obtain ⟨run', hrun', hlater⟩ := hgrowth.runs.forward hrun
        have hcounted' := hcounted.event hevent hguard hrun' hlater hattempt hid.symm hstage
        have hid' : run'.id = run.id := by rw [hlater.1]
        have hparticipant' : run'.participantId = run.participantId := by rw [hlater.1]
        subst hsame
        exact ⟨attempt', hattempt', htarget, hstage, run', hrun', hid'.trans hid, hparticipant'.trans hparticipant,
          hcounted'⟩
      · rcases hgoing with hgoing | hgoing | hgoing <;> rw [hstage] at hgoing <;> cases hgoing
    · obtain ⟨-, run, hrun, attempt, hattempt, htarget, hstage, other, hother, hid, hparticipant, rfl⟩ :=
        hverified.absenceSeen hsound hmem
      exact ⟨attempt, hattempt, htarget, hstage, other, hother, hid, hparticipant, .inr ⟨_, hverified.goesOn, hrun.id⟩⟩
    · rw [hattested.row] at hstate
      cases hstate
  · rcases hevent.receipts_back hsound hmem with hold | ⟨sessionId, plan, now, hplan, hcomplete, -, rfl, hstore⟩
    · exact (h.receipts receipt hold).growth hsound.ledger hsound.keys hgrowth
    · obtain ⟨session, -, participant, hparticipant, withdrawal, hwithdrawal, -, -, howner, rfl⟩ := plan_eq hplan
      have hmade : ReceiptMade rt world.store (newReceipt rt (planOf rt world.store participant withdrawal.id)) :=
        ⟨participant, hparticipant, complete_of_planBody hsound.ledger h.evidenced.linked hwithdrawal howner hcomplete,
          rfl, withdrawal, hwithdrawal, rfl, howner⟩
      exact hmade.growth hsound.ledger hsound.keys hgrowth

theorem finalizable_of_reachableBy (h : ReachableBy (system rt) KeepsRun world) :
    Sound rt world ∧ Finalizable rt world := by
  refine reachable_invariant (I := Finalizable rt) ⟨?_, confirmed_empty, ?_, ?_⟩ ?_ h
  · constructor <;> exact fun _ hmem => absurd hmem List.not_mem_nil
  · exact fun _ hmem => absurd hmem List.not_mem_nil
  · exact fun _ hmem => absurd hmem List.not_mem_nil
  · exact fun hsound hinv hguard hevent => hinv.event hsound hguard hevent

/-! ## Finalizing -/

def AuthoritiesCurrent (store : Store) (participantId : String) (now : Seconds) : Prop :=
  ∀ attestation ∈ store.attestations, attestation.participantId = participantId →
    ∀ procedure ∈ store.procedures, procedure.id = attestation.procedureAuthorityId → procedure.current now

def NoCollision (rt : Runtime) (store : Store) (body : ReceiptBody) : Prop :=
  ∀ row ∈ store.receipts, receiptId rt row.body = receiptId rt body → row.body = body

theorem AttestationEvidence.still {participantId receiptId targetId : String} {now' : Seconds}
    (hcurrent : AuthoritiesCurrent store participantId now')
    (h : AttestationEvidence store participantId receiptId targetId now) :
    AttestationEvidence store participantId receiptId targetId now' := by
  obtain ⟨attestation, hmem, htarget, hparticipant, hreceipt, hexecution, hchallenge, procedure, hprocedure, hid, -⟩ := h
  exact ⟨attestation, hmem, htarget, hparticipant, hreceipt, hexecution, hchallenge, procedure, hprocedure, hid,
    hcurrent attestation hmem hparticipant procedure hprocedure hid⟩

theorem AbsenceSeen.deletionEvidence (hsound : Sound rt world) (hfinalizable : Finalizable rt world)
    (hidle : world.progress = none) {receipt : WithdrawalReceipt} (hreceipt : receipt ∈ world.store.ledger.withdrawalReceipts)
    (howner : receipt.participantId = row.participantId) (h : AbsenceSeen world.store (Counted world) row) :
    DeletionEvidence world.store row.participantId receipt.id row.targetId := by
  obtain ⟨attempt, hattempt, htarget, hstage, run, hrun, hid, hparticipant, hcounted⟩ := h
  have hcompleted : run.state = .completed := by
    rcases hcounted with hcompleted | ⟨progress, hactive, -⟩
    · exact hcompleted
    · rw [hidle] at hactive
      cases hactive
  obtain ⟨hexecution, challenge, hchallenge, hchallengeId, hplan, hchallengeOwner, haction, hstatus⟩ :=
    hfinalizable.evidenced.runs run hrun
  obtain ⟨issuance, -, opens, hissued, -⟩ := hfinalizable.confirmed.issued challenge hchallenge
  obtain ⟨other, hother, hotherId, hotherOwner⟩ := hissued.withdrawal
  have hsame : other = receipt := by
    refine hsound.ledger.receipts.eq hother hreceipt ?_
    rw [hotherOwner, hchallengeOwner, hparticipant, howner]
  exact ⟨attempt, hattempt, htarget, hstage, run, hrun, hid, hparticipant, hcompleted, hexecution, challenge, hchallenge,
    hchallengeId, hplan, hchallengeOwner, by rw [← hotherId, hsame], hissued.target haction, haction, hstatus⟩

theorem Finalizable.evidence (hsound : Sound rt world) (h : Finalizable rt world) (hidle : world.progress = none)
    {receipt : WithdrawalReceipt} (hreceipt : receipt ∈ world.store.ledger.withdrawalReceipts)
    (howner : receipt.participantId = participant.id)
    (hcomplete : (planBody rt world.store participant receipt.id).complete = true)
    (hcurrent : AuthoritiesCurrent world.store participant.id now) :
    ∀ target ∈ (planBody rt world.store participant receipt.id).targets,
      TerminalEvidence world.store (planBody rt world.store participant receipt.id) now target := by
  intro target htarget
  obtain ⟨row, hrow, hparticipant, hrowReceipt, hid, hkind, hstate, -⟩ := mem_planTargets htarget
  have hterminal := (complete_iff.mp hcomplete).2.2 target htarget
  simp only [PlanTarget.terminal, decide_eq_true_eq] at hterminal
  rw [TerminalEvidence]
  change if target.targetKind = .externalCopy
    then AttestationEvidence world.store participant.id receipt.id target.targetId now
    else DeletionEvidence world.store participant.id receipt.id target.targetId
  rw [← hid, ← hparticipant, ← hkind]
  rcases hterminal with ⟨hexternal, hattested⟩ | ⟨hlocal, hverified⟩
  · obtain ⟨-, now', hevidence⟩ := h.evidenced.attested row hrow (hstate.trans hattested)
    rw [if_pos (hkind.trans hexternal), ← hrowReceipt]
    rw [← hparticipant] at hcurrent
    exact hevidence.still hcurrent
  · have hne : row.targetKind ≠ .externalCopy := by
      intro hexternal
      rw [← hkind, hexternal] at hlocal
      exact absurd hlocal (by decide)
    rw [if_neg hne]
    have hseen := h.counted row hrow (hstate.trans hverified)
    exact hseen.deletionEvidence hsound h hidle hreceipt (howner.trans hparticipant.symm)

theorem ReceiptMade.eq_planOf {receiptRow : ReceiptRow} {receipt : WithdrawalReceipt}
    (hok : LedgerOk rt.toRuntime store.ledger) (h : ReceiptMade rt store receiptRow)
    (hparticipant : participant ∈ store.ledger.participants) (hrow : receiptRow.participantId = participant.id)
    (hreceipt : receipt ∈ store.ledger.withdrawalReceipts) (howner : receipt.participantId = participant.id) :
    receiptRow = newReceipt rt (planOf rt store participant receipt.id) := by
  obtain ⟨other, hother, -, hmade, withdrawal, hwithdrawal, hid, hwithdrawalOwner⟩ := h
  have hotherId : other.id = receiptRow.participantId := by
    rw [hmade]
    rfl
  obtain rfl : other = participant := hok.wellformed.participants.eq hother hparticipant (hotherId.trans hrow)
  obtain rfl : withdrawal = receipt := hok.receipts.eq hwithdrawal hreceipt (hwithdrawalOwner.trans howner.symm)
  rw [← hid] at hmade
  exact hmade

theorem ReceiptMade.free {receiptRow : ReceiptRow} {receipt : WithdrawalReceipt}
    (hok : LedgerOk rt.toRuntime store.ledger) (h : ReceiptMade rt store receiptRow)
    (hmem : receiptRow ∈ store.receipts) (hreceipt : receipt ∈ store.ledger.withdrawalReceipts) (howner : receipt.participantId = participant.id)
    (hdigest : NoCollision rt store (ReceiptBody.fromPlan (planOf rt store participant receipt.id)))
    (hother : receiptRow.participantId ≠ participant.id) :
    ¬ receiptRow.Clash (newReceipt rt (planOf rt store participant receipt.id)) := by
  obtain ⟨other, -, -, hmade, withdrawal, hwithdrawal, hid, hwithdrawalOwner⟩ := h
  have hrowOwner : receiptRow.participantId = other.id := by
    rw [hmade]
    rfl
  have hne : receiptRow.withdrawalReceiptId ≠ receipt.id := by
    intro heq
    have hsame : withdrawal = receipt := hok.receiptIds.eq hwithdrawal hreceipt (hid.trans heq)
    rw [hsame, howner] at hwithdrawalOwner
    exact hother (hrowOwner.trans hwithdrawalOwner.symm)
  rintro (hclash | hclash | hclash)
  · have hrowId : receiptRow.id = receiptId rt receiptRow.body := by
      rw [hmade]
      rfl
    have hbody := hdigest receiptRow hmem (hrowId.symm.trans hclash)
    have hrowBody : receiptRow.body.withdrawalReceiptId = receiptRow.withdrawalReceiptId := by
      conv_lhs => rw [hmade]
      rfl
    refine hne (hrowBody.symm.trans ?_)
    rw [hbody]
    rfl
  · exact hother hclash
  · exact hne hclash

theorem planForSession_eq (hok : LedgerOk rt.toRuntime store.ledger) {session : Session} {receipt : WithdrawalReceipt}
    (hsession : session ∈ store.ledger.sessions) (hid : opaqueId session.id "session id" = .ok ())
    (howned : session.participantId = some participant.id) (hparticipant : participant ∈ store.ledger.participants)
    (hreceipt : receipt ∈ store.ledger.withdrawalReceipts) (howner : receipt.participantId = participant.id) :
    planForSession rt store session.id = .ok (planOf rt store participant receipt.id) := by
  have hkind : session.sessionKind = .research :=
    hok.wellformed.owned_research session hsession (by rw [howned]; exact nofun)
  have hfound : (store.ledger.session? session.id).filter (·.sessionKind = .research) = some session := by
    rw [hok.wellformed.session_of_mem hsession]
    exact Option.filter_eq_some_iff.mpr ⟨rfl, by simpa using hkind⟩
  have hof : store.ledger.participantOf? session = some participant := by
    rw [Database.participantOf?, howned, Option.bind_some]
    exact hok.wellformed.participant_of_mem hparticipant
  have hwithdrawn : store.ledger.withdrawalReceipt? participant.id = some receipt := by
    rw [Database.withdrawalReceipt?, ← howner]
    exact hok.receipts.find hreceipt
  simp only [planForSession, bind_ok_iff, orError_eq_ok]
  exact ⟨(), by rw [hid]; rfl, session, hfound, participant, hof, receipt, hwithdrawn, rfl⟩

theorem Finalizable.replay (hsound : Sound rt world) (h : Finalizable rt world) (hidle : world.progress = none)
    (hplan : planForSession rt world.store sessionId = .ok plan)
    (hcurrent : AuthoritiesCurrent world.store plan.body.participantId now) {row : ReceiptRow}
    (hrow : row ∈ world.store.receipts) (hrowOwner : row.participantId = plan.body.participantId) :
    row.body = ReceiptBody.fromPlan plan ∧ finalize rt world.store sessionId now = .ok (world.store, row.body) := by
  obtain ⟨session, hsession, participant, hparticipant, receipt, hreceipt, rfl, howned, howner, rfl⟩ := plan_eq hplan
  have hmade := (h.receipts row hrow).eq_planOf hsound.ledger hparticipant hrowOwner hreceipt howner
  have hcomplete : (planOf rt world.store participant receipt.id).body.complete = true := by
    obtain ⟨other, -, hcomplete, hother, -⟩ := h.receipts row hrow
    have hotherId : other.id = row.participantId := by
      rw [hother]
      rfl
    have hreceiptId : row.withdrawalReceiptId = receipt.id := by
      rw [hmade]
      rfl
    rw [hotherId, hrowOwner, hreceiptId] at hcomplete
    exact hcomplete.body
  have hevidence : ∀ target ∈ (planOf rt world.store participant receipt.id).body.targets,
      TerminalEvidence world.store (planOf rt world.store participant receipt.id).body now target :=
    h.evidence hsound hidle hreceipt howner hcomplete hcurrent
  have hfound : (world.store.receipts.find? fun row => session.participantId = some row.participantId) = some row := by
    have hfind := hsound.keys.receipts.find hrow
    rw [hrowOwner] at hfind
    rw [← hfind, howned]
    refine congrArg (fun p => world.store.receipts.find? p) (funext fun other => ?_)
    exact decide_eq_decide.mpr (by rw [Option.some_inj, eq_comm]; rfl)
  have hreplay : existingReceipt rt world.store session.id = .ok (some row.body) := by
    rw [existingReceipt, hsound.ledger.wellformed.session_of_mem hsession, Option.bind_some, hfound, hmade]
    exact if_pos rfl
  have hbody : row.body = ReceiptBody.fromPlan (planOf rt world.store participant receipt.id) := by
    rw [hmade]
    rfl
  refine ⟨hbody, ?_⟩
  simp only [finalize, bind_ok_iff]
  refine ⟨_, hplan, _, hreplay, ?_⟩
  simp only [bind_ok_iff, require_eq_ok]
  exact ⟨(), hcomplete, (), hevidence, (), hbody, rfl⟩

theorem Finalizable.finalizes (hsound : Sound rt world) (h : Finalizable rt world) (hidle : world.progress = none)
    (hplan : planForSession rt world.store sessionId = .ok plan)
    (hcomplete : plan.body.complete = true) (hcurrent : AuthoritiesCurrent world.store plan.body.participantId now)
    (hdigest : NoCollision rt world.store (ReceiptBody.fromPlan plan)) :
    ∃ store', finalize rt world.store sessionId now = .ok (store', ReceiptBody.fromPlan plan) ∧
      ∃ receipt ∈ store'.receipts, receipt.participantId = plan.body.participantId ∧
        receipt.body = ReceiptBody.fromPlan plan := by
  by_cases hexists : ∃ row ∈ world.store.receipts, row.participantId = plan.body.participantId
  · obtain ⟨row, hrow, hrowOwner⟩ := hexists
    obtain ⟨hbody, hreplay⟩ := h.replay hsound hidle hplan hcurrent hrow hrowOwner
    exact ⟨world.store, hbody ▸ hreplay, row, hrow, hrowOwner, hbody⟩
  obtain ⟨session, hsession, participant, hparticipant, receipt, hreceipt, rfl, howned, howner, rfl⟩ := plan_eq hplan
  have hother : ∀ row ∈ world.store.receipts, row.participantId ≠ participant.id :=
    fun row hrow heq => hexists ⟨row, hrow, heq⟩
  have hevidence : ∀ target ∈ (planOf rt world.store participant receipt.id).body.targets,
      TerminalEvidence world.store (planOf rt world.store participant receipt.id).body now target :=
    h.evidence hsound hidle hreceipt howner hcomplete hcurrent
  have hnone : (world.store.receipts.find? fun row => session.participantId = some row.participantId) = none := by
    refine List.find?_eq_none.mpr fun row hrow hfound => hother row hrow ?_
    rw [decide_eq_true_eq, howned] at hfound
    exact (Option.some.inj hfound).symm
  have hfree : ∀ row ∈ world.store.receipts,
      ¬ row.Clash (newReceipt rt (planOf rt world.store participant receipt.id)) := fun row hrow =>
    (h.receipts row hrow).free hsound.ledger hrow hreceipt howner hdigest (hother row hrow)
  have hfirst : existingReceipt rt world.store session.id = .ok none := by
    rw [existingReceipt, hsound.ledger.wellformed.session_of_mem hsession, Option.bind_some, hnone]
  refine ⟨finalizedStore rt world.store (planOf rt world.store participant receipt.id), ?_,
    newReceipt rt (planOf rt world.store participant receipt.id), List.mem_append_right _ (List.mem_singleton_self _),
    rfl, rfl⟩
  simp only [finalize, bind_ok_iff]
  refine ⟨_, hplan, _, hfirst, ?_⟩
  simp only [bind_ok_iff, require_eq_ok, insert_eq_ok]
  exact ⟨(), hcomplete, (), hevidence, _, ⟨hfree, rfl⟩, rfl⟩

theorem receipt_kept (h : ReachableBy (system rt) KeepsRun world) (hlater : LaterBy (system rt) KeepsRun world world')
    {receipt : ReceiptRow} (hmem : receipt ∈ world.store.receipts) : receipt ∈ world'.store.receipts := by
  induction hlater with
  | refl => exact hmem
  | @tail mid last hmid hstep ih =>
    obtain ⟨action, -, rfl⟩ := hstep
    obtain ⟨hsound, -⟩ := finalizable_of_reachableBy (LaterBy.reachableBy hmid h)
    have hevent := step_event hsound.ledger hsound.keys.challenges action
    obtain ⟨_, hkept, rfl⟩ := (hevent.growth hsound).receipts.forward ih
    exact hkept

/-- Where no run is interrupted after a deletion, a complete plan can be finalized, and each later call for a session of
the participant gives the same receipt. -/
theorem complete_finalized (h : ReachableBy (system rt) KeepsRun world) (hidle : world.progress = none)
    (hplan : planForSession rt world.store sessionId = .ok plan)
    (hcomplete : plan.body.complete = true) (hcurrent : AuthoritiesCurrent world.store plan.body.participantId now)
    (hdigest : NoCollision rt world.store (ReceiptBody.fromPlan plan)) :
    ∃ store', finalize rt world.store sessionId now = .ok (store', ReceiptBody.fromPlan plan) ∧
      ∀ world', LaterBy (system rt) KeepsRun (world.withStore store') world' → world'.progress = none →
        ∀ session ∈ world'.store.ledger.sessions, session.participantId = some plan.body.participantId →
          opaqueId session.id "session id" = .ok () → ∀ now', AuthoritiesCurrent world'.store plan.body.participantId now' →
            finalize rt world'.store session.id now' = .ok (world'.store, ReceiptBody.fromPlan plan) := by
  obtain ⟨hsound, hfinalizable⟩ := finalizable_of_reachableBy h
  obtain ⟨store', hfinalize, receipt, hreceipt, howner, hbody⟩ :=
    hfinalizable.finalizes hsound hidle hplan hcomplete hcurrent hdigest
  refine ⟨store', hfinalize, fun world' hlater hidle' session hsession howned hid now' hcurrent' => ?_⟩
  have hnext : ReachableBy (system rt) KeepsRun (world.withStore store') := by
    refine .step (a := .finalize sessionId now) h ?_ ?_
    · intro progress hactive
      rw [hidle] at hactive
      cases hactive
    · change world.step rt (.finalize sessionId now) = _
      simp only [World.step, hidle, World.idleStep, hfinalize]
  obtain ⟨hsound', hfinalizable'⟩ := finalizable_of_reachableBy (hlater.reachableBy hnext)
  have hkept := receipt_kept hnext hlater hreceipt
  obtain ⟨participant, hparticipant, -, hmade, withdrawal, hwithdrawal, -, hwithdrawalOwner⟩ :=
    hfinalizable'.receipts receipt hkept
  have hparticipantId : participant.id = plan.body.participantId := by
    rw [← howner, hmade]
    rfl
  have hplan' := planForSession_eq hsound'.ledger hsession hid (howned.trans (congrArg some hparticipantId.symm))
    hparticipant hwithdrawal hwithdrawalOwner
  have hreplay := hfinalizable'.replay hsound' hidle' hplan' (hparticipantId ▸ hcurrent') hkept
    (howner.trans hparticipantId.symm)
  rw [hreplay.2, hbody]

theorem plan_of_complete
    (h : ((planForSession rt store sessionId).toOption.any fun plan => plan.body.complete) = true) :
    ∃ plan, planForSession rt store sessionId = .ok plan ∧ plan.body.complete = true := by
  cases hplan : planForSession rt store sessionId with
  | error e =>
    rw [hplan] at h
    cases h
  | ok plan =>
    rw [hplan] at h
    exact ⟨plan, rfl, h⟩

theorem authoritiesCurrent_of_empty {participantId : String} (h : store.attestations.isEmpty = true) :
    AuthoritiesCurrent store participantId now := by
  intro attestation hmem
  rw [List.isEmpty_iff.mp h] at hmem
  cases hmem

theorem noCollision_of_empty {body : ReceiptBody} (h : store.receipts.isEmpty = true) : NoCollision rt store body := by
  intro row hmem
  rw [List.isEmpty_iff.mp h] at hmem
  cases hmem

theorem complete_finalized_sample : ∃ plan store',
    planForSession Sample.planRuntime (Sample.runActions completedRun).store "research-aaa" = .ok plan ∧
      finalize Sample.planRuntime (Sample.runActions completedRun).store "research-aaa" 200 =
        .ok (store', ReceiptBody.fromPlan plan) := by
  have hreach : ReachableBy (system Sample.planRuntime) KeepsRun (Sample.runActions completedRun) :=
    reachableBy_foldl completedRun (.init rfl) (by decide +kernel)
  obtain ⟨plan, hplan, hcomplete⟩ : ∃ plan,
      planForSession Sample.planRuntime (Sample.runActions completedRun).store "research-aaa" = .ok plan ∧
        plan.body.complete = true := plan_of_complete (by decide +kernel)
  have hidle : (Sample.runActions completedRun).progress = none := by decide +kernel
  obtain ⟨store', hfinalize, -⟩ := complete_finalized hreach hidle hplan hcomplete
    (authoritiesCurrent_of_empty (by decide +kernel)) (noCollision_of_empty (by decide +kernel))
  exact ⟨plan, store', hplan, hfinalize⟩

def interruptedRun : List Action :=
  let first := Sample.started "run-1" (Sample.withdrawn ["a", "b"] ++ Sample.confirmed "x") ++ Sample.deleted "attempt-1" ++
    [.beginTarget "attempt-2",
      .verified { byteSize := 1, sha256 := "x", volumeIdentityDigest := "v", fileIdentityDigest := "f" },
      .deletionBlocked "TARGET_DELETE_FAILED" true]
  Sample.started "run-2" (first ++ Sample.confirmed "y") ++ Sample.deleted "attempt-3" ++ [.completeRun]

/-- Both targets are deleted and the plan is complete, and the receipt is refused. -/
theorem complete_not_finalized : ¬ ∀ world, Reachable (system Sample.planRuntime) world → world.progress = none →
    ∀ sessionId plan now, planForSession Sample.planRuntime world.store sessionId = .ok plan →
      plan.body.complete = true → AuthoritiesCurrent world.store plan.body.participantId now →
        NoCollision Sample.planRuntime world.store (ReceiptBody.fromPlan plan) →
          ∃ result, finalize Sample.planRuntime world.store sessionId now = .ok result := by
  intro hfinalizes
  obtain ⟨plan, hplan, hcomplete⟩ : ∃ plan,
      planForSession Sample.planRuntime (Sample.runActions interruptedRun).store "research-aaa" = .ok plan ∧
        plan.body.complete = true := plan_of_complete (by decide +kernel)
  obtain ⟨result, hresult⟩ := hfinalizes (Sample.runActions interruptedRun) (Sample.runActions_reachable interruptedRun)
    (by decide +kernel) "research-aaa" plan 300 hplan hcomplete (authoritiesCurrent_of_empty (by decide +kernel))
    (noCollision_of_empty (by decide +kernel))
  have hrefused : (finalize Sample.planRuntime (Sample.runActions interruptedRun).store "research-aaa" 300).isOk = false := by
    decide +kernel
  rw [hresult] at hrefused
  cases hrefused

end PduExamObserver.M1R1
