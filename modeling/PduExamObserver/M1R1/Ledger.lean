import PduExamObserver.M1.Replay
import PduExamObserver.M1.Withdrawal
import PduExamObserver.M1R1.Planner

/-! # The ledger under version 3

Version 3 writes the ledger through the operations of `M1Backend`, when an artifact is sealed, when an intent is
recovered and when a receipt completes tasks. Each of these keeps what a withdrawal has closed. -/

namespace PduExamObserver.M1R1
open M1 Table Transition M1Backend
set_option autoImplicit false

variable {rt : M1.Runtime} {allowed : ConsentPolicy} {db mid db' : Database}

structure LedgerOk (rt : M1.Runtime) (db : Database) : Prop where
  wellformed : Wellformed db
  closed : Closed rt db
  receipts : Keyed WithdrawalReceipt.participantId db.withdrawalReceipts
  receiptIds : Keyed WithdrawalReceipt.id db.withdrawalReceipts
  subjects : ∀ receipt ∈ db.withdrawalReceipts, receipt.subjectSessionId ∈ db.sessionIdsOf receipt.participantId

def taskIdentity (task : WithdrawalTask) : String × String × String :=
  (task.id, task.withdrawalSubjectSessionId, task.artifactId)

def ownTasks (db : Database) (participantId : String) : List WithdrawalTask :=
  db.withdrawalTasks.filter fun task => task.withdrawalSubjectSessionId ∈ db.sessionIdsOf participantId

structure LedgerStep (db db' : Database) : Prop where
  persists : Persists db db'
  withdrawn : ∀ id, Withdrawn db id → Withdrawn db' id
  sessionIds : ∀ id, Withdrawn db id → db'.sessionIdsOf id = db.sessionIdsOf id
  tasks : ∀ id, Withdrawn db id → (ownTasks db' id).map taskIdentity = (ownTasks db id).map taskIdentity
  receipts : db.withdrawalReceipts <+: db'.withdrawalReceipts
  newReceipts : ∀ receipt ∈ db'.withdrawalReceipts,
    receipt ∈ db.withdrawalReceipts ∨ ¬ Withdrawn db receipt.participantId
  registered : ∀ a ∈ db.artifactRegistry, ∃ a' ∈ db'.artifactRegistry, a'.id = a.id ∧ a'.sessionId = a.sessionId
  invalidated : ∀ x, Invalidated db x → Invalidated db' x
  intents : ∀ id, Withdrawn db id → hasPendingLegacyIntent db' id → hasPendingLegacyIntent db id

theorem LedgerStep.refl (db : Database) : LedgerStep db db where
  persists := Persists.refl db
  withdrawn _ h := h
  sessionIds _ _ := rfl
  tasks _ _ := rfl
  receipts := List.prefix_refl _
  newReceipts _ h := .inl h
  registered a ha := ⟨a, ha, rfl, rfl⟩
  invalidated _ h := h
  intents _ _ h := h

theorem LedgerStep.trans (h : LedgerStep db mid) (h' : LedgerStep mid db') : LedgerStep db db' where
  persists := h.persists.trans h'.persists
  withdrawn id hw := h'.withdrawn id (h.withdrawn id hw)
  sessionIds id hw := (h'.sessionIds id (h.withdrawn id hw)).trans (h.sessionIds id hw)
  tasks id hw := (h'.tasks id (h.withdrawn id hw)).trans (h.tasks id hw)
  receipts := h.receipts.trans h'.receipts
  newReceipts receipt hmem := by
    rcases h'.newReceipts receipt hmem with hmid | hnew
    · exact h.newReceipts receipt hmid
    · exact .inr fun hw => hnew (h.withdrawn _ hw)
  registered a ha := by
    obtain ⟨b, hb, hid, hsession⟩ := h.registered a ha
    obtain ⟨c, hc, hid', hsession'⟩ := h'.registered b hb
    exact ⟨c, hc, hid'.trans hid, hsession'.trans hsession⟩
  invalidated x hx := h'.invalidated x (h.invalidated x hx)
  intents id hw hp := h.intents id hw (h'.intents id (h.withdrawn id hw) hp)

/-! ## Steps of the ledger -/

theorem LedgerOk.keeps (hok : LedgerOk rt db) (hwf : Wellformed mid) (h : Keeps db mid) : LedgerOk rt mid where
  wellformed := hwf
  closed := hok.closed.keeps hok.wellformed h
  receipts := by
    rw [h.receipts]
    exact hok.receipts
  receiptIds := by
    rw [h.receipts]
    exact hok.receiptIds
  subjects receipt hmem := by
    rw [h.receipts] at hmem
    rw [h.sessionIds _ (hok.closed.receipts_withdrawn receipt hmem)]
    exact hok.subjects receipt hmem

theorem Keeps.ledgerStep (h : Keeps db mid) (hpersists : Persists db mid)
    (hintents : ∀ id, Withdrawn db id → hasPendingLegacyIntent mid id → hasPendingLegacyIntent db id) :
    LedgerStep db mid where
  persists := hpersists
  withdrawn id := (h.withdrawn_iff id).mpr
  sessionIds := h.sessionIds
  tasks id hw := by rw [ownTasks, ownTasks, h.tasks, h.sessionIds id hw]
  receipts := by rw [h.receipts]
  newReceipts receipt hmem := by
    rw [h.receipts] at hmem
    exact .inl hmem
  registered a ha := by
    obtain ⟨new, hregistry, -⟩ := h.registry
    refine ⟨a, ?_, rfl, rfl⟩
    rw [hregistry]
    exact List.mem_append_left _ ha
  invalidated x := (h.invalidated_iff x).mpr
  intents := hintents

theorem LedgerOk.withdraws {sessionId participantId : String} (hok : LedgerOk rt db) (hwf : Wellformed mid)
    (hopen : ¬ Withdrawn db participantId) (h : Withdraws rt sessionId participantId db mid) : LedgerOk rt mid := by
  obtain ⟨receipt, hreceipts, hparticipant, hsubject, -, hfree⟩ := h.receipt
  refine ⟨hwf, h.closed hok.wellformed hok.closed hopen, ?_, ?_, ?_⟩
  · rw [hreceipts]
    refine hok.receipts.concat fun old hold heq => hopen ?_
    have hwithdrawn := hok.closed.receipts_withdrawn old hold
    rwa [heq, hparticipant] at hwithdrawn
  · rw [hreceipts]
    exact hok.receiptIds.concat hfree
  · intro other hother
    rw [h.sessionIdsOf]
    rw [hreceipts] at hother
    rcases List.mem_append.mp hother with hold | hnew
    · exact hok.subjects other hold
    · obtain rfl := List.mem_singleton.mp hnew
      rw [hparticipant, hsubject]
      exact h.owned

theorem Withdraws.ledgerStep {sessionId participantId : String} (hok : LedgerOk rt db)
    (hopen : ¬ Withdrawn db participantId) (h : Withdraws rt sessionId participantId db mid)
    (hpersists : Persists db mid)
    (hintents : ∀ id, Withdrawn db id → hasPendingLegacyIntent mid id → hasPendingLegacyIntent db id) :
    LedgerStep db mid := by
  obtain ⟨receipt, hreceipts, hparticipant, -⟩ := h.receipt
  refine ⟨hpersists, fun id hw => (h.withdrawn_iff id).mpr (.inl hw), fun id _ => h.sessionIdsOf id, ?_, ?_, ?_, ?_,
    fun x hx => (h.invalidated_iff x).mpr (.inl hx), hintents⟩
  · intro id hw
    obtain ⟨new, htasks, -, hnew⟩ := h.tasks
    -- the new tasks are those of another participant
    have hothers : new.filter (fun task => decide (task.withdrawalSubjectSessionId ∈ db.sessionIdsOf id)) = [] := by
      refine List.filter_eq_nil_iff.mpr fun task htask hmem => ?_
      rw [decide_eq_true_eq, (hnew task htask).1] at hmem
      have hsame := hok.wellformed.owner_unique hmem h.owned
      exact hopen (hsame ▸ hw)
    rw [ownTasks, ownTasks, h.sessionIdsOf, htasks, List.filter_append, hothers, List.append_nil]
  · rw [hreceipts]
    exact List.prefix_append _ _
  · intro other hother
    rw [hreceipts] at hother
    rcases List.mem_append.mp hother with hold | hnew
    · exact .inl hold
    · obtain rfl := List.mem_singleton.mp hnew
      rw [hparticipant]
      exact .inr hopen
  · intro a ha
    rw [h.registry]
    refine ⟨_, mem_update.mpr ⟨a, ha, rfl⟩, ?_⟩
    split
    · exact ⟨rfl, rfl⟩
    · exact ⟨rfl, rfl⟩

theorem Change.pendingIntents (hwf : Wellformed db) (h : Change rt allowed db mid) (id : String)
    (hw : Withdrawn db id) (hids : mid.sessionIdsOf id = db.sessionIdsOf id) (hpending : hasPendingLegacyIntent mid id) :
    hasPendingLegacyIntent db id := by
  obtain ⟨intent, hmem, howned, hstatus⟩ := hpending
  rw [hids] at howned
  cases h with
  | writeIntent new hmutable =>
    rcases List.mem_append.mp hmem with hold | hnew
    · exact ⟨intent, hold, howned, hstatus⟩
    · obtain rfl := List.mem_singleton.mp hnew
      exact absurd howned (mutable_not_withdrawn hwf hmutable hw)
  | recover row =>
    obtain ⟨old, hold, rfl⟩ := mem_update.mp hmem
    split at hstatus
    · cases hstatus
    · next hne =>
      rw [if_neg hne] at howned
      exact ⟨old, hold, howned, hstatus⟩
  | withdraw clock session participantId receipt =>
    change intent ∈ (closeParticipant _ _ _ _ _).writeIntents at hmem
    rw [closeParticipant_writeIntents] at hmem
    exact ⟨intent, hmem, howned, hstatus⟩
  | nothing | participant | demoSession | researchSession | lifecycle | artifact | dependency
  | consent => exact ⟨intent, hmem, howned, hstatus⟩

theorem LedgerOk.change (hok : LedgerOk rt db) (h : Change rt allowed db mid) :
    LedgerOk rt mid ∧ LedgerStep db mid := by
  have hwf : Wellformed mid := hok.wellformed.change h
  rcases h.keeps_or_withdraws hok.wellformed hok.closed with hkeeps | ⟨sessionId, participantId, hopen, hwithdraws⟩
  · refine ⟨hok.keeps hwf hkeeps, Keeps.ledgerStep hkeeps h.persists fun id hw => ?_⟩
    exact Change.pendingIntents hok.wellformed h id hw (hkeeps.sessionIds id hw)
  · refine ⟨hok.withdraws hwf hopen hwithdraws, Withdraws.ledgerStep hok hopen hwithdraws h.persists fun id hw => ?_⟩
    exact Change.pendingIntents hok.wellformed h id hw (hwithdraws.sessionIdsOf id)

theorem LedgerOk.quiet (hok : LedgerOk rt mid) (h : Quiet mid db') : LedgerOk rt db' ∧ LedgerStep mid db' := by
  refine ⟨hok.keeps (hok.wellformed.quiet h) h.keeps, Keeps.ledgerStep h.keeps h.persists fun id _ => ?_⟩
  rintro ⟨intent, hmem, howned, hstatus⟩
  rw [h.writeIntents] at hmem
  rw [h.sessionIdsOf] at howned
  exact ⟨intent, hmem, howned, hstatus⟩

theorem LedgerOk.commits (hok : LedgerOk rt db) (h : Commits rt allowed db db') :
    LedgerOk rt db' ∧ LedgerStep db db' := by
  obtain ⟨mid, hchange, hquiet⟩ := h
  obtain ⟨hmid, hstep⟩ := hok.change hchange
  obtain ⟨hok', hstep'⟩ := hmid.quiet hquiet
  exact ⟨hok', hstep.trans hstep'⟩

/-- The session fails, as in `_terminalize_recovery`. -/
def failSession (db : Database) (sessionId : String) : Database :=
  { db with
    sessions := update (fun s => s.id = sessionId) (fun s => { s with state := .failed, collectionBlocked := true })
      db.sessions }

theorem LedgerOk.failSession {sessionId : String} (hok : LedgerOk rt db)
    (hstate : ∀ s ∈ db.sessions, s.id = sessionId → s.state ≠ .withdrawn) :
    LedgerOk rt (failSession db sessionId) ∧ LedgerStep db (failSession db sessionId) := by
  have hkeeps : Keeps db (M1R1.failSession db sessionId) :=
    Keeps.of_sessions (fun _ => ⟨rfl, rfl⟩) fun _ _ s hs hid _ hwithdrawn => absurd hwithdrawn (hstate s hs hid)
  have hwf : Wellformed (M1R1.failSession db sessionId) :=
    { hok.wellformed with
      sessions := hok.wellformed.sessions.update fun _ _ => rfl
      owned_research := owned_update hok.wellformed.owned_research fun _ => ⟨rfl, rfl⟩
      owner_exists := owner_update hok.wellformed.owner_exists fun _ => rfl }
  refine ⟨hok.keeps hwf hkeeps, Keeps.ledgerStep hkeeps ?_ fun id hw => ?_⟩
  · exact { Persists.refl db with sessions := by apply identity_update; intro s; rfl }
  · rintro ⟨intent, hmem, howned, hstatus⟩
    rw [hkeeps.sessionIds id hw] at howned
    exact ⟨intent, hmem, howned, hstatus⟩

/-! ## Completed tasks -/

def completeTask (task : WithdrawalTask) : WithdrawalTask := { task with status := .completed }

def completeTasks (db : Database) (p : WithdrawalTask → Prop) [DecidablePred p] : Database :=
  { db with withdrawalTasks := update p completeTask db.withdrawalTasks }

section Completion

variable {p : WithdrawalTask → Prop} [DecidablePred p] {tasks : List WithdrawalTask}

theorem taskIdentity_ite (task : WithdrawalTask) :
    taskIdentity (if p task then completeTask task else task) = taskIdentity task := by
  split
  · rfl
  · rfl

theorem subject_ite (task : WithdrawalTask) :
    (if p task then completeTask task else task).withdrawalSubjectSessionId = task.withdrawalSubjectSessionId :=
  congrArg (fun identity => identity.2.1) (taskIdentity_ite task)

theorem ownTasks_completeTasks (id : String) :
    (ownTasks (completeTasks db p) id).map taskIdentity = (ownTasks db id).map taskIdentity := by
  change ((update p completeTask db.withdrawalTasks).filter fun task =>
    decide (task.withdrawalSubjectSessionId ∈ db.sessionIdsOf id)).map taskIdentity = _
  rw [update, List.filter_map, List.map_map, ownTasks]
  have hsame : ((fun task => decide (task.withdrawalSubjectSessionId ∈ db.sessionIdsOf id)) ∘
      fun task => if p task then completeTask task else task) =
      fun task : WithdrawalTask => decide (task.withdrawalSubjectSessionId ∈ db.sessionIdsOf id) := by
    funext task
    rw [Function.comp_apply, subject_ite]
  rw [hsame]
  exact List.map_congr_left fun task _ => taskIdentity_ite task

theorem LedgerOk.completeTasks (hok : LedgerOk rt db) :
    LedgerOk rt (completeTasks db p) ∧ LedgerStep db (completeTasks db p) := by
  have hclosed : Closed rt (M1R1.completeTasks db p) := by
    refine { hok.closed with receipts := ?_, tasks_withdrawn := ?_, tasks_keyed := ?_, task_ids := ?_ }
    · intro id hw
      obtain ⟨receipt, hmem, hreceipted⟩ := hok.closed.receipts id hw
      refine ⟨receipt, hmem, { hreceipted with tasks := fun x => (hreceipted.tasks x).trans ?_ }⟩
      constructor
      · rintro ⟨old, hold, hs, hx⟩
        refine ⟨_, mem_update.mpr ⟨old, hold, rfl⟩, (subject_ite (p := p) old).trans hs, ?_⟩
        exact (congrArg (fun identity => identity.2.2) (taskIdentity_ite (p := p) old)).trans hx
      · rintro ⟨task, htask, hs, hx⟩
        obtain ⟨old, hold, rfl⟩ := mem_update.mp htask
        rw [subject_ite] at hs
        refine ⟨old, hold, hs, ?_⟩
        exact (congrArg (fun identity => identity.2.2) (taskIdentity_ite old)).symm.trans hx
    · intro task htask
      obtain ⟨old, hold, rfl⟩ := mem_update.mp htask
      obtain ⟨id, hw, howned⟩ := hok.closed.tasks_withdrawn old hold
      exact ⟨id, hw, by rw [subject_ite]; exact howned⟩
    · exact hok.closed.tasks_keyed.update fun _ _ => rfl
    · intro task htask
      obtain ⟨old, hold, rfl⟩ := mem_update.mp htask
      obtain ⟨draw, hdraw, hid⟩ := hok.closed.task_ids old hold
      exact ⟨draw, hdraw, (congrArg Prod.fst (taskIdentity_ite old)).trans hid⟩
  refine ⟨{ hok with wellformed := { hok.wellformed with }, closed := hclosed }, ?_⟩
  exact { LedgerStep.refl db with
    tasks := fun id _ => ownTasks_completeTasks id
    persists := { Persists.refl db with } }

end Completion

end PduExamObserver.M1R1
