import PduExamObserver.M1R1.SessionLog

/-! # What links the rows of the ledger

A dependency joins two artifacts of one session, and every task is one of a receipt. From it a withdrawal finds its
lineage registered and its ids free, so that no constraint can fail it. -/

namespace PduExamObserver.M1R1
open M1 Table Transition M1Backend
set_option autoImplicit false

variable {rt : M1.Runtime} {db db' mid : Database}

structure Linked (rt : M1.Runtime) (db : Database) : Prop where
  ok : LedgerOk rt db
  gapless : Gapless db
  drawn : DrawnIds rt db
  dependencies : ∀ e ∈ db.artifactDependencies, ∃ a ∈ db.artifactRegistry, ∃ b ∈ db.artifactRegistry,
    a.id = e.1 ∧ b.id = e.2 ∧ a.sessionId = b.sessionId
  subjects : ∀ task ∈ db.withdrawalTasks, ∃ receipt ∈ db.withdrawalReceipts,
    receipt.subjectSessionId = task.withdrawalSubjectSessionId

/-! ## Steps -/

theorem artifact_of_owner (h : db'.artifactRegistry.map Artifact.owner = db.artifactRegistry.map Artifact.owner)
    {a : Artifact} (ha : a ∈ db.artifactRegistry) :
    ∃ a' ∈ db'.artifactRegistry, a'.id = a.id ∧ a'.sessionId = a.sessionId := by
  have hmem : a.owner ∈ db'.artifactRegistry.map Artifact.owner := h ▸ List.mem_map_of_mem ha
  obtain ⟨a', ha', heq⟩ := List.mem_map.mp hmem
  exact ⟨a', ha', congrArg Prod.fst heq, congrArg Prod.snd heq⟩

theorem dependencies_of_owner
    (hartifacts : db'.artifactRegistry.map Artifact.owner = db.artifactRegistry.map Artifact.owner)
    (hdependencies : db'.artifactDependencies = db.artifactDependencies) (h : Linked rt db) :
    ∀ e ∈ db'.artifactDependencies, ∃ a ∈ db'.artifactRegistry, ∃ b ∈ db'.artifactRegistry,
      a.id = e.1 ∧ b.id = e.2 ∧ a.sessionId = b.sessionId := by
  intro e he
  rw [hdependencies] at he
  obtain ⟨a, ha, b, hb, hparent, hchild, hsession⟩ := h.dependencies e he
  obtain ⟨a', ha', haid, hasession⟩ := artifact_of_owner hartifacts ha
  obtain ⟨b', hb', hbid, hbsession⟩ := artifact_of_owner hartifacts hb
  exact ⟨a', ha', b', hb', haid.trans hparent, hbid.trans hchild, by rw [hasession, hbsession, hsession]⟩

theorem Commits.subjects {allowed : ConsentPolicy} (hok : LedgerOk rt db) (h : Commits rt allowed db db')
    (hsubjects : ∀ task ∈ db.withdrawalTasks, ∃ receipt ∈ db.withdrawalReceipts,
      receipt.subjectSessionId = task.withdrawalSubjectSessionId) :
    ∀ task ∈ db'.withdrawalTasks, ∃ receipt ∈ db'.withdrawalReceipts,
      receipt.subjectSessionId = task.withdrawalSubjectSessionId := by
  obtain ⟨mid, hchange, hquiet⟩ := h
  have hkept := hquiet.keeps
  rw [hkept.tasks, hkept.receipts]
  rcases hchange.keeps_or_withdraws hok.wellformed hok.closed with hkeeps | ⟨sessionId, participantId, -, hwithdraws⟩
  · rw [hkeeps.tasks, hkeeps.receipts]
    exact hsubjects
  · obtain ⟨new, htasks, -, hnew⟩ := hwithdraws.tasks
    obtain ⟨receipt, hreceipts, -, hsubject, -⟩ := hwithdraws.receipt
    rw [htasks, hreceipts]
    intro task htask
    rcases List.mem_append.mp htask with hold | hadded
    · obtain ⟨old, hmem, heq⟩ := hsubjects task hold
      exact ⟨old, List.mem_append_left _ hmem, heq⟩
    · exact ⟨receipt, List.mem_append_right _ (List.mem_singleton_self _), hsubject.trans (hnew task hadded).1.symm⟩

variable {clock : Clock} {participantId sessionId : String}

namespace Linked

theorem empty (rt : M1.Runtime) : Linked rt {} where
  ok := ⟨wellformed_empty, closed_empty rt, .nil, .nil, fun _ h => (nomatch h)⟩
  gapless := .empty
  drawn := .empty rt
  dependencies _ h := (nomatch h)
  subjects _ h := (nomatch h)

theorem action {action : M1Action} (h : Linked rt db) (hregisters : action.registers = false)
    (hrun : action.run rt clock db = .ok db') : Linked rt db' := by
  have hlogged := action.run_logged hrun
  have hcommits : Commits rt anyConsent db db' := M1Action.run_commits (confirms_anyConsent _ _) hrun
  rw [hregisters] at hlogged
  obtain ⟨hartifacts, hdependencies⟩ := hlogged.artifacts
  exact ⟨(h.ok.commits hcommits).1, h.gapless.logged hlogged, h.drawn.logged hlogged,
    dependencies_of_owner hartifacts hdependencies h, Commits.subjects h.ok hcommits h.subjects⟩

/-! ## The lineage of a participant -/

theorem descends_session (h : Linked rt db) {x y : String} (hdescends : Descends db.artifactDependencies x y)
    {a : Artifact} (ha : a ∈ db.artifactRegistry) (hid : a.id = x) :
    ∃ b ∈ db.artifactRegistry, b.id = y ∧ b.sessionId = a.sessionId := by
  induction hdescends with
  | refl => exact ⟨a, ha, hid, rfl⟩
  | tail _ hedge ih =>
    obtain ⟨b, hb, hbid, hbsession⟩ := ih
    obtain ⟨parent, hparent, child, hchild, hparentId, hchildId, hsession⟩ := h.dependencies _ hedge
    have hsame : parent = b := h.ok.wellformed.artifacts.eq hparent hb (hparentId.trans hbid.symm)
    exact ⟨child, hchild, hchildId, by rw [← hsession, hsame, hbsession]⟩

theorem lineage (h : Linked rt db) {x : String} (hx : x ∈ withdrawalLineage db participantId) :
    ∃ a ∈ db.artifactRegistry, a.id = x ∧ a.sessionId ∈ db.sessionIdsOf participantId := by
  obtain ⟨root, hroot, howned, hdescends⟩ := mem_withdrawalLineage.mp hx
  obtain ⟨a, ha, hid, hsession⟩ := h.descends_session hdescends hroot rfl
  exact ⟨a, ha, hid, hsession ▸ howned⟩

variable {task : WithdrawalTask}

theorem task_receipt (h : Linked rt db) (htask : task ∈ db.withdrawalTasks) (howned : task.withdrawalSubjectSessionId ∈ db.sessionIdsOf participantId) :
    ∃ receipt ∈ db.withdrawalReceipts, Receipted db participantId receipt ∧
      receipt.subjectSessionId = task.withdrawalSubjectSessionId := by
  obtain ⟨receipt, hreceipt, hsubject⟩ := h.subjects task htask
  have hown := h.ok.subjects receipt hreceipt
  rw [hsubject] at hown
  have hparticipant : receipt.participantId = participantId := h.ok.wellformed.owner_unique hown howned
  obtain ⟨found, hfound, hreceipted⟩ := h.ok.closed.receipts _ (h.ok.closed.receipts_withdrawn receipt hreceipt)
  have hsame : found = receipt := h.ok.receipts.eq hfound hreceipt hreceipted.participant
  rw [hparticipant] at hreceipted
  exact ⟨receipt, hreceipt, hsame ▸ hreceipted, hsubject⟩

theorem task_artifact (h : Linked rt db) (htask : task ∈ db.withdrawalTasks) (howned : task.withdrawalSubjectSessionId ∈ db.sessionIdsOf participantId) :
    ∃ a ∈ db.artifactRegistry, a.id = task.artifactId ∧ a.sessionId ∈ db.sessionIdsOf participantId := by
  obtain ⟨receipt, -, hreceipted, hsubject⟩ := h.task_receipt htask howned
  exact h.lineage ((hreceipted.tasks task.artifactId).mpr ⟨task, htask, hsubject.symm, rfl⟩)

theorem task_unique (h : Linked rt db) {other : WithdrawalTask}
    (htask : task ∈ db.withdrawalTasks) (howned : task.withdrawalSubjectSessionId ∈ db.sessionIdsOf participantId)
    (hother : other ∈ db.withdrawalTasks) (howned' : other.withdrawalSubjectSessionId ∈ db.sessionIdsOf participantId)
    (hartifact : task.artifactId = other.artifactId) : task = other := by
  obtain ⟨receipt, hreceipt, hreceipted, hsubject⟩ := h.task_receipt htask howned
  obtain ⟨receipt', hreceipt', hreceipted', hsubject'⟩ := h.task_receipt hother howned'
  have hsame : receipt = receipt' :=
    h.ok.receipts.eq hreceipt hreceipt' (hreceipted.participant.trans hreceipted'.participant.symm)
  have hsubjects : task.withdrawalSubjectSessionId = other.withdrawalSubjectSessionId := by
    rw [← hsubject, ← hsubject', hsame]
  exact h.ok.closed.tasks_keyed.eq htask hother (Prod.ext hsubjects hartifact)

end Linked

/-! ## Withdrawals that no constraint fails -/

theorem event_error {eventType : String} {payload : Dict} {row : Session} {e : M1Error} (h : Gapless db)
    (hrow : db.session? sessionId = some row) : event db sessionId eventType payload ≠ .error e := by
  obtain ⟨result, hok⟩ := h.event_ok hrow eventType payload
  rw [hok]
  exact nofun

theorem closeParticipant_session (rt : M1.Runtime) (clock : Clock) (participantId : String)
    {row : Session} (hrow : db.session? sessionId = some row) :
    ∃ row', (closeParticipant rt clock sessionId participantId db).session? sessionId = some row' := by
  have hid : row.id = sessionId := by simpa using List.find?_some hrow
  have hids : (closeParticipant rt clock sessionId participantId db).sessions.map Session.id =
      db.sessions.map Session.id := by
    rw [closeParticipant_sessions]
    exact map_update Session.id fun _ _ => rfl
  have hmem : row.id ∈ (closeParticipant rt clock sessionId participantId db).sessions.map Session.id :=
    hids ▸ List.mem_map_of_mem (List.mem_of_find?_eq_some hrow)
  obtain ⟨row', hmem', heq⟩ := List.mem_map.mp hmem
  refine Option.isSome_iff_exists.mp (List.find?_isSome.mpr ⟨row', hmem', ?_⟩)
  simpa using heq.trans hid

theorem Linked.withdrawOperation_error {pseudonym : String}
    (h : Linked rt db) : withdrawOperation rt clock sessionId participantId pseudonym db ≠ .error .integrityError := by
  intro herror
  unfold withdrawOperation at herror
  rcases bind_error_iff.mp herror with hmissing | ⟨session, hsession, herror⟩
  · cases (orError_eq_error.mp hmissing).2
  rcases bind_error_iff.mp herror with hother | ⟨_, howner, herror⟩
  · cases (require_eq_error.mp hother).2
  cases hreceipt : db.withdrawalReceipt? participantId with
  | some receipt =>
    simp only [hreceipt] at herror
    cases herror
  | none =>
    simp only [hreceipt, Database.token] at herror
    obtain ⟨hrow, -⟩ := Option.filter_eq_some_iff.mp (orError_eq_ok.mp hsession)
    rcases bind_error_iff.mp herror with hunregistered | ⟨_, -, herror⟩
    · -- the lineage is registered
      obtain ⟨hunregistered, -⟩ := require_eq_error.mp hunregistered
      refine hunregistered fun artifactId hmem => ?_
      rw [markWithdrawn_lineage] at hmem
      obtain ⟨a, ha, hid, -⟩ := h.lineage hmem
      exact List.find?_isSome.mpr ⟨a, ha, by simpa using hid⟩
    have hsame := closeParticipant_same rt clock sessionId participantId db
    have hclosed : Gapless (closeParticipant rt clock sessionId participantId db) :=
      h.gapless.same hsame.counters hsame.events
    rcases bind_error_iff.mp herror with hevent | ⟨⟨mid, published⟩, hevent, herror⟩
    · obtain ⟨row', hrow'⟩ := closeParticipant_session rt clock participantId hrow
      exact event_error hclosed hrow' hevent
    have hlogged : Logged rt false db mid := logged_event hevent hsame
    have hdrawn : DrawnIds rt mid := h.drawn.logged hlogged
    rcases bind_error_iff.mp herror with haudit | ⟨audits, -, herror⟩
    · obtain ⟨e, he, hclash⟩ := (insert_eq_error.mp haudit).1
      exact hdrawn.audits e he mid.tokensDrawn (Nat.le_refl _) hclash
    rcases bind_error_iff.mp herror with hinsert | ⟨receipts, -, herror⟩
    · obtain ⟨receipt, hmem, hid | hparticipant⟩ := (insert_eq_error.mp hinsert).1
      · obtain ⟨draw, hdraw, hdrawnId⟩ := hdrawn.receipts receipt hmem
        have hsameDraw : draw = mid.tokensDrawn + 1 :=
          rt.token_inj ((String.append_right_inj _).mp (hdrawnId.symm.trans hid))
        omega
      · have hkept : mid.withdrawalReceipts = db.withdrawalReceipts :=
          (event_quiet hevent).withdrawalReceipts.trans closeParticipant_withdrawalReceipts
        have hmem' : receipt ∈ db.withdrawalReceipts := hkept ▸ hmem
        exact absurd hparticipant (by simpa using List.find?_eq_none.mp hreceipt receipt hmem')
    · cases herror

theorem withdrawOperation_records {pseudonym : String} {response : Dict}
    (hop : withdrawOperation rt clock sessionId participantId pseudonym db = .ok (db', response)) :
    db'.idempotencyRecords = db.idempotencyRecords := by
  simp only [withdrawOperation, bind_ok_iff, orError_eq_ok, require_eq_ok] at hop
  obtain ⟨session, -, _, -, hop⟩ := hop
  cases hreceipt : db.withdrawalReceipt? participantId with
  | some receipt =>
    simp only [hreceipt, pure_eq_ok, Prod.mk.injEq] at hop
    obtain ⟨rfl, -⟩ := hop
    rfl
  | none =>
    simp only [hreceipt, Database.token, bind_ok_iff, require_eq_ok, pure_eq_ok, Prod.mk.injEq] at hop
    obtain ⟨_, -, ⟨mid, published⟩, hevent, audits, -, receipts, -, rfl, -⟩ := hop
    simp only [event, bind_ok_iff, pure_eq_ok, Prod.mk.injEq] at hevent
    obtain ⟨row, -, rows, -, rfl, -⟩ := hevent
    exact closeParticipant_idempotencyRecords

theorem Linked.withdraw_error {idempotencyKey : Option String}
    (h : Linked rt db) : withdraw rt clock db sessionId idempotencyKey ≠ .error .integrityError := by
  intro herror
  unfold withdraw at herror
  rcases bind_error_iff.mp herror with hrecord | ⟨record, -, herror⟩
  · unfold researchSession at hrecord
    rcases bind_error_iff.mp hrecord with hmissing | ⟨session, -, hrecord⟩
    · cases (orError_eq_error.mp hmissing).2
    rcases bind_error_iff.mp hrecord with hmissing | ⟨participant, -, hrecord⟩
    · cases (orError_eq_error.mp hmissing).2
    · cases hrecord
  rcases bind_error_iff.mp herror with hmissing | ⟨session, -, herror⟩
  · cases (orError_eq_error.mp hmissing).2
  rcases bind_error_iff.mp herror with hmissing | ⟨participantId, -, herror⟩
  · cases (orError_eq_error.mp hmissing).2
  rcases bind_error_iff.mp herror with hkey | ⟨key, -, herror⟩
  · unfold M1Backend.key at hkey
    dsimp only at hkey
    split at hkey <;> cases hkey
  unfold mutate at herror
  dsimp only at herror
  cases hfound : db.idempotencyRecord? s!"research-withdraw:{participantId}" key with
  | some row =>
    rw [hfound] at herror
    dsimp only at herror
    split at herror <;> cases herror
  | none =>
    rw [hfound] at herror
    rcases bind_error_iff.mp herror with hoperation | ⟨⟨mid, response⟩, hoperation, herror⟩
    · exact h.withdrawOperation_error hoperation
    rcases bind_error_iff.mp herror with hinsert | ⟨records, -, herror⟩
    · obtain ⟨row, hmem, hclash⟩ := (insert_eq_error.mp hinsert).1
      rw [withdrawOperation_records hoperation] at hmem
      exact absurd hclash (by simpa using List.find?_eq_none.mp hfound row hmem)
    · cases herror

end PduExamObserver.M1R1
