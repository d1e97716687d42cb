import PduExamObserver.M1R1.Linked

/-! # Every artifact has its target, and every withdrawal maps it

What the registry, the manifests and the targets say of one another, and the rows that a withdrawal writes for them. -/

namespace PduExamObserver.M1R1
open M1 Table Transition M1Backend
set_option autoImplicit false

variable {rt : Runtime} {store store' : Store} {intent : ArtifactIntent} {manifest : ArtifactManifest}

/-! ## Targets -/

structure TargetOf (rt : Runtime) (manifest : ArtifactManifest) (target : ReconciliationTarget) : Prop where
  artifact : target.artifactId = manifest.artifactId
  binding : manifestBinding rt manifest = .ok target.manifestSha256
  fields : target.targetKind = .localResearchFile → target.relativePath = some manifest.relativePath ∧
    target.expectedByteSize = some manifest.byteSize ∧ target.expectedSha256 = some manifest.sha256

structure Registered (rt : Runtime) (store : Store) : Prop where
  manifested : ∀ a ∈ store.ledger.artifactRegistry, ∃ manifest ∈ store.manifests, manifest.artifactId = a.id
  registered : ∀ manifest ∈ store.manifests, ∃ a ∈ store.ledger.artifactRegistry, a.id = manifest.artifactId
  manifestKeys : Keyed ArtifactManifest.artifactId store.manifests
  localTarget : ∀ manifest ∈ store.manifests, ∃ target ∈ store.targets, target.targetKind = .localResearchFile ∧
    TargetOf rt manifest target
  targets : ∀ target ∈ store.targets, ∃ manifest ∈ store.manifests, TargetOf rt manifest target
  single : ∀ target ∈ store.targets, ∀ other ∈ store.targets, target.targetKind = .localResearchFile →
    other.targetKind = .localResearchFile → target.artifactId = other.artifactId → target = other
  targetKeys : Keyed ReconciliationTarget.id store.targets

/-! ## Sealing an artifact -/

structure Seals (rt : Runtime) (store : Store) (intent : ArtifactIntent) (manifest : ArtifactManifest)
    (store' : Store) : Prop where
  retained : requireMutableRetained store.ledger intent.sessionId = .ok ()
  parents : ∀ parent ∈ intent.parentIds, validParent store.ledger parent = true ∧
    ∀ artifact ∈ store.ledger.artifact? parent, artifact.sessionId = intent.sessionId
  free : ∀ a ∈ store.ledger.artifactRegistry, a.id ≠ intent.artifactId
  manifestFree : ∀ old ∈ store.manifests, ¬ ArtifactManifest.Clash old manifest
  target : ∃ target, target.targetKind = .localResearchFile ∧ TargetOf rt manifest target ∧
    (∀ old ∈ store.targets, old.id ≠ target.id) ∧ store'.targets = store.targets ++ [target]
  manifests : store'.manifests = store.manifests ++ [manifest]
  taskTargets : store'.taskTargets = store.taskTargets
  event : ∃ ledger published audit, M1Backend.event { store.ledger with
      artifactRegistry := store.ledger.artifactRegistry ++
        [{ id := intent.artifactId, sessionId := intent.sessionId, status := .valid }]
      artifactDependencies := store.ledger.artifactDependencies ++
        intent.parentIds.map fun parent => (parent, intent.artifactId) }
    intent.sessionId "M2ArtifactSealed" [("artifact_id", .str intent.artifactId), ("schema_version", .int 2)] =
      .ok (ledger, published) ∧
    (audit : AuditEvent).id = s!"m2-audit-{intent.intentId}" ∧
    store'.ledger = { ledger with auditEvents := ledger.auditEvents ++ [audit] }

theorem commitSeal_seals (h : commitSeal rt store intent manifest = .ok store') :
    Seals rt store intent manifest store' := by
  simp only [commitSeal, M1R1.requireValidParents, bind_ok_iff, require_eq_ok] at h
  obtain ⟨⟨⟩, hretained, -, ⟨-, hparents, hsessions⟩, artifactRegistry, hregistry, manifests, hmanifests, targets,
    htargets, dependencies, hdependencies, ⟨ledger, published⟩, hevent, auditEvents, haudits, h⟩ := h
  cases h
  obtain ⟨hfree, rfl⟩ := insert_eq_ok.mp hregistry
  obtain ⟨hmanifestFree, rfl⟩ := insert_eq_ok.mp hmanifests
  obtain ⟨-, rfl⟩ := insert_eq_ok.mp haudits
  rw [foldlM_insert_eq_ok (fun parent => (parent, intent.artifactId)) _ hdependencies] at hevent
  simp only [registerLocalTarget, bind_ok_iff] at htargets
  obtain ⟨path, hpath, binding, hbinding, htargets⟩ := htargets
  obtain ⟨htargetFree, rfl⟩ := insert_eq_ok.mp htargets
  obtain rfl := normalizedRelativePath_ok hpath
  refine ⟨hretained, fun parent hmem => ⟨hparents parent hmem, hsessions parent hmem⟩, hfree, hmanifestFree,
    ⟨_, rfl, ⟨rfl, hbinding, fun _ => ⟨rfl, rfl, rfl⟩⟩, fun old hold heq => htargetFree old hold (.inl heq), rfl⟩, rfl,
    rfl, ledger, published, _, mapError_ok hevent, rfl, rfl⟩

def ArtifactIntent.artifact (intent : ArtifactIntent) : Artifact where
  id := intent.artifactId
  sessionId := intent.sessionId
  status := .valid

namespace Seals

variable (h : Seals rt store intent manifest store')

include h

theorem quiet : ∃ mid, Quiet mid store'.ledger ∧
    mid = { store.ledger with
      artifactRegistry := store.ledger.artifactRegistry ++ [intent.artifact]
      artifactDependencies := store.ledger.artifactDependencies ++
        intent.parentIds.map fun parent => (parent, intent.artifactId) } := by
  obtain ⟨ledger, published, audit, hevent, -, hledger⟩ := h.event
  refine ⟨_, ?_, rfl⟩
  rw [hledger]
  exact (event_quiet hevent).trans (quiet_auditEvents ledger _)

theorem registry : store'.ledger.artifactRegistry = store.ledger.artifactRegistry ++ [intent.artifact] := by
  obtain ⟨mid, hquiet, rfl⟩ := h.quiet
  exact hquiet.artifactRegistry

theorem dependencies : store'.ledger.artifactDependencies = store.ledger.artifactDependencies ++
    intent.parentIds.map fun parent => (parent, intent.artifactId) := by
  obtain ⟨mid, hquiet, rfl⟩ := h.quiet
  exact hquiet.artifactDependencies

theorem participants : store'.ledger.participants = store.ledger.participants := by
  obtain ⟨mid, hquiet, rfl⟩ := h.quiet
  exact hquiet.participants

theorem sessionIdsOf (id : String) : store'.ledger.sessionIdsOf id = store.ledger.sessionIdsOf id := by
  obtain ⟨mid, hquiet, rfl⟩ := h.quiet
  exact hquiet.sessionIdsOf id

theorem commits : Commits rt.toRuntime anyConsent store.ledger store'.ledger := by
  obtain ⟨mid, hquiet, rfl⟩ := h.quiet
  exact ⟨_, .artifact intent.artifactId intent.sessionId intent.parentIds (requireMutableRetained_research h.retained)
    (fun parent hmem => (h.parents parent hmem).1) h.free, hquiet⟩

theorem logged : Logged rt.toRuntime true store.ledger store'.ledger := by
  obtain ⟨ledger, published, audit, hevent, haudit, hledger⟩ := h.event
  rw [hledger]
  refine ((Relation.ReflTransGen.single (.artifacts _ _ rfl)).tail (.event hevent)).tail (.audit audit ?_)
  refine sparesAudits_of_head fun hhead => ?_
  rw [haudit, String.toList_append] at hhead
  have hletter : some 'm' = some 'a' := hhead
  cases hletter

theorem linked (hlinked : Linked rt.toRuntime store.ledger) : Linked rt.toRuntime store'.ledger := by
  refine ⟨(hlinked.ok.commits h.commits).1, hlinked.gapless.logged h.logged, hlinked.drawn.logged h.logged, ?_,
    Commits.subjects hlinked.ok h.commits hlinked.subjects⟩
  intro e he
  rw [h.registry]
  rw [h.dependencies] at he
  rcases List.mem_append.mp he with hold | hnew
  · obtain ⟨a, ha, b, hb, hjoins⟩ := hlinked.dependencies e hold
    exact ⟨a, List.mem_append_left _ ha, b, List.mem_append_left _ hb, hjoins⟩
  · obtain ⟨parent, hparent, rfl⟩ := List.mem_map.mp hnew
    obtain ⟨hvalid, hsession⟩ := h.parents parent hparent
    obtain ⟨a, ha, hid, -⟩ := validParent_valid hvalid
    have hfound : store.ledger.artifact? parent = some a := hid ▸ hlinked.ok.wellformed.artifact_of_mem ha
    exact ⟨a, List.mem_append_left _ ha, intent.artifact, List.mem_append_right _ (List.mem_singleton_self _), hid, rfl,
      hsession a hfound⟩

theorem registers (hregistered : Registered rt store) (hartifact : manifest.artifactId = intent.artifactId) :
    Registered rt store' := by
  obtain ⟨target, hkind, htarget, hfree, htargets⟩ := h.target
  have hnew : ∀ old ∈ store.targets, old.artifactId ≠ target.artifactId := by
    intro old hold heq
    obtain ⟨other, hother, hof⟩ := hregistered.targets old hold
    exact h.manifestFree other hother (.inl (by rw [← hof.artifact, heq, htarget.artifact]))
  refine ⟨?_, ?_, ?_, ?_, ?_, ?_, ?_⟩
  · intro a ha
    rw [h.manifests]
    rw [h.registry] at ha
    rcases List.mem_append.mp ha with hold | hadded
    · obtain ⟨other, hother, hid⟩ := hregistered.manifested a hold
      exact ⟨other, List.mem_append_left _ hother, hid⟩
    · rw [List.mem_singleton.mp hadded]
      exact ⟨manifest, List.mem_append_right _ (List.mem_singleton_self _), hartifact⟩
  · intro other hother
    rw [h.registry]
    rw [h.manifests] at hother
    rcases List.mem_append.mp hother with hold | hadded
    · obtain ⟨a, ha, hid⟩ := hregistered.registered other hold
      exact ⟨a, List.mem_append_left _ ha, hid⟩
    · rw [List.mem_singleton.mp hadded]
      exact ⟨intent.artifact, List.mem_append_right _ (List.mem_singleton_self _), hartifact.symm⟩
  · rw [h.manifests]
    exact hregistered.manifestKeys.concat fun old hold heq => h.manifestFree old hold (.inl heq)
  · intro other hother
    rw [htargets]
    rw [h.manifests] at hother
    rcases List.mem_append.mp hother with hold | hadded
    · obtain ⟨own, hown, hlocal⟩ := hregistered.localTarget other hold
      exact ⟨own, List.mem_append_left _ hown, hlocal⟩
    · rw [List.mem_singleton.mp hadded]
      exact ⟨target, List.mem_append_right _ (List.mem_singleton_self _), hkind, htarget⟩
  · intro other hother
    rw [h.manifests]
    rw [htargets] at hother
    rcases List.mem_append.mp hother with hold | hadded
    · obtain ⟨own, hown, hof⟩ := hregistered.targets other hold
      exact ⟨own, List.mem_append_left _ hown, hof⟩
    · rw [List.mem_singleton.mp hadded]
      exact ⟨manifest, List.mem_append_right _ (List.mem_singleton_self _), htarget⟩
  · intro one hone other hother hkindOne hkindOther heq
    rw [htargets] at hone hother
    rcases List.mem_append.mp hone with hold | hadded <;> rcases List.mem_append.mp hother with hold' | hadded'
    · exact hregistered.single one hold other hold' hkindOne hkindOther heq
    · rw [List.mem_singleton.mp hadded'] at heq
      exact absurd heq (hnew one hold)
    · rw [List.mem_singleton.mp hadded] at heq
      exact absurd heq.symm (hnew other hold')
    · rw [List.mem_singleton.mp hadded, List.mem_singleton.mp hadded']
  · rw [htargets]
    exact hregistered.targetKeys.concat hfree

end Seals

/-! ## Rows -/

structure RowCovers (store : Store) (row : TaskTarget) : Prop where
  state : row.state = .pendingConfirmation
  target : ∃ target ∈ store.targets, target.id = row.targetId ∧ target.artifactId = row.artifactId ∧
    target.targetKind = row.targetKind
  task : ∃ task ∈ store.ledger.withdrawalTasks, task.id = row.withdrawalTaskId ∧ task.artifactId = row.artifactId ∧
    task.withdrawalSubjectSessionId ∈ store.ledger.sessionIdsOf row.participantId
  artifact : ∃ a ∈ store.ledger.artifactRegistry, a.id = row.artifactId ∧
    a.sessionId ∈ store.ledger.sessionIdsOf row.participantId
  receipt : ∃ receipt ∈ store.ledger.withdrawalReceipts, receipt.id = row.withdrawalReceiptId ∧
    receipt.participantId = row.participantId

structure Mapped (store : Store) : Prop where
  rows : ∀ row ∈ store.taskTargets, RowCovers store row
  rowKeys : Keyed TaskTarget.targetId store.taskTargets
  mapped : ∀ id, Withdrawn store.ledger id → ∀ target ∈ store.targets, ∀ a ∈ store.ledger.artifactRegistry,
    a.id = target.artifactId → a.sessionId ∈ store.ledger.sessionIdsOf id →
    ∃ row ∈ store.taskTargets, row.targetId = target.id

variable {row : TaskTarget} {ledger : Database} {participantId : String} {targets : List ReconciliationTarget}
  {a : Artifact} {target : ReconciliationTarget}

theorem RowCovers.withdrawn (h : RowCovers store row) (hok : LedgerOk rt.toRuntime store.ledger) :
    Withdrawn store.ledger row.participantId := by
  obtain ⟨receipt, hreceipt, -, hparticipant⟩ := h.receipt
  exact hparticipant ▸ hok.closed.receipts_withdrawn receipt hreceipt

theorem RowCovers.step (h : RowCovers store row) (hok : LedgerOk rt.toRuntime store.ledger)
    (hstep : LedgerStep store.ledger store'.ledger) (htargets : ∀ target ∈ store.targets, target ∈ store'.targets) :
    RowCovers store' row := by
  have hw := h.withdrawn hok
  obtain ⟨target, htarget, hfields⟩ := h.target
  obtain ⟨task, htask, hid, hartifact, howned⟩ := h.task
  obtain ⟨a, ha, haid, hasession⟩ := h.artifact
  obtain ⟨receipt, hreceipt, hreceiptFields⟩ := h.receipt
  refine ⟨h.state, ⟨target, htargets target htarget, hfields⟩, ?_, ?_, receipt, hstep.receipts.subset hreceipt,
    hreceiptFields⟩
  · have hown : task ∈ ownTasks store.ledger row.participantId := List.mem_filter.mpr ⟨htask, by simpa using howned⟩
    have hidentity : taskIdentity task ∈ (ownTasks store'.ledger row.participantId).map taskIdentity :=
      hstep.tasks _ hw ▸ List.mem_map_of_mem hown
    obtain ⟨task', htask', heq⟩ := List.mem_map.mp hidentity
    simp only [taskIdentity, Prod.mk.injEq] at heq
    obtain ⟨hid', hsubject, hartifact'⟩ := heq
    refine ⟨task', List.mem_of_mem_filter htask', hid'.trans hid, hartifact'.trans hartifact, ?_⟩
    rw [hstep.sessionIds _ hw, hsubject]
    exact howned
  · obtain ⟨a', ha', haid', hasession'⟩ := hstep.registered a ha
    refine ⟨a', ha', haid'.trans haid, ?_⟩
    rw [hstep.sessionIds _ hw, hasession']
    exact hasession

theorem mem_withdrawalTargets_iff {receiptId : String} :
    row ∈ withdrawalTargets ledger targets participantId receiptId ↔
      ∃ task ∈ ledger.withdrawalTasks, ∃ subject artifact,
        ledger.session? task.withdrawalSubjectSessionId = some subject ∧
        ledger.artifact? task.artifactId = some artifact ∧ subject.participantId = some participantId ∧
        ∃ target ∈ targets, target.artifactId = task.artifactId ∧
          row = { withdrawalTaskId := task.id, participantId, withdrawalReceiptId := receiptId
                  withdrawalSubjectSessionId := task.withdrawalSubjectSessionId, artifactId := task.artifactId
                  artifactSessionId := artifact.sessionId, targetId := target.id, targetKind := target.targetKind
                  rootScope := target.rootScope, state := .pendingConfirmation, stateVersion := 0
                  blockerCode := none } := by
  unfold withdrawalTargets
  rw [List.mem_flatMap]
  constructor
  · rintro ⟨task, htask, hrow⟩
    split at hrow
    · next subject artifact hsubject hartifact =>
      split at hrow
      · next howner =>
        obtain ⟨target, htarget, rfl⟩ := List.mem_map.mp hrow
        obtain ⟨hmem, hid⟩ := List.mem_filter.mp htarget
        exact ⟨task, htask, subject, artifact, hsubject, hartifact, howner, target, hmem, by simpa using hid, rfl⟩
      · cases hrow
    · cases hrow
  · rintro ⟨task, htask, subject, artifact, hsubject, hartifact, howner, target, htarget, hid, rfl⟩
    refine ⟨task, htask, ?_⟩
    rw [hsubject, hartifact]
    dsimp only
    rw [if_pos howner]
    exact List.mem_map.mpr ⟨target, List.mem_filter.mpr ⟨htarget, by simpa using hid⟩, rfl⟩

theorem subject_owned {db : Database} {task : WithdrawalTask} {subject : Session}
    (hsubject : db.session? task.withdrawalSubjectSessionId = some subject)
    (howner : subject.participantId = some participantId) :
    task.withdrawalSubjectSessionId ∈ db.sessionIdsOf participantId := by
  have hid : subject.id = task.withdrawalSubjectSessionId := by simpa using List.find?_some hsubject
  exact mem_sessionIdsOf.mpr ⟨subject, List.mem_of_find?_eq_some hsubject, howner, hid⟩

theorem withdrawalTargets_owned {receiptId : String} (h : Linked rt.toRuntime ledger)
    (hrow : row ∈ withdrawalTargets ledger targets participantId receiptId) :
    row.artifactSessionId ∈ ledger.sessionIdsOf participantId := by
  obtain ⟨task, htask, subject, artifact, hsubject, hartifact, howner, target, -, -, rfl⟩ :=
    mem_withdrawalTargets_iff.mp hrow
  obtain ⟨a, ha, hid, hsession⟩ := h.task_artifact htask (subject_owned hsubject howner)
  have hfound : ledger.artifact? task.artifactId = some a := hid ▸ h.ok.wellformed.artifact_of_mem ha
  obtain rfl := Option.some.inj (hfound.symm.trans hartifact)
  exact hsession

theorem foldlM_afterWithdrawalReceipt_ok (h : Linked rt.toRuntime ledger) (receipts : List WithdrawalReceipt) (rows : List TaskTarget) :
    ∃ rows', receipts.foldlM (afterWithdrawalReceipt ledger targets) rows = .ok rows' := by
  induction receipts generalizing rows with
  | nil => exact ⟨rows, rfl⟩
  | cons receipt rest ih =>
    have hreceipt : afterWithdrawalReceipt ledger targets rows receipt =
        .ok ((withdrawalTargets ledger targets receipt.participantId receipt.id).foldl
          (insertOrIgnore TaskTarget.Clash) rows) := by
      have howned : ∀ row ∈ withdrawalTargets ledger targets receipt.participantId receipt.id,
          row.artifactSessionId ∈ ledger.sessionIdsOf receipt.participantId :=
        fun row hrow => withdrawalTargets_owned h hrow
      exact bind_ok_iff.mpr ⟨(), require_eq_ok.mpr howned, rfl⟩
    obtain ⟨rows', hrest⟩ := ih ((withdrawalTargets ledger targets receipt.participantId receipt.id).foldl
      (insertOrIgnore TaskTarget.Clash) rows)
    exact ⟨rows', by rw [List.foldlM_cons, hreceipt]; exact hrest⟩

theorem foldlM_afterWithdrawalReceipt_rows {receipts : List WithdrawalReceipt} {rows rows' : List TaskTarget}
    (h : receipts.foldlM (afterWithdrawalReceipt ledger targets) rows = .ok rows') :
    (∀ row ∈ rows, row ∈ rows') ∧
    (∀ row ∈ rows', row ∈ rows ∨
      ∃ receipt ∈ receipts, row ∈ withdrawalTargets ledger targets receipt.participantId receipt.id) ∧
    ∀ receipt ∈ receipts, ∀ row ∈ withdrawalTargets ledger targets receipt.participantId receipt.id,
      ∃ placed ∈ rows', placed.targetId = row.targetId := by
  induction receipts generalizing rows with
  | nil =>
    cases h
    exact ⟨fun _ hrow => hrow, fun _ hrow => .inl hrow, nofun⟩
  | cons receipt rest ih =>
    rw [List.foldlM_cons, bind_ok_iff] at h
    obtain ⟨mid, hmid, h⟩ := h
    obtain ⟨_, -, hmid⟩ := bind_ok_iff.mp hmid
    cases hmid
    obtain ⟨hkept, hback, hplaced⟩ := ih h
    refine ⟨fun row hrow => hkept row (mem_foldl_insertOrIgnore hrow), fun row hrow => ?_, fun other hother row hrow => ?_⟩
    · rcases hback row hrow with hmid | ⟨other, hother, hnew⟩
      · rcases of_mem_foldl_insertOrIgnore hmid with hold | hnew
        · exact .inl hold
        · exact .inr ⟨receipt, List.mem_cons_self, hnew⟩
      · exact .inr ⟨other, List.mem_cons_of_mem _ hother, hnew⟩
    · rcases List.mem_cons.mp hother with rfl | hrest
      · have hrefl : ∀ r : TaskTarget, TaskTarget.Clash r r := fun _ => rfl
        obtain ⟨placed, hmem, heq⟩ := exists_clash_of_mem_items hrefl hrow
        exact ⟨placed, hkept placed hmem, heq⟩
      · exact hplaced other hrest row hrow

theorem withdrawalTargets_covers {receipt : WithdrawalReceipt}
    (h : Linked rt.toRuntime store.ledger) (hreceipt : receipt ∈ store.ledger.withdrawalReceipts)
    (hrow : row ∈ withdrawalTargets store.ledger store.targets receipt.participantId receipt.id) :
    RowCovers store row := by
  have howned := withdrawalTargets_owned h hrow
  obtain ⟨task, htask, subject, artifact, hsubject, hartifact, howner, target, htarget, hid, rfl⟩ :=
    mem_withdrawalTargets_iff.mp hrow
  refine ⟨rfl, ⟨target, htarget, rfl, hid, rfl⟩, ⟨task, htask, rfl, rfl, subject_owned hsubject howner⟩,
    ⟨artifact, List.mem_of_find?_eq_some hartifact, ?_, howned⟩, receipt, hreceipt, rfl, rfl⟩
  simpa using List.find?_some hartifact

theorem exists_withdrawalTarget {receipt : WithdrawalReceipt} (h : Linked rt.toRuntime store.ledger) (hreceipt : receipt ∈ store.ledger.withdrawalReceipts)
    (htarget : target ∈ store.targets) (ha : a ∈ store.ledger.artifactRegistry) (hid : a.id = target.artifactId)
    (howned : a.sessionId ∈ store.ledger.sessionIdsOf receipt.participantId) :
    ∃ row ∈ withdrawalTargets store.ledger store.targets receipt.participantId receipt.id, row.targetId = target.id := by
  have hw : Withdrawn store.ledger receipt.participantId := h.ok.closed.receipts_withdrawn receipt hreceipt
  obtain ⟨found, hfound, hreceipted⟩ := h.ok.closed.receipts _ hw
  obtain rfl := h.ok.receipts.eq hfound hreceipt hreceipted.participant
  have hlineage : a.id ∈ withdrawalLineage store.ledger found.participantId :=
    mem_withdrawalLineage.mpr ⟨a, ha, howned, .refl⟩
  obtain ⟨task, htask, hsubject, hartifact⟩ := (hreceipted.tasks a.id).mp hlineage
  obtain ⟨session, hsession, howner, hsessionId⟩ := mem_sessionIdsOf.mp hreceipted.subject
  have hfoundSession : store.ledger.session? task.withdrawalSubjectSessionId = some session := by
    rw [hsubject, ← hsessionId]
    exact h.ok.wellformed.session_of_mem hsession
  have hfoundArtifact : store.ledger.artifact? task.artifactId = some a := by
    rw [hartifact]
    exact h.ok.wellformed.artifact_of_mem ha
  refine ⟨_, mem_withdrawalTargets_iff.mpr ⟨task, htask, session, a, hfoundSession, hfoundArtifact, howner, target,
    htarget, ?_, rfl⟩, rfl⟩
  rw [← hid, hartifact]

/-! ## Steps -/

structure Covered (rt : Runtime) (store : Store) : Prop where
  linked : Linked rt.toRuntime store.ledger
  registered : Registered rt store
  mapped : Mapped store

theorem Registered.congr (h : Registered rt store)
    (hartifacts : store'.ledger.artifactRegistry.map Artifact.owner = store.ledger.artifactRegistry.map Artifact.owner)
    (hmanifests : store'.manifests = store.manifests) (htargets : store'.targets = store.targets) :
    Registered rt store' := by
  refine ⟨fun a ha => ?_, fun manifest hmanifest => ?_, hmanifests ▸ h.manifestKeys, fun manifest hmanifest => ?_,
    fun target htarget => ?_, htargets ▸ h.single, htargets ▸ h.targetKeys⟩
  · obtain ⟨old, hold, hid, -⟩ := artifact_of_owner hartifacts.symm ha
    rw [hmanifests, ← hid]
    exact h.manifested old hold
  · rw [hmanifests] at hmanifest
    obtain ⟨a, ha, hid⟩ := h.registered manifest hmanifest
    obtain ⟨a', ha', hid', -⟩ := artifact_of_owner hartifacts ha
    exact ⟨a', ha', hid'.trans hid⟩
  · rw [htargets]
    exact h.localTarget manifest (hmanifests ▸ hmanifest)
  · rw [hmanifests]
    exact h.targets target (htargets ▸ htarget)

namespace Covered

theorem empty (rt : Runtime) : Covered rt {} where
  linked := .empty _
  registered := ⟨nofun, nofun, .nil, nofun, nofun, nofun, .nil⟩
  mapped := ⟨nofun, .nil, by rintro id ⟨p, hp, -⟩; cases hp⟩

theorem backend {clock : Clock} {action : M1Action} (h : Covered rt store)
    (hrun : backend rt clock store action = .ok store') : Covered rt store' := by
  have heffect := backend_effect h.linked.ok hrun
  unfold M1R1.backend at hrun
  split at hrun
  · cases hrun
  · cases hrun
  · next hregister hdepend =>
    simp only [bind_ok_iff] at hrun
    obtain ⟨ledger, hledger, taskTargets, hrows, hrun⟩ := hrun
    cases hrun
    have hregisters : action.registers = false := by
      cases action with
      | registerArtifact artifactId sessionId parents => exact absurd rfl (hregister artifactId sessionId parents)
      | addDependency parent child => exact absurd rfl (hdepend parent child)
      | _ => rfl
    have hlinked : Linked rt.toRuntime ledger := h.linked.action hregisters (mapError_ok hledger)
    have hlogged := action.run_logged (mapError_ok hledger)
    rw [hregisters] at hlogged
    obtain ⟨hartifacts, -⟩ := hlogged.artifacts
    obtain ⟨hkept, hback, hplaced⟩ := foldlM_afterWithdrawalReceipt_rows hrows
    have hwritten := heffect.ledger.written heffect.ledgerOk
    refine ⟨hlinked, h.registered.congr hartifacts rfl rfl, fun row hrow => ?_, ?_,
      fun id hw target htarget a ha hid howned => ?_⟩
    · rcases hback row hrow with hold | ⟨receipt, hreceipt, hnew⟩
      · exact (h.mapped.rows row hold).step h.linked.ok heffect.ledger fun _ ht => ht
      · have hcovers : RowCovers { store with ledger, taskTargets } row :=
          withdrawalTargets_covers hlinked (hwritten receipt hreceipt).1 hnew
        exact hcovers
    · exact heffect.taskTargets.keyed (fun _ _ heq => heq) (fun _ _ heq => by rw [heq]) h.mapped.rowKeys
    · by_cases hbefore : Withdrawn store.ledger id
      · obtain ⟨old, hold, hoid, hosession⟩ := artifact_of_owner hartifacts.symm ha
        rw [heffect.ledger.sessionIds id hbefore, ← hosession] at howned
        obtain ⟨row, hrow, heq⟩ := h.mapped.mapped id hbefore target htarget old hold (hoid.trans hid) howned
        exact ⟨row, hkept row hrow, heq⟩
      · obtain ⟨receipt, hreceipt, hreceipted⟩ := hlinked.ok.closed.receipts id hw
        rw [← hreceipted.participant] at howned
        have hnew : receipt ∈ ledger.withdrawalReceipts.drop store.ledger.withdrawalReceipts.length := by
          obtain ⟨new, hnew⟩ := heffect.ledger.receipts
          have hmem : receipt ∈ store.ledger.withdrawalReceipts ++ new := by rw [hnew]; exact hreceipt
          rcases List.mem_append.mp hmem with hold | hadded
          · have hold' := h.linked.ok.closed.receipts_withdrawn receipt hold
            rw [hreceipted.participant] at hold'
            exact absurd hold' hbefore
          · have hdrop : ledger.withdrawalReceipts.drop store.ledger.withdrawalReceipts.length = new := by
              rw [show ledger.withdrawalReceipts = store.ledger.withdrawalReceipts ++ new from hnew.symm, List.drop_left]
            rw [hdrop]
            exact hadded
        have htargets : ∃ row ∈ withdrawalTargets ledger store.targets receipt.participantId receipt.id,
            row.targetId = target.id :=
          @exists_withdrawalTarget _ { store with ledger, taskTargets } _ _ _ hlinked hreceipt htarget ha hid howned
        obtain ⟨row, hrow, heq⟩ := htargets
        obtain ⟨placed, hmem, hplacedId⟩ := hplaced receipt hnew row hrow
        exact ⟨placed, hmem, hplacedId.trans heq⟩

theorem congr (h : Covered rt store) (hlinked : Linked rt.toRuntime store'.ledger)
    (hstep : LedgerStep store.ledger store'.ledger)
    (hwithdrawn : ∀ id, Withdrawn store'.ledger id → Withdrawn store.ledger id)
    (hartifacts : store'.ledger.artifactRegistry.map Artifact.owner = store.ledger.artifactRegistry.map Artifact.owner)
    (hmanifests : store'.manifests = store.manifests) (htargets : store'.targets = store.targets)
    (hrows : store'.taskTargets = store.taskTargets) : Covered rt store' := by
  refine ⟨hlinked, h.registered.congr hartifacts hmanifests htargets, fun row hrow => ?_, hrows ▸ h.mapped.rowKeys,
    fun id hw target htarget a ha hid howned => ?_⟩
  · exact (h.mapped.rows row (hrows ▸ hrow)).step h.linked.ok hstep fun target ht => htargets ▸ ht
  · obtain ⟨old, hold, hoid, hosession⟩ := artifact_of_owner hartifacts.symm ha
    have hbefore := hwithdrawn id hw
    rw [hstep.sessionIds id hbefore, ← hosession] at howned
    rw [hrows]
    exact h.mapped.mapped id hbefore target (htargets ▸ htarget) old hold (hoid.trans hid) howned

theorem seals (h : Covered rt store) (hseals : Seals rt store intent manifest store')
    (hartifact : manifest.artifactId = intent.artifactId) : Covered rt store' := by
  have hstep : LedgerStep store.ledger store'.ledger := (h.linked.ok.commits hseals.commits).2
  obtain ⟨target, -, hof, hfree, htargets⟩ := hseals.target
  refine ⟨hseals.linked h.linked, hseals.registers h.registered hartifact, fun row hrow => ?_,
    hseals.taskTargets ▸ h.mapped.rowKeys, fun id hw other hother a ha hid howned => ?_⟩
  · refine (h.mapped.rows row (hseals.taskTargets ▸ hrow)).step h.linked.ok hstep fun old hold => ?_
    rw [htargets]
    exact List.mem_append_left _ hold
  · have hbefore : Withdrawn store.ledger id := by
      obtain ⟨p, hp, hpid, hpw⟩ := hw
      exact ⟨p, hseals.participants ▸ hp, hpid, hpw⟩
    rw [hseals.sessionIdsOf] at howned
    rw [hseals.taskTargets]
    have hopen : intent.sessionId ∉ store.ledger.sessionIdsOf id :=
      mutable_not_withdrawn h.linked.ok.wellformed (requireMutableRetained_research hseals.retained) hbefore
    rw [hseals.registry] at ha
    rcases List.mem_append.mp ha with hold | hnew
    · rw [htargets] at hother
      rcases List.mem_append.mp hother with hkept | hadded
      · exact h.mapped.mapped id hbefore other hkept a hold hid howned
      · rw [List.mem_singleton.mp hadded, hof.artifact, hartifact] at hid
        exact absurd hid (hseals.free a hold)
    · rw [List.mem_singleton.mp hnew] at howned
      exact absurd howned hopen

theorem persist {source : Option (List UInt8)} {fault : Fault} {cleanup : Cleanup} (h : Covered rt store)
    (hrun : persist rt store intent source fault cleanup = .ok store') : Covered rt store' := by
  rcases persist_cases hrun with rfl | ⟨payload, -, -, -, rfl⟩
  · exact h
  · rcases sealArtifact_others rt (withIntent rt store intent payload) intent payload fault cleanup with
      ⟨writeIntents, files, heq, -⟩ | hcommit
    · rw [heq]
      exact h.congr h.linked (LedgerStep.refl _) (fun _ hw => hw) rfl rfl rfl rfl
    · have hrenamed : Covered rt (renamedStore (withIntent rt store intent payload) intent payload) :=
        h.congr h.linked (LedgerStep.refl _) (fun _ hw => hw) rfl rfl rfl rfl
      exact hrenamed.seals (commitSeal_seals hcommit) rfl

theorem terminalizeRecovery {intentId sessionId : String} (h : Covered rt store)
    (hrun : terminalizeRecovery store intentId sessionId = .ok store') : Covered rt store' := by
  have heffect := terminalizeRecovery_effect h.linked.ok hrun
  have hgapless := terminalizeRecovery_gapless h.linked.gapless hrun
  unfold M1R1.terminalizeRecovery at hrun
  dsimp only at hrun
  split at hrun
  · cases hrun
    exact h.congr h.linked (LedgerStep.refl _) (fun _ hw => hw) rfl rfl rfl rfl
  · split at hrun
    · cases hrun
      exact h.congr h.linked (LedgerStep.refl _) (fun _ hw => hw) rfl rfl rfl rfl
    · simp only [bind_ok_iff] at hrun
      obtain ⟨⟨ledger, published⟩, hevent, auditEvents, haudits, hrun⟩ := hrun
      cases hrun
      obtain ⟨-, rfl⟩ := insert_eq_ok.mp haudits
      have hquiet := event_quiet (mapError_ok hevent)
      have hlogged : Logged rt.toRuntime false store.ledger ledger :=
        logged_event (mapError_ok hevent) { SameLog.refl store.ledger with
          counters := by apply counter_update; intro s; rfl }
      have hartifacts : ledger.artifactRegistry = store.ledger.artifactRegistry := hquiet.artifactRegistry
      refine h.congr ⟨heffect.ledgerOk, hgapless, ?_, ?_, ?_⟩ heffect.ledger ?_ (congrArg _ hartifacts) rfl rfl rfl
      · refine (h.linked.drawn.logged hlogged).writes (Writes.audit _ ?_ : Writes rt.toRuntime false ledger _)
        refine sparesAudits_of_head fun hhead => ?_
        rw [String.toList_append] at hhead
        have hletter : some 'm' = some 'a' := hhead
        cases hletter
      · exact dependencies_of_owner (congrArg _ hartifacts) hquiet.artifactDependencies h.linked
      · intro task htask
        have htask' : task ∈ store.ledger.withdrawalTasks := hquiet.withdrawalTasks ▸ htask
        obtain ⟨receipt, hreceipt, heq⟩ := h.linked.subjects task htask'
        exact ⟨receipt, (show receipt ∈ ledger.withdrawalReceipts from hquiet.withdrawalReceipts ▸ hreceipt), heq⟩
      · rintro id ⟨p, hp, hid, hw⟩
        exact ⟨p, hquiet.participants ▸ hp, hid, hw⟩

theorem recoverIntent (h : Covered rt store) (intentId : String) (moves : Nat) (commits : Bool) :
    Covered rt (recoverIntent store intentId moves commits) := by
  unfold M1R1.recoverIntent
  split
  · exact h
  · next row hrow =>
    have hmoved : Covered rt { store with files := quarantineFiles store.files row.artifactId moves } :=
      h.congr h.linked (LedgerStep.refl _) (fun _ hw => hw) rfl rfl rfl rfl
    dsimp only
    split
    · split
      · next hterminal => exact hmoved.terminalizeRecovery hterminal
      · exact hmoved
    · exact hmoved

theorem external (h : Covered rt store)
    (hkind : target.targetKind = .externalCopy) (hmanifest : manifest ∈ store.manifests)
    (hof : TargetOf rt manifest target) (hfree : ∀ old ∈ store.targets, old.id ≠ target.id)
    (ha : a ∈ store.ledger.artifactRegistry) (hid : a.id = target.artifactId) (hvalid : a.status = .valid) :
    Covered rt { store with targets := store.targets ++ [target] } := by
  refine ⟨h.linked, ⟨h.registered.manifested, h.registered.registered, h.registered.manifestKeys, ?_, ?_, ?_,
    h.registered.targetKeys.concat hfree⟩, fun row hrow => ?_, h.mapped.rowKeys,
    fun id hw other hother b hb hbid howned => ?_⟩
  · intro other hother
    obtain ⟨own, hown, hlocal⟩ := h.registered.localTarget other hother
    exact ⟨own, List.mem_append_left _ hown, hlocal⟩
  · intro other hother
    rcases List.mem_append.mp hother with hold | hnew
    · exact h.registered.targets other hold
    · rw [List.mem_singleton.mp hnew]
      exact ⟨manifest, hmanifest, hof⟩
  · have hold : ∀ one ∈ store.targets ++ [target], one.targetKind = .localResearchFile → one ∈ store.targets := by
      intro one hone hlocal
      rcases List.mem_append.mp hone with hold | hnew
      · exact hold
      · rw [List.mem_singleton.mp hnew, hkind] at hlocal
        cases hlocal
    intro one hone other hother hkindOne hkindOther
    exact h.registered.single one (hold one hone hkindOne) other (hold other hother hkindOther) hkindOne hkindOther
  · exact (h.mapped.rows row hrow).step h.linked.ok (LedgerStep.refl _) fun old hold => List.mem_append_left _ hold
  · rcases List.mem_append.mp hother with hold | hnew
    · exact h.mapped.mapped id hw other hold b hb hbid howned
    · rw [List.mem_singleton.mp hnew, ← hid] at hbid
      have hsame : b = a := h.linked.ok.wellformed.artifacts.eq hb ha hbid
      have hinvalid := h.linked.ok.closed.artifacts id hw b hb howned
      rw [hsame, hvalid] at hinvalid
      cases hinvalid

theorem registerExternalTarget {artifactId exportId manifestSha256 : String} (h : Covered rt store)
    (hrun : registerExternalTarget rt store artifactId exportId manifestSha256 = .ok store') : Covered rt store' := by
  simp only [M1R1.registerExternalTarget, bind_ok_iff, orError_eq_ok, require_eq_ok] at hrun
  obtain ⟨⟨⟩, -, ⟨⟩, -, manifest, hmanifest, artifact, hartifact, actual, hactual, -, hbinding, persisted, -, -, -, hrun⟩ :=
    hrun
  cases hrun
  have hmem : manifest ∈ store.manifests := List.mem_of_find?_eq_some hmanifest
  have hid : manifest.artifactId = artifactId := by simpa using List.find?_some hmanifest
  obtain ⟨hfound, hvalid⟩ := Option.filter_eq_some_iff.mp hartifact
  have hartifactMem := List.mem_of_find?_eq_some hfound
  have hartifactId : artifact.id = artifactId := by simpa using List.find?_some hfound
  unfold insertOrIgnore
  split
  · exact h.congr h.linked (LedgerStep.refl _) (fun _ hw => hw) rfl rfl rfl rfl
  · next hfree =>
    push Not at hfree
    refine h.external rfl hmem ⟨hid.symm, hactual, by simp⟩ (fun old hold => (hfree old hold).1) hartifactMem
      hartifactId (by simpa using hvalid)

theorem run {action : StoreAction} (h : Covered rt store) (hrun : action.run rt store = .ok store') :
    Covered rt store' := by
  cases action with
  | backend clock action => exact h.backend hrun
  | registerExternalTarget artifactId exportId manifestSha256 => exact h.registerExternalTarget hrun
  | persist intent source fault cleanup => exact h.persist hrun
  | recoverIntent intentId moves commits =>
    cases hrun
    exact h.recoverIntent intentId moves commits
  | sweepOrphan artifactId =>
    cases hrun
    unfold sweepOrphan
    split
    · exact h.congr h.linked (LedgerStep.refl _) (fun _ hw => hw) rfl rfl rfl rfl
    · exact h

theorem reachable (h : Reachable (storeSystem rt) store) : Covered rt store := by
  refine h.invariant (I := Covered rt) ?_ ?_
  · rintro _ rfl
    exact .empty rt
  · rintro store action _ hstore - rfl
    unfold storeStep
    split
    · next hrun => exact hstore.run hrun
    · exact hstore

/-! ## Withdrawals and plans -/

theorem withdraw_error {clock : Clock} {sessionId : String} {idempotencyKey : Option String} (h : Covered rt store)
    {e : StoreError} (herror : M1R1.backend rt clock store (.mutate (.withdraw sessionId idempotencyKey)) = .error e) :
    e ≠ .integrityError ∧ e ≠ .ledger .integrityError := by
  rcases bind_error_iff.mp herror with hledger | ⟨ledger, hledger, herror⟩
  · cases hrun : (M1Action.mutate (.withdraw sessionId idempotencyKey)).run rt.toRuntime clock store.ledger with
    | ok ledger =>
      rw [hrun] at hledger
      cases hledger
    | error ledgerError =>
      rw [hrun] at hledger
      cases hledger
      refine ⟨nofun, fun heq => ?_⟩
      obtain rfl := StoreError.ledger.inj heq
      cases hwithdraw : withdraw rt.toRuntime clock store.ledger sessionId idempotencyKey with
      | ok result =>
        simp only [M1Action.run, MutateCall.run, hwithdraw] at hrun
        cases hrun
      | error withdrawError =>
        simp only [M1Action.run, MutateCall.run, hwithdraw] at hrun
        cases hrun
        exact h.linked.withdraw_error hwithdraw
  · have hlinked : Linked rt.toRuntime ledger := h.linked.action rfl (mapError_ok hledger)
    rcases bind_error_iff.mp herror with hrows | ⟨taskTargets, -, herror⟩
    · obtain ⟨rows, hok⟩ := foldlM_afterWithdrawalReceipt_ok hlinked
        (ledger.withdrawalReceipts.drop store.ledger.withdrawalReceipts.length) store.taskTargets
      rw [hok] at hrows
      cases hrows
    · cases herror

theorem row_of_target (h : Covered rt store)
    (hrow : row ∈ store.taskTargets) (htarget : target ∈ store.targets) (heq : row.targetId = target.id) :
    row.artifactId = target.artifactId ∧ row.targetKind = target.targetKind := by
  obtain ⟨own, hown, hid, hartifact, hkind⟩ := (h.mapped.rows row hrow).target
  have hsame : own = target := h.registered.targetKeys.eq hown htarget (hid.trans heq)
  rw [← hsame]
  exact ⟨hartifact.symm, hkind.symm⟩

theorem row_participant {id : String} (h : Covered rt store)
    (hrow : row ∈ store.taskTargets) (ha : a ∈ store.ledger.artifactRegistry) (hid : a.id = row.artifactId)
    (howned : a.sessionId ∈ store.ledger.sessionIdsOf id) : row.participantId = id := by
  obtain ⟨own, hown, hownId, hownSession⟩ := (h.mapped.rows row hrow).artifact
  have hsame : own = a := h.linked.ok.wellformed.artifacts.eq hown ha (hownId.trans hid.symm)
  rw [hsame] at hownSession
  exact h.linked.ok.wellformed.owner_unique hownSession howned

end Covered

end PduExamObserver.M1R1
