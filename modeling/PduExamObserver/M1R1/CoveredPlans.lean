import PduExamObserver.M1R1.Coverage
import PduExamObserver.M1R1.Plans

/-! # The plans of a covered store

The planner finds every task of the participant bound, every artifact invalidated and every manifest as it was
registered. -/

namespace PduExamObserver.M1R1
open M1 Table Transition M1Backend
set_option autoImplicit false

variable {rt : Runtime} {store : Store}

def coverageCodes : List String := ["TARGET_BINDING_MISSING", "ARTIFACT_NOT_INVALIDATED", "MANIFEST_BINDING_INVALID"]

theorem onlyIf_not_mem {p : Prop} [Decidable p] {code other : String} (h : code ≠ other) : code ∉ onlyIf p other := by
  unfold onlyIf
  split
  · simpa using h
  · exact List.not_mem_nil

theorem manifestBinding_path {manifest : ArtifactManifest} {digest : String}
    (h : manifestBinding rt manifest = .ok digest) :
    normalizedRelativePath manifest.relativePath = .ok manifest.relativePath := by
  obtain ⟨path, hpath, -⟩ := bind_ok_iff.mp h
  rwa [normalizedRelativePath_ok hpath] at hpath

namespace Covered

variable (h : Covered rt store) {participantId receiptId : String} {mapping : Mapping}
include h

theorem mapping_parts (hmapping : mapping ∈ mappingsOf store participantId receiptId) :
    mapping.row ∈ store.taskTargets ∧ mapping.row.participantId = participantId ∧ mapping.target ∈ store.targets ∧
      mapping.target.artifactId = mapping.row.artifactId ∧ mapping.target.targetKind = mapping.row.targetKind ∧
      mapping.artifactStatus = .invalidated := by
  obtain ⟨hrow, hparticipant, -, hfound⟩ := mem_mappingsOf.mp hmapping
  unfold Store.mapping? at hfound
  split at hfound
  · next target artifact htarget hartifact =>
    have hmem : target ∈ store.targets := List.mem_of_find?_eq_some htarget
    have hid : target.id = mapping.row.targetId := by simpa using List.find?_some htarget
    have hfields := h.row_of_target hrow hmem hid.symm
    have hartifactMem : artifact ∈ store.ledger.artifactRegistry := List.mem_of_find?_eq_some hartifact
    have hartifactId : artifact.id = mapping.row.artifactId := by simpa using List.find?_some hartifact
    have hcovers := h.mapped.rows mapping.row hrow
    obtain ⟨own, hown, hownId, howned⟩ := hcovers.artifact
    have hsame : own = artifact := h.linked.ok.wellformed.artifacts.eq hown hartifactMem (hownId.trans hartifactId.symm)
    have hinvalid : artifact.status = .invalidated :=
      h.linked.ok.closed.artifacts _ (hcovers.withdrawn h.linked.ok) artifact hartifactMem (hsame ▸ howned)
    have hparts := Option.some.inj hfound
    have htargetEq : mapping.target = target := by rw [← hparts]
    have hstatusEq : mapping.artifactStatus = artifact.status := by rw [← hparts]
    rw [htargetEq, hstatusEq]
    exact ⟨hrow, hparticipant, hmem, hfields.1.symm, hfields.2.symm, hinvalid⟩
  · cases hfound

theorem manifestMatches (hmapping : mapping ∈ mappingsOf store participantId receiptId) :
    ∃ manifest, store.manifest? mapping.row.artifactId = some manifest ∧
      manifestMatches rt mapping manifest = true := by
  obtain ⟨-, -, htarget, hartifact, hkind, -⟩ := h.mapping_parts hmapping
  obtain ⟨manifest, hmanifest, hof⟩ := h.registered.targets mapping.target htarget
  have hid : manifest.artifactId = mapping.row.artifactId := hof.artifact.symm.trans hartifact
  refine ⟨manifest, ?_, ?_⟩
  · rw [← hid]
    exact h.registered.manifestKeys.find hmanifest
  · unfold M1R1.manifestMatches
    rw [hof.binding, manifestBinding_path hof.binding]
    simp only [decide_eq_true_eq]
    exact ⟨trivial, fun hlocal => hof.fields (hkind.trans hlocal)⟩

theorem mappingBlockers_nil (hmapping : mapping ∈ mappingsOf store participantId receiptId) :
    mappingBlockers rt store mapping = [] := by
  obtain ⟨hrow, -, -, -, -, hstatus⟩ := h.mapping_parts hmapping
  obtain ⟨manifest, hmanifest, hmatches⟩ := h.manifestMatches hmapping
  have hstate : mapping.row.state = .pendingConfirmation := (h.mapped.rows mapping.row hrow).state
  simp [mappingBlockers, hstate, hstatus, hmanifest, hmatches]

omit h in
theorem mapping_of_row {row : TaskTarget} {target : ReconciliationTarget} {a : Artifact}
    (hlinked : Linked rt.toRuntime store.ledger) (hkeys : Keyed ReconciliationTarget.id store.targets)
    (htarget : target ∈ store.targets) (htargetId : row.targetId = target.id)
    (ha : a ∈ store.ledger.artifactRegistry) (hid : a.id = row.artifactId) :
    ∃ mapping, store.mapping? row = some mapping := by
  have hfound : store.target? row.targetId = some target := by
    rw [htargetId]
    exact hkeys.find htarget
  have hartifact : store.ledger.artifact? row.artifactId = some a := by
    rw [← hid]
    exact hlinked.ok.wellformed.artifact_of_mem ha
  exact ⟨⟨row, target, a.status⟩, by rw [Store.mapping?, hfound, hartifact]⟩

theorem row_unique {target : ReconciliationTarget} {a : Artifact} (hw : Withdrawn store.ledger participantId)
    (htarget : target ∈ store.targets) (ha : a ∈ store.ledger.artifactRegistry) (hid : a.id = target.artifactId)
    (howned : a.sessionId ∈ store.ledger.sessionIdsOf participantId) :
    ∃ row ∈ store.taskTargets, row.targetId = target.id ∧ row.participantId = participantId ∧
      row.artifactId = target.artifactId ∧
      (∃ receipt ∈ store.ledger.withdrawalReceipts, receipt.participantId = participantId ∧
        receipt.id = row.withdrawalReceiptId) ∧
      (∃ task ∈ store.ledger.withdrawalTasks, task.id = row.withdrawalTaskId ∧ task.artifactId = target.artifactId ∧
        task.withdrawalSubjectSessionId ∈ store.ledger.sessionIdsOf participantId) ∧
      ∀ other ∈ store.taskTargets, other.targetId = target.id → other = row := by
  obtain ⟨row, hrow, htargetId⟩ := h.mapped.mapped participantId hw target htarget a ha hid howned
  have hartifact : row.artifactId = target.artifactId := (h.row_of_target hrow htarget htargetId).1
  have hparticipant : row.participantId = participantId :=
    h.row_participant hrow ha (hid.trans hartifact.symm) howned
  have hcovers := h.mapped.rows row hrow
  obtain ⟨receipt, hreceipt, hreceiptId, howner⟩ := hcovers.receipt
  obtain ⟨task, htask, htaskId, htaskArtifact, htaskOwned⟩ := hcovers.task
  refine ⟨row, hrow, htargetId, hparticipant, hartifact, ⟨receipt, hreceipt, howner.trans hparticipant, hreceiptId⟩,
    ⟨task, htask, htaskId, htaskArtifact.trans hartifact, hparticipant ▸ htaskOwned⟩, fun other hother heq => ?_⟩
  exact h.mapped.rowKeys.eq hother hrow (heq.trans htargetId.symm)

theorem task_bound {receipt : WithdrawalReceipt} {task : WithdrawalTask}
    (hreceipt : receipt ∈ store.ledger.withdrawalReceipts) (htask : task ∈ tasksOf store.ledger receipt.participantId) :
    ∃ mapping ∈ mappingsOf store receipt.participantId receipt.id, mapping.row.withdrawalTaskId = task.id := by
  obtain ⟨hmem, howned⟩ := List.mem_filter.mp (mem_tasksOf.mp htask)
  rw [decide_eq_true_eq] at howned
  obtain ⟨a, ha, hid, haOwned⟩ := h.linked.task_artifact hmem howned
  obtain ⟨manifest, hmanifest, hmanifestId⟩ := h.registered.manifested a ha
  obtain ⟨target, htarget, -, hof⟩ := h.registered.localTarget manifest hmanifest
  have hartifact : a.id = target.artifactId := hmanifestId.symm.trans hof.artifact.symm
  have hw : Withdrawn store.ledger receipt.participantId := h.linked.ok.closed.receipts_withdrawn receipt hreceipt
  obtain ⟨row, hrow, htargetId, hparticipant, hrowArtifact, ⟨own, hown, hownParticipant, hownId⟩,
    ⟨task', htask', htaskId, htaskArtifact, htaskOwned⟩, -⟩ := h.row_unique hw htarget ha hartifact haOwned
  have hsame : own = receipt := h.linked.ok.receipts.eq hown hreceipt hownParticipant
  have htasks : task' = task :=
    h.linked.task_unique htask' htaskOwned hmem howned (htaskArtifact.trans (hartifact.symm.trans hid))
  obtain ⟨mapping, hmapping⟩ := mapping_of_row h.linked h.registered.targetKeys htarget htargetId ha
    (hartifact.trans hrowArtifact.symm)
  have hmappingRow : mapping.row = row := Store.mapping?_row hmapping
  refine ⟨mapping, mem_mappingsOf.mpr ?_, ?_⟩
  · rw [hmappingRow]
    exact ⟨hrow, hparticipant, by rw [← hownId, hsame], hmapping⟩
  · rw [hmappingRow, ← htaskId, htasks]

theorem blockers_coverage {receipt : WithdrawalReceipt} (hreceipt : receipt ∈ store.ledger.withdrawalReceipts)
    {code : String} (hcode : code ∈ coverageCodes) :
    code ∉ blockers rt store receipt.participantId (tasksOf store.ledger receipt.participantId)
      (mappingsOf store receipt.participantId receipt.id) := by
  have hbound : ¬ ∃ task ∈ tasksOf store.ledger receipt.participantId,
      ∀ mapping ∈ mappingsOf store receipt.participantId receipt.id, mapping.row.withdrawalTaskId ≠ task.id := by
    rintro ⟨task, htask, hunbound⟩
    obtain ⟨mapping, hmapping, heq⟩ := h.task_bound hreceipt htask
    exact hunbound mapping hmapping heq
  have hmappings : (mappingsOf store receipt.participantId receipt.id).flatMap (mappingBlockers rt store) = [] :=
    List.flatMap_eq_nil_iff.mpr fun mapping hmapping => h.mappingBlockers_nil hmapping
  unfold blockers
  rw [hmappings, onlyIf, if_neg hbound]
  simp only [List.nil_append, List.append_nil, List.mem_append, not_or]
  simp only [coverageCodes, List.mem_cons, List.not_mem_nil, or_false] at hcode
  refine ⟨⟨⟨onlyIf_not_mem ?_, onlyIf_not_mem ?_⟩, onlyIf_not_mem ?_⟩, onlyIf_not_mem ?_⟩ <;>
    rcases hcode with rfl | rfl | rfl <;> decide

theorem plan_coverage {sessionId : String} {plan : ReconciliationPlan}
    (hplan : planForSession rt store sessionId = .ok plan) {code : String} (hcode : code ∈ coverageCodes) :
    code ∉ plan.body.blockerCodes := by
  obtain ⟨session, -, participant, -, receipt, hreceipt, -, -, -, hparticipant, hbody, -⟩ := planForSession_ok hplan
  rw [hbody]
  intro hmem
  have hmem' : code ∈ blockers rt store participant.id (tasksOf store.ledger participant.id)
      (mappingsOf store participant.id receipt.id) := by
    simpa [planBody] using hmem
  rw [← hparticipant] at hmem'
  exact h.blockers_coverage hreceipt hcode hmem'

end Covered

/-- In every state of the store each artifact with a manifest has one local target, with the path, size and digests of
the manifest. No constraint fails a withdrawal. After one, each target of an artifact of the participant has one row,
which maps it to the task of the artifact under the participant's receipt, and no plan finds a binding missing. -/
theorem target_coverage (rt : Runtime) (store : Store) (h : Reachable (storeSystem rt) store) :
    (∀ a ∈ store.ledger.artifactRegistry, ∀ manifest ∈ store.manifests, manifest.artifactId = a.id →
      ∃ target ∈ store.targets, (target.targetKind = .localResearchFile ∧ target.artifactId = a.id ∧
        target.relativePath = some manifest.relativePath ∧ target.expectedByteSize = some manifest.byteSize ∧
        target.expectedSha256 = some manifest.sha256 ∧ manifestBinding rt manifest = .ok target.manifestSha256) ∧
        ∀ other ∈ store.targets, other.targetKind = .localResearchFile → other.artifactId = a.id → other = target) ∧
    (∀ clock sessionId idempotencyKey e,
      M1R1.backend rt clock store (.mutate (.withdraw sessionId idempotencyKey)) = .error e →
        e ≠ .integrityError ∧ e ≠ .ledger .integrityError) ∧
    (∀ participant ∈ store.ledger.participants, participant.withdrawnAt ≠ none → ∀ target ∈ store.targets,
      ∀ a ∈ store.ledger.artifactRegistry, a.id = target.artifactId →
      a.sessionId ∈ store.ledger.sessionIdsOf participant.id →
      ∃ row ∈ store.taskTargets, (row.targetId = target.id ∧ row.participantId = participant.id ∧
        row.artifactId = target.artifactId ∧
        (∃ receipt ∈ store.ledger.withdrawalReceipts, receipt.participantId = participant.id ∧
          receipt.id = row.withdrawalReceiptId) ∧
        ∃ task ∈ store.ledger.withdrawalTasks, task.id = row.withdrawalTaskId ∧ task.artifactId = target.artifactId ∧
          task.withdrawalSubjectSessionId ∈ store.ledger.sessionIdsOf participant.id) ∧
        ∀ other ∈ store.taskTargets, other.targetId = target.id → other = row) ∧
    ∀ sessionId plan, planForSession rt store sessionId = .ok plan →
      "TARGET_BINDING_MISSING" ∉ plan.body.blockerCodes ∧ "ARTIFACT_NOT_INVALIDATED" ∉ plan.body.blockerCodes ∧
        "MANIFEST_BINDING_INVALID" ∉ plan.body.blockerCodes := by
  have hcovered : Covered rt store := .reachable h
  refine ⟨fun a ha manifest hmanifest hid => ?_, fun clock sessionId idempotencyKey e herror =>
    hcovered.withdraw_error herror, fun participant hparticipant hwithdrawn target htarget a ha hid howned => ?_,
    fun sessionId plan hplan => ?_⟩
  · obtain ⟨target, htarget, hkind, hof⟩ := hcovered.registered.localTarget manifest hmanifest
    obtain ⟨hpath, hsize, hdigest⟩ := hof.fields hkind
    have hartifact : target.artifactId = a.id := hof.artifact.trans hid
    refine ⟨target, htarget, ⟨hkind, hartifact, hpath, hsize, hdigest, hof.binding⟩, fun other hother hlocal heq => ?_⟩
    exact hcovered.registered.single other hother target htarget hlocal hkind (heq.trans hartifact.symm)
  · have hw : Withdrawn store.ledger participant.id := ⟨participant, hparticipant, rfl, hwithdrawn⟩
    obtain ⟨row, hrow, htargetId, hown, hartifact, hreceipt, htask, hunique⟩ :=
      hcovered.row_unique hw htarget ha hid howned
    exact ⟨row, hrow, ⟨htargetId, hown, hartifact, hreceipt, htask⟩, hunique⟩
  · refine ⟨hcovered.plan_coverage hplan ?_, hcovered.plan_coverage hplan ?_, hcovered.plan_coverage hplan ?_⟩ <;>
      simp [coverageCodes]

namespace Sample

def covered : List StoreAction :=
  sessions ++ [persist "intent" "artifact", persist "intent-2" "artifact-2",
    .backend M1.noon (.mutate (.withdraw "research-aaa" none))]

end Sample

theorem target_coverage_sample :
    (∃ plan, planForSession Sample.runtime (Sample.covered.foldl (storeStep Sample.runtime) {}) "research-aaa" =
      .ok plan ∧ plan.body.targetTotal = 2 ∧ plan.body.taskTotal = 2) ∧
    ∀ sessionId plan, planForSession Sample.runtime (Sample.covered.foldl (storeStep Sample.runtime) {}) sessionId =
      .ok plan → "TARGET_BINDING_MISSING" ∉ plan.body.blockerCodes ∧
        "ARTIFACT_NOT_INVALIDATED" ∉ plan.body.blockerCodes ∧
        "MANIFEST_BINDING_INVALID" ∉ plan.body.blockerCodes := by
  have hreach : Reachable (storeSystem Sample.runtime) (Sample.covered.foldl (storeStep Sample.runtime) {}) :=
    reachable_foldl Sample.covered (.init rfl)
  refine ⟨?_, (target_coverage Sample.runtime _ hreach).2.2.2⟩
  have hplan : ((planForSession Sample.runtime (Sample.covered.foldl (storeStep Sample.runtime) {})
      "research-aaa").toOption.map fun plan => (plan.body.targetTotal, plan.body.taskTotal)) = some (2, 2) := by
    decide +kernel
  cases hrun : planForSession Sample.runtime (Sample.covered.foldl (storeStep Sample.runtime) {}) "research-aaa" with
  | error e =>
    rw [hrun] at hplan
    cases hplan
  | ok plan =>
    rw [hrun] at hplan
    obtain ⟨htargets, htasks⟩ := Prod.mk.inj (Option.some.inj hplan)
    exact ⟨plan, rfl, htargets, htasks⟩

end PduExamObserver.M1R1
