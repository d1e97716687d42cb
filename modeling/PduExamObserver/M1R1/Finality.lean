import PduExamObserver.M1R1.Receipts

/-! # A complete plan stays as it is

Once a plan is complete no later step changes any part of it, so every receipt that can be made of it is the same. -/

namespace PduExamObserver.M1R1
open M1 Table Transition
set_option autoImplicit false

variable {rt : Runtime} {world world' : World} {store store' : Store} {action : Action} {progress : Progress}
  {row : TaskTarget} {now : Seconds} {participant participant' : Participant} {receiptId : String}

/-! ## The plan -/

structure Complete (rt : Runtime) (store : Store) (participantId receiptId : String) : Prop where
  withdrawn : Withdrawn store.ledger participantId
  tasks : tasksOf store.ledger participantId ≠ []
  blockers : blockers rt store participantId (tasksOf store.ledger participantId)
    (mappingsOf store participantId receiptId) = []
  terminal : ∀ mapping ∈ mappingsOf store participantId receiptId, mapping.planTarget.terminal = true
  linked : ∀ row ∈ store.taskTargets, RowLinked store row

theorem blockers_eq_nil_iff {participantId : String} {tasks : List WithdrawalTask} {mappings : List Mapping} :
    blockers rt store participantId tasks mappings = [] ↔
      (∀ task ∈ tasks, ∃ mapping ∈ mappings, mapping.row.withdrawalTaskId = task.id) ∧
        ¬ hasPendingLegacyIntent store.ledger participantId ∧ AllSealed store participantId ∧
        (∀ hold ∈ store.holds, hold.participantId = participantId → hold.status ≠ .active) ∧
        ∀ mapping ∈ mappings, mappingBlockers rt store mapping = [] := by
  simp only [M1R1.blockers, List.append_eq_nil_iff, onlyIf_eq_nil, List.flatMap_eq_nil_iff, not_or]
  constructor
  · rintro ⟨⟨⟨⟨⟨hmissing, hlegacy, hpending⟩, hfailed⟩, hquarantined⟩, hholds⟩, hmappings⟩
    refine ⟨fun task hmem => ?_, hlegacy, fun row hrow howned => ?_, fun hold hmem howner hactive => ?_, hmappings⟩
    · by_contra hnone
      exact hmissing ⟨task, hmem, fun mapping hmapping heq => hnone ⟨mapping, hmapping, heq⟩⟩
    · cases hstatus : row.status with
      | «sealed» => rfl
      | pending => exact absurd ⟨row, hrow, howned, hstatus⟩ hpending
      | failed => exact absurd ⟨row, hrow, howned, hstatus⟩ hfailed
      | quarantined => exact absurd ⟨row, hrow, howned, hstatus⟩ hquarantined
    · exact hholds ⟨hold, hmem, howner, hactive⟩
  · rintro ⟨hmapped, hlegacy, hsealed, hholds, hmappings⟩
    have hnone (status : IntentStatus) (hne : status ≠ .sealed) : ¬ hasIntent store participantId status := by
      rintro ⟨row, hrow, howned, rfl⟩
      exact hne (hsealed row hrow howned)
    refine ⟨⟨⟨⟨⟨?_, hlegacy, hnone _ (by simp)⟩, hnone _ (by simp)⟩, hnone _ (by simp)⟩, ?_⟩, hmappings⟩
    · rintro ⟨task, hmem, hmissing⟩
      obtain ⟨mapping, hmapping, heq⟩ := hmapped task hmem
      exact hmissing mapping hmapping heq
    · rintro ⟨hold, hmem, howner, hactive⟩
      exact hholds hold hmem howner hactive

def planRow (participantId receiptId : String) (row : TaskTarget) : Bool :=
  row.participantId = participantId ∧ row.withdrawalReceiptId = receiptId

section Stable

variable {participantId : String} (hok : LedgerOk rt.toRuntime store.ledger) (hkeys : Keys store)
  (hgrowth : StoreGrowth rt store store') (h : Complete rt store participantId receiptId)
include hok h

theorem Complete.mapping (hmem : row ∈ store.taskTargets) (hrow : planRow participantId receiptId row = true) :
    ∃ mapping ∈ mappingsOf store participantId receiptId, store.mapping? row = some mapping ∧ mapping.row = row := by
  obtain ⟨mapping, hmapping⟩ := (h.linked row hmem).mapping_some hok
  have hsame := Store.mapping?_row hmapping
  simp only [planRow, decide_eq_true_eq] at hrow
  refine ⟨mapping, mem_mappingsOf.mpr ?_, hmapping, hsame⟩
  rw [hsame]
  exact ⟨hmem, hrow.1, hrow.2, hmapping⟩

theorem Complete.settled (hmem : row ∈ store.taskTargets) (hrow : planRow participantId receiptId row = true) :
    row.Settled := by
  obtain ⟨mapping, hmapping, -, rfl⟩ := h.mapping hok hmem hrow
  have hterminal := h.terminal mapping hmapping
  simp only [PlanTarget.terminal, decide_eq_true_eq] at hterminal
  rcases hterminal with ⟨-, hattested⟩ | ⟨-, hverified⟩
  · exact .inr hattested
  · exact .inl hverified

include hgrowth

theorem Complete.rows : store'.taskTargets.filter (planRow participantId receiptId) =
    store.taskTargets.filter (planRow participantId receiptId) := by
  refine hgrowth.taskTargets.filter_eq (fun r hr hrow s hlater => ?_) (fun r s hlater hrow => ?_) fun r hfresh => ?_
  · rcases hlater.2.2 with hsame | hopen
    · exact hsame
    · exact absurd (h.settled hok hr hrow) hopen
  · rw [hlater.1] at hrow
    exact hrow
  · rw [← Bool.not_eq_true]
    intro hrow
    simp only [planRow, decide_eq_true_eq] at hrow
    exact hfresh.opened (hrow.1 ▸ h.withdrawn)

include hkeys

theorem Complete.mapping?_eq (hmem : row ∈ store.taskTargets) (hrow : planRow participantId receiptId row = true) :
    store'.mapping? row = store.mapping? row := by
  obtain ⟨mapping, hmapping, hfound, hsame⟩ := h.mapping hok hmem hrow
  have hquiet := (blockers_eq_nil_iff.mp h.blockers).2.2.2.2 mapping hmapping
  have hinvalidated : mapping.artifactStatus = .invalidated := by
    by_contra hne
    simp [mappingBlockers, hne] at hquiet
  have hparts := hfound
  unfold Store.mapping? at hparts
  split at hparts
  · next target artifact htarget hartifact =>
    cases hparts
    have htarget' : store'.target? row.targetId = some target := by
      have hid : target.id = row.targetId := by simpa using List.find?_some htarget
      have hkept := hgrowth.targets_mem (List.mem_of_find?_eq_some htarget)
      rw [Store.target?, ← hid]
      exact ((hgrowth.keys hkeys).targets).find hkept
    have hid : artifact.id = row.artifactId := by simpa using List.find?_some hartifact
    obtain ⟨artifact', hartifact', hid', hstatus'⟩ :=
      hgrowth.ledger.invalidated _ ⟨artifact, List.mem_of_find?_eq_some hartifact, hid, hinvalidated⟩
    have hfound' : store'.ledger.artifact? row.artifactId = some artifact' := by
      rw [← hid']
      exact hgrowth.ledgerOk.wellformed.artifact_of_mem hartifact'
    rw [hfound, Store.mapping?, htarget', hfound']
    dsimp only at hinvalidated ⊢
    rw [hinvalidated, hstatus']
  · cases hparts

theorem Complete.mappings_eq : mappingsOf store' participantId receiptId = mappingsOf store participantId receiptId := by
  have hfilter : ((store'.taskTargets.filter (planRow participantId receiptId)).filterMap store'.mapping?) =
      (store.taskTargets.filter (planRow participantId receiptId)).filterMap store.mapping? := by
    rw [h.rows hok hgrowth]
    refine List.filterMap_congr fun row hmem => ?_
    exact h.mapping?_eq hok hkeys hgrowth (List.mem_of_mem_filter hmem) (List.of_mem_filter hmem)
  exact congrArg (List.insertionSort fun a b : Mapping => a.row.targetId ≤ b.row.targetId) hfilter

omit hok hkeys in
theorem Complete.tasks_eq : (tasksOf store'.ledger participantId).map taskIdentity =
    (tasksOf store.ledger participantId).map taskIdentity := by
  have hsorted (db : Database) : (tasksOf db participantId).map taskIdentity =
      ((ownTasks db participantId).map taskIdentity).insertionSort fun a b => a.1 ≤ b.1 :=
    List.map_insertionSort _ _ _ _ fun _ _ _ _ => Iff.rfl
  rw [hsorted, hsorted, hgrowth.ledger.tasks _ h.withdrawn]

omit hok in
theorem Complete.mappingBlockers_eq {mapping : Mapping} (hmapping : mapping ∈ mappingsOf store participantId receiptId) :
    mappingBlockers rt store' mapping = [] := by
  have hquiet := (blockers_eq_nil_iff.mp h.blockers).2.2.2.2 mapping hmapping
  cases hmanifest : store.manifest? mapping.row.artifactId with
  | none => simp [mappingBlockers, hmanifest] at hquiet
  | some manifest =>
    have hid : manifest.artifactId = mapping.row.artifactId := by simpa using List.find?_some hmanifest
    obtain ⟨_, hkept, rfl⟩ := hgrowth.manifests.forward (List.mem_of_find?_eq_some hmanifest)
    have hmanifest' : store'.manifest? mapping.row.artifactId = some manifest := by
      rw [Store.manifest?, ← hid]
      exact ((hgrowth.keys hkeys).manifests).find hkept
    rw [← hquiet, mappingBlockers, mappingBlockers, hmanifest, hmanifest']

theorem Complete.growth : Complete rt store' participantId receiptId := by
  obtain ⟨hmapped, hlegacy, hsealed, hholds, hmappings⟩ := blockers_eq_nil_iff.mp h.blockers
  have htasks := h.tasks_eq hgrowth
  refine ⟨hgrowth.ledger.withdrawn _ h.withdrawn, fun hnil => h.tasks ?_, ?_, ?_, fun row hmem => ?_⟩
  · rw [hnil] at htasks
    exact List.map_eq_nil_iff.mp htasks.symm
  · rw [blockers_eq_nil_iff, h.mappings_eq hok hkeys hgrowth]
    refine ⟨fun task hmem => ?_, fun hpending => hlegacy (hgrowth.ledger.intents _ h.withdrawn hpending),
      hgrowth.sealed _ h.withdrawn hsealed, hgrowth.holds ▸ hholds, fun mapping hmapping => ?_⟩
    · have hidentity : taskIdentity task ∈ (tasksOf store.ledger participantId).map taskIdentity :=
        htasks ▸ List.mem_map_of_mem hmem
      obtain ⟨old, hold, heq⟩ := List.mem_map.mp hidentity
      obtain ⟨mapping, hmapping, hid⟩ := hmapped old hold
      exact ⟨mapping, hmapping, hid.trans (congrArg Prod.fst heq)⟩
    · exact h.mappingBlockers_eq hkeys hgrowth hmapping
  · rw [h.mappings_eq hok hkeys hgrowth]
    exact h.terminal
  · rcases hgrowth.taskTargets.back hmem with ⟨old, hold, hlater⟩ | ⟨new, hfresh, hlater⟩
    · exact (h.linked old hold).growth hgrowth hlater
    · exact (hfresh.linked hgrowth).growth (StoreGrowth.refl hgrowth.ledgerOk) hlater

end Stable

theorem complete_of_planBody (hok : LedgerOk rt.toRuntime store.ledger) (hlinked : ∀ row ∈ store.taskTargets, RowLinked store row)
    {receipt : WithdrawalReceipt} (hreceipt : receipt ∈ store.ledger.withdrawalReceipts)
    (howner : receipt.participantId = participant.id)
    (hcomplete : (planBody rt store participant receipt.id).complete = true) :
    Complete rt store participant.id receipt.id := by
  obtain ⟨htasks, hblockers, hterminal⟩ := complete_iff.mp hcomplete
  exact ⟨howner ▸ hok.closed.receipts_withdrawn receipt hreceipt, htasks, hblockers,
    fun mapping hmapping => hterminal _ (planTarget_mem hmapping), hlinked⟩

theorem Complete.body (h : Complete rt store participant.id receiptId) :
    (planBody rt store participant receiptId).complete = true := by
  refine complete_iff.mpr ⟨h.tasks, h.blockers, fun target hmem => ?_⟩
  obtain ⟨mapping, hmapping, rfl⟩ := List.mem_map.mp hmem
  exact h.terminal mapping hmapping

theorem Complete.planBody_eq (hok : LedgerOk rt.toRuntime store.ledger) (hkeys : Keys store)
    (hgrowth : StoreGrowth rt store store') (h : Complete rt store participant.id receiptId)
    (hidentity : participant'.identity = participant.identity) :
    planBody rt store' participant' receiptId = planBody rt store participant receiptId := by
  obtain ⟨hid, hpseudonym⟩ := Prod.mk.inj hidentity
  have htasks := h.tasks_eq hgrowth
  have hmappings := h.mappings_eq hok hkeys hgrowth
  have hlater := h.growth hok hkeys hgrowth
  have hplanTasks : (tasksOf store'.ledger participant.id).map
      (fun task => ({ artifactId := task.artifactId, withdrawalTaskId := task.id } : PlanTask)) =
      (tasksOf store.ledger participant.id).map
        fun task => ({ artifactId := task.artifactId, withdrawalTaskId := task.id } : PlanTask) := by
    have := congrArg (List.map fun identity : String × String × String =>
      ({ artifactId := identity.2.2, withdrawalTaskId := identity.1 } : PlanTask)) htasks
    rwa [List.map_map, List.map_map] at this
  have hlength : (tasksOf store'.ledger participant.id).length = (tasksOf store.ledger participant.id).length := by
    simpa using congrArg List.length htasks
  have hempty : (tasksOf store'.ledger participant.id).isEmpty = (tasksOf store.ledger participant.id).isEmpty := by
    rw [List.isEmpty_eq_false_iff.mpr hlater.tasks, List.isEmpty_eq_false_iff.mpr h.tasks]
  have hpseudonym' : participant'.pseudonym = participant.pseudonym := hpseudonym
  have hid' : participant'.id = participant.id := hid
  have hblockers := hlater.blockers
  rw [hmappings] at hblockers
  unfold planBody
  simp only [hid', hpseudonym', hmappings, hplanTasks, hlength, hempty, h.blockers, hblockers]

end PduExamObserver.M1R1
