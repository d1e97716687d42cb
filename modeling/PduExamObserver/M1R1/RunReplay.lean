import PduExamObserver.M1R1.Consumptions

/-! # A repeated call of `run_local`

A run moves the targets that its plan names, so the plan that the replay recomputes is another one. -/

namespace PduExamObserver.M1R1
open M1 Table Transition
set_option autoImplicit false

variable {rt : Runtime} {world world' : World} {store store' : Store} {action : Action} {run : Run}

def PlanBody.versions (body : PlanBody) : List (String × Nat) :=
  body.targets.map fun target => (target.targetId, target.stateVersion)

/-- A target that a plan would have is past every version that the body has of it. -/
def PlanLeft (store : Store) (consumed : ConsumedChallenge) (body : PlanBody) : Prop :=
  ∃ row ∈ store.taskTargets, row.participantId = consumed.participantId ∧
    row.withdrawalReceiptId = consumed.withdrawalReceiptId ∧ (store.mapping? row).isSome ∧
    ∀ entry ∈ body.versions, entry.1 = row.targetId → entry.2 < row.stateVersion

structure IssuedBefore (rt : Runtime) (store : Store) (issuance : Issuance) : Prop where
  digest : issuance.plan.planSha256 = planSha256 rt issuance.plan.body
  versions : ∀ entry ∈ issuance.plan.body.versions, ∃ row ∈ store.taskTargets, row.targetId = entry.1 ∧
    entry.2 ≤ row.stateVersion

/-- The run has left the plan at issue. -/
structure RunDone (store : Store) (rt : Runtime) (run : Run) (consumption : Consumption) (issuance : Issuance) : Prop where
  execution : consumption.result.executionId = run.executionId
  challenge : issuance.request.challengeId = consumption.result.challengeId
  digest : planSha256 rt issuance.plan.body = consumption.result.planSha256
  left : PlanLeft store consumption.result issuance.plan.body

structure Replays (rt : Runtime) (world : World) : Prop where
  issued : ∀ issuance ∈ world.issuances, IssuedBefore rt world.store issuance
  done : ∀ run ∈ world.store.runs, ∃ consumption ∈ world.consumptions, ∃ issuance ∈ world.issuances,
    RunDone world.store rt run consumption issuance

theorem mapping?_isSome_iff {row : TaskTarget} : (store.mapping? row).isSome ↔
    (∃ target ∈ store.targets, target.id = row.targetId) ∧
      ∃ artifact ∈ store.ledger.artifactRegistry, artifact.id = row.artifactId := by
  have htarget : (store.target? row.targetId).isSome ↔ ∃ target ∈ store.targets, target.id = row.targetId := by
    simp [Store.target?]
  have hartifact : (store.ledger.artifact? row.artifactId).isSome ↔
      ∃ artifact ∈ store.ledger.artifactRegistry, artifact.id = row.artifactId := by
    simp [Database.artifact?]
  rw [← htarget, ← hartifact]
  unfold Store.mapping?
  cases store.target? row.targetId <;> cases store.ledger.artifact? row.artifactId <;> simp

theorem PlanLeft.growth {consumed : ConsumedChallenge} {body : PlanBody} (hgrowth : StoreGrowth rt store store')
    (h : PlanLeft store consumed body) : PlanLeft store' consumed body := by
  obtain ⟨row, hrow, hparticipant, hreceipt, hmapped, hversions⟩ := h
  obtain ⟨row', hrow', heq, hle, -⟩ := hgrowth.taskTargets.forward hrow
  obtain ⟨⟨target, htarget, htargetId⟩, artifact, hartifact, hartifactId⟩ := mapping?_isSome_iff.mp hmapped
  obtain ⟨target', htarget', rfl⟩ := hgrowth.targets.forward htarget
  obtain ⟨artifact', hartifact', hid, -⟩ := hgrowth.ledger.registered artifact hartifact
  refine ⟨row', hrow', ?_, ?_, mapping?_isSome_iff.mpr ⟨⟨target, htarget', ?_⟩, artifact', hartifact', ?_⟩, ?_⟩
  · rwa [heq]
  · rwa [heq]
  · rwa [heq]
  · rw [heq]
    exact hid.trans hartifactId
  · intro entry hentry htargetId'
    rw [heq] at htargetId'
    exact (hversions entry hentry htargetId').trans_le hle

theorem IssuedBefore.growth (hgrowth : StoreGrowth rt store store') {issuance : Issuance}
    (h : IssuedBefore rt store issuance) : IssuedBefore rt store' issuance := by
  refine ⟨h.digest, fun entry hentry => ?_⟩
  obtain ⟨row, hrow, hid, hle⟩ := h.versions entry hentry
  obtain ⟨row', hrow', heq, hlater, -⟩ := hgrowth.taskTargets.forward hrow
  refine ⟨row', hrow', ?_, hle.trans hlater⟩
  rw [heq]
  exact hid

theorem Issues.issuedBefore {request : CreateRequest} {plan : ReconciliationPlan} {digest : String}
    {now monotonicNow : Seconds} {challengeAction : ChallengeAction} {issued : IssuedChallenge} {desk : Desk}
    (h : Issues rt desk request plan digest now monotonicNow challengeAction) :
    IssuedBefore rt desk.store { request, plan, issued } := by
  obtain ⟨session, -, participant, -, receipt, -, -, -, -, -, hbody, hsha⟩ := planForSession_ok h.planned
  refine ⟨hsha, fun entry hentry => ?_⟩
  obtain ⟨target, htarget, rfl⟩ := List.mem_map.mp hentry
  rw [hbody] at htarget
  obtain ⟨row, hrow, -, -, hid, -, -, hversion⟩ := mem_planTargets htarget
  exact ⟨row, hrow, hid, hversion.ge⟩

theorem Starts.planLeft {consumed : ConsumedChallenge} {runId : String} {plan : ReconciliationPlan}
    {participant : Participant} {execution : Execution} {challenge : Challenge} {issuance : Issuance}
    (h : Starts rt store consumed runId plan participant execution challenge)
    (hkeys : Keyed TaskTarget.targetId store.taskTargets) (hissued : IssuedBefore rt store issuance) :
    PlanLeft { store with
      runs := store.runs ++ [newRun consumed runId]
      taskTargets := startedTargets plan.body.runTargets store.taskTargets } consumed issuance.plan.body := by
  obtain ⟨targetId, htargetId⟩ := List.exists_mem_of_ne_nil _ h.targets
  obtain ⟨target, htarget, rfl, hlocal, hopen⟩ := mem_runTargets.mp htargetId
  rw [h.body] at htarget
  obtain ⟨mapping, hmapping, rfl⟩ := List.mem_map.mp htarget
  obtain ⟨hrow, hparticipant, hreceipt, hmapped⟩ := mem_mappingsOf.mp hmapping
  have hrowOpen : mapping.row.Open := of_decide_eq_true hopen
  have hmoved : mapping.row.moved .inProgress none ∈ startedTargets plan.body.runTargets store.taskTargets :=
    mem_update_of_pos hrow ⟨htargetId, hrowOpen⟩
  refine ⟨_, hmoved, hparticipant.trans h.ownerId, hreceipt, ?_, fun entry hentry hid => ?_⟩
  · have hsome : (store.mapping? mapping.row).isSome := hmapped ▸ rfl
    obtain ⟨htarget, hartifact⟩ := mapping?_isSome_iff.mp hsome
    exact mapping?_isSome_iff.mpr ⟨htarget, hartifact⟩
  · obtain ⟨row, hmem, hrowId, hle⟩ := hissued.versions entry hentry
    obtain rfl := hkeys.eq hmem hrow (hrowId.trans hid)
    exact Nat.lt_succ_of_le hle

theorem consumptions_mem {consumption : Consumption} (h : Event rt world action world')
    (hmem : consumption ∈ world.consumptions) : consumption ∈ world'.consumptions := by
  cases h with
  | consume => exact List.mem_append_left _ hmem
  | store | procedure | closing | issue | started | begun | verified | disposed | absent | blocked | completed
  | abandoned | recovered | restarted | finalized => exact hmem

theorem issuances_mem {issuance : Issuance} (h : Event rt world action world') :
    issuance ∈ world.issuances → issuance ∈ world'.issuances := by
  intro hmem
  cases h with
  | issue => exact List.mem_append_left _ hmem
  | store | procedure | closing | consume | started | begun | verified | disposed | absent | blocked | completed
  | abandoned | recovered | restarted | finalized => exact hmem

theorem issued_event (hgrowth : StoreGrowth rt world.store world'.store)
    (h : ∀ issuance ∈ world.issuances, IssuedBefore rt world.store issuance) (hevent : Event rt world action world') :
    ∀ issuance ∈ world'.issuances, IssuedBefore rt world'.store issuance := by
  intro issuance hmem
  cases hevent with
  | issue request plan digest now monotonicNow challengeAction stepUps issued hidle hissues hissued =>
    rcases List.mem_append.mp hmem with hold | hnew
    · exact (h issuance hold).growth hgrowth
    · obtain rfl := List.mem_singleton.mp hnew
      exact hissues.issuedBefore.growth hgrowth
  | store | procedure | closing | consume | started | begun | verified | disposed | absent | blocked | completed
  | abandoned | recovered | restarted | finalized => exact (h issuance hmem).growth hgrowth

theorem Replays.event (hsound : Sound rt world) (hconfirmed : Confirmed rt world) (h : Replays rt world)
    (hevent : Event rt world action world') : Replays rt world' := by
  have hgrowth := hevent.growth hsound
  refine ⟨issued_event hgrowth h.issued hevent, ?_⟩
  have hkept {run run' : Run} (hrun : run ∈ world.store.runs) (hid : run'.identity = run.identity) :
      ∃ consumption ∈ world'.consumptions, ∃ issuance ∈ world'.issuances,
        RunDone world'.store rt run' consumption issuance := by
    obtain ⟨consumption, hmem, issuance, hissuance, hdone⟩ := h.done run hrun
    have hexecution : run'.executionId = run.executionId := congrArg (fun columns => columns.2.1) hid
    exact ⟨consumption, consumptions_mem hevent hmem, issuance, issuances_mem hevent hissuance,
      hdone.execution.trans hexecution.symm, hdone.challenge, hdone.digest, hdone.left.growth hgrowth⟩
  intro run' hmem
  rcases hevent.runs_or_start hsound with hsame | ⟨consumed, runId, plan, participant, execution, challenge, hconsumed,
    hstarts, hconsumptions, hstore⟩
  · have hid : run'.identity ∈ world.store.runs.map Run.identity := hsame ▸ List.mem_map_of_mem hmem
    obtain ⟨run, hrun, heq⟩ := List.mem_map.mp hid
    exact hkept hrun heq.symm
  · rw [hstore] at hmem
    rcases List.mem_append.mp hmem with hold | hnew
    · exact hkept hold rfl
    · obtain rfl := List.mem_singleton.mp hnew
      obtain ⟨consumption, hconsumption, rfl⟩ := List.mem_map.mp hconsumed
      obtain ⟨row, hrow, has⟩ := hconfirmed.consumed consumption hconsumption
      obtain ⟨issuance, hissuance, opens, hissued, -⟩ := hconfirmed.issued row hrow
      refine ⟨consumption, hconsumptions ▸ hconsumption, issuance, issuances_mem hevent hissuance, rfl, ?_, ?_, ?_⟩
      · exact hissued.id.symm.trans has.id
      · rw [← (h.issued issuance hissuance).digest, ← hissued.plan]
        exact has.plan
      · rw [hstore]
        exact hstarts.planLeft hsound.keys.taskTargets (h.issued issuance hissuance)

/-- The current plan of a participant is not another one with the digest of the plan at issue. -/
def NoPlanCollision (rt : Runtime) (store : Store) (consumed : ConsumedChallenge) (issued : PlanBody) : Prop :=
  ∀ participant ∈ store.ledger.participants, participant.id = consumed.participantId →
    planSha256 rt (planBody rt store participant consumed.withdrawalReceiptId) = planSha256 rt issued →
      (planBody rt store participant consumed.withdrawalReceiptId).versions = issued.versions

theorem PlanLeft.planForConsumed_error {consumed : ConsumedChallenge} {body : PlanBody}
    (hcollision : NoPlanCollision rt store consumed body) (hbody : planSha256 rt body = consumed.planSha256)
    (hok : LedgerOk rt.toRuntime store.ledger) (h : PlanLeft store consumed body) :
    ∃ e, planForConsumed rt store consumed = .error e := by
  cases hplan : planForConsumed rt store consumed with
  | error e => exact ⟨e, rfl⟩
  | ok plan =>
    obtain ⟨participant, hmem, hid, hcurrent, hsha⟩ := planForConsumed_ok hok hplan
    rw [hcurrent, ← hbody] at hsha
    obtain ⟨row, hrow, hparticipant, hreceipt, hmapped, hversions⟩ := h
    obtain ⟨mapping, hmapping⟩ := Option.isSome_iff_exists.mp hmapped
    obtain rfl := Store.mapping?_row hmapping
    -- the target is in the current plan, with a version that the body does not have
    have htarget : mapping.planTarget ∈ (planBody rt store participant consumed.withdrawalReceiptId).targets :=
      List.mem_map_of_mem (mem_mappingsOf.mpr ⟨hrow, hparticipant.trans hid.symm, hreceipt, hmapping⟩)
    have hentry : (mapping.row.targetId, mapping.row.stateVersion) ∈
        (planBody rt store participant consumed.withdrawalReceiptId).versions := List.mem_map.mpr ⟨_, htarget, rfl⟩
    rw [hcollision participant hmem hid hsha] at hentry
    exact absurd (hversions _ hentry rfl) (Nat.lt_irrefl _)

/-- An execution has one run, and a further call of `run_local` for it raises, unless the current plan is another one with
the digest of the plan at issue; it never returns the stored run. -/
theorem run_local_never_replays (h : Reachable (system rt) world) :
    Keyed Run.executionId world.store.runs ∧ ∀ run ∈ world.store.runs,
      (∃ consumption ∈ world.consumptions, consumption.result.executionId = run.executionId) ∧
        ∀ consumption ∈ world.consumptions, consumption.result.executionId = run.executionId →
          ∃ issuance ∈ world.issuances, issuance.request.challengeId = consumption.result.challengeId ∧
            (NoPlanCollision rt world.store consumption.result issuance.plan.body →
              ∀ authority runId, ∃ e, startRun rt world.store consumption.result authority runId = .error e) := by
  have hreplays : Sound rt world ∧ Confirmed rt world ∧ Replays rt world := by
    refine reachable_invariant (I := fun world => Confirmed rt world ∧ Replays rt world) ?_ ?_ h
    · exact ⟨confirmed_empty, fun _ hmem => absurd hmem List.not_mem_nil, fun _ hmem => absurd hmem List.not_mem_nil⟩
    · rintro world world' action hsound ⟨hconfirmed, hdone⟩ - hevent
      exact ⟨hconfirmed.event hsound hevent, hdone.event hsound hconfirmed hevent⟩
  obtain ⟨hsound, hconfirmed, hdone⟩ := hreplays
  -- the execution's id names one consumption
  have hkeyed : (world.consumptions.map fun consumption => consumption.result.executionId).Nodup := by
    have hcolumn := congrArg (List.map Prod.fst) hconfirmed.executions
    rw [List.map_map, List.map_map] at hcolumn
    change world.store.executions.map Execution.id = world.consumptions.map _ at hcolumn
    have hexecutions := hsound.keys.executions
    rw [Keyed, hcolumn] at hexecutions
    exact hexecutions
  refine ⟨hsound.keys.runExecutions, fun run hrun => ?_⟩
  obtain ⟨made, hmade, issuance, hissuance, hrunDone⟩ := hdone.done run hrun
  refine ⟨⟨made, hmade, hrunDone.execution⟩, fun consumption hmem hid => ?_⟩
  obtain rfl : consumption = made := List.inj_on_of_nodup_map hkeyed hmem hmade (hid.trans hrunDone.execution.symm)
  refine ⟨issuance, hissuance, hrunDone.challenge, fun hcollision authority runId => ?_⟩
  obtain ⟨e, herror⟩ := hrunDone.left.planForConsumed_error hcollision hrunDone.digest hsound.ledger
  cases hstart : startRun rt world.store consumption.result authority runId with
  | error e => exact ⟨e, rfl⟩
  | ok start =>
    simp only [startRun, authorityBinding, bind_ok_iff] at hstart
    obtain ⟨binding, ⟨-, -, plan, hplan, -⟩, -⟩ := hstart
    rw [herror] at hplan
    cases hplan

/-! ## A completed run -/

theorem unary_inj {n m : Nat} {rest rest' : List Char} (h : Sample.unary n ++ rest = Sample.unary m ++ rest') :
    n = m ∧ rest = rest' := by
  induction n generalizing m with
  | zero =>
    cases m with
    | zero =>
      simp only [Sample.unary, List.replicate_zero, List.nil_append, List.singleton_append] at h
      exact ⟨rfl, List.tail_eq_of_cons_eq h⟩
    | succ m =>
      have hhead := congrArg List.head? h
      simp [Sample.unary, List.replicate_succ] at hhead
  | succ n ih =>
    cases m with
    | zero =>
      have hhead := congrArg List.head? h
      simp [Sample.unary, List.replicate_succ] at hhead
    | succ m =>
      have htail : Sample.unary n ++ rest = Sample.unary m ++ rest' := by
        have := congrArg List.tail h
        simpa [Sample.unary, List.replicate_succ] using this
      obtain ⟨rfl, hrest⟩ := ih htail
      exact ⟨rfl, hrest⟩

def versionText (entry : String × Nat) : List Char :=
  Sample.unary entry.1.length ++ entry.1.toList ++ Sample.unary entry.2

theorem versionTexts_inj {entries entries' : List (String × Nat)}
    (h : entries.flatMap versionText = entries'.flatMap versionText) : entries = entries' := by
  induction entries generalizing entries' with
  | nil =>
    cases entries' with
    | nil => rfl
    | cons entry' rest' =>
      have hlength := congrArg List.length h
      simp [versionText, Sample.unary] at hlength
  | cons entry rest ih =>
    cases entries' with
    | nil =>
      have hlength := congrArg List.length h
      simp [versionText, Sample.unary] at hlength
    | cons entry' rest' =>
      obtain ⟨targetId, version⟩ := entry
      obtain ⟨targetId', version'⟩ := entry'
      simp only [List.flatMap_cons, versionText, List.append_assoc] at h
      obtain ⟨hlength, h⟩ := unary_inj h
      obtain ⟨hid, h⟩ := List.append_inj h hlength
      obtain ⟨rfl, hrest⟩ := unary_inj h
      obtain rfl : targetId = targetId' := String.toList_inj.mp hid
      rw [ih hrest]

theorem planRuntime_versions (body : PlanBody) :
    planSha256 Sample.planRuntime body = String.ofList (body.versions.flatMap versionText) := by
  change String.ofList ((body.targets.map PlanTarget.json).flatMap Sample.targetText) = _
  rw [PlanBody.versions, List.flatMap_map, List.flatMap_map]
  rfl

def completedRun : List Action :=
  Sample.started "run" (Sample.withdrawn ["a"] ++ Sample.confirmed "x") ++ Sample.deleted "attempt" ++ [.completeRun]

theorem run_local_never_replays_sample :
    (∃ run ∈ (Sample.runActions completedRun).store.runs, run.state = .completed) ∧
      ∀ run ∈ (Sample.runActions completedRun).store.runs,
        ∀ consumption ∈ (Sample.runActions completedRun).consumptions,
          consumption.result.executionId = run.executionId → ∀ authority runId, ∃ e,
            startRun Sample.planRuntime (Sample.runActions completedRun).store consumption.result authority runId =
              .error e := by
  refine ⟨by decide +kernel, fun run hrun => ?_⟩
  intro consumption hmem hid
  obtain ⟨issuance, -, -, hraises⟩ :=
    ((run_local_never_replays (Sample.runActions_reachable completedRun)).2 run hrun).2 consumption hmem hid
  refine hraises fun participant _ _ hsame => ?_
  rw [planRuntime_versions, planRuntime_versions] at hsame
  exact versionTexts_inj (String.ofList_injective hsame)

/-- The run has completed, and the call that repeats it is refused. -/
theorem run_replay_refused : ¬ ∀ run ∈ (Sample.runActions completedRun).store.runs,
    ∀ consumption ∈ (Sample.runActions completedRun).consumptions,
      consumption.result.executionId = run.executionId →
        startRun Sample.planRuntime (Sample.runActions completedRun).store consumption.result (some fun _ => true)
          "again" = .ok (.replay run.id run.state) := by
  intro hreplays
  have hrefused : ∃ run ∈ (Sample.runActions completedRun).store.runs,
      ∃ consumption ∈ (Sample.runActions completedRun).consumptions,
        consumption.result.executionId = run.executionId ∧
          (startRun Sample.planRuntime (Sample.runActions completedRun).store consumption.result (some fun _ => true)
            "again").isOk = false := by decide +kernel
  obtain ⟨run, hrun, consumption, hconsumption, hid, herror⟩ := hrefused
  rw [hreplays run hrun consumption hconsumption hid] at herror
  cases herror

end PduExamObserver.M1R1
