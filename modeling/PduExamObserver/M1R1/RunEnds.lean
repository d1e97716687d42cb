import PduExamObserver.M1R1.RunSteps

/-! # How a call of `run_local` leaves its run

All targets are moved to `IN_PROGRESS` when the run starts; a call that ends early takes back none of those it has not
reached. -/

namespace PduExamObserver.M1R1
open M1 Table Transition
set_option autoImplicit false

variable {rt : Runtime} {world : World} {store : Store} {action : Action} {progress : Progress} {run : Run}
  {current : CurrentTarget}

/-- The run has ended, none of its targets is in progress, and a later run can process those that it has not reached. -/
structure ClosedRun (store : Store) (progress : Progress) : Prop where
  ended : ∀ run ∈ store.runs, run.id = progress.runId → ¬ run.Going
  targets : ∀ row ∈ store.taskTargets, row.targetId ∈ progress.targetIds → row.state ≠ .inProgress
  unreached : ∀ row ∈ store.taskTargets, row.targetId ∈ progress.remaining → row.Open

theorem ActiveRun.not_closed (h : ActiveRun store progress run) : ¬ ClosedRun store progress :=
  fun hclosed => hclosed.ended run h.mem h.id (.inr h.running)

theorem ActiveRun.done_state (h : ActiveRun store progress run) (hkeys : Keys store) {row : TaskTarget}
    (hmem : row ∈ store.taskTargets) (htarget : row.targetId ∈ progress.targetIds) (hdone : row.targetId ∉ progress.pending) :
    row.state ≠ .inProgress := by
  obtain ⟨other, hother, hstate⟩ := h.done row.targetId htarget hdone
  rw [hkeys.taskTargets.eq hmem hother.mem hother.target.symm, hstate]
  exact nofun

theorem completeRun_closed (h : ActiveRun store progress run) (hkeys : Keys store) (hcurrent : progress.current = none)
    (hremaining : progress.remaining = []) : ClosedRun (completeRun store progress.runId) progress := by
  refine ⟨fun other hother hid => ?_, fun row hrow htarget => ?_, fun row _ hmem => ?_⟩
  · obtain ⟨old, -, rfl⟩ := mem_update.mp hother
    split at hid
    · next hsame =>
      rw [if_pos hsame]
      rintro (hgoing | hgoing) <;> cases hgoing
    · next hne => exact absurd hid hne
  · refine h.done_state hkeys hrow htarget ?_
    rw [Progress.pending, hcurrent, hremaining]
    exact List.not_mem_nil
  · rw [hremaining] at hmem
    cases hmem

theorem recordBlocked_closed {code : String} {dispositionMayHaveOccurred : Bool} (h : ActiveRun store progress run)
    (hkeys : Keys store) (hcurrent : progress.current = some current) (hremaining : progress.remaining = []) :
    ClosedRun (recordBlocked store progress.runId current.targetId current.attemptId code dispositionMayHaveOccurred)
      progress := by
  have hpending : progress.pending = [current.targetId] := by
    rw [Progress.pending, hcurrent, hremaining]
    rfl
  refine ⟨fun other hother hid => ?_, fun row hrow htarget => ?_, fun row _ hmem => ?_⟩
  · obtain ⟨old, -, rfl⟩ := mem_update.mp hother
    split at hid
    · next hsame =>
      rw [if_pos hsame]
      cases dispositionMayHaveOccurred <;> rintro (hgoing | hgoing) <;> cases hgoing
    · next hne => exact absurd hid hne
  · obtain ⟨old, hold, rfl⟩ := mem_update.mp hrow
    split at htarget
    · next hsame =>
      rw [if_pos hsame]
      cases dispositionMayHaveOccurred <;> rintro ⟨⟩
    · next hne =>
      rw [if_neg hne]
      refine h.done_state hkeys hold htarget ?_
      rw [hpending]
      exact fun hin => hne (List.mem_singleton.mp hin)
  · rw [hremaining] at hmem
    cases hmem

theorem recordBlocked_open {code : String} {dispositionMayHaveOccurred : Bool} (h : ActiveRun store progress run)
    (hcurrent : progress.current = some current) (hremaining : progress.remaining ≠ []) :
    ¬ ClosedRun (recordBlocked store progress.runId current.targetId current.attemptId code dispositionMayHaveOccurred)
      progress := by
  intro hclosed
  obtain ⟨targetId, hmem⟩ := List.exists_mem_of_ne_nil _ hremaining
  have hpending : progress.pending = current.targetId :: progress.remaining := by
    rw [Progress.pending, hcurrent]
    rfl
  have hnodup := h.nodup
  rw [hpending, List.nodup_cons] at hnodup
  have hin : targetId ∈ progress.pending := by
    rw [hpending]
    exact List.mem_cons_of_mem _ hmem
  obtain ⟨row, hrow, hstate⟩ := h.pending targetId hin
  have hkept : row ∈ (recordBlocked store progress.runId current.targetId current.attemptId code
      dispositionMayHaveOccurred).taskTargets := by
    refine mem_update_of_neg hrow.mem fun hsame => hnodup.1 ?_
    rw [← hsame, hrow.target]
    exact hmem
  exact hclosed.targets row hkept (hrow.target ▸ h.subset targetId hin) hstate

/-- A call of `run_local` closes its run exactly when it completes it, or when the primitive blocks at the last target. -/
theorem run_closed_iff (h : Reachable (system rt) world) (hactive : world.progress = some progress)
    (haction : action ≠ .restart) (hends : (world.step rt action).progress = none) :
    ClosedRun (world.step rt action).store progress ↔
      action = .completeRun ∨ (∃ code mayHaveOccurred, action = .deletionBlocked code mayHaveOccurred) ∧
        progress.remaining = [] := by
  have hsound : Sound rt world :=
    (reachable_invariant (I := fun _ => True) trivial (fun _ _ _ _ => trivial) h).1
  obtain ⟨run, hrun⟩ := hsound.active progress hactive
  have hkeys := hsound.keys
  have hevent := step_event hsound.ledger hkeys.challenges action
  revert hends
  generalize world.step rt action = world' at hevent
  intro hends
  have hidle {P : Prop} (hnone : world.progress = none) : P := by
    rw [hactive] at hnone
    cases hnone
  cases hevent with
  | store | procedure | closing => exact hidle hends
  | issue _ _ _ _ _ _ _ _ hnone => exact hidle hnone
  | consume _ _ _ _ _ _ _ hnone => exact hidle hnone
  | started _ _ _ hnone => exact hidle hnone
  | recovered hnone => exact hidle hnone
  | finalized _ _ hnone => exact hidle hnone
  | begun | verified | disposed | absent => cases hends
  | restarted => exact absurd rfl haction
  | blocked code mayHaveOccurred hactive' hcurrent =>
    obtain rfl : progress = _ := Option.some.inj (hactive.symm.trans hactive')
    constructor
    · intro hclosed
      refine .inr ⟨⟨code, mayHaveOccurred, rfl⟩, ?_⟩
      by_contra hremaining
      exact recordBlocked_open hrun hcurrent hremaining hclosed
    · rintro (hcomplete | ⟨-, hremaining⟩)
      · cases hcomplete
      · exact recordBlocked_closed hrun hkeys hcurrent hremaining
  | completed hactive' hcurrent hremaining =>
    obtain rfl : progress = _ := Option.some.inj (hactive.symm.trans hactive')
    exact ⟨fun _ => .inl rfl, fun _ => completeRun_closed hrun hkeys hcurrent hremaining⟩
  | abandoned hactive' hcause =>
    refine ⟨fun hclosed => absurd hclosed hrun.not_closed, ?_⟩
    rcases hcause with rfl | ⟨attemptId, targetId, rest, e, rfl, -⟩
    · rintro (hcomplete | ⟨⟨code, mayHaveOccurred, hblocked⟩, -⟩)
      · cases hcomplete
      · cases hblocked
    · rintro (hcomplete | ⟨⟨code, mayHaveOccurred, hblocked⟩, -⟩)
      · cases hcomplete
      · cases hblocked

def lastTargetRun : List Action :=
  Sample.started "run" (Sample.withdrawn ["a", "b"] ++ Sample.confirmed "x") ++ Sample.deleted "attempt" ++
    [.beginTarget "second"]

/-- The first of two targets is deleted, and the primitive blocks at the last one. -/
theorem run_closed_sample : ClosedRun (World.step Sample.planRuntime (Sample.runActions lastTargetRun)
      (.deletionBlocked "TARGET_READ_FAILED" false)).store
    { runId := "run", targetIds := ["target-a:a", "target-b:b"], remaining := []
      current := some { targetId := "target-b:b", attemptId := "second", phase := .pending } } := by
  have hactive : (Sample.runActions lastTargetRun).progress =
      some { runId := "run", targetIds := ["target-a:a", "target-b:b"], remaining := []
             current := some { targetId := "target-b:b", attemptId := "second", phase := .pending } } := by
    decide +kernel
  have hends : (World.step Sample.planRuntime (Sample.runActions lastTargetRun)
      (.deletionBlocked "TARGET_READ_FAILED" false)).progress = none := by
    decide +kernel
  have hother : Action.deletionBlocked "TARGET_READ_FAILED" false ≠ .restart := nofun
  exact (run_closed_iff (Sample.runActions_reachable lastTargetRun) hactive hother hends).mpr
    (.inr ⟨⟨_, _, rfl⟩, rfl⟩)

def twoTargetsRun : List Action :=
  Sample.started "run" (Sample.withdrawn ["a", "b"] ++ Sample.confirmed "x") ++ [.beginTarget "attempt"]

/-- The primitive blocks at the first of two targets, and the second one stays in progress. -/
theorem blocked_run_not_closed :
    (Sample.runActions twoTargetsRun).progress = some
        { runId := "run", targetIds := ["target-a:a", "target-b:b"], remaining := ["target-b:b"]
          current := some { targetId := "target-a:a", attemptId := "attempt", phase := .pending } } ∧
      ¬ ClosedRun (World.step Sample.planRuntime (Sample.runActions twoTargetsRun)
          (.deletionBlocked "TARGET_READ_FAILED" false)).store
        { runId := "run", targetIds := ["target-a:a", "target-b:b"], remaining := ["target-b:b"]
          current := some { targetId := "target-a:a", attemptId := "attempt", phase := .pending } } := by
  refine ⟨by decide +kernel, fun hclosed => ?_⟩
  have hstuck : ∃ row ∈ (World.step Sample.planRuntime (Sample.runActions twoTargetsRun)
      (.deletionBlocked "TARGET_READ_FAILED" false)).store.taskTargets,
      row.targetId = "target-b:b" ∧ row.state = .inProgress := by decide +kernel
  obtain ⟨row, hrow, hid, hstate⟩ := hstuck
  exact hclosed.targets row hrow (by rw [hid]; decide) hstate

end PduExamObserver.M1R1
