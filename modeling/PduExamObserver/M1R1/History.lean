import PduExamObserver.M1R1.RunSteps

/-! # The history of the reconciliation

Over whole runs, with restarts and recoveries in them, the tables only grow. -/

namespace PduExamObserver.M1R1
open M1 Table Transition
set_option autoImplicit false

variable {rt : Runtime} {world world' : World} {store store' : Store}

/-- Every row is still there, as something that `later` admits. -/
def Onward {ρ : Type} (later : ρ → ρ → Prop) (rows rows' : List ρ) : Prop := ∀ r ∈ rows, ∃ r' ∈ rows', later r r'

theorem Onward.trans {ρ : Type} {later : ρ → ρ → Prop} [IsPreorder ρ later] {first second third : List ρ}
    (h : Onward later first second) (h' : Onward later second third) : Onward later first third := by
  intro r hr
  obtain ⟨s, hs, hrs⟩ := h r hr
  obtain ⟨t, ht, hst⟩ := h' s hs
  exact ⟨t, ht, IsTrans.trans _ _ _ hrs hst⟩

/-- Withdrawals are for good, what is recorded stays as it is, and what goes on ends once: a challenge by leaving
`issued`, a run and an attempt by leaving their open states, a target by a verified or attested deletion. -/
structure History (before after : Store) : Prop where
  withdrawn : ∀ id, Withdrawn before.ledger id → Withdrawn after.ledger id
  withdrawals : before.ledger.withdrawalReceipts <+: after.ledger.withdrawalReceipts
  holds : after.holds = before.holds
  manifests : Onward Eq before.manifests after.manifests
  targets : Onward Eq before.targets after.targets
  procedures : Onward Eq before.procedures after.procedures
  executions : Onward Eq before.executions after.executions
  attestations : Onward Eq before.attestations after.attestations
  receipts : Onward Eq before.receipts after.receipts
  taskTargets : Onward TaskTarget.Later before.taskTargets after.taskTargets
  challenges : Onward Challenge.Later before.challenges after.challenges
  runs : Onward Run.Later before.runs after.runs
  attempts : Onward Attempt.Later before.attempts after.attempts

theorem StoreGrowth.history (h : StoreGrowth rt store store') : History store store' where
  withdrawn := h.ledger.withdrawn
  withdrawals := h.ledger.receipts
  holds := h.holds
  manifests _ := h.manifests.forward
  targets _ := h.targets.forward
  procedures _ := h.procedures.forward
  executions _ := h.executions.forward
  attestations _ := h.attestations.forward
  receipts _ := h.receipts.forward
  taskTargets _ := h.taskTargets.forward
  challenges _ := h.challenges.forward
  runs _ := h.runs.forward
  attempts _ := h.attempts.forward

theorem History.trans {first second third : Store} (h : History first second) (h' : History second third) :
    History first third where
  withdrawn id := h'.withdrawn id ∘ h.withdrawn id
  withdrawals := h.withdrawals.trans h'.withdrawals
  holds := h'.holds.trans h.holds
  manifests := h.manifests.trans h'.manifests
  targets := h.targets.trans h'.targets
  procedures := h.procedures.trans h'.procedures
  executions := h.executions.trans h'.executions
  attestations := h.attestations.trans h'.attestations
  receipts := h.receipts.trans h'.receipts
  taskTargets := h.taskTargets.trans h'.taskTargets
  challenges := h.challenges.trans h'.challenges
  runs := h.runs.trans h'.runs
  attempts := h.attempts.trans h'.attempts

theorem reachable_sound (h : Reachable (system rt) world) : Sound rt world :=
  (reachable_invariant (I := fun _ => True) trivial (fun _ _ _ _ => trivial) h).1

/-- From any moment on, over every run: no row of the reconciliation goes away or is rewritten beyond what `History`
admits, and every key has one row. -/
theorem history_kept (hreach : Reachable (system rt) world) (hlater : Later (system rt) world world') :
    History world.store world'.store ∧ Keys world'.store := by
  induction hlater with
  | refl =>
    have hsound := reachable_sound hreach
    exact ⟨(StoreGrowth.refl hsound.ledger).history, hsound.keys⟩
  | tail hbegins hnext ih =>
    obtain ⟨action, rfl⟩ := hnext
    have hsound := reachable_sound (Later.reachable hbegins hreach)
    have hevent := step_event hsound.ledger hsound.keys.challenges action
    exact ⟨ih.1.trans (hevent.growth hsound).history, (hevent.sound hsound).keys⟩

theorem history_kept_sample :
    (Sample.runActions (Sample.withdrawn ["a"] ++ Sample.confirmed "x")).store.challenges.length = 1 ∧
      Onward Challenge.Later (Sample.runActions (Sample.withdrawn ["a"] ++ Sample.confirmed "x")).store.challenges
        ((Sample.runActions (Sample.withdrawn ["a"] ++ Sample.confirmed "x")).step Sample.planRuntime
          .restart).store.challenges :=
  ⟨by decide +kernel, (history_kept (Sample.runActions_reachable _) (.single ⟨.restart, rfl⟩)).1.challenges⟩

end PduExamObserver.M1R1
