import PduExamObserver.ResearchRuntime.Completion

/-! # A session is withdrawn once

The second section of `withdraw` does not look at the state again. As long as it never finds a session that has been
withdrawn in between, a withdrawn session stays so, with one receipt over all of its files. -/

namespace PduExamObserver.ResearchRuntime
open Stateful Transition
set_option autoImplicit false

variable {setup : Setup} {w : World} {a : Action} {index : Nat} {c after : Collection} {receipt : WithdrawalReceipt}

def Lists (setup : Setup) (c : Collection) (receipt : WithdrawalReceipt) : Prop :=
  receipt.artifacts.Perm (c.files.map (itemOf setup))

def FindsOpen (w : World) : Action → Prop
  | .act index (.finishWithdraw _ _) => ∀ c ∈ w.collections[index]?, c.session.state ≠ .withdrawn
  | _ => True

instance (w : World) (a : Action) : Decidable (FindsOpen w a) := by
  unfold FindsOpen
  split <;> infer_instance

theorem inventory_lists {inventory : List InventoryItem}
    (h : withdrawalInventory setup c.session c.directory = .ok inventory) :
    inventory.Perm (c.files.map (itemOf setup)) := by
  unfold Collection.files
  cases hdirectory : c.directory with
  | none =>
    rw [hdirectory] at h
    cases h
    exact .refl _
  | some files =>
    rw [hdirectory, withdrawalInventory_ok_iff] at h
    obtain ⟨-, -, rfl⟩ := h
    exact (List.perm_insertionSort _ files).map _

/-! ## Steps -/

inductive Withdraws (setup : Setup) (a : Action) (index : Nat) (c after : Collection) : Prop
  | quiet (receipts : after.session.withdrawals = c.session.withdrawals)
      (stays : c.session.state = .withdrawn → after.session.state = .withdrawn)
  | records (call : WithdrawCall) (env : RemovalEnv) (receipt : WithdrawalReceipt)
      (acts : a = .act index (.finishWithdraw call env))
      (receipts : after.session.withdrawals = c.session.withdrawals ++ [receipt])
      (state : after.session.state = .withdrawn) (lists : Lists setup c receipt)

theorem withdrawals_logged (c : Collection) {body : EventBody}
    (hbody : Event.withdrawal? ⟨c.fresh, c.session.nextSeq, body⟩ = none) :
    (c.logged body).session.withdrawals = c.session.withdrawals := by
  simp [Session.withdrawals, Collection.logged, List.filterMap_append, hbody]

theorem finishWithdraw_withdraws (setup : Setup) (call : WithdrawCall) (env : RemovalEnv) (c : Collection)
    (hopen : c.session.state ≠ .withdrawn) :
    Withdraws setup (.act index (.finishWithdraw call env)) index c
      (final ((finishWithdraw setup call env).run c)) := by
  rcases finishWithdraw_cases setup call env c with
    ⟨failureCode, hrun, -⟩ | hrun | ⟨removed, -, hrun, -⟩ | ⟨inventory, removed, hinventory, hremoves, hrun⟩
  · rw [hrun]
    exact .quiet (withdrawals_logged _ rfl) fun h => absurd h hopen
  · rw [hrun]
    exact .quiet rfl id
  · rw [hrun]
    exact .quiet rfl id
  · rw [hrun]
    have hkept : removed.session.withdrawals = c.session.withdrawals := congrArg Session.withdrawals hremoves.session
    refine .records call env ⟨call.authorityReference, call.withdrawalAuthoritySha256, call.decision,
      removed.session.exports.length, inventory⟩ rfl ?_ rfl (inventory_lists hinventory)
    rw [← hkept]
    simp [Collection.withdrawn, Collection.logged, List.filterMap_append, Event.withdrawal?, Session.withdrawals]

theorem withdrawTestArtifacts_withdraws (setup : Setup) (fault : Option Fault) (c : Collection) :
    Withdraws setup a index c (final ((withdrawTestArtifacts setup fault).run c)) := by
  rcases withdrawTestArtifacts_cases setup fault c with ⟨e, removed, hrun, hremoves, -⟩ | ⟨removed, hrun, hremoves, -⟩
  · rw [hrun]
    refine .quiet (congrArg Session.withdrawals hremoves.session) fun h => ?_
    exact (congrArg Session.state hremoves.session).trans h
  · rw [hrun]
    have hkept : removed.session.withdrawals = c.session.withdrawals := congrArg Session.withdrawals hremoves.session
    exact .quiet ((withdrawals_logged _ rfl).trans hkept) fun _ => rfl

theorem recover_withdraws (fault : Option Fault) (c : Collection) :
    Withdraws setup a index c (recover fault c.restarted) := by
  rcases recover_cases fault c with hrun | ⟨hstate, moved, hmoved, hrun | hrun⟩
  · rw [hrun]
    exact .quiet rfl id
  · rw [hrun]
    refine .quiet (congrArg Session.withdrawals hmoved.session) fun h => ?_
    exact (congrArg Session.state hmoved.session).trans h
  · rw [hrun]
    have hkept : moved.session.withdrawals = c.session.withdrawals := congrArg Session.withdrawals hmoved.session
    refine .quiet ((withdrawals_logged _ rfl).trans hkept) fun h => ?_
    rw [h] at hstate
    cases hstate

theorem steps_withdraws (hsteps : StepsTo setup w a index c after) (hsound : c.Sound) (hguard : FindsOpen w a)
    (hfound : w.collections[index]? = some c) : Withdraws setup a index c after := by
  have hreturn := fun x : Op Unit => final_returnNone x c
  have hnotes : ∀ {after : Collection}, c.Notes after → Withdraws setup a index c after :=
    fun h => .quiet h.withdrawals fun hstate => h.state.trans hstate
  cases hsteps with
  | stays => exact .quiet rfl id
  | restarts fault ha => exact recover_withdraws fault c
  | performs part ha hrunning hcalls =>
    subst ha
    cases hcollects : part.collects with
    | true =>
      refine .quiet ((collects_perform w.active hcollects c).withdrawals hsound.linked) fun hstate => ?_
      rw [collects_over w.active hcollects (by rw [hstate]; rfl)]
      exact hstate
    | false =>
      cases part with
      | review request => exact hnotes ((TakesNotes.bind (.review setup request) fun _ => .return _) c)
      | lock => exact hnotes ((TakesNotes.bind .lock fun _ => .return _) c)
      | finishExport => exact hnotes ((TakesNotes.bind .finishExport fun _ => .return _) c)
      | finishWithdraw call env =>
        rw [perform, hreturn]
        exact finishWithdraw_withdraws setup call env c (hguard c (Option.mem_def.mpr hfound))
      | withdrawTestArtifacts fault =>
        rw [perform, hreturn]
        exact withdrawTestArtifacts_withdraws setup fault c
      | _ => cases hcollects

/-! ## Runs -/

structure Session.Once (row : Session) : Prop where
  one : row.withdrawals.length ≤ 1
  none : row.state ≠ .withdrawn → row.withdrawals = []

theorem reachable_once (h : ReachableBy (service setup) FindsOpen w) : ∀ c ∈ w.collections, c.session.Once := by
  refine collections_invariant (fun _ _ _ => ⟨Nat.zero_le _, fun _ => rfl⟩) ?_ h
  intro w a index c after hreach hguard hfound honce hsteps
  have hsound := reachable_sound hreach.reachable c (List.mem_of_getElem? hfound)
  cases steps_withdraws hsteps hsound hguard hfound with
  | quiet hreceipts hstays =>
    refine ⟨hreceipts ▸ honce.one, fun hstate => ?_⟩
    rw [hreceipts]
    exact honce.none fun h => hstate (hstays h)
  | records call env receipt ha hreceipts hstate hlists =>
    subst ha
    refine ⟨?_, fun h => absurd hstate h⟩
    rw [hreceipts, honce.none (hguard c (Option.mem_def.mpr hfound))]
    exact Nat.le_refl 1

theorem later_withdrawn (hreach : ReachableBy (service setup) FindsOpen w) {w' : World}
    (hlater : LaterBy (service setup) FindsOpen w w') (hfound : w.collections[index]? = some c)
    (hstate : c.session.state = .withdrawn) :
    ∃ after, w'.collections[index]? = some after ∧ after.session.state = .withdrawn ∧
      after.session.withdrawals = c.session.withdrawals := by
  induction hlater with
  | refl => exact ⟨c, hfound, hstate, rfl⟩
  | tail hbegins hnext ih =>
    obtain ⟨middle, hmiddle, hmiddleState, hmiddleReceipts⟩ := ih
    obtain ⟨a, hguard, rfl⟩ := hnext
    obtain ⟨after, hafter, hsteps⟩ := step_follows setup a hmiddle
    have hsound := reachable_sound (LaterBy.reachableBy hbegins hreach).reachable middle (List.mem_of_getElem? hmiddle)
    cases steps_withdraws hsteps hsound hguard hmiddle with
    | quiet hreceipts hstays => exact ⟨after, hafter, hstays hmiddleState, hreceipts.trans hmiddleReceipts⟩
    | records call env receipt ha hreceipts hafterState hlists =>
      subst ha
      exact absurd hmiddleState (hguard middle (Option.mem_def.mpr hmiddle))

/-- A receipt was recorded by a withdrawal that went on in some earlier state, and lists the files of the session in
that state. -/
def Recorded (setup : Setup) (w : World) (index : Nat) (receipt : WithdrawalReceipt) : Prop :=
  ∃ before begun call env, ReachableBy (service setup) FindsOpen before ∧ before.collections[index]? = some begun ∧
    LaterBy (service setup) FindsOpen (before.step setup (.act index (.finishWithdraw call env))) w ∧
    Lists setup begun receipt

theorem reachable_recorded (h : ReachableBy (service setup) FindsOpen w) : ∀ index c, w.collections[index]? = some c →
    ∀ receipt ∈ c.session.withdrawals, Recorded setup w index receipt := by
  induction h with
  | init hinit =>
    rw [show _ = _ from hinit]
    intro index c hfound
    cases hfound
  | @step w w' a hreach hguard hnext ih =>
    rw [← show _ = _ from hnext]
    intro index after hafter receipt hreceipt
    rcases step_collections hafter with ⟨c, hfound, hsteps⟩ | ⟨sessionId, sourceKind, pseudonym, rfl⟩
    · have hsound := reachable_sound hreach.reachable c (List.mem_of_getElem? hfound)
      have hold : receipt ∈ c.session.withdrawals → Recorded setup (w.step setup a) index receipt := by
        intro hmem
        obtain ⟨before, begun, call, env, hbefore, hbegun, hlater, hlists⟩ := ih index c hfound receipt hmem
        exact ⟨before, begun, call, env, hbefore, hbegun, hlater.tail ⟨a, hguard, rfl⟩, hlists⟩
      cases steps_withdraws hsteps hsound hguard hfound with
      | quiet hreceipts hstays => exact hold (hreceipts ▸ hreceipt)
      | records call env added ha hreceipts hstate hlists =>
        rw [hreceipts] at hreceipt
        rcases List.mem_append.mp hreceipt with hmem | hnew
        · exact hold hmem
        · subst ha
          rw [List.mem_singleton.mp hnew]
          exact ⟨w, c, call, env, hreach, hfound, .refl, hlists⟩
    · cases hreceipt

/-- In every run in which no withdrawal goes on at a session that has been withdrawn: a session has at most one
receipt, a withdrawn session stays so with its receipt, and a receipt lists every file that the session had when the
withdrawal went on. -/
theorem withdrawn_once (setup : Setup) : ∀ w, ReachableBy (service setup) FindsOpen w →
    (∀ c ∈ w.collections, c.session.withdrawals.length ≤ 1) ∧
    (∀ (index : Nat) (c : Collection), w.collections[index]? = some c → c.session.state = .withdrawn →
      ∀ w', LaterBy (service setup) FindsOpen w w' →
        ∃ after : Collection, w'.collections[index]? = some after ∧ after.session.state = .withdrawn ∧
          after.session.withdrawals = c.session.withdrawals) ∧
    ∀ (index : Nat) (c : Collection), w.collections[index]? = some c →
      ∀ receipt ∈ c.session.withdrawals, Recorded setup w index receipt := by
  intro w h
  refine ⟨fun c hmem => (reachable_once h c hmem).one, ?_, reachable_recorded h⟩
  intro index c hfound hstate w' hlater
  exact later_withdrawn h hlater hfound hstate

namespace Sample

def withdrawing (joined : Bool) : Action :=
  .act 0 (.finishWithdraw ⟨"A", digest, .deleteOwnedRuntimeArtifacts, joined⟩ {})

/-- Two calls of `withdraw` on the sealed session. -/
def twice : List Action :=
  sealed ++ [.act 0 (.beginWithdraw "A" answer), .act 0 (.beginWithdraw "A" answer), withdrawing false, withdrawing false]

/-- A call of `withdraw` before the collection starts, and one after. -/
def across : List Action :=
  recording.take 3 ++ [.act 0 (.beginWithdraw "A" answer), .act 0 (.startRealCollection "A" answer),
    .act 0 (.beginWithdraw "A" answer), withdrawing false]

end Sample

/-- Two calls on the sealed sample session: both record a receipt, the second one of no file. And a call that goes on
after a worker has been started withdraws the session; the one that waits for that worker fails it again. -/
theorem withdrawn_twice :
    (∃ c ∈ (Sample.run Sample.twice).collections,
      c.session.withdrawals.map (fun receipt => receipt.artifacts.map InventoryItem.name) =
        [[poseDestination, videoDestination], []]) ∧
    (∃ c ∈ (Sample.run Sample.across).collections, c.session.state = .withdrawn) ∧
    ∃ c ∈ (Sample.run (Sample.across ++ [Sample.withdrawing true])).collections, c.session.state = .failed := by
  decide +kernel

/-- One withdrawal of the sealed sample session. -/
theorem withdrawn_once_sample : ∃ c ∈ (Sample.run (Sample.twice.dropLast)).collections,
    c.session.state = .withdrawn ∧ c.session.withdrawals.length ≤ 1 ∧ c.session.withdrawals ≠ [] := by
  have hguarded : Guarded (World.step Sample.setup) FindsOpen {} Sample.twice.dropLast := by decide +kernel
  have hsample : ∃ c ∈ (Sample.run (Sample.twice.dropLast)).collections,
      c.session.state = .withdrawn ∧ c.session.withdrawals ≠ [] := by
    decide +kernel
  obtain ⟨c, hmem, hstate, hreceipt⟩ := hsample
  exact ⟨c, hmem, hstate,
    (withdrawn_once Sample.setup _ (reachableBy_foldl _ (.init rfl) hguarded)).1 c hmem, hreceipt⟩

end PduExamObserver.ResearchRuntime
