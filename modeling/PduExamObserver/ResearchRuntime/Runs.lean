import PduExamObserver.ResearchRuntime.Service

/-! # How the operations run

What each building block of the service leaves behind, and what links the memory of a session to its events: the
event that a logical event stands for is an observable one, or has been taken back. -/

namespace PduExamObserver.ResearchRuntime
open Stateful
set_option autoImplicit false

variable {α : Type} {c after : Collection} {states : List SessionState}

/-! ## Building blocks -/

@[simp] theorem updateMemory_run (changes : Memory → Memory) (c : Collection) :
    (updateMemory changes).run c = .ok () { c with memory := changes c.memory } := rfl

@[simp] theorem sessionRow_run (c : Collection) : sessionRow.run c = .ok c.session c := rfl

@[simp] theorem uuid_run (c : Collection) : uuid.run c = .ok c.fresh { c with fresh := c.fresh + 1 } := rfl

theorem liftExcept_run (result : Except RuntimeError α) (c : Collection) :
    (liftExcept result).run c = match result with
      | .ok a => .ok a c
      | .error e => .error e c := by
  cases result <;> rfl

@[simp] theorem liftExcept_ok_run (a : α) (c : Collection) : (liftExcept (.ok a)).run c = .ok a c := rfl

@[simp] theorem liftExcept_error_run (e : RuntimeError) (c : Collection) :
    (liftExcept (.error e : Except RuntimeError α)).run c = .error e c := rfl

def Collection.logged (c : Collection) (body : EventBody) : Collection :=
  { c with
    session := { c.session with events := c.session.events ++ [⟨c.fresh, c.session.nextSeq, body⟩] }
    fresh := c.fresh + 1 }

@[simp] theorem appendEvent_run (body : EventBody) (c : Collection) :
    (appendEvent body).run c = .ok c.fresh (c.logged body) := rfl

theorem requireState_run (states : List SessionState) (c : Collection) :
    (requireState states).run c =
      if c.session.state ∈ states then .ok c.session c
      else .error (.invalidTransition ("session state " ++ c.session.state.value ++ " cannot perform this operation")) c := by
  unfold requireState
  rw [EStateM.run_bind, sessionRow_run]
  dsimp only
  split <;> rfl

theorem requireState_mem (h : c.session.state ∈ states) : (requireState states).run c = .ok c.session c := by
  rw [requireState_run, if_pos h]

theorem locked_run (body : Op α) (c : Collection) :
    (locked body).run c = match body.run c with
      | .ok a after => .ok a after
      | .error e after => .error e (c.rollback after) := by
  rw [locked, run_transaction]
  cases body.run c <;> rfl

theorem requireState_eq_ok {row : Session} (h : (requireState states).run c = .ok row after) :
    c.session.state ∈ states ∧ row = c.session ∧ after = c := by
  rw [requireState_run] at h
  split at h
  · next hmem =>
    cases h
    exact ⟨hmem, rfl, rfl⟩
  · cases h

theorem liftExcept_eq_ok {result : Except RuntimeError α} {a : α} (h : (liftExcept result).run c = .ok a after) :
    result = .ok a ∧ after = c := by
  cases result with
  | ok b =>
    cases h
    exact ⟨rfl, rfl⟩
  | error e => cases h

theorem locked_eq_ok {body : Op α} {a : α} (h : (locked body).run c = .ok a after) : body.run c = .ok a after := by
  rw [locked_run] at h
  cases hrun : body.run c with
  | ok b middle =>
    rw [hrun] at h
    exact h
  | error e middle =>
    rw [hrun] at h
    cases h

theorem locked_eq_error {body : Op α} {e : RuntimeError} (h : (locked body).run c = .error e after) :
    after.session = c.session := by
  rw [locked_run] at h
  cases hrun : body.run c with
  | ok b middle =>
    rw [hrun] at h
    cases h
  | error e middle =>
    rw [hrun] at h
    cases h
    rfl

def Collection.closed (c : Collection) : Collection := { c with memory := { c.memory with stream := none } }

theorem closeStream_run (raises : Bool) (c : Collection) :
    (closeStream raises).run c =
      if raises ∧ c.memory.stream.isSome then .error .osError c.closed else .ok () c.closed := by
  unfold closeStream
  rw [EStateM.run_bind, EStateM.run_get]
  cases hstream : c.memory.stream with
  | none =>
    have hclosed : c.closed = c := by
      unfold Collection.closed
      rw [← hstream]
    simp [hstream, hclosed]
  | some stream => cases raises <;> simp [hstream, Collection.closed]

def Collection.failed (c : Collection) (failureCode : String) : Collection :=
  ({ c.closed with session := { c.session with
      state := .failed
      failureCode := some failureCode
      qualityState := .technicalInsufficient } } : Collection).logged (.technicalFailure failureCode)

theorem failLocked_run (raises : Bool) (failureCode : String) (c : Collection) :
    (failLocked raises failureCode).run c =
      if raises ∧ c.memory.stream.isSome then .error .osError c.closed else .ok () (c.failed failureCode) := by
  unfold failLocked
  rw [EStateM.run_bind, closeStream_run]
  by_cases hraises : raises = true ∧ c.memory.stream.isSome = true
  · rw [if_pos hraises, if_pos hraises]
  · rw [if_neg hraises, if_neg hraises]
    rfl

/-! ## Events -/

/-- The observation of a `POSE_OBSERVATION` event. -/
def Event.poseObservation? : Event → Option Observation
  | ⟨_, _, .poseObservation observation⟩ => some observation
  | _ => none

/-- The receipt of a `WITHDRAWAL_RECORDED` event. -/
def Event.withdrawal? : Event → Option WithdrawalReceipt
  | ⟨_, _, .withdrawalRecorded receipt⟩ => some receipt
  | _ => none

def Session.poseObservations (row : Session) : List Observation := row.events.filterMap Event.poseObservation?

def Session.withdrawals (row : Session) : List WithdrawalReceipt := row.events.filterMap Event.withdrawal?

def EventBody.refers : EventBody → Option Nat
  | .eventBoundaryUpdate eventId .. => some eventId
  | .reviewDecision eventId .. => some eventId
  | _ => none

structure EventLog (events : List Event) : Prop where
  numbered : events.map Event.eventSeq = List.range' 1 events.length
  ordered : events.Pairwise fun a b => a.eventId < b.eventId
  refers : ∀ e ∈ events, ∀ eventId, e.body.refers = some eventId → eventId < e.eventId

theorem foldl_max_range' (n start : Nat) : (List.range' start n).foldl max 0 = if n = 0 then 0 else start + n - 1 := by
  have hbound : ∀ (m : Nat), (List.range' start n).foldl max m = if n = 0 then m else max m (start + n - 1) := by
    induction n generalizing start with
    | zero => exact fun _ => rfl
    | succ n ih =>
      intro m
      rw [List.range'_succ, List.foldl_cons, ih]
      split
      · next hzero =>
        subst hzero
        simp
      · next hne => simp only [Nat.succ_ne_zero, if_false]; omega
  rw [hbound]
  split
  · rfl
  · omega

theorem EventLog.nextSeq {row : Session} (h : EventLog row.events) : row.nextSeq = row.events.length + 1 := by
  rw [Session.nextSeq, h.numbered, foldl_max_range']
  split
  · next hzero => rw [hzero]
  · omega

theorem EventLog.concat {row : Session} {fresh : Nat} {body : EventBody} (h : EventLog row.events)
    (hfresh : ∀ e ∈ row.events, e.eventId < fresh) (hrefers : ∀ eventId, body.refers = some eventId → eventId < fresh) :
    EventLog (row.events ++ [⟨fresh, row.nextSeq, body⟩]) where
  numbered := by
    rw [List.map_append, h.numbered, h.nextSeq, List.length_append, List.length_singleton, List.range'_concat]
    simp [Nat.add_comm]
  ordered := by
    refine List.pairwise_append.mpr ⟨h.ordered, List.pairwise_singleton _ _, fun a ha b hb => ?_⟩
    rw [List.mem_singleton.mp hb]
    exact hfresh a ha
  refers e he eventId heq := by
    rcases List.mem_append.mp he with hold | hnew
    · exact h.refers e hold eventId heq
    · rw [List.mem_singleton.mp hnew] at heq ⊢
      exact hrefers eventId heq

structure Collection.Linked (c : Collection) : Prop where
  event : ∀ e ∈ c.session.events, e.eventId < c.fresh
  logical : ∀ entry ∈ c.memory.logicalEvents, entry.2 < c.fresh
  observable : ∀ entry ∈ c.memory.logicalEvents, ∀ e ∈ c.session.events, e.eventId = entry.2 →
    e.body.isObservable = true
  log : EventLog c.session.events

structure Collection.Tracks (c after : Collection) : Prop where
  fresh : c.fresh ≤ after.fresh
  logical : ∀ entry ∈ after.memory.logicalEvents, entry ∈ c.memory.logicalEvents ∨ c.fresh ≤ entry.2
  linked : c.Linked → after.Linked

namespace Collection.Tracks

theorem refl (c : Collection) : c.Tracks c := ⟨Nat.le_refl _, fun _ h => .inl h, id⟩

theorem trans {a b c : Collection} (hab : a.Tracks b) (hbc : b.Tracks c) : a.Tracks c := by
  refine ⟨hab.fresh.trans hbc.fresh, fun entry hentry => ?_, hbc.linked ∘ hab.linked⟩
  rcases hbc.logical entry hentry with hb | hnew
  · exact hab.logical entry hb
  · exact .inr (hab.fresh.trans hnew)

theorem of_eq (hfresh : after.fresh = c.fresh) (hevents : after.session.events = c.session.events)
    (hlogical : after.memory.logicalEvents = c.memory.logicalEvents) : c.Tracks after := by
  refine ⟨hfresh.ge, fun entry h => .inl (hlogical ▸ h), fun h => ⟨?_, ?_, ?_, ?_⟩⟩
  · rw [hevents, hfresh]
    exact h.event
  · rw [hlogical, hfresh]
    exact h.logical
  · rw [hlogical, hevents]
    exact h.observable
  · rw [hevents]
    exact h.log

theorem logged (c : Collection) (body : EventBody)
    (hrefers : c.Linked → ∀ eventId, body.refers = some eventId → eventId < c.fresh) : c.Tracks (c.logged body) := by
  refine ⟨Nat.le_succ _, fun entry h => .inl h, fun h => ⟨?_, ?_, ?_, h.log.concat h.event (hrefers h)⟩⟩
  · intro e he
    rcases List.mem_append.mp he with he | he
    · exact (h.event e he).trans (Nat.lt_succ_self _)
    · rw [List.mem_singleton.mp he]
      exact Nat.lt_succ_self _
  · intro entry hentry
    exact (h.logical entry hentry).trans (Nat.lt_succ_self _)
  · intro entry hentry e he hid
    rcases List.mem_append.mp he with he | he
    · exact h.observable entry hentry e he hid
    · rw [List.mem_singleton.mp he] at hid
      exact absurd (h.logical entry hentry) (hid ▸ Nat.lt_irrefl _)

theorem rollback (h : c.Tracks after) : c.Tracks (c.rollback after) := by
  refine ⟨h.fresh, h.logical, fun hc => ⟨?_, (h.linked hc).logical, ?_, hc.log⟩⟩
  · intro e he
    exact (hc.event e he).trans_le h.fresh
  · intro entry hentry e he hid
    rcases h.logical entry hentry with hold | hnew
    · exact hc.observable entry hold e he hid
    · exact absurd (hc.event e he) (by omega)

end Collection.Tracks

end PduExamObserver.ResearchRuntime

namespace PduExamObserver.Stateful.Keeps
open ResearchRuntime

variable {α : Type} {R : Collection → Collection → Prop} [IsPreorder Collection R]

theorem sessionRow : Keeps R sessionRow := fun c => Std.Refl.refl c

theorem requireState (states : List SessionState) : Keeps R (requireState states) := by
  intro c
  rw [requireState_run]
  split <;> exact Std.Refl.refl c

theorem liftExcept (result : Except RuntimeError α) : Keeps R (liftExcept result) := by
  intro c
  cases result <;> exact Std.Refl.refl c

end PduExamObserver.Stateful.Keeps
