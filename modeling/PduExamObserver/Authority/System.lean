import PduExamObserver.Authority.Lifecycle
import PduExamObserver.Library.Transition

/-! # Lifecycles over one store

Any number of instances over the same three leaves. An operation holds the authority mutex, so operations
are the steps. The history records every call with its environment, its caller and its reply. -/

namespace PduExamObserver.Authority
open Transition
set_option autoImplicit false

inductive Operation where
  | prepare
  | consume
  | issueGrant (binding : WorkerGrantBindingAttestation)
  | takeGrantCapability
  | authorizeGrant (presentedRaw : List UInt8)
  | revokeGrant
  | terminalize (binding : TerminalBindingAttestation)

inductive Reply where
  | outcome (outcome : Call PersistenceOutcome)
  | capability (raw : Option (List UInt8))

abbrev Reply.ok : Reply := .outcome (.ok .ok)

structure Done where
  lifecycle : Lifecycle
  store : Store
  reply : Reply

def Ran.done (ran : Ran PersistenceOutcome) : Done := ⟨ran.lifecycle, ran.store, .outcome ran.result⟩

@[simp] theorem Ran.done_lifecycle (ran : Ran PersistenceOutcome) : ran.done.lifecycle = ran.lifecycle := rfl

@[simp] theorem Ran.done_store (ran : Ran PersistenceOutcome) : ran.done.store = ran.store := rfl

@[simp] theorem Ran.done_reply (ran : Ran PersistenceOutcome) : ran.done.reply = .outcome ran.result := rfl

variable (hash : Sha256)

def Operation.run (env : Environment) (lifecycle : Lifecycle) (store : Store) : Operation → Done
  | .prepare => (Authority.prepare hash env lifecycle store).done
  | .consume => (Authority.consume hash env lifecycle store).done
  | .issueGrant binding => (Authority.issueGrant hash env lifecycle store binding).done
  | .takeGrantCapability =>
    ⟨(Authority.takeGrantCapability lifecycle).1, store, .capability (Authority.takeGrantCapability lifecycle).2⟩
  | .authorizeGrant presentedRaw =>
    ⟨(Authority.authorizeGrant hash env lifecycle presentedRaw).1, store,
      .outcome (Authority.authorizeGrant hash env lifecycle presentedRaw).2⟩
  | .revokeGrant => (Authority.revokeGrant hash env lifecycle store).done
  | .terminalize binding => (Authority.terminalize hash env lifecycle store binding).done

structure Event where
  index : Nat
  operation : Operation
  environment : Environment
  caller : Lifecycle
  reply : Reply

structure World where
  store : Store := fun _ => none
  lifecycles : List Lifecycle := []
  history : List Event := []

inductive Action where
  | construct (env : Environment) (epoch : List UInt8)
  | operate (i : Nat) (operation : Operation) (env : Environment)

def step (w : World) : Action → World
  | .construct env epoch =>
    match Authority.construct hash env epoch w.store with
    | .error _ => w
    | .ok lifecycle => { w with lifecycles := w.lifecycles ++ [lifecycle] }
  | .operate i operation env =>
    match w.lifecycles[i]? with
    | none => w
    | some caller =>
      let done := operation.run hash env caller w.store
      { store := done.store
        lifecycles := w.lifecycles.set i done.lifecycle
        history := w.history ++ [⟨i, operation, env, caller, done.reply⟩] }

inductive Stepped (w : World) : Action → World → Prop
  | idle (action : Action) : Stepped w action w
  | constructed (env : Environment) (epoch : List UInt8) (lifecycle : Lifecycle)
      (hnew : Authority.construct hash env epoch w.store = .ok lifecycle) :
      Stepped w (.construct env epoch) { w with lifecycles := w.lifecycles ++ [lifecycle] }
  | operated (i : Nat) (operation : Operation) (env : Environment) (caller : Lifecycle)
      (hcaller : w.lifecycles[i]? = some caller) (done : Done)
      (hdone : operation.run hash env caller w.store = done) :
      Stepped w (.operate i operation env)
        { store := done.store
          lifecycles := w.lifecycles.set i done.lifecycle
          history := w.history ++ [⟨i, operation, env, caller, done.reply⟩] }

theorem step_cases (w : World) (action : Action) : Stepped hash w action (step hash w action) := by
  unfold step
  split
  · next env epoch =>
    split
    · exact .idle _
    · next lifecycle hnew => exact .constructed env epoch lifecycle hnew
  · next i operation env =>
    split
    · exact .idle _
    · next caller hcaller => exact .operated i operation env caller hcaller _ rfl

theorem getElem?_concat {lifecycles : List Lifecycle} {new found : Lifecycle} {j : Nat}
    (h : (lifecycles ++ [new])[j]? = some found) : lifecycles[j]? = some found ∨ found = new := by
  rw [List.getElem?_append] at h
  split at h
  · exact .inl h
  · right
    have hmem : found ∈ [new] := List.mem_of_getElem? h
    exact List.mem_singleton.mp hmem

theorem getElem?_replaced {lifecycles : List Lifecycle} {new found : Lifecycle} {i j : Nat}
    (h : (lifecycles.set i new)[j]? = some found) :
    (j = i ∧ found = new) ∨ j ≠ i ∧ lifecycles[j]? = some found := by
  rw [List.getElem?_set] at h
  split at h
  · next heq =>
    split at h
    · exact .inl ⟨heq.symm, (Option.some.inj h).symm⟩
    · cases h
  · next hne => exact .inr ⟨fun heq => hne heq.symm, h⟩

def system : System World Action := ofFun (fun w => w = {}) (step hash)

/-! ## The contract of a write -/

/-- What a write over the contents `current` may do, when it is to replace exactly `prior`: it leaves the
contents, the new bytes or a torn text that is no record, and the result tells the truth about it. -/
structure Written (prior current : Option Bytes) (bytes : Bytes) (written : Call WriteResult × Option Bytes) :
    Prop where
  kept : current ≠ prior → written.2 = current
  left : written.2 = current ∨ written.2 = some bytes ∨
    ∃ torn, written.2 = some torn ∧ validatedRecord hash (some torn) = none
  zeroWrite : ∀ result, written.1 = .ok result → result.disposition = .zeroWrite → written.2 = current
  presentValid : ∀ result, written.1 = .ok result → result.disposition = .presentValid →
    ∀ observed, result.observedBytes = some observed → written.2 = some observed
  ok : ∀ result, written.1 = .ok result → result.outcome = .ok → current = prior

/-- `create_exact` creates only an absent leaf and `cas_exact` replaces only an exact prior. -/
structure WriteContract (persistence : CanonicalAuthorityPersistence) : Prop where
  createExact : ∀ leaf current bytes, Written hash none current bytes (persistence.createExact leaf current bytes)
  casExact : ∀ leaf current prior bytes,
    Written hash (some prior) current bytes (persistence.casExact leaf current prior bytes)

def Action.environment : Action → Environment
  | .construct env _ => env
  | .operate _ _ env => env

def Contracted (_ : World) (action : Action) : Prop := WriteContract hash action.environment.persistence

end PduExamObserver.Authority
