import PduExamObserver.Authority.BridgeCalls
import PduExamObserver.Authority.Exclusion

/-! # A bridge over the store

The authority of a bridge is one instance over the three leaves; any other instances act around each of its calls.
A terminal result is about the terminal record of this run, unless another instance has written one before. -/

namespace PduExamObserver.Authority
open Stateful History Transition
set_option autoImplicit false

variable {hash : Sha256} {i : Nat} {env : Environment} {caller : Lifecycle} {store : Store} {w w' : World}

/-! ## The instances -/

def Action.Foreign (i : Nat) : Action → Prop
  | .construct _ _ => True
  | .operate j _ _ => j ≠ i

structure ForeignAction (hash : Sha256) (i : Nat) where
  action : Action
  isForeign : action.Foreign i
  contract : WriteContract hash action.environment.persistence

/-- What surrounds one call of the bridge: what the others do before and after it, and what the authority, the driver
and the entropy source meet with in it. -/
structure Round (hash : Sha256) (i : Nat) where
  before : List (ForeignAction hash i) := []
  environment : Environment
  contract : WriteContract hash environment.persistence
  after : List (ForeignAction hash i) := []
  thrown : Thrown := .exception
  revalidated : Except Thrown Bool
  entropy : Except Thrown (Option (List UInt8))
  driven : D1N2ExecutionRequest → Except Thrown D1N2DriverResult
  a0Clean : Bool
  preparationClean : Bool

/-- The world of all instances, the rounds to come, and the `_retained_cleanup` of the bridge's composition. -/
structure SharedStore (hash : Sha256) (i : Nat) where
  world : World
  rounds : Nat → Round hash i
  next : Nat := 0
  retained : Option RetainedLeaseCleanup := none

namespace SharedStore

variable (s : SharedStore hash i)

def round : Round hash i := s.rounds s.next

def others (hash : Sha256) (actions : List (ForeignAction hash i)) (w : World) : World :=
  actions.foldl (fun w foreign => step hash w foreign.action) w

def entered : World := others hash s.round.before s.world

def leave (w : World) : SharedStore hash i := { s with world := others hash s.round.after w, next := s.next + 1 }

def apart {α : Type} (answer : Round hash i → Except Thrown α) : Act (SharedStore hash i) α := fun s =>
  (answer s.round, s.leave s.entered)

def reply (operation : Operation) : Option Reply :=
  s.entered.lifecycles[i]?.map fun caller => (operation.run hash s.round.environment caller s.entered.store).reply

def operated (operation : Operation) : SharedStore hash i :=
  s.leave (step hash s.entered (.operate i operation s.round.environment))

def outcome (operation : Operation) : Act (SharedStore hash i) PersistenceOutcome := fun s =>
  (match s.reply operation with
    | some (.outcome (.ok outcome)) => .ok outcome
    | _ => .error s.round.thrown, s.operated operation)

def capability : Act (SharedStore hash i) (Option (List UInt8)) := fun s =>
  (match s.reply .takeGrantCapability with
    | some (.capability raw) => .ok raw
    | _ => .error s.round.thrown, s.operated .takeGrantCapability)

def grantRecord : Act (SharedStore hash i) (Option Bytes) := fun s =>
  (match s.entered.lifecycles[i]? with
    | some caller => .ok caller.grantRecord
    | none => .error s.round.thrown, s.leave s.entered)

/-- `_close_retained`. -/
def cleanup : RetainedLeaseCleanup :=
  s.retained.getD ⟨s.round.a0Clean, s.round.preparationClean, s.round.preparationClean⟩

def closeRetained : Act (SharedStore hash i) (Option RetainedLeaseCleanup) := fun s =>
  (.ok (if s.cleanup.valid then some s.cleanup else none), { s.leave s.entered with retained := some s.cleanup })

/-- `_D1N2PreparationComposition.terminalize`. -/
def terminalizeRetained (binding : TerminalBindingAttestation) : Act (SharedStore hash i) PersistenceOutcome := fun s =>
  if !s.retained.any RetainedLeaseCleanup.valid then (.ok .cleanupFailed, s.leave s.entered)
  else if !(binding.retainedA0Clean && binding.retainedRp2Clean && binding.retainedPreparationClean) then
    (.ok .terminalNotAuthorized, s.leave s.entered)
  else outcome (.terminalize binding) s

/-- `ExecutionOwnership`. -/
def ownership : ExecutionAuthority (SharedStore hash i) where
  revalidateForRun := apart Round.revalidated
  consume := outcome .consume
  issueGrant binding := outcome (.issueGrant binding)
  takeGrantCapability := capability
  grantRecordBytes := grantRecord
  authorizeGrant raw := outcome (.authorizeGrant raw)
  revokeGrant := outcome .revokeGrant
  closeRetainedForTerminal := closeRetained
  terminalize := terminalizeRetained

end SharedStore

def ownBridge (hash : Sha256) (i : Nat) (deviceName preparedAuthorityDigest : String)
    (preparedAttestation : Option PreparedBindingAttestation) : D1N2ExecutionBridge (SharedStore hash i) where
  authority := SharedStore.ownership
  driver request := SharedStore.apart fun round => round.driven request
  deviceName
  preparedAuthorityDigest
  preparedAttestation
  challengeEntropy := SharedStore.apart Round.entropy

/-! ## What an instance that has issued does -/

def Late (state : CanonicalLifecycleState) : Prop :=
  state = .issued ∨ state = .revokedTerminalPending ∨ state = .terminal ∨ state = .terminalDurabilityUnverified ∨
    state = .presentInvalid

theorem Operation.run_late (operation : Operation) (hcontract : WriteContract hash env.persistence)
    (hsound : caller.Sound) (hlate : Late caller.state) (store : Store) :
    Late (operation.run hash env caller store).lifecycle.state := by
  have hne : ∀ state, Late state → state ≠ .absent ∧ state ≠ .prepared ∧ state ≠ .consumedNoGrant := by
    rintro state (rfl | rfl | rfl | rfl | rfl) <;> decide
  obtain ⟨habsent, hprepared, hconsumed⟩ := hne _ hlate
  cases operation with
  | prepare =>
    simp only [Operation.run, Ran.done_lifecycle, Authority.prepare, if_pos habsent]
    exact hlate
  | consume =>
    simp only [Operation.run, Ran.done_lifecycle, Authority.consume]
    split
    · exact hlate
    · rw [if_pos (.inl hprepared)]
      exact hlate
  | issueGrant binding =>
    rcases issueGrant_spec caller store binding hcontract with heq | hspec
    · simp only [Operation.run, Ran.done_lifecycle, heq]
      exact hlate
    · exact absurd hspec.state hconsumed
  | takeGrantCapability =>
    rcases takeGrantCapability_spec caller with heq | ⟨raw, -, -, -, heq⟩ <;>
      simp only [Operation.run, heq] <;> exact hlate
  | authorizeGrant raw =>
    rcases authorizeGrant_spec hash env caller raw with ⟨_, _, heq⟩ | ⟨_, grant, _, heq⟩ <;>
      simp only [Operation.run, heq] <;> exact hlate
  | revokeGrant =>
    rcases revokeGrant_spec caller store hsound.grant hcontract with heq | hspec
    · simp only [Operation.run, Ran.done_lifecycle, heq]
      exact hlate
    · obtain ⟨_, state, heq, hends⟩ := hspec.lifecycle
      simp only [Operation.run, Ran.done_lifecycle, heq]
      exact hends.elim .inl fun h => h.elim (fun h => .inr (.inr (.inr (.inr h)))) fun h => .inr (.inl h.1)
  | terminalize binding =>
    rcases terminalize_spec caller store binding hcontract hsound.revoked with ⟨_, -, heq⟩ | ⟨hspec, -⟩
    · simp only [Operation.run, Ran.done_lifecycle, heq]
      exact hlate
    · obtain ⟨state, heq, hends⟩ := hspec.lifecycle
      simp only [Operation.run, Ran.done_lifecycle, heq]
      rcases hends with rfl | h | h | h
      · exact hlate
      · exact .inr (.inr (.inl h))
      · exact .inr (.inr (.inr (.inl h)))
      · exact .inr (.inr (.inr (.inr h)))

theorem issueGrant_ok {binding : WorkerGrantBindingAttestation} (hcontract : WriteContract hash env.persistence)
    (h : (issueGrant hash env caller store binding).result = .ok .ok) :
    (issueGrant hash env caller store binding).lifecycle.state = .issued := by
  unfold issueGrant at h ⊢
  split
  · next hunauthorized =>
    rw [hunauthorized] at h
    cases h
  · next consumed hauthorized =>
    rw [hauthorized] at h
    obtain ⟨-, hbinding, -, -⟩ := issueAuthorized_some hauthorized
    have hend := mutation_end env caller store (issueBody hash env caller store binding consumed) issueSettle
    simp only at h ⊢
    generalize mutation env caller store _ issueSettle = ran at hend h ⊢
    cases hend with
    | refused result hresult => exact absurd h hresult
    | raised => cases h
    | settled session hbegin issued hresult report hfinish =>
      obtain ⟨outcome, raw⟩ := issued
      have houtcome := Except.ok.inj h
      simp only [issueSettle] at houtcome ⊢
      split at houtcome
      · cases houtcome
      · next hclean =>
        split at houtcome
        · next hok =>
          obtain rfl : outcome = .ok := hok
          rw [if_neg hclean, if_pos rfl]
          exact ((issueBody_spec caller store session consumed hcontract hbinding).2 raw hresult).issued
        · next hnot => exact absurd houtcome hnot

def StoresRevoked (hash : Sha256) (binding : TerminalBindingAttestation) (store : Store) : Prop :=
  ∃ terminal get, store .terminal = some terminal ∧ Reads hash terminal .terminal get ∧
    get "grant_disposition" = some (.str GrantDisposition.revoked.value) ∧
    get "receipt_digest" = some (.str binding.receiptDigest) ∧ get "receipt_json" = some binding.receiptJson

theorem terminalize_storesRevoked {binding : TerminalBindingAttestation} (hcontract : WriteContract hash env.persistence)
    (hsound : caller.Sound) (hlate : Late caller.state)
    (h : (terminalize hash env caller store binding).result = .ok .ok) :
    StoresRevoked hash binding (terminalize hash env caller store binding).store := by
  rcases terminalize_writes hcontract hsound store binding with ⟨-, hfailed⟩ | ⟨disposition, consumed, hgets, hwrites⟩
  · exact absurd h hfailed
  obtain ⟨hbinding, -, hstate, -⟩ := terminalAuthorized_ok hgets.authorized
  have hrevoked : disposition = .revoked := by
    rcases hstate with ⟨-, hconsumed⟩ | ⟨hrevoked, -⟩
    · rw [hconsumed] at hlate
      rcases hlate with h | h | h | h | h <;> cases h
    · exact hrevoked
  obtain ⟨habsent, terminal, hterminal, get, hreads⟩ := hwrites.ok h
  rcases hwrites.left with hsame | ⟨-, ⟨torn, htorn, hinvalid⟩ | ⟨grantRecord, hgrant, hrecord⟩⟩
  · rw [hsame, habsent] at hterminal
    cases hterminal
  · obtain rfl := Option.some.inj (hterminal.symm.trans htorn)
    obtain ⟨decoded, hvalid, -⟩ := hreads
    rw [hinvalid] at hvalid
    cases hvalid
  · refine ⟨_, _, hrecord, terminal_reads hbinding hgrant, ?_, rfl, rfl⟩
    rw [hrevoked]
    rfl

theorem StoresRevoked.moves {binding : TerminalBindingAttestation} {after : Store} (h : StoresRevoked hash binding store)
    (hmoves : Moves hash .terminal (store .terminal) (after .terminal)) : StoresRevoked hash binding after := by
  obtain ⟨terminal, get, hterminal, hreads⟩ := h
  rw [hterminal] at hmoves
  exact ⟨terminal, get, hmoves.terminal, hreads⟩

/-! ## What every call keeps -/

structure Hosts (hash : Sha256) (i : Nat) (w : World) : Prop where
  reach : ReachableBy (system hash) (Contracted hash) w
  own : ∃ caller, w.lifecycles[i]? = some caller

def OwnLate (i : Nat) (w : World) : Prop := ∀ caller, w.lifecycles[i]? = some caller → Late caller.state

structure Goes (hash : Sha256) (i : Nat) (w w' : World) : Prop where
  hosts : Hosts hash i w → Hosts hash i w'
  late : Hosts hash i w → OwnLate i w → OwnLate i w'
  moves : Hosts hash i w → Moves hash .terminal (w.store .terminal) (w'.store .terminal)

theorem Goes.refl (w : World) : Goes hash i w w := ⟨id, fun _ h => h, fun _ => .refl⟩

theorem Goes.trans {w'' : World} (h : Goes hash i w w') (h' : Goes hash i w' w'') : Goes hash i w w'' where
  hosts hw := h'.hosts (h.hosts hw)
  late hw hlate := h'.late (h.hosts hw) (h.late hw hlate)
  moves hw := (h.moves hw).trans (h'.moves (h.hosts hw))

theorem step_goes {action : Action} (hcontract : Contracted hash w action) : Goes hash i w (step hash w action) where
  hosts hw := by
    refine ⟨.step hw.reach hcontract rfl, ?_⟩
    obtain ⟨caller, hcaller⟩ := hw.own
    have hi : i < w.lifecycles.length := by
      by_contra hge
      rw [List.getElem?_eq_none (by omega)] at hcaller
      cases hcaller
    have hstepped := step_cases hash w action
    generalize step hash w action = after at hstepped ⊢
    have hlength : i < after.lifecycles.length := by
      cases hstepped with
      | idle => exact hi
      | constructed =>
        simp only [List.length_append]
        omega
      | operated =>
        simp only [List.length_set]
        exact hi
    exact ⟨_, List.getElem?_eq_getElem hlength⟩
  late hw hlate := by
    intro found hfound
    have hone := reachable_oneCapability hw.reach
    have hstepped := step_cases hash w action
    generalize step hash w action = after at hstepped hfound
    cases hstepped with
    | idle => exact hlate found hfound
    | constructed =>
      obtain ⟨caller, hcaller⟩ := hw.own
      rw [List.getElem?_append_left (List.getElem?_eq_some_iff.mp hcaller).1] at hfound
      exact hlate found hfound
    | operated j operation env caller hcaller done hdone =>
      rcases getElem?_replaced hfound with ⟨rfl, rfl⟩ | ⟨-, hother⟩
      · rw [← hdone]
        exact operation.run_late hcontract (hone.evidence _ caller hcaller).sound (hlate caller hcaller) w.store
      · exact hlate found hother
  moves hw := (capability_once hw.reach).1 action hcontract .terminal

theorem others_goes (actions : List (ForeignAction hash i)) (w : World) :
    Goes hash i w (SharedStore.others hash actions w) := by
  induction actions generalizing w with
  | nil => exact .refl w
  | cons foreign rest ih => exact (step_goes foreign.contract).trans (ih _)

structure OwnKept (s : SharedStore hash i) (calls : List BridgeCall) : Prop where
  hosts : Hosts hash i s.world
  late : (∃ c ∈ calls, c.Issued) → OwnLate i s.world
  stored : ∀ before binding after, calls = before ++ .terminalized binding (.ok .ok) :: after →
    (∃ c ∈ before, c.Issued) → StoresRevoked hash binding s.world.store

theorem OwnKept.called {s s' : SharedStore hash i} {calls : List BridgeCall} {call : BridgeCall} (h : OwnKept s calls)
    (hgoes : Goes hash i s.world s'.world) (hissued : call.Issued → OwnLate i s'.world)
    (hterminal : ∀ binding, call = .terminalized binding (.ok .ok) → OwnLate i s.world →
      StoresRevoked hash binding s'.world.store) : OwnKept s' (calls ++ [call]) where
  hosts := hgoes.hosts h.hosts
  late := by
    rintro ⟨c, hc, hkind⟩
    rcases List.mem_append.mp hc with hold | hnew
    · exact hgoes.late h.hosts (h.late ⟨c, hold, hkind⟩)
    · rw [List.mem_singleton.mp hnew] at hkind
      exact hissued hkind
  stored := by
    intro before binding after heq hbefore
    rcases concat_eq_append_cons heq with ⟨rfl, rfl⟩ | ⟨rest, hold⟩
    · exact hterminal binding rfl (h.late hbefore)
    · exact (h.stored before binding rest hold hbefore).moves (hgoes.moves h.hosts)

theorem OwnKept.other {s s' : SharedStore hash i} {calls : List BridgeCall} {call : BridgeCall} (h : OwnKept s calls)
    (hgoes : Goes hash i s.world s'.world) (hissued : ¬call.Issued) (hterminal : ¬call.Terminalizes) :
    OwnKept s' (calls ++ [call]) := by
  refine h.called hgoes (fun hok => absurd hok hissued) fun binding heq => ?_
  rw [heq] at hterminal
  exact absurd trivial hterminal

namespace SharedStore

variable (s : SharedStore hash i)

theorem entered_goes : Goes hash i s.world s.entered := others_goes _ _

theorem leave_goes (w : World) : Goes hash i w (s.leave w).world := others_goes _ _

theorem apart_goes : Goes hash i s.world (s.leave s.entered).world := s.entered_goes.trans (s.leave_goes _)

theorem contracted (operation : Operation) : Contracted hash s.entered (.operate i operation s.round.environment) :=
  s.round.contract

theorem operated_goes (operation : Operation) : Goes hash i s.world (s.operated operation).world :=
  (s.entered_goes.trans (step_goes (s.contracted operation))).trans (s.leave_goes _)

theorem outcome_ok {operation : Operation} {s : SharedStore hash i} (h : (outcome operation s).1 = .ok .ok) :
    ∃ caller, s.entered.lifecycles[i]? = some caller ∧
      (operation.run hash s.round.environment caller s.entered.store).reply = .outcome (.ok .ok) ∧
      (step hash s.entered (.operate i operation s.round.environment)).lifecycles[i]? =
        some (operation.run hash s.round.environment caller s.entered.store).lifecycle ∧
      (step hash s.entered (.operate i operation s.round.environment)).store =
        (operation.run hash s.round.environment caller s.entered.store).store := by
  simp only [outcome, reply] at h
  cases hcaller : s.entered.lifecycles[i]? with
  | none =>
    rw [hcaller] at h
    cases h
  | some caller =>
    rw [hcaller] at h
    have hi := (List.getElem?_eq_some_iff.mp hcaller).1
    refine ⟨caller, rfl, ?_, ?_, ?_⟩
    · simp only [Option.map_some] at h
      split at h
      · next outcome hreply =>
        cases h
        exact Option.some.inj hreply
      · cases h
    · simp only [step, hcaller]
      rw [List.getElem?_set_self hi]
    · simp only [step, hcaller]

theorem issueGrant_late {s : SharedStore hash i} {binding : WorkerGrantBindingAttestation} (hhosts : Hosts hash i s.world)
    (h : (outcome (.issueGrant binding) s).1 = .ok .ok) : OwnLate i (s.operated (.issueGrant binding)).world := by
  obtain ⟨caller, hcaller, hreply, hlifecycle, -⟩ := outcome_ok h
  have hstep : OwnLate i (step hash s.entered (.operate i (.issueGrant binding) s.round.environment)) := by
    intro found hfound
    rw [hlifecycle] at hfound
    cases hfound
    exact .inl (issueGrant_ok s.round.contract (Reply.outcome.inj hreply))
  have hgoes := s.entered_goes.trans (step_goes (s.contracted (.issueGrant binding)))
  exact (s.leave_goes _).late (hgoes.hosts hhosts) hstep

theorem terminalize_stored {s : SharedStore hash i} {binding : TerminalBindingAttestation}
    (hhosts : Hosts hash i s.world) (hlate : OwnLate i s.world)
    (h : (outcome (.terminalize binding) s).1 = .ok .ok) :
    StoresRevoked hash binding (s.operated (.terminalize binding)).world.store := by
  obtain ⟨caller, hcaller, hreply, -, hstore⟩ := outcome_ok h
  have hentered := s.entered_goes.hosts hhosts
  have hsound := ((reachable_oneCapability hentered.reach).evidence i caller hcaller).sound
  have hstep : StoresRevoked hash binding
      (step hash s.entered (.operate i (.terminalize binding) s.round.environment)).store := by
    rw [hstore]
    exact terminalize_storesRevoked s.round.contract hsound (s.entered_goes.late hhosts hlate caller hcaller)
      (Reply.outcome.inj hreply)
  exact hstep.moves ((s.leave_goes _).moves ((step_goes (s.contracted (.terminalize binding))).hosts hentered))

end SharedStore

open SharedStore in
theorem ownBridge_kept (deviceName preparedAuthorityDigest : String)
    (preparedAttestation : Option PreparedBindingAttestation) :
    (ownBridge hash i deviceName preparedAuthorityDigest preparedAttestation).KeptByCalls OwnKept where
  revalidate s calls h := h.other s.apart_goes id id
  consume s calls h := h.other (s.operated_goes _) id id
  challenge s calls h := h.other s.apart_goes id id
  issue binding s calls h := by
    refine h.called (s.operated_goes (.issueGrant binding)) ?_ fun _ heq => by cases heq
    exact issueGrant_late h.hosts
  take s calls h := h.other (s.operated_goes _) id id
  readRecord s calls h := h.other s.apart_goes id id
  authorize capability s calls h := h.other (s.operated_goes _) id id
  drive request s calls h := h.other s.apart_goes id id
  revoke s calls h := h.other (s.operated_goes _) id id
  close s calls h := h.other s.apart_goes id id
  terminalize binding s calls h := by
    change OwnKept (terminalizeRetained binding s).2 (calls ++ [.terminalized binding (terminalizeRetained binding s).1])
    unfold terminalizeRetained
    split
    · exact h.called s.apart_goes False.elim fun _ heq => by cases heq
    · split
      · exact h.called s.apart_goes False.elim fun _ heq => by cases heq
      · refine h.called (s.operated_goes _) False.elim fun other heq hlate => ?_
        obtain ⟨rfl, hok⟩ := BridgeCall.terminalized.inj heq
        exact terminalize_stored h.hosts hlate hok

end PduExamObserver.Authority
