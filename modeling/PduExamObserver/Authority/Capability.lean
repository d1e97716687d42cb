import PduExamObserver.Authority.Faithful
import PduExamObserver.Library.History

/-! # One capability

Over all instances, at most one raw capability is ever handed out, and only after the instance itself
prepared, consumed within the window and issued, each with clean cleanup and verified durability. -/

namespace PduExamObserver.Authority
open Transition History
set_option autoImplicit false

variable {hash : Sha256}

/-! ## Events -/

namespace Event

def Prepared (i : Nat) (e : Event) : Prop :=
  e.index = i ∧ e.operation = .prepare ∧ e.reply = .ok ∧ Durable e.environment 1

def Consumed (hash : Sha256) (i : Nat) (e : Event) : Prop :=
  e.index = i ∧ e.operation = .consume ∧ e.reply = .ok ∧ InWindow hash e.caller e.environment.nowUnixNs ∧
    Durable e.environment 0

def Issued (i : Nat) (e : Event) : Prop :=
  e.index = i ∧ (∃ binding, e.operation = .issueGrant binding) ∧ e.reply = .ok ∧ Durable e.environment 0

def Taken (e : Event) : Prop := ∃ raw, e.reply = .capability (some raw)

def TakenFrom (i : Nat) (e : Event) : Prop := e.index = i ∧ e.Taken

end Event

def issuance (hash : Sha256) (i : Nat) : List (Event → Prop) := [Event.Prepared i, Event.Consumed hash i, Event.Issued i]

/-! ## The invariant -/

structure Evidence (hash : Sha256) (history : List Event) (i : Nat) (lifecycle : Lifecycle) : Prop where
  sound : lifecycle.Sound
  prepared : lifecycle.livePrepared = true → Occurs [Event.Prepared i] history
  consumed : lifecycle.liveConsumed = true → Occurs [Event.Prepared i, Event.Consumed hash i] history
  issued : lifecycle.grantRaw ≠ none → Occurs (issuance hash i) history

theorem Evidence.append {history : List Event} {i : Nat} {lifecycle : Lifecycle}
    (h : Evidence hash history i lifecycle) (e : Event) : Evidence hash (history ++ [e]) i lifecycle :=
  ⟨h.sound, fun hl => (h.prepared hl).append e, fun hl => (h.consumed hl).append e,
    fun hr => (h.issued hr).append e⟩

theorem Fresh.evidence {lifecycle : Lifecycle} (h : Fresh lifecycle) (history : List Event) (i : Nat) :
    Evidence hash history i lifecycle :=
  ⟨h.sound, by simp [h.livePrepared], by simp [h.liveConsumed], by simp [h.grantRaw]⟩

theorem Effect.evidence {operation : Operation} {env : Environment} {caller : Lifecycle} {store : Store}
    {done : Done} {history : List Event} {i : Nat} (heffect : Effect hash operation env caller store done)
    (h : Evidence hash history i caller) :
    Evidence hash (history ++ [⟨i, operation, env, caller, done.reply⟩]) i done.lifecycle := by
  refine ⟨heffect.sound, fun hlive => ?_, fun hlive => ?_, fun hraw => ?_⟩
  · rcases heffect.livePrepared hlive with hbefore | ⟨hop, hok, hdurable⟩
    · exact (h.prepared hbefore).append _
    · exact occurs_nil.concat ⟨rfl, hop, hok, hdurable⟩
  · rcases heffect.liveConsumed hlive with hbefore | ⟨hop, hok, hprepared, hwindow, hdurable⟩
    · exact (h.consumed hbefore).append _
    · exact (h.prepared hprepared).concat ⟨rfl, hop, hok, hwindow, hdurable⟩
  · rcases heffect.grantRaw hraw with hbefore | ⟨hop, hok, hconsumed, -, -, -, hdurable⟩
    · exact (h.issued hbefore).append _
    · exact (h.consumed hconsumed).concat ⟨rfl, hop, hok, hdurable⟩

def World.Holder (w : World) (i : Nat) (lifecycle : Lifecycle) : Prop :=
  w.lifecycles[i]? = some lifecycle ∧ lifecycle.grantRaw ≠ none

structure OneCapability (hash : Sha256) (w : World) : Prop where
  evidence : ∀ i lifecycle, w.lifecycles[i]? = some lifecycle → Evidence hash w.history i lifecycle
  ungranted : w.store .grant = none → (∀ i lifecycle, ¬ w.Holder i lifecycle) ∧ ∀ e ∈ w.history, ¬ e.Taken
  holder : ∀ i j lifecycle other, w.Holder i lifecycle → w.Holder j other → i = j
  handedOff : ∀ e ∈ w.history, e.Taken → ∀ i lifecycle, w.Holder i lifecycle → lifecycle.grantHandedOff = true
  once : AtMostOnce Event.Taken w.history
  taken : ∀ i, ∀ e ∈ w.history, e.TakenFrom i → Occurs (issuance hash i ++ [Event.TakenFrom i]) w.history

theorem OneCapability.constructed {w : World} {lifecycle : Lifecycle} (h : OneCapability hash w)
    (hfresh : Fresh lifecycle) : OneCapability hash { w with lifecycles := w.lifecycles ++ [lifecycle] } := by
  have hholder : ∀ i found, World.Holder { w with lifecycles := w.lifecycles ++ [lifecycle] } i found →
      w.Holder i found := by
    rintro i found ⟨hfound, hraw⟩
    rcases getElem?_concat hfound with hbefore | rfl
    · exact ⟨hbefore, hraw⟩
    · exact absurd hfresh.grantRaw hraw
  refine ⟨fun i found hfound => ?_, fun hnone => ⟨fun i found hfound => ?_, (h.ungranted hnone).2⟩,
    fun i j found other hfound hother => h.holder i j found other (hholder i found hfound) (hholder j other hother),
    fun e he htaken i found hfound => h.handedOff e he htaken i found (hholder i found hfound), h.once, h.taken⟩
  · rcases getElem?_concat hfound with hbefore | rfl
    · exact h.evidence i found hbefore
    · exact hfresh.evidence _ _
  · exact (h.ungranted hnone).1 i found (hholder i found hfound)

section Operated

variable {w : World} {i : Nat} {operation : Operation} {env : Environment} {caller : Lifecycle} {done : Done}

/-- The world after an operation. -/
abbrev World.after (w : World) (i : Nat) (operation : Operation) (env : Environment) (caller : Lifecycle)
    (done : Done) : World where
  store := done.store
  lifecycles := w.lifecycles.set i done.lifecycle
  history := w.history ++ [⟨i, operation, env, caller, done.reply⟩]

theorem Effect.holder (heffect : Effect hash operation env caller w.store done)
    (hcaller : w.lifecycles[i]? = some caller) {j : Nat} {found : Lifecycle}
    (h : (w.after i operation env caller done).Holder j found) :
    (∃ before, w.Holder j before ∧ (before.grantHandedOff = true → found.grantHandedOff = true)) ∨
      j = i ∧ w.store .grant = none ∧ done.store .grant ≠ none ∧ done.reply = .ok := by
  obtain ⟨hfound, hraw⟩ := h
  rcases getElem?_replaced hfound with ⟨rfl, rfl⟩ | ⟨-, hbefore⟩
  · rcases heffect.grantRaw hraw with hbefore | ⟨-, hok, -, -, hnone, hsome, -⟩
    · exact .inl ⟨caller, ⟨hcaller, hbefore⟩, heffect.handedOff⟩
    · exact .inr ⟨rfl, hnone, hsome, hok⟩
  · exact .inl ⟨found, ⟨hbefore, hraw⟩, id⟩

theorem OneCapability.operated (h : OneCapability hash w) (hcaller : w.lifecycles[i]? = some caller)
    (heffect : Effect hash operation env caller w.store done) :
    OneCapability hash (w.after i operation env caller done) := by
  have hlast : ∀ {e last : Event}, e ∈ w.history ++ [last] → e ∈ w.history ∨ e = last := by
    intro e last he
    simpa using he
  have hholds : ∀ raw, done.reply = .capability (some raw) → w.Holder i caller := by
    intro raw hreply
    exact ⟨hcaller, by simp [(heffect.taken raw hreply).2.1]⟩
  refine ⟨fun j found hfound => ?_, fun hnone => ?_, fun j k found other hfound hother => ?_,
    fun e he htaken j found hfound => ?_, neverAfter_concat.mpr ⟨h.once, ?_⟩, fun j e he htaken => ?_⟩
  · rcases getElem?_replaced hfound with ⟨rfl, rfl⟩ | ⟨-, hbefore⟩
    · exact heffect.evidence (h.evidence j caller hcaller)
    · exact (h.evidence j found hbefore).append _
  · have hnone' : w.store .grant = none := by
      by_contra hpresent
      exact (heffect.moves .grant).present hpresent hnone
    obtain ⟨hnoholder, hnotaken⟩ := h.ungranted hnone'
    refine ⟨fun j found hfound => ?_, fun e he htaken => ?_⟩
    · rcases heffect.holder hcaller hfound with ⟨before, hbefore, -⟩ | ⟨-, -, hsome, -⟩
      · exact hnoholder j before hbefore
      · exact hsome hnone
    · rcases hlast he with hbefore | rfl
      · exact hnotaken e hbefore htaken
      · obtain ⟨raw, hreply⟩ := htaken
        exact hnoholder i caller (hholds raw hreply)
  · rcases heffect.holder hcaller hfound with ⟨before, hbefore, -⟩ | ⟨rfl, hnone, -⟩
    · rcases heffect.holder hcaller hother with ⟨before', hbefore', -⟩ | ⟨-, hnone, -⟩
      · exact h.holder j k before before' hbefore hbefore'
      · exact absurd hbefore ((h.ungranted hnone).1 j before)
    · rcases heffect.holder hcaller hother with ⟨before', hbefore', -⟩ | ⟨rfl, -⟩
      · exact absurd hbefore' ((h.ungranted hnone).1 k before')
      · rfl
  · rcases hlast he with hin | rfl
    · rcases heffect.holder hcaller hfound with ⟨before, hbefore, hkept⟩ | ⟨-, hnone, -⟩
      · exact hkept (h.handedOff e hin htaken j before hbefore)
      · exact absurd htaken ((h.ungranted hnone).2 e hin)
    · obtain ⟨raw, hreply⟩ := htaken
      rcases heffect.holder hcaller hfound with ⟨before, hbefore, -⟩ | ⟨-, -, -, hok⟩
      · obtain rfl : j = i := h.holder j i before caller hbefore (hholds raw hreply)
        rcases getElem?_replaced hfound.1 with ⟨-, rfl⟩ | ⟨hne, -⟩
        · exact (heffect.taken raw hreply).2.2.2
        · exact absurd rfl hne
      · simp only at hreply
        rw [hok] at hreply
        cases hreply
  · rintro ⟨raw, hreply⟩ e he htaken
    have hhanded := h.handedOff e he htaken i caller (hholds raw hreply)
    rw [(heffect.taken raw hreply).2.2.1] at hhanded
    cases hhanded
  · rcases hlast he with hin | rfl
    · exact (h.taken j e hin htaken).append _
    · obtain ⟨rfl, raw, hreply⟩ := htaken
      exact ((h.evidence _ caller hcaller).issued (hholds raw hreply).2).concat ⟨rfl, raw, hreply⟩

end Operated

theorem OneCapability.step {w : World} {action : Action} (h : OneCapability hash w)
    (hcontract : Contracted hash w action) : OneCapability hash (step hash w action) := by
  have hstepped := step_cases hash w action
  generalize Authority.step hash w action = after at hstepped ⊢
  cases hstepped with
  | idle => exact h
  | constructed env epoch lifecycle hnew => exact h.constructed (construct_fresh hnew)
  | operated i operation env caller hcaller done hdone =>
    rw [← hdone]
    exact h.operated hcaller (operation.run_effect hcontract (h.evidence i caller hcaller).sound w.store)

theorem reachable_oneCapability {w : World} (h : ReachableBy (system hash) (Contracted hash) w) :
    OneCapability hash w := by
  refine h.invariant ?_ ?_
  · rintro w rfl
    constructor <;> simp [World.Holder]
  · rintro w action _ hw hcontract rfl
    exact hw.step hcontract

/-- In every run over a store that keeps its contract, every step moves each leaf along its order of records;
at most one raw capability is handed out; and an instance hands it out only after it prepared, consumed within
the window of its prepared record and issued. -/
theorem capability_once {w : World} (h : ReachableBy (system hash) (Contracted hash) w) :
    (∀ action, Contracted hash w action → ∀ leaf, Moves hash leaf (w.store leaf) ((step hash w action).store leaf)) ∧
      AtMostOnce Event.Taken w.history ∧
      ∀ i, ∀ e ∈ w.history, e.TakenFrom i → Occurs (issuance hash i ++ [Event.TakenFrom i]) w.history := by
  have hone := reachable_oneCapability h
  refine ⟨fun action hcontract leaf => ?_, hone.once, hone.taken⟩
  have hstepped := step_cases hash w action
  generalize Authority.step hash w action = after at hstepped ⊢
  cases hstepped with
  | idle => exact .refl
  | constructed => exact .refl
  | operated i operation env caller hcaller done hdone =>
    rw [← hdone]
    exact (operation.run_effect hcontract (hone.evidence i caller hcaller).sound w.store).moves leaf

namespace Sample

def issueRun : List Action :=
  [.construct environment epoch, .operate 0 .prepare environment, .operate 0 .consume environment,
    .operate 0 (.issueGrant workerBinding) environment]

def issueHistory : List Event :=
  [⟨0, .prepare, environment, absent, .ok⟩, ⟨0, .consume, environment, prepared, .ok⟩,
    ⟨0, .issueGrant workerBinding, environment, consumed, .ok⟩]

theorem issueRun_world : issueRun.foldl (step Sample.hash) {} = ⟨issuedStore, [issued], issueHistory⟩ := by
  have hnew : construct Sample.hash environment epoch (fun _ => none) = .ok absent := construct_absent
  have hprepare : prepare Sample.hash environment absent (fun _ => none) = ⟨prepared, preparedStore, .ok .ok⟩ :=
    prepare_absent
  simp [issueRun, issueHistory, step, Operation.run, Ran.done, hnew, hprepare, consume_prepared, issue_consumed]

theorem issueRun_reachable {guard : World → Action → Prop} (h : Guarded (step Sample.hash) guard {} issueRun) :
    ReachableBy (system Sample.hash) guard ⟨issuedStore, [issued], issueHistory⟩ := by
  rw [← issueRun_world]
  exact reachableBy_foldl issueRun (.init rfl) h

theorem environment_contract : WriteContract Sample.hash environment.persistence := faithfulStore_contract _

theorem issueRun_contracted : Guarded (step Sample.hash) (Contracted Sample.hash) {} issueRun :=
  ⟨environment_contract, environment_contract, environment_contract, environment_contract, trivial⟩

end Sample

theorem capability_once_taken :
    Occurs (issuance Sample.hash 0 ++ [Event.TakenFrom 0])
      (step Sample.hash ⟨Sample.issuedStore, [Sample.issued], Sample.issueHistory⟩
        (.operate 0 .takeGrantCapability Sample.environment)).history := by
  have hcontract : Contracted Sample.hash ⟨Sample.issuedStore, [Sample.issued], Sample.issueHistory⟩
      (.operate 0 .takeGrantCapability Sample.environment) := Sample.environment_contract
  refine (capability_once (.step (Sample.issueRun_reachable Sample.issueRun_contracted) hcontract rfl)).2.2 0
    ⟨0, .takeGrantCapability, Sample.environment, Sample.issued, .capability (some Sample.capability)⟩ ?_
    ⟨rfl, _, rfl⟩
  exact List.mem_append_right _ (List.mem_singleton.mpr rfl)

end PduExamObserver.Authority
