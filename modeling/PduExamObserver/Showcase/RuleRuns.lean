import Mathlib.Data.List.Pairwise
import PduExamObserver.Library.Transition
import PduExamObserver.Showcase.TemporalRules

/-! # Runs of the rule engine

The events of a `TemporalRuleEngine` over any sequence of calls: each logical event starts once, after its label
was shown for the required time, and ends before the next one starts. -/

namespace PduExamObserver.Showcase
open Transition
set_option autoImplicit false

/-! ## Runs -/

/-- The arguments of `advance`. -/
structure Call where
  timestampMs : Int
  poseCount : Nat
  downScore : Option Rat
  sideScore : Option Rat
  qualityOk : Bool
  predictionLabel : Option Label
  deriving DecidableEq

structure Emission where
  calledMs : Int
  event : RuleEvent
  deriving DecidableEq

/-- An engine with what it was called with and what it returned; `nextId` is the next `uuid4`. -/
structure RuleRun where
  engine : TemporalRuleEngine
  nextId : Nat := 0
  calls : List Call := []
  emitted : List Emission := []

def RuleRun.advance (run : RuleRun) (call : Call) : RuleRun :=
  match run.engine.advance run.nextId call.timestampMs call.poseCount call.downScore call.sideScore call.qualityOk
      call.predictionLabel with
  | none => run
  | some (engine, events) =>
    { engine
      nextId := run.nextId + 1
      calls := run.calls ++ [call]
      emitted := run.emitted ++ events.map fun event => ⟨call.timestampMs, event⟩ }

def ruleSystem (policy : RulePolicy) : System RuleRun Call :=
  ofFun (fun run => run = { engine := { policy } }) RuleRun.advance

/-! ## What the events of a run are to be -/

def Call.Good (call : Call) : Prop := call.qualityOk = true ∧ call.downScore ≠ none ∧ call.sideScore ≠ none

def Call.shown (policy : RulePolicy) (call : Call) : Option Label :=
  if call.poseCount = 0 then some .noPerson
  else if 1 < call.poseCount then some .multiplePeople
  else
    match call.predictionLabel with
    | some label => if label = .prolongedHeadDown ∨ label = .prolongedSideLook then some label else none
    | none =>
      if call.downScore.any (policy.headDownOn ≤ ·) then some .prolongedHeadDown
      else if call.sideScore.any (policy.sideLookOn ≤ ·) then some .prolongedSideLook
      else none

def RulePolicy.requiredMs (policy : RulePolicy) (label : Label) : Int :=
  if label = .noPerson ∨ label = .multiplePeople then policy.presenceDurationMs else policy.motionDurationMs

def kindsOf (emitted : List Emission) (logicalId : Nat) : List EventKind :=
  (emitted.filter fun emission => emission.event.logicalId = logicalId).map fun emission => emission.event.kind

/-- `START UPDATE*` with at most one `END`, and nothing after it. -/
def Lifecycle (kinds : List EventKind) : Prop :=
  kinds = [] ∨ ∃ updates, kinds = .start :: List.replicate updates .update ∨
    kinds = .start :: List.replicate updates .update ++ [.end_]

def Open (emitted : List Emission) (logicalId : Nat) : Prop :=
  .start ∈ kindsOf emitted logicalId ∧ .end_ ∉ kindsOf emitted logicalId

structure Emission.Earned (policy : RulePolicy) (calls : List Call) (emission : Emission) : Prop where
  shown : ∀ call ∈ calls, emission.event.startMs ≤ call.timestampMs → call.timestampMs ≤ emission.calledMs →
    call.Good ∧ call.shown policy = some emission.event.label
  onset : emission.event.eligibleOnsetMs = emission.event.startMs + policy.requiredMs emission.event.label
  reached : emission.event.eligibleOnsetMs ≤ emission.calledMs

structure Emission.Before (policy : RulePolicy) (earlier later : Emission) : Prop where
  cooled : earlier.event.kind = .end_ → later.event.kind = .start →
    earlier.calledMs + policy.cooldownMs ≤ later.event.startMs
  continues : earlier.event.logicalId = later.event.logicalId →
    earlier.event.startMs = later.event.startMs ∧ earlier.event.endMs ≤ later.event.endMs
  disjoint : earlier.event.logicalId ≠ later.event.logicalId → earlier.event.endMs ≤ later.event.startMs

/-- The emissions of a sequence of calls are in order. At most one logical event is open after each of them. -/
structure Orderly (policy : RulePolicy) (calls : List Call) (emitted : List Emission) : Prop where
  lifecycle : ∀ logicalId, Lifecycle (kindsOf emitted logicalId)
  single : ∀ first, first <+: emitted → ∀ i j, Open first i → Open first j → i = j
  earned : ∀ emission ∈ emitted, emission.event.kind = .start → emission.Earned policy calls
  proper : ∀ emission ∈ emitted, emission.event.startMs < emission.event.endMs
  ordered : emitted.Pairwise (Emission.Before policy)

/-! ## What one call does -/

variable {policy : RulePolicy} {engine after : TemporalRuleEngine} {call : Call} {logicalId : Nat}
  {events : List RuleEvent} {run : RuleRun}

def TemporalRuleEngine.since (engine : TemporalRuleEngine) (timestampMs : Int) (label : Label) : Int :=
  if engine.pending = some label then engine.pendingStart else timestampMs

def TemporalRuleEngine.started (engine : TemporalRuleEngine) (logicalId : Nat) (timestampMs : Int) (label : Label) :
    RuleEvent where
  logicalId
  kind := .start
  label
  startMs := engine.since timestampMs label
  endMs := timestampMs + 1
  eligibleOnsetMs := engine.since timestampMs label + engine.policy.requiredMs label

structure TemporalRuleEngine.Shows (engine : TemporalRuleEngine) (call : Call) (label : Label) : Prop where
  idle : engine.active = none
  good : call.Good
  shown : call.shown engine.policy = some label
  cooled : engine.cooldownUntil ≤ call.timestampMs

inductive Advances (engine : TemporalRuleEngine) (logicalId : Nat) (call : Call) :
    TemporalRuleEngine → List RuleEvent → Prop
  | rests (outcome : OperatorOutcome) (h : engine.active = none) :
    Advances engine logicalId call
      { engine with lastMs := call.timestampMs, operatorOutcome := outcome, active := none, pending := none } []
  | waits (label : Label) (h : engine.Shows call label) :
    Advances engine logicalId call
      { engine with
        lastMs := call.timestampMs
        operatorOutcome := .normal
        pending := some label
        pendingStart := engine.since call.timestampMs label } []
  | starts (label : Label) (h : engine.Shows call label)
      (hreached : engine.since call.timestampMs label + engine.policy.requiredMs label ≤ call.timestampMs) :
    Advances engine logicalId call
      { engine with
        lastMs := call.timestampMs
        operatorOutcome := .reviewRequired
        pending := none
        pendingStart := engine.since call.timestampMs label
        active := some (engine.started logicalId call.timestampMs label)
        lastSupport := call.timestampMs + 1
        lastEmission := call.timestampMs }
      [engine.started logicalId call.timestampMs label]
  | stays (active : RuleEvent) (h : engine.active = some active) :
    Advances engine logicalId call
      { engine with lastMs := call.timestampMs, operatorOutcome := .reviewRequired } []
  | supports (active : RuleEvent) (h : engine.active = some active) :
    Advances engine logicalId call
      { engine with
        lastMs := call.timestampMs
        operatorOutcome := .reviewRequired
        lastSupport := call.timestampMs + 1 } []
  | updates (active : RuleEvent) (h : engine.active = some active) :
    Advances engine logicalId call
      { engine with
        lastMs := call.timestampMs
        operatorOutcome := .reviewRequired
        lastSupport := call.timestampMs + 1
        lastEmission := call.timestampMs }
      [TemporalRuleEngine.event active .update (call.timestampMs + 1)]
  | closes (outcome : OperatorOutcome) (active : RuleEvent) (h : engine.active = some active) :
    Advances engine logicalId call
      { engine with
        lastMs := call.timestampMs
        operatorOutcome := outcome
        active := none
        pending := none
        cooldownUntil := call.timestampMs + engine.policy.cooldownMs }
      [TemporalRuleEngine.event active .end_ engine.lastSupport]

theorem observed_idle {downScore sideScore : Rat} (h : engine.active = none) (hdown : call.downScore = some downScore)
    (hside : call.sideScore = some sideScore) :
    engine.observed call.poseCount downScore sideScore call.predictionLabel = call.shown engine.policy := by
  unfold TemporalRuleEngine.observed Call.shown
  rw [h, hdown, hside]
  cases call.predictionLabel with
  | none => simp
  | some label => simp

variable {label : Label} {active : RuleEvent}

theorem requiredMs_shown (h : call.shown policy = some label) :
    (if call.poseCount ≠ 1 then policy.presenceDurationMs else policy.motionDurationMs) = policy.requiredMs label := by
  unfold Call.shown at h
  by_cases hnone : call.poseCount = 0
  · rw [if_pos hnone] at h
    cases h
    simp [hnone, RulePolicy.requiredMs]
  · rw [if_neg hnone] at h
    by_cases hmany : 1 < call.poseCount
    · rw [if_pos hmany] at h
      cases h
      rw [if_pos (by omega)]
      simp [RulePolicy.requiredMs]
    · rw [if_neg hmany] at h
      have hmotion : label = .prolongedHeadDown ∨ label = .prolongedSideLook := by
        split at h
        · split at h
          · next hlabel =>
            cases h
            exact hlabel
          · cases h
        · split at h
          · cases h
            exact .inl rfl
          · split at h
            · cases h
              exact .inr rfl
            · cases h
      rw [if_neg (by omega)]
      rcases hmotion with rfl | rfl <;> simp [RulePolicy.requiredMs]

theorem close_advances (outcome : OperatorOutcome) {pending : Option Label} (h : engine.active = none → pending = none) :
    Advances engine logicalId call
      ({ engine with lastMs := call.timestampMs, operatorOutcome := outcome, pending }.close call.timestampMs).1
      ({ engine with lastMs := call.timestampMs, operatorOutcome := outcome, pending }.close call.timestampMs).2 := by
  unfold TemporalRuleEngine.close
  cases hactive : engine.active with
  | none =>
    rw [h hactive]
    exact .rests outcome hactive
  | some active => exact .closes outcome active hactive

theorem advanceActive_advances (h : engine.active = some active) (observed : Option Label) :
    Advances engine logicalId call
      ({ engine with lastMs := call.timestampMs }.advanceActive active call.timestampMs observed).1
      ({ engine with lastMs := call.timestampMs }.advanceActive active call.timestampMs observed).2 := by
  unfold TemporalRuleEngine.advanceActive
  dsimp only
  by_cases hobserved : observed = some active.label
  · rw [if_pos hobserved]
    by_cases hlate : 1000 ≤ call.timestampMs - engine.lastEmission
    · rw [if_pos hlate]
      exact .updates active h
    · rw [if_neg hlate]
      exact .supports active h
  · rw [if_neg hobserved]
    by_cases hreleased : max engine.policy.releaseMs engine.policy.mergeGapMs < call.timestampMs - engine.lastSupport
    · rw [if_pos hreleased]
      exact close_advances .reviewRequired fun hnone => by rw [h] at hnone; cases hnone
    · rw [if_neg hreleased]
      exact .stays active h

theorem advanceIdle_advances (hidle : engine.active = none) (hgood : call.Good) :
    Advances engine logicalId call
      ({ engine with lastMs := call.timestampMs }.advanceIdle logicalId call.timestampMs call.poseCount
        (call.shown engine.policy)).1
      ({ engine with lastMs := call.timestampMs }.advanceIdle logicalId call.timestampMs call.poseCount
        (call.shown engine.policy)).2 := by
  unfold TemporalRuleEngine.advanceIdle
  rw [hidle]
  cases hshown : call.shown engine.policy with
  | none => exact .rests .normal hidle
  | some label =>
    dsimp only
    by_cases hcooling : call.timestampMs < engine.cooldownUntil
    · rw [if_pos hcooling]
      exact .rests .normal hidle
    · rw [if_neg hcooling]
      have hshows : engine.Shows call label := ⟨hidle, hgood, hshown, by omega⟩
      have hwaits : Advances engine logicalId call _ _ := .waits label hshows
      have hstarts (hreached : engine.since call.timestampMs label + engine.policy.requiredMs label ≤ call.timestampMs) :
          Advances engine logicalId call _ _ := .starts label hshows hreached
      have hrequired := requiredMs_shown hshown
      unfold TemporalRuleEngine.started at hstarts
      unfold TemporalRuleEngine.since at hwaits hstarts
      rw [hidle] at hwaits
      by_cases hpending : engine.pending = some label
      · rw [if_pos hpending] at hwaits hstarts
        simp only [if_pos hpending, hrequired]
        split
        · rw [hpending]
          exact hwaits
        · exact hstarts (by omega)
      · rw [if_neg hpending] at hwaits hstarts
        simp only [if_neg hpending, hrequired]
        split
        · exact hwaits
        · exact hstarts (by omega)

theorem advance_cases (h : engine.advance logicalId call.timestampMs call.poseCount call.downScore call.sideScore
    call.qualityOk call.predictionLabel = some (after, events)) :
    engine.lastMs < call.timestampMs ∧ Advances engine logicalId call after events := by
  unfold TemporalRuleEngine.advance at h
  split at h
  · cases h
  · next htime =>
    refine ⟨by omega, ?_⟩
    dsimp only at h
    split at h
    · next downScore sideScore hquality hdown hside =>
      split at h
      · next active hactive =>
        obtain ⟨rfl, rfl⟩ := Prod.ext_iff.mp (Option.some.inj h)
        exact advanceActive_advances hactive _
      · next hidle =>
        have hgood : call.Good := ⟨hquality, by simp [hdown], by simp [hside]⟩
        have hadvances : Advances engine logicalId call _ _ := advanceIdle_advances hidle hgood
        rw [← observed_idle hidle hdown hside] at hadvances
        obtain ⟨rfl, rfl⟩ := Prod.ext_iff.mp (Option.some.inj h)
        exact hadvances
    · obtain ⟨rfl, rfl⟩ := Prod.ext_iff.mp (Option.some.inj h)
      exact close_advances .technicalInsufficient fun _ => rfl

/-! ## One more call, one more emission -/

variable {calls : List Call} {emitted : List Emission} {emission : Emission}

theorem kindsOf_concat (emitted : List Emission) (emission : Emission) (i : Nat) :
    kindsOf (emitted ++ [emission]) i =
      kindsOf emitted i ++ if emission.event.logicalId = i then [emission.event.kind] else [] := by
  unfold kindsOf
  rw [List.filter_append, List.map_append]
  by_cases h : emission.event.logicalId = i <;> simp [h]

theorem open_concat_iff {i : Nat} (h : emission.event.logicalId ≠ i) :
    Open (emitted ++ [emission]) i ↔ Open emitted i := by
  rw [Open, Open, kindsOf_concat, if_neg h, List.append_nil]

theorem Orderly.called (h : Orderly policy calls emitted)
    (hlate : ∀ emission ∈ emitted, emission.calledMs < call.timestampMs) : Orderly policy (calls ++ [call]) emitted := by
  refine { h with earned := fun emission hmem hstart => ?_ }
  obtain ⟨hshown, honset, hreached⟩ := h.earned emission hmem hstart
  refine ⟨fun other hother hfrom hto => ?_, honset, hreached⟩
  rcases List.mem_append.mp hother with hold | hnew
  · exact hshown other hold hfrom hto
  · rw [List.mem_singleton.mp hnew] at hto
    have := hlate emission hmem
    omega

theorem Orderly.concat (h : Orderly policy calls emitted)
    (hlifecycle : Lifecycle (kindsOf emitted emission.event.logicalId ++ [emission.event.kind]))
    (hopen : ∀ i, Open emitted i → i = emission.event.logicalId)
    (hearned : emission.event.kind = .start → emission.Earned policy calls)
    (hproper : emission.event.startMs < emission.event.endMs)
    (hbefore : ∀ earlier ∈ emitted, earlier.Before policy emission) :
    Orderly policy calls (emitted ++ [emission]) := by
  have hown : ∀ i, Open (emitted ++ [emission]) i → i = emission.event.logicalId := by
    intro i hi
    by_cases heq : emission.event.logicalId = i
    · exact heq.symm
    · exact hopen i ((open_concat_iff heq).mp hi)
  refine ⟨fun i => ?_, fun first hfirst i j hi hj => ?_, fun other hother => ?_, fun other hother => ?_, ?_⟩
  · rw [kindsOf_concat]
    split
    · next heq =>
      rw [← heq]
      exact hlifecycle
    · rw [List.append_nil]
      exact h.lifecycle i
  · rcases List.prefix_concat_iff.mp hfirst with rfl | hold
    · rw [hown i hi, hown j hj]
    · exact h.single first hold i j hi hj
  · rcases List.mem_append.mp hother with hold | hnew
    · exact h.earned other hold
    · rw [List.mem_singleton.mp hnew]
      exact hearned
  · rcases List.mem_append.mp hother with hold | hnew
    · exact h.proper other hold
    · rw [List.mem_singleton.mp hnew]
      exact hproper
  · rw [List.pairwise_append]
    refine ⟨h.ordered, List.pairwise_singleton _ _, fun earlier hearlier later hlater => ?_⟩
    rw [List.mem_singleton.mp hlater]
    exact hbefore earlier hearlier

/-! ## The invariant of a run -/

structure RuleRun.Idle (policy : RulePolicy) (run : RuleRun) : Prop where
  closed : ∀ i, ¬ Open run.emitted i
  ended : ∀ emission ∈ run.emitted, emission.event.endMs ≤ run.engine.cooldownUntil
  cooled : ∀ emission ∈ run.emitted, emission.event.kind = .end_ →
    emission.calledMs + policy.cooldownMs ≤ run.engine.cooldownUntil
  pending : ∀ label, run.engine.pending = some label →
    run.engine.cooldownUntil ≤ run.engine.pendingStart ∧ run.engine.pendingStart ≤ run.engine.lastMs ∧
      ∀ call ∈ run.calls, run.engine.pendingStart ≤ call.timestampMs →
        call.Good ∧ call.shown policy = some label

structure RuleRun.Busy (run : RuleRun) (active : RuleEvent) : Prop where
  kinds : ∃ updates, kindsOf run.emitted active.logicalId = .start :: List.replicate updates .update
  others : ∀ i, Open run.emitted i → i = active.logicalId
  own : ∀ emission ∈ run.emitted, emission.event.logicalId = active.logicalId →
    emission.event.startMs = active.startMs ∧ emission.event.endMs ≤ run.engine.lastSupport
  before : ∀ emission ∈ run.emitted, emission.event.logicalId ≠ active.logicalId →
    emission.event.endMs ≤ active.startMs
  support : active.startMs < run.engine.lastSupport ∧ run.engine.lastSupport ≤ run.engine.lastMs + 1

structure RuleRun.Kept (policy : RulePolicy) (run : RuleRun) : Prop where
  policy_eq : run.engine.policy = policy
  orderly : Orderly policy run.calls run.emitted
  fresh : ∀ emission ∈ run.emitted, emission.event.logicalId < run.nextId
  called : ∀ emission ∈ run.emitted, emission.calledMs ≤ run.engine.lastMs
  clock : ∀ call ∈ run.calls, call.timestampMs ≤ run.engine.lastMs
  idle : run.engine.active = none → run.Idle policy
  busy : ∀ active, run.engine.active = some active → run.Busy active

theorem kept_start (policy : RulePolicy) : RuleRun.Kept policy { engine := { policy } } where
  policy_eq := rfl
  orderly := by
    refine ⟨fun i => .inl rfl, fun first hfirst i j hi hj => ?_, by simp, by simp, .nil⟩
    rw [List.prefix_nil.mp hfirst] at hi
    exact absurd hi.1 (by simp [kindsOf])
  fresh := by simp
  called := by simp
  clock := by simp
  idle _ := by
    refine ⟨fun i hi => absurd hi.1 (by simp [kindsOf]), by simp, by simp, fun label h => ?_⟩
    cases h
  busy active h := by cases h

theorem RuleRun.Kept.since_shown (h : run.Kept policy) (hlate : run.engine.lastMs < call.timestampMs)
    (hshows : run.engine.Shows call label) :
    run.engine.cooldownUntil ≤ run.engine.since call.timestampMs label ∧
      run.engine.since call.timestampMs label ≤ call.timestampMs ∧
      ∀ other ∈ run.calls ++ [call], run.engine.since call.timestampMs label ≤ other.timestampMs →
        other.Good ∧ other.shown policy = some label := by
  have hthis : call.Good ∧ call.shown policy = some label := ⟨hshows.good, h.policy_eq ▸ hshows.shown⟩
  unfold TemporalRuleEngine.since
  split
  · next hpending =>
    obtain ⟨hcooled, hpast, hshown⟩ := (h.idle hshows.idle).pending label hpending
    refine ⟨hcooled, by omega, fun other hother hfrom => ?_⟩
    rcases List.mem_append.mp hother with hold | hnew
    · exact hshown other hold hfrom
    · rw [List.mem_singleton.mp hnew]
      exact hthis
  · refine ⟨hshows.cooled, Int.le_refl _, fun other hother hfrom => ?_⟩
    rcases List.mem_append.mp hother with hold | hnew
    · have := h.clock other hold
      omega
    · rw [List.mem_singleton.mp hnew]
      exact hthis

theorem RuleRun.Kept.silent (h : run.Kept policy) (hlate : run.engine.lastMs < call.timestampMs)
    (hpolicy : after.policy = run.engine.policy) (hlast : after.lastMs = call.timestampMs)
    (hidle : after.active = none →
      RuleRun.Idle policy ⟨after, run.nextId + 1, run.calls ++ [call], run.emitted⟩)
    (hbusy : ∀ active, after.active = some active →
      RuleRun.Busy ⟨after, run.nextId + 1, run.calls ++ [call], run.emitted⟩ active) :
    RuleRun.Kept policy ⟨after, run.nextId + 1, run.calls ++ [call], run.emitted⟩ where
  policy_eq := hpolicy.trans h.policy_eq
  orderly := h.orderly.called fun emission hmem => by have := h.called emission hmem; omega
  fresh emission hmem := Nat.lt_succ_of_lt (h.fresh emission hmem)
  called emission hmem := by
    have := h.called emission hmem
    simp only [hlast]
    omega
  clock other hother := by
    simp only [hlast]
    rcases List.mem_append.mp hother with hold | hnew
    · have := h.clock other hold
      omega
    · rw [List.mem_singleton.mp hnew]
  idle := hidle
  busy := hbusy

theorem RuleRun.Kept.emits {event : RuleEvent} (h : run.Kept policy) (hlate : run.engine.lastMs < call.timestampMs)
    (hpolicy : after.policy = run.engine.policy) (hlast : after.lastMs = call.timestampMs)
    (hid : event.logicalId ≤ run.nextId)
    (horderly : Orderly policy (run.calls ++ [call]) run.emitted →
      Orderly policy (run.calls ++ [call]) (run.emitted ++ [⟨call.timestampMs, event⟩]))
    (hidle : after.active = none →
      RuleRun.Idle policy ⟨after, run.nextId + 1, run.calls ++ [call], run.emitted ++ [⟨call.timestampMs, event⟩]⟩)
    (hbusy : ∀ active, after.active = some active →
      RuleRun.Busy ⟨after, run.nextId + 1, run.calls ++ [call], run.emitted ++ [⟨call.timestampMs, event⟩]⟩ active) :
    RuleRun.Kept policy
      ⟨after, run.nextId + 1, run.calls ++ [call], run.emitted ++ [⟨call.timestampMs, event⟩]⟩ where
  policy_eq := hpolicy.trans h.policy_eq
  orderly := horderly (h.orderly.called fun emission hmem => by have := h.called emission hmem; omega)
  fresh emission hmem := by
    rcases List.mem_append.mp hmem with hold | hnew
    · exact Nat.lt_succ_of_lt (h.fresh emission hold)
    · rw [List.mem_singleton.mp hnew]
      exact Nat.lt_succ_of_le hid
  called emission hmem := by
    simp only [hlast]
    rcases List.mem_append.mp hmem with hold | hnew
    · have := h.called emission hold
      omega
    · rw [List.mem_singleton.mp hnew]
  clock other hother := by
    simp only [hlast]
    rcases List.mem_append.mp hother with hold | hnew
    · have := h.clock other hold
      omega
    · rw [List.mem_singleton.mp hnew]
  idle := hidle
  busy := hbusy

theorem RuleRun.Kept.starts (h : run.Kept policy) (hlate : run.engine.lastMs < call.timestampMs)
    (hshows : run.engine.Shows call label)
    (hreached : run.engine.since call.timestampMs label + run.engine.policy.requiredMs label ≤ call.timestampMs)
    (hpolicy : after.policy = run.engine.policy) (hlast : after.lastMs = call.timestampMs)
    (hactive : after.active = some (run.engine.started run.nextId call.timestampMs label))
    (hsupport : after.lastSupport = call.timestampMs + 1) :
    RuleRun.Kept policy ⟨after, run.nextId + 1, run.calls ++ [call],
      run.emitted ++ [⟨call.timestampMs, run.engine.started run.nextId call.timestampMs label⟩]⟩ := by
  have hidle := h.idle hshows.idle
  obtain ⟨hcooled, hpast, hshown⟩ := h.since_shown hlate hshows
  have hnew : kindsOf run.emitted run.nextId = [] := by
    unfold kindsOf
    rw [List.map_eq_nil_iff, List.filter_eq_nil_iff]
    intro emission hmem
    have := h.fresh emission hmem
    simp only [decide_eq_true_eq]
    omega
  refine h.emits hlate hpolicy hlast (Nat.le_refl _) (fun horderly => horderly.concat ?_ ?_ ?_ ?_ ?_) ?_ ?_
  · exact .inr ⟨0, .inl (by simp [TemporalRuleEngine.started, hnew])⟩
  · exact fun i hi => absurd hi (hidle.closed i)
  · refine fun _ => ⟨fun other hother hfrom _ => hshown other hother hfrom, ?_, hreached⟩
    rw [← h.policy_eq]
    rfl
  · change run.engine.since call.timestampMs label < call.timestampMs + 1
    omega
  · intro earlier hearlier
    have hother : earlier.event.logicalId ≠ run.nextId := Nat.ne_of_lt (h.fresh earlier hearlier)
    refine ⟨fun hend _ => ?_, fun heq => absurd heq hother, fun _ => ?_⟩
    · exact (hidle.cooled earlier hearlier hend).trans hcooled
    · exact (hidle.ended earlier hearlier).trans hcooled
  · intro hnone
    rw [hactive] at hnone
    cases hnone
  · intro active hsome
    obtain rfl := Option.some.inj (hactive.symm.trans hsome)
    refine ⟨⟨0, ?_⟩, fun i hi => ?_, fun emission hmem heq => ?_, fun emission hmem hne => ?_, ?_⟩
    · rw [kindsOf_concat, if_pos rfl]
      change kindsOf run.emitted run.nextId ++ _ = _
      rw [hnew]
      rfl
    · by_contra hne
      exact hidle.closed i ((open_concat_iff (Ne.symm hne)).mp hi)
    · rcases List.mem_append.mp hmem with hold | hnew
      · exact absurd heq (Nat.ne_of_lt (h.fresh emission hold))
      · rw [List.mem_singleton.mp hnew]
        exact ⟨rfl, hsupport.ge⟩
    · rcases List.mem_append.mp hmem with hold | hnew
      · exact (hidle.ended emission hold).trans hcooled
      · rw [List.mem_singleton.mp hnew] at hne
        exact absurd rfl hne
    · simp only [hsupport, hlast]
      exact ⟨Int.lt_add_one_iff.mpr hpast, Int.le_refl _⟩

theorem RuleRun.Busy.id_lt (hbusy : run.Busy active) (h : run.Kept policy) :
    active.logicalId < run.nextId := by
  obtain ⟨updates, hkinds⟩ := hbusy.kinds
  have hstart : EventKind.start ∈ kindsOf run.emitted active.logicalId := by simp [hkinds]
  obtain ⟨emission, hmem, -⟩ := List.mem_map.mp hstart
  obtain ⟨hmem, hid⟩ := List.mem_filter.mp hmem
  have hid : emission.event.logicalId = active.logicalId := by simpa using hid
  rw [← hid]
  exact h.fresh emission hmem

theorem RuleRun.Busy.before_event {kind : EventKind} {endMs : Int} (hbusy : run.Busy active)
    (hkind : kind ≠ .start) (hgrows : run.engine.lastSupport ≤ endMs) :
    ∀ earlier ∈ run.emitted,
      earlier.Before policy ⟨call.timestampMs, TemporalRuleEngine.event active kind endMs⟩ := by
  intro earlier hearlier
  refine ⟨fun _ hstart => absurd hstart hkind, fun heq => ?_, fun hne => hbusy.before earlier hearlier hne⟩
  obtain ⟨hstart, hend⟩ := hbusy.own earlier hearlier heq
  exact ⟨hstart, (hend.trans hgrows).trans (le_max_right _ _)⟩

theorem RuleRun.Kept.updates (h : run.Kept policy) (hlate : run.engine.lastMs < call.timestampMs)
    (hrunning : run.engine.active = some active) (hpolicy : after.policy = run.engine.policy)
    (hlast : after.lastMs = call.timestampMs) (hactive : after.active = run.engine.active)
    (hsupport : after.lastSupport = call.timestampMs + 1) :
    RuleRun.Kept policy ⟨after, run.nextId + 1, run.calls ++ [call], run.emitted ++
      [⟨call.timestampMs, TemporalRuleEngine.event active .update (call.timestampMs + 1)⟩]⟩ := by
  have hbusy := h.busy active hrunning
  obtain ⟨updates, hkinds⟩ := hbusy.kinds
  obtain ⟨hstarted, hsupported⟩ := hbusy.support
  have hend : max (active.startMs + 1) (call.timestampMs + 1) = call.timestampMs + 1 := by omega
  have hextended : kindsOf run.emitted active.logicalId ++ [.update] = .start :: List.replicate (updates + 1) .update := by
    rw [hkinds, List.cons_append, List.replicate_succ']
  refine h.emits hlate hpolicy hlast (Nat.le_of_lt (hbusy.id_lt h)) (fun horderly => horderly.concat ?_ ?_ ?_ ?_ ?_) ?_ ?_
  · exact .inr ⟨updates + 1, .inl hextended⟩
  · exact hbusy.others
  · exact fun hstart => by cases hstart
  · change active.startMs < max (active.startMs + 1) (call.timestampMs + 1)
    omega
  · exact hbusy.before_event (by decide) (by omega)
  · intro hnone
    rw [hactive, hrunning] at hnone
    cases hnone
  · intro other hsome
    obtain rfl := Option.some.inj (hrunning.symm.trans (hactive.symm.trans hsome))
    refine ⟨⟨updates + 1, ?_⟩, fun i hi => ?_, fun emission hmem heq => ?_, fun emission hmem hne => ?_, ?_⟩
    · rw [kindsOf_concat, if_pos]
      · exact hextended
      · rfl
    · by_contra hne
      exact hne (hbusy.others i ((open_concat_iff (Ne.symm hne)).mp hi))
    · rcases List.mem_append.mp hmem with hold | hnew
      · obtain ⟨hstart, hend⟩ := hbusy.own emission hold heq
        simp only [hsupport]
        exact ⟨hstart, by omega⟩
      · rw [List.mem_singleton.mp hnew]
        simp only [hsupport]
        exact ⟨rfl, hend.le⟩
    · rcases List.mem_append.mp hmem with hold | hnew
      · exact hbusy.before emission hold hne
      · rw [List.mem_singleton.mp hnew] at hne
        exact absurd rfl hne
    · simp only [hsupport, hlast]
      omega

theorem RuleRun.Kept.closes (hcooldown : 0 ≤ policy.cooldownMs) (h : run.Kept policy)
    (hlate : run.engine.lastMs < call.timestampMs) (hrunning : run.engine.active = some active)
    (hpolicy : after.policy = run.engine.policy) (hlast : after.lastMs = call.timestampMs) (hactive : after.active = none)
    (hpending : after.pending = none) (huntil : after.cooldownUntil = call.timestampMs + run.engine.policy.cooldownMs) :
    RuleRun.Kept policy ⟨after, run.nextId + 1, run.calls ++ [call], run.emitted ++
      [⟨call.timestampMs, TemporalRuleEngine.event active .end_ run.engine.lastSupport⟩]⟩ := by
  have hbusy := h.busy active hrunning
  obtain ⟨updates, hkinds⟩ := hbusy.kinds
  obtain ⟨hstarted, hsupported⟩ := hbusy.support
  have hend : max (active.startMs + 1) run.engine.lastSupport = run.engine.lastSupport := by omega
  rw [h.policy_eq] at huntil
  have hextended : kindsOf run.emitted active.logicalId ++ [.end_] =
      .start :: List.replicate updates .update ++ [.end_] := by
    rw [hkinds]
  refine h.emits hlate hpolicy hlast (Nat.le_of_lt (hbusy.id_lt h)) (fun horderly => horderly.concat ?_ ?_ ?_ ?_ ?_) ?_ ?_
  · exact .inr ⟨updates, .inr hextended⟩
  · exact hbusy.others
  · exact fun hstart => by cases hstart
  · change active.startMs < max (active.startMs + 1) run.engine.lastSupport
    omega
  · exact hbusy.before_event (by decide) (Int.le_refl _)
  · refine fun _ => ⟨fun i hi => ?_, fun emission hmem => ?_, fun emission hmem hended => ?_, fun label hsome => ?_⟩
    · by_cases heq : active.logicalId = i
      · refine hi.2 ?_
        rw [kindsOf_concat, if_pos]
        · simp [TemporalRuleEngine.event]
        · exact heq
      · exact heq (hbusy.others i ((open_concat_iff heq).mp hi)).symm
    · simp only [huntil]
      rcases List.mem_append.mp hmem with hold | hnew
      · by_cases heq : emission.event.logicalId = active.logicalId
        · have := (hbusy.own emission hold heq).2
          omega
        · have := hbusy.before emission hold heq
          omega
      · rw [List.mem_singleton.mp hnew]
        change max (active.startMs + 1) run.engine.lastSupport ≤ _
        omega
    · simp only [huntil]
      rcases List.mem_append.mp hmem with hold | hnew
      · have := h.called emission hold
        omega
      · rw [List.mem_singleton.mp hnew]
    · rw [hpending] at hsome
      cases hsome
  · intro other hsome
    rw [hactive] at hsome
    cases hsome

theorem RuleRun.Kept.advances (hcooldown : 0 ≤ policy.cooldownMs) (h : run.Kept policy)
    (hlate : run.engine.lastMs < call.timestampMs) (hadvances : Advances run.engine run.nextId call after events) :
    RuleRun.Kept policy ⟨after, run.nextId + 1, run.calls ++ [call],
      run.emitted ++ events.map fun event => ⟨call.timestampMs, event⟩⟩ := by
  cases hadvances with
  | rests outcome hidle =>
    rw [List.map_nil, List.append_nil]
    refine h.silent hlate rfl rfl (fun _ => { h.idle hidle with pending := fun label hsome => ?_ }) fun active hsome => ?_
    · cases hsome
    · cases hsome
  | waits label hshows =>
    rw [List.map_nil, List.append_nil]
    refine h.silent hlate rfl rfl (fun _ => { h.idle hshows.idle with pending := fun other hsome => ?_ })
      fun active hsome => ?_
    · obtain rfl := Option.some.inj hsome
      exact h.since_shown hlate hshows
    · have hidle : run.engine.active = none := hshows.idle
      rw [show run.engine.active = some active from hsome] at hidle
      cases hidle
  | starts label hshows hreached => exact h.starts hlate hshows hreached rfl rfl rfl rfl
  | stays active hrunning =>
    rw [List.map_nil, List.append_nil]
    have hbusy := h.busy active hrunning
    refine h.silent hlate rfl rfl (fun hnone => ?_) fun other hsome => ?_
    · rw [show run.engine.active = none from hnone] at hrunning
      cases hrunning
    · obtain rfl := Option.some.inj (hrunning.symm.trans hsome)
      exact { hbusy with support := ⟨hbusy.support.1, by have := hbusy.support.2; simp only; omega⟩ }
  | supports active hrunning =>
    rw [List.map_nil, List.append_nil]
    have hbusy := h.busy active hrunning
    obtain ⟨hstarted, hsupported⟩ := hbusy.support
    refine h.silent hlate rfl rfl (fun hnone => ?_) fun other hsome => ?_
    · rw [show run.engine.active = none from hnone] at hrunning
      cases hrunning
    · obtain rfl := Option.some.inj (hrunning.symm.trans hsome)
      refine { hbusy with own := fun emission hmem heq => ?_, support := ⟨?_, Int.le_refl _⟩ }
      · obtain ⟨hstart, hend⟩ := hbusy.own emission hmem heq
        exact ⟨hstart, by simp only; omega⟩
      · simp only
        omega
  | updates active hrunning => exact h.updates hlate hrunning rfl rfl rfl rfl
  | closes outcome active hrunning => exact h.closes hcooldown hlate hrunning rfl rfl rfl rfl rfl

theorem reachable_kept (hcooldown : 0 ≤ policy.cooldownMs) (h : Reachable (ruleSystem policy) run) : run.Kept policy := by
  refine h.invariant (I := RuleRun.Kept policy) ?_ ?_
  · rintro run rfl
    exact kept_start policy
  · rintro run call after hkept - rfl
    unfold RuleRun.advance
    split
    · exact hkept
    · next hadvance =>
      obtain ⟨hlate, hadvances⟩ := advance_cases hadvance
      exact hkept.advances hcooldown hlate hadvances

/-- Over every sequence of calls, the emissions of an engine with an accepted policy are in order. -/
theorem rule_engine_orderly {document : PolicyDocument} {research : Bool}
    (haccepted : RulePolicy.fromDocument document research = .ok policy) (h : Reachable (ruleSystem policy) run) :
    Orderly policy run.calls run.emitted :=
  (reachable_kept (RulePolicy.fromDocument_cooldown haccepted) h).orderly

namespace Sample

def document : PolicyDocument :=
  [("policy_version", .str "rules-demo-v2"), ("status", .str "DEMO_ONLY"), ("selection_source", .str "SYNTHETIC"),
    ("head_down_on", .float 15), ("head_down_off", .float 8), ("side_look_on", .float 25),
    ("side_look_off", .float 15), ("motion_duration_ms", .int 2000), ("presence_duration_ms", .int 1500),
    ("release_ms", .int 400), ("merge_gap_ms", .int 700), ("cooldown_ms", .int 1000)]

def poses (poseCount : Nat) (timestampMs : Int) : Call := ⟨timestampMs, poseCount, some 0, some 0, true, none⟩

def sampleCalls : List Call :=
  [poses 0 0, poses 0 1500, poses 0 2500, { poses 0 3000 with qualityOk := false }, poses 0 3500, poses 0 4000,
    poses 1 4500, poses 2 5000, poses 2 6500]

def ruleRun : RuleRun := sampleCalls.foldl RuleRun.advance { engine := { policy := .demo } }

end Sample

/-- In the sample run two logical events start. -/
theorem rule_engine_orderly_sample : Sample.ruleRun.emitted.map (fun emission => emission.event.kind) =
    [.start, .update, .end_, .start] ∧ Orderly .demo Sample.ruleRun.calls Sample.ruleRun.emitted := by
  have haccepted : RulePolicy.fromDocument Sample.document false = .ok .demo := by decide +kernel
  have hreach : Reachable (ruleSystem .demo) Sample.ruleRun := reachable_foldl Sample.sampleCalls (.init rfl)
  exact ⟨by decide +kernel, rule_engine_orderly haccepted hreach⟩

end PduExamObserver.Showcase
