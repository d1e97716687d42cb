import Mathlib.Data.Rat.Defs
import Mathlib.Algebra.Order.Ring.Rat
import PduExamObserver.Library.Except

/-! # Temporal rules

The temporal state machine that the runtime and the offline evaluation share. Scores and thresholds are
rationals; a score that is not finite is none. -/

namespace PduExamObserver.Showcase
set_option autoImplicit false

/-- `ALLOWED_LABELS`. -/
inductive Label where
  | normal
  | benignConfounder
  | prolongedHeadDown
  | prolongedSideLook
  | noPerson
  | multiplePeople
  | uncertain
  deriving DecidableEq, Repr

structure RulePolicy where
  policyVersion : String
  status : String
  selectionSource : String
  headDownOn : Rat
  headDownOff : Rat
  sideLookOn : Rat
  sideLookOff : Rat
  motionDurationMs : Int
  presenceDurationMs : Int
  releaseMs : Int
  mergeGapMs : Int
  cooldownMs : Int
  deriving DecidableEq

def RulePolicy.demo : RulePolicy where
  policyVersion := "rules-demo-v2"
  status := "DEMO_ONLY"
  selectionSource := "SYNTHETIC"
  headDownOn := 15
  headDownOff := 8
  sideLookOn := 25
  sideLookOff := 15
  motionDurationMs := 2000
  presenceDurationMs := 1500
  releaseMs := 400
  mergeGapMs := 700
  cooldownMs := 1000

/-! ## Policy documents -/

/-- A value of a policy document; a bool and anything that is no scalar is `other`. -/
inductive PolicyValue where
  | str (s : String)
  | int (n : Int)
  | float (q : Rat)
  | nonFinite
  | other
  deriving DecidableEq

abbrev PolicyDocument := List (String × PolicyValue)

/-- `cls.__dataclass_fields__`. -/
def RulePolicy.fields : List String :=
  ["policy_version", "status", "selection_source", "head_down_on", "head_down_off", "side_look_on", "side_look_off",
    "motion_duration_ms", "presence_duration_ms", "release_ms", "merge_gap_ms", "cooldown_ms"]

/-- A finite number; `math.isfinite` raises for an integer that is too large for a float. -/
def PolicyDocument.threshold (document : PolicyDocument) (field : String) : Except String Rat :=
  match document.lookup field with
  | some (.int n) => if n.natAbs < 2 ^ 1024 - 2 ^ 970 then .ok n else .error "OverflowError"
  | some (.float q) => .ok q
  | _ => .error "POLICY_THRESHOLD_INVALID"

def PolicyDocument.duration (document : PolicyDocument) (field : String) : Except String Int :=
  match document.lookup field with
  | some (.int n) => if 0 ≤ n ∧ n ≤ 60000 then .ok n else .error "POLICY_DURATION_INVALID"
  | _ => .error "POLICY_DURATION_INVALID"

def PolicyDocument.version (document : PolicyDocument) (field : String) : Except String String :=
  match document.lookup field with
  | some (.str s) => if s = "" then .error "POLICY_VERSION_INVALID" else .ok s
  | _ => .error "POLICY_VERSION_INVALID"

/-- The thresholds of `from_document` leave a hysteresis, and the durations to wait for are not zero. -/
def RulePolicy.hysteresis (policy : RulePolicy) : Prop :=
  (0 ≤ policy.headDownOff ∧ policy.headDownOff < policy.headDownOn) ∧
    (0 ≤ policy.sideLookOff ∧ policy.sideLookOff < policy.sideLookOn) ∧
    0 < policy.motionDurationMs ∧ 0 < policy.presenceDurationMs

instance (policy : RulePolicy) : Decidable policy.hysteresis :=
  inferInstanceAs (Decidable ((_ ∧ _) ∧ (_ ∧ _) ∧ _ ∧ _))

def RulePolicy.fromDocument (document : PolicyDocument) (research : Bool) : Except String RulePolicy := do
  let keys := document.map Prod.fst
  require (keys ⊆ RulePolicy.fields ∧ RulePolicy.fields ⊆ keys) "POLICY_SCHEMA_INVALID"
  require (!research ∨ document.lookup "status" = some (.str "FROZEN") ∧
    (document.lookup "selection_source" = some (.str "PILOT") ∨
      document.lookup "selection_source" = some (.str "CALIBRATION"))) "POLICY_NOT_FROZEN"
  let headDownOn ← document.threshold "head_down_on"
  let headDownOff ← document.threshold "head_down_off"
  let sideLookOn ← document.threshold "side_look_on"
  let sideLookOff ← document.threshold "side_look_off"
  let motionDurationMs ← document.duration "motion_duration_ms"
  let presenceDurationMs ← document.duration "presence_duration_ms"
  let releaseMs ← document.duration "release_ms"
  let mergeGapMs ← document.duration "merge_gap_ms"
  let cooldownMs ← document.duration "cooldown_ms"
  let policy : RulePolicy :=
    { policyVersion := "", status := "", selectionSource := "", headDownOn, headDownOff, sideLookOn, sideLookOff
      motionDurationMs, presenceDurationMs, releaseMs, mergeGapMs, cooldownMs }
  require policy.hysteresis "POLICY_HYSTERESIS_INVALID"
  let policyVersion ← document.version "policy_version"
  let status ← document.version "status"
  let selectionSource ← document.version "selection_source"
  return { policy with policyVersion, status, selectionSource }

variable {document : PolicyDocument}

theorem PolicyDocument.duration_bounds {field : String} {ms : Int}
    (h : document.duration field = .ok ms) : 0 ≤ ms ∧ ms ≤ 60000 := by
  unfold PolicyDocument.duration at h
  split at h
  · split at h
    · next hbounds =>
      cases h
      exact hbounds
    · cases h
  · cases h

theorem RulePolicy.fromDocument_cooldown {research : Bool} {policy : RulePolicy}
    (h : RulePolicy.fromDocument document research = .ok policy) : 0 ≤ policy.cooldownMs := by
  unfold RulePolicy.fromDocument at h
  simp only [bind_ok_iff] at h
  obtain ⟨-, -, -, -, headDownOn, -, headDownOff, -, sideLookOn, -, sideLookOff, -, motion, -, presence, -, release, -,
    mergeGap, -, cooldown, hcooldown, -, -, policyVersion, -, status, -, selectionSource, -, hpolicy⟩ := h
  cases hpolicy
  exact (PolicyDocument.duration_bounds hcooldown).1

/-! ## Events -/

/-- `RuleEvent.kind`. -/
inductive EventKind where
  | start
  | update
  | end_
  deriving DecidableEq, Repr

structure RuleEvent where
  logicalId : Nat
  kind : EventKind
  label : Label
  startMs : Int
  endMs : Int
  eligibleOnsetMs : Int
  deriving DecidableEq

inductive OperatorOutcome where
  | technicalInsufficient
  | reviewRequired
  | normal
  deriving DecidableEq, Repr

structure TemporalRuleEngine where
  policy : RulePolicy
  operatorOutcome : OperatorOutcome := .technicalInsufficient
  lastMs : Int := -1
  pending : Option Label := none
  pendingStart : Int := 0
  active : Option RuleEvent := none
  lastSupport : Int := 0
  lastEmission : Int := 0
  cooldownUntil : Int := 0

namespace TemporalRuleEngine

/-- `_event`, for the event that is active. -/
def event (active : RuleEvent) (kind : EventKind) (endMs : Int) : RuleEvent :=
  { active with kind, endMs := max (active.startMs + 1) endMs }

def close (engine : TemporalRuleEngine) (timestampMs : Int) : TemporalRuleEngine × List RuleEvent :=
  match engine.active with
  | none => (engine, [])
  | some active =>
    ({ engine with active := none, pending := none, cooldownUntil := timestampMs + engine.policy.cooldownMs },
      [event active .end_ engine.lastSupport])

/-- What a frame shows: the label that its pose count, the model or the scores speak for. -/
def observed (engine : TemporalRuleEngine) (poseCount : Nat) (downScore sideScore : Rat)
    (predictionLabel : Option Label) : Option Label :=
  let activeLabel := engine.active.map RuleEvent.label
  if poseCount = 0 then some .noPerson
  else if 1 < poseCount then some .multiplePeople
  else
    match predictionLabel with
    | some label => if label = .prolongedHeadDown ∨ label = .prolongedSideLook then some label else none
    | none =>
      let downLimit :=
        if activeLabel = some .prolongedHeadDown then engine.policy.headDownOff else engine.policy.headDownOn
      let sideLimit :=
        if activeLabel = some .prolongedSideLook then engine.policy.sideLookOff else engine.policy.sideLookOn
      if downLimit ≤ downScore then some .prolongedHeadDown
      else if sideLimit ≤ sideScore then some .prolongedSideLook
      else none

/-- The part of `advance` for an event that is active. -/
def advanceActive (engine : TemporalRuleEngine) (active : RuleEvent) (timestampMs : Int) (observed : Option Label) :
    TemporalRuleEngine × List RuleEvent :=
  let engine := { engine with operatorOutcome := .reviewRequired }
  if observed = some active.label then
    let engine := { engine with lastSupport := timestampMs + 1 }
    if 1000 ≤ timestampMs - engine.lastEmission then
      ({ engine with lastEmission := timestampMs }, [event active .update engine.lastSupport])
    else (engine, [])
  else if max engine.policy.releaseMs engine.policy.mergeGapMs < timestampMs - engine.lastSupport then
    engine.close timestampMs
  else (engine, [])

/-- The part of `advance` for no active event; `logicalId` is a fresh identifier. -/
def advanceIdle (engine : TemporalRuleEngine) (logicalId : Nat) (timestampMs : Int) (poseCount : Nat)
    (observed : Option Label) : TemporalRuleEngine × List RuleEvent :=
  let engine := { engine with operatorOutcome := .normal }
  match observed with
  | none => ({ engine with pending := none }, [])
  | some label =>
    if timestampMs < engine.cooldownUntil then ({ engine with pending := none }, [])
    else
      let engine := if engine.pending = some label then engine
        else { engine with pending := some label, pendingStart := timestampMs }
      let duration := if poseCount ≠ 1 then engine.policy.presenceDurationMs else engine.policy.motionDurationMs
      if timestampMs - engine.pendingStart < duration then (engine, [])
      else
        let active : RuleEvent :=
          { logicalId, kind := .start, label, startMs := engine.pendingStart, endMs := timestampMs + 1
            eligibleOnsetMs := engine.pendingStart + duration }
        ({ engine with
            active := some active
            lastSupport := timestampMs + 1
            lastEmission := timestampMs
            pending := none
            operatorOutcome := .reviewRequired }, [active])

/-- `advance`; none is the `TIMESTAMP_NOT_MONOTONIC` that it raises before it changes anything. -/
def advance (engine : TemporalRuleEngine) (logicalId : Nat) (timestampMs : Int) (poseCount : Nat)
    (downScore sideScore : Option Rat) (qualityOk : Bool) (predictionLabel : Option Label) :
    Option (TemporalRuleEngine × List RuleEvent) :=
  if timestampMs ≤ engine.lastMs ∨ timestampMs < 0 then none
  else
    let engine := { engine with lastMs := timestampMs }
    match qualityOk, downScore, sideScore with
    | true, some downScore, some sideScore =>
      let observed := engine.observed poseCount downScore sideScore predictionLabel
      match engine.active with
      | some active => some (engine.advanceActive active timestampMs observed)
      | none => some (engine.advanceIdle logicalId timestampMs poseCount observed)
    | _, _, _ =>
      some ({ engine with operatorOutcome := .technicalInsufficient, pending := none }.close timestampMs)

/-! ## The clock of an engine -/

theorem close_lastMs (engine : TemporalRuleEngine) (timestampMs : Int) :
    (engine.close timestampMs).1.lastMs = engine.lastMs := by
  unfold close
  split <;> rfl

theorem advanceActive_lastMs (engine : TemporalRuleEngine) (active : RuleEvent) (timestampMs : Int)
    (observed : Option Label) : (engine.advanceActive active timestampMs observed).1.lastMs = engine.lastMs := by
  unfold advanceActive
  split
  · simp only
    split <;> rfl
  · simp only
    split
    · rw [close_lastMs]
    · rfl

theorem advanceIdle_lastMs (engine : TemporalRuleEngine) (logicalId : Nat) (timestampMs : Int) (poseCount : Nat)
    (observed : Option Label) :
    (engine.advanceIdle logicalId timestampMs poseCount observed).1.lastMs = engine.lastMs := by
  unfold advanceIdle
  simp only
  split
  · rfl
  · split
    · rfl
    · split <;> split <;> split <;> rfl

variable {downScore sideScore : Option Rat} {engine : TemporalRuleEngine} {logicalId poseCount : Nat}
  {predictionLabel : Option Label} {qualityOk : Bool} {timestampMs : Int}

theorem advance_eq_none_iff :
    engine.advance logicalId timestampMs poseCount downScore sideScore qualityOk predictionLabel = none ↔
      timestampMs ≤ engine.lastMs ∨ timestampMs < 0 := by
  unfold advance
  by_cases h : timestampMs ≤ engine.lastMs ∨ timestampMs < 0
  · simp [h]
  · rw [if_neg h]
    simp only [h, iff_false]
    split
    · split <;> simp
    · simp

theorem advance_lastMs {after : TemporalRuleEngine} {events : List RuleEvent}
    (h : engine.advance logicalId timestampMs poseCount downScore sideScore qualityOk predictionLabel =
      some (after, events)) : after.lastMs = timestampMs := by
  unfold advance at h
  split at h
  · cases h
  · simp only at h
    split at h
    · split at h
      · obtain rfl := congrArg Prod.fst (Option.some.inj h)
        rw [advanceActive_lastMs]
      · obtain rfl := congrArg Prod.fst (Option.some.inj h)
        rw [advanceIdle_lastMs]
    · obtain rfl := congrArg Prod.fst (Option.some.inj h)
      rw [close_lastMs]

end TemporalRuleEngine

end PduExamObserver.Showcase
