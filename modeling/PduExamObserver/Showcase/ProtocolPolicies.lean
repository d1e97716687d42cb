import PduExamObserver.Library.Rounding
import PduExamObserver.Native.Values
import PduExamObserver.Showcase.TemporalRules

/-! # Policies of frozen protocols

`RulePolicy.from_protocol_freeze`: the policy that the runtime binds from a protocol document. Documents are Python
values; a float is the number that it stands for. -/

namespace PduExamObserver.Showcase
open Native Rounding
set_option autoImplicit false

/-- `float(n)`: 53 bits, ties to even; an integer that is too large has no float. -/
def floatOfInt (n : Int) : Option Int :=
  let unit : Int := 2 ^ (n.natAbs.log2 - 52)
  let rounded := roundHalfEven n unit * unit
  if rounded.natAbs < 2 ^ 1024 then some rounded else none

theorem floatOfInt_small {n : Int} (h : n.natAbs ≤ 60000) : floatOfInt n = some n := by
  have hlog : n.natAbs.log2 - 52 = 0 := by
    rcases Nat.eq_zero_or_pos n.natAbs with hzero | hpos
    · rw [hzero]
      rfl
    · have hlt : n.natAbs.log2 < 52 := (Nat.log2_lt hpos.ne').mpr (by omega)
      omega
  have hround : roundHalfEven n 1 = n := by
    have hnear := @roundHalfEven_near n 1 (by decide)
    omega
  unfold floatOfInt
  simp only [hlog, pow_zero, hround, mul_one]
  rw [if_pos (by omega)]

theorem floatOfInt_neg {n m : Int} (hn : n < 0) (h : floatOfInt n = some m) : m < 0 := by
  unfold floatOfInt at h
  simp only at h
  split at h
  · obtain rfl := Option.some.inj h
    have hunit : (0 : Int) < 2 ^ (n.natAbs.log2 - 52) := by positivity
    have hlarge : n ≤ -(2 ^ (n.natAbs.log2 - 52) : Int) := by
      have hpow : 2 ^ (n.natAbs.log2 - 52) ≤ n.natAbs :=
        (Nat.pow_le_pow_right (by decide) (Nat.sub_le _ _)).trans (Nat.log2_self_le (by omega))
      have habs : (n.natAbs : Int) = -n := by omega
      have hcast : ((2 ^ (n.natAbs.log2 - 52) : Nat) : Int) ≤ -n := habs ▸ Int.ofNat_le.mpr hpow
      rw [Nat.cast_pow, Nat.cast_ofNat] at hcast
      omega
    have hround : roundHalfEven n (2 ^ (n.natAbs.log2 - 52)) < 0 := by
      have hnear := (@roundHalfEven_near n _ hunit).2
      by_contra hnot
      have hmul := Int.mul_nonneg hunit.le (Int.not_lt.mp hnot)
      omega
    exact Int.mul_neg_of_neg_of_pos hround hunit
  · cases h

theorem floatOfInt_nonneg {n m : Int} (hn : 0 ≤ n) (h : floatOfInt n = some m) : 0 ≤ m := by
  unfold floatOfInt at h
  simp only at h
  split at h
  · obtain rfl := Option.some.inj h
    have hunit : (0 : Int) < 2 ^ (n.natAbs.log2 - 52) := by positivity
    have hround : 0 ≤ roundHalfEven n (2 ^ (n.natAbs.log2 - 52)) :=
      (Int.ediv_nonneg hn hunit.le).trans (roundHalfEven_floor _ _).1
    exact Int.mul_nonneg hround hunit.le
  · cases h

/-- `PROTOCOL_EVENT_POLICY_FIELDS`, the angles first. -/
def thresholdFields : List String :=
  ["head_down_start_degrees", "head_down_end_degrees", "side_look_start_degrees", "side_look_end_degrees"]

def durationFields : List String :=
  ["persistence_ms", "presence_persistence_ms", "release_ms", "cooldown_ms", "merge_gap_ms", "stride_ms"]

def eventPolicyFields : List String := thresholdFields ++ durationFields

def frozenThreshold (policy : Native.Dict) (field : String) : Except String Rat :=
  match policy.get field with
  | .int n =>
    match floatOfInt n with
    | some rounded => .ok rounded
    | none => .error "OverflowError"
  | .float (.finite q) => .ok q
  | _ => .error "PROTOCOL_POLICY_VALUE_INVALID"

def frozenDuration (policy : Native.Dict) (field : String) : Except String Int :=
  match policy.get field with
  | .int n => if 0 ≤ n ∧ n ≤ 60000 then .ok n else .error "PROTOCOL_POLICY_VALUE_INVALID"
  | _ => .error "PROTOCOL_POLICY_VALUE_INVALID"

def RulePolicy.toDocument (policy : RulePolicy) : PolicyDocument :=
  [("policy_version", .str policy.policyVersion), ("status", .str policy.status),
    ("selection_source", .str policy.selectionSource), ("head_down_on", .float policy.headDownOn),
    ("head_down_off", .float policy.headDownOff), ("side_look_on", .float policy.sideLookOn),
    ("side_look_off", .float policy.sideLookOff), ("motion_duration_ms", .int policy.motionDurationMs),
    ("presence_duration_ms", .int policy.presenceDurationMs), ("release_ms", .int policy.releaseMs),
    ("merge_gap_ms", .int policy.mergeGapMs), ("cooldown_ms", .int policy.cooldownMs)]

def RulePolicy.fromProtocolFreeze (document : Native.Dict) : Except String RulePolicy := do
  let version ← orError "PROTOCOL_POLICY_NOT_FROZEN" (document.get "protocol_version").str?
  let source ← orError "PROTOCOL_POLICY_NOT_FROZEN" (document.get "policy_selection_source").str?
  let policy ← orError "PROTOCOL_POLICY_NOT_FROZEN" (document.get "event_policy").dict?
  require ((document.get "status").str? = some "FROZEN" ∧ version ≠ "" ∧ (source = "PILOT" ∨ source = "CALIBRATION") ∧
    policy.HasKeys eventPolicyFields) "PROTOCOL_POLICY_NOT_FROZEN"
  let headDownOn ← frozenThreshold policy "head_down_start_degrees"
  let headDownOff ← frozenThreshold policy "head_down_end_degrees"
  let sideLookOn ← frozenThreshold policy "side_look_start_degrees"
  let sideLookOff ← frozenThreshold policy "side_look_end_degrees"
  let motionDurationMs ← frozenDuration policy "persistence_ms"
  let presenceDurationMs ← frozenDuration policy "presence_persistence_ms"
  let releaseMs ← frozenDuration policy "release_ms"
  let cooldownMs ← frozenDuration policy "cooldown_ms"
  let mergeGapMs ← frozenDuration policy "merge_gap_ms"
  let _ ← frozenDuration policy "stride_ms"
  let mapped : RulePolicy :=
    { policyVersion := version ++ "-policy", status := "FROZEN", selectionSource := source, headDownOn, headDownOff
      sideLookOn, sideLookOff, motionDurationMs, presenceDurationMs, releaseMs, mergeGapMs, cooldownMs }
  RulePolicy.fromDocument mapped.toDocument true

/-! ## What is accepted -/

variable {document policy : Native.Dict} {field : String} {mapped : RulePolicy}

theorem frozenDuration_ok_iff {ms : Int} :
    frozenDuration policy field = .ok ms ↔ policy.get field = .int ms ∧ 0 ≤ ms ∧ ms ≤ 60000 := by
  unfold frozenDuration
  split
  · next n hn =>
    rw [hn]
    split
    · next hbounds =>
      constructor
      · intro h
        obtain rfl := Except.ok.inj h
        exact ⟨rfl, hbounds⟩
      · rintro ⟨h, -⟩
        rw [Value.int.inj h]
    · next hbounds =>
      refine ⟨fun h => (nomatch h), fun ⟨h, hwithin⟩ => absurd hwithin ?_⟩
      rwa [← Value.int.inj h]
  · next hother =>
    exact ⟨fun h => (nomatch h), fun ⟨h, _⟩ => absurd h (hother ms)⟩

theorem fromDocument_toDocument_ok_iff {taken : RulePolicy} (hstatus : mapped.status = "FROZEN")
    (hsource : mapped.selectionSource = "PILOT" ∨ mapped.selectionSource = "CALIBRATION")
    (hversion : mapped.policyVersion ≠ "")
    (hdurations : ∀ ms ∈ [mapped.motionDurationMs, mapped.presenceDurationMs, mapped.releaseMs, mapped.mergeGapMs,
      mapped.cooldownMs], 0 ≤ ms ∧ ms ≤ 60000) :
    RulePolicy.fromDocument mapped.toDocument true = .ok taken ↔ mapped.hysteresis ∧ taken = mapped := by
  obtain ⟨version, status, source, downOn, downOff, sideOn, sideOff, motion, presence, release, merge, cooldown⟩ := mapped
  simp only [List.forall_mem_cons, List.not_mem_nil, false_implies, implies_true, and_true] at hdurations
  simp only at hstatus hsource hversion
  subst hstatus
  obtain ⟨hmotion, hpresence, hrelease, hmerge, hcooldown⟩ := hdurations
  have hnonempty : source ≠ "" := by rcases hsource with rfl | rfl <;> decide
  unfold RulePolicy.fromDocument RulePolicy.toDocument PolicyDocument.threshold PolicyDocument.duration
    PolicyDocument.version RulePolicy.fields
  simp only [bind_ok_iff, require_eq_ok]
  constructor
  · simp [List.lookup_cons, hmotion, hpresence, hrelease, hmerge, hcooldown, hversion, hnonempty, hsource]
    exact fun hhysteresis htaken => ⟨hhysteresis, (Except.ok.inj htaken).symm⟩
  · rintro ⟨hhysteresis, rfl⟩
    simp [List.lookup_cons, hmotion, hpresence, hrelease, hmerge, hcooldown, hversion, hnonempty, hsource]
    exact ⟨hhysteresis, rfl⟩

def degrees (policy : Native.Dict) (field : String) : Option Rat :=
  match policy.get field with
  | .int n => (floatOfInt n).map fun rounded : Int => (rounded : Rat)
  | .float (.finite q) => some q
  | _ => none

def millis (policy : Native.Dict) (field : String) : Option Int := (policy.get field).int?

structure Hysteresis (policy : Native.Dict) : Prop where
  headDown : ∃ off ∈ degrees policy "head_down_end_degrees", ∃ start ∈ degrees policy "head_down_start_degrees",
    0 ≤ off ∧ off < start
  sideLook : ∃ off ∈ degrees policy "side_look_end_degrees", ∃ start ∈ degrees policy "side_look_start_degrees",
    0 ≤ off ∧ off < start
  durations : ∀ field ∈ durationFields, ∃ ms ∈ millis policy field, 0 ≤ ms
  persistence : ∃ ms ∈ millis policy "persistence_ms", 0 < ms
  presence : ∃ ms ∈ millis policy "presence_persistence_ms", 0 < ms

def Bounded (policy : Native.Dict) : Prop := ∀ field ∈ durationFields, ∀ ms ∈ millis policy field, ms ≤ 60000

theorem frozenThreshold_ok_iff {q : Rat} : frozenThreshold policy field = .ok q ↔ degrees policy field = some q := by
  unfold frozenThreshold degrees
  split
  · next n hn =>
    cases floatOfInt n <;> simp
  · simp
  · simp

theorem millis_eq_some {ms : Int} : millis policy field = some ms ↔ policy.get field = .int ms := by
  unfold millis Value.int?
  split <;> simp_all

theorem fromProtocolFreeze_ok_iff : (∃ mapped, RulePolicy.fromProtocolFreeze document = .ok mapped) ↔
    ∃ version source, ∃ policy : Native.Dict, document.get "protocol_version" = .str version ∧
      document.get "policy_selection_source" = .str source ∧ document.get "event_policy" = .dict policy ∧
      (document.get "status" = .str "FROZEN" ∧ version ≠ "" ∧ (source = "PILOT" ∨ source = "CALIBRATION") ∧
        policy.HasKeys eventPolicyFields) ∧ Hysteresis policy ∧ Bounded policy := by
  have hstr {value : Value} {s : String} : value.str? = some s ↔ value = .str s := by
    unfold Value.str?
    split <;> simp_all
  have hdict {value : Value} {fields : Native.Dict} : value.dict? = some fields ↔ value = .dict fields := by
    unfold Value.dict?
    split <;> simp_all
  unfold RulePolicy.fromProtocolFreeze
  simp only [bind_ok_iff, require_eq_ok, orError_eq_ok, hstr, hdict, frozenThreshold_ok_iff, frozenDuration_ok_iff]
  constructor
  · rintro ⟨mapped, version, hversion, source, hsource, policy, hpolicy, ⟨⟩, hfrozen, downOn, hdownOn, downOff, hdownOff,
      sideOn, hsideOn, sideOff, hsideOff, motion, hmotion, presence, hpresence, release, hrelease, cooldown, hcooldown,
      merge, hmerge, stride, hstride, hmapped⟩
    have hnonempty : version ++ "-policy" ≠ "" := by
      intro hempty
      have hlength := congrArg String.length hempty
      simp at hlength
    obtain ⟨hhysteresis, -⟩ := (fromDocument_toDocument_ok_iff rfl hfrozen.2.2.1 hnonempty (by
      simp only [List.forall_mem_cons, List.not_mem_nil, false_implies, implies_true, and_true]
      exact ⟨hmotion.2, hpresence.2, hrelease.2, hmerge.2, hcooldown.2⟩)).mp hmapped
    refine ⟨version, source, policy, hversion, hsource, hpolicy, hfrozen, ?_, ?_⟩
    · obtain ⟨hdown, hside, hpositive, hpresencePositive⟩ := hhysteresis
      refine ⟨⟨downOff, hdownOff, downOn, hdownOn, hdown⟩, ⟨sideOff, hsideOff, sideOn, hsideOn, hside⟩, ?_,
        ⟨motion, millis_eq_some.mpr hmotion.1, hpositive⟩, ⟨presence, millis_eq_some.mpr hpresence.1, hpresencePositive⟩⟩
      simp only [durationFields, List.forall_mem_cons, List.not_mem_nil, false_implies, implies_true, and_true]
      exact ⟨⟨_, millis_eq_some.mpr hmotion.1, hmotion.2.1⟩, ⟨_, millis_eq_some.mpr hpresence.1, hpresence.2.1⟩,
        ⟨_, millis_eq_some.mpr hrelease.1, hrelease.2.1⟩, ⟨_, millis_eq_some.mpr hcooldown.1, hcooldown.2.1⟩,
        ⟨_, millis_eq_some.mpr hmerge.1, hmerge.2.1⟩, ⟨_, millis_eq_some.mpr hstride.1, hstride.2.1⟩⟩
    · simp only [Bounded, durationFields, List.forall_mem_cons, List.not_mem_nil, false_implies, implies_true, and_true,
        millis, hmotion.1, hpresence.1, hrelease.1, hcooldown.1, hmerge.1, hstride.1, Value.int?, Option.mem_some_iff,
        forall_eq']
      exact ⟨hmotion.2.2, hpresence.2.2, hrelease.2.2, hcooldown.2.2, hmerge.2.2, hstride.2.2⟩
  · rintro ⟨version, source, policy, hversion, hsource, hpolicy, hfrozen, h, hbounded⟩
    have hduration : ∀ field ∈ durationFields, ∃ ms, policy.get field = .int ms ∧ 0 ≤ ms ∧ ms ≤ 60000 := by
      intro field hfield
      obtain ⟨ms, hms, hlow⟩ := h.durations field hfield
      exact ⟨ms, millis_eq_some.mp hms, hlow, hbounded field hfield ms hms⟩
    obtain ⟨downOff, hdownOff, downOn, hdownOn, hdown⟩ := h.headDown
    obtain ⟨sideOff, hsideOff, sideOn, hsideOn, hside⟩ := h.sideLook
    obtain ⟨motion, hmotion⟩ := hduration "persistence_ms" (by decide)
    obtain ⟨presence, hpresence⟩ := hduration "presence_persistence_ms" (by decide)
    obtain ⟨release, hrelease⟩ := hduration "release_ms" (by decide)
    obtain ⟨cooldown, hcooldown⟩ := hduration "cooldown_ms" (by decide)
    obtain ⟨merge, hmerge⟩ := hduration "merge_gap_ms" (by decide)
    obtain ⟨stride, hstride⟩ := hduration "stride_ms" (by decide)
    have hpositive : 0 < motion ∧ 0 < presence := by
      obtain ⟨ms, hms, hmotionPositive⟩ := h.persistence
      obtain ⟨ms', hms', hpresencePositive⟩ := h.presence
      obtain rfl := Option.some.inj (hms.symm.trans (millis_eq_some.mpr hmotion.1))
      obtain rfl := Option.some.inj (hms'.symm.trans (millis_eq_some.mpr hpresence.1))
      exact ⟨hmotionPositive, hpresencePositive⟩
    have hnonempty : version ++ "-policy" ≠ "" := by
      intro hempty
      have hlength := congrArg String.length hempty
      simp at hlength
    refine ⟨_, version, hversion, source, hsource, policy, hpolicy, (), hfrozen, downOn, hdownOn, downOff, hdownOff,
      sideOn, hsideOn, sideOff, hsideOff, motion, hmotion, presence, hpresence, release, hrelease, cooldown, hcooldown,
      merge, hmerge, stride, hstride, (fromDocument_toDocument_ok_iff rfl hfrozen.2.2.1 hnonempty ?_).mpr
        ⟨⟨hdown, hside, hpositive⟩, rfl⟩⟩
    simp only [List.forall_mem_cons, List.not_mem_nil, false_implies, implies_true, and_true]
    exact ⟨hmotion.2, hpresence.2, hrelease.2, hmerge.2, hcooldown.2⟩

end PduExamObserver.Showcase
