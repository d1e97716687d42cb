import PduExamObserver.Showcase.ProtocolPolicies
import PduExamObserver.Training.RuntimeExports

/-! # Frozen protocols

The record that freezes a protocol before any fitting. The training package and the runtime check it with different
code: which documents the two take alike. -/

namespace PduExamObserver.Training
open Native ResearchRuntime Showcase
set_option autoImplicit false

structure DocumentHash where
  hexdigest : Native.Dict → String
  digest : ∀ document, Authority.isHexDigest (hexdigest document) = true

def unsigned (document : Native.Dict) : Native.Dict := document.filter fun entry => entry.1 ≠ "protocol_freeze_sha256"

mutual

def finite : Value → Bool
  | .float (.finite _) => true
  | .float _ => false
  | .list items => finiteItems items
  | .dict fields => finiteFields fields
  | _ => true

def finiteItems : List Value → Bool
  | [] => true
  | item :: items => finite item && finiteItems items

def finiteFields : Native.Dict → Bool
  | [] => true
  | (_, value) :: fields => finite value && finiteFields fields

end

def tiouThresholds : List Value := (List.range 10).map fun k => .float (.finite ((50 + 5 * k : Nat) / 100))

def pilotParticipants : List Value := [.str "P01", .str "P02"]

def confirmatoryParticipants : List Value :=
  [.str "P03", .str "P04", .str "P05", .str "P06", .str "P07", .str "P08", .str "P09", .str "P10", .str "P11", .str "P12"]

/-- The fields of the identity, the split and the threshold of the evaluation that only the training package reads. -/
structure OtherFields (document : Native.Dict) : Prop where
  schemaVersion : (document.get "schema_version").eq (.int 1) = true
  frozenBefore : (document.get "frozen_before_outer_test").bool? = some true
  pilot : (document.get "pilot_participants").eq (.list pilotParticipants) = true
  confirmatory : (document.get "confirmatory_participants").eq (.list confirmatoryParticipants) = true
  primaryTiou : ∃ threshold ∈ tiouThresholds, (document.get "primary_tiou").eq threshold = true

instance (document : Native.Dict) : Decidable (OtherFields document) :=
  decidable_of_iff ((document.get "schema_version").eq (.int 1) = true ∧
    (document.get "frozen_before_outer_test").bool? = some true ∧
    (document.get "pilot_participants").eq (.list pilotParticipants) = true ∧
    (document.get "confirmatory_participants").eq (.list confirmatoryParticipants) = true ∧
    ∃ threshold ∈ tiouThresholds, (document.get "primary_tiou").eq threshold = true)
    ⟨fun ⟨hschema, hbefore, hpilot, hconfirmatory, htiou⟩ => ⟨hschema, hbefore, hpilot, hconfirmatory, htiou⟩,
      fun h => ⟨h.schemaVersion, h.frozenBefore, h.pilot, h.confirmatory, h.primaryTiou⟩⟩

/-! ## The two validators -/

/-- `float(item)` of a number that is no bool. -/
def asFloat : Value → Except String PyFloat
  | .int n =>
    match floatOfInt n with
    | some rounded => .ok (.finite rounded)
    | none => .error "OverflowError"
  | .float x => .ok x
  | _ => .error "event policy field is invalid"

def endsWithMs (field : String) : Bool := "_ms".toList.isSuffixOf field.toList

def checkItem (entry : String × Value) : Except String Unit := do
  let x ← asFloat entry.2
  require (x.lt 0 = false) "event policy field is invalid"
  require (endsWithMs entry.1 = true → entry.2.int?.isSome = true) "event policy field must be integer milliseconds"

/-- `float(low) >= float(high)` does not hold; both numbers are finite. -/
def below (policy : Native.Dict) (low high : String) : Except String Bool := do
  match ← asFloat (policy.get low), ← asFloat (policy.get high) with
  | .finite a, .finite b => return decide (a < b)
  | _, _ => return false

/-- `int(policy[field]) > 0`. -/
def positive (policy : Native.Dict) (field : String) : Bool := decide (0 < ((policy.get field).int?).getD 0)

/-- `validate_protocol_freeze`, of a document that has been parsed. -/
def validateProtocolFreeze (hash : DocumentHash) (document : Native.Dict) : Except String Native.Dict := do
  require (finiteFields (unsigned document) = true) "Out of range float values are not JSON compliant"
  require ((document.get "protocol_freeze_sha256").str? = some (hash.hexdigest (unsigned document)))
    "protocol freeze self-hash mismatch"
  require (OtherFields document ∧ (document.get "status").str? = some "FROZEN" ∧
    ((document.get "policy_selection_source").str? = some "PILOT" ∨
      (document.get "policy_selection_source").str? = some "CALIBRATION"))
    "protocol freeze identity/split/tIoU contract is incomplete"
  let version ← orError "protocol version is invalid" (document.get "protocol_version").str?
  require (version ≠ "" ∧ version.length ≤ 128) "protocol version is invalid"
  let policy ← orError "frozen event policy is incomplete" (document.get "event_policy").dict?
  require (policy.HasKeys eventPolicyFields) "frozen event policy is incomplete"
  policy.forM checkItem
  let headDown ← below policy "head_down_end_degrees" "head_down_start_degrees"
  let sideLook ← below policy "side_look_end_degrees" "side_look_start_degrees"
  require (headDown = true ∧ sideLook = true ∧ positive policy "persistence_ms" = true ∧
    positive policy "presence_persistence_ms" = true ∧ positive policy "stride_ms" = true)
    "event policy hysteresis/duration is invalid"
  return document

def recordValue : Value → Option RecordValue
  | .none => none
  | .str s => some (.str s)
  | .list _ | .dict _ => some .unhashable
  | _ => some .other

def frozenRules (hash : DocumentHash) (document : Native.Dict) : FrozenRules where
  protocolFreezeSha256 := (document.lookup "protocol_freeze_sha256").map fun value => value.str?.getD ""
  unsignedSha256 := hash.hexdigest (unsigned document)
  protocolVersion := recordValue (document.get "protocol_version")
  policy := (RulePolicy.fromProtocolFreeze document).toOption

variable {hash : DocumentHash} {setup : Setup} {emit : EmitEnv} {row : Session} {record : AuthorityRecord}
  {document policy : Native.Dict} {mapped : RulePolicy}

/-- The runtime reads a document that the training package accepts with the same policy, and the training package
accepts a document that the runtime binds, if it has the other fields. -/
structure Agrees (hash : DocumentHash) (setup : Setup) (emit : EmitEnv) (row : Session) (document : Native.Dict) : Prop where
  served : validateProtocolFreeze hash document = .ok document → ∃ mapped,
    RulePolicy.fromProtocolFreeze document = .ok mapped ∧
      policyForSession setup { emit with frozenRules := some (frozenRules hash document) } row = .ok (some mapped)
  accepted : ∀ mapped,
    policyForSession setup { emit with frozenRules := some (frozenRules hash document) } row = .ok (some mapped) →
      OtherFields document → validateProtocolFreeze hash document = .ok document

structure Frozen (hash : DocumentHash) (document : Native.Dict) (version source : String) (policy : Native.Dict) : Prop where
  signed : document.get "protocol_freeze_sha256" = .str (hash.hexdigest (unsigned document))
  status : document.get "status" = .str "FROZEN"
  names : document.get "protocol_version" = .str version
  named : version ≠ ""
  selects : document.get "policy_selection_source" = .str source
  selected : source = "PILOT" ∨ source = "CALIBRATION"
  holds : document.get "event_policy" = .dict policy
  fields : policy.HasKeys eventPolicyFields
  hysteresis : Hysteresis policy

/-- What only the training package asks: a positive stride, durations that a float can hold, and finite numbers
everywhere. -/
structure Strict (document policy : Native.Dict) : Prop where
  stride : ∃ ms ∈ millis policy "stride_ms", 0 < ms
  durations : ∀ field ∈ durationFields, ∀ ms ∈ millis policy field, (floatOfInt ms).isSome = true
  finite : finiteFields (unsigned document) = true

/-! ## The runtime -/

theorem policyForSession_eq_some (hreal : row.sourceKind = .real)
    (hauthority : validateAuthority setup emit.authority (row.authorityReference.getD "None") false = .ok record)
    (hnamed : record "protocol_version" = recordValue (document.get "protocol_version")) :
    policyForSession setup { emit with frozenRules := some (frozenRules hash document) } row = .ok (some mapped) ↔
      document.get "protocol_freeze_sha256" = .str (hash.hexdigest (unsigned document)) ∧
        RulePolicy.fromProtocolFreeze document = .ok mapped := by
  have hpolicy : (RulePolicy.fromProtocolFreeze document).toOption = some mapped ↔
      RulePolicy.fromProtocolFreeze document = .ok mapped := by
    cases RulePolicy.fromProtocolFreeze document <;> simp [Except.toOption]
  unfold policyForSession frozenRules
  rw [if_neg (by simp [hreal])]
  cases hdigest : document.lookup "protocol_freeze_sha256" with
  | none => simp [Native.Dict.get, hdigest]
  | some value =>
    have hget : document.get "protocol_freeze_sha256" = value := by rw [Native.Dict.get, hdigest, Option.getD_some]
    simp only [Option.map_some, hauthority, hnamed, hget, ne_eq, not_true_eq_false, or_false]
    by_cases hsame : hash.hexdigest (unsigned document) = value.str?.getD ""
    · have hstr : value = .str (hash.hexdigest (unsigned document)) := by
        cases value with
        | str s => rw [hsame, Value.str?, Option.getD_some]
        | _ =>
          -- a digest that is no string is not equal to one
          have hdigest := hash.digest (unsigned document)
          rw [hsame] at hdigest
          cases hdigest
      rw [if_neg (not_not.mpr hsame), ← hpolicy]
      exact ⟨fun h => ⟨hstr, Except.ok.inj h⟩, fun h => congrArg Except.ok h.2⟩
    · rw [if_pos hsame]
      refine ⟨fun h => (nomatch h), fun ⟨h, _⟩ => absurd ?_ hsame⟩
      rw [h, Value.str?, Option.getD_some]

theorem version_of_binds {now : Rat} {reference : String} {withdrawal : Bool}
    (h : authorityBinds setup record now reference withdrawal = .ok true) :
    isReference (record "protocol_version") = true := by
  unfold authorityBinds at h
  split at h
  · cases h
  · obtain ⟨status, -, h⟩ := bind_ok_iff.mp h
    dsimp only at h
    split at h
    · cases h
    · obtain ⟨consent, -, h⟩ := bind_ok_iff.mp h
      split at h
      · cases h
      · obtain ⟨expiry, -, h⟩ := bind_ok_iff.mp h
        split at h
        · cases h
        · next hchecks =>
          simp only [List.all_cons, List.all_nil, Bool.and_true, Bool.not_eq_true', not_or, Bool.not_eq_false,
            Bool.and_eq_true] at hchecks
          exact hchecks.2.2.1

theorem version_of_authority {answer : AuthorityAnswer} {reference : String} {withdrawal : Bool}
    (h : validateAuthority setup answer reference withdrawal = .ok record) :
    ∃ version, record "protocol_version" = some (.str version) ∧ version ≠ "" ∧ version.length ≤ 128 := by
  unfold validateAuthority at h
  obtain ⟨answered, -, h⟩ := bind_ok_iff.mp h
  cases answered with
  | none => cases h
  | some checked =>
    obtain ⟨binds, hbinds, h⟩ := bind_ok_iff.mp h
    cases binds with
    | false => cases h
    | true =>
      obtain rfl := Except.ok.inj h
      have hreference := version_of_binds hbinds
      unfold isReference at hreference
      split at hreference
      · next version hversion =>
        simp only [Bool.and_eq_true, decide_eq_true_eq] at hreference
        refine ⟨version, hversion, ?_, hreference.1.2⟩
        rintro rfl
        exact absurd hreference.1.1 (by decide)
      · cases hreference

/-! ## The training package -/

variable {d : Native.Dict} {key field : String} {value : Value}

theorem finite_lookup (h : finiteFields d = true)
    (hlookup : d.lookup key = some value) : finite value = true := by
  induction d with
  | nil => cases hlookup
  | cons entry rest ih =>
    obtain ⟨key', value'⟩ := entry
    rw [finiteFields, Bool.and_eq_true] at h
    rw [List.lookup_cons] at hlookup
    split at hlookup
    · obtain rfl := Option.some.inj hlookup
      exact h.1
    · exact ih h.2 hlookup

theorem finite_get (h : finiteFields d = true) (key : String) : finite (d.get key) = true := by
  unfold Native.Dict.get
  cases hlookup : d.lookup key with
  | none => rfl
  | some value => exact finite_lookup h hlookup

theorem get_unsigned (hkey : key ≠ "protocol_freeze_sha256") :
    (unsigned document).get key = document.get key := by
  have hlookup : (unsigned document).lookup key = document.lookup key := by
    unfold unsigned
    induction document with
    | nil => rfl
    | cons entry rest ih =>
      obtain ⟨key', value⟩ := entry
      by_cases hsigned : key' = "protocol_freeze_sha256"
      · rw [List.filter_cons_of_neg (by simpa using hsigned), ih, List.lookup_cons,
          beq_false_of_ne fun heq => hkey (heq.trans hsigned)]
      · rw [List.filter_cons_of_pos (by simpa using hsigned), List.lookup_cons, List.lookup_cons, ih]
  rw [Native.Dict.get, hlookup, Native.Dict.get]

theorem str?_eq_some {s : String} : value.str? = some s ↔ value = .str s := by
  unfold Value.str?
  split <;> simp_all

theorem dict?_eq_some {fields : Native.Dict} : value.dict? = some fields ↔ value = .dict fields := by
  unfold Value.dict?
  split <;> simp_all

theorem asFloat_ok_iff {x : PyFloat} (hfinite : finite (policy.get field) = true) :
    asFloat (policy.get field) = .ok x ↔ ∃ q, degrees policy field = some q ∧ x = .finite q := by
  unfold asFloat degrees
  cases hvalue : policy.get field with
  | int n =>
    simp only
    cases floatOfInt n with
    | none => simp
    | some rounded => simp [eq_comm]
  | float y =>
    rw [hvalue] at hfinite
    cases y with
    | finite q => simp [eq_comm]
    | infinity negative => cases hfinite
    | nan => cases hfinite
  | _ => simp

theorem checkItem_ok_iff (hfinite : finite (policy.get field) = true) :
    checkItem (field, policy.get field) = .ok () ↔ ∃ q ∈ degrees policy field, 0 ≤ q ∧
      (endsWithMs field = true → (millis policy field).isSome = true) := by
  unfold checkItem
  simp only [bind_ok_iff, require_eq_ok, asFloat_ok_iff hfinite]
  constructor
  · rintro ⟨x, ⟨q, hq, rfl⟩, ⟨⟩, hsign, hint⟩
    exact ⟨q, hq, by simpa [PyFloat.lt] using hsign, hint⟩
  · rintro ⟨q, hq, hsign, hint⟩
    exact ⟨_, ⟨q, hq, rfl⟩, (), by simpa [PyFloat.lt] using hsign, hint⟩

theorem forM_checkItem_iff (hfields : policy.HasKeys eventPolicyFields) (hdistinct : (policy.map Prod.fst).Nodup)
    (hfinite : finiteFields policy = true) :
    policy.forM checkItem = .ok () ↔ ∀ field ∈ eventPolicyFields, ∃ q ∈ degrees policy field, 0 ≤ q ∧
      (endsWithMs field = true → (millis policy field).isSome = true) := by
  have hget : ∀ entry ∈ policy, policy.get entry.1 = entry.2 := by
    intro entry hmem
    rw [Native.Dict.get, (Canonical.lookup_eq_some hdistinct).mpr hmem, Option.getD_some]
  rw [forM_ok_iff]
  constructor
  · intro h field hfield
    obtain ⟨entry, hentry, rfl⟩ := List.mem_map.mp (hfields.2 field hfield)
    refine (checkItem_ok_iff (finite_get hfinite entry.1)).mp ?_
    rw [hget entry hentry]
    exact h entry hentry
  · intro h entry hentry
    have hok := (checkItem_ok_iff (finite_get hfinite entry.1)).mpr (h entry.1 (hfields.1 entry hentry))
    rwa [hget entry hentry] at hok

theorem below_ok_iff {low high : String} (hfinite : finiteFields policy = true) {b : Bool} :
    below policy low high = .ok b ↔ ∃ p ∈ degrees policy low, ∃ q ∈ degrees policy high, b = decide (p < q) := by
  unfold below
  simp only [bind_ok_iff, asFloat_ok_iff (finite_get hfinite low), asFloat_ok_iff (finite_get hfinite high)]
  constructor
  · rintro ⟨x, ⟨p, hp, rfl⟩, y, ⟨q, hq, rfl⟩, h⟩
    exact ⟨p, hp, q, hq, (Except.ok.inj h).symm⟩
  · rintro ⟨p, hp, q, hq, rfl⟩
    exact ⟨_, ⟨p, hp, rfl⟩, _, ⟨q, hq, rfl⟩, rfl⟩

theorem positive_iff : positive policy field = true ↔ ∃ ms ∈ millis policy field, 0 < ms := by
  unfold positive
  rw [decide_eq_true_eq]
  change 0 < (millis policy field).getD 0 ↔ _
  cases millis policy field <;> simp

theorem degrees_of_millis {ms : Int} (hms : ms ∈ millis policy field) {q : Rat}
    (hq : q ∈ degrees policy field) (hsign : 0 ≤ q) : 0 ≤ ms ∧ (floatOfInt ms).isSome = true := by
  have hvalue := millis_eq_some.mp hms
  unfold degrees at hq
  rw [hvalue] at hq
  simp only [Option.mem_def, Option.map_eq_some_iff] at hq
  obtain ⟨rounded, hrounded, rfl⟩ := hq
  refine ⟨?_, by rw [hrounded]; rfl⟩
  by_contra hnot
  have hneg := floatOfInt_neg (Int.not_le.mp hnot) hrounded
  have hcast : (0 : Int) ≤ rounded := by exact_mod_cast hsign
  omega

theorem validateProtocolFreeze_ok_iff
    (hdistinct : ∀ policy : Native.Dict, document.get "event_policy" = .dict policy → (policy.map Prod.fst).Nodup) :
    validateProtocolFreeze hash document = .ok document ↔ OtherFields document ∧ ∃ version source policy,
      Frozen hash document version source policy ∧ version.length ≤ 128 ∧ Strict document policy := by
  unfold validateProtocolFreeze
  simp only [bind_ok_iff, require_eq_ok, orError_eq_ok, str?_eq_some, dict?_eq_some]
  have hfinitePolicy (hfinite : finiteFields (unsigned document) = true) {policy : Native.Dict}
      (hpolicy : document.get "event_policy" = .dict policy) : finiteFields policy = true := by
    have h := finite_get hfinite "event_policy"
    rwa [get_unsigned (by decide), hpolicy, finite] at h
  have hkinds : (∀ field ∈ durationFields, endsWithMs field = true) ∧
      ∀ field ∈ thresholdFields, endsWithMs field = false := by decide +kernel
  constructor
  · rintro ⟨⟨⟩, hfinite, ⟨⟩, hsigned, ⟨⟩, ⟨hothers, hstatus, hselected⟩, version, hversion, ⟨⟩, hlength, policy, hpolicy,
      ⟨⟩, hfields, ⟨⟩, hitems, headDown, hheadDown, sideLook, hsideLook, ⟨⟩, hhysteresis, -⟩
    have hfinitePolicy := hfinitePolicy hfinite hpolicy
    rw [forM_checkItem_iff hfields (hdistinct policy hpolicy) hfinitePolicy] at hitems
    rw [below_ok_iff hfinitePolicy] at hheadDown hsideLook
    obtain ⟨rfl, rfl, hpersistence, hpresence, hstride⟩ := hhysteresis
    obtain ⟨downOff, hdownOff, downOn, hdownOn, hdown⟩ := hheadDown
    obtain ⟨sideOff, hsideOff, sideOn, hsideOn, hside⟩ := hsideLook
    have hangle : ∀ field ∈ thresholdFields, ∀ q ∈ degrees policy field, 0 ≤ q := by
      intro field hfield q hq
      obtain ⟨q', hq', hsign, -⟩ := hitems field (List.mem_append_left _ hfield)
      obtain rfl := Option.some.inj (hq.symm.trans hq')
      exact hsign
    have hduration : ∀ field ∈ durationFields, ∃ ms ∈ millis policy field, 0 ≤ ms ∧ (floatOfInt ms).isSome = true := by
      intro field hfield
      obtain ⟨q, hq, hsign, hint⟩ := hitems field (List.mem_append_right _ hfield)
      obtain ⟨ms, hms⟩ := Option.isSome_iff_exists.mp (hint (hkinds.1 field hfield))
      exact ⟨ms, hms, degrees_of_millis hms hq hsign⟩
    obtain ⟨source, hsource, hselects⟩ : ∃ source, document.get "policy_selection_source" = .str source ∧
        (source = "PILOT" ∨ source = "CALIBRATION") := by
      rcases hselected with hselects | hselects
      · exact ⟨_, hselects, .inl rfl⟩
      · exact ⟨_, hselects, .inr rfl⟩
    refine ⟨hothers, version, source, policy, ⟨hsigned, hstatus, hversion, hlength.1, hsource, hselects, hpolicy, hfields,
      ?_⟩, hlength.2, positive_iff.mp hstride, ?_, hfinite⟩
    · refine ⟨⟨downOff, hdownOff, downOn, hdownOn, hangle _ (by decide) downOff hdownOff, of_decide_eq_true hdown.symm⟩,
        ⟨sideOff, hsideOff, sideOn, hsideOn, hangle _ (by decide) sideOff hsideOff, of_decide_eq_true hside.symm⟩, ?_,
        positive_iff.mp hpersistence, positive_iff.mp hpresence⟩
      intro field hfield
      obtain ⟨ms, hms, hsign, -⟩ := hduration field hfield
      exact ⟨ms, hms, hsign⟩
    · intro field hfield ms hms
      obtain ⟨ms', hms', -, hfloat⟩ := hduration field hfield
      obtain rfl := Option.some.inj (hms.symm.trans hms')
      exact hfloat
  · rintro ⟨hothers, version, source, policy, hfrozen, hlength, hstrict⟩
    have hfinitePolicy := hfinitePolicy hstrict.finite hfrozen.holds
    obtain ⟨downOff, hdownOff, downOn, hdownOn, hdownSign, hdown⟩ := hfrozen.hysteresis.headDown
    obtain ⟨sideOff, hsideOff, sideOn, hsideOn, hsideSign, hside⟩ := hfrozen.hysteresis.sideLook
    have hduration : ∀ field ∈ durationFields, ∃ q ∈ degrees policy field, 0 ≤ q ∧
        (endsWithMs field = true → (millis policy field).isSome = true) := by
      intro field hfield
      obtain ⟨ms, hms, hsign⟩ := hfrozen.hysteresis.durations field hfield
      obtain ⟨rounded, hrounded⟩ := Option.isSome_iff_exists.mp (hstrict.durations field hfield ms hms)
      refine ⟨rounded, ?_, ?_, fun _ => Option.isSome_iff_exists.mpr ⟨ms, hms⟩⟩
      · rw [degrees, millis_eq_some.mp hms]
        simp only [hrounded, Option.map_some, Option.mem_def]
      · exact_mod_cast floatOfInt_nonneg hsign hrounded
    have hitems : ∀ field ∈ eventPolicyFields, ∃ q ∈ degrees policy field, 0 ≤ q ∧
        (endsWithMs field = true → (millis policy field).isSome = true) := by
      intro field hfield
      rcases List.mem_append.mp hfield with hthreshold | hfield
      · have hkind := hkinds.2 field hthreshold
        simp only [hkind, Bool.false_eq_true, false_implies, and_true]
        simp only [thresholdFields, List.mem_cons, List.not_mem_nil, or_false] at hthreshold
        rcases hthreshold with rfl | rfl | rfl | rfl
        · exact ⟨downOn, hdownOn, (hdownSign.trans_lt hdown).le⟩
        · exact ⟨downOff, hdownOff, hdownSign⟩
        · exact ⟨sideOn, hsideOn, (hsideSign.trans_lt hside).le⟩
        · exact ⟨sideOff, hsideOff, hsideSign⟩
      · exact hduration field hfield
    refine ⟨(), hstrict.finite, (), hfrozen.signed, (), ⟨hothers, hfrozen.status, ?_⟩, version, hfrozen.names, (),
      ⟨hfrozen.named, hlength⟩, policy, hfrozen.holds, (), hfrozen.fields, (),
      (forM_checkItem_iff hfrozen.fields (hdistinct policy hfrozen.holds) hfinitePolicy).mpr hitems, true,
      (below_ok_iff hfinitePolicy).mpr ⟨downOff, hdownOff, downOn, hdownOn, (decide_eq_true hdown).symm⟩, true,
      (below_ok_iff hfinitePolicy).mpr ⟨sideOff, hsideOff, sideOn, hsideOn, (decide_eq_true hside).symm⟩, (),
      ⟨rfl, rfl, positive_iff.mpr hfrozen.hysteresis.persistence, positive_iff.mpr hfrozen.hysteresis.presence,
        positive_iff.mpr hstrict.stride⟩, rfl⟩
    rcases hfrozen.selected with rfl | rfl
    · exact .inl hfrozen.selects
    · exact .inr hfrozen.selects

/-! ## The two verdicts -/

/-- Of a document that both validators find in order but for a few numbers, both say the same exactly if no duration is
longer than a minute just when the stride is positive and all numbers are finite. -/
theorem verdicts_agree (hash : DocumentHash) (setup : Setup) (emit : EmitEnv) (row : Session)
    (record : AuthorityRecord) (document : Native.Dict) (hreal : row.sourceKind = .real)
    (hauthority : validateAuthority setup emit.authority (row.authorityReference.getD "None") false = .ok record)
    (hnamed : record "protocol_version" = recordValue (document.get "protocol_version"))
    (hdistinct : ∀ policy : Native.Dict, document.get "event_policy" = .dict policy → (policy.map Prod.fst).Nodup) :
    Agrees hash setup emit row document ↔ ∀ version source policy, OtherFields document →
      Frozen hash document version source policy → (Strict document policy ↔ Bounded policy) := by
  obtain ⟨authorised, hauthorised, hnonempty, hlength⟩ := version_of_authority hauthority
  have hversion : document.get "protocol_version" = .str authorised := by
    rw [hauthorised] at hnamed
    unfold recordValue at hnamed
    split at hnamed
    · cases hnamed
    · next s hs =>
      rw [hs, (RecordValue.str.inj (Option.some.inj hnamed))]
    all_goals cases hnamed
  have hvalidates := @validateProtocolFreeze_ok_iff hash document hdistinct
  have hserves {mapped : RulePolicy} : policyForSession setup { emit with frozenRules := some (frozenRules hash document) } row =
      .ok (some mapped) ↔ document.get "protocol_freeze_sha256" = .str (hash.hexdigest (unsigned document)) ∧
        RulePolicy.fromProtocolFreeze document = .ok mapped := policyForSession_eq_some hreal hauthority hnamed
  -- what the runtime maps is what both validators ask for, within a minute
  have hmaps {version source : String} {policy : Native.Dict} (hfrozen : Frozen hash document version source policy) :
      (∃ mapped, RulePolicy.fromProtocolFreeze document = .ok mapped) ↔ Bounded policy := by
    rw [fromProtocolFreeze_ok_iff]
    constructor
    · rintro ⟨-, -, other, -, -, hholds, -, -, hbounded⟩
      obtain rfl := Value.dict.inj (hholds.symm.trans hfrozen.holds)
      exact hbounded
    · intro hbounded
      exact ⟨version, source, policy, hfrozen.names, hfrozen.selects, hfrozen.holds,
        ⟨hfrozen.status, hfrozen.named, hfrozen.selected, hfrozen.fields⟩, hfrozen.hysteresis, hbounded⟩
  constructor
  · intro h version source policy hothers hfrozen
    constructor
    · intro hstrict
      obtain rfl : version = authorised := Value.str.inj (hfrozen.names.symm.trans hversion)
      obtain ⟨mapped, hmapped, -⟩ := h.served (hvalidates.mpr ⟨hothers, version, source, policy, hfrozen, hlength, hstrict⟩)
      exact (hmaps hfrozen).mp ⟨mapped, hmapped⟩
    · intro hbounded
      obtain ⟨mapped, hmapped⟩ := (hmaps hfrozen).mpr hbounded
      have haccepted := h.accepted mapped (hserves.mpr ⟨hfrozen.signed, hmapped⟩) hothers
      obtain ⟨-, _, _, other, hother, -, hstrict⟩ := hvalidates.mp haccepted
      obtain rfl := Value.dict.inj (hother.holds.symm.trans hfrozen.holds)
      exact hstrict
  · intro h
    constructor
    · intro haccepted
      obtain ⟨hothers, version, source, policy, hfrozen, -, hstrict⟩ := hvalidates.mp haccepted
      obtain ⟨mapped, hmapped⟩ := (hmaps hfrozen).mpr ((h version source policy hothers hfrozen).mp hstrict)
      exact ⟨mapped, hmapped, hserves.mpr ⟨hfrozen.signed, hmapped⟩⟩
    · intro mapped hbound hothers
      obtain ⟨hsigned, hmapped⟩ := hserves.mp hbound
      obtain ⟨version, source, policy, hnames, hselects, hholds, ⟨hstatus, hnamed', hselected, hfields⟩, hhysteresis,
        hbounded⟩ := fromProtocolFreeze_ok_iff.mp ⟨mapped, hmapped⟩
      have hfrozen : Frozen hash document version source policy :=
        ⟨hsigned, hstatus, hnames, hnamed', hselects, hselected, hholds, hfields, hhysteresis⟩
      obtain rfl : version = authorised := Value.str.inj (hnames.symm.trans hversion)
      exact hvalidates.mpr ⟨hothers, version, source, policy, hfrozen, hlength,
        (h version source policy hothers hfrozen).mpr hbounded⟩

namespace Sample

def protocolBody (cooldownMs : Int) : Native.Dict :=
  [("schema_version", .int 1), ("status", .str "FROZEN"), ("frozen_before_outer_test", .bool true),
    ("pilot_participants", .list pilotParticipants), ("confirmatory_participants", .list confirmatoryParticipants),
    ("primary_tiou", .float (.finite (1 / 2))), ("policy_selection_source", .str "PILOT"),
    ("protocol_version", .str "V"),
    ("event_policy", .dict [("head_down_start_degrees", .int 15), ("head_down_end_degrees", .int 8),
      ("side_look_start_degrees", .int 25), ("side_look_end_degrees", .int 15), ("persistence_ms", .int 2000),
      ("presence_persistence_ms", .int 1500), ("release_ms", .int 400), ("cooldown_ms", .int cooldownMs),
      ("merge_gap_ms", .int 700), ("stride_ms", .int 500)])]

def documentHash : DocumentHash := ⟨fun _ => ResearchRuntime.Sample.digest, fun _ => by decide +kernel⟩

def ruled : EmitEnv := (ResearchRuntime.Sample.frame 0).emit

def protocol (cooldownMs : Int) : Native.Dict :=
  ("protocol_freeze_sha256", .str ResearchRuntime.Sample.digest) :: protocolBody cooldownMs

theorem authority_ok : validateAuthority ResearchRuntime.Sample.setup ruled.authority
    (session.authorityReference.getD "None") false = .ok ResearchRuntime.Sample.record := by
  have hbinds : authorityBinds ResearchRuntime.Sample.setup ResearchRuntime.Sample.record 1 "A" false = .ok true := by
    decide +kernel
  have hchecks : validateAuthority ResearchRuntime.Sample.setup ruled.authority
      (session.authorityReference.getD "None") false =
      (authorityBinds ResearchRuntime.Sample.setup ResearchRuntime.Sample.record 1 "A" false).bind fun binds =>
        if binds then .ok ResearchRuntime.Sample.record
        else .error (.authorityDenied "native collection authority is incomplete or does not bind this root") := rfl
  rw [hchecks, hbinds]
  rfl

theorem policy_distinct (cooldownMs : Int) (policy : Native.Dict)
    (h : (protocol cooldownMs).get "event_policy" = .dict policy) : (policy.map Prod.fst).Nodup := by
  obtain rfl := Value.dict.inj h
  simp only [List.map_cons, List.map_nil]
  decide

theorem protocol_frozen {cooldownMs : Int} (h : 0 ≤ cooldownMs) : ∃ policy,
    OtherFields (protocol cooldownMs) ∧ Frozen documentHash (protocol cooldownMs) "V" "PILOT" policy ∧
      (Bounded policy ↔ cooldownMs ≤ 60000) ∧
      (Strict (protocol cooldownMs) policy ↔ (floatOfInt cooldownMs).isSome = true) := by
  have hmillis : ∀ field ∈ durationFields, ∀ policy : Native.Dict, (protocol cooldownMs).get "event_policy" = .dict policy →
      field = "cooldown_ms" ∧ millis policy field = some cooldownMs ∨
        ∃ ms : Int, millis policy field = some ms ∧ 0 < ms ∧ ms ≤ 60000 := by
    intro field hfield policy hpolicy
    obtain rfl := Value.dict.inj hpolicy
    simp only [durationFields, List.mem_cons, List.not_mem_nil, or_false] at hfield
    rcases hfield with rfl | rfl | rfl | rfl | rfl | rfl
    · exact .inr ⟨2000, rfl, by decide⟩
    · exact .inr ⟨1500, rfl, by decide⟩
    · exact .inr ⟨400, rfl, by decide⟩
    · exact .inl ⟨rfl, rfl⟩
    · exact .inr ⟨700, rfl, by decide⟩
    · exact .inr ⟨500, rfl, by decide⟩
  obtain ⟨policy, hpolicy⟩ : ∃ policy : Native.Dict, (protocol cooldownMs).get "event_policy" = .dict policy := ⟨_, rfl⟩
  have hothers : OtherFields (protocol cooldownMs) := by
    have hschema : (Value.int 1).eq (.int 1) = true := by decide +kernel
    have hpilot : (Value.list pilotParticipants).eq (.list pilotParticipants) = true := by decide +kernel
    have hconfirmatory : (Value.list confirmatoryParticipants).eq (.list confirmatoryParticipants) = true := by
      decide +kernel
    have htiou : ∃ threshold ∈ tiouThresholds, (Value.float (.finite (1 / 2))).eq threshold = true := by decide +kernel
    exact ⟨hschema, rfl, hpilot, hconfirmatory, htiou⟩
  have hangles : degrees policy "head_down_start_degrees" = some 15 ∧ degrees policy "head_down_end_degrees" = some 8 ∧
      degrees policy "side_look_start_degrees" = some 25 ∧ degrees policy "side_look_end_degrees" = some 15 := by
    have hfloat {n : Int} (hsmall : n.natAbs ≤ 60000) {field : String} (hfield : policy.get field = .int n) :
        degrees policy field = some (n : Rat) := by
      rw [degrees, hfield]
      simp only [floatOfInt_small hsmall, Option.map_some]
    obtain rfl := Value.dict.inj hpolicy
    exact ⟨hfloat (by decide) rfl, hfloat (by decide) rfl, hfloat (by decide) rfl, hfloat (by decide) rfl⟩
  refine ⟨policy, hothers, ⟨rfl, rfl, rfl, by decide, rfl, .inl rfl, hpolicy, ?_, ?_⟩, ?_, ?_⟩
  · obtain rfl := Value.dict.inj hpolicy
    simp [Native.Dict.HasKeys, eventPolicyFields, thresholdFields, durationFields]
  · refine ⟨⟨8, hangles.2.1, 15, hangles.1, by norm_num⟩, ⟨15, hangles.2.2.2, 25, hangles.2.2.1, by norm_num⟩, ?_, ?_, ?_⟩
    · intro field hfield
      rcases hmillis field hfield policy hpolicy with ⟨-, hms⟩ | ⟨ms, hms, hpositive, -⟩
      · exact ⟨cooldownMs, hms, h⟩
      · exact ⟨ms, hms, hpositive.le⟩
    · obtain rfl := Value.dict.inj hpolicy
      exact ⟨2000, rfl, by decide⟩
    · obtain rfl := Value.dict.inj hpolicy
      exact ⟨1500, rfl, by decide⟩
  · constructor
    · intro hbounded
      obtain rfl := Value.dict.inj hpolicy
      exact hbounded "cooldown_ms" (by decide) cooldownMs rfl
    · intro hle field hfield ms hms
      rcases hmillis field hfield policy hpolicy with ⟨-, hms'⟩ | ⟨ms', hms', -, hle'⟩
      · obtain rfl := Option.some.inj (hms.symm.trans hms')
        exact hle
      · obtain rfl := Option.some.inj (hms.symm.trans hms')
        exact hle'
  · constructor
    · intro hstrict
      obtain rfl := Value.dict.inj hpolicy
      exact hstrict.durations "cooldown_ms" (by decide) cooldownMs rfl
    · intro hfloat
      refine ⟨?_, fun field hfield ms hms => ?_, rfl⟩
      · obtain rfl := Value.dict.inj hpolicy
        exact ⟨500, rfl, by decide⟩
      · rcases hmillis field hfield policy hpolicy with ⟨-, hms'⟩ | ⟨ms', hms', hpositive, hle'⟩
        · obtain rfl := Option.some.inj (hms.symm.trans hms')
          exact hfloat
        · obtain rfl := Option.some.inj (hms.symm.trans hms')
          rw [floatOfInt_small (by omega)]
          rfl

end Sample

/-- A protocol that waits for a second after an event. -/
theorem verdicts_agree_second : Agrees Sample.documentHash ResearchRuntime.Sample.setup Sample.ruled Sample.session
    (Sample.protocol 1000) := by
  refine (verdicts_agree Sample.documentHash ResearchRuntime.Sample.setup Sample.ruled Sample.session
    ResearchRuntime.Sample.record (Sample.protocol 1000) rfl Sample.authority_ok rfl (Sample.policy_distinct 1000)).mpr ?_
  intro version source policy hothers hfrozen
  obtain ⟨other, -, hother, hbounded, hstrict⟩ := @Sample.protocol_frozen 1000 (by decide)
  obtain rfl := Value.dict.inj (hfrozen.holds.symm.trans hother.holds)
  rw [hbounded, hstrict, floatOfInt_small (by decide)]
  decide

/-- A protocol that waits for more than a minute: the training package accepts it, and the runtime binds no policy. -/
theorem verdicts_differ_minute :
    validateProtocolFreeze Sample.documentHash (Sample.protocol 60001) = .ok (Sample.protocol 60001) ∧
      ¬ Agrees Sample.documentHash ResearchRuntime.Sample.setup Sample.ruled Sample.session (Sample.protocol 60001) := by
  obtain ⟨policy, hothers, hfrozen, hbounded, hstrict⟩ := @Sample.protocol_frozen 60001 (by decide)
  have haccepted : validateProtocolFreeze Sample.documentHash (Sample.protocol 60001) = .ok (Sample.protocol 60001) :=
    (validateProtocolFreeze_ok_iff (Sample.policy_distinct 60001)).mpr
      ⟨hothers, "V", "PILOT", policy, hfrozen, by decide, hstrict.mpr (by decide +kernel)⟩
  refine ⟨haccepted, fun h => ?_⟩
  obtain ⟨mapped, hmapped, -⟩ := h.served haccepted
  obtain ⟨-, -, other, -, -, hholds, -, -, hwithin⟩ := fromProtocolFreeze_ok_iff.mp ⟨mapped, hmapped⟩
  obtain rfl := Value.dict.inj (hholds.symm.trans hfrozen.holds)
  exact absurd (hbounded.mp hwithin) (by decide)

end PduExamObserver.Training
