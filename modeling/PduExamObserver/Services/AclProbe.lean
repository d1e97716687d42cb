import Mathlib.Data.List.Count
import Mathlib.Tactic.SplitIfs

/-! # The probe of a storage root's access list

`_probe_acl`. A discretionary list is what the system has stored; whether a call succeeds is an input. An entry has its
mask and its SID wherever its type puts them. -/

namespace PduExamObserver.Services.AclProbe
set_option autoImplicit false

structure Ace where
  aceType : UInt8
  mask : UInt32
  sid : String
  deriving DecidableEq

inductive VerificationStatus where
  | verified | unknown
  deriving DecidableEq

inductive Resource where
  | sid (index : Nat)
  | descriptor
  deriving DecidableEq

inductive Effect where
  | obtained (resource : Resource)
  | freed (resource : Resource)
  deriving DecidableEq

/-- What the calls answer; `readSid` is false if reading the string raises. -/
structure Calls where
  securityInfo : Bool
  descriptor : Bool
  aclInformation : Bool
  getAce : Nat → Bool
  aceAddress : Nat → Bool
  convertSid : Nat → Bool
  sidAddress : Nat → Bool
  readSid : Nat → Bool

/-- `_BROAD_SIDS`. -/
def broadSids : List String :=
  ["S-1-1-0", "S-1-5-2", "S-1-5-3", "S-1-5-4", "S-1-5-7", "S-1-5-11", "S-1-5-32-545", "S-1-5-32-546"]

def Ace.Broad (ace : Ace) : Prop := ace.sid ∈ broadSids ∧ ace.mask ≠ 0

instance (ace : Ace) : Decidable ace.Broad := inferInstanceAs (Decidable (_ ∧ _))

variable (calls : Calls)

def probeEntry (index : Nat) (ace : Ace) : Option (Option VerificationStatus) × List Effect :=
  if ¬ (calls.getAce index ∧ calls.aceAddress index) then (some (some .unknown), [])
  else if ace.aceType ≠ 0 then (none, [])
  else if ¬ calls.convertSid index then (some (some .unknown), [])
  else
    (if ¬ calls.sidAddress index then some (some .unknown)
      else if ¬ calls.readSid index then some none
      else if ace.Broad then some (some .unknown)
      else none,
      [.obtained (.sid index), .freed (.sid index)])

def probeEntries : Nat → List Ace → Option VerificationStatus × List Effect
  | _, [] => (some .verified, [])
  | index, ace :: rest =>
    match (probeEntry calls index ace).1 with
    | some answer => (answer, (probeEntry calls index ace).2)
    | none => ((probeEntries (index + 1) rest).1, (probeEntry calls index ace).2 ++ (probeEntries (index + 1) rest).2)

def inspectAcl : Option (List Ace) → Option VerificationStatus × List Effect
  | none => (some .unknown, [])
  | some entries => if calls.aclInformation then probeEntries calls 0 entries else (some .unknown, [])

/-- `_probe_acl`; a root may have no list. -/
def probeAcl (dacl : Option (List Ace)) : Option VerificationStatus × List Effect :=
  if calls.securityInfo ∧ calls.descriptor then
    ((inspectAcl calls dacl).1, .obtained .descriptor :: ((inspectAcl calls dacl).2 ++ [.freed .descriptor]))
  else (some .unknown, [])

/-! ## What the probe says -/

def grantingTypes : List UInt8 := [0, 4, 5, 9, 11]

def denyingTypes : List UInt8 := [1, 6, 10, 12]

def Answered (index : Nat) (ace : Ace) : Prop :=
  calls.getAce index ∧ calls.aceAddress index ∧
    (ace.aceType = 0 → calls.convertSid index ∧ calls.sidAddress index ∧ calls.readSid index)

def AllAnswered (entries : List Ace) : Prop :=
  calls.securityInfo ∧ calls.descriptor ∧ calls.aclInformation ∧
    ∀ index ace, entries[index]? = some ace → Answered calls index ace

structure AllSucceed : Prop where
  securityInfo : calls.securityInfo
  descriptor : calls.descriptor
  aclInformation : calls.aclInformation
  entry : ∀ index, calls.getAce index ∧ calls.aceAddress index ∧ calls.convertSid index ∧ calls.sidAddress index ∧
    calls.readSid index

/-- Nothing that grants is overlooked; entries that deny do not matter; and what is obtained is freed once. -/
structure Truthful (dacl : Option (List Ace)) : Prop where
  verified : (probeAcl calls dacl).1 = some .verified → ∃ entries, dacl = some entries ∧
    ∀ ace ∈ entries, ace.aceType ∈ grantingTypes → ¬ ace.Broad
  denials : AllSucceed calls → ∀ entries other, dacl = some entries →
    (entries.filter (·.aceType ∉ denyingTypes)) = other.filter (·.aceType ∉ denyingTypes) →
    (probeAcl calls (some other)).1 = (probeAcl calls dacl).1
  freed : ∀ resource, (probeAcl calls dacl).2.count (.freed resource) = (probeAcl calls dacl).2.count (.obtained resource) ∧
    (probeAcl calls dacl).2.count (.freed resource) ≤ 1

variable {calls} {entries : List Ace} {index : Nat}

theorem probeEntry_none_iff (ace : Ace) :
    (probeEntry calls index ace).1 = none ↔ Answered calls index ace ∧ (ace.aceType = 0 → ¬ ace.Broad) := by
  unfold probeEntry Answered
  split_ifs <;> simp_all

theorem probeEntry_ne_verified (ace : Ace) : (probeEntry calls index ace).1 ≠ some (some .verified) := by
  unfold probeEntry
  split_ifs <;> simp

theorem probeEntry_effects (ace : Ace) : (probeEntry calls index ace).2 = [] ∨
    (probeEntry calls index ace).2 = [.obtained (.sid index), .freed (.sid index)] := by
  unfold probeEntry
  split_ifs <;> simp

theorem probeEntries_verified_iff : (probeEntries calls index entries).1 = some .verified ↔
    ∀ i ace, entries[i]? = some ace → Answered calls (index + i) ace ∧ (ace.aceType = 0 → ¬ ace.Broad) := by
  induction entries generalizing index with
  | nil => simp [probeEntries]
  | cons ace rest ih =>
    have hsplit : (∀ i other, (ace :: rest)[i]? = some other →
        Answered calls (index + i) other ∧ (other.aceType = 0 → ¬ other.Broad)) ↔
        (Answered calls index ace ∧ (ace.aceType = 0 → ¬ ace.Broad)) ∧ ∀ i other, rest[i]? = some other →
          Answered calls (index + 1 + i) other ∧ (other.aceType = 0 → ¬ other.Broad) := by
      constructor
      · intro hall
        refine ⟨hall 0 ace rfl, fun i other hother => ?_⟩
        have hnext := hall (i + 1) other hother
        rwa [show index + (i + 1) = index + 1 + i by omega] at hnext
      · rintro ⟨hfirst, hrest⟩ i other hother
        cases i with
        | zero =>
          cases hother
          exact hfirst
        | succ i =>
          rw [show index + (i + 1) = index + 1 + i by omega]
          exact hrest i other hother
    rw [hsplit, ← ih, ← probeEntry_none_iff, probeEntries]
    have hne := @probeEntry_ne_verified calls index ace
    cases hentry : (probeEntry calls index ace).1 with
    | none => simp
    | some answer =>
      rw [hentry] at hne
      simpa using hne

theorem probeEntries_of_succeed (h : AllSucceed calls) : (probeEntries calls index entries).1 =
    some (if ∃ ace ∈ entries, ace.aceType = 0 ∧ ace.Broad then .unknown else .verified) := by
  induction entries generalizing index with
  | nil => simp [probeEntries]
  | cons ace rest ih =>
    obtain ⟨hget, haddress, hconvert, hsid, hread⟩ := h.entry index
    have hentry : (probeEntry calls index ace).1 =
        if ace.aceType = 0 ∧ ace.Broad then some (some .unknown) else none := by
      unfold probeEntry
      split_ifs <;> simp_all
    rw [probeEntries, hentry]
    by_cases hbroad : ace.aceType = 0 ∧ ace.Broad
    · simp [hbroad]
    · rw [if_neg hbroad]
      simp [ih, hbroad]

theorem probeEntries_freed (resource : Resource) :
    (probeEntries calls index entries).2.count (.freed resource) =
      (probeEntries calls index entries).2.count (.obtained resource) ∧
    (probeEntries calls index entries).2.count (.freed resource) ≤ 1 ∧
    ((∀ i ≥ index, resource ≠ .sid i) → (probeEntries calls index entries).2.count (.freed resource) = 0) := by
  induction entries generalizing index with
  | nil => simp [probeEntries]
  | cons ace rest ih =>
    obtain ⟨hsame, honce, hnone⟩ := @ih (index + 1)
    have heffects : (probeEntry calls index ace).2.count (.freed resource) =
          (probeEntry calls index ace).2.count (.obtained resource) ∧
        (probeEntry calls index ace).2.count (.freed resource) ≤ if resource = .sid index then 1 else 0 := by
      obtain heq | heq := @probeEntry_effects calls index ace
      · simp [heq]
      · rw [heq]
        by_cases hresource : resource = .sid index
        · simp [hresource]
        · simp [hresource, Ne.symm hresource]
    have hlater : resource = .sid index → (probeEntries calls (index + 1) rest).2.count (.freed resource) = 0 := by
      rintro rfl
      exact hnone fun i hi heq => absurd (Resource.sid.inj heq) (by omega)
    rw [probeEntries]
    cases (probeEntry calls index ace).1 with
    | some answer =>
      dsimp only
      refine ⟨heffects.1, ?_, fun hother => ?_⟩
      · split_ifs at heffects <;> omega
      · rw [if_neg (hother index (Nat.le_refl _))] at heffects
        omega
    | none =>
      dsimp only
      rw [List.count_append, List.count_append]
      refine ⟨by omega, ?_, fun hother => ?_⟩
      · split_ifs at heffects with hresource
        · have hzero := hlater hresource
          omega
        · omega
      · rw [if_neg (hother index (Nat.le_refl _))] at heffects
        have hzero := hnone fun i hi => hother i (by omega)
        omega

/-! ## The probe -/

theorem probeAcl_verified_iff {dacl : Option (List Ace)} : (probeAcl calls dacl).1 = some .verified ↔
    ∃ entries, dacl = some entries ∧ AllAnswered calls entries ∧ ∀ ace ∈ entries, ace.aceType = 0 → ¬ ace.Broad := by
  have hentries (entries : List Ace) : (probeEntries calls 0 entries).1 = some .verified ↔
      (∀ index ace, entries[index]? = some ace → Answered calls index ace) ∧
        ∀ ace ∈ entries, ace.aceType = 0 → ¬ ace.Broad := by
    rw [probeEntries_verified_iff]
    simp only [Nat.zero_add]
    constructor
    · intro hall
      refine ⟨fun index ace hace => (hall index ace hace).1, fun ace hmem => ?_⟩
      obtain ⟨index, hindex⟩ := List.mem_iff_getElem?.mp hmem
      exact (hall index ace hindex).2
    · rintro ⟨hanswered, hplain⟩ index ace hace
      exact ⟨hanswered index ace hace, hplain ace (List.mem_of_getElem? hace)⟩
  unfold probeAcl AllAnswered
  by_cases hinfo : calls.securityInfo ∧ calls.descriptor
  · rw [if_pos hinfo]
    cases dacl with
    | none => simp [inspectAcl]
    | some entries =>
      by_cases hacl : calls.aclInformation = true
      · simp [inspectAcl, hinfo, hacl, hentries]
      · simp [inspectAcl, hacl]
  · rw [if_neg hinfo]
    constructor
    · intro h
      cases h
    · rintro ⟨entries, -, ⟨hsecurity, hdescriptor, -⟩, -⟩
      exact absurd ⟨hsecurity, hdescriptor⟩ hinfo

theorem probeAcl_of_succeed (h : AllSucceed calls) : (probeAcl calls (some entries)).1 =
    some (if ∃ ace ∈ entries, ace.aceType = 0 ∧ ace.Broad then .unknown else .verified) := by
  unfold probeAcl
  simp [inspectAcl, h.securityInfo, h.descriptor, h.aclInformation, probeEntries_of_succeed h]

theorem inspectAcl_freed (dacl : Option (List Ace)) (resource : Resource) :
    (inspectAcl calls dacl).2.count (.freed resource) = (inspectAcl calls dacl).2.count (.obtained resource) ∧
      (inspectAcl calls dacl).2.count (.freed resource) ≤ 1 ∧
      (resource = .descriptor → (inspectAcl calls dacl).2.count (.freed resource) = 0) := by
  cases dacl with
  | none => simp [inspectAcl]
  | some entries =>
    obtain ⟨hsame, honce, hnone⟩ := @probeEntries_freed calls entries 0 resource
    unfold inspectAcl
    dsimp only
    split_ifs
    · exact ⟨hsame, honce, by rintro rfl; exact hnone (by simp)⟩
    · simp

theorem probeAcl_freed (dacl : Option (List Ace)) (resource : Resource) :
    (probeAcl calls dacl).2.count (.freed resource) = (probeAcl calls dacl).2.count (.obtained resource) ∧
      (probeAcl calls dacl).2.count (.freed resource) ≤ 1 := by
  obtain ⟨hsame, honce, hnone⟩ := @inspectAcl_freed calls dacl resource
  unfold probeAcl
  split_ifs
  · by_cases hdescriptor : resource = .descriptor
    · have hzero := hnone hdescriptor
      subst hdescriptor
      simp [List.count_append, ← hsame, hzero]
    · simp [List.count_append, ← hsame, honce, Ne.symm hdescriptor]
  · simp

/-- The probe tells the truth exactly if no entry of another granting type gives something to a broad SID, in a list for
which every call succeeds and whose plain entries do not. -/
theorem truthful_iff (calls : Calls) (dacl : Option (List Ace)) : Truthful calls dacl ↔
    ∀ entries, dacl = some entries → AllAnswered calls entries → (∀ ace ∈ entries, ace.aceType = 0 → ¬ ace.Broad) →
      ∀ ace ∈ entries, ace.aceType ∈ [4, 5, 9, 11] → ¬ ace.Broad := by
  constructor
  · rintro h entries rfl hanswered hplain ace hmem htype
    obtain ⟨_, heq, hgrants⟩ := h.verified (probeAcl_verified_iff.mpr ⟨entries, rfl, hanswered, hplain⟩)
    obtain rfl := Option.some.inj heq
    exact hgrants ace hmem (List.mem_cons_of_mem _ htype)
  · intro h
    refine ⟨fun hverified => ?_, ?_, probeAcl_freed dacl⟩
    · obtain ⟨entries, rfl, hanswered, hplain⟩ := probeAcl_verified_iff.mp hverified
      refine ⟨entries, rfl, fun ace hmem htype => ?_⟩
      obtain hzero | hother := List.mem_cons.mp htype
      · exact hplain ace hmem hzero
      · exact h entries rfl hanswered hplain ace hmem hother
    · rintro hsucceed entries other rfl hsame
      have hmatters (list : List Ace) : (∃ ace ∈ list, ace.aceType = 0 ∧ ace.Broad) ↔
          ∃ ace ∈ list.filter (·.aceType ∉ denyingTypes), ace.aceType = 0 ∧ ace.Broad := by
        constructor
        · rintro ⟨ace, hmem, hzero, hbroad⟩
          exact ⟨ace, List.mem_filter.mpr ⟨hmem, by rw [hzero]; decide⟩, hzero, hbroad⟩
        · rintro ⟨ace, hmem, hplain⟩
          exact ⟨ace, (List.mem_filter.mp hmem).1, hplain⟩
      rw [probeAcl_of_succeed hsucceed, probeAcl_of_succeed hsucceed]
      simp only [hmatters other, hmatters entries, hsame]

def succeeding : Calls :=
  ⟨true, true, true, fun _ => true, fun _ => true, fun _ => true, fun _ => true, fun _ => true⟩

/-- Everyone has full control by a callback entry. -/
theorem not_truthful : ¬ Truthful succeeding (some [⟨9, 0x1F01FF, "S-1-1-0"⟩]) := by
  intro h
  obtain ⟨_, heq, hgrants⟩ := h.verified (by decide)
  obtain rfl := Option.some.inj heq
  exact hgrants _ List.mem_cons_self (by decide) (by decide)

end PduExamObserver.Services.AclProbe
