import Mathlib.Data.List.Induction
import Mathlib.Data.List.Pairwise
import Mathlib.Order.MinMax

/-! # Sweeping over intervals

A double loop over intervals sorted by their start that leaves the inner loop at the first interval that starts
too late, and the dictionary that keeps the last entry of each key. -/

namespace PduExamObserver.Sweep
set_option autoImplicit false

section Intervals

variable {α τ β : Type*} [LinearOrder τ] [DecidableEq β] (start finish : α → τ) (label : α → β)

/-- The half-open intervals of `a` and `b` have a point in common, if neither is empty. -/
def Overlap (a b : α) : Prop := start a < finish b ∧ start b < finish a

/-- The inner loop: an interval with another label that starts before `current` ends. -/
def clashes (current : α) : List α → Bool
  | [] => false
  | other :: rest =>
    if finish current ≤ start other then false
    else if label current ≠ label other then true
    else clashes current rest

/-- The double loop. -/
def conflicting : List α → Bool
  | [] => false
  | current :: rest => clashes start finish label current rest || conflicting rest

variable {start finish label} {l : List α} {current : α}

theorem overlap_iff {a b : α} (ha : start a < finish a) (hb : start b < finish b) :
    Overlap start finish a b ↔ ∃ t, (start a ≤ t ∧ t < finish a) ∧ start b ≤ t ∧ t < finish b := by
  constructor
  · rintro ⟨hab, hba⟩
    exact ⟨max (start a) (start b), ⟨le_max_left _ _, max_lt ha hba⟩, le_max_right _ _, max_lt hab hb⟩
  · rintro ⟨t, ⟨hat, hta⟩, hbt, htb⟩
    exact ⟨lt_of_le_of_lt hat htb, lt_of_le_of_lt hbt hta⟩

/-- Leaving the inner loop early loses nothing if the list is sorted. -/
theorem clashes_iff (hsorted : l.Pairwise fun a b => start a ≤ start b) :
    clashes start finish label current l = true ↔
      ∃ other ∈ l, start other < finish current ∧ label current ≠ label other := by
  induction l with
  | nil => simp [clashes]
  | cons other rest ih =>
    rw [List.pairwise_cons] at hsorted
    obtain ⟨hfirst, hrest⟩ := hsorted
    rw [clashes]
    by_cases hlate : finish current ≤ start other
    · rw [if_pos hlate]
      constructor
      · intro h
        cases h
      · rintro ⟨later, hmem, hlt, -⟩
        rcases List.mem_cons.mp hmem with rfl | hmem
        · exact absurd hlt (not_lt.mpr hlate)
        · exact absurd hlt (not_lt.mpr (le_trans hlate (hfirst later hmem)))
    · rw [if_neg hlate]
      by_cases hlabel : label current = label other
      · rw [if_neg (not_not.mpr hlabel), ih hrest]
        simp [hlabel]
      · rw [if_pos hlabel]
        simp [hlabel, not_le.mp hlate]

theorem conflicting_eq_false_iff (hsorted : l.Pairwise fun a b => start a ≤ start b) :
    conflicting start finish label l = false ↔
      l.Pairwise fun a b => start b < finish a → label a = label b := by
  induction l with
  | nil => simp [conflicting]
  | cons current rest ih =>
    rw [List.pairwise_cons] at hsorted
    rw [conflicting, Bool.or_eq_false_iff, ih hsorted.2, List.pairwise_cons, ← Bool.not_eq_true,
      clashes_iff hsorted.2]
    simp

/-- On a sorted list of proper intervals the double loop finds exactly the overlaps of different labels. -/
theorem conflicting_iff (hsorted : l.Pairwise fun a b => start a ≤ start b) (hproper : ∀ a ∈ l, start a < finish a) :
    conflicting start finish label l = true ↔
      ∃ a ∈ l, ∃ b ∈ l, label a ≠ label b ∧ Overlap start finish a b := by
  rw [← not_iff_not, Bool.not_eq_true, conflicting_eq_false_iff hsorted]
  constructor
  · rintro hpairs ⟨a, ha, b, hb, hlabel, hoverlap⟩
    have hsymm : Std.Symm fun a b => Overlap start finish a b → label a = label b :=
      ⟨fun a b h hba => (h ⟨hba.2, hba.1⟩).symm⟩
    have hoverlaps : l.Pairwise fun a b => Overlap start finish a b → label a = label b :=
      hpairs.imp fun {a b} h hab => h hab.2
    exact hlabel (hoverlaps.forall_of_forall (fun _ _ _ => rfl) ha hb hoverlap)
  · intro hnone
    have hmem : l.Pairwise fun a b => a ∈ l ∧ b ∈ l ∧ start a ≤ start b :=
      List.Pairwise.and_mem.mp hsorted
    refine hmem.imp fun {a b} h hlt => ?_
    by_contra hlabel
    exact hnone ⟨a, h.1, b, h.2.1, hlabel, lt_of_le_of_lt h.2.2 (hproper b h.2.1), hlt⟩

end Intervals

section Latest

variable {α κ : Type*} [DecidableEq κ] (key : α → κ)

/-- An entry takes the place of the one of its key, or comes last. -/
def put (entries : List α) (a : α) : List α :=
  if entries.any fun b => key b = key a then entries.map fun b => if key b = key a then a else b
  else entries ++ [a]

/-- `{key: a for a in l}`: the last entry of each key, in the order of the first ones. -/
def latest (l : List α) : List α := l.foldl (put key) []

variable {key} {a b : α} {l : List α}

theorem mem_put : b ∈ put key l a ↔ b = a ∨ b ∈ l ∧ key b ≠ key a := by
  unfold put
  split
  · next h =>
    obtain ⟨first, hfirst, hkey⟩ := List.any_eq_true.mp h
    rw [List.mem_map]
    constructor
    · rintro ⟨x, hx, rfl⟩
      split
      · exact .inl rfl
      · next hne => exact .inr ⟨hx, hne⟩
    · rintro (rfl | ⟨hb, hne⟩)
      · exact ⟨first, hfirst, if_pos (of_decide_eq_true hkey)⟩
      · exact ⟨b, hb, if_neg hne⟩
  · next h =>
    have hfresh : ∀ x ∈ l, key x ≠ key a := by simpa using h
    rw [List.mem_append, List.mem_singleton]
    constructor
    · rintro (hb | rfl)
      · exact .inr ⟨hb, hfresh b hb⟩
      · exact .inl rfl
    · rintro (rfl | ⟨hb, -⟩)
      · exact .inr rfl
      · exact .inl hb

/-- If the rank goes up along the list, the entry of a key is the one of the highest rank. -/
theorem mem_latest_iff {rank : α → Nat} (hrank : l.Pairwise fun a b => rank a < rank b) :
    a ∈ latest key l ↔ a ∈ l ∧ ∀ b ∈ l, key b = key a → rank b ≤ rank a := by
  induction l using List.reverseRecOn with
  | nil => simp [latest]
  | append_singleton l last ih =>
    rw [List.pairwise_append] at hrank
    obtain ⟨hl, -, hlast⟩ := hrank
    rw [latest, List.foldl_append, List.foldl_cons, List.foldl_nil, mem_put, ← latest, ih hl]
    constructor
    · rintro (rfl | ⟨⟨ha, hmax⟩, hkey⟩)
      · refine ⟨by simp, fun b hb hkey => ?_⟩
        rcases List.mem_append.mp hb with hb | hb
        · exact Nat.le_of_lt (hlast b hb a (by simp))
        · exact Nat.le_of_eq (congrArg rank (List.mem_singleton.mp hb))
      · refine ⟨by simp [ha], fun b hb hbkey => ?_⟩
        rcases List.mem_append.mp hb with hb | hb
        · exact hmax b hb hbkey
        · rw [List.mem_singleton.mp hb] at hbkey
          exact absurd hbkey.symm hkey
    · rintro ⟨ha, hmax⟩
      by_cases heq : a = last
      · exact .inl heq
      · have hmem : a ∈ l := by simpa [heq] using ha
        refine .inr ⟨⟨hmem, fun b hb => hmax b (by simp [hb])⟩, fun hkey => ?_⟩
        exact absurd (hmax last (by simp) hkey.symm) (Nat.not_le.mpr (hlast a hmem last (by simp)))

end Latest

section First

variable {α β : Type*} {p : α → Bool} {f : α → β} {l l' : List α}

/-- Two lists whose matches agree say the same by their first match. -/
theorem map_find?_eq (hsame : ∀ a ∈ l, ∀ b ∈ l', p a = true → p b = true → f a = f b)
    (hany : (∃ a ∈ l, p a = true) ↔ ∃ b ∈ l', p b = true) : (l.find? p).map f = (l'.find? p).map f := by
  cases hfirst : l.find? p with
  | none =>
    have hnone : l'.find? p = none := by
      rw [List.find?_eq_none] at hfirst ⊢
      intro b hb hmatch
      obtain ⟨a, ha, hamatch⟩ := hany.mpr ⟨b, hb, hmatch⟩
      exact hfirst a ha hamatch
    rw [hnone]
  | some a =>
    have ha : a ∈ l := List.mem_of_find?_eq_some hfirst
    obtain ⟨b, hb, hbmatch⟩ := hany.mp ⟨a, ha, List.find?_some hfirst⟩
    obtain ⟨first, hsome⟩ := Option.isSome_iff_exists.mp (List.find?_isSome.mpr ⟨b, hb, hbmatch⟩)
    rw [hsome, Option.map_some, Option.map_some,
      hsame a ha first (List.mem_of_find?_eq_some hsome) (List.find?_some hfirst) (List.find?_some hsome)]

/-- The first match, or a default, says the same in every order exactly if all matches agree. -/
theorem getD_find?_perm_iff [DecidableEq α] {d : β} :
    (∀ order : List α, order.Perm l → ((order.find? p).map f).getD d = ((l.find? p).map f).getD d) ↔
      ∀ a ∈ l, ∀ b ∈ l, p a = true → p b = true → f a = f b := by
  constructor
  · intro horders a ha b hb hamatch hbmatch
    have hfirst : ∀ x ∈ l, p x = true → f x = ((l.find? p).map f).getD d := by
      intro x hx hmatch
      rw [← horders (x :: l.erase x) (List.perm_cons_erase hx).symm, List.find?_cons_of_pos hmatch, Option.map_some,
        Option.getD_some]
    rw [hfirst a ha hamatch, hfirst b hb hbmatch]
  · intro hsame order hperm
    rw [map_find?_eq (fun a ha b hb => hsame a (hperm.mem_iff.mp ha) b hb) (by simp only [hperm.mem_iff])]

end First

end PduExamObserver.Sweep
