import Mathlib.Algebra.BigOperators.Group.List.Basic
import Mathlib.Algebra.Ring.Int.Defs
import Mathlib.Data.List.Induction
import Mathlib.Data.List.Sort

/-! # Counting in a dictionary

A dictionary that counts keys, and its items in the order of `sorted`. -/

namespace PduExamObserver.Tally
set_option autoImplicit false

variable {κ : Type*}

/-! ## Counting -/

section Counting

variable [DecidableEq κ]

/-- `counts[key] = counts.get(key, 0) + 1`. -/
def bump : List (κ × Int) → κ → List (κ × Int)
  | [], key => [(key, 1)]
  | (first, count) :: rest, key =>
    if first = key then (first, count + 1) :: rest else (first, count) :: bump rest key

/-- The dictionary after all the keys. -/
def tally (keys : List κ) : List (κ × Int) := keys.foldl bump []

variable {counts : List (κ × Int)} {key other : κ} {keys : List κ}

theorem mem_bump_keys : other ∈ (bump counts key).map Prod.fst ↔ other ∈ counts.map Prod.fst ∨ other = key := by
  induction counts with
  | nil => simp [bump]
  | cons item rest ih =>
    obtain ⟨first, count⟩ := item
    unfold bump
    by_cases hfirst : first = key
    · rw [if_pos hfirst, hfirst]
      exact (or_iff_left_of_imp fun heq => heq ▸ List.mem_cons_self).symm
    · rw [if_neg hfirst, List.map_cons, List.map_cons, List.mem_cons, List.mem_cons, ih, or_assoc]

theorem nodup_bump (h : (counts.map Prod.fst).Nodup) (key : κ) : ((bump counts key).map Prod.fst).Nodup := by
  induction counts with
  | nil => simp [bump]
  | cons item rest ih =>
    obtain ⟨first, count⟩ := item
    rw [List.map_cons, List.nodup_cons] at h
    unfold bump
    by_cases hfirst : first = key
    · rw [if_pos hfirst, List.map_cons, List.nodup_cons]
      exact h
    · rw [if_neg hfirst, List.map_cons, List.nodup_cons]
      refine ⟨fun hmem => ?_, ih h.2⟩
      rcases mem_bump_keys.mp hmem with hold | hnew
      · exact h.1 hold
      · exact hfirst hnew

theorem pos_bump (h : ∀ item ∈ counts, 0 < item.2) (key : κ) : ∀ item ∈ bump counts key, 0 < item.2 := by
  induction counts with
  | nil => simp [bump]
  | cons item rest ih =>
    obtain ⟨first, count⟩ := item
    obtain ⟨hcount, hrest⟩ := List.forall_mem_cons.mp h
    unfold bump
    by_cases hfirst : first = key
    · rw [if_pos hfirst]
      exact List.forall_mem_cons.mpr ⟨Int.lt_add_one_of_le hcount.le, hrest⟩
    · rw [if_neg hfirst]
      exact List.forall_mem_cons.mpr ⟨hcount, ih hrest⟩

theorem sum_bump (counts : List (κ × Int)) (key : κ) :
    ((bump counts key).map Prod.snd).sum = (counts.map Prod.snd).sum + 1 := by
  induction counts with
  | nil => simp [bump]
  | cons item rest ih =>
    obtain ⟨first, count⟩ := item
    unfold bump
    by_cases hfirst : first = key
    · rw [if_pos hfirst, List.map_cons, List.map_cons, List.sum_cons, List.sum_cons]
      omega
    · rw [if_neg hfirst, List.map_cons, List.map_cons, List.sum_cons, List.sum_cons, ih]
      omega

theorem tally_concat (keys : List κ) (key : κ) : tally (keys ++ [key]) = bump (tally keys) key := by
  rw [tally, List.foldl_append]
  rfl

theorem nodup_tally (keys : List κ) : ((tally keys).map Prod.fst).Nodup := by
  induction keys using List.reverseRec with
  | nil => exact List.nodup_nil
  | append_singleton keys key ih =>
    rw [tally_concat]
    exact nodup_bump ih key

theorem pos_tally (keys : List κ) : ∀ item ∈ tally keys, 0 < item.2 := by
  induction keys using List.reverseRec with
  | nil => exact fun item h => absurd h List.not_mem_nil
  | append_singleton keys key ih =>
    rw [tally_concat]
    exact pos_bump ih key

theorem mem_tally_keys : key ∈ (tally keys).map Prod.fst ↔ key ∈ keys := by
  induction keys using List.reverseRec with
  | nil => exact Iff.rfl
  | append_singleton keys last ih => rw [tally_concat, mem_bump_keys, ih, List.mem_append, List.mem_singleton]

theorem sum_tally (keys : List κ) : ((tally keys).map Prod.snd).sum = keys.length := by
  induction keys using List.reverseRec with
  | nil => rfl
  | append_singleton keys key ih =>
    rw [tally_concat, sum_bump, ih, List.length_append, List.length_singleton]
    rfl

end Counting

/-! ## Sorting -/

section Sorting

variable [DecidableEq κ] [LE κ] [DecidableLE κ]

/-- The order of pairs. -/
def ByItem (a b : κ × Int) : Prop := if a.1 = b.1 then a.2 ≤ b.2 else a.1 ≤ b.1

instance : DecidableRel (ByItem (κ := κ)) := fun a b => by
  unfold ByItem
  infer_instance

/-- `sorted(items)`. -/
def sortItems (items : List (κ × Int)) : List (κ × Int) := items.insertionSort ByItem

variable {items : List (κ × Int)}

theorem sortItems_perm (items : List (κ × Int)) : (sortItems items).Perm items := List.perm_insertionSort ByItem items

theorem mem_sortItems {item : κ × Int} : item ∈ sortItems items ↔ item ∈ items := (sortItems_perm items).mem_iff

theorem nodup_sortItems : ((sortItems items).map Prod.fst).Nodup ↔ (items.map Prod.fst).Nodup :=
  ((sortItems_perm items).map Prod.fst).nodup_iff

theorem sum_sortItems (items : List (κ × Int)) : ((sortItems items).map Prod.snd).sum = (items.map Prod.snd).sum :=
  ((sortItems_perm items).map Prod.snd).sum_eq

section Order

variable [Std.Total (α := κ) (· ≤ ·)] [IsTrans κ (· ≤ ·)] [Std.Antisymm (α := κ) (· ≤ ·)]

instance : Std.Total (ByItem (κ := κ)) where
  total a b := by
    unfold ByItem
    by_cases hkey : a.1 = b.1
    · rw [if_pos hkey, if_pos hkey.symm]
      exact Int.le_total a.2 b.2
    · rw [if_neg hkey, if_neg (Ne.symm hkey)]
      exact Std.Total.total (r := (· ≤ ·)) a.1 b.1

instance : IsTrans (κ × Int) ByItem where
  trans a b c hab hbc := by
    unfold ByItem at *
    by_cases hkey : a.1 = b.1
    · rw [if_pos hkey] at hab
      rw [← hkey] at hbc
      by_cases hnext : a.1 = c.1
      · rw [if_pos hnext] at hbc ⊢
        exact hab.trans hbc
      · rwa [if_neg hnext] at hbc ⊢
    · rw [if_neg hkey] at hab
      by_cases hnext : b.1 = c.1
      · rw [← hnext, if_neg hkey]
        exact hab
      · rw [if_neg hnext] at hbc
        have hac : a.1 ≤ c.1 := IsTrans.trans (r := (· ≤ ·)) _ _ _ hab hbc
        have hne : a.1 ≠ c.1 := fun heq => hkey (Std.Antisymm.antisymm (r := (· ≤ ·)) _ _ hab (heq ▸ hbc))
        rw [if_neg hne]
        exact hac

theorem sortItems_sortItems (items : List (κ × Int)) : sortItems (sortItems items) = sortItems items :=
  (List.pairwise_insertionSort ByItem items).insertionSort_eq

end Order

end Sorting

end PduExamObserver.Tally
