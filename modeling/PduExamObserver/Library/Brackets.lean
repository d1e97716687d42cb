import Mathlib.Data.List.Pairwise
import Mathlib.Order.Basic
import Mathlib.Order.Lattice

/-! # Brackets of a time

The two samples of an increasing sequence of times between which a time lies, by their positions, as linear
interpolation takes them. A sequence that goes on later has the same brackets. -/

namespace PduExamObserver.Brackets
set_option autoImplicit false

variable {α : Type} [LinearOrder α] {times later : List α} {target other : α} {i : Nat}

/-- The first position that is not before the target; the length if every one is. -/
def searchsorted (times : List α) (target : α) : Nat := times.findIdx fun time => target ≤ time

/-- The position of the right bracket, never the first one. -/
def right (times : List α) (target : α) : Nat := min (max (searchsorted times target) 1) (times.length - 1)

/-- The position of the left bracket, which is the right one if that is met exactly. -/
def left (times : List α) (target : α) : Nat :=
  if times[right times target]? = some target then right times target else right times target - 1

/-- One of the two brackets. -/
def IsBracket (times : List α) (target : α) (i : Nat) : Prop := i = left times target ∨ i = right times target

theorem searchsorted_le_iff (h : times.Pairwise (· < ·)) (hi : i < times.length) :
    searchsorted times target ≤ i ↔ target ≤ times[i] := by
  constructor
  · intro hle
    have hlt : searchsorted times target < times.length := Nat.lt_of_le_of_lt hle hi
    have hfound : target ≤ times[searchsorted times target] := by
      have hget := List.findIdx_getElem (w := hlt)
      exact of_decide_eq_true hget
    rcases Nat.lt_or_eq_of_le hle with hbefore | heq
    · exact hfound.trans (List.pairwise_iff_getElem.mp h _ _ hlt hi hbefore).le
    · simpa [heq] using hfound
  · intro htarget
    by_contra hlt
    have hnot := List.not_of_lt_findIdx (Nat.lt_of_not_le hlt)
    simp [htarget] at hnot

theorem left_le_right (times : List α) (target : α) : left times target ≤ right times target := by
  unfold left
  split <;> omega

theorem right_lt_length (h : times ≠ []) (target : α) : right times target < times.length := by
  have hlength : 0 < times.length := List.length_pos_iff.mpr h
  unfold right
  omega

theorem right_le_iff (h : times.Pairwise (· < ·)) (hi : i < times.length) (hpos : 0 < i)
    (hnext : i + 1 < times.length ∨ target ≤ times[i]) : right times target ≤ i ↔ target ≤ times[i] := by
  rw [← searchsorted_le_iff h hi]
  unfold right
  rcases hnext with hnext | htarget
  · omega
  · have hle := (searchsorted_le_iff h hi).mpr htarget
    omega

theorem right_append (hlength : 2 ≤ times.length) (hreach : searchsorted times target < times.length)
    (later : List α) : right (times ++ later) target = right times target := by
  have hsame : searchsorted (times ++ later) target = searchsorted times target := by
    unfold searchsorted at hreach ⊢
    rw [List.findIdx_append, if_pos hreach]
  unfold right
  rw [hsame, List.length_append]
  omega

theorem left_append (hlength : 2 ≤ times.length) (hreach : searchsorted times target < times.length)
    (later : List α) : left (times ++ later) target = left times target := by
  have hright := right_append hlength hreach later
  have hlt : right times target < times.length := right_lt_length (by rintro rfl; simp at hlength) target
  unfold left
  rw [hright, List.getElem?_append_left hlt]

theorem le_right (h : times.Pairwise (· < ·)) (hreach : searchsorted times target < times.length)
    (hright : right times target < times.length) : target ≤ times[right times target] := by
  refine (searchsorted_le_iff h hright).mp ?_
  unfold right
  omega

theorem left_le (h : times.Pairwise (· < ·)) (hstart : ∃ first, times[0]? = some first ∧ first ≤ target)
    (hleft : left times target < times.length) : times[left times target] ≤ target := by
  obtain ⟨first, hfirst, hle⟩ := hstart
  by_cases hexact : times[right times target]? = some target
  · have hsame : left times target = right times target := by rw [left, if_pos hexact]
    simp only [hsame] at hleft ⊢
    rw [List.getElem?_eq_getElem hleft] at hexact
    exact (Option.some.inj hexact).le
  · have hbefore : left times target = right times target - 1 := by rw [left, if_neg hexact]
    by_cases hzero : left times target = 0
    · simp only [hzero] at hleft ⊢
      rw [List.getElem?_eq_getElem hleft] at hfirst
      exact (Option.some.inj hfirst).trans_le hle
    · -- the search went past the left bracket
      have hpast : ¬ searchsorted times target ≤ left times target := by
        rw [hbefore] at hzero ⊢
        unfold right at hzero ⊢
        omega
      rw [searchsorted_le_iff h hleft] at hpast
      exact (lt_of_not_ge hpast).le

end PduExamObserver.Brackets
