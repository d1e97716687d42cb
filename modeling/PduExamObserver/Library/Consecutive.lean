import Mathlib.Data.List.Basic
import Mathlib.Data.List.Range

/-! # Consecutive numbers

`Consecutive a l` says that `l` counts up from `a + 1` without a gap: the shape of a gapless
numbered stream that starts after number `a`. -/

namespace PduExamObserver
set_option autoImplicit false

/-- `l = [a + 1, a + 2, …]`. -/
def Consecutive (a : Nat) (l : List Nat) : Prop := l = List.range' (a + 1) l.length

@[simp] theorem consecutive_nil (a : Nat) : Consecutive a [] := rfl

theorem consecutive_range (a n : Nat) : Consecutive a (List.range' (a + 1) n) := by
  simp [Consecutive]

theorem consecutive_cons {a b : Nat} {l : List Nat} :
    Consecutive a (b :: l) ↔ b = a + 1 ∧ Consecutive (a + 1) l := by
  simp [Consecutive, List.range'_succ]

theorem Consecutive.append_iff {a : Nat} {l r : List Nat} :
    Consecutive a (l ++ r) ↔ Consecutive a l ∧ Consecutive (a + l.length) r := by
  induction l generalizing a with
  | nil => simp
  | cons b l ih =>
    rw [List.cons_append, consecutive_cons, consecutive_cons, ih, and_assoc, List.length_cons]
    have hlen : a + 1 + l.length = a + (l.length + 1) := by omega
    rw [hlen]

theorem Consecutive.concat {a b : Nat} {l : List Nat} (h : Consecutive a l)
    (hb : b = a + l.length + 1) : Consecutive a (l ++ [b]) :=
  Consecutive.append_iff.mpr ⟨h, by simp [consecutive_cons, hb]⟩

theorem Consecutive.mem_iff {a n : Nat} {l : List Nat} (h : Consecutive a l) :
    n ∈ l ↔ a < n ∧ n ≤ a + l.length := by
  rw [Consecutive] at h
  rw [h, List.mem_range'_1, List.length_range']
  omega

theorem Consecutive.filter_succ {a : Nat} {l : List Nat}
    (h : Consecutive (a + 1) (l.filter fun n => decide (a < n))) :
    (l.filter fun n => decide (a + 1 < n)) = l.filter fun n => decide (a < n) := by
  apply List.filter_congr
  intro n hn
  rw [decide_eq_decide]
  refine ⟨fun hlt => by omega, fun hlt => ?_⟩
  exact (h.mem_iff.mp (List.mem_filter.mpr ⟨hn, by simpa using hlt⟩)).1

end PduExamObserver
