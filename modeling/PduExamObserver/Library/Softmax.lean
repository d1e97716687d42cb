import Mathlib.Algebra.Order.BigOperators.Group.List
import Mathlib.Algebra.Order.Field.Basic
import Mathlib.Tactic

/-! # Rows of scores

The largest entry of a row, its first position, and the softmax of the row, for an exponential that is not negative and
is one at zero. -/

namespace PduExamObserver.Scores
set_option autoImplicit false

variable {K : Type*} [Field K] [LinearOrder K]

/-! ## The largest entry -/

/-- The largest entry of a row; zero if it is empty. -/
def rowMax : List K → K
  | [] => 0
  | x :: rest => rest.foldl max x

/-- The first position of the largest entry. -/
def argmax (row : List K) : Nat := row.idxOf (rowMax row)

omit [Field K] in
theorem foldl_max_mem (rest : List K) (x : K) : rest.foldl max x ∈ x :: rest := by
  induction rest generalizing x with
  | nil => simp
  | cons z rest ih =>
    rw [List.foldl_cons]
    rcases List.mem_cons.mp (ih (max x z)) with heq | hmem
    · rw [heq]
      rcases max_choice x z with h | h
      · rw [h]
        exact List.mem_cons_self
      · rw [h]
        exact List.mem_cons_of_mem _ List.mem_cons_self
    · exact List.mem_cons_of_mem _ (List.mem_cons_of_mem _ hmem)

theorem rowMax_mem {row : List K} (h : row ≠ []) : rowMax row ∈ row := by
  cases row with
  | nil => exact absurd rfl h
  | cons x rest => exact foldl_max_mem rest x

theorem argmax_lt {row : List K} (h : row ≠ []) : argmax row < row.length := List.idxOf_lt_length_of_mem (rowMax_mem h)

/-! ## Softmax -/

variable (exp : K → K)

/-- The exponentials of a row, which is shifted to be nowhere positive. -/
def exponentials (row : List K) : List K := (row.map fun x => x - rowMax row).map exp

/-- The softmax of a row. -/
def softmax (row : List K) : List K := (exponentials exp row).map fun x => x / (exponentials exp row).sum

variable {exp} {row : List K}

@[simp] theorem length_softmax : (softmax exp row).length = row.length := by simp [softmax, exponentials]

theorem softmax_eq_nil : softmax exp row = [] ↔ row = [] := by simp [softmax, exponentials]

theorem exponentials_nonneg (hexp : ∀ x, 0 ≤ exp x) {y : K} (hy : y ∈ exponentials exp row) : 0 ≤ y := by
  obtain ⟨x, -, rfl⟩ := List.mem_map.mp hy
  exact hexp x

theorem one_mem_exponentials (hzero : exp 0 = 1) (h : row ≠ []) : 1 ∈ exponentials exp row := by
  refine List.mem_map.mpr ⟨0, List.mem_map.mpr ⟨rowMax row, rowMax_mem h, sub_self _⟩, hzero⟩

variable [IsStrictOrderedRing K]

theorem exponentials_le_sum (hexp : ∀ x, 0 ≤ exp x) {y : K} (hy : y ∈ exponentials exp row) :
    y ≤ (exponentials exp row).sum :=
  List.single_le_sum (fun _ hz => exponentials_nonneg hexp hz) y hy

theorem sum_exponentials_pos (hexp : ∀ x, 0 ≤ exp x) (hzero : exp 0 = 1) (h : row ≠ []) :
    0 < (exponentials exp row).sum :=
  one_pos.trans_le (exponentials_le_sum hexp (one_mem_exponentials hzero h))

theorem softmax_mem_unit (hexp : ∀ x, 0 ≤ exp x) (hzero : exp 0 = 1) {p : K} (hp : p ∈ softmax exp row) :
    0 ≤ p ∧ p ≤ 1 := by
  obtain ⟨y, hy, rfl⟩ := List.mem_map.mp hp
  have hrow : row ≠ [] := by
    rintro rfl
    cases hy
  have hpos := sum_exponentials_pos hexp hzero hrow
  exact ⟨div_nonneg (exponentials_nonneg hexp hy) hpos.le, (div_le_one hpos).mpr (exponentials_le_sum hexp hy)⟩

theorem rowMax_softmax_mem_unit (hexp : ∀ x, 0 ≤ exp x) (hzero : exp 0 = 1) (h : row ≠ []) :
    0 ≤ rowMax (softmax exp row) ∧ rowMax (softmax exp row) ≤ 1 :=
  softmax_mem_unit hexp hzero (rowMax_mem (softmax_eq_nil.not.mpr h))

end PduExamObserver.Scores
