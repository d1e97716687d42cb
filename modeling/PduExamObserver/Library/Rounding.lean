import Mathlib.Algebra.Order.Ring.Int

/-! # Rounding half to even

Rounding of a quotient of integers to the nearest integer, with ties to the even one. -/

namespace PduExamObserver.Rounding
set_option autoImplicit false

/-- `n / d` rounded to the nearest integer, ties to even. -/
def roundHalfEven (n d : Int) : Int :=
  let floor := n / d
  if 2 * (n % d) < d then floor
  else if d < 2 * (n % d) then floor + 1
  else if floor % 2 = 0 then floor
  else floor + 1

variable {n m d : Int}

theorem roundHalfEven_floor (n d : Int) : n / d ≤ roundHalfEven n d ∧ roundHalfEven n d ≤ n / d + 1 := by
  unfold roundHalfEven
  simp only
  split
  · omega
  · split
    · omega
    · split <;> omega

theorem roundHalfEven_near (hd : 0 < d) :
    2 * n ≤ 2 * (d * roundHalfEven n d) + d ∧ 2 * (d * roundHalfEven n d) ≤ 2 * n + d := by
  have hdiv : d * (n / d) + n % d = n := Int.mul_ediv_add_emod n d
  have hlow : 0 ≤ n % d := Int.emod_nonneg n (by omega)
  have hhigh : n % d < d := Int.emod_lt_of_pos n hd
  unfold roundHalfEven
  simp only
  split
  · omega
  · split
    · rw [Int.mul_add]
      omega
    · split
      · omega
      · rw [Int.mul_add]
        omega

theorem roundHalfEven_mono (hd : 0 < d) (h : n ≤ m) : roundHalfEven n d ≤ roundHalfEven m d := by
  have hfloor : n / d ≤ m / d := Int.ediv_le_ediv hd h
  rcases lt_or_eq_of_le hfloor with hlt | heq
  · have hn := (roundHalfEven_floor n d).2
    have hm := (roundHalfEven_floor m d).1
    omega
  · have hdivn : d * (n / d) + n % d = n := Int.mul_ediv_add_emod n d
    have hdivm : d * (m / d) + m % d = m := Int.mul_ediv_add_emod m d
    rw [← heq] at hdivm
    have hrest : n % d ≤ m % d := by omega
    unfold roundHalfEven
    simp only [← heq]
    split <;> split <;> try split
    all_goals try split
    all_goals omega

end PduExamObserver.Rounding
