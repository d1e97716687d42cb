import Mathlib.Data.Int.Log
import Mathlib.Data.Rat.Floor
import Mathlib.Tactic.Linarith
import Mathlib.Tactic.Ring
import PduExamObserver.Library.Rounding

/-! # Binary64

Rationals rounded to the floats of 53 bits, ties to even. The exponent is not bounded: a sum of two floats does not
underflow, and does not overflow where one of them is small. -/

namespace PduExamObserver.Rounding
set_option autoImplicit false

variable {n d : Int} {q r : Rat}

theorem roundHalfEven_mul (n : Int) {c : Int} (hc : 0 < c) : roundHalfEven (n * c) (d * c) = roundHalfEven n d := by
  have hrest : n * c % (d * c) = n % d * c := by
    rw [mul_comm n, mul_comm d, Int.mul_emod_mul_of_pos _ _ hc, mul_comm]
  have hless : ∀ a b : Int, a * c < b * c ↔ a < b := fun a b => mul_lt_mul_iff_left₀ hc
  unfold roundHalfEven
  simp only [Int.mul_ediv_mul_of_pos_left n d hc, hrest, ← mul_assoc, hless]

/-- The nearest integer, ties to even. -/
def rint (q : Rat) : Int := roundHalfEven q.num q.den

theorem rint_near (q : Rat) : |(rint q : Rat) - q| ≤ 1 / 2 := by
  have hden : (0 : Int) < q.den := Int.natCast_pos.mpr q.den_pos
  obtain ⟨hlow, hhigh⟩ := roundHalfEven_near (n := q.num) hden
  have hpos : (0 : Rat) < q.den := Nat.cast_pos.mpr q.den_pos
  have hvalue : q * q.den = q.num := Rat.mul_den_eq_num q
  have hlow' : 2 * (q.num : Rat) ≤ 2 * (q.den * rint q) + q.den := by exact_mod_cast hlow
  have hhigh' : 2 * (q.den * rint q : Rat) ≤ 2 * q.num + q.den := by exact_mod_cast hhigh
  rw [← hvalue] at hlow' hhigh'
  rw [abs_le]
  constructor <;> nlinarith

theorem rint_mono (h : q ≤ r) : rint q ≤ rint r := by
  have hq : (0 : Int) < q.den := Int.natCast_pos.mpr q.den_pos
  have hr : (0 : Int) < r.den := Int.natCast_pos.mpr r.den_pos
  unfold rint
  rw [← roundHalfEven_mul q.num hr, ← roundHalfEven_mul r.num hq, mul_comm (r.den : Int)]
  exact roundHalfEven_mono (Int.mul_pos hq hr) ((Rat.le_iff q r).mp h)

theorem rint_intCast (n : Int) : rint n = n := by
  have hnear := rint_near n
  rw [abs_le] at hnear
  have hlow : (n : Rat) - 1 < rint n := by linarith
  have hhigh : (rint n : Rat) < n + 1 := by linarith
  have hlow' : n - 1 < rint n := by exact_mod_cast hlow
  have hhigh' : rint n < n + 1 := by exact_mod_cast hhigh
  omega

/-- The distance of the floats at a number. -/
def ulp (q : Rat) : Rat := 2 ^ (Int.log 2 |q| - 52)

def toFloat (q : Rat) : Rat := rint (q / ulp q) * ulp q

theorem ulp_pos (q : Rat) : 0 < ulp q := zpow_pos two_pos _

theorem ulp_mul_pow (q : Rat) (k : Nat) : 2 ^ k * ulp q = (2 : Rat) ^ (Int.log 2 |q| - 52 + k) := by
  rw [ulp, zpow_add₀ two_ne_zero, zpow_natCast, mul_comm]

theorem ulp_le_abs (h : q ≠ 0) : 2 ^ 52 * ulp q ≤ |q| := by
  rw [ulp_mul_pow, Nat.cast_ofNat, sub_add_cancel]
  exact_mod_cast Int.zpow_log_le_self one_lt_two (abs_pos.mpr h)

theorem abs_lt_ulp (q : Rat) : |q| < 2 ^ 53 * ulp q := by
  have hlog : Int.log 2 |q| - 52 + (53 : Nat) = Int.log 2 |q| + 1 := by omega
  rw [ulp_mul_pow, hlog]
  exact_mod_cast Int.lt_zpow_succ_log_self one_lt_two |q|

theorem toFloat_le {a : Int} (h : q ≤ a * ulp q) : toFloat q ≤ a * ulp q := by
  have hle := rint_mono ((div_le_iff₀ (ulp_pos q)).mpr h)
  rw [rint_intCast] at hle
  exact mul_le_mul_of_nonneg_right (by exact_mod_cast hle) (ulp_pos q).le

theorem le_toFloat {a : Int} (h : a * ulp q ≤ q) : a * ulp q ≤ toFloat q := by
  have hle := rint_mono ((le_div_iff₀ (ulp_pos q)).mpr h)
  rw [rint_intCast] at hle
  exact mul_le_mul_of_nonneg_right (by exact_mod_cast hle) (ulp_pos q).le

theorem toFloat_zero : toFloat 0 = 0 := by
  have hzero : rint 0 = 0 := rint_intCast 0
  simp [toFloat, hzero]

theorem toFloat_near (q : Rat) : |toFloat q - q| ≤ |q| / 2 ^ 53 := by
  rcases eq_or_ne q 0 with rfl | hq
  · simp [toFloat_zero]
  · have hulp := ulp_pos q
    have hstep : toFloat q - q = (rint (q / ulp q) - q / ulp q) * ulp q := by
      rw [toFloat, sub_mul, div_mul_cancel₀ _ hulp.ne']
    rw [hstep, abs_mul, abs_of_pos hulp]
    have hnear := mul_le_mul_of_nonneg_right (rint_near (q / ulp q)) hulp.le
    have hlow := ulp_le_abs hq
    linarith

theorem toFloat_mono : Monotone toFloat := by
  intro q r h
  have hgap {q r : Rat} (hlt : Int.log 2 |q| < Int.log 2 |r|) : (2 : Rat) ^ 53 * ulp q ≤ 2 ^ 52 * ulp r := by
    rw [ulp_mul_pow, ulp_mul_pow]
    exact zpow_le_zpow_right₀ one_le_two (by omega)
  by_cases hlog : Int.log 2 |q| = Int.log 2 |r|
  · have hulp : ulp q = ulp r := by rw [ulp, hlog, ulp]
    have hle := rint_mono (div_le_div_of_nonneg_right h (ulp_pos q).le)
    rw [toFloat, toFloat, ← hulp]
    exact mul_le_mul_of_nonneg_right (by exact_mod_cast hle) (ulp_pos q).le
  · rcases le_or_gt 0 q with hq | hq
    · -- the greater one has the greater exponent
      rcases eq_or_lt_of_le hq with rfl | hq
      · have hr := le_toFloat (q := r) (a := 0) (by simpa using h)
        simpa [toFloat_zero] using hr
      · have hlt : Int.log 2 |q| < Int.log 2 |r| :=
          lt_of_le_of_ne (Int.log_mono_right (abs_pos_of_pos hq) (abs_le_abs_of_nonneg hq.le h)) hlog
        have hhigh := abs_lt_ulp q
        have hlow := ulp_le_abs (hq.trans_le h).ne'
        rw [abs_of_pos hq] at hhigh
        rw [abs_of_pos (hq.trans_le h)] at hlow
        have hleft := toFloat_le (q := q) (a := 2 ^ 53) (by push_cast; exact hhigh.le)
        have hright := le_toFloat (q := r) (a := 2 ^ 52) (by push_cast; exact hlow)
        push_cast at hleft hright
        exact hleft.trans ((hgap hlt).trans hright)
    · rcases le_or_gt 0 r with hr | hr
      · have hleft := toFloat_le (q := q) (a := 0) (by simpa using hq.le)
        have hright := le_toFloat (q := r) (a := 0) (by simpa using hr)
        simp only [Int.cast_zero, zero_mul] at hleft hright
        exact hleft.trans hright
      · have habs : |r| ≤ |q| := by
          rw [abs_of_neg hr, abs_of_neg hq]
          exact neg_le_neg h
        have hlt : Int.log 2 |r| < Int.log 2 |q| :=
          lt_of_le_of_ne (Int.log_mono_right (abs_pos_of_neg hr) habs) (Ne.symm hlog)
        have hhigh := abs_lt_ulp r
        have hlow := ulp_le_abs hq.ne
        rw [abs_of_neg hr] at hhigh
        rw [abs_of_neg hq] at hlow
        have hleft := toFloat_le (q := q) (a := -2 ^ 52) (by push_cast; linarith)
        have hright := le_toFloat (q := r) (a := -2 ^ 53) (by push_cast; linarith)
        push_cast at hleft hright
        have hsteps := hgap hlt
        linarith

theorem toFloat_intCast (h : |n| < 2 ^ 53) : toFloat n = n := by
  rcases eq_or_ne n 0 with rfl | hn
  · rw [Int.cast_zero, toFloat_zero]
  · have hpos : 0 < |(n : Rat)| := abs_pos.mpr (Int.cast_ne_zero.mpr hn)
    have hsmall : |(n : Rat)| < 2 ^ (53 : Int) := by exact_mod_cast h
    have hbound : (2 : Rat) ^ Int.log 2 |(n : Rat)| < 2 ^ (53 : Int) :=
      lt_of_le_of_lt (by exact_mod_cast Int.zpow_log_le_self one_lt_two hpos) hsmall
    have hlog := (zpow_lt_zpow_iff_right₀ (one_lt_two (α := Rat))).mp hbound
    obtain ⟨j, hj⟩ := Int.eq_ofNat_of_zero_le (by omega : 0 ≤ 52 - Int.log 2 |(n : Rat)|)
    have hulp : ulp n = ((2 : Rat) ^ j)⁻¹ := by
      rw [ulp, ← zpow_natCast, ← zpow_neg]
      congr 1
      omega
    have hscaled : (n : Rat) / ulp n = (n * 2 ^ j : Int) := by
      rw [hulp, div_inv_eq_mul]
      push_cast
      rfl
    rw [toFloat, hscaled, rint_intCast, ← hscaled, div_mul_cancel₀ _ (ulp_pos _).ne']

theorem ulp_eq {e : Int} (hlow : (2 : Rat) ^ e ≤ |q|) (hhigh : |q| < 2 ^ (e + 1)) : ulp q = 2 ^ (e - 52) := by
  have hpos : 0 < |q| := (zpow_pos two_pos e).trans_le hlow
  have hbelow : (2 : Rat) ^ Int.log 2 |q| < 2 ^ (e + 1) :=
    lt_of_le_of_lt (by exact_mod_cast Int.zpow_log_le_self one_lt_two hpos) hhigh
  have habove : (2 : Rat) ^ e < 2 ^ (Int.log 2 |q| + 1) :=
    hlow.trans_lt (by exact_mod_cast Int.lt_zpow_succ_log_self one_lt_two |q|)
  rw [zpow_lt_zpow_iff_right₀ one_lt_two] at hbelow habove
  rw [ulp, (by omega : Int.log 2 |q| = e)]

end PduExamObserver.Rounding
