import Mathlib.Tactic.Linarith
import Mathlib.Tactic.FieldSimp
import PduExamObserver.Training.Preprocessing

/-! # What resampling takes from the source

A target time lies between the two frames that are used for it, and what is interpolated lies between their values. A
target that is the time of a frame is that frame, except that the first one is still combined with the second. The
target times are exact but for their rounding to nanoseconds. -/

namespace PduExamObserver.Training
open Brackets ResearchRuntime Rounding
set_option autoImplicit false

variable {source : List SourceFrame} {frame : SourceFrame} {target : Int} {i k : Nat}

/-! ## What is not invented -/

def alone (frame : SourceFrame) : List Landmark × List Bool :=
  (List.zipWith (fun present point => if present then point else missingLandmark) frame.present frame.landmarks,
    frame.present)

def leftFrame (source : List SourceFrame) (target : Int) : SourceFrame :=
  source.getD (left (times source) target) noFrame

def rightFrame (source : List SourceFrame) (target : Int) : SourceFrame :=
  source.getD (right (times source) target) noFrame

def Within (a b x : Rat) : Prop := min a b ≤ x ∧ x ≤ max a b

structure NotInvented (source : List SourceFrame) (target : Int) : Prop where
  brackets : (leftFrame source target).timestampNs ≤ target ∧ target ≤ (rightFrame source target).timestampNs
  present : ∀ j, (interpolated source target).2.getD j false = true →
    (leftFrame source target).present.getD j false = true ∧ (rightFrame source target).present.getD j false = true
  exact : ∀ frame ∈ source, frame.timestampNs = target → interpolated source target = alone frame
  within : ∀ j, (interpolated source target).2.getD j false = true →
    let a := landmarkAt (leftFrame source target).landmarks j
    let b := landmarkAt (rightFrame source target).landmarks j
    let point := landmarkAt (interpolated source target).1 j
    Within a.x b.x point.x ∧ Within a.y b.y point.y ∧ Within a.z b.z point.z ∧
      Within a.visibility b.visibility point.visibility

/-! ## Brackets -/

theorem left_lt (h : ValidSource source) (target : Int) : left (times source) target < source.length := by
  have hnil : times source ≠ [] := List.ne_nil_of_length_pos (by rw [times_length]; have := h.length; omega)
  rw [← times_length]
  exact (left_le_right _ _).trans_lt (right_lt_length hnil target)

theorem right_lt (h : ValidSource source) (target : Int) : right (times source) target < source.length := by
  have hnil : times source ≠ [] := List.ne_nil_of_length_pos (by rw [times_length]; have := h.length; omega)
  rw [← times_length]
  exact right_lt_length hnil target

theorem leftFrame_mem (h : ValidSource source) (target : Int) : leftFrame source target ∈ source := by
  unfold leftFrame
  rw [List.getD_eq_getElem _ _ (left_lt h target)]
  exact List.getElem_mem _

theorem rightFrame_mem (h : ValidSource source) (target : Int) : rightFrame source target ∈ source := by
  unfold rightFrame
  rw [List.getD_eq_getElem _ _ (right_lt h target)]
  exact List.getElem_mem _

theorem originNs_eq (source : List SourceFrame) : originNs source = (source.getD 0 noFrame).timestampNs := by
  cases source <;> rfl

theorem targetNs_zero (source : List SourceFrame) : targetNs id source 0 = originNs source := by
  rw [targetNs, targetTime, Nat.cast_zero, zero_mul, id, id, id, add_zero, rint_intCast]

theorem brackets_target (h : ValidSource source) (hcovers : coversWindow id source) (hk : k < windowFrames) :
    (leftFrame source (targetNs id source k)).timestampNs ≤ targetNs id source k ∧
      targetNs id source k ≤ (rightFrame source (targetNs id source k)).timestampNs := by
  let arith := exactArithmetic fun _ _ _ => 0
  have hleft := left_lt h (targetNs id source k)
  have hright := right_lt h (targetNs id source k)
  constructor
  · have hle := @left_le _ _ _ (targetNs id source k) h.increasing ?_ (by rwa [times_length])
    · unfold leftFrame
      rw [List.getD_eq_getElem _ _ hleft]
      simpa [times] using hle
    · have hpos : 0 < (times source).length := by
        rw [times_length]
        exact Nat.lt_of_le_of_lt (Nat.zero_le _) hleft
      refine ⟨(times source)[0], List.getElem?_eq_getElem hpos, ?_⟩
      have hfirst : (times source)[0] = (source.getD 0 noFrame).timestampNs := by
        rw [List.getD_eq_getElem _ _ (by rwa [times_length] at hpos)]
        simp [times]
      rw [hfirst, ← originNs_eq, ← targetNs_zero]
      exact @targetNs_mono arith source 0 k (Nat.zero_le k)
  · have hreach : searchsorted (times source) (targetNs id source k) < (times source).length :=
      @searchsorted_lt arith source k h hcovers rfl hk
    have hle := le_right h.increasing hreach (by rwa [times_length])
    unfold rightFrame
    rw [List.getD_eq_getElem _ _ hright]
    simpa [times] using hle

/-! ## Blending -/

theorem lerp_within {a b weight : Rat} (h0 : 0 ≤ weight) (h1 : weight ≤ 1) : Within a b (a + (b - a) * weight) := by
  constructor
  · obtain hle | hle := le_total a b
    · rw [min_eq_left hle]
      have hnonneg := mul_nonneg (sub_nonneg.mpr hle) h0
      linarith
    · rw [min_eq_right hle]
      have hle' := mul_le_mul_of_nonneg_left h1 (sub_nonneg.mpr hle)
      linarith
  · obtain hle | hle := le_total a b
    · rw [max_eq_right hle]
      have hle' := mul_le_mul_of_nonneg_left h1 (sub_nonneg.mpr hle)
      linarith
    · rw [max_eq_left hle]
      have hnonneg := mul_nonneg (sub_nonneg.mpr hle) h0
      linarith

theorem weight_mem_unit {first last : Int} (hfirst : first ≤ target) (hlast : target ≤ last) :
    0 ≤ ((target - first) / (last - first) : Rat) ∧ ((target - first) / (last - first) : Rat) ≤ 1 := by
  have hnum : (0 : Rat) ≤ target - first := sub_nonneg.mpr (Int.cast_le.mpr hfirst)
  have hle : (target - first : Rat) ≤ last - first := sub_le_sub_right (Int.cast_le.mpr hlast) _
  exact ⟨div_nonneg hnum (hnum.trans hle), div_le_one_of_le₀ hle (hnum.trans hle)⟩

theorem lerp_zero (a b : Landmark) : lerp 0 a b = a := by simp [lerp]

theorem zipWith_lerp_zero {a b : List Landmark} (h : a.length = b.length) : List.zipWith (lerp 0) a b = a := by
  induction a generalizing b with
  | nil => rfl
  | cons point a ih =>
    cases b with
    | nil => cases h
    | cons other b => rw [List.zipWith_cons_cons, lerp_zero, ih (Nat.succ.inj h)]

theorem zipWith_and_eq_iff {p q : List Bool} (h : p.length = q.length) :
    List.zipWith (· && ·) p q = p ↔ ∀ j, p.getD j false = true → q.getD j false = true := by
  induction p generalizing q with
  | nil => simp
  | cons x p ih =>
    cases q with
    | nil => cases h
    | cons y q =>
      rw [List.zipWith_cons_cons, List.cons.injEq, ih (Nat.succ.inj h)]
      constructor
      · rintro ⟨hhead, hrest⟩ j hj
        cases j with
        | zero =>
          obtain rfl : x = true := hj
          exact hhead
        | succ j => exact hrest j hj
      · intro hall
        refine ⟨?_, fun j hj => hall (j + 1) hj⟩
        have hhead := hall 0
        cases x with
        | false => rfl
        | true => exact hhead rfl

theorem blend_own {a b : SourceFrame} (htime : a.timestampNs = target) (hlength : a.landmarks.length = b.landmarks.length) :
    blend target a b = alone { a with present := List.zipWith (· && ·) a.present b.present } := by
  unfold blend alone
  dsimp only
  rw [htime, sub_self, zero_div, zipWith_lerp_zero hlength]

theorem blend_self (htime : frame.timestampNs = target) : blend target frame frame = alone frame := by
  rw [blend_own htime rfl, (zipWith_and_eq_iff rfl).mpr fun _ => id]

/-! ## Targets that are met exactly -/

theorem interpolated_exact (h : ValidSource source) (hi : i + 1 < source.length)
    (htime : (source.get ⟨i + 1, hi⟩).timestampNs = target) :
    interpolated source target = alone (source.get ⟨i + 1, hi⟩) := by
  have hlength : i + 1 < (times source).length := by rwa [times_length]
  have htimes : (times source)[i + 1] = target := by simpa [times] using htime
  have hle : searchsorted (times source) target ≤ i + 1 := (searchsorted_le_iff h.increasing hlength).mpr htimes.ge
  have hpast : ¬ searchsorted (times source) target ≤ i := by
    rw [searchsorted_le_iff h.increasing (by omega), not_le, ← htimes]
    exact List.pairwise_iff_getElem.mp h.increasing _ _ _ _ (Nat.lt_succ_self i)
  have hright : right (times source) target = i + 1 := by
    unfold right
    omega
  have hleft : left (times source) target = i + 1 := by
    unfold left
    rw [hright, List.getElem?_eq_getElem hlength, htimes, if_pos rfl]
  unfold interpolated
  rw [hleft, hright, List.getD_eq_getElem _ _ hi]
  exact blend_self htime

theorem interpolated_first (h : ValidSource source) (htime : (source.getD 0 noFrame).timestampNs = target) :
    interpolated source target = blend target (source.getD 0 noFrame) (source.getD 1 noFrame) := by
  have hlong := h.length
  have hzero : 0 < (times source).length := by rw [times_length]; omega
  have hone : 1 < (times source).length := by rw [times_length]; omega
  have htimes : (times source)[0] = target := by
    rw [List.getD_eq_getElem _ _ (by omega)] at htime
    simpa [times] using htime
  have hsearch : searchsorted (times source) target ≤ 0 := (searchsorted_le_iff h.increasing hzero).mpr htimes.ge
  have hright : right (times source) target = 1 := by
    unfold right
    omega
  have hleft : left (times source) target = 0 := by
    have hlt := List.pairwise_iff_getElem.mp h.increasing 0 1 hzero hone Nat.zero_lt_one
    unfold left
    rw [hright, List.getElem?_eq_getElem hone, if_neg fun heq => ?_]
    rw [htimes, Option.some.inj heq] at hlt
    exact lt_irrefl _ hlt
  unfold interpolated
  rw [hleft, hright]

theorem lengths_eq (h : ValidSource source) {a b : SourceFrame} (ha : a ∈ source) (hb : b ∈ source) :
    a.landmarks.length = b.landmarks.length ∧ a.present.length = b.present.length := by
  have hlandmarks : a.landmarks.length = b.landmarks.length := (h.landmarks a ha).trans (h.landmarks b hb).symm
  exact ⟨hlandmarks, (h.present a ha).trans (hlandmarks.trans (h.present b hb).symm)⟩

theorem interpolated_first_iff (h : ValidSource source) (htime : (source.getD 0 noFrame).timestampNs = target) :
    interpolated source target = alone (source.getD 0 noFrame) ↔
      ∀ j, (source.getD 0 noFrame).present.getD j false = true → (source.getD 1 noFrame).present.getD j false = true := by
  have hlong := h.length
  have hzero : source.getD 0 noFrame ∈ source := by
    rw [List.getD_eq_getElem _ _ (by omega)]
    exact List.getElem_mem _
  have hone : source.getD 1 noFrame ∈ source := by
    rw [List.getD_eq_getElem _ _ (by omega)]
    exact List.getElem_mem _
  obtain ⟨hlandmarks, hpresent⟩ := lengths_eq h hzero hone
  rw [interpolated_first h htime, blend_own htime hlandmarks, ← zipWith_and_eq_iff hpresent]
  constructor
  · exact fun heq => congrArg Prod.snd heq
  · intro heq
    rw [heq]

/-! ## Every target -/

theorem getD_zipWith_and {p q : List Bool} {j : Nat} (h : (List.zipWith (· && ·) p q).getD j false = true) :
    p.getD j false = true ∧ q.getD j false = true := by
  induction p generalizing q j with
  | nil => cases h
  | cons x p ih =>
    cases q with
    | nil => cases h
    | cons y q =>
      cases j with
      | zero => exact Bool.and_eq_true_iff.mp h
      | succ j => exact ih h

theorem blend_within {a b : SourceFrame} (hlengths : a.landmarks.length = b.landmarks.length)
    (hpresent : a.present.length = a.landmarks.length) {j : Nat}
    (h : (List.zipWith (· && ·) a.present b.present).getD j false = true) :
    landmarkAt (blend target a b).1 j = lerp ((target - a.timestampNs) / (b.timestampNs - a.timestampNs))
      (landmarkAt a.landmarks j) (landmarkAt b.landmarks j) := by
  have hj : j < (List.zipWith (· && ·) a.present b.present).length := by
    by_contra hout
    rw [List.getD_eq_default _ _ (not_lt.mp hout)] at h
    cases h
  have hlt : j < a.landmarks.length := by
    rw [List.length_zipWith] at hj
    omega
  have hlt' : j < b.landmarks.length := hlengths ▸ hlt
  rw [List.getD_eq_getElem _ _ hj, List.getElem_zipWith] at h
  unfold landmarkAt blend
  dsimp only
  rw [List.getD_eq_getElem _ _ hlt, List.getD_eq_getElem _ _ hlt',
    List.getD_eq_getElem _ _ (by simp only [List.length_zipWith] at hj ⊢; omega), List.getElem_zipWith,
    List.getElem_zipWith, if_pos h, List.getElem_zipWith]

/-- At every target time nothing is invented, exactly if the second frame has the landmarks that the first one has. -/
theorem notInvented_iff (hvalid : validateSource source = .ok ()) (hcovers : coversWindow id source) :
    (∀ k < windowFrames, NotInvented source (targetNs id source k)) ↔
      ∀ j, (source.getD 0 noFrame).present.getD j false = true → (source.getD 1 noFrame).present.getD j false = true := by
  have h := validateSource_ok_iff.mp hvalid
  have hlong := h.length
  have hfirst : (source.getD 0 noFrame).timestampNs = targetNs id source 0 := by rw [targetNs_zero, originNs_eq]
  constructor
  · intro hall
    refine (interpolated_first_iff h hfirst).mp ?_
    refine (hall 0 (by decide)).exact _ ?_ hfirst
    rw [List.getD_eq_getElem _ _ (by omega)]
    exact List.getElem_mem _
  · intro hsecond k hk
    have hbrackets := brackets_target h hcovers hk
    have hleft := leftFrame_mem h (targetNs id source k)
    have hright := rightFrame_mem h (targetNs id source k)
    refine ⟨hbrackets, fun j hj => getD_zipWith_and hj, ?_, ?_⟩
    · intro frame hmem htime
      obtain ⟨i, hi, rfl⟩ := List.mem_iff_getElem.mp hmem
      cases i with
      | zero =>
        have hget : source.getD 0 noFrame = source[0] := List.getD_eq_getElem _ _ hi
        rw [← hget] at htime ⊢
        exact (interpolated_first_iff h htime).mpr hsecond
      | succ i => exact interpolated_exact h hi htime
    · intro j hj
      have hpoint := @blend_within (targetNs id source k) _ _ (lengths_eq h hleft hright).1 (h.present _ hleft) j hj
      obtain ⟨h0, h1⟩ := weight_mem_unit hbrackets.1 hbrackets.2
      dsimp only
      unfold interpolated leftFrame rightFrame at *
      rw [hpoint]
      exact ⟨lerp_within h0 h1, lerp_within h0 h1, lerp_within h0 h1, lerp_within h0 h1⟩

def loses (lost : Bool) : List SourceFrame :=
  let pose := (List.range landmarkCount).map fun i => ⟨0, i, 0, 1⟩
  [⟨0, pose, List.replicate landmarkCount true⟩, ⟨6000000000, pose, (!lost) :: List.replicate 32 true⟩]

theorem loses_valid (lost : Bool) : validateSource (loses lost) = .ok () := by
  rw [validateSource_ok_iff]
  refine ⟨le_refl 2, ?_, ?_, ?_, ?_⟩
  · simp [loses]
  · simp [loses, landmarkCount]
  · simp [loses, times]
  · simp [loses, visible]

theorem loses_covers (lost : Bool) : coversWindow id (loses lost) := by
  norm_num [coversWindow, targetTime, originNs, loses, times]

theorem notInvented_iff_kept : validateSource (loses false) = .ok () ∧
    ∀ k < windowFrames, NotInvented (loses false) (targetNs id (loses false) k) := by
  refine ⟨loses_valid false, (notInvented_iff (loses_valid false) (loses_covers false)).mpr fun j => ?_⟩
  exact id

/-- The landmark is missing at the time of the first frame, which has it. -/
theorem invents_loss : validateSource (loses true) = .ok () ∧ coversWindow id (loses true) ∧
    ¬ ∀ k < windowFrames, NotInvented (loses true) (targetNs id (loses true) k) := by
  refine ⟨loses_valid true, loses_covers true, fun hall => ?_⟩
  have hzero : (loses true).getD 0 noFrame ∈ loses true := List.mem_cons_self
  have htime : ((loses true).getD 0 noFrame).timestampNs = targetNs id (loses true) 0 := by rw [targetNs_zero, originNs_eq]
  have hexact := (hall 0 (by decide)).exact _ hzero htime
  have hkept := (interpolated_first_iff (validateSource_ok_iff.mp (loses_valid true)) htime).mp hexact
  exact absurd (hkept 0 rfl) (by decide)

end PduExamObserver.Training
