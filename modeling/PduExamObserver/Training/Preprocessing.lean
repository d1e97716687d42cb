import Mathlib.Algebra.Order.Field.Rat
import Mathlib.Data.List.GetD
import PduExamObserver.Library.Binary64
import PduExamObserver.Library.Brackets
import PduExamObserver.ResearchRuntime.Schema

/-! # Resampling poses

The preprocessing that the runtime and the training package share: the poses of six seconds, resampled to 90 frames and
centred on the body. Arrays are lists and floats are rationals; the Euclidean norm and the rounding of the target times
are parameters. -/

namespace PduExamObserver.Training
open Brackets ResearchRuntime Rounding
set_option autoImplicit false

/-- The arithmetic of floats; only the target times are rounded. -/
structure Arithmetic where
  norm : Rat → Rat → Rat → Rat
  float : Rat → Rat
  mono : Monotone float
  zero : float 0 = 0

def exactArithmetic (norm : Rat → Rat → Rat → Rat) : Arithmetic := ⟨norm, id, monotone_id, rfl⟩

def binary64 (norm : Rat → Rat → Rat → Rat) : Arithmetic := ⟨norm, toFloat, toFloat_mono, toFloat_zero⟩

def windowFrames : Nat := 90

def landmarkCount : Nat := 33

def anchorIndices : List Nat := [11, 12, 23, 24]

structure SourceFrame where
  timestampNs : Int
  landmarks : List Landmark
  present : List Bool
  deriving DecidableEq

structure Feature where
  x : Rat
  y : Rat
  z : Rat
  visibility : Rat
  present : Rat
  deriving DecidableEq

abbrev Tensor := List (List Feature)

/-! ## Context rows -/

/-- `CONTEXT_ORDER`. -/
structure ContextRow where
  visibilityMean : Rat
  blurScore : Rat
  exposureScore : Rat
  frameGapRatio : Rat
  focusFraction : Rat
  scaledFocusSignalAge : Rat
  deriving DecidableEq

def columnMean (column : ContextRow → Rat) (rows : List ContextRow) : Rat := (rows.map column).sum / rows.length

def aggregateContextRows (rows : List ContextRow) : Except String ContextRow := do
  require (rows ≠ []) "context rows are empty"
  return {
    visibilityMean := columnMean ContextRow.visibilityMean rows
    blurScore := columnMean ContextRow.blurScore rows
    exposureScore := columnMean ContextRow.exposureScore rows
    frameGapRatio := columnMean ContextRow.frameGapRatio rows
    focusFraction := columnMean ContextRow.focusFraction rows
    scaledFocusSignalAge := columnMean ContextRow.scaledFocusSignalAge rows }

/-! ## Centring on the body -/

def missingLandmark : Landmark := ⟨0, 0, 0, 0⟩

def landmarkAt (pose : List Landmark) (index : Nat) : Landmark := pose.getD index missingLandmark

def middle (pose : List Landmark) (first second : Nat) : Rat × Rat × Rat :=
  let a := landmarkAt pose first
  let b := landmarkAt pose second
  ((a.x + b.x) / 2, (a.y + b.y) / 2, (a.z + b.z) / 2)

def hips (pose : List Landmark) : Rat × Rat × Rat := middle pose 23 24

def shoulders (pose : List Landmark) : Rat × Rat × Rat := middle pose 11 12

/-- `np.linalg.norm(shoulders - hips)`. -/
def bodyScale (norm : Rat → Rat → Rat → Rat) (pose : List Landmark) : Rat :=
  norm ((shoulders pose).1 - (hips pose).1) ((shoulders pose).2.1 - (hips pose).2.1)
    ((shoulders pose).2.2 - (hips pose).2.2)

def feature (norm : Rat → Rat → Rat → Rat) (pose : List Landmark) (point : Landmark) (present : Bool) : Feature :=
  if present then
    { x := (point.x - (hips pose).1) / bodyScale norm pose
      y := (point.y - (hips pose).2.1) / bodyScale norm pose
      z := (point.z - (hips pose).2.2) / bodyScale norm pose
      visibility := point.visibility
      present := 1 }
  else ⟨0, 0, 0, 0, 0⟩

def visible (pose : List Landmark) : Prop := ∀ point ∈ pose, 0 ≤ point.visibility ∧ point.visibility ≤ 1

instance (pose : List Landmark) : Decidable (visible pose) := by
  unfold visible
  infer_instance

/-- `preprocess_primary_pose_arrays`, for one window. -/
def preprocessPrimaryPoseArrays (norm : Rat → Rat → Rat → Rat) (poses : List (List Landmark × List Bool)) :
    Except String Tensor := do
  require (poses.length = windowFrames ∧ ∀ pose ∈ poses, pose.1.length = landmarkCount)
    "landmarks must have shape [batch, 90, 33, 4]"
  require (∀ pose ∈ poses, pose.2.length = pose.1.length) "present_mask shape is incompatible"
  require (∀ pose ∈ poses, visible pose.1) "visibility must be within [0, 1]"
  require (∀ pose ∈ poses, ∀ index ∈ anchorIndices, pose.2.getD index false = true)
    "body-center anchor landmark is missing"
  require (∀ pose ∈ poses, 1 / 1000000 < bodyScale norm pose.1) "body-center anchor scale is invalid"
  return poses.map fun pose => List.zipWith (feature norm pose.1) pose.1 pose.2

/-! ## Resampling -/

def times (source : List SourceFrame) : List Int := source.map SourceFrame.timestampNs

def validateSource (source : List SourceFrame) : Except String Unit := do
  require (2 ≤ source.length) "at least two source timestamps are required"
  require (∀ frame ∈ source, frame.landmarks.length = landmarkCount) "source landmarks have incompatible shape"
  require (∀ frame ∈ source, frame.present.length = frame.landmarks.length)
    "source present mask has incompatible shape"
  require ((times source).IsChain (· < ·)) "source timestamps must be strictly increasing"
  require (∀ frame ∈ source, visible frame.landmarks) "source visibility must be within [0, 1]"

def originNs (source : List SourceFrame) : Int := (times source).headD 0

/-- `timestamps[0] + np.arange(window_frames, dtype=np.float64) * step_ns`, at `k`. -/
def targetTime (float : Rat → Rat) (originNs : Int) (k : Nat) : Rat :=
  float (float originNs + float (k * float (1000000000 / 15)))

def targetNs (float : Rat → Rat) (source : List SourceFrame) (k : Nat) : Int := rint (targetTime float (originNs source) k)

def coversWindow (float : Rat → Rat) (source : List SourceFrame) : Prop :=
  targetTime float (originNs source) 89 ≤ float ((times source).getLastD 0)

instance (float : Rat → Rat) (source : List SourceFrame) : Decidable (coversWindow float source) :=
  inferInstanceAs (Decidable (_ ≤ _))

/-- `values[left] + (values[right] - values[left]) * weight`. -/
def lerp (weight : Rat) (a b : Landmark) : Landmark where
  x := a.x + (b.x - a.x) * weight
  y := a.y + (b.y - a.y) * weight
  z := a.z + (b.z - a.z) * weight
  visibility := a.visibility + (b.visibility - a.visibility) * weight

def blend (target : Int) (a b : SourceFrame) : List Landmark × List Bool :=
  let weight : Rat := (target - a.timestampNs) / (b.timestampNs - a.timestampNs)
  let present := List.zipWith (· && ·) a.present b.present
  (List.zipWith (fun present point => if present then point else missingLandmark) present
    (List.zipWith (lerp weight) a.landmarks b.landmarks), present)

def noFrame : SourceFrame := ⟨0, [], []⟩

def interpolated (source : List SourceFrame) (target : Int) : List Landmark × List Bool :=
  blend target (source.getD (left (times source) target) noFrame) (source.getD (right (times source) target) noFrame)

def resamplePoseWindow (arith : Arithmetic) (source : List SourceFrame) : Except String Tensor := do
  validateSource source
  require (coversWindow arith.float source) "source timeline does not cover the full six-second window"
  preprocessPrimaryPoseArrays arith.norm
    ((List.range windowFrames).map fun k => interpolated source (targetNs arith.float source k))

/-! ## The brackets of a window -/

variable {arith : Arithmetic} {source later : List SourceFrame} {tensor : Tensor}

def Influences (float : Rat → Rat) (source : List SourceFrame) (i : Nat) : Prop :=
  ∃ k < windowFrames, IsBracket (times source) (targetNs float source k) i

structure ValidSource (source : List SourceFrame) : Prop where
  length : 2 ≤ source.length
  landmarks : ∀ frame ∈ source, frame.landmarks.length = landmarkCount
  present : ∀ frame ∈ source, frame.present.length = frame.landmarks.length
  increasing : (times source).Pairwise (· < ·)
  visible : ∀ frame ∈ source, visible frame.landmarks

theorem validateSource_ok_iff : validateSource source = .ok () ↔ ValidSource source := by
  unfold validateSource
  simp only [bind_ok_iff, require_eq_ok, exists_const, List.isChain_iff_pairwise]
  exact ⟨fun ⟨hlength, hlandmarks, hpresent, hincreasing, hvisible⟩ =>
      ⟨hlength, hlandmarks, hpresent, hincreasing, hvisible⟩,
    fun h => ⟨h.length, h.landmarks, h.present, h.increasing, h.visible⟩⟩

theorem resamplePoseWindow_ok_iff : resamplePoseWindow arith source = .ok tensor ↔
    ValidSource source ∧ coversWindow arith.float source ∧ preprocessPrimaryPoseArrays arith.norm
      ((List.range windowFrames).map fun k => interpolated source (targetNs arith.float source k)) = .ok tensor := by
  unfold resamplePoseWindow
  simp only [bind_ok_iff, require_eq_ok]
  constructor
  · rintro ⟨⟨⟩, hvalid, ⟨⟩, hcovers, htensor⟩
    exact ⟨validateSource_ok_iff.mp hvalid, hcovers, htensor⟩
  · rintro ⟨hvalid, hcovers, htensor⟩
    exact ⟨(), validateSource_ok_iff.mpr hvalid, (), hcovers, htensor⟩

theorem targetTime_mono (arith : Arithmetic) (originNs : Int) {k j : Nat} (h : k ≤ j) :
    targetTime arith.float originNs k ≤ targetTime arith.float originNs j := by
  have hstep : 0 ≤ arith.float (1000000000 / 15) := by
    rw [← arith.zero]
    exact arith.mono (by norm_num)
  have hcount : (k : Rat) ≤ j := Nat.cast_le.mpr h
  exact arith.mono (add_le_add_right (arith.mono (mul_le_mul_of_nonneg_right hcount hstep)) _)

theorem targetNs_mono {k j : Nat} (h : k ≤ j) : targetNs arith.float source k ≤ targetNs arith.float source j :=
  rint_mono (targetTime_mono arith _ h)

/-- Below 2^53 ns the last target time is where the exact one is, between two nanoseconds. -/
theorem lastTarget_near {originNs : Int} (hsmall : |originNs| + 5933333334 < 2 ^ 53) :
    originNs + 5933333333 ≤ targetTime toFloat originNs 89 ∧ targetTime toFloat originNs 89 ≤ originNs + 5933333334 := by
  have habs := abs_le.mp (le_refl |originNs|)
  have hfloat {n : Int} (hlow : -(2 ^ 53) < n) (hhigh : n < 2 ^ 53) : toFloat n = n := toFloat_intCast (abs_lt.mpr ⟨hlow, hhigh⟩)
  obtain ⟨hlow, hhigh⟩ := abs_le.mp (toFloat_near (1000000000 / 15))
  norm_num at hlow hhigh
  have hstart := hfloat (n := originNs) (by omega) (by omega)
  have hoffset : 5933333333 ≤ toFloat ((89 : Nat) * toFloat (1000000000 / 15)) ∧
      toFloat ((89 : Nat) * toFloat (1000000000 / 15)) ≤ 5933333334 := by
    have hbefore := @toFloat_mono (5933333333 : Int) ((89 : Nat) * toFloat (1000000000 / 15)) (by push_cast; linarith)
    have hafter := @toFloat_mono ((89 : Nat) * toFloat (1000000000 / 15)) (5933333334 : Int) (by push_cast; linarith)
    rw [hfloat (by decide) (by decide)] at hbefore hafter
    exact ⟨by exact_mod_cast hbefore, by exact_mod_cast hafter⟩
  unfold targetTime
  rw [hstart]
  have hbefore := @toFloat_mono (originNs + 5933333333 : Int) (originNs + toFloat ((89 : Nat) * toFloat (1000000000 / 15)))
    (by push_cast; linarith [hoffset.1])
  have hafter := @toFloat_mono (originNs + toFloat ((89 : Nat) * toFloat (1000000000 / 15))) (originNs + 5933333334 : Int)
    (by push_cast; linarith [hoffset.2])
  rw [hfloat (by omega) (by omega)] at hbefore hafter
  exact ⟨by exact_mod_cast hbefore, by exact_mod_cast hafter⟩

/-- The last timestamp is a float, so that a window that is covered ends at it. -/
def EndsExactly (arith : Arithmetic) (source : List SourceFrame) : Prop :=
  arith.float ((times source).getLastD 0) = (times source).getLastD 0

theorem targetNs_le {k : Nat} (hk : k < windowFrames) (h : coversWindow arith.float source)
    (hends : EndsExactly arith source) : targetNs arith.float source k ≤ (times source).getLastD 0 := by
  have hlast := rint_mono h
  rw [hends, rint_intCast] at hlast
  exact (targetNs_mono (Nat.le_of_lt_succ hk)).trans hlast

theorem times_length (source : List SourceFrame) : (times source).length = source.length := List.length_map _

theorem searchsorted_lt {k : Nat} (hvalid : ValidSource source) (hcovers : coversWindow arith.float source)
    (hends : EndsExactly arith source) (hk : k < windowFrames) :
    searchsorted (times source) (targetNs arith.float source k) < (times source).length := by
  have hlength : 2 ≤ (times source).length := times_length source ▸ hvalid.length
  have hreach : targetNs arith.float source k ≤ (times source)[(times source).length - 1] := by
    have hle := targetNs_le hk hcovers hends
    rwa [List.getLastD_eq_getLast?, List.getLast?_eq_getElem?, List.getElem?_eq_getElem (by omega),
      Option.getD_some] at hle
  have hlast := (searchsorted_le_iff hvalid.increasing (by omega)).mpr hreach
  omega

theorem influences_lt_iff (hvalid : ValidSource source) (hlong : windowFrames ≤ source.length) :
    (∀ i, Influences arith.float source i → i < windowFrames) ↔
      source.length = windowFrames ∨ targetNs arith.float source 89 ≤ (times source).getD 89 0 := by
  have hlength : 89 < (times source).length := by
    rw [times_length]
    exact hlong
  have hwithin {i k : Nat} (hbracket : IsBracket (times source) (targetNs arith.float source k) i) :
      i ≤ right (times source) (targetNs arith.float source k) := by
    rcases hbracket with rfl | rfl
    · exact left_le_right _ _
    · exact Nat.le_refl _
  by_cases hshort : source.length = windowFrames
  · refine iff_of_true ?_ (.inl hshort)
    rintro i ⟨k, -, hbracket⟩
    have hright := right_lt_length (List.ne_nil_of_length_pos (Nat.zero_lt_of_lt hlength)) (targetNs arith.float source k)
    rw [times_length, hshort] at hright
    exact Nat.lt_of_le_of_lt (hwithin hbracket) hright
  · have hmore : 89 + 1 < (times source).length := by
      rw [times_length]
      exact lt_of_le_of_ne hlong (Ne.symm hshort)
    rw [or_iff_right hshort, List.getD_eq_getElem _ _ hlength]
    have hiff (k : Nat) : right (times source) (targetNs arith.float source k) ≤ 89 ↔
        targetNs arith.float source k ≤ (times source)[89] :=
      right_le_iff hvalid.increasing hlength (by omega) (.inl hmore)
    constructor
    · intro hbounded
      exact (hiff 89).mp (Nat.le_of_lt_succ (hbounded _ ⟨89, by decide, .inr rfl⟩))
    · rintro hreach i ⟨k, hk, hbracket⟩
      have hright := (hiff k).mpr ((targetNs_mono (Nat.le_of_lt_succ hk)).trans hreach)
      exact Nat.lt_succ_of_le ((hwithin hbracket).trans hright)

/-! ## A source that goes on -/

theorem originNs_append (h : source ≠ []) : originNs (source ++ later) = originNs source := by
  obtain ⟨first, rest, rfl⟩ := List.exists_cons_of_ne_nil h
  rfl

theorem targetNs_append (float : Rat → Rat) (h : source ≠ []) (k : Nat) :
    targetNs float (source ++ later) k = targetNs float source k := by
  rw [targetNs, originNs_append h, targetNs]

theorem interpolated_append {k : Nat} (hvalid : ValidSource source) (hcovers : coversWindow arith.float source)
    (hends : EndsExactly arith source) (hk : k < windowFrames) :
    interpolated (source ++ later) (targetNs arith.float source k) = interpolated source (targetNs arith.float source k) := by
  have hreach := searchsorted_lt hvalid hcovers hends hk
  have hlength : 2 ≤ (times source).length := times_length source ▸ hvalid.length
  have hnil : times source ≠ [] := List.ne_nil_of_length_pos (by omega)
  have hright : right (times source) (targetNs arith.float source k) < source.length := by
    rw [← times_length]
    exact right_lt_length hnil _
  have hleft := Nat.lt_of_le_of_lt (left_le_right (times source) (targetNs arith.float source k)) hright
  unfold interpolated
  rw [show times (source ++ later) = times source ++ times later from List.map_append,
    left_append hlength hreach, right_append hlength hreach, List.getD_append _ _ _ _ hleft,
    List.getD_append _ _ _ _ hright]

theorem resamplePoseWindow_append (hvalid : ValidSource source) (hcovers : coversWindow arith.float source)
    (hends : EndsExactly arith source) (hall : ValidSource (source ++ later))
    (hcoversAll : coversWindow arith.float (source ++ later)) :
    resamplePoseWindow arith (source ++ later) = .ok tensor ↔ resamplePoseWindow arith source = .ok tensor := by
  have hnil : source ≠ [] := List.ne_nil_of_length_pos (by have hlength := hvalid.length; omega)
  have hsame :
      ((List.range windowFrames).map fun k => interpolated (source ++ later) (targetNs arith.float (source ++ later) k)) =
        (List.range windowFrames).map fun k => interpolated source (targetNs arith.float source k) := by
    refine List.map_congr_left fun k hk => ?_
    rw [targetNs_append _ hnil, interpolated_append hvalid hcovers hends (List.mem_range.mp hk)]
  rw [resamplePoseWindow_ok_iff, resamplePoseWindow_ok_iff, hsame]
  simp only [hvalid, hcovers, hall, hcoversAll, true_and]

/-! ## A pose that stands still -/

theorem interpolated_still {pose : List Landmark} {present : List Bool} (hvalid : ValidSource source)
    (hstill : ∀ frame ∈ source, frame.landmarks = pose ∧ frame.present = present)
    (hpresent : present = List.replicate pose.length true) (target : Int) :
    interpolated source target = (pose, present) := by
  have hlength := hvalid.length
  have hnil : times source ≠ [] := List.ne_nil_of_length_pos (by rw [times_length]; omega)
  have hright : right (times source) target < source.length := by
    rw [← times_length]
    exact right_lt_length hnil target
  have hleft := Nat.lt_of_le_of_lt (left_le_right (times source) target) hright
  have hmerge : ∀ weight : Rat, ∀ l : List Landmark, List.zipWith (lerp weight) l l = l := by
    intro weight l
    induction l with
    | nil => rfl
    | cons point rest ih => simp [lerp]
  have hmask : ∀ l : List Landmark,
      List.zipWith (fun present point => if present then point else missingLandmark) (List.replicate l.length true) l = l := by
    intro l
    induction l with
    | nil => rfl
    | cons point rest ih => simp [List.replicate_succ, ih]
  have hand : List.zipWith (· && ·) present present = present := by
    rw [hpresent]
    simp
  unfold interpolated blend
  rw [List.getD_eq_getElem _ _ hleft, List.getD_eq_getElem _ _ hright]
  obtain ⟨hl, hlp⟩ := hstill _ (List.getElem_mem hleft)
  obtain ⟨hr, hrp⟩ := hstill _ (List.getElem_mem hright)
  simp only [hl, hr, hlp, hrp, hand, hmerge]
  rw [hpresent, hmask]

theorem resample_still {pose : List Landmark} {present : List Bool}
    (hvalid : ValidSource source) (hcovers : coversWindow arith.float source)
    (hstill : ∀ frame ∈ source, frame.landmarks = pose ∧ frame.present = present)
    (hpresent : present = List.replicate pose.length true) (hlength : pose.length = landmarkCount) (hvisible : visible pose)
    (hscale : 1 / 1000000 < bodyScale arith.norm pose) : ∃ tensor, resamplePoseWindow arith source = .ok tensor := by
  simp only [resamplePoseWindow_ok_iff, hvalid, hcovers, true_and, interpolated_still hvalid hstill hpresent]
  have hsame : ∀ entry ∈ (List.range windowFrames).map fun _ => (pose, present), entry = (pose, present) := by
    intro entry hmem
    obtain ⟨k, -, rfl⟩ := List.mem_map.mp hmem
    rfl
  have hanchors : ∀ index ∈ anchorIndices, present.getD index false = true := by
    rw [hpresent, hlength]
    decide
  unfold preprocessPrimaryPoseArrays
  simp only [bind_ok_iff, require_eq_ok]
  refine ⟨_, (), ⟨by simp [windowFrames], ?_⟩, (), ?_, (), ?_, (), ?_, (), ?_, rfl⟩ <;> intro entry hmem <;>
    rw [hsame entry hmem]
  · exact hlength
  · simp [hpresent]
  · exact hvisible
  · exact hanchors
  · exact hscale

end PduExamObserver.Training
