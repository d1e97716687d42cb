import Mathlib.Tactic.Ring
import PduExamObserver.Training.Packets

/-! # The windows that the model is given

A tick of the model is due once the oldest frame of the buffer is 5.93… seconds old, and the model is then given the
frames of the last six seconds. Whether these cover the ninety target times depends on where the frames lie. -/

namespace PduExamObserver.Training
open Brackets ResearchRuntime Rounding Showcase
set_option autoImplicit false

variable {arith : Arithmetic} {emit : EmitEnv} {source : List SourceFrame} {memory : Memory}
  {taken : List Observation} {observation : Observation}

/-! ## Interpolated poses -/

def InBand (taken : List Observation) : Prop :=
  taken.IsChain fun a b => 1000000000 ≤ 18 * (b.capturedNs - a.capturedNs) ∧
    12 * (b.capturedNs - a.capturedNs) ≤ 1000000000

def primaryPose (observation : Observation) : List Landmark := observation.landmarks.headD []

/-- Frames as the model wants them: the rate is in the band, and the last 6.1 seconds show one person, in good quality
and with a body that has its anchors. -/
structure Admitted (arith : Arithmetic) (emit : EmitEnv) (taken : List Observation) (nowNs : Int) : Prop where
  accepted : ∀ item ∈ taken, Accepted item
  band : InBand taken
  quality : ∀ item ∈ taken, nowNs - 6100000000 ≤ item.capturedNs → (frameScores emit item).1 = true
  single : ∀ item ∈ taken, nowNs - 6100000000 ≤ item.capturedNs → item.poseCount = 1
  anchors : ∀ item ∈ taken, nowNs - 6100000000 ≤ item.capturedNs →
    ∀ index ∈ anchorIndices, 0 < (landmarkAt (primaryPose item) index).visibility
  scale : ∀ item ∈ taken, nowNs - 6100000000 ≤ item.capturedNs → 1 / 1000000 < bodyScale arith.norm (primaryPose item)

theorem InBand.spread (h : InBand taken) {i j : Nat} (hij : i ≤ j) (hj : j < taken.length) :
    ((j - i : Nat) : Int) * 1000000000 ≤ 18 * (taken[j].capturedNs - taken[i].capturedNs) := by
  induction j, hij using Nat.le_induction with
  | base => simp
  | succ j hij ih =>
    have hearlier := ih (by omega)
    have hstep := (List.isChain_iff_getElem.mp h j hj).1
    have hcount : ((j + 1 - i : Nat) : Int) = ((j - i : Nat) : Int) + 1 := by omega
    rw [hcount]
    linarith

theorem InBand.increasing (h : InBand taken) : (taken.map Observation.capturedNs).Pairwise (· < ·) := by
  rw [List.pairwise_map, List.pairwise_iff_getElem]
  intro i j hi hj hij
  have hspread := h.spread hij.le hj
  omega

namespace Sample

variable {stepNs n : Nat}

end Sample

end PduExamObserver.Training
