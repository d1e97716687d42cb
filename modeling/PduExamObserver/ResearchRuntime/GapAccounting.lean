import Mathlib.Tactic.Linarith
import PduExamObserver.Library.Transition
import PduExamObserver.ResearchRuntime.Recorder

/-! # Gap accounting

The frames of one recording, in the order in which they are accepted. The recorder counts the frames that it
has written, so frames that come faster than its slots put it ahead of the capture times. -/

namespace PduExamObserver.ResearchRuntime
open Transition Rounding
set_option autoImplicit false

/-- The stream, and the capture times of the frames that it has taken, the last one first. -/
structure Recording where
  stream : ArtifactStream
  times : List Int
  deriving DecidableEq

def Recording.first (capturedNs : Int) : Option Recording :=
  ({ originNs := capturedNs } : ArtifactStream).write capturedNs 1 |>.map fun stream => ⟨stream, [capturedNs]⟩

def Recording.next (recording : Recording) (capturedNs : Int) (frameSeq : Nat) : Option Recording :=
  (recording.stream.write capturedNs frameSeq).map fun stream => ⟨stream, capturedNs :: recording.times⟩

def Recording.lastNs (recording : Recording) : Int := recording.times.headD 0

def recorder : System Recording (Int × Nat) where
  init recording := ∃ capturedNs, Recording.first capturedNs = some recording
  step recording frame after := recording.next frame.1 frame.2 = some after

def Increasing (recording : Recording) (frame : Int × Nat) : Prop := recording.lastNs < frame.1

namespace Recording

variable {recording after : Recording} {capturedNs : Int} {frameSeq : Nat}

/-- The slot of a capture time. -/
def slot (recording : Recording) (capturedNs : Int) : Int :=
  roundHalfEven ((capturedNs - recording.stream.originNs) * 15) 1000000000

def GapExceeded (recording : Recording) (capturedNs : Int) : Prop :=
  46 * 1000000000 < (capturedNs - recording.lastNs) * 15

def Aligned (recording : Recording) : Prop :=
  recording.slot recording.lastNs ≤ recording.stream.video.length ∧
    recording.stream.video.length ≤ recording.slot recording.lastNs + 2

instance (recording : Recording) : Decidable recording.Aligned := inferInstanceAs (Decidable (_ ∧ _))

instance (recording : Recording) (capturedNs : Int) : Decidable (recording.GapExceeded capturedNs) :=
  inferInstanceAs (Decidable (_ < _))

/-- What is asked of one write: a long interval fails, and a frame that is taken leaves the video aligned. -/
def Accounted (recording : Recording) (capturedNs : Int) (frameSeq : Nat) : Prop :=
  (recording.GapExceeded capturedNs → recording.next capturedNs frameSeq = none) ∧
    ∀ after, recording.next capturedNs frameSeq = some after → after.Aligned

/-- From every earlier frame on, the frames are at most one more than the slots, and across a long interval the slots
are more than the frames by over 45. -/
structure OnTime (recording : Recording) (capturedNs : Int) : Prop where
  paced : ∀ i (hi : i < recording.times.length),
    recording.slot recording.times[i] + (i + 1) ≤ recording.slot capturedNs + 1
  gap : recording.GapExceeded capturedNs → ∀ i (hi : i < recording.times.length),
    recording.slot recording.times[i] + (i + 1) + 45 < recording.slot capturedNs

/-- The interval is one slot at least, and not between 46 and 47 slots. -/
def Steady (recording : Recording) (frame : Int × Nat) : Prop :=
  1000000000 ≤ (frame.1 - recording.lastNs) * 15 ∧
    (recording.GapExceeded frame.1 → 47 * 1000000000 < (frame.1 - recording.lastNs) * 15)

instance (recording : Recording) (frame : Int × Nat) : Decidable (recording.Steady frame) :=
  inferInstanceAs (Decidable (_ ∧ _))

/-! ## What has been written -/

/-- The frames that are written for capture times whose slots are given. -/
def written (slot : Int → Int) : List Int → Int
  | [] => 0
  | capturedNs :: earlier => max (written slot earlier) (slot capturedNs) + 1

theorem written_le_iff {slot : Int → Int} {bound : Int} (times : List Int) : written slot times ≤ bound ↔
    (times.length : Int) ≤ bound ∧ ∀ i (hi : i < times.length), slot times[i] + (i + 1) ≤ bound := by
  induction times generalizing bound with
  | nil => simp [written]
  | cons capturedNs earlier ih =>
    have hmax : written slot (capturedNs :: earlier) ≤ bound ↔
        written slot earlier ≤ bound - 1 ∧ slot capturedNs ≤ bound - 1 := by
      rw [written, ← max_le_iff]
      omega
    rw [hmax, ih]
    constructor
    · rintro ⟨⟨hlength, hearlier⟩, hlast⟩
      refine ⟨by rw [List.length_cons]; push_cast; omega, fun i hi => ?_⟩
      cases i with
      | zero =>
        change slot capturedNs + ((0 : Nat) + 1) ≤ bound
        push_cast
        omega
      | succ i =>
        have hle := hearlier i (Nat.lt_of_succ_lt_succ hi)
        rw [List.getElem_cons_succ]
        push_cast
        omega
    · rintro ⟨hlength, hall⟩
      rw [List.length_cons] at hlength
      push_cast at hlength
      refine ⟨⟨by omega, fun i hi => ?_⟩, ?_⟩
      · have hle := hall (i + 1) (Nat.succ_lt_succ hi)
        rw [List.getElem_cons_succ] at hle
        push_cast at hle
        omega
      · have hle := hall 0 (Nat.succ_pos _)
        change slot capturedNs + ((0 : Nat) + 1) ≤ bound at hle
        push_cast at hle
        omega

structure Counted (recording : Recording) : Prop where
  video : recording.stream.writtenFrames = recording.stream.video.length
  last : recording.stream.lastFrame ≠ none
  written : recording.stream.writtenFrames = written recording.slot recording.times
  origin : recording.times.getLast? = some recording.stream.originNs

theorem Counted.nonempty (h : recording.Counted) : recording.times ≠ [] := by
  intro hnil
  have horigin := h.origin
  rw [hnil] at horigin
  cases horigin

theorem slot_origin (recording : Recording) : recording.slot recording.stream.originNs = 0 := by simp [slot, roundHalfEven]

theorem Counted.le_iff (h : recording.Counted) {bound : Int} : recording.stream.writtenFrames ≤ bound ↔
    ∀ i (hi : i < recording.times.length), recording.slot recording.times[i] + (i + 1) ≤ bound := by
  rw [h.written, written_le_iff, and_iff_right_iff_imp]
  intro hall
  -- the first frame has been at slot 0
  have hlength := List.length_pos_iff.mpr h.nonempty
  have hfirst := hall (recording.times.length - 1) (by omega)
  have horigin := h.origin
  rw [List.getLast?_eq_getElem?, List.getElem?_eq_getElem (by omega)] at horigin
  rw [Option.some.inj horigin] at hfirst
  have hzero := slot_origin recording
  omega

theorem slot_congr (h : after.stream.originNs = recording.stream.originNs) : after.slot = recording.slot := by
  funext capturedNs
  rw [slot, slot, h]

theorem next_eq_some (h : recording.Counted) (hnext : recording.next capturedNs frameSeq = some after) :
    after.Counted ∧ after.lastNs = capturedNs ∧ after.stream.originNs = recording.stream.originNs ∧
      (after.stream.video.length : Int) = max (recording.stream.writtenFrames : Int) (recording.slot capturedNs) + 1 := by
  unfold next at hnext
  rw [Option.map_eq_some_iff] at hnext
  obtain ⟨stream, hwrite, rfl⟩ := hnext
  obtain ⟨hgap, horigin, hlast, fills, lastFrame, hvideo, hwritten, hrepeated, -⟩ :=
    ArtifactStream.write_eq_some hwrite
  obtain ⟨-, rfl⟩ := hrepeated h.last
  have hmissing : recording.stream.missing capturedNs = recording.slot capturedNs - recording.stream.writtenFrames := rfl
  have hframes : (stream.writtenFrames : Int) =
      max (recording.stream.writtenFrames : Int) (recording.slot capturedNs) + 1 := by
    rw [hwritten, hmissing]
    push_cast
    omega
  have hlength : stream.writtenFrames = stream.video.length := by
    rw [hvideo, hwritten, h.video]
    simp only [List.length_append, List.length_replicate, List.length_singleton]
  refine ⟨⟨hlength, by simp [hlast], ?_, ?_⟩, rfl, horigin, hlength ▸ hframes⟩
  · rw [slot_congr horigin, written, ← h.written]
    exact hframes
  · rw [horigin, ← h.origin]
    exact List.getLast?_cons_of_ne_nil h.nonempty

theorem next_eq_none_iff : recording.next capturedNs frameSeq = none ↔
    recording.stream.writtenFrames + 45 < recording.slot capturedNs := by
  have hmissing : recording.stream.missing capturedNs = recording.slot capturedNs - recording.stream.writtenFrames := rfl
  rw [next, Option.map_eq_none_iff, ArtifactStream.write_eq_none_iff, hmissing]
  omega

theorem accounted_iff (h : recording.Counted) (capturedNs : Int) (frameSeq : Nat) :
    recording.Accounted capturedNs frameSeq ↔ recording.stream.writtenFrames ≤ recording.slot capturedNs + 1 ∧
      (recording.GapExceeded capturedNs → recording.stream.writtenFrames + 45 < recording.slot capturedNs) := by
  have haligned : (∀ after, recording.next capturedNs frameSeq = some after → after.Aligned) ↔
      recording.stream.writtenFrames ≤ recording.slot capturedNs + 1 := by
    constructor
    · intro hall
      cases hnext : recording.next capturedNs frameSeq with
      | none =>
        rw [next_eq_none_iff] at hnext
        omega
      | some after =>
        obtain ⟨-, hlast, horigin, hlength⟩ := next_eq_some h hnext
        have hlong := (hall after hnext).2
        rw [hlast, slot_congr horigin, hlength] at hlong
        omega
    · intro hahead after hnext
      obtain ⟨-, hlast, horigin, hlength⟩ := next_eq_some h hnext
      rw [Aligned, hlast, slot_congr horigin, hlength]
      omega
  rw [Accounted, haligned, next_eq_none_iff]
  exact And.comm

theorem accounted_iff_onTime (h : recording.Counted) (capturedNs : Int) (frameSeq : Nat) :
    recording.Accounted capturedNs frameSeq ↔ recording.OnTime capturedNs := by
  rw [accounted_iff h]
  constructor
  · rintro ⟨hpaced, hgap⟩
    refine ⟨h.le_iff.mp hpaced, fun hexceeded i hi => ?_⟩
    have hbound : recording.stream.writtenFrames ≤ recording.slot capturedNs - 46 := by
      have hlt := hgap hexceeded
      omega
    have hle := h.le_iff.mp hbound i hi
    omega
  · rintro ⟨hpaced, hgap⟩
    refine ⟨h.le_iff.mpr hpaced, fun hexceeded => ?_⟩
    have hbound : recording.stream.writtenFrames ≤ recording.slot capturedNs - 46 := by
      refine h.le_iff.mpr fun i hi => ?_
      have hlt := hgap hexceeded i hi
      omega
    omega

theorem first_counted (h : Recording.first capturedNs = some recording) : recording.Counted ∧ recording.Aligned := by
  unfold first at h
  rw [Option.map_eq_some_iff] at h
  obtain ⟨stream, hwrite, rfl⟩ := h
  obtain ⟨-, horigin, hlast, fills, lastFrame, hvideo, hwritten, -, hnone⟩ := ArtifactStream.write_eq_some hwrite
  obtain rfl := hnone rfl
  have hzero : (⟨stream, [capturedNs]⟩ : Recording).slot capturedNs = 0 :=
    (congrArg _ horigin.symm).trans (slot_origin _)
  refine ⟨⟨by simp [hwritten, hvideo], by simp [hlast], ?_, ?_⟩, ?_⟩
  · simp [written, hzero, hwritten]
  · rw [horigin]
    rfl
  · rw [Aligned, lastNs, List.headD_cons, hzero]
    simp [hvideo]

/-! ## Steady recordings -/

/-- The frames written are at most three halves of a slot ahead of the last capture time. -/
structure Paced (recording : Recording) : Prop where
  counted : recording.Counted
  ahead : 2 * 1000000000 * (recording.stream.writtenFrames : Int) ≤
    2 * ((recording.lastNs - recording.stream.originNs) * 15) + 3 * 1000000000

theorem slot_near (recording : Recording) (capturedNs : Int) :
    2 * ((capturedNs - recording.stream.originNs) * 15) ≤ 2 * (1000000000 * recording.slot capturedNs) + 1000000000 ∧
      2 * (1000000000 * recording.slot capturedNs) ≤ 2 * ((capturedNs - recording.stream.originNs) * 15) + 1000000000 :=
  roundHalfEven_near (by decide)

theorem first_paced (h : Recording.first capturedNs = some recording) : recording.Paced := by
  have hcounted := (first_counted h).1
  unfold first at h
  rw [Option.map_eq_some_iff] at h
  obtain ⟨stream, -, rfl⟩ := h
  have horigin : capturedNs = stream.originNs := by simpa using hcounted.origin
  have hzero : (⟨stream, [capturedNs]⟩ : Recording).slot capturedNs = 0 := (congrArg _ horigin).trans (slot_origin _)
  refine ⟨hcounted, ?_⟩
  rw [hcounted.written, written, written, hzero, lastNs, List.headD_cons, horigin, sub_self]
  decide

theorem Paced.accounted (h : recording.Paced) (hsteady : recording.Steady (capturedNs, frameSeq)) :
    recording.Accounted capturedNs frameSeq := by
  obtain ⟨hinterval, hgap⟩ := hsteady
  have hnear := slot_near recording capturedNs
  have hahead := h.ahead
  refine (accounted_iff h.counted capturedNs frameSeq).mpr ⟨by omega, fun hexceeded => ?_⟩
  have hlong := hgap hexceeded
  dsimp only at hlong
  omega

theorem Paced.next (h : recording.Paced) (hsteady : recording.Steady (capturedNs, frameSeq))
    (hnext : recording.next capturedNs frameSeq = some after) : after.Paced ∧ after.Aligned := by
  obtain ⟨hcounted, hlast, horigin, hlength⟩ := next_eq_some h.counted hnext
  have hinterval := hsteady.1
  have hnear := slot_near recording capturedNs
  have hahead := h.ahead
  refine ⟨⟨hcounted, ?_⟩, (h.accounted hsteady).2 after hnext⟩
  have hvideo : (after.stream.writtenFrames : Int) = after.stream.video.length := by exact_mod_cast hcounted.video
  rw [hvideo, hlength, hlast, horigin]
  dsimp only at hinterval
  omega

end Recording

theorem reachable_counted {guard : Recording → Int × Nat → Prop} {recording : Recording}
    (h : ReachableBy recorder guard recording) : recording.Counted := by
  refine h.invariant ?_ ?_
  · rintro recording ⟨capturedNs, hfirst⟩
    exact (Recording.first_counted hfirst).1
  · intro recording frame after hcounted _ hnext
    exact (Recording.next_eq_some hcounted hnext).1

/-- In every recording whose frames are all on time, or all steady, the video stays aligned with the capture times and every
further write is accounted for. And a write in any recording is accounted for exactly if its frame is on time. -/
theorem gap_accounting (recording : Recording) (capturedNs : Int) (frameSeq : Nat) :
    (ReachableBy recorder (fun r frame => Increasing r frame ∧ r.OnTime frame.1) recording →
      recording.Aligned ∧ (recording.OnTime capturedNs → recording.Accounted capturedNs frameSeq)) ∧
    (ReachableBy recorder Recording.Steady recording →
      recording.Aligned ∧ (recording.Steady (capturedNs, frameSeq) → recording.Accounted capturedNs frameSeq)) ∧
    (ReachableBy recorder Increasing recording →
      (recording.Accounted capturedNs frameSeq ↔ recording.OnTime capturedNs)) := by
  refine ⟨fun h => ⟨?_, fun hontime => ?_⟩, fun h => ?_, fun h => ?_⟩
  · have haccounted : recording.Counted ∧ recording.Aligned := by
      refine h.invariant (I := fun recording => recording.Counted ∧ recording.Aligned) ?_ ?_
      · rintro recording ⟨capturedNs, hfirst⟩
        exact Recording.first_counted hfirst
      · rintro recording ⟨capturedNs, frameSeq⟩ after ⟨hcounted, -⟩ ⟨-, hontime⟩ hnext
        exact ⟨(Recording.next_eq_some hcounted hnext).1,
          ((Recording.accounted_iff_onTime hcounted capturedNs frameSeq).mpr hontime).2 after hnext⟩
    exact haccounted.2
  · exact (Recording.accounted_iff_onTime (reachable_counted h) capturedNs frameSeq).mpr hontime
  · have hpaced : recording.Paced ∧ recording.Aligned := by
      refine h.invariant (I := fun recording => recording.Paced ∧ recording.Aligned) ?_ ?_
      · rintro recording ⟨capturedNs, hfirst⟩
        exact ⟨Recording.first_paced hfirst, (Recording.first_counted hfirst).2⟩
      · rintro recording ⟨capturedNs, frameSeq⟩ after ⟨hpaced, -⟩ hsteady hnext
        exact hpaced.next hsteady hnext
    exact ⟨hpaced.2, hpaced.1.accounted⟩
  · exact Recording.accounted_iff_onTime (reachable_counted h) capturedNs frameSeq

/-! ## A camera of 18 frames a second -/

def InBand (recording : Recording) (frame : Int × Nat) : Prop :=
  1000000000 ≤ (frame.1 - recording.lastNs) * 18 ∧ (frame.1 - recording.lastNs) * 12 ≤ 1000000000

instance (recording : Recording) (frame : Int × Nat) : Decidable (InBand recording frame) :=
  inferInstanceAs (Decidable (_ ∧ _))

/-- The recording after `n + 1` frames at 18 frames a second. -/
def Recording.fast (n : Nat) : Recording where
  stream := { originNs := 0, writtenFrames := n + 1, lastFrame := some (n + 1), video := List.range' 1 (n + 1) }
  times := (List.range (n + 1)).reverse.map fun i : Nat => 55555556 * (i : Int)

theorem fast_reachable (n : Nat) (hn : n ≤ 12) : ReachableBy recorder InBand (Recording.fast n) := by
  induction n with
  | zero => exact .init ⟨0, rfl⟩
  | succ n ih =>
    have hstep : ∀ n < 12, InBand (Recording.fast n) (55555556 * (n + 1), n + 2) ∧
        (Recording.fast n).next (55555556 * (n + 1)) (n + 2) = some (Recording.fast (n + 1)) := by decide
    obtain ⟨hband, hnext⟩ := hstep n (by omega)
    exact .step (ih (by omega)) hband hnext

/-- Thirteen frames at 18 frames a second put the video out of line, and a gap of 48 slots after them is taken. -/
theorem gap_compressed : ∃ recording, ReachableBy recorder InBand recording ∧ ¬ recording.Aligned ∧
    ∃ capturedNs, recording.GapExceeded capturedNs ∧ recording.next capturedNs 14 ≠ none :=
  ⟨Recording.fast 12, fast_reachable 12 (le_refl 12), by decide, 55555556 * 12 + 3200000000, by decide⟩

/-- The recording of two frames that are ten slots apart. -/
def Recording.filled : Recording where
  stream := { originNs := 0, writtenFrames := 11, lastFrame := some 2, video := List.replicate 10 1 ++ [2] }
  times := [666666667, 0]

/-- A gap of ten slots is filled, and the next one, of 48 slots, fails. -/
theorem gap_accounting_filled : Recording.filled.Aligned ∧ Recording.filled.Accounted 733333334 3 ∧
    Recording.filled.next 3866666668 3 = none := by
  have hfirst : ReachableBy recorder Recording.Steady (Recording.fast 0) := .init ⟨0, rfl⟩
  have hnext : (Recording.fast 0).next 666666667 2 = some Recording.filled := by decide
  have hfilled : ReachableBy recorder Recording.Steady Recording.filled :=
    .step hfirst (by decide) (a := (666666667, 2)) hnext
  obtain ⟨haligned, haccounted⟩ := (gap_accounting Recording.filled 733333334 3).2.1 hfilled
  have hfails := ((gap_accounting Recording.filled 3866666668 3).2.1 hfilled).2 (by decide)
  exact ⟨haligned, haccounted (by decide), hfails.1 (by decide)⟩

end PduExamObserver.ResearchRuntime
