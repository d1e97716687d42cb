import PduExamObserver.Library.Rounding

/-! # The runtime recorder

`_ArtifactStream` and the frame arithmetic of `_write_frame_locked`: the video has fixed slots of 1/15 s, and
the last received frame is repeated to fill the slots of a gap. A frame of the video is the `frame_seq` that
it shows. -/

namespace PduExamObserver.ResearchRuntime
open Rounding
set_option autoImplicit false

/-- `_ArtifactStream`; `video` is what the video writer has been given, in order. -/
structure ArtifactStream where
  originNs : Int
  writtenFrames : Nat := 0
  lastFrame : Option Nat := none
  video : List Nat := []
  deriving DecidableEq, Repr

namespace ArtifactStream

/-- `round((captured_ns - origin_ns) * 15 / 1_000_000_000)`. -/
def targetIndex (stream : ArtifactStream) (capturedNs : Int) : Int :=
  roundHalfEven ((capturedNs - stream.originNs) * 15) 1000000000

/-- `target_index - stream.written_frames`. -/
def missing (stream : ArtifactStream) (capturedNs : Int) : Int :=
  stream.targetIndex capturedNs - stream.writtenFrames

def fill (stream : ArtifactStream) (capturedNs : Int) : ArtifactStream :=
  match stream.lastFrame with
  | none => stream
  | some lastFrame =>
    let repeated := (stream.missing capturedNs).toNat
    { stream with
      writtenFrames := stream.writtenFrames + repeated
      video := stream.video ++ List.replicate repeated lastFrame }

/-- The video part of `_write_frame_locked`; none is the `FRAME_GAP_EXCEEDED` that it raises. -/
def write (stream : ArtifactStream) (capturedNs : Int) (frameSeq : Nat) : Option ArtifactStream :=
  if 45 < stream.missing capturedNs then none
  else
    let filled := stream.fill capturedNs
    some { filled with
      writtenFrames := filled.writtenFrames + 1
      lastFrame := some frameSeq
      video := filled.video ++ [frameSeq] }

variable {stream after : ArtifactStream} {capturedNs : Int} {frameSeq : Nat}

theorem write_eq_none_iff : stream.write capturedNs frameSeq = none ↔ 45 < stream.missing capturedNs := by
  unfold write
  split <;> simp_all

theorem write_eq_some (h : stream.write capturedNs frameSeq = some after) :
    stream.missing capturedNs ≤ 45 ∧ after.originNs = stream.originNs ∧ after.lastFrame = some frameSeq ∧
      ∃ fills lastFrame, after.video = stream.video ++ List.replicate fills lastFrame ++ [frameSeq] ∧
        after.writtenFrames = stream.writtenFrames + fills + 1 ∧
        (stream.lastFrame ≠ none → stream.lastFrame = some lastFrame ∧
          fills = (stream.missing capturedNs).toNat) ∧
        (stream.lastFrame = none → fills = 0) := by
  unfold write at h
  split at h
  · cases h
  · next hgap =>
    obtain rfl := Option.some.inj h
    refine ⟨by omega, ?_, rfl, ?_⟩
    · unfold fill
      split <;> rfl
    · cases hlast : stream.lastFrame with
      | none => exact ⟨0, 0, by simp [fill, hlast]⟩
      | some lastFrame => exact ⟨(stream.missing capturedNs).toNat, lastFrame, by simp [fill, hlast]⟩

end ArtifactStream

end PduExamObserver.ResearchRuntime
