import PduExamObserver.Native.Capture
import PduExamObserver.Native.LoopFacts

/-! # The first frame

Whether a capture has a measured frame, or ends with a privacy stop instead, is decided by the calls up to the
first turn of its loop. -/

namespace PduExamObserver.Native
set_option autoImplicit false

/-! ## What a halt leaves -/

namespace FrameTurn

variable {turn : FrameTurn} {sink : Bool} {loop : LoopState} {halt : Halt}

end FrameTurn

/-! ## The loop -/

theorem FrameTurn.Accepts.measured {turn : FrameTurn} {sink : Bool} {loop loop' : LoopState}
    {ingress dequeued latencyNs : Int} (h : turn.Accepts sink loop loop' ingress dequeued latencyNs) :
    loop'.run.firstIngressNs ≠ none ∧ loop'.run.previousIngressNs ≠ none := by
  rw [h.run]
  refine ⟨?_, nofun⟩
  unfold LoopState.recorded RunState.record
  dsimp only
  split <;> exact nofun

namespace CaptureCalls

variable (calls : CaptureCalls)

structure Starts : Prop where
  buffers : calls.buffers.isOk = true
  starting : calls.sink = true → calls.captureStarting.isOk = true
  launch : calls.launch.answer.isOk = true
  reader : calls.reader.isOk = true
  readerStarts : calls.startReader.isOk = true

end CaptureCalls

end PduExamObserver.Native
