import PduExamObserver.Authority.Attestations
import PduExamObserver.Native.RunConsumed

/-! # The capture of the D1-N2 worker

`_run_d1n2_capture` with `_d1n2_capture_payload`: the same loop and the same clean-up as the local preflight,
other exits before it, and a receipt of its own. -/

namespace PduExamObserver.Native
open Authority
set_option autoImplicit false

/-! ## The payload -/

/-- `_D1N2WorkerPlatform.ffmpeg_authority`: the platform holds the lease only once the probe has succeeded, so
that a failing probe leaves a lease that the platform does not know. -/
def LeaseCalls.d1n2FfmpegAuthority (calls : LeaseCalls) : Acquire FfmpegAuthority where
  answer := do
    calls.construct
    calls.probe
  leaves := calls.construct.isOk

namespace CaptureCalls

variable (calls : CaptureCalls)

end CaptureCalls

end PduExamObserver.Native
