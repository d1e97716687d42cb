import PduExamObserver.Native.Frames

/-! # The calls of a capture

What a capture worker calls apart from the frame loop, with the answer of each call: the platform, the media
runtime, the event sink, the child process and its reader. A call that obtains something may raise and leave
it behind. -/

namespace PduExamObserver.Native
open Authority
set_option autoImplicit false

structure CameraCandidate where
  friendlyName : String
  present : Bool
  statusOk : Bool

def safeDirectshowName (value : String) : Bool :=
  1 ≤ value.length && value.length ≤ 128
    && value.toList.all fun c => c.isAlphanum || c ∈ [' ', '_', '(', ')', '.', '-']

/-- A call that obtains a resource; `leaves` says whether it is left behind when the call raises. -/
structure Acquire (α : Type) where
  answer : Except Raised α
  leaves : Bool := false

def Acquire.obtained {α : Type} (call : Acquire α) : Bool :=
  match call.answer with
  | .ok _ => true
  | .error _ => call.leaves

/-- What `ffmpeg_authority` returns. -/
structure FfmpegAuthority where
  executable : String
  sha256 : String
  version : String

/-- `_platform_ffmpeg_identity`, for a platform with or without `ffmpeg_identity`. -/
def platformFfmpegIdentity (rt : Runtime) (method : Option (Except Raised (Int × String)))
    (authority : FfmpegAuthority) : Except Raised (Int × String) :=
  match method with
  | none =>
    .ok (1, rt.digest (.list [.str "injected-native-platform", .str authority.sha256, .str authority.version]))
  | some answer => do
    let (size, identity) ← answer
    require (0 < size ∧ isHexDigest identity = true) .valueError
    return (size, identity)

/-- The two steps of `ffmpeg_authority`: the lease, and the probe under it. -/
structure LeaseCalls where
  construct : Except Raised Unit
  probe : Except Raised FfmpegAuthority

/-- `WindowsNativePlatform.ffmpeg_authority`: the platform holds the lease from its construction on. -/
def LeaseCalls.ffmpegAuthority (calls : LeaseCalls) : Acquire FfmpegAuthority where
  answer := do
    calls.construct
    calls.probe
  leaves := calls.construct.isOk

structure ClosingCalls where
  /-- `child.terminate(); child.wait(timeout=2.0)` -/
  terminate : Except Raised Unit
  /-- `kill(); child.wait(timeout=2.0)`, where the child has `kill` -/
  kill : Option (Except Raised Unit)
  stopReader : Except Raised Bool
  closeStdout : Except Raised Unit
  /-- whether both buffers are zero after the loop over them -/
  zeroBuffers : Bool
  closeMedia : Except Raised Unit
  /-- `close_ffmpeg_lease`, where the platform has one -/
  closeLease : Option (Except Raised Bool)
  releaseMutex : Except Raised (Option Bool)

namespace ClosingCalls

variable (calls : ClosingCalls)

/-- `_close_media`. -/
def mediaClosed : Bool := calls.closeMedia.isOk

/-- `_close_platform_ffmpeg_lease`. -/
def ffmpegLeaseClosed : Bool :=
  match calls.closeLease with
  | none => true
  | some (.ok closed) => closed
  | some (.error _) => false

/-- `_release_mutex`. -/
def mutexReleased : Bool :=
  match calls.releaseMutex with
  | .ok result => result ≠ some false
  | .error _ => false

/-- The end of a child in `_cleanup_child`. -/
def childTerminated : Bool :=
  calls.terminate.isOk || (match calls.kill with
    | some answer => answer.isOk
    | none => false)

def readerStopped : Bool :=
  match calls.stopReader with
  | .ok stopped => stopped
  | .error _ => false

end ClosingCalls

structure CaptureCalls where
  /-- `_runtime_prerequisites() is not None` -/
  prerequisites : Bool
  liveness : Except Raised Bool
  /-- whether there is an event sink -/
  sink : Bool
  /-- the clock and the sink for `PRIVACY_READY` -/
  privacyReady : Except Raised Unit
  cameras : Except Raised (List CameraCandidate)
  authority : Acquire FfmpegAuthority
  executableSha256 : Except Raised String
  /-- `ffmpeg_identity`, where the platform has it: the size and the identity digest -/
  identity : Option (Except Raised (Int × String))
  namedMutex : Except Raised Unit
  acquire : Acquire Bool
  buffers : Except Raised Unit
  /-- the clock and the sink for `CAPTURE_STARTING`: the time that is sent -/
  captureStarting : Except Raised Int
  launch : Acquire Unit
  reader : Except Raised Unit
  startReader : Except Raised Unit
  turns : List FrameTurn
  /-- whether the reader is alive when it hands over nothing more -/
  alive : Bool
  closing : ClosingCalls
  /-- the clock and the sink for `CAPTURE_CLOSED`: the time that is sent -/
  captureClosed : Except Raised Int
  /-- `ffmpeg_lease_verified`, where the platform has it -/
  leaseVerified : Option (Except Raised Bool)

/-! ## The capture itself -/

/-- What the `try` block of a capture leaves: the state of the loop, whether the argument digest was computed,
the time of `CAPTURE_STARTING`, and what has been created. -/
structure Attempt where
  loop : LoopState := {}
  buffers : Bool := false
  starting : Option Int := none
  launched : Bool := false
  child : Bool := false
  reader : Bool := false

namespace Attempt

/-- `except Exception: if state.failure is None: state.failure = CAPTURE_RUNTIME_EXCEPTION`. -/
def excepted (run : Attempt) : Attempt :=
  { run with
    loop := { run.loop with
      run := { run.loop.run with failure := run.loop.run.failure <|> some .captureRuntimeException } } }

def halted (run : Attempt) (halt : Halt) : Attempt :=
  if halt.raised then { run with loop := halt.loop }.excepted else { run with loop := halt.loop }

end Attempt

namespace CaptureCalls

variable (calls : CaptureCalls)

def attemptChild (run : Attempt) : Attempt :=
  match calls.launch.answer with
  | .error _ => { run with launched := calls.launch.leaves }.excepted
  | .ok _ =>
    let run := { run with launched := true, child := true }
    match calls.reader with
    | .error _ => run.excepted
    | .ok _ =>
      let run := { run with reader := true }
      match calls.startReader with
      | .error _ => run.excepted
      | .ok _ => run.halted (captureLoop calls.sink calls.alive calls.turns {})

/-- The `try` block of a capture that owns the mutex. -/
def attempt : Attempt :=
  match calls.buffers with
  | .error _ => ({} : Attempt).excepted
  | .ok _ =>
    let run : Attempt := { buffers := true }
    if calls.sink then
      match calls.captureStarting with
      | .error _ => run.excepted
      | .ok ns => calls.attemptChild { run with starting := some ns }
    else calls.attemptChild run

end CaptureCalls

structure CleanUp where
  pipeClosed : Bool
  childTerminated : Bool
  readerStopped : Bool
  buffersZeroed : Bool
  mediaClosed : Bool
  ffmpegLeaseClosed : Bool
  mutexReleased : Bool
  deriving DecidableEq

namespace CleanUp

/-- `cleanup_complete`. -/
def complete (flags : CleanUp) : Bool :=
  flags.buffersZeroed && flags.pipeClosed && flags.childTerminated && flags.readerStopped && flags.mediaClosed
    && flags.ffmpegLeaseClosed && flags.mutexReleased

def childGone (flags : CleanUp) : Bool := flags.pipeClosed && flags.childTerminated && flags.readerStopped

end CleanUp

namespace CaptureCalls

variable (calls : CaptureCalls)

/-- `_cleanup_child`, the buffers, the media runtime, the lease and the mutex. -/
def cleanUp (run : Attempt) : CleanUp :=
  let readerStopped := !run.reader || calls.closing.readerStopped
  { pipeClosed := run.child && readerStopped && calls.closing.closeStdout.isOk
    childTerminated := run.child && calls.closing.childTerminated
    readerStopped
    buffersZeroed := readerStopped && run.buffers && calls.closing.zeroBuffers
    mediaClosed := calls.closing.mediaClosed
    ffmpegLeaseClosed := calls.closing.ffmpegLeaseClosed
    mutexReleased := calls.closing.mutexReleased }

/-- Whether `CAPTURE_CLOSED` is sent. -/
def sendsClosed (run : Attempt) : Bool := calls.sink && run.child && (calls.cleanUp run).childGone

def finalFailure (run : Attempt) : Option NativeFailure :=
  let failure := run.loop.run.failure
  if failure = some .privacyStop then failure
  else if calls.sendsClosed run && !calls.captureClosed.isOk then some .captureRuntimeException
  else if (calls.cleanUp run).complete then failure
  else some .cleanupIncomplete

/-- The time of `CAPTURE_CLOSED`, where it is sent. -/
def closedNs (run : Attempt) : Option Int :=
  if calls.sendsClosed run then calls.captureClosed.toOption else none

end CaptureCalls

/-! ## What is still open -/

structure Holdings where
  mediaUsed : Bool := false
  mediaClosed : Bool := false
  leaseOpened : Bool := false
  leaseClosed : Bool := false
  mutexAcquired : Bool := false
  mutexReleases : Nat := 0
  childStarted : Bool := false
  childTerminated : Bool := false
  pipeClosed : Bool := false
  readerStarted : Bool := false
  readerStopped : Bool := false

end PduExamObserver.Native
