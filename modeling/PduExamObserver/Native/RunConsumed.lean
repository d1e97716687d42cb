import PduExamObserver.Native.Capture

/-! # The local preflight

`NativePreflightService._run_consumed` up to the receipt that it hands to `_terminalize`, with the phases that
it sends and what it leaves open. -/

namespace PduExamObserver.Native
open Authority
set_option autoImplicit false

variable (rt : Runtime)

inductive PhaseMessage where
  | privacyReady
  | captureStarting (ns : Int)
  | firstFrame (ns : Int)
  | captureClosed (ns : Int)
  deriving DecidableEq, Repr

structure EarlyExit where
  failure : NativeFailure
  mediaClosed : Bool := false
  ffmpegLeaseClosed : Bool := true
  phases : List PhaseMessage := []
  holdings : Holdings := {}

def EarlyExit.args (exit : EarlyExit) (prepared : PreparedAuthority) : ReceiptArgs where
  prepared := some prepared
  mediaClosed := exit.mediaClosed
  ffmpegLeaseClosed := exit.ffmpegLeaseClosed
  authorityConsumed := true

structure Opened where
  camera : CameraCandidate
  authority : FfmpegAuthority
  size : Int
  identity : String

structure CaptureRun where
  candidate : Except Raised NativeReceipt
  phases : List PhaseMessage
  holdings : Holdings

namespace CaptureCalls

variable (calls : CaptureCalls)

def leaseOpened : Bool := calls.authority.obtained && calls.closing.closeLease.isSome

def platformIdentity (authority : FfmpegAuthority) : Except Raised (Int × String) :=
  platformFfmpegIdentity rt calls.identity authority

/-- `_platform_ffmpeg_verified`. -/
def platformVerified : Except Raised Bool :=
  match calls.leaseVerified with
  | none => .ok true
  | some answer => answer

/-- `PRIVACY_READY`, where there is a sink. -/
def privacyPhases : List PhaseMessage := if calls.sink then [.privacyReady] else []

def mediaHeld : Holdings := { mediaUsed := true }

def leaseHeld : Holdings := { mediaUsed := true, leaseOpened := calls.leaseOpened }

def mediaExit (failure : NativeFailure) : EarlyExit where
  failure := failure
  mediaClosed := calls.closing.mediaClosed
  holdings := { mediaUsed := true, mediaClosed := calls.closing.mediaClosed }

def incompatibleExit : EarlyExit where
  failure := .schemaIncompatible
  phases := calls.privacyPhases
  holdings := { calls.leaseHeld with leaseClosed := calls.closing.ffmpegLeaseClosed }

def mutexExit (acquired : Bool) : EarlyExit where
  failure := .schemaIncompatible
  mediaClosed := calls.closing.mediaClosed
  ffmpegLeaseClosed := calls.closing.ffmpegLeaseClosed
  phases := calls.privacyPhases
  holdings := { calls.leaseHeld with
    mediaClosed := calls.closing.mediaClosed
    leaseClosed := calls.closing.ffmpegLeaseClosed
    mutexAcquired := acquired }

def authorityMatches (prepared : PreparedAuthority) (executableDigest : String) (opened : Opened) : Bool :=
  opened.camera.present
    && opened.camera.statusOk
    && safeDirectshowName opened.camera.friendlyName
    && isHexDigest opened.authority.sha256
    && executableDigest = opened.authority.sha256
    && opened.authority.sha256 = prepared.ffmpegSha256
    && opened.authority.version = prepared.ffmpegVersion
    && opened.size = prepared.ffmpegSizeBytes
    && opened.identity = prepared.ffmpegIdentityDigest

def takeMutex (opened : Opened) : Except EarlyExit Opened :=
  match calls.namedMutex with
  | .error _ => .error (calls.mutexExit false)
  | .ok _ =>
    match calls.acquire.answer with
    | .error _ => .error (calls.mutexExit calls.acquire.leaves)
    | .ok false => .error (calls.mutexExit false)
    | .ok true => .ok opened

def bindCapture (prepared : PreparedAuthority) : Except EarlyExit Opened :=
  match calls.cameras with
  | .error _ => .error { failure := .schemaIncompatible, phases := calls.privacyPhases, holdings := mediaHeld }
  | .ok cameras =>
    match calls.authority.answer with
    | .error _ =>
      .error { failure := .schemaIncompatible, phases := calls.privacyPhases, holdings := calls.leaseHeld }
    | .ok authority =>
      match calls.executableSha256, calls.platformIdentity rt authority, cameras with
      | .ok executableDigest, .ok (size, identity), [camera] =>
        let opened : Opened := { camera, authority, size, identity }
        if authorityMatches prepared executableDigest opened then calls.takeMutex opened
        else .error calls.incompatibleExit
      | _, _, _ => .error calls.incompatibleExit

def openCapture (prepared : PreparedAuthority) : Except EarlyExit Opened :=
  if !calls.prerequisites then .error { failure := .poseEngineUnavailable }
  else
    match calls.liveness with
    | .ok true =>
      if calls.sink && !calls.privacyReady.isOk then .error (calls.mediaExit .captureRuntimeException)
      else calls.bindCapture rt prepared
    | _ => .error (calls.mediaExit .poseEngineUnavailable)

end CaptureCalls

/-! ## The receipt of a capture -/

structure CaptureFacts where
  prepared : PreparedAuthority
  opened : Opened
  argvDigest : Option String
  flags : CleanUp
  leaseVerified : Bool

namespace CaptureFacts

variable (facts : CaptureFacts)

def released : ReceiptArgs where
  prepared := some facts.prepared
  mutexReleased := facts.flags.mutexReleased
  childTerminated := facts.flags.childTerminated
  pipeClosed := facts.flags.pipeClosed
  readerStopped := facts.flags.readerStopped
  mediaClosed := facts.flags.mediaClosed
  authorityConsumed := true
  rawRetained := !facts.flags.buffersZeroed

def bound : ReceiptArgs :=
  { facts.released with
    fixedArgvDigest := facts.argvDigest
    ffmpegSha256 := some facts.opened.authority.sha256
    ffmpegVersion := some facts.opened.authority.version
    ffmpegSizeBytes := some facts.opened.size
    ffmpegIdentityDigest := some facts.opened.identity
    ffmpegLeaseVerified := facts.leaseVerified
    ffmpegLeaseClosed := facts.flags.ffmpegLeaseClosed }

def stopArgs (state : RunState) : ReceiptArgs :=
  { facts.bound with
    privacyCheckedFrames := state.privacyCheckedFrames
    privacyStopCount := 1
    faceDetections := state.faceDetections
    poseDetections := state.poseDetections }

end CaptureFacts

def largest : List ℚ → ℚ
  | [] => 0
  | value :: values => values.foldl max value

def rankOf (values : List ℚ) (percentile : Nat) : Option ℚ :=
  if values = [] then none else some (nearestRank values percentile)

def measuredTotal (first previous : Int) : ℚ := ((previous - first : Int) : ℚ) / 1000000000

def measuredPost (total : ℚ) : ℚ := max (total - warmupSeconds) 0

def CaptureFacts.measuredArgs (facts : CaptureFacts) (state : RunState) (total : ℚ) : ReceiptArgs :=
  let post := measuredPost total
  { facts.bound with
    measuredTotalSeconds := total
    measuredPostWarmupSeconds := post
    deliveredFramesPerSecond := if post = 0 then none else some (state.postWarmupProcessedFrames / post)
    p95IngressGapMs := rankOf state.gapsMs 95
    p95PoseLatencyMs := rankOf state.latenciesMs 95
    p99PoseLatencyMs := rankOf state.latenciesMs 99
    backlogMs := some (millisecondsOfNs state.maxBacklogNs)
    captureWorkerSupervised := true
    captureDeadlineEnforced := true
    captureJobDrained := true
    captureWorkerExecutableSha256 := some (rt.digest (.list [.str "injected-capture-worker-sha256"]))
    captureWorkerIdentityDigest := some (rt.digest (.list [.str "injected-capture-worker-identity"]))
    captureWorkerLeaseClosed := true
    warmupFrames := state.deliveredFrames - state.postWarmupProcessedFrames
    postAttemptedFrames := state.postWarmupProcessedFrames
    postSuccessfulFrames := state.postWarmupProcessedFrames
    postElapsedNs := ⌊post * 1000000000⌋
    maxStallGapNs := ⌊largest state.gapsMs * 1000000⌋
    backlogNs := state.maxBacklogNs }

def resultReceipt (facts : CaptureFacts) (state : RunState) : Except Raised NativeReceipt :=
  match state.firstIngressNs, state.previousIngressNs with
  | some first, some previous =>
    let total := measuredTotal first previous
    let failure := state.failure <|> thresholdFailure state total (measuredPost total)
    issueReceipt rt (if failure.isSome then .noGo else .preflightPass) failure (facts.measuredArgs rt state total)
  | _, _ => issueReceipt rt .noGo (some (state.failure.getD .inputUnavailable)) facts.released

namespace CaptureCalls

variable (calls : CaptureCalls)

def capturePhases (run : Attempt) : List PhaseMessage :=
  calls.privacyPhases
    ++ (run.starting.map .captureStarting).toList
    ++ (run.loop.firstFrame.map .firstFrame).toList
    ++ ((calls.closedNs run).map .captureClosed).toList

def captureHoldings (run : Attempt) : Holdings :=
  let flags := calls.cleanUp run
  { mediaUsed := true
    mediaClosed := flags.mediaClosed
    leaseOpened := calls.leaseOpened
    leaseClosed := flags.ffmpegLeaseClosed
    mutexAcquired := true
    mutexReleases := if flags.mutexReleased then 1 else 0
    childStarted := run.launched
    childTerminated := flags.childTerminated
    pipeClosed := flags.pipeClosed
    readerStarted := run.reader && calls.startReader.isOk
    readerStopped := run.reader && calls.closing.readerStopped }

def captureCandidate (prepared : PreparedAuthority) (opened : Opened) : Except Raised NativeReceipt := do
  let run := calls.attempt
  let state : RunState := { run.loop.run with failure := calls.finalFailure run }
  let leaseVerified ← calls.platformVerified
  let facts : CaptureFacts := {
    prepared
    opened
    argvDigest := if run.buffers then some (fixedArgvTemplateDigest rt) else none
    flags := calls.cleanUp run
    leaseVerified }
  if state.failure = some .privacyStop then issueReceipt rt .noGo (some .privacyStop) (facts.stopArgs state)
  else resultReceipt rt facts state

/-- `_run_consumed`, before `_terminalize`. -/
def runConsumed (prepared : PreparedAuthority) : CaptureRun :=
  match calls.openCapture rt prepared with
  | .error exit =>
    { candidate := issueReceipt rt .noGo (some exit.failure) (exit.args prepared)
      phases := exit.phases
      holdings := exit.holdings }
  | .ok opened =>
    let run := calls.attempt
    { candidate := calls.captureCandidate rt prepared opened
      phases := calls.capturePhases run
      holdings := calls.captureHoldings run }

end CaptureCalls

end PduExamObserver.Native
