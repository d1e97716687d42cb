import PduExamObserver.Library.Except
import PduExamObserver.Native.Values

/-! # Receipts of the native preflight

`NativeReceipt` with the constructor `_receipt` and the rules of `verify_receipt_semantics`. The fields that a
capture worker may supply are Python values of any type, as `NativeReceipt(**raw)` takes them; the others are
written by this program only. -/

namespace PduExamObserver.Native
open Authority
set_option autoImplicit false

/-! ## Constants -/

def frameBytes : Int := 1280 * 720 * 3
def preflightSeconds : Int := 60
def warmupSeconds : Int := 5
def authorityRevision : String := "d1-n1-authority-v2"
def dependencyPin : String := "mediapipe==1.0.1"
def poseModelSha256 : String := "59929e1d1ee95287735ddd833b19cf4ac46d29bc7afddbbf6753c459690d574a"
def faceModelSha256 : String := "b4578f35940bf5a1a655214a1cce5cab13eba73c1297cd78e1a04c2380b0152f"
def poseModelBytes : Int := 5777746
def faceModelBytes : Int := 229746

inductive NativeOutcome where
  | prepared
  | preflightPass
  | noGo
  deriving DecidableEq, Repr

def NativeOutcome.value : NativeOutcome → String
  | .prepared => "PREPARED"
  | .preflightPass => "D1_N1_PREFLIGHT_PASS"
  | .noGo => "NO_GO"

/-- `NativeOutcome(value)`, or nothing where it raises `ValueError`. -/
def NativeOutcome.ofValue (value : String) : Option NativeOutcome :=
  [NativeOutcome.prepared, .preflightPass, .noGo].find? fun outcome => outcome.value = value

inductive NativeFailure where
  | inputUnavailable
  | inputMalformed
  | frameStalled
  | clockRegression
  | poseEngineUnavailable
  | poseEngineException
  | poseOutputInvalid
  | qualityInsufficient
  | privacyStop
  | privacyGuardTimeout
  | reauthorizationRequired
  | schemaIncompatible
  | authorityFinalizationFailed
  | executableIdentityUnavailable
  | executableLeaseIncompatible
  | frameReaderException
  | captureRuntimeException
  | captureStartupTimeout
  | cleanupIncomplete
  | workerProtocolFailure
  | unknownTechnicalFailure
  deriving DecidableEq, Repr

def NativeFailure.all : List NativeFailure :=
  [.inputUnavailable, .inputMalformed, .frameStalled, .clockRegression, .poseEngineUnavailable,
    .poseEngineException, .poseOutputInvalid, .qualityInsufficient, .privacyStop, .privacyGuardTimeout,
    .reauthorizationRequired, .schemaIncompatible, .authorityFinalizationFailed,
    .executableIdentityUnavailable, .executableLeaseIncompatible, .frameReaderException,
    .captureRuntimeException, .captureStartupTimeout, .cleanupIncomplete, .workerProtocolFailure,
    .unknownTechnicalFailure]

def NativeFailure.value : NativeFailure → String
  | .inputUnavailable => "INPUT_UNAVAILABLE"
  | .inputMalformed => "INPUT_MALFORMED"
  | .frameStalled => "FRAME_STALLED"
  | .clockRegression => "CLOCK_REGRESSION"
  | .poseEngineUnavailable => "POSE_ENGINE_UNAVAILABLE"
  | .poseEngineException => "POSE_ENGINE_EXCEPTION"
  | .poseOutputInvalid => "POSE_OUTPUT_INVALID"
  | .qualityInsufficient => "QUALITY_INSUFFICIENT"
  | .privacyStop => "PRIVACY_STOP"
  | .privacyGuardTimeout => "PRIVACY_GUARD_TIMEOUT"
  | .reauthorizationRequired => "REAUTHORIZATION_REQUIRED"
  | .schemaIncompatible => "SCHEMA_INCOMPATIBLE"
  | .authorityFinalizationFailed => "AUTHORITY_FINALIZATION_FAILED"
  | .executableIdentityUnavailable => "EXECUTABLE_IDENTITY_UNAVAILABLE"
  | .executableLeaseIncompatible => "EXECUTABLE_LEASE_INCOMPATIBLE"
  | .frameReaderException => "FRAME_READER_EXCEPTION"
  | .captureRuntimeException => "CAPTURE_RUNTIME_EXCEPTION"
  | .captureStartupTimeout => "CAPTURE_STARTUP_TIMEOUT"
  | .cleanupIncomplete => "CLEANUP_INCOMPLETE"
  | .workerProtocolFailure => "WORKER_PROTOCOL_FAILURE"
  | .unknownTechnicalFailure => "UNKNOWN_TECHNICAL_FAILURE"

/-- `NativeFailure(value)`, or nothing where it raises `ValueError`. -/
def NativeFailure.ofValue (value : String) : Option NativeFailure :=
  NativeFailure.all.find? fun failure => failure.value = value

inductive DeviceGateDecision where
  | unverified
  deriving DecidableEq, Repr

def DeviceGateDecision.value : DeviceGateDecision → String
  | .unverified => "UNVERIFIED"

inductive StageState where
  | notAttempted
  deriving DecidableEq, Repr

def StageState.value : StageState → String
  | .notAttempted => "NOT_ATTEMPTED"

inductive AuthorizationState where
  | pending
  | prepared
  | consumed
  | terminal
  deriving DecidableEq, Repr

def AuthorizationState.value : AuthorizationState → String
  | .pending => "PENDING"
  | .prepared => "PREPARED"
  | .consumed => "CONSUMED"
  | .terminal => "TERMINAL"

/-! ## The records -/

structure PreparedAuthority where
  schemaVersion : Int
  opaqueDeviceToken : String
  authorityRevision : String
  state : AuthorizationState
  ffmpegSha256 : String
  ffmpegVersion : String
  ffmpegSizeBytes : Int
  ffmpegIdentityDigest : String
  authorizationNonce : String
  deriving DecidableEq, Repr

/-- `asdict(prepared)`. -/
def PreparedAuthority.toValue (prepared : PreparedAuthority) : Value :=
  .dict
    [("schema_version", .int prepared.schemaVersion),
      ("opaque_device_token", .str prepared.opaqueDeviceToken),
      ("authority_revision", .str prepared.authorityRevision),
      ("state", .str prepared.state.value),
      ("ffmpeg_sha256", .str prepared.ffmpegSha256),
      ("ffmpeg_version", .str prepared.ffmpegVersion),
      ("ffmpeg_size_bytes", .int prepared.ffmpegSizeBytes),
      ("ffmpeg_identity_digest", .str prepared.ffmpegIdentityDigest),
      ("authorization_nonce", .str prepared.authorizationNonce)]

/-- `_prepared_is_valid`. -/
def PreparedAuthority.IsValid (value : PreparedAuthority) : Prop :=
  value.schemaVersion = 2
    ∧ isHexDigest value.opaqueDeviceToken
    ∧ value.authorityRevision = Native.authorityRevision
    ∧ isHexDigest value.ffmpegSha256
    ∧ isHexDigest value.ffmpegVersion
    ∧ 0 < value.ffmpegSizeBytes
    ∧ isHexDigest value.ffmpegIdentityDigest
    ∧ isHexDigest value.authorizationNonce

instance (value : PreparedAuthority) : Decidable value.IsValid := inferInstanceAs (Decidable (_ ∧ _))

structure FfmpegBinding where
  sha256 : String
  sizeBytes : Int
  identityDigest : String
  versionOutputSha256 : String
  deriving DecidableEq, Repr

structure NativeReceipt where
  schemaVersion : Int
  outcome : NativeOutcome
  failureCode : Option NativeFailure
  deviceGateDecision : DeviceGateDecision
  d1Go : Bool
  opaqueDeviceToken : Option String
  ffmpegSha256 : Value
  ffmpegVersion : Value
  preparedFfmpegSha256 : Option String
  preparedFfmpegVersion : Option String
  preparedFfmpegSizeBytes : Option Int
  preparedFfmpegIdentityDigest : Option String
  ffmpegSizeBytes : Value
  ffmpegIdentityDigest : Value
  ffmpegLeaseVerified : Value
  ffmpegLeaseClosed : Bool
  fixedArgvDigest : Value
  frameBytes : Int
  requestedDurationSeconds : Int
  warmupSeconds : Int
  deliveredFrames : Value
  processedFrames : Value
  droppedExplicitFrames : Value
  failedFrames : Value
  privacyCheckedFrames : Value
  privacyStopCount : Value
  faceDetections : Value
  poseDetections : Value
  measuredTotalSeconds : Value
  measuredPostWarmupSeconds : Value
  deliveredFramesPerSecond : Value
  p95IngressGapMs : Value
  p95PoseLatencyMs : Value
  p99PoseLatencyMs : Value
  backlogMs : Value
  rawRetained : Bool
  audioRequested : Bool
  stages : List StageState
  mutexReleased : Bool
  childTerminated : Bool
  pipeClosed : Bool
  readerStopped : Bool
  workerCleanupComplete : Value
  mediaClosed : Bool
  captureWorkerSupervised : Bool
  captureDeadlineEnforced : Bool
  captureJobDrained : Bool
  captureWorkerExecutableSha256 : Option String
  captureWorkerIdentityDigest : Option String
  captureWorkerLeaseClosed : Bool
  sourceSha256 : String
  lockSha256 : String
  poseModelSha256 : String
  faceModelSha256 : String
  poseModelBytes : Int
  faceModelBytes : Int
  runtimeDependencyVersion : Option String
  preparedConfigDigest : Option String
  dependencyPin : String
  offline : Bool
  videoOnly : Bool
  audioSealActive : Bool
  networkGuardActive : Bool
  outboundNetworkAttempts : Int
  authorityConsumed : Bool
  receivedFrames : Value
  warmupFrames : Value
  postAttemptedFrames : Value
  postSuccessfulFrames : Value
  droppedShortFrames : Value
  inferenceFailureFrames : Value
  privacyTerminalFrames : Value
  deliveryFailureFrames : Value
  postElapsedNs : Value
  maxStallGapNs : Value
  backlogNs : Value
  runNonce : Option String
  terminalReceiptDigest : Option String
  terminalStateDigest : Option String
  resultDigest : String

/-! ## The runtime -/

/-- What a receipt reads of the installed program: the digest function, the digests of its own source and
lock file, `_observed_runtime_binding` and the state of the import and network guards. -/
structure Runtime where
  digest : Value → String
  digest_isHex : ∀ value, isHexDigest (digest value) = true
  sourceSha256 : String
  lockSha256 : String
  poseSha256 : String
  faceSha256 : String
  poseBytes : Int
  faceBytes : Int
  installed : Option String
  networkGuard : Bool
  audioSeal : Bool
  outboundAttempts : Nat

variable (rt : Runtime)

def ffmpegPrefix : List String :=
  ["-hide_banner", "-nostdin", "-loglevel", "warning", "-f", "dshow", "-video_size", "1280x720",
    "-framerate", "15"]

def fixedArgv (executable currentFriendlyName : String) : List String :=
  [executable] ++ ffmpegPrefix
    ++ ["-i", "video=" ++ currentFriendlyName, "-map", "0:v:0", "-an", "-sn", "-dn", "-c:v", "rawvideo",
      "-pix_fmt", "rgb24", "-f", "rawvideo", "pipe:1"]

def fixedArgvTemplateDigest : String :=
  rt.digest (.list ((fixedArgv "<EXECUTABLE>" "<SERVER_CAMERA>").map .str))

namespace NativeReceipt

/-- The fields under `recompute_core_digest`. -/
def coreFields (receipt : NativeReceipt) : Dict :=
  [("schema_version", .int receipt.schemaVersion),
    ("outcome", .str receipt.outcome.value),
    ("failure_code", .ofOption (.str ·.value) receipt.failureCode),
    ("device_gate_decision", .str receipt.deviceGateDecision.value),
    ("d1_go", .bool receipt.d1Go),
    ("opaque_device_token", .ofOption .str receipt.opaqueDeviceToken),
    ("ffmpeg_sha256", receipt.ffmpegSha256),
    ("ffmpeg_version", receipt.ffmpegVersion),
    ("prepared_ffmpeg_sha256", .ofOption .str receipt.preparedFfmpegSha256),
    ("prepared_ffmpeg_version", .ofOption .str receipt.preparedFfmpegVersion),
    ("prepared_ffmpeg_size_bytes", .ofOption .int receipt.preparedFfmpegSizeBytes),
    ("prepared_ffmpeg_identity_digest", .ofOption .str receipt.preparedFfmpegIdentityDigest),
    ("ffmpeg_size_bytes", receipt.ffmpegSizeBytes),
    ("ffmpeg_identity_digest", receipt.ffmpegIdentityDigest),
    ("ffmpeg_lease_verified", receipt.ffmpegLeaseVerified),
    ("ffmpeg_lease_closed", .bool receipt.ffmpegLeaseClosed),
    ("fixed_argv_digest", receipt.fixedArgvDigest),
    ("frame_bytes", .int receipt.frameBytes),
    ("requested_duration_seconds", .int receipt.requestedDurationSeconds),
    ("warmup_seconds", .int receipt.warmupSeconds),
    ("delivered_frames", receipt.deliveredFrames),
    ("processed_frames", receipt.processedFrames),
    ("dropped_explicit_frames", receipt.droppedExplicitFrames),
    ("failed_frames", receipt.failedFrames),
    ("privacy_checked_frames", receipt.privacyCheckedFrames),
    ("privacy_stop_count", receipt.privacyStopCount),
    ("face_detections", receipt.faceDetections),
    ("pose_detections", receipt.poseDetections),
    ("measured_total_seconds", receipt.measuredTotalSeconds),
    ("measured_post_warmup_seconds", receipt.measuredPostWarmupSeconds),
    ("delivered_frames_per_second", receipt.deliveredFramesPerSecond),
    ("p95_ingress_gap_ms", receipt.p95IngressGapMs),
    ("p95_pose_latency_ms", receipt.p95PoseLatencyMs),
    ("p99_pose_latency_ms", receipt.p99PoseLatencyMs),
    ("backlog_ms", receipt.backlogMs),
    ("raw_retained", .bool receipt.rawRetained),
    ("audio_requested", .bool receipt.audioRequested),
    ("stages", .list (receipt.stages.map (.str ·.value))),
    ("mutex_released", .bool receipt.mutexReleased),
    ("child_terminated", .bool receipt.childTerminated),
    ("pipe_closed", .bool receipt.pipeClosed),
    ("reader_stopped", .bool receipt.readerStopped),
    ("worker_cleanup_complete", receipt.workerCleanupComplete),
    ("media_closed", .bool receipt.mediaClosed),
    ("capture_worker_supervised", .bool receipt.captureWorkerSupervised),
    ("capture_deadline_enforced", .bool receipt.captureDeadlineEnforced),
    ("capture_job_drained", .bool receipt.captureJobDrained),
    ("capture_worker_executable_sha256", .ofOption .str receipt.captureWorkerExecutableSha256),
    ("capture_worker_identity_digest", .ofOption .str receipt.captureWorkerIdentityDigest),
    ("capture_worker_lease_closed", .bool receipt.captureWorkerLeaseClosed),
    ("source_sha256", .str receipt.sourceSha256),
    ("lock_sha256", .str receipt.lockSha256),
    ("pose_model_sha256", .str receipt.poseModelSha256),
    ("face_model_sha256", .str receipt.faceModelSha256),
    ("pose_model_bytes", .int receipt.poseModelBytes),
    ("face_model_bytes", .int receipt.faceModelBytes),
    ("runtime_dependency_version", .ofOption .str receipt.runtimeDependencyVersion),
    ("prepared_config_digest", .ofOption .str receipt.preparedConfigDigest),
    ("dependency_pin", .str receipt.dependencyPin),
    ("offline", .bool receipt.offline),
    ("video_only", .bool receipt.videoOnly),
    ("audio_seal_active", .bool receipt.audioSealActive),
    ("network_guard_active", .bool receipt.networkGuardActive),
    ("outbound_network_attempts", .int receipt.outboundNetworkAttempts),
    ("authority_consumed", .bool receipt.authorityConsumed),
    ("received_frames", receipt.receivedFrames),
    ("warmup_frames", receipt.warmupFrames),
    ("post_attempted_frames", receipt.postAttemptedFrames),
    ("post_successful_frames", receipt.postSuccessfulFrames),
    ("dropped_short_frames", receipt.droppedShortFrames),
    ("inference_failure_frames", receipt.inferenceFailureFrames),
    ("privacy_terminal_frames", receipt.privacyTerminalFrames),
    ("delivery_failure_frames", receipt.deliveryFailureFrames),
    ("post_elapsed_ns", receipt.postElapsedNs),
    ("max_stall_gap_ns", receipt.maxStallGapNs),
    ("backlog_ns", receipt.backlogNs),
    ("run_nonce", .ofOption .str receipt.runNonce)]

def recomputeCoreDigest (receipt : NativeReceipt) : String := rt.digest (.dict receipt.coreFields)

def recomputeDigest (receipt : NativeReceipt) : String :=
  rt.digest
    (.dict (receipt.coreFields
      ++ [("terminal_receipt_digest", .ofOption .str receipt.terminalReceiptDigest),
        ("terminal_state_digest", .ofOption .str receipt.terminalStateDigest)]))

end NativeReceipt

/-! ## Issuing a receipt -/

/-- The keyword arguments of `_receipt` with their defaults. -/
structure ReceiptArgs where
  prepared : Option PreparedAuthority := none
  fixedArgvDigest : Option String := none
  ffmpegSha256 : Option String := none
  ffmpegVersion : Option String := none
  ffmpegSizeBytes : Option Int := none
  ffmpegIdentityDigest : Option String := none
  ffmpegLeaseVerified : Bool := false
  ffmpegLeaseClosed : Bool := true
  privacyCheckedFrames : Int := 0
  privacyStopCount : Int := 0
  faceDetections : Int := 0
  poseDetections : Int := 0
  measuredTotalSeconds : ℚ := 0
  measuredPostWarmupSeconds : ℚ := 0
  deliveredFramesPerSecond : Option ℚ := none
  p95IngressGapMs : Option ℚ := none
  p95PoseLatencyMs : Option ℚ := none
  p99PoseLatencyMs : Option ℚ := none
  backlogMs : Option ℚ := none
  rawRetained : Bool := false
  mutexReleased : Bool := false
  childTerminated : Bool := false
  pipeClosed : Bool := false
  readerStopped : Bool := false
  workerCleanupComplete : Option Bool := none
  mediaClosed : Bool := false
  captureWorkerSupervised : Bool := false
  captureDeadlineEnforced : Bool := false
  captureJobDrained : Bool := false
  captureWorkerExecutableSha256 : Option String := none
  captureWorkerIdentityDigest : Option String := none
  captureWorkerLeaseClosed : Bool := false
  authorityConsumed : Bool := false
  warmupFrames : Int := 0
  postAttemptedFrames : Int := 0
  postSuccessfulFrames : Int := 0
  droppedShortFrames : Int := 0
  inferenceFailureFrames : Int := 0
  privacyTerminalFrames : Int := 0
  deliveryFailureFrames : Int := 0
  postElapsedNs : Int := 0
  maxStallGapNs : Int := 0
  backlogNs : Int := 0

namespace ReceiptArgs

def derivedAttempted (args : ReceiptArgs) : Int :=
  args.postSuccessfulFrames + args.droppedShortFrames + args.inferenceFailureFrames
    + args.privacyTerminalFrames + args.deliveryFailureFrames

/-- `worker_cleanup_complete`, where it is not given. -/
def cleanupComplete (args : ReceiptArgs) : Bool :=
  args.workerCleanupComplete.getD
    (!args.rawRetained && args.mutexReleased && args.childTerminated && args.pipeClosed
      && args.readerStopped && args.mediaClosed && args.ffmpegLeaseClosed)

end ReceiptArgs

def Value.ofRat (q : ℚ) : Value := .float (.finite q)

/-- The receipt of `_receipt` before its result digest is filled in. -/
def draftReceipt (outcome : NativeOutcome) (failure : Option NativeFailure) (args : ReceiptArgs) : NativeReceipt where
  schemaVersion := 2
  outcome := outcome
  failureCode := failure
  deviceGateDecision := .unverified
  d1Go := false
  opaqueDeviceToken := args.prepared.map (·.opaqueDeviceToken)
  ffmpegSha256 := .ofOption .str args.ffmpegSha256
  ffmpegVersion := .ofOption .str args.ffmpegVersion
  preparedFfmpegSha256 := args.prepared.map (·.ffmpegSha256)
  preparedFfmpegVersion := args.prepared.map (·.ffmpegVersion)
  preparedFfmpegSizeBytes := args.prepared.map (·.ffmpegSizeBytes)
  preparedFfmpegIdentityDigest := args.prepared.map (·.ffmpegIdentityDigest)
  ffmpegSizeBytes := .ofOption .int (args.ffmpegSizeBytes <|> args.prepared.map (·.ffmpegSizeBytes))
  ffmpegIdentityDigest :=
    .ofOption .str (args.ffmpegIdentityDigest <|> args.prepared.map (·.ffmpegIdentityDigest))
  ffmpegLeaseVerified := .bool args.ffmpegLeaseVerified
  ffmpegLeaseClosed := args.ffmpegLeaseClosed
  fixedArgvDigest := .ofOption .str args.fixedArgvDigest
  frameBytes := Native.frameBytes
  requestedDurationSeconds := preflightSeconds
  warmupSeconds := Native.warmupSeconds
  deliveredFrames := .int (args.warmupFrames + args.derivedAttempted)
  processedFrames := .int (args.warmupFrames + args.postSuccessfulFrames)
  droppedExplicitFrames := .int args.droppedShortFrames
  failedFrames := .int (args.inferenceFailureFrames + args.privacyTerminalFrames + args.deliveryFailureFrames)
  privacyCheckedFrames :=
    .int (if outcome = .preflightPass then args.warmupFrames + args.postSuccessfulFrames
      else args.privacyCheckedFrames)
  privacyStopCount := .int args.privacyStopCount
  faceDetections := .int args.faceDetections
  poseDetections := .int args.poseDetections
  measuredTotalSeconds := .ofRat args.measuredTotalSeconds
  measuredPostWarmupSeconds := .ofRat args.measuredPostWarmupSeconds
  deliveredFramesPerSecond := .ofOption .ofRat args.deliveredFramesPerSecond
  p95IngressGapMs := .ofOption .ofRat args.p95IngressGapMs
  p95PoseLatencyMs := .ofOption .ofRat args.p95PoseLatencyMs
  p99PoseLatencyMs := .ofOption .ofRat args.p99PoseLatencyMs
  backlogMs := .ofOption .ofRat args.backlogMs
  rawRetained := args.rawRetained
  audioRequested := false
  stages := List.replicate 4 .notAttempted
  mutexReleased := args.mutexReleased
  childTerminated := args.childTerminated
  pipeClosed := args.pipeClosed
  readerStopped := args.readerStopped
  workerCleanupComplete := .bool args.cleanupComplete
  mediaClosed := args.mediaClosed
  captureWorkerSupervised := args.captureWorkerSupervised
  captureDeadlineEnforced := args.captureDeadlineEnforced
  captureJobDrained := args.captureJobDrained
  captureWorkerExecutableSha256 := args.captureWorkerExecutableSha256
  captureWorkerIdentityDigest := args.captureWorkerIdentityDigest
  captureWorkerLeaseClosed := args.captureWorkerLeaseClosed
  sourceSha256 := rt.sourceSha256
  lockSha256 := rt.lockSha256
  poseModelSha256 := rt.poseSha256
  faceModelSha256 := rt.faceSha256
  poseModelBytes := rt.poseBytes
  faceModelBytes := rt.faceBytes
  runtimeDependencyVersion := rt.installed
  preparedConfigDigest := args.prepared.map fun prepared => rt.digest prepared.toValue
  dependencyPin := Native.dependencyPin
  offline := rt.networkGuard && rt.outboundAttempts = 0
  videoOnly := true
  audioSealActive := rt.audioSeal
  networkGuardActive := rt.networkGuard
  outboundNetworkAttempts := rt.outboundAttempts
  authorityConsumed := args.authorityConsumed
  receivedFrames := .int (args.warmupFrames + args.derivedAttempted)
  warmupFrames := .int args.warmupFrames
  postAttemptedFrames := .int args.derivedAttempted
  postSuccessfulFrames := .int args.postSuccessfulFrames
  droppedShortFrames := .int args.droppedShortFrames
  inferenceFailureFrames := .int args.inferenceFailureFrames
  privacyTerminalFrames := .int args.privacyTerminalFrames
  deliveryFailureFrames := .int args.deliveryFailureFrames
  postElapsedNs := .int args.postElapsedNs
  maxStallGapNs := .int args.maxStallGapNs
  backlogNs := .int args.backlogNs
  runNonce := none
  terminalReceiptDigest := none
  terminalStateDigest := none
  resultDigest := ""

/-- `replace(receipt, result_digest=receipt.recompute_digest())`. -/
def NativeReceipt.issued (receipt : NativeReceipt) : NativeReceipt :=
  { receipt with resultDigest := receipt.recomputeDigest rt }

/-- `_receipt`. -/
def issueReceipt (outcome : NativeOutcome) (failure : Option NativeFailure) (args : ReceiptArgs) :
    Except Raised NativeReceipt := do
  require (args.postAttemptedFrames = 0 ∨ args.postAttemptedFrames = args.derivedAttempted) .valueError
  require
    (outcome ≠ .preflightPass
      ∨ args.privacyStopCount = 0 ∧ args.privacyTerminalFrames = 0 ∧ args.faceDetections = 0
        ∧ args.poseDetections = 0)
    .valueError
  return (draftReceipt rt outcome failure args).issued rt

end PduExamObserver.Native
