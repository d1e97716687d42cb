import PduExamObserver.Native.Monitor
import PduExamObserver.Native.Verification

/-! # The supervised worker

`_deserialize_worker_receipt`, which turns what a worker reports into a receipt of the supervisor, and
`_run_windows_capture_worker` around the monitor. -/

namespace PduExamObserver.Native
open Authority
set_option autoImplicit false

variable (rt : Runtime)

/-! ## Reading a receipt -/

/-- The fields that a worker supplies: those of `NativeReceipt` outside `_WORKER_PRIVATE_RECEIPT_FIELDS`. -/
def workerReceiptFields : List String :=
  ["outcome", "failure_code", "ffmpeg_sha256", "ffmpeg_version", "ffmpeg_size_bytes",
    "ffmpeg_identity_digest", "ffmpeg_lease_verified", "fixed_argv_digest", "delivered_frames",
    "processed_frames", "dropped_explicit_frames", "failed_frames", "privacy_checked_frames",
    "privacy_stop_count", "face_detections", "pose_detections", "measured_total_seconds",
    "measured_post_warmup_seconds", "delivered_frames_per_second", "p95_ingress_gap_ms",
    "p95_pose_latency_ms", "p99_pose_latency_ms", "backlog_ms", "worker_cleanup_complete",
    "received_frames", "warmup_frames", "post_attempted_frames", "post_successful_frames",
    "dropped_short_frames", "inference_failure_frames", "privacy_terminal_frames",
    "delivery_failure_frames", "post_elapsed_ns", "max_stall_gap_ns", "backlog_ns"]

def serializeWorkerReceipt (receipt : NativeReceipt) : Dict :=
  receipt.coreFields.filter fun field => field.1 ∈ workerReceiptFields

structure Phases where
  privacyReady : Bool
  captureStarting : Bool
  firstFrame : Bool
  captureClosed : Bool

def workerFailurePhasesValid (failure : Option NativeFailure) (phases : Phases) (workerCleanupComplete : Bool) : Bool :=
  match failure with
  | none | some .workerProtocolFailure | some .captureStartupTimeout | some .privacyGuardTimeout
  | some .reauthorizationRequired | some .authorityFinalizationFailed | some .executableIdentityUnavailable
  | some .executableLeaseIncompatible | some .unknownTechnicalFailure => false
  | some .poseEngineUnavailable =>
    !phases.privacyReady && !phases.captureStarting && !phases.firstFrame && !phases.captureClosed
  | some .schemaIncompatible =>
    phases.privacyReady && !phases.captureStarting && !phases.firstFrame && !phases.captureClosed
  | some .inputUnavailable =>
    phases.privacyReady && phases.captureStarting && !phases.firstFrame && phases.captureClosed
  | some .cleanupIncomplete =>
    phases.privacyReady && phases.captureStarting && (phases.captureClosed || !workerCleanupComplete)
  | some .privacyStop | some .poseEngineException | some .poseOutputInvalid | some .qualityInsufficient =>
    phases.privacyReady && phases.captureStarting && phases.firstFrame
      && (phases.captureClosed || !workerCleanupComplete)
  | some .inputMalformed | some .frameStalled | some .clockRegression | some .frameReaderException
  | some .captureRuntimeException => phases.privacyReady && phases.captureStarting

structure Supervision where
  binding : FfmpegBinding
  supervised : Bool
  deadlineEnforced : Bool
  jobDrained : Bool
  pipeClosed : Bool
  readerStopped : Bool
  workerLeaseClosed : Bool

def Supervision.args (supervision : Supervision) (prepared : PreparedAuthority) (workerCleanupComplete : Bool) :
    ReceiptArgs where
  prepared := some prepared
  mutexReleased := supervision.jobDrained
  childTerminated := supervision.jobDrained
  pipeClosed := supervision.pipeClosed && supervision.jobDrained
  readerStopped := supervision.readerStopped && supervision.jobDrained
  workerCleanupComplete := some workerCleanupComplete
  mediaClosed := supervision.jobDrained
  rawRetained := !supervision.jobDrained
  ffmpegLeaseClosed := supervision.jobDrained
  captureWorkerSupervised := supervision.supervised
  captureDeadlineEnforced := supervision.deadlineEnforced
  captureJobDrained := supervision.jobDrained
  captureWorkerExecutableSha256 := some supervision.binding.sha256
  captureWorkerIdentityDigest := some supervision.binding.identityDigest
  captureWorkerLeaseClosed := supervision.workerLeaseClosed
  authorityConsumed := true

/-- `NativeReceipt(**raw)`: the fields of the worker over those of the supervisor. -/
def withWorkerFields (base : NativeReceipt) (payload : Dict) : NativeReceipt :=
  { base with
    ffmpegSha256 := payload.get "ffmpeg_sha256"
    ffmpegVersion := payload.get "ffmpeg_version"
    ffmpegSizeBytes := payload.get "ffmpeg_size_bytes"
    ffmpegIdentityDigest := payload.get "ffmpeg_identity_digest"
    ffmpegLeaseVerified := payload.get "ffmpeg_lease_verified"
    fixedArgvDigest := payload.get "fixed_argv_digest"
    deliveredFrames := payload.get "delivered_frames"
    processedFrames := payload.get "processed_frames"
    droppedExplicitFrames := payload.get "dropped_explicit_frames"
    failedFrames := payload.get "failed_frames"
    privacyCheckedFrames := payload.get "privacy_checked_frames"
    privacyStopCount := payload.get "privacy_stop_count"
    faceDetections := payload.get "face_detections"
    poseDetections := payload.get "pose_detections"
    measuredTotalSeconds := payload.get "measured_total_seconds"
    measuredPostWarmupSeconds := payload.get "measured_post_warmup_seconds"
    deliveredFramesPerSecond := payload.get "delivered_frames_per_second"
    p95IngressGapMs := payload.get "p95_ingress_gap_ms"
    p95PoseLatencyMs := payload.get "p95_pose_latency_ms"
    p99PoseLatencyMs := payload.get "p99_pose_latency_ms"
    backlogMs := payload.get "backlog_ms"
    workerCleanupComplete := payload.get "worker_cleanup_complete"
    receivedFrames := payload.get "received_frames"
    warmupFrames := payload.get "warmup_frames"
    postAttemptedFrames := payload.get "post_attempted_frames"
    postSuccessfulFrames := payload.get "post_successful_frames"
    droppedShortFrames := payload.get "dropped_short_frames"
    inferenceFailureFrames := payload.get "inference_failure_frames"
    privacyTerminalFrames := payload.get "privacy_terminal_frames"
    deliveryFailureFrames := payload.get "delivery_failure_frames"
    postElapsedNs := payload.get "post_elapsed_ns"
    maxStallGapNs := payload.get "max_stall_gap_ns"
    backlogNs := payload.get "backlog_ns" }

theorem withWorkerFields_serialize (base receipt : NativeReceipt) :
    withWorkerFields base (serializeWorkerReceipt receipt) =
      { base with
        ffmpegSha256 := receipt.ffmpegSha256
        ffmpegVersion := receipt.ffmpegVersion
        ffmpegSizeBytes := receipt.ffmpegSizeBytes
        ffmpegIdentityDigest := receipt.ffmpegIdentityDigest
        ffmpegLeaseVerified := receipt.ffmpegLeaseVerified
        fixedArgvDigest := receipt.fixedArgvDigest
        deliveredFrames := receipt.deliveredFrames
        processedFrames := receipt.processedFrames
        droppedExplicitFrames := receipt.droppedExplicitFrames
        failedFrames := receipt.failedFrames
        privacyCheckedFrames := receipt.privacyCheckedFrames
        privacyStopCount := receipt.privacyStopCount
        faceDetections := receipt.faceDetections
        poseDetections := receipt.poseDetections
        measuredTotalSeconds := receipt.measuredTotalSeconds
        measuredPostWarmupSeconds := receipt.measuredPostWarmupSeconds
        deliveredFramesPerSecond := receipt.deliveredFramesPerSecond
        p95IngressGapMs := receipt.p95IngressGapMs
        p95PoseLatencyMs := receipt.p95PoseLatencyMs
        p99PoseLatencyMs := receipt.p99PoseLatencyMs
        backlogMs := receipt.backlogMs
        workerCleanupComplete := receipt.workerCleanupComplete
        receivedFrames := receipt.receivedFrames
        warmupFrames := receipt.warmupFrames
        postAttemptedFrames := receipt.postAttemptedFrames
        postSuccessfulFrames := receipt.postSuccessfulFrames
        droppedShortFrames := receipt.droppedShortFrames
        inferenceFailureFrames := receipt.inferenceFailureFrames
        privacyTerminalFrames := receipt.privacyTerminalFrames
        deliveryFailureFrames := receipt.deliveryFailureFrames
        postElapsedNs := receipt.postElapsedNs
        maxStallGapNs := receipt.maxStallGapNs
        backlogNs := receipt.backlogNs } := by
    rfl

theorem serializeWorkerReceipt_hasKeys (receipt : NativeReceipt) :
    Dict.HasKeys (serializeWorkerReceipt receipt) workerReceiptFields := by
  have hkeys : (serializeWorkerReceipt receipt).map Prod.fst = workerReceiptFields := by
    rfl
  constructor
  · intro field hfield
    rw [← hkeys]
    exact List.mem_map_of_mem hfield
  · intro name hname
    rw [hkeys]
    exact hname

/-- `NativeFailure(failure_value) if failure_value is not None else None`. -/
def readFailure : Value → Except Raised (Option NativeFailure)
  | .none => .ok none
  | .str value => some <$> orError .valueError (NativeFailure.ofValue value)
  | _ => .error .valueError

/-- `_deserialize_worker_receipt`, where `phases` is given if they are checked. -/
def deserializeWorkerReceipt (payload : Dict) (prepared : PreparedAuthority) (supervision : Supervision)
    (phases : Option Phases) : Except Raised NativeReceipt := do
  require (payload.HasKeys workerReceiptFields) .valueError
  let outcomeValue ← orError .valueError (payload.get "outcome").str?
  let outcome ← orError .valueError (NativeOutcome.ofValue outcomeValue)
  let failure ← readFailure (payload.get "failure_code")
  require (failure ≠ some .workerProtocolFailure) .valueError
  let workerCleanupComplete ← orError .valueError (payload.get "worker_cleanup_complete").bool?
  require
    (phases.all fun phases => outcome ≠ .noGo || workerFailurePhasesValid failure phases workerCleanupComplete)
    .valueError
  let base ← issueReceipt rt outcome failure
    { supervision.args prepared
        (workerCleanupComplete && supervision.jobDrained && supervision.pipeClosed && supervision.readerStopped
          && supervision.workerLeaseClosed) with
      privacyStopCount := if failure = some .privacyStop then 1 else 0 }
  if outcome = .noGo then return base
  return (withWorkerFields base payload).issued rt

@[simp] theorem NativeOutcome.ofValue_value (outcome : NativeOutcome) :
    NativeOutcome.ofValue outcome.value = some outcome := by
  cases outcome <;> rfl

@[simp] theorem NativeFailure.ofValue_value (failure : NativeFailure) :
    NativeFailure.ofValue failure.value = some failure := by
  cases failure <;> rfl

theorem readFailure_failureCode (failure : Option NativeFailure) :
    readFailure (.ofOption (.str ·.value) failure) = .ok failure := by
  cases failure with
  | none => rfl
  | some failure =>
    rw [Value.ofOption, readFailure, NativeFailure.ofValue_value]
    rfl

theorem deserializeWorkerReceipt_serialize {rt : Runtime} {receipt : NativeReceipt} {prepared : PreparedAuthority}
    {supervision : Supervision} {phases : Option Phases} {cleanup : Bool}
    (hcleanup : receipt.workerCleanupComplete = .bool cleanup)
    (hfailure : receipt.failureCode ≠ some .workerProtocolFailure)
    (hphases : (phases.all fun phases =>
      receipt.outcome ≠ .noGo || workerFailurePhasesValid receipt.failureCode phases cleanup) = true) :
    deserializeWorkerReceipt rt (serializeWorkerReceipt receipt) prepared supervision phases
      = (do
          let base ← issueReceipt rt receipt.outcome receipt.failureCode
            { supervision.args prepared
                (cleanup && supervision.jobDrained && supervision.pipeClosed && supervision.readerStopped
                  && supervision.workerLeaseClosed) with
              privacyStopCount := if receipt.failureCode = some .privacyStop then 1 else 0 }
          if receipt.outcome = .noGo then return base
          return (withWorkerFields base (serializeWorkerReceipt receipt)).issued rt) := by
  have houtcome : Dict.get (serializeWorkerReceipt receipt) "outcome" = .str receipt.outcome.value := by
    rfl
  have hcode : Dict.get (serializeWorkerReceipt receipt) "failure_code"
      = .ofOption (.str ·.value) receipt.failureCode := by
    rfl
  have hbool : Dict.get (serializeWorkerReceipt receipt) "worker_cleanup_complete" = .bool cleanup := by
    rw [← hcleanup]
    rfl
  simp only [deserializeWorkerReceipt, houtcome, hcode, hbool, readFailure_failureCode, Value.str?, Value.bool?, orError,
    NativeOutcome.ofValue_value, ok_bind, require, serializeWorkerReceipt_hasKeys, hfailure, hphases, if_true, ne_eq,
    not_false_eq_true]

def Supervision.over (supervision : Supervision) (prepared : PreparedAuthority) (args : ReceiptArgs) : ReceiptArgs :=
  { args with
    prepared := some prepared
    mutexReleased := supervision.jobDrained
    childTerminated := supervision.jobDrained
    pipeClosed := supervision.pipeClosed && supervision.jobDrained
    readerStopped := supervision.readerStopped && supervision.jobDrained
    workerCleanupComplete := some args.cleanupComplete
    mediaClosed := supervision.jobDrained
    rawRetained := !supervision.jobDrained
    ffmpegLeaseClosed := supervision.jobDrained
    captureWorkerSupervised := supervision.supervised
    captureDeadlineEnforced := supervision.deadlineEnforced
    captureJobDrained := supervision.jobDrained
    captureWorkerExecutableSha256 := some supervision.binding.sha256
    captureWorkerIdentityDigest := some supervision.binding.identityDigest
    captureWorkerLeaseClosed := supervision.workerLeaseClosed
    authorityConsumed := true }

section Pass

variable {rt rt' : Runtime} {prepared : PreparedAuthority} {args : ReceiptArgs} {supervision : Supervision}
  {phases : Option Phases} {size : Int} {identity : String}

theorem withWorkerFields_draft (hsize : args.ffmpegSizeBytes = some size) (hidentity : args.ffmpegIdentityDigest = some identity)
    (cleanup : Bool) :
    withWorkerFields
        ((draftReceipt rt .preflightPass none { supervision.args prepared cleanup with privacyStopCount := 0 }).issued rt)
        (serializeWorkerReceipt (draftReceipt rt' .preflightPass none args))
      = { draftReceipt rt .preflightPass none (supervision.over prepared args) with
          resultDigest :=
            (draftReceipt rt .preflightPass none
              { supervision.args prepared cleanup with privacyStopCount := 0 }).recomputeDigest rt } := by
  rw [withWorkerFields_serialize]
  cases args
  dsimp only at hsize hidentity
  subst hsize hidentity
  rfl

theorem deserialize_pass (hsize : args.ffmpegSizeBytes = some size) (hidentity : args.ffmpegIdentityDigest = some identity) :
    deserializeWorkerReceipt rt (serializeWorkerReceipt (draftReceipt rt' .preflightPass none args)) prepared supervision
        phases
      = .ok ((draftReceipt rt .preflightPass none (supervision.over prepared args)).issued rt) := by
  rw [deserializeWorkerReceipt_serialize rfl (by exact nofun) (by cases phases <;> rfl)]
  have hfields := @withWorkerFields_draft rt rt' prepared args supervision size identity hsize hidentity
    (args.cleanupComplete && supervision.jobDrained && supervision.pipeClosed && supervision.readerStopped
      && supervision.workerLeaseClosed)
  have hissued := congrArg (fun receipt => Except.ok (α := NativeReceipt) (ε := Raised) (receipt.issued rt)) hfields
  exact hissued.trans rfl

end Pass

def supervisorFailureReceipt (prepared : PreparedAuthority) (failure : NativeFailure) (supervision : Supervision) :
    Except Raised NativeReceipt :=
  issueReceipt rt .noGo (some failure) (supervision.args prepared false)

/-! ## The run of a worker -/

/-- The record that lets one capture worker start. -/
structure WorkerGrant where
  schemaVersion : Int
  state : String
  grantId : String
  challengeDigest : String
  capabilityDigest : String
  consumedAuthorityDigest : String
  supervisorExecutableSha256 : String
  workerExecutableSha256 : String
  workerIdentityDigest : String
  workerArgvDigest : String
  sourceSha256 : String
  lockSha256 : String
  poseModelSha256 : String
  faceModelSha256 : String
  ffmpegSha256 : String
  ffmpegVersion : String
  ffmpegSizeBytes : Int
  ffmpegIdentityDigest : String
  jobPolicyDigest : String
  issuedUnixNs : Int
  expiresUnixNs : Int
  recordDigest : String
  deriving DecidableEq, Repr

/-- What the calls of `_run_windows_capture_worker` give, apart from the monitor. -/
structure WorkerLaunch where
  durableGrant : Except Raised (Option WorkerGrant)
  lease : Except Raised FfmpegBinding
  createJob : Except Raised Unit
  launch : Except Raised Unit
  send : Except Raised Unit
  assigned : Bool
  leaseClosed : Bool
  jobClosed : Bool

/-- The `TypeError` and `ValueError` of reading a receipt. -/
def isReadError : Raised → Bool
  | .typeError | .valueError => true
  | _ => false

def phasesMissing (candidate : NativeReceipt) (monitor : WorkerMonitorResult) : Bool :=
  candidate.outcome = .preflightPass
    && (!monitor.privacyReady || !monitor.captureStarting || !monitor.firstFrame || !monitor.captureClosed)

/-- What follows the monitor in `_run_windows_capture_worker`. -/
def judgeWorker (prepared : PreparedAuthority) (binding : FfmpegBinding) (launch : WorkerLaunch)
    (monitor : WorkerMonitorResult) : Except Raised NativeReceipt := do
  let supervised := launch.assigned && monitor.authorized
  let supervision : Supervision := {
    binding
    supervised
    deadlineEnforced := supervised
    jobDrained := monitor.jobDrained
    pipeClosed := monitor.pipeClosed
    readerStopped := monitor.readerStopped
    workerLeaseClosed := launch.leaseClosed }
  match monitor.payload, monitor.allowsCandidate && launch.leaseClosed && launch.jobClosed with
  | some payload, true =>
    let phases : Phases := {
      privacyReady := monitor.privacyReady
      captureStarting := monitor.captureStarting
      firstFrame := monitor.firstFrame
      captureClosed := monitor.captureClosed }
    match deserializeWorkerReceipt rt payload prepared supervision (some phases) with
    | .error raised =>
      if isReadError raised then supervisorFailureReceipt rt prepared .workerProtocolFailure supervision
      else .error raised
    | .ok candidate =>
      if phasesMissing candidate monitor then
        supervisorFailureReceipt rt prepared .workerProtocolFailure supervision
      else if ← candidateSemanticsAreValid rt candidate then return candidate
      else supervisorFailureReceipt rt prepared .workerProtocolFailure supervision
  | _, _ =>
    supervisorFailureReceipt rt prepared (monitor.failureCode launch.leaseClosed launch.jobClosed) supervision

def challengeDigest (challenge : String) : String :=
  rt.digest (.list [.str "d1-n1-worker-challenge-v1", .str challenge])

def runWindowsCaptureWorker (loads : Loads) (prepared : PreparedAuthority) (challenge : String)
    (grant : WorkerGrant) (launch : WorkerLaunch) (run : WorkerRun) : Except Raised NativeReceipt := do
  let durable ← launch.durableGrant
  require (durable = some grant) .osError
  let binding ← launch.lease
  require
    (grant.challengeDigest = challengeDigest rt challenge
      ∧ grant.workerExecutableSha256 = binding.sha256
      ∧ grant.workerIdentityDigest = binding.identityDigest)
    .osError
  launch.createJob
  launch.launch
  launch.send
  let monitor ← monitorCaptureWorker ⟨loads, challengeDigest rt challenge, grant.grantId⟩ run
  judgeWorker rt prepared binding launch monitor

end PduExamObserver.Native
