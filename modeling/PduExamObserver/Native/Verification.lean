import PduExamObserver.Native.Receipts

/-! # The rules of a receipt

`verify_receipt_semantics` as the list of the conditions under which it returns `False`, in the order in
which it evaluates them: a comparison of values that Python cannot compare raises. -/

namespace PduExamObserver.Native
open Authority
set_option autoImplicit false

variable (rt : Runtime)

/-- `_is_digest` of an optional string. -/
def isDigest? (s : Option String) : Bool := s.any isHexDigest

/-- `value != n`. -/
def Value.differs (value : Value) (n : Int) : Bool := !value.eq (.int n)

/-- `isinstance(value, float) and math.isfinite(value) and value >= 0`. -/
def Value.isMeasure : Value → Bool
  | .float (.finite q) => 0 ≤ q
  | _ => false

/-- `type(value) is int and value >= 0`. -/
def Value.isCount : Value → Bool
  | .int n => 0 ≤ n
  | _ => false

def Value.count (value : Value) : Int := value.int?.getD 0

def Value.measure : Value → ℚ
  | .float (.finite q) => q
  | _ => 0

/-- `math.isclose(a, b, abs_tol=0.000001)`. -/
def isclose (a b : ℚ) : Bool := |a - b| ≤ max (max |a| |b| / 1000000000) (1 / 1000000)

namespace NativeReceipt

def sealRejected (receipt : NativeReceipt) : Bool :=
  if receipt.authorityConsumed then
    receipt.outcome = .prepared
      || !isDigest? receipt.runNonce
      || !isDigest? receipt.terminalReceiptDigest
      || !isDigest? receipt.terminalStateDigest
      || receipt.terminalReceiptDigest ≠ some (receipt.recomputeCoreDigest rt)
  else
    receipt.runNonce.isSome || receipt.terminalReceiptDigest.isSome || receipt.terminalStateDigest.isSome

def bindingRejected (receipt : NativeReceipt) : Bool :=
  receipt.sourceSha256 ≠ rt.sourceSha256
    || receipt.lockSha256 ≠ rt.lockSha256
    || receipt.poseModelSha256 ≠ Native.poseModelSha256
    || receipt.faceModelSha256 ≠ Native.faceModelSha256
    || receipt.poseModelBytes ≠ Native.poseModelBytes
    || receipt.faceModelBytes ≠ Native.faceModelBytes
    || receipt.runtimeDependencyVersion ≠ some "1.0.1"
    || receipt.dependencyPin ≠ Native.dependencyPin
    || !receipt.offline
    || !receipt.videoOnly
    || !receipt.audioSealActive
    || !receipt.networkGuardActive
    || receipt.outboundNetworkAttempts ≠ 0

def commonChecks (receipt : NativeReceipt) : List (Except Raised Bool) :=
  [.ok (receipt.schemaVersion ≠ 2),
    .ok (receipt.resultDigest ≠ receipt.recomputeDigest rt),
    .ok (receipt.sealRejected rt),
    .ok (receipt.deviceGateDecision ≠ .unverified || receipt.d1Go),
    .ok (receipt.frameBytes ≠ Native.frameBytes || receipt.audioRequested),
    .ok (receipt.rawRetained && receipt.failureCode ≠ some .privacyStop
      && receipt.failureCode ≠ some .cleanupIncomplete),
    .ok (receipt.bindingRejected rt),
    .ok (receipt.stages ≠ List.replicate 4 .notAttempted)]

/-- `value is None or value > bound`. -/
def missingOrAbove (value : Value) (bound : ℚ) : Except Raised Bool :=
  if value.isNone then .ok true else value.gt bound

/-- `a + b + c != total`. -/
def sumDiffers (a b c total : Value) : Except Raised Bool := do
  let partialSum ← a.add b
  let sum ← partialSum.add c
  return !sum.eq total

def passChecks (receipt : NativeReceipt) : List (Except Raised Bool) :=
  [.ok (receipt.failureCode.isSome),
    .ok (receipt.privacyStopCount.differs 0),
    .ok (receipt.faceDetections.differs 0),
    .ok (receipt.poseDetections.differs 0),
    sumDiffers receipt.processedFrames receipt.droppedExplicitFrames receipt.failedFrames receipt.deliveredFrames,
    receipt.measuredTotalSeconds.lt preflightSeconds,
    receipt.measuredPostWarmupSeconds.lt (preflightSeconds - Native.warmupSeconds : Int),
    (if receipt.deliveredFramesPerSecond.isNone then .ok true
      else receipt.deliveredFramesPerSecond.lt (27 / 2)),
    missingOrAbove receipt.p95IngressGapMs 200,
    missingOrAbove receipt.p95PoseLatencyMs 200,
    missingOrAbove receipt.p99PoseLatencyMs 500,
    missingOrAbove receipt.backlogMs 2000,
    .ok !receipt.mutexReleased,
    .ok !receipt.childTerminated,
    .ok !receipt.pipeClosed,
    .ok !receipt.readerStopped,
    .ok !receipt.workerCleanupComplete.truthy,
    .ok !receipt.mediaClosed,
    .ok !receipt.captureWorkerSupervised,
    .ok !receipt.captureDeadlineEnforced,
    .ok !receipt.captureJobDrained,
    .ok !isDigest? receipt.captureWorkerExecutableSha256,
    .ok !isDigest? receipt.captureWorkerIdentityDigest,
    .ok !receipt.captureWorkerLeaseClosed,
    .ok !receipt.authorityConsumed,
    .ok receipt.preparedConfigDigest.isNone,
    .ok !receipt.fixedArgvDigest.isDigest,
    .ok !receipt.fixedArgvDigest.eq (.str (fixedArgvTemplateDigest rt)),
    .ok !isDigest? receipt.preparedConfigDigest,
    .ok !receipt.ffmpegSha256.isDigest,
    .ok receipt.ffmpegVersion.isNone,
    .ok !receipt.ffmpegSha256.eq (.ofOption .str receipt.preparedFfmpegSha256),
    .ok !receipt.ffmpegVersion.eq (.ofOption .str receipt.preparedFfmpegVersion),
    .ok receipt.ffmpegSizeBytes.isNone,
    receipt.ffmpegSizeBytes.le 0,
    .ok !receipt.ffmpegSizeBytes.eq (.ofOption .int receipt.preparedFfmpegSizeBytes),
    .ok !receipt.ffmpegIdentityDigest.isDigest,
    .ok !receipt.ffmpegIdentityDigest.eq (.ofOption .str receipt.preparedFfmpegIdentityDigest),
    .ok !receipt.ffmpegLeaseVerified.truthy,
    .ok !receipt.ffmpegLeaseClosed]

def basisChecks (receipt : NativeReceipt) : List (Except Raised Bool) :=
  let received := receipt.receivedFrames.count
  let warmup := receipt.warmupFrames.count
  let attempted := receipt.postAttemptedFrames.count
  let successful := receipt.postSuccessfulFrames.count
  let dropped := receipt.droppedShortFrames.count
  let inference := receipt.inferenceFailureFrames.count
  let privacy := receipt.privacyTerminalFrames.count
  let delivery := receipt.deliveryFailureFrames.count
  let elapsed := receipt.postElapsedNs.count
  [.ok !([receipt.measuredTotalSeconds, receipt.measuredPostWarmupSeconds, receipt.deliveredFramesPerSecond,
      receipt.p95IngressGapMs, receipt.p95PoseLatencyMs, receipt.p99PoseLatencyMs,
      receipt.backlogMs].all Value.isMeasure),
    .ok !([receipt.deliveredFrames, receipt.processedFrames, receipt.droppedExplicitFrames,
      receipt.failedFrames, receipt.privacyCheckedFrames, receipt.privacyStopCount].all Value.isCount),
    .ok !([receipt.receivedFrames, receipt.warmupFrames, receipt.postAttemptedFrames,
      receipt.postSuccessfulFrames, receipt.droppedShortFrames, receipt.inferenceFailureFrames,
      receipt.privacyTerminalFrames, receipt.deliveryFailureFrames, receipt.postElapsedNs,
      receipt.maxStallGapNs, receipt.backlogNs].all Value.isCount),
    .ok (received ≠ warmup + attempted),
    .ok (attempted ≠ successful + dropped + inference + privacy + delivery),
    .ok (receipt.deliveredFrames.count ≠ received
      || receipt.processedFrames.count ≠ warmup + successful
      || receipt.droppedExplicitFrames.count ≠ dropped
      || receipt.failedFrames.count ≠ inference + privacy + delivery
      || receipt.privacyCheckedFrames.count ≠ receipt.processedFrames.count),
    .ok (elapsed = 0
      || receipt.maxStallGapNs.count ≥ 1000000000
      || receipt.backlogNs.count > 2000000000
      || delivery ≠ 0
      || privacy ≠ 0
      || successful * 100 < attempted * 99
      || (dropped + inference) * 100 > attempted),
    .ok !isclose receipt.deliveredFramesPerSecond.measure (successful * 1000000000 / elapsed),
    .ok !isclose receipt.measuredPostWarmupSeconds.measure (elapsed / 1000000000),
    .ok !isclose receipt.backlogMs.measure (receipt.backlogNs.count / 1000000)]

def cleanupFlags (receipt : NativeReceipt) : Bool :=
  receipt.mutexReleased && receipt.childTerminated && receipt.pipeClosed && receipt.readerStopped
    && receipt.mediaClosed && receipt.ffmpegLeaseClosed && receipt.captureJobDrained
    && receipt.captureWorkerLeaseClosed

def noGoChecks (receipt : NativeReceipt) : List (Except Raised Bool) :=
  [.ok receipt.failureCode.isNone,
    .ok (receipt.failureCode = some .cleanupIncomplete && receipt.workerCleanupComplete.truthy
      && receipt.cleanupFlags),
    .ok (receipt.failureCode ≠ some .privacyStop
      && (receipt.privacyStopCount.truthy || receipt.faceDetections.truthy || receipt.poseDetections.truthy
        || receipt.privacyTerminalFrames.truthy)),
    .ok (receipt.failureCode = some .privacyStop
      && (receipt.deliveredFrames.differs 0 || receipt.processedFrames.differs 0
        || receipt.privacyStopCount.differs 1))]

/-- The rules that depend on the outcome; `PREPARED` has none. -/
def outcomeChecks (receipt : NativeReceipt) : List (Except Raised Bool) :=
  match receipt.outcome with
  | .preflightPass => receipt.passChecks rt ++ receipt.basisChecks
  | .noGo => receipt.noGoChecks
  | .prepared => []

end NativeReceipt

def verifyReceiptSemantics (receipt : NativeReceipt) : Except Raised Bool :=
  (anyOf (receipt.commonChecks rt ++ receipt.outcomeChecks rt)).map (!·)

/-- `"0" * 64`, the nonce of a candidate. -/
def candidateNonce : String := String.ofList (List.replicate 64 '0')

def candidateStateDigest : String := String.ofList (List.replicate 64 '1')

def NativeReceipt.sealedWith (receipt : NativeReceipt) (nonce stateDigest : String) : NativeReceipt :=
  let core := { receipt with
    runNonce := some nonce, terminalReceiptDigest := none, terminalStateDigest := none, resultDigest := "" }
  let sealedCore := { core with
    terminalReceiptDigest := some (core.recomputeCoreDigest rt), terminalStateDigest := some stateDigest }
  sealedCore.issued rt

def candidateSemanticsAreValid (candidate : NativeReceipt) : Except Raised Bool :=
  verifyReceiptSemantics rt (candidate.sealedWith rt candidateNonce candidateStateDigest)

end PduExamObserver.Native
