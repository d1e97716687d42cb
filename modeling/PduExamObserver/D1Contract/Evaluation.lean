import PduExamObserver.Library.Except
import PduExamObserver.D1Contract.Payloads

/-! # The D1 contract: evaluation

`evaluate` under its lease, from the validation of a request to the receipt. What raises inside a receipt is none. -/

namespace PduExamObserver.D1Contract
open Authority Tally
set_option autoImplicit false

/-! ## Validation of the request -/

def canonicalProposalSha256 : String := "2CD5F6FDB17D70FD5593E50B8387BC38DABF70430DFFFECDBE64439DC884AFD5"

def reproductionInvocation : String := "python -m pytest tests/backend/test_m2_d1_contract.py"

def dependencyArtifactName : String := "uv.lock"

def dependencyArtifactSha256 : String := "baf657e935bd76c34e097c6d7f02ebed902758b965148e5585f1cc7cad8b608c"

def provenanceAllowlist : InputKind → String × String × String × List String
  | .testChart => ("chart-v1", "d1-fixture-generator-v1", "d1-baseline-v1", ["mutant-ledger-v1"])
  | .syntheticVideo => ("video-v1", "d1-video-generator-v1", "d1-video-baseline-v1", ["video-mutant-ledger-v1"])

def requiredDuration : RunKind → Int
  | .preflight60s => 60
  | .nominal20m => 1200

def validatePlan (plan : RunPlan) : Except String Unit :=
  require (plan.requestedDurationSeconds = requiredDuration plan.runKind ∧
      (plan.width, plan.height, plan.framesPerSecond, plan.warmupSeconds) = (1280, 720, 15, 5) ∧
      0 ≤ plan.runEndMonotonicNs)
    "plan must retain the exact D1 profile and durations"

def validateAuthority (value : AuthorityReceipt) : Except String Unit :=
  require (value.schemaVersion = 1 ∧ value.receiptKind = "D1_C1_AUTHORITY" ∧ value.decisionDate = "2026-08-26" ∧
      value.decisionOwner = "root" ∧ value.proposalSha256 = canonicalProposalSha256 ∧ value.readinessVersion = "0.4" ∧
      (value.p1Accepted, value.d1Authorized) = (true, true) ∧
      [value.physicalCameraAccessAuthorized, value.participantCollectionAuthorized, value.modelEvaluationAuthorized,
        value.m1RecordingOrPersistenceExportAuthorized].any id = false)
    "input authority is not accepted"

/-- The loop of `_validate_disk_shape` over the samples. -/
def samplesAreOrdered (samples : List ThroughputSample) : Prop :=
  ∀ entry ∈ samples.zipIdx, entry.1.secondIndex = entry.2 ∧ entry.1.bytesPerSecond.isFinite = true ∧
    0 ≤ entry.1.bytesPerSecond.toRat

instance (samples : List ThroughputSample) : Decidable (samplesAreOrdered samples) := by
  unfold samplesAreOrdered
  infer_instance

def validateDiskShape (disk : DiskEvidence) : Except String Unit := do
  require (0 ≤ disk.freeBytes ∧ 0 ≤ disk.encodedByteCount ∧ disk.encodedByteRate.isFinite = true ∧
      0 ≤ disk.encodedByteRate.toRat ∧ disk.throughputSamples.length = 60)
    "disk aggregate is malformed"
  require (samplesAreOrdered disk.throughputSamples) "disk throughput samples are malformed"

def validateProvenance (setup : Setup) (request : ValidationInput) : Except String Unit :=
  let value := request.provenance
  require (value.schemaVersion = 1 ∧ value.sourceKind = request.inputKind ∧
      (value.sourceVersion, value.generatorId, value.baselineId, value.mutantIds) =
        provenanceAllowlist request.inputKind ∧
      value.canonicalInputDigest = canonicalInputDigest setup request.plan request.observations request.disk ∧
      value.frameCount = request.observations.length ∧ value.simulatedNoHuman = true ∧
      value.datasetUseProhibited = true ∧ value.leakageStatement = "N/A" ∧ value.deterministicSeed = "N/A")
    "input provenance is malformed"

def validateEnvironment (value : EnvironmentReceipt) : Except String Unit :=
  require (value.schemaVersion = 1 ∧ value.receiptKind = "D1_C1_INJECTED_ENVIRONMENT" ∧
      [value.applicationRevisionDigest, value.releaseManifestDigest, value.poseEngineDigest,
        value.encoderDigest].all isHexDigest = true ∧
      (value.operatingSystem, value.locale, value.timezone) = ("SIMULATED-N/A", "N/A", "N/A") ∧
      (value.offline, value.injectedOnly, value.cameraNotAccessed, value.driverUnverified, value.audioProhibited) =
        (true, true, true, true, true))
    "input environment is malformed"

def validateReproduction (setup : Setup) (request : ValidationInput) : Except String Unit :=
  let value := request.reproduction
  require (value.schemaVersion = 1 ∧ value.receiptKind = "D1_C1_REPRODUCTION" ∧
      value.noninteractiveInvocation = reproductionInvocation ∧ value.dependencyArtifact = dependencyArtifactName ∧
      value.lockDigest = dependencyArtifactSha256 ∧ value.sourceDigest = request.provenance.canonicalInputDigest ∧
      value.deterministicSeed = "N/A" ∧ value.thresholdVersion = "d1-thresholds-v1" ∧
      value.baselineId = request.provenance.baselineId ∧ value.mutantIds = request.provenance.mutantIds ∧
      value.uncertaintyStatement = "SIMULATED_EVALUATOR_ONLY" ∧
      value.inputDigest = request.provenance.canonicalInputDigest ∧
      value.expectedEvaluationDigest = canonicalEvaluationDigest setup request)
    "input reproduction receipt is malformed"

def validateRequest (setup : Setup) (request : ValidationInput) : Except String Unit := do
  require (request.schemaVersion = 1) "input schema is not supported"
  require (request.evidenceKind = .simulated) "input kind is not allowed"
  validatePlan request.plan
  validateAuthority request.authority
  validateDiskShape request.disk
  validateProvenance setup request
  validateEnvironment request.environment
  validateReproduction setup request

/-! ## Validation of the observations -/

def checkDisposition (request : ValidationInput) (previousProcessed : Option Int) (captured : Int)
    (item : Observation) : Except D1FailureCode (Option Int) :=
  match item.disposition with
  | some .processed =>
    match item.processedMonotonicNs.int? with
    | none => .error .schemaIncompatible
    | some processed =>
      if processed < captured ∨ request.plan.runEndMonotonicNs < processed ∨ item.failureCode ≠ .none ∨
          item.dropReason ≠ .none then .error .schemaIncompatible
      else if previousProcessed.any fun previous => processed ≤ previous then .error .clockRegression
      else .ok (some processed)
  | some .droppedExplicit =>
    match item.dropReason with
    | .reason _ =>
      if item.processedMonotonicNs.isNull = true ∧ item.failureCode = .none then .ok previousProcessed
      else .error .schemaIncompatible
    | _ => .error .schemaIncompatible
  | some .failed =>
    match item.failureCode with
    | .code _ =>
      if item.processedMonotonicNs.isNull = true ∧ item.dropReason = .none then .ok previousProcessed
      else .error .schemaIncompatible
    | _ => .error .schemaIncompatible
  | none => .error .schemaIncompatible

def checkCapture (previousCapture : Option Int) (captured : Int) : Except D1FailureCode Unit :=
  match previousCapture with
  | none => .ok ()
  | some previous =>
    if captured = previous then .error .frameStalled
    else if captured < previous then .error .clockRegression
    else if 1000000000 ≤ captured - previous then .error .frameStalled
    else .ok ()

/-- One turn of the loop of `_validate_observations`: the times of this capture and of the last processed frame. -/
def checkObservation (request : ValidationInput) (previousCapture previousProcessed : Option Int)
    (item : Observation) : Except D1FailureCode (Int × Option Int) := do
  require (item.isObservation = true ∧ item.sourceKind = some request.inputKind) .schemaIncompatible
  let captured ← orError .schemaIncompatible item.capturedMonotonicNs.int?
  require (0 ≤ captured ∧ captured ≤ request.plan.runEndMonotonicNs) .schemaIncompatible
  checkCapture previousCapture captured
  let processed ← checkDisposition request previousProcessed captured item
  let quality ← orError .schemaIncompatible item.qualityInsufficient.bool?
  require (quality = true → item.disposition = some .processed) .schemaIncompatible
  return (captured, processed)

/-- The loop of `_validate_observations`. -/
def observationsFailure (request : ValidationInput) (previousCapture previousProcessed : Option Int) :
    List Observation → Option D1FailureCode
  | [] => none
  | item :: rest =>
    match checkObservation request previousCapture previousProcessed item with
    | .error code => some code
    | .ok (captured, processed) => observationsFailure request (some captured) processed rest

def validateObservations (request : ValidationInput) : Option D1FailureCode :=
  observationsFailure request none none request.observations

/-! ## Accounting -/

def Observation.captured (item : Observation) : Int := item.capturedMonotonicNs.int?.getD 0

def splitWarmup (request : ValidationInput) : List Observation × List Observation :=
  match request.observations with
  | [] => ([], [])
  | first :: _ =>
    let boundary := first.captured + request.plan.warmupSeconds * 1000000000
    (request.observations.filter fun item => item.captured < boundary,
      request.observations.filter fun item => boundary ≤ item.captured)

def Observation.dropName (item : Observation) : Option String :=
  match item.dropReason with
  | .reason reason => some reason.value
  | _ => none

/-- `_accounting`. -/
def accountingOf (items : List Observation) : Accounting where
  deliveredFrames := items.length
  interFrameGaps := max ((items.length : Int) - 1) 0
  processed := items.countP fun item => item.disposition = some .processed
  droppedExplicit := items.countP fun item => item.disposition = some .droppedExplicit
  failed := items.countP fun item => item.disposition = some .failed
  qualityInsufficient := items.countP fun item => item.qualityInsufficient.bool? = some true
  dropReasons := sortItems (tally (items.filterMap Observation.dropName))

/-- The names that one turn of the loop of `_failure_counts` counts, unless it raises. -/
def Observation.failureNames (item : Observation) : Option (List String) :=
  let quality := if item.qualityInsufficient.truthy then [D1FailureCode.qualityInsufficient.value] else []
  match item.failureCode with
  | .none => some quality
  | .code code => some (code.value :: quality)
  | .valued value => some (value :: quality)
  | .bare => none

def failureCounts (request : ValidationInput) (privacyStop : Bool) : Option (List (String × Int)) := do
  let names ← request.observations.mapM Observation.failureNames
  let injected := request.injectedFailures.map D1FailureCode.value
  return sortItems (tally (names.flatten ++ injected ++
    if privacyStop then [D1FailureCode.privacyStop.value] else []))

def firstCountCode (counts : List (String × Int)) : Option D1FailureCode :=
  counts.head?.bind fun item => D1FailureCode.ofValue? item.1

/-! ## Metrics -/

/-- `nearest_rank`, for values that are there. -/
def nearestRank (values : List Rat) (percentile : Nat) : Rat :=
  (values.insertionSort (· ≤ ·)).getD ((percentile * values.length + 99) / 100 - 1) 0

def rankOrNone (values : List Rat) (percentile : Nat) : Option Rat :=
  if values = [] then none else some (nearestRank values percentile)

def captureGaps : List Observation → List Rat
  | left :: right :: rest => ((right.captured - left.captured : Int) : Rat) / 1000000 :: captureGaps (right :: rest)
  | _ => []

/-- `item.processed_monotonic_ns or -1`. -/
def Observation.completion (item : Observation) : Int :=
  match item.processedMonotonicNs.int? with
  | none => -1
  | some processed => if processed = 0 then -1 else processed

/-- `max(items, key=…, default=None)`: the first item with the greatest key. -/
def latestCompleted (items : List Observation) : Option Observation :=
  items.foldl (fun latest item =>
    match latest with
    | none => some item
    | some best => if best.completion < item.completion then some item else some best) none

/-- `_metrics`. -/
def metricsOf (request : ValidationInput) (post : List Observation) : Option MetricSummary :=
  match request.observations.head?, post.getLast? with
  | some start, some last =>
    let first := start.captured
    let finish := request.plan.runEndMonotonicNs
    let total : Rat := ((finish - first : Int) : Rat) / 1000000000
    let warmupBoundary := first + request.plan.warmupSeconds * 1000000000
    let postSeconds : Rat := ((finish - warmupBoundary : Int) : Rat) / 1000000000
    if total ≤ 0 ∨ postSeconds ≤ 0 then none
    else
      let processed := post.filter fun item => item.disposition = some .processed
      let latencies := processed.filterMap fun item =>
        item.processedMonotonicNs.int?.map fun time => ((time - item.captured : Int) : Rat) / 1000000
      let backlog := (latestCompleted processed).map fun latest =>
        ((last.captured - latest.captured : Int) : Rat) / 1000000
      if backlog.any (· < 0) then none
      else some {
        firstCaptureMonotonicNs := first
        runEndMonotonicNs := finish
        measuredTotalSeconds := total
        measuredPostWarmupSeconds := postSeconds
        deliveredFramesPerSecond := post.length / postSeconds
        p95InterFrameGapMs := rankOrNone (captureGaps post) 95
        p95PoseLatencyMs := rankOrNone latencies 95
        p99PoseLatencyMs := rankOrNone latencies 99
        p10PreflightThroughputBytesPerSecond :=
          some (nearestRank (request.disk.throughputSamples.map fun item => item.bytesPerSecond.toRat) 10)
        backlogMs := backlog }
  | _, _ => none

def emptyMetrics (plan : RunPlan) : MetricSummary :=
  ⟨0, plan.runEndMonotonicNs, 0, 0, 0, none, none, none, none, none⟩

/-- `math.isclose` with its default relative tolerance. -/
def isClose (a b absTol : Rat) : Prop := |a - b| ≤ max (1 / 1000000000 * max |a| |b|) absTol

instance (a b absTol : Rat) : Decidable (isClose a b absTol) := inferInstanceAs (Decidable (_ ≤ _))

/-- The bytes that a run needs, unless the rate is too great for `int`. -/
def requiredBytes (setup : Setup) (rate : Number) (durationSeconds : Int) : Option Int :=
  match rate with
  | .int n => some (max (2 * 1024 ^ 3) (2 * n * durationSeconds))
  | .float q =>
    if setup.overflow.any (· ≤ 2 * q * durationSeconds) then none
    else some (max (2 * 1024 ^ 3) ⌊2 * q * durationSeconds⌋)
  | .nonFinite => none

def thresholdFailure (request : ValidationInput) (accounting : Accounting) (metrics : MetricSummary)
    (required : Int) : Option D1FailureCode :=
  let duration : Rat := request.plan.requestedDurationSeconds
  if metrics.measuredTotalSeconds < duration ∨ metrics.measuredPostWarmupSeconds < duration then
    some .qualityInsufficient
  else if metrics.deliveredFramesPerSecond < 27 / 2 ∨ metrics.p95InterFrameGapMs.any (200 < ·) then
    some .qualityInsufficient
  else if metrics.p95PoseLatencyMs.all (200 < ·) ∨ metrics.p99PoseLatencyMs.all (500 < ·) then
    some .qualityInsufficient
  else if metrics.backlogMs.all (2000 < ·) then some .qualityInsufficient
  else if (accounting.processed : Rat) / accounting.deliveredFrames < 99 / 100 ∨
      1 / 100 < ((accounting.droppedExplicit + accounting.failed : Int) : Rat) / accounting.deliveredFrames then
    some .qualityInsufficient
  else if request.disk.freeBytes < required then some .diskSpaceInsufficient
  else if metrics.p10PreflightThroughputBytesPerSecond.all (· < 2 * request.disk.encodedByteRate.toRat) then
    some .diskThroughputInsufficient
  else none

def stageFailure (stages : EncoderDurabilityEvidence) : Option D1FailureCode :=
  if stages.encoderOpen = .failed then some .encoderUnavailable
  else if stages.encoderWrite = .failed then some .encoderWriteFailed
  else if stages.encoderFinalize = .failed then some .encoderFinalizeFailed
  else if stages.durability = .failed then some .diskFsyncFailed
  else none

/-! ## Receipts -/

def notAttempted : EncoderDurabilityEvidence := ⟨.notAttempted, .notAttempted, .notAttempted, .notAttempted⟩

def receipt (setup : Setup) (request : ValidationInput) (outcome : ValidationOutcome) (code : Option D1FailureCode)
    (counts : List (String × Int)) (checked stops : Int) (warmup accounting : Accounting) (metrics : MetricSummary)
    (scrubbed : Bool) : Option D1Receipt := do
  let required ← if scrubbed then some 0
    else requiredBytes setup request.disk.encodedByteRate request.plan.requestedDurationSeconds
  let hidden := fun digest : String => if scrubbed then privacyStopDigest setup checked else digest
  let base : D1Receipt :=
    { schemaVersion := 1
      outcome
      deviceGateDecision := .unverified
      evidenceKind := .simulated
      failureCode := code
      failureCounts := counts
      runKind := request.plan.runKind
      width := request.plan.width
      height := request.plan.height
      framesPerSecond := request.plan.framesPerSecond
      requestedDurationSeconds := request.plan.requestedDurationSeconds
      warmupSeconds := request.plan.warmupSeconds
      privacyCheckedFrames := checked
      privacyStopCount := stops
      warmupAccounting := warmup
      accounting
      metrics
      requiredBytes := required
      freeBytes := if scrubbed then 0 else request.disk.freeBytes
      encodedByteCount := if scrubbed then 0 else request.disk.encodedByteCount
      encodedByteRate := if scrubbed then .float 0 else request.disk.encodedByteRate
      throughputSampleCount := if scrubbed then 0 else request.disk.throughputSamples.length
      throughputDigest := setup.digest
        (if scrubbed then .array [] else throughputPayload request.disk.throughputSamples)
      stages := if scrubbed then notAttempted else request.disk.stages
      sealAttempted := false
      exportAttempted := false
      authorityDigest := setup.digest (authorityPayload request.authority)
      inputDigest := hidden (canonicalInputDigest setup request.plan request.observations request.disk)
      provenanceDigest := hidden (setup.digest (provenancePayload request.provenance))
      environmentDigest := setup.digest (environmentPayload request.environment)
      reproductionDigest := hidden (setup.digest (reproductionPayload request.reproduction))
      evaluationCoreDigest := hidden (canonicalEvaluationDigest setup request)
      resultDigest := "" }
  return base.sealed setup

/-- The optional arguments of `_failure_receipt`. -/
structure FailureDetail where
  warmup : List Observation := []
  accounting : Accounting := .empty
  metrics : Option MetricSummary := none
  checked : Int := 0
  stops : Int := 0
  counts : Option (List (String × Int)) := none

def withCode (counts : List (String × Int)) (code : D1FailureCode) : List (String × Int) :=
  if code.value ∈ counts.map Prod.fst then counts else sortItems (counts ++ [(code.value, 1)])

def failureReceipt (setup : Setup) (request : ValidationInput) (code : D1FailureCode) (detail : FailureDetail) :
    Option D1Receipt := do
  let counts ← match detail.counts with
    | some counts => some counts
    | none => failureCounts request (0 < detail.stops)
  let receiptOf := receipt setup request .noGo (some code) (withCode counts code) detail.checked detail.stops
  if code = .privacyStop then receiptOf .empty .empty (emptyMetrics request.plan) true
  else receiptOf (accountingOf detail.warmup) detail.accounting (detail.metrics.getD (emptyMetrics request.plan)) false

/-! ## Evaluation -/

/-- What a privacy guard does when it is asked about an observation; `other` is anything that is no decision. -/
inductive GuardAnswer where
  | decided (decision : PrivacyDecision)
  | other
  | raises
  deriving DecidableEq

abbrev PrivacyGuard := Nat → Observation → GuardAnswer

/-- The number of observations that the guard was asked about when it answered anything but `CLEAR`. -/
def firstStop (guard : PrivacyGuard) (checked : Nat) : List Observation → Option Nat
  | [] => none
  | observation :: rest =>
    if guard checked observation = .decided .clear then firstStop guard (checked + 1) rest else some (checked + 1)

/-- The part of `_evaluate_under_lease` after the counts. -/
def evaluateClean (setup : Setup) (request : ValidationInput) : Option D1Receipt :=
  let (warmup, post) := splitWarmup request
  let accounting := accountingOf post
  let checked : Int := request.observations.length
  let failed (code : D1FailureCode) (metrics : Option MetricSummary) :=
    failureReceipt setup request code { warmup, accounting, metrics, checked }
  if accounting.deliveredFrames = 0 then failed .inputUnavailable none
  else if accounting.processed + accounting.droppedExplicit + accounting.failed ≠ accounting.deliveredFrames then
    failed .schemaIncompatible none
  else if accounting.qualityInsufficient ≠ 0 then failed .qualityInsufficient none
  else
    match stageFailure request.disk.stages with
    | some code => failed code none
    | none =>
      match metricsOf request post with
      | none => failed .schemaIncompatible none
      | some metrics =>
        if request.disk.encodedByteCount ≤ 0 ∨ request.disk.encodedByteRate.toRat ≤ 0 then
          failed .encoderWriteFailed (some metrics)
        else if ¬ isClose (request.disk.encodedByteCount / request.disk.encodedByteRate.toRat)
            metrics.measuredTotalSeconds (1 / 1000) then
          failed .schemaIncompatible (some metrics)
        else do
          let required ← requiredBytes setup request.disk.encodedByteRate request.plan.requestedDurationSeconds
          match thresholdFailure request accounting metrics required with
          | some code => failed code (some metrics)
          | none =>
            receipt setup request .backendContractPass none [] checked 0 (accountingOf warmup) accounting metrics false

def evaluateUnderLease (setup : Setup) (request : ValidationInput) (guard : PrivacyGuard) : Option D1Receipt :=
  match firstStop guard 0 request.observations with
  | some checked =>
    failureReceipt setup request .privacyStop
      { checked, stops := 1, counts := some [(D1FailureCode.privacyStop.value, 1)] }
  | none =>
    let checked : Int := request.observations.length
    match validateObservations request with
    | some error => failureReceipt setup request error { checked }
    | none => do
      let counts ← failureCounts request false
      if counts = [] then evaluateClean setup request
      else
        let (warmup, post) := splitWarmup request
        let code ← firstCountCode counts
        failureReceipt setup request code
          { warmup, accounting := accountingOf post, checked, counts := some counts }

/-- What `acquire` does; `other` is any value that is not `True`. -/
inductive AcquireAnswer where
  | returnsTrue
  | other
  | raises
  deriving DecidableEq

structure Lease where
  acquire : AcquireAnswer
  releaseRaises : Bool
  deriving DecidableEq

inductive EvaluateError where
  | invalid (message : String)
  /-- an exception while a receipt is built -/
  | raised
  deriving DecidableEq

/-- How a call of `evaluate` ends, and how often it has called `release`. -/
structure Evaluation where
  result : Except EvaluateError D1Receipt
  releases : Nat

def evaluate (setup : Setup) (request : ValidationInput) (guard : PrivacyGuard) (lease : Lease) : Evaluation :=
  match validateRequest setup request with
  | .error message => ⟨.error (.invalid message), 0⟩
  | .ok () =>
    let denied := orError .raised (failureReceipt setup request .schemaIncompatible {})
    match lease.acquire with
    | .raises | .other => ⟨denied, 0⟩
    | .returnsTrue =>
      match (evaluateUnderLease setup request guard).or (failureReceipt setup request .unknownTechnicalFailure {}) with
      | none => ⟨.error .raised, 0⟩
      | some result => ⟨if lease.releaseRaises then denied else .ok result, 1⟩

end PduExamObserver.D1Contract
