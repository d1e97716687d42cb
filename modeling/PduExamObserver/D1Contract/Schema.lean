import Mathlib.Algebra.Order.Floor.Ring
import Mathlib.Data.Rat.Floor
import PduExamObserver.Authority.Values
import PduExamObserver.Library.Tally

/-! # The D1 contract: data

The request and the receipt of the aggregate evaluator, and the JSON values that it hashes. A field that no check
looks at before the observations are walked through may hold any value; finite floats are rationals. -/

namespace PduExamObserver.D1Contract
open Authority
set_option autoImplicit false

/-! ## Enumerations -/

inductive InputKind where
  | testChart
  | syntheticVideo
  deriving DecidableEq, Repr

def InputKind.value : InputKind → String
  | .testChart => "TEST_CHART"
  | .syntheticVideo => "SYNTHETIC_VIDEO"

inductive EvidenceKind where
  | simulated
  deriving DecidableEq, Repr

def EvidenceKind.value : EvidenceKind → String
  | .simulated => "SIMULATED"

inductive RunKind where
  | preflight60s
  | nominal20m
  deriving DecidableEq, Repr

def RunKind.value : RunKind → String
  | .preflight60s => "PREFLIGHT_60S"
  | .nominal20m => "NOMINAL_20M"

inductive PrivacyDecision where
  | clear
  | unsafe_
  | unknown
  deriving DecidableEq, Repr

inductive FrameDisposition where
  | processed
  | droppedExplicit
  | failed
  deriving DecidableEq, Repr

def FrameDisposition.value : FrameDisposition → String
  | .processed => "PROCESSED"
  | .droppedExplicit => "DROPPED_EXPLICIT"
  | .failed => "FAILED"

inductive DropReason where
  | backpressure
  deriving DecidableEq, Repr

def DropReason.value : DropReason → String
  | .backpressure => "BACKPRESSURE"

def DropReason.values : List String := ["BACKPRESSURE"]

inductive StageState where
  | succeeded
  | failed
  | notAttempted
  deriving DecidableEq, Repr

def StageState.value : StageState → String
  | .succeeded => "SUCCEEDED"
  | .failed => "FAILED"
  | .notAttempted => "NOT_ATTEMPTED"

inductive ValidationOutcome where
  | backendContractPass
  | noGo
  deriving DecidableEq, Repr

def ValidationOutcome.value : ValidationOutcome → String
  | .backendContractPass => "BACKEND_CONTRACT_PASS"
  | .noGo => "NO_GO"

inductive DeviceGateDecision where
  | unverified
  deriving DecidableEq, Repr

def DeviceGateDecision.value : DeviceGateDecision → String
  | .unverified => "UNVERIFIED"

inductive D1FailureCode where
  | inputUnavailable
  | inputMalformed
  | frameStalled
  | clockRegression
  | poseEngineUnavailable
  | poseEngineException
  | poseOutputInvalid
  | qualityInsufficient
  | encoderUnavailable
  | encoderWriteFailed
  | encoderFinalizeFailed
  | diskUnavailable
  | diskSpaceInsufficient
  | diskThroughputInsufficient
  | diskFsyncFailed
  | atomicRenameFailed
  | manifestValidationFailed
  | schemaIncompatible
  | privacyStop
  | unknownTechnicalFailure
  deriving DecidableEq, Repr

namespace D1FailureCode

def value : D1FailureCode → String
  | .inputUnavailable => "INPUT_UNAVAILABLE"
  | .inputMalformed => "INPUT_MALFORMED"
  | .frameStalled => "FRAME_STALLED"
  | .clockRegression => "CLOCK_REGRESSION"
  | .poseEngineUnavailable => "POSE_ENGINE_UNAVAILABLE"
  | .poseEngineException => "POSE_ENGINE_EXCEPTION"
  | .poseOutputInvalid => "POSE_OUTPUT_INVALID"
  | .qualityInsufficient => "QUALITY_INSUFFICIENT"
  | .encoderUnavailable => "ENCODER_UNAVAILABLE"
  | .encoderWriteFailed => "ENCODER_WRITE_FAILED"
  | .encoderFinalizeFailed => "ENCODER_FINALIZE_FAILED"
  | .diskUnavailable => "DISK_UNAVAILABLE"
  | .diskSpaceInsufficient => "DISK_SPACE_INSUFFICIENT"
  | .diskThroughputInsufficient => "DISK_THROUGHPUT_INSUFFICIENT"
  | .diskFsyncFailed => "DISK_FSYNC_FAILED"
  | .atomicRenameFailed => "ATOMIC_RENAME_FAILED"
  | .manifestValidationFailed => "MANIFEST_VALIDATION_FAILED"
  | .schemaIncompatible => "SCHEMA_INCOMPATIBLE"
  | .privacyStop => "PRIVACY_STOP"
  | .unknownTechnicalFailure => "UNKNOWN_TECHNICAL_FAILURE"

def all : List D1FailureCode :=
  [.inputUnavailable, .inputMalformed, .frameStalled, .clockRegression, .poseEngineUnavailable, .poseEngineException,
    .poseOutputInvalid, .qualityInsufficient, .encoderUnavailable, .encoderWriteFailed, .encoderFinalizeFailed,
    .diskUnavailable, .diskSpaceInsufficient, .diskThroughputInsufficient, .diskFsyncFailed, .atomicRenameFailed,
    .manifestValidationFailed, .schemaIncompatible, .privacyStop, .unknownTechnicalFailure]

/-- `D1FailureCode(value)`. -/
def ofValue? (value : String) : Option D1FailureCode := all.find? fun code => code.value = value

theorem mem_all (code : D1FailureCode) : code ∈ all := by
  cases code <;> decide

theorem value_injective {a b : D1FailureCode} (h : a.value = b.value) : a = b := by
  cases a <;> cases b <;> first | rfl | exact absurd h (by decide)

theorem ofValue?_value (code : D1FailureCode) : ofValue? code.value = some code := by
  cases code <;> decide

end D1FailureCode

/-! ## JSON values -/

/-- An `int`, or a `float`. -/
inductive Number where
  | int (n : Int)
  | float (q : Rat)
  | nonFinite
  deriving DecidableEq, Repr

def Number.isFinite : Number → Bool
  | .nonFinite => false
  | _ => true

def Number.toRat : Number → Rat
  | .int n => n
  | .float q => q
  | .nonFinite => 0

/-- A value that `json.dumps` takes. -/
inductive Json where
  | null
  | bool (b : Bool)
  | number (n : Number)
  | str (s : String)
  | array (items : List Json)
  | object (fields : List (String × Json))

namespace Json

def int (n : Int) : Json := .number (.int n)

def float (q : Rat) : Json := .number (.float q)

/-- A value that is an instance of `int`, as `bool` values are. -/
def int? : Json → Option Int
  | .number (.int n) => some n
  | .bool b => some (if b then 1 else 0)
  | _ => none

def isNull : Json → Bool
  | .null => true
  | _ => false

def bool? : Json → Option Bool
  | .bool b => some b
  | _ => none

/-- `bool(value)`. -/
def truthy : Json → Bool
  | .null => false
  | .bool b => b
  | .number (.int n) => n ≠ 0
  | .number (.float q) => q ≠ 0
  | .number .nonFinite => true
  | .str s => s ≠ ""
  | .array items => !items.isEmpty
  | .object fields => !fields.isEmpty

def optional (value : Option Rat) : Json :=
  match value with
  | none => .null
  | some q => .float q

end Json

/-- SHA-256 of the canonical text of a value, and the value from which on a float is infinite; none reads the
arithmetic of floats as exact. -/
structure Setup where
  digest : Json → String
  hex : ∀ value, isHexDigest (digest value) = true
  overflow : Option Rat

/-! ## The request -/

structure RunPlan where
  runKind : RunKind
  width : Int
  height : Int
  framesPerSecond : Int
  requestedDurationSeconds : Int
  warmupSeconds : Int
  runEndMonotonicNs : Int

/-- What `failure_code` may hold: besides a code, an object whose `value` is some text, or one that has no `value`
or none that can be ordered among texts. -/
inductive FailureField where
  | none
  | code (code : D1FailureCode)
  | valued (value : String)
  | bare
  deriving DecidableEq

/-- What `drop_reason` may hold. -/
inductive DropField where
  | none
  | reason (reason : DropReason)
  | other
  deriving DecidableEq

/-- An observation. A `source_kind` or `disposition` that is none of the values is none; `isObservation` is false for
another object with these attributes. -/
structure Observation where
  isObservation : Bool := true
  sourceKind : Option InputKind
  capturedMonotonicNs : Json
  processedMonotonicNs : Json
  disposition : Option FrameDisposition
  qualityInsufficient : Json
  failureCode : FailureField
  dropReason : DropField

structure ThroughputSample where
  secondIndex : Int
  bytesPerSecond : Number

structure EncoderDurabilityEvidence where
  encoderOpen : StageState
  encoderWrite : StageState
  encoderFinalize : StageState
  durability : StageState
  deriving DecidableEq

structure DiskEvidence where
  freeBytes : Int
  encodedByteCount : Int
  encodedByteRate : Number
  throughputSamples : List ThroughputSample
  stages : EncoderDurabilityEvidence

structure AuthorityReceipt where
  schemaVersion : Int
  receiptKind : String
  decisionDate : String
  decisionOwner : String
  proposalSha256 : String
  readinessVersion : String
  p1Accepted : Bool
  d1Authorized : Bool
  physicalCameraAccessAuthorized : Bool
  participantCollectionAuthorized : Bool
  modelEvaluationAuthorized : Bool
  m1RecordingOrPersistenceExportAuthorized : Bool

structure InputProvenanceReceipt where
  schemaVersion : Int
  sourceKind : InputKind
  sourceVersion : String
  generatorId : String
  canonicalInputDigest : String
  frameCount : Int
  simulatedNoHuman : Bool
  datasetUseProhibited : Bool
  leakageStatement : String
  deterministicSeed : String
  baselineId : String
  mutantIds : List String

structure EnvironmentReceipt where
  schemaVersion : Int
  receiptKind : String
  applicationRevisionDigest : String
  releaseManifestDigest : String
  poseEngineDigest : String
  encoderDigest : String
  operatingSystem : String
  locale : String
  timezone : String
  offline : Bool
  injectedOnly : Bool
  cameraNotAccessed : Bool
  driverUnverified : Bool
  audioProhibited : Bool

structure ReproductionReceipt where
  schemaVersion : Int
  receiptKind : String
  noninteractiveInvocation : String
  dependencyArtifact : String
  lockDigest : String
  sourceDigest : String
  deterministicSeed : String
  thresholdVersion : String
  baselineId : String
  mutantIds : List String
  uncertaintyStatement : String
  inputDigest : String
  expectedEvaluationDigest : String

structure ValidationInput where
  schemaVersion : Int
  evidenceKind : EvidenceKind
  inputKind : InputKind
  plan : RunPlan
  observations : List Observation
  disk : DiskEvidence
  injectedFailures : List D1FailureCode
  authority : AuthorityReceipt
  provenance : InputProvenanceReceipt
  environment : EnvironmentReceipt
  reproduction : ReproductionReceipt

/-! ## The receipt -/

structure Accounting where
  deliveredFrames : Int
  interFrameGaps : Int
  processed : Int
  droppedExplicit : Int
  failed : Int
  qualityInsufficient : Int
  dropReasons : List (String × Int)
  deriving DecidableEq

/-- `Accounting(0, 0, 0, 0, 0, 0, ())`. -/
def Accounting.empty : Accounting := ⟨0, 0, 0, 0, 0, 0, []⟩

structure MetricSummary where
  firstCaptureMonotonicNs : Int
  runEndMonotonicNs : Int
  measuredTotalSeconds : Rat
  measuredPostWarmupSeconds : Rat
  deliveredFramesPerSecond : Rat
  p95InterFrameGapMs : Option Rat
  p95PoseLatencyMs : Option Rat
  p99PoseLatencyMs : Option Rat
  p10PreflightThroughputBytesPerSecond : Option Rat
  backlogMs : Option Rat

structure D1Receipt where
  schemaVersion : Int
  outcome : ValidationOutcome
  deviceGateDecision : DeviceGateDecision
  evidenceKind : EvidenceKind
  failureCode : Option D1FailureCode
  failureCounts : List (String × Int)
  runKind : RunKind
  width : Int
  height : Int
  framesPerSecond : Int
  requestedDurationSeconds : Int
  warmupSeconds : Int
  privacyCheckedFrames : Int
  privacyStopCount : Int
  warmupAccounting : Accounting
  accounting : Accounting
  metrics : MetricSummary
  requiredBytes : Int
  freeBytes : Int
  encodedByteCount : Int
  encodedByteRate : Number
  throughputSampleCount : Int
  throughputDigest : String
  stages : EncoderDurabilityEvidence
  sealAttempted : Bool
  exportAttempted : Bool
  authorityDigest : String
  inputDigest : String
  provenanceDigest : String
  environmentDigest : String
  reproductionDigest : String
  evaluationCoreDigest : String
  resultDigest : String

end PduExamObserver.D1Contract
