import PduExamObserver.D1Contract.Schema
import PduExamObserver.Library.Except

/-! # The synthetic runner

`SyntheticRunner.process` makes one observation of one fixture. What the clock, the providers and the sink do for a
frame is an argument of the call. -/

namespace PduExamObserver.Synthetic
open D1Contract
set_option autoImplicit false

/-! ## Data -/

inductive TechnicalInputKind where
  | deterministicFixture
  | aiRenderedFixture
  | noHumanDeviceScene
  deriving DecidableEq, Repr

def TechnicalInputKind.value : TechnicalInputKind → String
  | .deterministicFixture => "DETERMINISTIC_FIXTURE"
  | .aiRenderedFixture => "AI_RENDERED_FIXTURE"
  | .noHumanDeviceScene => "NO_HUMAN_DEVICE_SCENE"

/-- `TechnicalFailureCode`, which has the members of `D1FailureCode`. -/
abbrev TechnicalFailureCode := D1FailureCode

inductive QualityState where
  | valid
  | insufficient
  | failed
  deriving DecidableEq, Repr

def QualityState.value : QualityState → String
  | .valid => "VALID"
  | .insufficient => "INSUFFICIENT"
  | .failed => "FAILED"

inductive ProcessingState where
  | processed
  | droppedExplicit
  | failed
  deriving DecidableEq, Repr

def ProcessingState.value : ProcessingState → String
  | .processed => "PROCESSED"
  | .droppedExplicit => "DROPPED_EXPLICIT"
  | .failed => "FAILED"

structure Landmark where
  x : Number
  y : Number
  z : Number
  visibility : Number
  deriving DecidableEq

structure FixtureInput where
  fixtureId : String
  fixtureVersion : String
  runId : String
  frameSeq : Int
  technicalInputKind : TechnicalInputKind
  preprocessingId : String
  deriving DecidableEq

structure FixtureDefinition where
  fixtureId : String
  fixtureVersion : String
  technicalInputKind : TechnicalInputKind
  preprocessingId : String
  fixtureInputHash : String
  goldenExpectedOutputDigest : String

/-- A pose; a `quality_state` that is none of the values is none. -/
structure PoseResult where
  landmarkTopologyVersion : String
  landmarks : List (List Landmark)
  landmarkMissingMask : List (List Bool)
  orderedLandmarkIndices : List (List Nat)
  qualityState : Option QualityState
  reportedFailureCode : Option String
  reportedPoseCount : Option Int

structure TechnicalObservation where
  schemaVersion : Int
  technicalInputKind : TechnicalInputKind
  fixtureId : String
  fixtureVersion : String
  runId : String
  frameSeq : Int
  capturedMonotonicNs : Int
  processedMonotonicNs : Option Int
  poseEngineTaskHash : String
  preprocessingId : String
  landmarkTopologyVersion : String
  landmarks : List (List Landmark)
  landmarkMissingMask : List (List Bool)
  poseCount : Option Nat
  qualityState : QualityState
  processingState : ProcessingState
  failureCode : Option TechnicalFailureCode
  latencyMs : Option Int
  fixtureInputHash : String
  goldenExpectedOutputDigest : String
  resultDigest : String

def schemaVersion : Int := 1

/-- `LANDMARK_TOPOLOGY_VERSION`. -/
def topologyVersion : String := "mediapipe-33-v1"

def optionalInt : Option Int → Json
  | none => .null
  | some n => .int n

def optionalStr : Option String → Json
  | none => .null
  | some s => .str s

def TechnicalObservation.digestPayload (value : TechnicalObservation) : Json :=
  .object [("captured_monotonic_ns", .int value.capturedMonotonicNs),
    ("failure_code", optionalStr (value.failureCode.map D1FailureCode.value)),
    ("fixture_id", .str value.fixtureId), ("fixture_input_hash", .str value.fixtureInputHash),
    ("fixture_version", .str value.fixtureVersion), ("frame_seq", .int value.frameSeq),
    ("landmark_missing_mask", .array (value.landmarkMissingMask.map fun row => .array (row.map .bool))),
    ("landmark_topology_version", .str value.landmarkTopologyVersion),
    ("landmarks", .array (value.landmarks.map fun pose => .array (pose.map fun landmark =>
      .object [("visibility", .number landmark.visibility), ("x", .number landmark.x), ("y", .number landmark.y),
        ("z", .number landmark.z)]))),
    ("latency_ms", optionalInt value.latencyMs), ("pose_count", optionalInt (value.poseCount.map Int.ofNat)),
    ("pose_engine_task_hash", .str value.poseEngineTaskHash), ("preprocessing_id", .str value.preprocessingId),
    ("processed_monotonic_ns", optionalInt value.processedMonotonicNs),
    ("processing_state", .str value.processingState.value), ("quality_state", .str value.qualityState.value),
    ("run_id", .str value.runId), ("schema_version", .int value.schemaVersion),
    ("technical_input_kind", .str value.technicalInputKind.value)]

def TechnicalObservation.recomputeResultDigest (setup : Setup) (value : TechnicalObservation) : String :=
  setup.digest value.digestPayload

def fixtureInputDigest (setup : Setup) (fixture : FixtureInput) : String :=
  setup.digest (.object [("fixture_id", .str fixture.fixtureId), ("fixture_version", .str fixture.fixtureVersion),
    ("frame_seq", .int fixture.frameSeq), ("preprocessing_id", .str fixture.preprocessingId),
    ("run_id", .str fixture.runId), ("technical_input_kind", .str fixture.technicalInputKind.value)])

/-! ## The runner -/

/-- What a runner is built from; `isalnum` is `str.isalnum` on one character. -/
structure SyntheticRunner where
  fixtureDefinitions : List FixtureDefinition
  allowedRunIds : List String
  poseEngineTaskHash : String
  isalnum : Char → Bool

structure Memory where
  lastFrameSeq : String → Option Int
  lastCapturedNs : String → Option Int
  lastProcessedNs : String → Option Int

def Memory.new : Memory := ⟨fun _ => none, fun _ => none, fun _ => none⟩

inductive PoseError where
  | engineUnavailable
  | exception

structure FrameAnswers where
  capturedNs : Int
  provided : Except Unit (Option FixtureInput)
  inferred : Except PoseError (Option PoseResult)
  processedNs : Int
  sinkRaises : Bool

inductive RunnerError where
  | valueError (message : String)
  | reservedNoHumanDeviceScene
  | sink

def isOpaqueIdentifier (isalnum : Char → Bool) (value : String) : Bool :=
  1 ≤ value.length && value.length ≤ 128 && value.toList.head?.any isalnum &&
    value.toList.all fun c => isalnum c || c == '.' || c == '_' || c == '-'

def landmarkIsValid (landmark : Landmark) : Bool :=
  [landmark.x, landmark.y, landmark.z, landmark.visibility].all Number.isFinite &&
    decide (0 ≤ landmark.visibility.toRat ∧ landmark.visibility.toRat ≤ 1)

/-- The part of `_validate_pose_result` over the poses, for the rows of the mask that belong to them. -/
def posesAreValid (pose : PoseResult) : Bool :=
  (List.range pose.landmarks.length).all fun index =>
    let landmarks := pose.landmarks.getD index []
    landmarks.length == 33 && pose.orderedLandmarkIndices.getD index [] == List.range 33 &&
      !(pose.landmarkMissingMask.getD index []).any id && landmarks.all landmarkIsValid

def validatePoseResult (pose : PoseResult) : Option TechnicalFailureCode :=
  if pose.landmarkTopologyVersion ≠ topologyVersion then some .poseOutputInvalid
  else if pose.qualityState = none then some .schemaIncompatible
  else if 2 < pose.landmarks.length ∨ pose.orderedLandmarkIndices.length ≠ pose.landmarks.length then
    some .poseOutputInvalid
  else if pose.landmarkMissingMask.length ≠ 2 ∨ pose.landmarkMissingMask.any (fun row => row.length != 33) then
    some .poseOutputInvalid
  else if pose.reportedPoseCount.any (fun count => count ≠ (pose.landmarks.length : Int)) then some .poseOutputInvalid
  else if ¬ posesAreValid pose then some .poseOutputInvalid
  else if ¬ (pose.landmarkMissingMask.drop pose.landmarks.length).all (fun row => row.all id) then
    some .poseOutputInvalid
  else none

section Process

variable (setup : Setup) (runner : SyntheticRunner) (fixture : FixtureInput) (definition : FixtureDefinition)

def observation (capturedNs : Int) (processedNs : Option Int) (landmarks : List (List Landmark))
    (mask : List (List Bool)) (poseCount : Option Nat) (qualityState : QualityState)
    (processingState : ProcessingState) (failureCode : Option TechnicalFailureCode) : TechnicalObservation :=
  let provisional : TechnicalObservation :=
    { schemaVersion := schemaVersion
      technicalInputKind := fixture.technicalInputKind
      fixtureId := fixture.fixtureId
      fixtureVersion := fixture.fixtureVersion
      runId := fixture.runId
      frameSeq := fixture.frameSeq
      capturedMonotonicNs := capturedNs
      processedMonotonicNs := processedNs
      poseEngineTaskHash := runner.poseEngineTaskHash
      preprocessingId := fixture.preprocessingId
      landmarkTopologyVersion := topologyVersion
      landmarks := landmarks
      landmarkMissingMask := mask
      poseCount := poseCount
      qualityState := qualityState
      processingState := processingState
      failureCode := failureCode
      latencyMs := match processedNs with
        | none => none
        | some processed => if processed < capturedNs then none else some ((processed - capturedNs) / 1000000)
      fixtureInputHash := definition.fixtureInputHash
      goldenExpectedOutputDigest := definition.goldenExpectedOutputDigest
      resultDigest := "" }
  { provisional with resultDigest := provisional.recomputeResultDigest setup }

def failure (code : TechnicalFailureCode) (capturedNs : Int) (processedNs : Option Int) : TechnicalObservation :=
  observation setup runner fixture definition capturedNs processedNs []
    [List.replicate 33 true, List.replicate 33 true] none .failed .failed (some code)

/-- `_definition_for` and `_validate_input_identity`. -/
def definitionFor : Except RunnerError FixtureDefinition := do
  let definition ← orError (.valueError "fixture is not allowlisted")
    (runner.fixtureDefinitions.find? fun definition =>
      (definition.fixtureId, definition.fixtureVersion) = (fixture.fixtureId, fixture.fixtureVersion))
  if fixture.technicalInputKind = .noHumanDeviceScene then return definition
  require (fixture.runId ∈ runner.allowedRunIds ∧ isOpaqueIdentifier runner.isalnum fixture.runId)
    (.valueError "run_id is not allowlisted")
  require (fixture.technicalInputKind = definition.technicalInputKind ∧
      fixture.preprocessingId = definition.preprocessingId ∧
      fixtureInputDigest setup fixture = definition.fixtureInputHash)
    (.valueError "fixture identity is schema-incompatible")
  return definition

def captureTimingFailure (memory : Memory) (capturedNs : Int) : Option TechnicalFailureCode :=
  if capturedNs < 0 then some .schemaIncompatible
  else match memory.lastCapturedNs fixture.runId with
  | none => none
  | some previous =>
    if capturedNs < previous then some .clockRegression
    else if capturedNs = previous then some .frameStalled
    else none

def processingTimingFailure (memory : Memory) (capturedNs processedNs : Int) : Option TechnicalFailureCode :=
  if processedNs < 0 ∨ processedNs < capturedNs then some .clockRegression
  else if (memory.lastProcessedNs fixture.runId).any (processedNs < ·) then some .clockRegression
  else none

/-- `process` after the pose has been validated. -/
def finishPose (pose : PoseResult) (capturedNs processedNs : Int) : TechnicalObservation :=
  match validatePoseResult pose with
  | some code => failure setup runner fixture definition code capturedNs (some processedNs)
  | none =>
    match pose.reportedFailureCode with
    | some reported =>
      failure setup runner fixture definition ((D1FailureCode.ofValue? reported).getD .schemaIncompatible) capturedNs
        (some processedNs)
    | none =>
      let processed := observation setup runner fixture definition capturedNs (some processedNs) pose.landmarks
        pose.landmarkMissingMask (some pose.landmarks.length)
      if pose.qualityState = some .insufficient then processed .insufficient .processed (some .qualityInsufficient)
      else if (processed .valid .processed none).resultDigest ≠ definition.goldenExpectedOutputDigest then
        failure setup runner fixture definition .manifestValidationFailed capturedNs (some processedNs)
      else processed .valid .processed none

/-- `process` after the capture has been accepted. -/
def processCaptured (memory : Memory) (answers : FrameAnswers) : TechnicalObservation × Memory :=
  let failed := fun code => failure setup runner fixture definition code answers.capturedNs
  match answers.provided with
  | .error () => (failed .inputUnavailable none, memory)
  | .ok none => (failed .inputUnavailable none, memory)
  | .ok (some provided) =>
    if provided ≠ fixture then (failed .inputMalformed none, memory)
    else match answers.inferred with
    | .error .engineUnavailable => (failed .poseEngineUnavailable none, memory)
    | .error .exception => (failed .poseEngineException none, memory)
    | .ok none => (failed .poseEngineUnavailable none, memory)
    | .ok (some pose) =>
      match processingTimingFailure fixture memory answers.capturedNs answers.processedNs with
      | some code => (failed code (some answers.processedNs), memory)
      | none =>
        (finishPose setup runner fixture definition pose answers.capturedNs answers.processedNs,
          { memory with
            lastProcessedNs := Function.update memory.lastProcessedNs fixture.runId (some answers.processedNs) })

/-- What `process` observes of an accepted fixture. -/
def observe (memory : Memory) (answers : FrameAnswers) : TechnicalObservation × Memory :=
  if fixture.frameSeq < 0 ∨ (memory.lastFrameSeq fixture.runId).any (fixture.frameSeq ≤ ·) then
    (failure setup runner fixture definition .inputMalformed 0 none, memory)
  else match captureTimingFailure fixture memory answers.capturedNs with
  | some code => (failure setup runner fixture definition code answers.capturedNs none, memory)
  | none =>
    processCaptured setup runner fixture definition
      { memory with
        lastFrameSeq := Function.update memory.lastFrameSeq fixture.runId (some fixture.frameSeq)
        lastCapturedNs := Function.update memory.lastCapturedNs fixture.runId (some answers.capturedNs) } answers

end Process

/-- `process`, with `_emit`. -/
def process (setup : Setup) (runner : SyntheticRunner) (fixture : FixtureInput) (memory : Memory)
    (answers : FrameAnswers) : Except RunnerError (TechnicalObservation × Memory) := do
  let definition ← definitionFor setup runner fixture
  require (fixture.technicalInputKind ≠ .noHumanDeviceScene) .reservedNoHumanDeviceScene
  let observed := observe setup runner fixture definition memory answers
  require (answers.sinkRaises = false) .sink
  return observed

end PduExamObserver.Synthetic
