import PduExamObserver.D1Contract.Evaluation
import PduExamObserver.Synthetic.Runner

/-! # The synthetic run engine: from the fixtures to the evaluator

The engine runs every fixture, checks that each observation belongs to its fixture, maps the observations and hands
them to the D1 evaluator in an input that it builds around them. -/

namespace PduExamObserver.Synthetic
open D1Contract Authority
set_option autoImplicit false

/-! ## Requests and bindings -/

structure SyntheticEnvironmentBindings where
  applicationRevisionDigest : String
  releaseManifestDigest : String
  poseEngineDigest : String
  encoderPolicyDigest : String
  injectedFailureCodes : List D1FailureCode

/-- `SyntheticPreflightRequest` and `SyntheticNominalRequest`. -/
structure SyntheticRequest where
  sessionId : String
  intentId : String
  artifactId : String
  runId : String
  fixtures : List FixtureInput
  parentArtifactIds : List String

structure SyntheticRunContract where
  runKind : RunKind
  requestedDurationSeconds : Int
  successStatus : String
  failureStatus : String
  artifactKind : String
  deterministicCaptureProfile : String

def preflightContract : SyntheticRunContract where
  runKind := .preflight60s
  requestedDurationSeconds := 60
  successStatus := "M2_S2A_SYNTHETIC_PREFLIGHT_VERTICAL_SLICE_LOCALLY_VERIFIED_DEVICE_UNVERIFIED_NO_COLLECTION_AUTHORITY"
  failureStatus := "M2_S2A_SYNTHETIC_PREFLIGHT_NOT_PERSISTED"
  artifactKind := "M2_SYNTHETIC_PREFLIGHT_RECEIPT"
  deterministicCaptureProfile := "fixture-profile-v1"

def nominalContract : SyntheticRunContract where
  runKind := .nominal20m
  requestedDurationSeconds := 1200
  successStatus := "M2_S2B_SYNTHETIC_NOMINAL_20M_LOCALLY_VERIFIED_DEVICE_UNVERIFIED_NO_COLLECTION_AUTHORITY"
  failureStatus := "M2_S2B_SYNTHETIC_NOMINAL_20M_NOT_PERSISTED"
  artifactKind := "M2_SYNTHETIC_NOMINAL_RECEIPT"
  deterministicCaptureProfile := "fixture-profile-v1"

/-- The two ways in: `M2SyntheticPreflightCore` and `M2SyntheticNominalCore`. -/
inductive SyntheticCore where
  | preflight
  | nominal
  deriving DecidableEq

def SyntheticCore.contract : SyntheticCore → SyntheticRunContract
  | .preflight => preflightContract
  | .nominal => nominalContract

/-- `_opaque`. -/
def opaqueId (value : String) : Bool :=
  1 ≤ value.length && value.length ≤ 128 && value.toList.all fun c =>
    c == '-' || c == '_' || 'a' ≤ c && c ≤ 'z' || 'A' ≤ c && c ≤ 'Z' || '0' ≤ c && c ≤ '9'

/-- The loop of `_request_is_valid` over the fixtures. -/
def fixturesAreValid (runId : String) (previous : Int) (seen : List (String × String)) : List FixtureInput → Bool
  | [] => true
  | fixture :: rest =>
    fixture.runId == runId && decide (previous < fixture.frameSeq) &&
      !seen.contains (fixture.fixtureId, fixture.fixtureVersion) &&
      fixturesAreValid runId fixture.frameSeq ((fixture.fixtureId, fixture.fixtureVersion) :: seen) rest

def requestIsValid (request : SyntheticRequest) : Bool :=
  match request.fixtures with
  | [] => false
  | first :: _ =>
    (request.sessionId :: request.intentId :: request.artifactId :: request.runId :: request.parentArtifactIds).all
        opaqueId &&
      decide request.parentArtifactIds.Nodup &&
      request.fixtures.all (fun fixture => fixture.technicalInputKind = first.technicalInputKind) &&
      first.technicalInputKind != .noHumanDeviceScene && fixturesAreValid request.runId (-1) [] request.fixtures

def bindingsAreValid (value : SyntheticEnvironmentBindings) : Bool :=
  [value.applicationRevisionDigest, value.releaseManifestDigest, value.poseEngineDigest,
    value.encoderPolicyDigest].all isHexDigest

/-! ## The run -/

def boundTo (setup : Setup) (request : SyntheticRequest) (fixture : FixtureInput)
    (observation : TechnicalObservation) : Prop :=
  observation.runId = request.runId ∧ observation.frameSeq = fixture.frameSeq ∧
    observation.fixtureId = fixture.fixtureId ∧ observation.fixtureVersion = fixture.fixtureVersion ∧
    observation.fixtureInputHash = fixtureInputDigest setup fixture ∧
    observation.resultDigest = observation.recomputeResultDigest setup ∧
    ¬ (observation.processingState = .processed ∧ observation.qualityState = .valid ∧
      observation.failureCode = none ∧ observation.resultDigest ≠ observation.goldenExpectedOutputDigest)

instance (setup : Setup) (request : SyntheticRequest) (fixture : FixtureInput) (observation : TechnicalObservation) :
    Decidable (boundTo setup request fixture observation) := by
  unfold boundTo
  infer_instance

/-- The loop of `execute` over the fixtures; `answers` are those of the frames to come. -/
def runFixtures (setup : Setup) (runner : SyntheticRunner) (request : SyntheticRequest) (answers : Nat → FrameAnswers) :
    Memory → List FixtureInput → Except Unit (List TechnicalObservation)
  | _, [] => .ok []
  | memory, fixture :: rest =>
    match process setup runner fixture memory (answers 0) with
    | .error _ => .error ()
    | .ok (observation, memory) => do
      require (boundTo setup request fixture observation) ()
      let observations ← runFixtures setup runner request (fun n => answers (n + 1)) memory rest
      return observation :: observations

/-- `_input_kind`. -/
def inputKindOf : TechnicalInputKind → Option InputKind
  | .deterministicFixture => some .testChart
  | .aiRenderedFixture => some .syntheticVideo
  | .noHumanDeviceScene => none

/-- `map_technical_observation`, for an observation whose digest has been checked. -/
def mapTechnicalObservation (value : TechnicalObservation) : Except Unit Observation := do
  let sourceKind ← orError () (inputKindOf value.technicalInputKind)
  match value.processingState with
  | .processed => do
    require (value.failureCode = none ∨ value.failureCode = some .qualityInsufficient) ()
    return {
      sourceKind := some sourceKind
      capturedMonotonicNs := .int value.capturedMonotonicNs
      processedMonotonicNs := optionalInt value.processedMonotonicNs
      disposition := some .processed
      qualityInsufficient := .bool
        (value.qualityState = .insufficient ∨ value.failureCode = some .qualityInsufficient)
      failureCode := .none
      dropReason := .none }
  | .droppedExplicit =>
    return {
      sourceKind := some sourceKind
      capturedMonotonicNs := .int value.capturedMonotonicNs
      processedMonotonicNs := .null
      disposition := some .droppedExplicit
      qualityInsufficient := .bool false
      failureCode := .none
      dropReason := .reason .backpressure }
  | .failed => do
    let code ← orError () value.failureCode
    return {
      sourceKind := some sourceKind
      capturedMonotonicNs := .int value.capturedMonotonicNs
      processedMonotonicNs := .null
      disposition := some .failed
      qualityInsufficient := .bool false
      failureCode := .code code
      dropReason := .none }

/-! ## The input of the evaluator -/

/-- `run_end`. -/
def runEndOf (observations : List Observation) (last : Observation) : Int :=
  max (last.captured + 10000000) (((observations.filterMap fun item => item.processedMonotonicNs.int?).max?).getD 0)

def planOf (contract : SyntheticRunContract) (runEnd : Int) : RunPlan where
  runKind := contract.runKind
  width := 1280
  height := 720
  framesPerSecond := 15
  requestedDurationSeconds := contract.requestedDurationSeconds
  warmupSeconds := 5
  runEndMonotonicNs := runEnd

def diskOf (first : Observation) (runEnd : Int) : DiskEvidence where
  freeBytes := 3 * 1024 ^ 3
  encodedByteCount := max 1 ((runEnd - first.captured) / 1000)
  encodedByteRate := .float 1000000
  throughputSamples := (List.range 60).map fun index => ⟨index, .float 3000000⟩
  stages := ⟨.succeeded, .succeeded, .succeeded, .succeeded⟩

def authorityReceipt : AuthorityReceipt where
  schemaVersion := 1
  receiptKind := "D1_C1_AUTHORITY"
  decisionDate := "2026-08-26"
  decisionOwner := "root"
  proposalSha256 := canonicalProposalSha256
  readinessVersion := "0.4"
  p1Accepted := true
  d1Authorized := true
  physicalCameraAccessAuthorized := false
  participantCollectionAuthorized := false
  modelEvaluationAuthorized := false
  m1RecordingOrPersistenceExportAuthorized := false

def provenanceValues : InputKind → String × String × String × List String
  | .testChart => ("chart-v1", "d1-fixture-generator-v1", "d1-baseline-v1", ["mutant-ledger-v1"])
  | .syntheticVideo => ("video-v1", "d1-video-generator-v1", "d1-video-baseline-v1", ["video-mutant-ledger-v1"])

def provenanceOf (inputKind : InputKind) (inputDigest : String) (frameCount : Nat) : InputProvenanceReceipt :=
  match provenanceValues inputKind with
  | (sourceVersion, generatorId, baselineId, mutantIds) =>
    { schemaVersion := 1
      sourceKind := inputKind
      sourceVersion := sourceVersion
      generatorId := generatorId
      canonicalInputDigest := inputDigest
      frameCount := frameCount
      simulatedNoHuman := true
      datasetUseProhibited := true
      leakageStatement := "N/A"
      deterministicSeed := "N/A"
      baselineId := baselineId
      mutantIds := mutantIds }

def environmentOf (bindings : SyntheticEnvironmentBindings) : EnvironmentReceipt where
  schemaVersion := 1
  receiptKind := "D1_C1_INJECTED_ENVIRONMENT"
  applicationRevisionDigest := bindings.applicationRevisionDigest
  releaseManifestDigest := bindings.releaseManifestDigest
  poseEngineDigest := bindings.poseEngineDigest
  encoderDigest := bindings.encoderPolicyDigest
  operatingSystem := "SIMULATED-N/A"
  locale := "N/A"
  timezone := "N/A"
  offline := true
  injectedOnly := true
  cameraNotAccessed := true
  driverUnverified := true
  audioProhibited := true

def reproductionOf (provenance : InputProvenanceReceipt) : ReproductionReceipt where
  schemaVersion := 1
  receiptKind := "D1_C1_REPRODUCTION"
  noninteractiveInvocation := reproductionInvocation
  dependencyArtifact := dependencyArtifactName
  lockDigest := dependencyArtifactSha256
  sourceDigest := provenance.canonicalInputDigest
  deterministicSeed := "N/A"
  thresholdVersion := "d1-thresholds-v1"
  baselineId := provenance.baselineId
  mutantIds := provenance.mutantIds
  uncertaintyStatement := "SIMULATED_EVALUATOR_ONLY"
  inputDigest := provenance.canonicalInputDigest
  expectedEvaluationDigest := String.ofList (List.replicate 64 '0')

def buildValidationInput (setup : Setup) (observations : List Observation) (bindings : SyntheticEnvironmentBindings)
    (contract : SyntheticRunContract) : Except Unit ValidationInput :=
  match observations, observations.getLast? with
  | first :: _, some last => do
    require (observations.all fun item => item.sourceKind = first.sourceKind) ()
    let inputKind ← orError () first.sourceKind
    let runEnd := runEndOf observations last
    let plan := planOf contract runEnd
    let disk := diskOf first runEnd
    let provenance := provenanceOf inputKind (canonicalInputDigest setup plan observations disk) observations.length
    let draft : ValidationInput :=
      { schemaVersion := 1
        evidenceKind := .simulated
        inputKind := inputKind
        plan := plan
        observations := observations
        disk := disk
        injectedFailures := bindings.injectedFailureCodes
        authority := authorityReceipt
        provenance := provenance
        environment := environmentOf bindings
        reproduction := reproductionOf provenance }
    return { draft with
      reproduction := { draft.reproduction with
        expectedEvaluationDigest := canonicalEvaluationDigest setup draft } }
  | _, _ => .error ()

/-- `execute` up to the evaluator: the observations that the runner reported and what the evaluator is given. -/
def evaluatorInput (setup : Setup) (runner : SyntheticRunner) (memory : Memory) (answers : Nat → FrameAnswers)
    (bindings : SyntheticEnvironmentBindings) (request : SyntheticRequest) (core : SyntheticCore) :
    Except Unit (List TechnicalObservation × ValidationInput) := do
  require (requestIsValid request ∧ bindingsAreValid bindings) ()
  let observations ← runFixtures setup runner request answers memory request.fixtures
  let mapped ← observations.mapM mapTechnicalObservation
  let validation ← buildValidationInput setup mapped bindings core.contract
  return (observations, validation)

end PduExamObserver.Synthetic
