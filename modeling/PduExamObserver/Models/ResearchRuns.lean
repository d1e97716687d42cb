import PduExamObserver.Models.Runtime
import PduExamObserver.Training.FoldEvents

/-! # Research training

`run_research_training`: five folds that are fitted and evaluated, the final fit, and the bundle that is written. The
network, the regression and the ONNX export are parameters; of the evaluation only its checks are modelled. -/

namespace PduExamObserver.Models
open Native Training Scores Canonical
set_option autoImplicit false

variable {Model Bytes : Type}

/-! ## Parameters -/

structure Tools (Model Bytes : Type) where
  math : Elementary
  files : Files Bytes
  orderKey : String → String → String
  uuid : String → Nat → String
  train : List Window → List Window → Nat → Nat → Model
  logits : Model → List Tensor → List (List Rat)
  regression : List (List Rat) → List Nat → Nat → Estimator
  exportOnnx : Model → Except String Bytes
  onnxLogits : Bytes → List Tensor → List (List Rat)
  allclose : List (List Rat) → List (List Rat) → Bool
  savezInputs : List Tensor → Bytes
  savezOutputs : List (List Rat) → Bytes
  encode : String → Bytes
  deflated : Bytes → Nat

structure ResearchCorpus extends Corpus where
  datasetManifestSha256 : String
  protocolVersion : String
  hexdigest : datasetManifestSha256.length = 64

/-- `TrainedModel`; the trace goes into the reports only. -/
structure TrainedModel (Model : Type) where
  model : Model
  cameraTemperature : Rat
  fusionTemperature : Rat
  fusionCoefficients : List (List Rat)
  fusionIntercepts : List Rat
  abstentionThreshold : Rat

def seed : Nat := 20260908

/-! ## Fitting -/

/-- `CLASS_ORDER.index(label)`. -/
def labelIndex (window : Window) : Nat := classOrder.idxOf window.label

/-- The context of a window in the order of `CONTEXT_ORDER`. -/
def contextRow (context : ContextRow) : List Rat :=
  [context.visibilityMean, context.blurScore, context.exposureScore, context.frameGapRatio, context.focusFraction,
    context.scaledFocusSignalAge]

def fitModel (tools : Tools Model Bytes) (corpus : Corpus) (train calibration forbidden : List String) (epochs seed : Nat) :
    Except String (TrainedModel Model) := do
  require (∀ person ∈ train, person ∉ calibration) "train/calibration participants overlap"
  require (∀ person ∈ train ++ calibration, person ∉ forbidden) "outer test participant entered fitting"
  let trainRows := corpus.rowsOf train
  let calibrationRows := corpus.rowsOf calibration
  require (trainRows ≠ [] ∧ calibrationRows ≠ []) "training and calibration partitions must be populated"
  let calibrationLabels := calibrationRows.map labelIndex
  let model := tools.train trainRows calibrationRows epochs seed
  let cameraLogits := tools.logits model (calibrationRows.map Window.tensor)
  let contexts := calibrationRows.map fun window => contextRow window.context
  let cameraTemperature ← fitTemperature tools.math cameraLogits calibrationLabels
  let fusion ← fitLogisticFusion tools.regression cameraLogits contexts calibrationLabels seed
  let rawFusedLogits := (features cameraLogits contexts).map (fused fusion.coefficients fusion.intercepts)
  let fusionTemperature ← fitTemperature tools.math rawFusedLogits calibrationLabels
  let fusedProbabilities ← applyFusion tools.math cameraLogits contexts fusion.coefficients fusion.intercepts
    fusionTemperature
  let abstentionThreshold ← selectAbstentionThreshold fusedProbabilities calibrationLabels (3 / 4)
  return { model, cameraTemperature, fusionTemperature, fusionCoefficients := fusion.coefficients,
           fusionIntercepts := fusion.intercepts, abstentionThreshold }

/-! ## The evaluation of a fold -/

/-- `probabilities.argmax(axis=1)`. -/
def cameraLabels (probabilities : List (List Rat)) : List Int := probabilities.map fun row => (argmax row : Int)

def contextLabels (threshold : Rat) (probabilities : List (List Rat)) : List Int :=
  probabilities.map fun row => if rowMax row < threshold then -1 else (argmax row : Int)

/-- What `_research_fold_evaluation` has the context model say of windows with these logits and contexts. -/
def evaluatedLabels (math : Elementary) (trained : TrainedModel Model) (logits contexts : List (List Rat)) :
    Except String (List Int) := do
  let fused ← applyFusion math logits contexts trained.fusionCoefficients trained.fusionIntercepts
    trained.fusionTemperature
  return contextLabels trained.abstentionThreshold fused

def researchFoldEvaluation (tools : Tools Model Bytes) (corpus : Corpus) (fold : OuterFold)
    (trained : TrainedModel Model) (protocol : Dict) : Except String Unit := do
  let windows := corpus.rowsOf fold.test
  let logits := tools.logits trained.model (windows.map Window.tensor)
  let cameraProbabilities ← applyTemperature tools.math logits trained.cameraTemperature
  let contextLabels ← evaluatedLabels tools.math trained logits (windows.map fun window => contextRow window.context)
  let events ← researchFoldEvents tools.uuid corpus fold protocol (cameraLabels cameraProbabilities) contextLabels
  evaluateConfigurations events

/-! ## The documents -/

def modelVersion (modelSha256 : String) : String := "pdu-stgcn-research-" ++ String.ofList (modelSha256.toList.take 12)

def policyVersion (protocolVersion : String) : String := protocolVersion ++ "-policy"

def finalTrain : List String := ["P03", "P04", "P05", "P06", "P07", "P08", "P09", "P10"]

def finalCalibration : List String := ["P11", "P12"]

def sourceCounts (corpus : Corpus) : Dict :=
  [("REAL", .int (corpus.rows.countP fun window => window.sourceKind = .real)),
    ("AI_RENDERED", .int (corpus.rows.countP fun window => window.sourceKind = .aiRendered)),
    ("AUGMENTED", .int (corpus.rows.countP fun window => window.sourceKind = .augmented))]

/-- `manifest`. -/
def manifestOf (protocol : Dict) (corpus : ResearchCorpus) (strideMs : Int) (protocolVersion modelSha256 : String) : Dict :=
  [("schema_version", .int 1), ("runtime_schema_min", .int 1), ("runtime_schema_max", .int 1),
    ("model_version", .str (modelVersion modelSha256)), ("policy_version", .str (policyVersion protocolVersion)),
    ("training_mode", .str "RESEARCH"), ("demo_only", .bool false), ("research_ready", .bool true),
    ("claim_status", .str "UNVERIFIED_RESEARCH_RESULT_PENDING_HUMAN_REVIEW"),
    ("model_purpose", .str "RESEARCH_PROTOTYPE_HUMAN_REVIEW_ONLY"), ("architecture", .str "ST_GCN_MEDIAPIPE33"),
    ("preprocessing_id", .str "mediapipe33-bodycenter-resample90-v1"), ("topology", .str "mediapipe-33-v1"),
    ("fps", .int 15), ("window_frames", .int 90), ("stride_ms", .int strideMs), ("input_name", .str "pose_sequence"),
    ("input_shape", .list [.none, .int 5, .int 90, .int 33]), ("output_name", .str "camera_logits"),
    ("output_shape", .list [.none, .int 4]), ("class_order", names classNames), ("context_order", names contextNames),
    ("dataset_manifest_sha256", .str corpus.datasetManifestSha256),
    ("protocol_freeze_sha256", protocol.get "protocol_freeze_sha256"),
    ("split_policy_id", .str "five-outer-participant-disjoint-v1"), ("protocol_version", .str protocolVersion),
    ("training_source_counts", .dict (sourceCounts corpus.toCorpus ++
      [("GENERATED_TRAIN_ONLY_AUGMENTED", .int (corpus.rowsOf finalTrain).length)])),
    ("runtime", .dict [("package", .str "onnxruntime"), ("version", .str "1.29.0"),
      ("execution_provider", .str "CPUExecutionProvider")])]

/-- `calibration`. -/
def calibrationOf (corpus : Corpus) (final : TrainedModel Model) : Dict :=
  [("schema_version", .int 1), ("fit_partition", .str "CALIBRATION_PARTICIPANT_DISJOINT"), ("class_order", names classNames),
    ("feature_order", names fusionFeatureNames), ("camera_temperature", .float (.finite final.cameraTemperature)),
    ("fusion_temperature", .float (.finite final.fusionTemperature)),
    ("fusion_coefficients", matrixValue final.fusionCoefficients),
    ("fusion_intercepts", vectorValue final.fusionIntercepts), ("fit_participants", names finalCalibration),
    ("source_counts", .dict [("REAL", .int (corpus.rowsOf finalCalibration).length)])]

/-- `policy`. -/
def policyOf (protocol : Dict) (protocolVersion : String) (final : TrainedModel Model) : Dict :=
  [("schema_version", .int 1), ("policy_version", .str (policyVersion protocolVersion)),
    ("selection_partition", .str "CALIBRATION_PARTICIPANT_DISJOINT"),
    ("abstention_threshold", .float (.finite final.abstentionThreshold)), ("minimum_coverage", .float (.finite (3 / 4))),
    ("minimum_pose_visibility", .float (.finite (55 / 100))), ("maximum_frame_gap_ratio", .float (.finite (20 / 100))),
    ("maximum_scaled_focus_signal_age", .float (.finite 1)),
    ("operator_outcome_on_abstention", .str "TECHNICAL_INSUFFICIENT"), ("primary_tiou", protocol.get "primary_tiou"),
    ("event_policy", protocol.get "event_policy"), ("protocol_freeze_status", .str "FROZEN_BEFORE_OUTER_TEST")]

def modelCard : String :=
  "# PDU ST-GCN research prototype\n\nObservable pose events only. This bundle requires the bound frozen protocol, " ++
  "uses participant-disjoint evaluation, maps abstention to TECHNICAL_INSUFFICIENT, " ++
  "and supports human review only. It does not establish intent or misconduct.\n"

/-! ## The bundle -/

def checksumsOf (files : Files Bytes) (payloads : List (String × Bytes)) : Dict :=
  [("schema_version", .int 1), ("algorithm", .str "SHA-256"),
    ("files", .dict ((sortKeys payloads).map fun payload => (payload.1, .str (files.sha256 payload.2))))]

def writeZip (files : Files Bytes) (deflated : Bytes → Nat) (payloads : List (String × Bytes)) : List (ZipEntry Bytes) :=
  (sortKeys payloads).map fun payload =>
    { filename := payload.1, externalAttr := 0o100644 <<< 16, fileSize := files.size payload.2,
      compressSize := deflated payload.2, data := payload.2 }

def exportModelBundle (tools : Tools Model Bytes) (modelBytes : Bytes) (manifest calibration policy : Dict)
    (goldenInputs : List Tensor) (goldenOutputs : List (List Rat)) : Except String (List (ZipEntry Bytes)) := do
  let manifest := manifest ++ [("model_sha256", .str (tools.files.sha256 modelBytes))]
  let payloads := [("model.onnx", modelBytes), ("manifest.json", ← tools.files.jsonBytes manifest),
    ("calibration.json", ← tools.files.jsonBytes calibration), ("policy.json", ← tools.files.jsonBytes policy),
    ("golden_inputs.npz", tools.savezInputs goldenInputs), ("golden_outputs.npz", tools.savezOutputs goldenOutputs),
    ("MODEL_CARD.md", tools.encode modelCard)]
  let payloads := payloads ++ [("checksums.json", ← tools.files.jsonBytes (checksumsOf tools.files payloads))]
  require (isAllowlist (payloads.map Prod.fst)) "model bundle payload set violates exact allowlist"
  return writeZip tools.files tools.deflated payloads

def runFold (tools : Tools Model Bytes) (corpus : Corpus) (protocol : Dict) (epochs : Nat) (fold : OuterFold) :
    Except String Unit := do
  assertResearchFoldSources corpus fold
  let trained ← fitModel tools corpus fold.train fold.calibration fold.test epochs (seed + fold.index)
  researchFoldEvaluation tools corpus fold trained protocol

def finalFold : OuterFold where
  index := 5
  train := finalTrain
  calibration := finalCalibration
  test := []
  disjoint := by decide

/-- `run_research_training`; `load` is what `_load_research_corpus` makes of the exports. -/
def runResearchTraining (tools : Tools Model Bytes) (hash : DocumentHash) (load : Dict → Except String ResearchCorpus)
    (document : Dict) (epochs : Nat) : Except String (List (ZipEntry Bytes)) := do
  let protocol ← validateProtocolFreeze hash document
  let corpus ← load protocol
  let folds ← buildOuterFolds tools.orderKey participantIds corpus.protocolVersion
  folds.forM (runFold tools corpus.toCorpus protocol epochs)
  assertResearchFoldSources corpus.toCorpus finalFold
  let final ← fitModel tools corpus.toCorpus finalTrain finalCalibration [] epochs (seed + 100)
  let modelBytes ← tools.exportOnnx final.model
  let goldenInputs := ((corpus.rowsOf ["P03"]).map Window.tensor).take 2
  let onnxOutputs := tools.onnxLogits modelBytes goldenInputs
  require (tools.allclose onnxOutputs (tools.logits final.model goldenInputs) = true) "AssertionError"
  let protocolVersion ← orError "KeyError" (protocol.get "protocol_version").str?
  let eventPolicy ← orError "KeyError" (protocol.get "event_policy").dict?
  let strideMs ← orError "TypeError" (eventPolicy.get "stride_ms").int?
  exportModelBundle tools modelBytes
    (manifestOf protocol corpus strideMs protocolVersion (tools.files.sha256 modelBytes))
    (calibrationOf corpus.toCorpus final) (policyOf protocol protocolVersion final) goldenInputs onnxOutputs

end PduExamObserver.Models
