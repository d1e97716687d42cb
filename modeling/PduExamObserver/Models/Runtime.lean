import PduExamObserver.Models.Bundles
import PduExamObserver.Training.Calibration

/-! # The model runtime

What `ModelRuntime` checks of an unpacked bundle, and what it decides for one pose tensor. The ONNX session and
`np.asarray` are parameters. -/

namespace PduExamObserver.Models
open Native Training Training.ExportCodec Scores
set_option autoImplicit false

variable {Bytes : Type}

/-! ## Documents -/

/-- `CLASS_ORDER`. -/
def classNames : List String := ["NORMAL", "BENIGN_CONFOUNDER", "PROLONGED_HEAD_DOWN", "PROLONGED_SIDE_LOOK"]

/-- `CONTEXT_ORDER`. -/
def contextNames : List String :=
  ["visibility_mean", "blur_score", "exposure_score", "frame_gap_ratio", "focus_fraction", "scaled_focus_signal_age"]

/-- `FUSION_FEATURE_ORDER`. -/
def fusionFeatureNames : List String := classNames.map ("camera_logit_" ++ ·) ++ contextNames

def names (strings : List String) : Value := .list (strings.map .str)

inductive NdArray
  | vector (xs : List PyFloat)
  | matrix (rows : List (List PyFloat))
  | other

def vectorValue (xs : List Rat) : Value := .list (xs.map fun x => .float (.finite x))

def matrixValue (rows : List (List Rat)) : Value := .list (rows.map vectorValue)

/-- `np.asarray(value, dtype=np.float64)`. -/
structure Numpy where
  asarray : Value → Except String NdArray
  asarray_vector : ∀ xs : List Rat, xs ≠ [] → asarray (vectorValue xs) = .ok (.vector (xs.map .finite))
  asarray_matrix : ∀ (rows : List (List Rat)) (width : Nat), rows ≠ [] → 0 < width → (∀ row ∈ rows, row.length = width) →
    asarray (matrixValue rows) = .ok (.matrix (rows.map fun row => row.map .finite))

def isFinite : PyFloat → Bool
  | .finite _ => true
  | _ => false

def finiteFloat (value : Value) : Except String Rat := do
  match ← asFloat value with
  | .finite x => return x
  | _ => .error "value must be finite"

/-! ## Integrity -/

def readJson (files : Files Bytes) (staged : List (StagedFile Bytes)) (name : String) : Except String Dict := do
  let data ← readBytes staged name
  require (files.hasConstant data = false) "non-finite JSON constant"
  let value ← orError "JSONDecodeError" (files.loads data)
  orError "JSON root must be an object" value.dict?

def verifyIntegrity (files : Files Bytes) (staged : List (StagedFile Bytes)) : Except String Unit := do
  require (isAllowlist (staged.map StagedFile.name)) "bundle allowlist mismatch"
  require (∀ file ∈ staged, file.regular = true) "bundle contains a non-regular file"
  staged.forM fun file => do
    let maximum ← orError "KeyError" (maxFileBytes.lookup file.name)
    require (files.size file.data ≤ maximum) "bundle file exceeds size ceiling"
  let checksums ← readJson files staged "checksums.json"
  let expected ← orError "checksum contract is invalid" (checksums.get "files").dict?
  require (isChecksums checksums expected) "checksum contract is invalid"
  expected.forM fun entry => do
    let digest ← orError "bundle checksum mismatch" entry.2.str?
    require (digest.length = 64) "bundle checksum mismatch"
    require (files.sha256 (← readBytes staged entry.1) = digest) "bundle checksum mismatch"

/-! ## The contract of the documents -/

def tensorContract : Dict :=
  [("schema_version", .int 1), ("runtime_schema_min", .int 1), ("runtime_schema_max", .int 1),
    ("preprocessing_id", .str "mediapipe33-bodycenter-resample90-v1"), ("topology", .str "mediapipe-33-v1"),
    ("fps", .int 15), ("window_frames", .int 90), ("input_name", .str "pose_sequence"),
    ("input_shape", .list [.none, .int 5, .int 90, .int 33]), ("output_name", .str "camera_logits"),
    ("output_shape", .list [.none, .int 4]), ("class_order", names classNames), ("context_order", names contextNames)]

def isFitPartition (value : Value) : Prop :=
  value.str? = some "CALIBRATION_PARTICIPANT_DISJOINT" ∨ value.str? = some "SYNTHETIC_SMOKE_CALIBRATION"

instance (value : Value) : Decidable (isFitPartition value) := inferInstanceAs (Decidable (_ ∨ _))

/-- The checks of the manifest in `_verify_contract`. -/
def verifyManifest (manifest : Dict) (modelSha256 : String) : Except String Unit := do
  require (hasValues manifest tensorContract) "manifest tensor contract is incompatible"
  let mode ← hashed (manifest.get "training_mode")
  require (mode.str? = some "SYNTHETIC_SMOKE" ∨ mode.str? = some "RESEARCH") "manifest training mode is invalid"
  require (mode.str? = some "SYNTHETIC_SMOKE" → (manifest.get "demo_only").bool? = some true ∧
    (manifest.get "claim_status").str? = some "DEMO_ONLY_NOT_RESEARCH_PERFORMANCE") "synthetic model boundary is invalid"
  require (mode.str? = some "RESEARCH" → (manifest.get "demo_only").bool? = some false ∧
    (manifest.get "research_ready").bool? = some true ∧
    ∃ s ∈ (manifest.get "protocol_freeze_sha256").str?, s.length = 64) "research model authority boundary is invalid"
  require ((manifest.get "model_sha256").eq (.str modelSha256) = true) "manifest model digest is invalid"
  require (isIdentifier manifest "model_version" ∧ isIdentifier manifest "policy_version" ∧
    isIdentifier manifest "dataset_manifest_sha256") "manifest version/dataset identifier is invalid"

def hasFusionShape : NdArray → NdArray → Prop
  | .matrix rows, .vector xs => (rows.length = classCount ∧ ∀ row ∈ rows, row.length = classCount + contextCount) ∧
      xs.length = classCount ∧ (∀ row ∈ rows, ∀ x ∈ row, isFinite x = true) ∧ ∀ x ∈ xs, isFinite x = true
  | _, _ => False

instance (coefficients intercepts : NdArray) : Decidable (hasFusionShape coefficients intercepts) := by
  unfold hasFusionShape
  split <;> infer_instance

/-- The checks of the calibration in `_verify_contract`. -/
def verifyCalibration (numpy : Numpy) (calibration : Dict) : Except String Unit := do
  require ((calibration.get "schema_version").eq (.int 1) = true) "calibration contract is incompatible"
  let partition ← hashed (calibration.get "fit_partition")
  require (isFitPartition partition ∧ (calibration.get "feature_order").eq (names fusionFeatureNames) = true ∧
    (calibration.get "class_order").eq (names classNames) = true) "calibration contract is incompatible"
  let cameraTemperature ← finiteFloat (calibration.get "camera_temperature")
  let fusionTemperature ← finiteFloat (calibration.get "fusion_temperature")
  let coefficients ← numpy.asarray (calibration.get "fusion_coefficients")
  let intercepts ← numpy.asarray (calibration.get "fusion_intercepts")
  require (0 < cameraTemperature ∧ 0 < fusionTemperature ∧ hasFusionShape coefficients intercepts)
    "calibration numeric contract is incompatible"

/-- The checks of the policy in `_verify_contract`. -/
def verifyPolicy (manifest policy : Dict) : Except String Unit := do
  let threshold ← finiteFloat (policy.get "abstention_threshold")
  require ((policy.get "schema_version").eq (.int 1) = true ∧
    (policy.get "policy_version").eq (manifest.get "policy_version") = true) "policy contract is incompatible"
  let partition ← hashed (policy.get "selection_partition")
  require (isFitPartition partition ∧
    (policy.get "operator_outcome_on_abstention").eq (.str "TECHNICAL_INSUFFICIENT") = true ∧
    0 ≤ threshold ∧ threshold ≤ 1) "policy contract is incompatible"

def verifyContract (numpy : Numpy) (manifest calibration policy : Dict) (modelSha256 : String) : Except String Unit := do
  verifyManifest manifest modelSha256
  verifyCalibration numpy calibration
  verifyPolicy manifest policy

/-! ## Decisions -/

/-- A model that is ready: what `from_bundle` gives of a bundle that passes. -/
structure ModelRuntime where
  session : List Tensor → Option (List (List Rat))
  manifest : Dict
  calibration : Dict
  policy : Dict

structure Decision where
  label : String
  researchLabel : Option String
  operatorOutcome : String
  confidence : Option Rat
  confidenceStatus : String
  modelVersion : Value
  policyVersion : Value
  sourceSignals : List String

def ModelRuntime.insufficient (runtime : ModelRuntime) (reason : String) : Decision where
  label := "TECHNICAL_INSUFFICIENT"
  researchLabel := none
  operatorOutcome := "TECHNICAL_INSUFFICIENT"
  confidence := none
  confidenceStatus := "INSUFFICIENT"
  modelVersion := runtime.manifest.get "model_version"
  policyVersion := runtime.manifest.get "policy_version"
  sourceSignals := [reason]

def finiteRow (xs : List PyFloat) : Option (List Rat) :=
  xs.mapM fun x => match x with
    | .finite q => some q
    | _ => none

def isNumber (value : Value) : Bool := value.number.isSome && value.bool?.isNone

def contextValues : Option Dict → Except String (Option (List Rat))
  | none => .ok none
  | some context =>
    if context.HasKeys contextNames ∧ ∀ name ∈ contextNames, isNumber (context.get name) = true then do
      let values ← (contextNames.map context.get).mapM asFloat
      return finiteRow values
    else .ok none

/-- `float(document.get(key, default))`. -/
def floatOr (document : Dict) (key : String) (default : Rat) : Except String PyFloat :=
  match document.lookup key with
  | none => .ok (.finite default)
  | some value => asFloat value

/-- `_softmax`. -/
def runtimeSoftmax (math : Elementary) (logits : List Rat) : Except String (List Rat) := do
  require (logits.length = classCount) "logits are invalid"
  return softmax math.exp logits

def isPoseTensor (tensor : Tensor) : Prop := tensor.length = 90 ∧ ∀ row ∈ tensor, row.length = 33

instance (tensor : Tensor) : Decidable (isPoseTensor tensor) := inferInstanceAs (Decidable (_ ∧ _))

def withinPolicy (policy : Dict) (context : List Rat) : Except String Bool := do
  let qualityMin ← floatOr policy "minimum_pose_visibility" 0
  let gapMax ← floatOr policy "maximum_frame_gap_ratio" 1
  let focusAgeMax ← floatOr policy "maximum_scaled_focus_signal_age" 1
  return !(qualityMin.gt (context.getD 0 0) || gapMax.lt (context.getD 3 0) || focusAgeMax.lt (context.getD 5 0))

/-- `fusion_features @ coefficients.T + intercepts`. -/
def fusedLogits (numpy : Numpy) (calibration : Dict) (row : List Rat) : Except String (List Rat) := do
  match ← numpy.asarray (calibration.get "fusion_coefficients"), ← numpy.asarray (calibration.get "fusion_intercepts") with
  | .matrix rows, .vector xs => do
    let coefficients ← orError "ValueError" (rows.mapM finiteRow)
    let intercepts ← orError "ValueError" (finiteRow xs)
    return fused coefficients intercepts row
  | _, _ => .error "ValueError"

def ModelRuntime.decided (runtime : ModelRuntime) (probabilities : List Rat) (signal : String) : Decision :=
  let label := classNames.getD (argmax probabilities) ""
  { label, researchLabel := some label,
    operatorOutcome := if label = "NORMAL" ∨ label = "BENIGN_CONFOUNDER" then "NORMAL" else "REVIEW_REQUIRED",
    confidence := some (probabilities.getD (argmax probabilities) 0), confidenceStatus := "CALIBRATED",
    modelVersion := runtime.manifest.get "model_version", policyVersion := runtime.manifest.get "policy_version",
    sourceSignals := [signal] }

def ModelRuntime.inferPoseTensor (math : Elementary) (numpy : Numpy) (runtime : ModelRuntime) (poseTensor : List Tensor)
    (context : Option Dict) (sourceKind : String) : Except String (Option Decision) := do
  if sourceKind = "REAL" ∧ ¬ ((runtime.manifest.get "training_mode").eq (.str "RESEARCH") = true ∧
      (runtime.manifest.get "research_ready").bool? = some true ∧
      (runtime.manifest.get "demo_only").bool? = some false) then return none
  else if ¬ ∀ tensor ∈ poseTensor, isPoseTensor tensor then return none
  else
    match runtime.session poseTensor with
    | some [logits] =>
      if logits.length ≠ classCount ∨ poseTensor.length ≠ 1 then return none
      else do
        let contextValues ← contextValues context
        if sourceKind = "REAL" ∧ contextValues = none then return some (runtime.insufficient "RESEARCH_CONTEXT_REQUIRED")
        else do
          let cameraTemperature ← finiteFloat (runtime.calibration.get "camera_temperature")
          let cameraProbabilities ← runtimeSoftmax math (logits.map fun x => x / cameraTemperature)
          match contextValues with
          | none => return some (runtime.decided cameraProbabilities "ST_GCN_90_FRAME_SEQUENCE")
          | some context => do
            if !(← withinPolicy runtime.policy context) then
              return some (runtime.insufficient "QUALITY_OR_CONTEXT_INSUFFICIENT")
            else do
              let fusedLogits ← fusedLogits numpy runtime.calibration (logits ++ context)
              let fusionTemperature ← finiteFloat (runtime.calibration.get "fusion_temperature")
              let probabilities ← runtimeSoftmax math (fusedLogits.map fun x => x / fusionTemperature)
              let threshold ← finiteFloat (runtime.policy.get "abstention_threshold")
              if rowMax probabilities < threshold then
                return some (runtime.insufficient "LOW_CONFIDENCE_ABSTENTION")
              else return some (runtime.decided probabilities "CAMERA_QUALITY_FOCUS_FUSION")
    | _ => return none

end PduExamObserver.Models
