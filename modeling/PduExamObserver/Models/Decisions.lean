import PduExamObserver.Models.Importable

/-! # Evaluated and deployed decisions

The label that the evaluation of a fold takes for a window, and the decision of the runtime on the bundle of the same
model: they are the same wherever the runtime lets the context pass the bounds of its policy. -/

namespace PduExamObserver.Models
open Native Training Training.ExportCodec Scores
set_option autoImplicit false

variable {Model : Type} {trained : TrainedModel Model} {numpy : Numpy} {math : Elementary} {protocol : Dict}
  {corpus : ResearchCorpus} {strideMs : Int} {protocolVersion modelSha256 : String} {logits : List Rat}
  {context : ContextRow}

/-! ## The deployed model -/

/-- The runtime with the documents that were written for a model, and a session that gives the scores of its network. -/
def deployed (camera : Tensor → List Rat) (protocol : Dict) (corpus : ResearchCorpus) (strideMs : Int)
    (protocolVersion modelSha256 : String) (trained : TrainedModel Model) : ModelRuntime where
  session tensors := some (tensors.map camera)
  manifest := (writtenManifest protocol corpus strideMs protocolVersion modelSha256).encoded
  calibration := (calibrationOf corpus.toCorpus trained).encoded
  policy := (policyOf protocol protocolVersion trained).encoded

variable {camera : Tensor → List Rat}

theorem deployed_policy :
    (deployed camera protocol corpus strideMs protocolVersion modelSha256 trained).policy =
      (policyOf protocol protocolVersion trained).encoded := by
  simp only [deployed]

theorem deployed_calibration :
    (deployed camera protocol corpus strideMs protocolVersion modelSha256 trained).calibration =
      (calibrationOf corpus.toCorpus trained).encoded := by
  simp only [deployed]

theorem deployed_manifest :
    (deployed camera protocol corpus strideMs protocolVersion modelSha256 trained).manifest =
      (writtenManifest protocol corpus strideMs protocolVersion modelSha256).encoded := by
  simp only [deployed]

def contextDict (context : ContextRow) : Dict :=
  contextNames.zip ((contextRow context).map fun x => .float (.finite x))

def WithinBounds (context : ContextRow) : Prop :=
  55 / 100 ≤ context.visibilityMean ∧ context.frameGapRatio ≤ 20 / 100 ∧ context.scaledFocusSignalAge ≤ 1

instance (context : ContextRow) : Decidable (WithinBounds context) := inferInstanceAs (Decidable (_ ∧ _ ∧ _))

def labelName (label : Int) : String :=
  if label < 0 then "TECHNICAL_INSUFFICIENT" else classNames.getD label.toNat ""

theorem labelName_natCast (k : Nat) : labelName (k : Int) = classNames.getD k "" := by
  unfold labelName
  rw [if_neg (by omega), Int.toNat_natCast]

theorem decided_label (runtime : ModelRuntime) (probabilities : List Rat) (signal : String) :
    (runtime.decided probabilities signal).label = classNames.getD (argmax probabilities) "" := rfl

/-! ## What the runtime reads -/

theorem contextValues_contextDict : contextValues (some (contextDict context)) = .ok (some (contextRow context)) := by
  have hkeys : (contextDict context).HasKeys contextNames := by
    simp [contextDict, contextNames, contextRow, Dict.HasKeys]
  have hnumbers : ∀ name ∈ contextNames, isNumber ((contextDict context).get name) = true := by
    simp only [contextNames, List.forall_mem_cons, List.not_mem_nil, false_implies, implies_true, and_true]
    exact ⟨rfl, rfl, rfl, rfl, rfl, rfl⟩
  unfold contextValues
  simp only
  rw [if_pos ⟨hkeys, hnumbers⟩]
  rfl

theorem withinPolicy_written : withinPolicy (policyOf protocol protocolVersion trained).encoded (contextRow context) =
    .ok (decide (WithinBounds context)) := by
  have hlookup (key : String) : (policyOf protocol protocolVersion trained).encoded.lookup key =
      ((policyOf protocol protocolVersion trained).lookup key).map Value.encoding := by
    refine lookup_encoded ?_ key
    simp [policyOf]
  have hquality : floatOr (policyOf protocol protocolVersion trained).encoded "minimum_pose_visibility" 0 =
      .ok (.finite (55 / 100)) := by
    unfold floatOr
    rw [hlookup]
    rfl
  have hgap : floatOr (policyOf protocol protocolVersion trained).encoded "maximum_frame_gap_ratio" 1 =
      .ok (.finite (20 / 100)) := by
    unfold floatOr
    rw [hlookup]
    rfl
  have hage : floatOr (policyOf protocol protocolVersion trained).encoded "maximum_scaled_focus_signal_age" 1 =
      .ok (.finite 1) := by
    unfold floatOr
    rw [hlookup]
    rfl
  unfold withinPolicy
  simp only [hquality, hgap, hage, ok_bind]
  have hvisibility : (contextRow context).getD 0 0 = context.visibilityMean := rfl
  have hratio : (contextRow context).getD 3 0 = context.frameGapRatio := rfl
  have hsignal : (contextRow context).getD 5 0 = context.scaledFocusSignalAge := rfl
  rw [hvisibility, hratio, hsignal]
  refine congrArg Except.ok ?_
  rw [Bool.eq_iff_iff, decide_eq_true_iff]
  simp [PyFloat.gt, PyFloat.lt, WithinBounds, and_assoc]

theorem fusedLogits_written (h : FusionShape trained) (row : List Rat) :
    fusedLogits numpy (calibrationOf corpus.toCorpus trained).encoded row =
      .ok (fused trained.fusionCoefficients trained.fusionIntercepts row) := by
  have hfinite (xs : List Rat) : finiteRow (xs.map .finite) = some xs := by
    unfold finiteRow
    induction xs with
    | nil => rfl
    | cons x rest ih =>
      rw [List.map_cons, List.mapM_cons, ih]
      rfl
  have hrows (rows : List (List Rat)) : (rows.map fun row => row.map PyFloat.finite).mapM finiteRow = some rows := by
    induction rows with
    | nil => rfl
    | cons row rest ih =>
      rw [List.map_cons, List.mapM_cons, ih, hfinite]
      rfl
  unfold fusedLogits
  rw [coefficients_calibration, intercepts_calibration, asarray_coefficients numpy h, asarray_intercepts numpy h]
  simp only [ok_bind, hrows, hfinite, orError]
  rfl

/-! ## The two decisions -/

def fusedProbabilities (math : Elementary) (trained : TrainedModel Model) (logits : List Rat) (context : ContextRow) :
    List Rat :=
  softmax math.exp ((fused trained.fusionCoefficients trained.fusionIntercepts (logits ++ contextRow context)).map fun x =>
    x / trained.fusionTemperature)

def evaluatedLabel (math : Elementary) (trained : TrainedModel Model) (logits : List Rat) (context : ContextRow) : Int :=
  if rowMax (fusedProbabilities math trained logits context) < trained.abstentionThreshold then -1
  else (argmax (fusedProbabilities math trained logits context) : Int)

theorem evaluatedLabels_eq (hcamera : ∀ tensor, (camera tensor).length = classCount)
    (hpositive : 0 < trained.fusionTemperature) (h : FusionShape trained) (windows : List Window) :
    evaluatedLabels math trained ((windows.map Window.tensor).map camera)
      (windows.map fun window => contextRow window.context) =
      .ok (windows.map fun window => evaluatedLabel math trained (camera window.tensor) window.context) := by
  have hfeatures : features ((windows.map Window.tensor).map camera)
      (windows.map fun window => contextRow window.context) =
      windows.map fun window => camera window.tensor ++ contextRow window.context := by
    unfold features
    induction windows with
    | nil => rfl
    | cons window rest ih =>
      rw [List.map_cons, List.map_cons, List.map_cons, List.map_cons, List.zipWith_cons_cons, ih]
  unfold evaluatedLabels
  rw [applyFusion_returns math _ _ trained.fusionCoefficients trained.fusionIntercepts hpositive ?_ ?_ ?_
    ⟨h.coefficients, h.weights, h.intercepts⟩, hfeatures, ok_bind]
  · unfold contextLabels
    rw [List.map_map, List.map_map, List.map_map]
    rfl
  · intro row hrow
    obtain ⟨tensor, -, rfl⟩ := List.mem_map.mp hrow
    exact hcamera tensor
  · intro row hrow
    obtain ⟨window, -, rfl⟩ := List.mem_map.mp hrow
    exact length_contextRow window.context
  · rw [List.length_map, List.length_map, List.length_map]

theorem inferPoseTensor_deployed (context : ContextRow) {tensor : Tensor}
    (hcamera : ∀ tensor, (camera tensor).length = classCount) (h : FusionShape trained) (htensor : isPoseTensor tensor) :
    ∃ decision, (deployed camera protocol corpus strideMs protocolVersion modelSha256 trained).inferPoseTensor math numpy
        [tensor] (some (contextDict context)) "REAL" = .ok (some decision) ∧
      decision.label = if WithinBounds context then labelName (evaluatedLabel math trained (camera tensor) context)
        else "TECHNICAL_INSUFFICIENT" := by
  have hmode : ((deployed camera protocol corpus strideMs protocolVersion modelSha256 trained).manifest.get
      "training_mode").eq (.str "RESEARCH") = true := by
    rw [deployed_manifest, get_manifest]
    exact eq_str.mpr rfl
  have hready : ((deployed camera protocol corpus strideMs protocolVersion modelSha256 trained).manifest.get
      "research_ready").bool? = some true := by
    rw [deployed_manifest, get_manifest]
    rfl
  have hdemo : ((deployed camera protocol corpus strideMs protocolVersion modelSha256 trained).manifest.get
      "demo_only").bool? = some false := by
    rw [deployed_manifest, get_manifest]
    rfl
  have hsession : (deployed camera protocol corpus strideMs protocolVersion modelSha256 trained).session [tensor] =
      some [camera tensor] := rfl
  have htemperature : finiteFloat ((deployed camera protocol corpus strideMs protocolVersion modelSha256
      trained).calibration.get "camera_temperature") = .ok trained.cameraTemperature := by
    rw [deployed_calibration, cameraTemperature_calibration]
  have hfusion : finiteFloat ((deployed camera protocol corpus strideMs protocolVersion modelSha256
      trained).calibration.get "fusion_temperature") = .ok trained.fusionTemperature := by
    rw [deployed_calibration, fusionTemperature_calibration]
  have hthreshold : finiteFloat ((deployed camera protocol corpus strideMs protocolVersion modelSha256
      trained).policy.get "abstention_threshold") = .ok trained.abstentionThreshold := by
    rw [deployed_policy, threshold_policy]
  have hwithin : withinPolicy (deployed camera protocol corpus strideMs protocolVersion modelSha256 trained).policy
      (contextRow context) = .ok (decide (WithinBounds context)) := by
    rw [deployed_policy, withinPolicy_written]
  have hlogits (row : List Rat) : fusedLogits numpy (deployed camera protocol corpus strideMs protocolVersion modelSha256
      trained).calibration row = .ok (fused trained.fusionCoefficients trained.fusionIntercepts row) := by
    rw [deployed_calibration, fusedLogits_written h row]
  have hsoftmax (row : List Rat) (hlength : row.length = classCount) :
      runtimeSoftmax math row = .ok (softmax math.exp row) := by
    unfold runtimeSoftmax
    rw [require, if_pos hlength]
    rfl
  unfold ModelRuntime.inferPoseTensor
  rw [if_neg (fun hboundary => hboundary.2 ⟨hmode, hready, hdemo⟩), if_neg (by simpa using htensor), hsession]
  simp only
  rw [if_neg (by simp [hcamera]), contextValues_contextDict, ok_bind, if_neg (by simp), htemperature, ok_bind,
    hsoftmax _ (by rw [List.length_map, hcamera]), ok_bind]
  simp only
  rw [hwithin, ok_bind]
  by_cases hbounds : WithinBounds context
  · rw [if_pos hbounds, decide_eq_true hbounds, if_neg (by simp), hlogits, ok_bind, hfusion, ok_bind,
      hsoftmax _ (by rw [List.length_map, length_fused h.coefficients h.intercepts]), ok_bind, hthreshold, ok_bind]
    by_cases hlow : rowMax (fusedProbabilities math trained (camera tensor) context) < trained.abstentionThreshold
    · have hlabel : evaluatedLabel math trained (camera tensor) context = -1 := if_pos hlow
      rw [fusedProbabilities] at hlow
      rw [if_pos hlow, hlabel]
      exact ⟨_, rfl, rfl⟩
    · have hlabel : evaluatedLabel math trained (camera tensor) context =
          (argmax (fusedProbabilities math trained (camera tensor) context) : Int) := if_neg hlow
      rw [hlabel, labelName_natCast]
      rw [fusedProbabilities] at hlow ⊢
      rw [if_neg hlow]
      exact ⟨_, rfl, decided_label _ _ _⟩
  · rw [if_neg hbounds, decide_eq_false hbounds, if_pos (by simp)]
    exact ⟨_, rfl, rfl⟩

/-- What the runtime decides of a window is what the evaluation uses for it, unless the context is out of the bounds of the
policy; then it is insufficient. -/
theorem decisions_agree (math : Elementary) (numpy : Numpy) (camera : Tensor → List Rat)
    (hcamera : ∀ tensor, (camera tensor).length = classCount) (trained : TrainedModel Model)
    (hpositive : 0 < trained.fusionTemperature) (hshape : FusionShape trained) (protocol : Dict) (corpus : ResearchCorpus)
    (strideMs : Int) (protocolVersion modelSha256 : String) (windows : List Window)
    (htensors : ∀ window ∈ windows, isPoseTensor window.tensor) :
    ∃ labels, evaluatedLabels math trained ((windows.map Window.tensor).map camera)
        (windows.map fun window => contextRow window.context) = .ok labels ∧
      List.Forall₂ (fun window label => ∃ decision,
        (deployed camera protocol corpus strideMs protocolVersion modelSha256 trained).inferPoseTensor math numpy
          [window.tensor] (some (contextDict window.context)) "REAL" = .ok (some decision) ∧
        decision.label = if WithinBounds window.context then labelName label else "TECHNICAL_INSUFFICIENT")
        windows labels := by
  refine ⟨_, evaluatedLabels_eq hcamera hpositive hshape windows, ?_⟩
  rw [List.forall₂_map_right_iff, List.forall₂_same]
  exact fun window hmem => inferPoseTensor_deployed window.context hcamera hshape (htensors window hmem)

namespace Sample

def untrained : TrainedModel Unit where
  model := ()
  cameraTemperature := 1
  fusionTemperature := 1
  fusionCoefficients := List.replicate classCount (zeros (classCount + contextCount))
  fusionIntercepts := zeros classCount
  abstentionThreshold := 0

theorem untrained_shape : FusionShape untrained where
  coefficients := by simp [untrained]
  weights weights hmem := by
    rw [List.eq_of_mem_replicate hmem]
    simp [zeros]
  intercepts := by simp [untrained, zeros]

def even (_ : Tensor) : List Rat := zeros classCount

theorem length_even (tensor : Tensor) : (even tensor).length = classCount := by simp [even, zeros]

theorem window_isPoseTensor (person : String) (label : Showcase.Label) : isPoseTensor (window person label).tensor := by
  refine ⟨List.length_replicate, fun row hrow => ?_⟩
  rw [List.eq_of_mem_replicate hrow]
  exact List.length_replicate

theorem evaluatedLabel_untrained (context : ContextRow) :
    evaluatedLabel Sample.math untrained (zeros classCount) context = 0 := by
  have hprobabilities : fusedProbabilities Sample.math untrained (zeros classCount) context =
      softmax Sample.math.exp (zeros classCount) := by
    unfold fusedProbabilities untrained
    rw [fused_zeros, zeros_div]
  have hne : zeros classCount ≠ [] := by simp [zeros, classCount]
  have hnonneg : untrained.abstentionThreshold ≤ rowMax (softmax Sample.math.exp (zeros classCount)) :=
    (rowMax_softmax_mem_unit Sample.math.exp_nonneg Sample.math.exp_zero hne).1
  unfold evaluatedLabel
  rw [hprobabilities, if_neg (not_lt.mpr hnonneg), argmax_softmax_zeros]
  rfl

theorem evaluatedLabels_untrained (context : ContextRow) :
    evaluatedLabels Sample.math untrained [zeros classCount] [contextRow context] = .ok [0] := by
  have heq : evaluatedLabels Sample.math untrained (([{ window "P03" .normal with context }].map Window.tensor).map even)
      ([{ window "P03" .normal with context }].map fun window => contextRow window.context) =
      .ok ([{ window "P03" .normal with context }].map fun window =>
        evaluatedLabel Sample.math untrained (even window.tensor) window.context) :=
    evaluatedLabels_eq length_even (by decide) untrained_shape [{ window "P03" .normal with context }]
  rw [← evaluatedLabel_untrained context]
  exact heq

theorem context_within : WithinBounds Sample.context := by
  unfold WithinBounds Sample.context
  norm_num

def dim : ContextRow := { Sample.context with visibilityMean := 1 / 2 }

theorem dim_not_within : ¬ WithinBounds dim := by
  unfold WithinBounds dim Sample.context
  norm_num

end Sample

/-- A window with a visible pose: both say that it is normal. -/
theorem decisions_agree_visible : ∃ decision,
    evaluatedLabels Sample.math Sample.untrained [Sample.zeros classCount] [contextRow Sample.context] = .ok [0] ∧
    (deployed Sample.even (Sample.protocolOf "V1") (Sample.corpusOf "V1") 500 "V1" ResearchRuntime.Sample.digest
      Sample.untrained).inferPoseTensor Sample.math Sample.arrays [(Sample.window "P03" .normal).tensor]
      (some (contextDict Sample.context)) "REAL" = .ok (some decision) ∧ decision.label = "NORMAL" := by
  obtain ⟨labels, hlabels, hdecisions⟩ := decisions_agree Sample.math Sample.arrays Sample.even Sample.length_even
    Sample.untrained (by decide) Sample.untrained_shape (Sample.protocolOf "V1") (Sample.corpusOf "V1") 500 "V1"
    ResearchRuntime.Sample.digest [Sample.window "P03" .normal] fun window hmem => by
      rw [List.mem_singleton.mp hmem]
      exact Sample.window_isPoseTensor "P03" .normal
  obtain rfl : labels = [0] := Except.ok.inj (hlabels.symm.trans (Sample.evaluatedLabels_untrained Sample.context))
  obtain ⟨decision, hdecision, hlabel⟩ := (List.forall₂_cons.mp hdecisions).1
  refine ⟨decision, Sample.evaluatedLabels_untrained Sample.context, hdecision, ?_⟩
  rw [hlabel]
  exact if_pos Sample.context_within

/-- A window whose pose is hardly visible: the evaluation takes it for normal, and the runtime abstains. -/
theorem decisions_differ_dim : ∃ decision,
    evaluatedLabels Sample.math Sample.untrained [Sample.zeros classCount] [contextRow Sample.dim] = .ok [0] ∧
    labelName 0 = "NORMAL" ∧
    (deployed Sample.even (Sample.protocolOf "V1") (Sample.corpusOf "V1") 500 "V1" ResearchRuntime.Sample.digest
      Sample.untrained).inferPoseTensor Sample.math Sample.arrays [(Sample.window "P03" .normal).tensor]
      (some (contextDict Sample.dim)) "REAL" = .ok (some decision) ∧ decision.label = "TECHNICAL_INSUFFICIENT" := by
  obtain ⟨decision, hdecision, hlabel⟩ := inferPoseTensor_deployed Sample.dim Sample.length_even Sample.untrained_shape
    (Sample.window_isPoseTensor "P03" .normal)
  refine ⟨decision, Sample.evaluatedLabels_untrained Sample.dim, rfl, hdecision, ?_⟩
  rw [hlabel]
  exact if_neg Sample.dim_not_within

end PduExamObserver.Models
