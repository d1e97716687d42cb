import PduExamObserver.Models.ResearchRuns

/-! # When a fit returns

With an exponential that is nowhere zero every fit returns whose calibration rows show each class and whose network and
regression give rows of the right shape. -/

namespace PduExamObserver.Models
open Native Training Scores
set_option autoImplicit false

variable {Model Bytes : Type} {math : Elementary} {values probabilities : List (List Rat)} {targets : List Nat}
  {temperature : Rat}

/-! ## Temperature -/

theorem applyTemperature_returns (hpos : 0 < temperature) (hshape : ∀ row ∈ values, row.length = classCount) :
    ∃ result, applyTemperature math values temperature = .ok result :=
  ⟨_, applyTemperature_ok_iff.mpr ⟨hpos, hshape, rfl⟩⟩

theorem refine_returns (hexp : ∀ x, 0 < math.exp x) (hshape : ∀ row ∈ values, row.length = classCount)
    (targets : List Nat) (search : Search) : ∃ next, refine math values targets search = .ok next := by
  have hlosses : ∃ losses, ((linspace search.lower search.upper 81).map math.exp).mapM (fun item => do
      return loss math (← applyTemperature math values item) targets) = .ok losses := by
    refine mapM_returns_iff.mpr fun item hitem => ?_
    obtain ⟨x, -, rfl⟩ := List.mem_map.mp hitem
    obtain ⟨result, hresult⟩ := applyTemperature_returns (hexp x) hshape
    rw [hresult]
    exact ⟨_, rfl⟩
  obtain ⟨losses, hlosses⟩ := hlosses
  unfold refine
  simp only [bind_ok_iff]
  exact ⟨_, losses, hlosses, rfl⟩

theorem fitTemperature_returns (hexp : ∀ x, 0 < math.exp x) (hshape : ∀ row ∈ values, row.length = classCount)
    (hlength : values.length = targets.length) (hnonempty : targets ≠ []) (htargets : ∀ k ∈ targets, k < classCount) :
    ∃ temperature, fitTemperature math values targets = .ok temperature := by
  have hloop (steps : List Nat) (start : Search) :
      ∃ last, steps.foldlM (fun search _ => refine math values targets search) start = .ok last := by
    induction steps generalizing start with
    | nil => exact ⟨start, rfl⟩
    | cons step rest ih =>
      obtain ⟨next, hnext⟩ := refine_returns hexp hshape targets start
      obtain ⟨last, hlast⟩ := ih next
      exact ⟨last, by rw [List.foldlM_cons, hnext]; exact hlast⟩
  obtain ⟨last, hlast⟩ := hloop (List.range 5) ⟨-4, 4, 1⟩
  unfold fitTemperature
  simp only [bind_ok_iff, require_eq_ok]
  exact ⟨last.selected, (), ⟨hshape, hlength, hnonempty⟩, (), htargets, last, hlast, rfl⟩

/-! ## Abstention -/

theorem selectAbstentionThreshold_returns (probabilities : List (List Rat)) (targets : List Nat)
    (hshape : ∀ row ∈ probabilities, row.length = classCount)
    (hlength : probabilities.length = targets.length) (hnonempty : targets ≠ [])
    (hnonneg : ∀ row ∈ probabilities, 0 ≤ rowMax row) :
    ∃ threshold, selectAbstentionThreshold probabilities targets (3 / 4) = .ok threshold := by
  have hzero : (0 : Rat) ∈ (0 :: probabilities.map rowMax).dedup.mergeSort fun a b => decide (a ≤ b) :=
    List.mem_mergeSort.mpr (List.mem_dedup.mpr List.mem_cons_self)
  have hshare : share (probabilities.zip targets) (fun row => (0 : Rat) ≤ rowMax row.1) = 1 := by
    have hall : (probabilities.zip targets).countP (fun row => decide ((0 : Rat) ≤ rowMax row.1)) =
        (probabilities.zip targets).length :=
      List.countP_eq_length.mpr fun row hrow => decide_eq_true (hnonneg row.1 (List.of_mem_zip hrow).1)
    have hpos : 0 < (probabilities.zip targets).length := by
      rw [List.length_zip, hlength, Nat.min_self]
      exact List.length_pos_iff.mpr hnonempty
    unfold share
    rw [hall]
    exact div_self (by exact_mod_cast hpos.ne')
  have hsome : (((0 :: probabilities.map rowMax).dedup.mergeSort fun a b => decide (a ≤ b)).foldl
      (tryThreshold (probabilities.zip targets) (3 / 4)) none).isSome = true :=
    foldl_tryThreshold_isSome (.inr ⟨0, hzero, by rw [hshare]; norm_num⟩)
  obtain ⟨best, hbest⟩ := Option.isSome_iff_exists.mp hsome
  unfold selectAbstentionThreshold
  simp only [bind_ok_iff, require_eq_ok, orError_eq_ok]
  exact ⟨best.threshold, (), ⟨hshape, hlength, by norm_num, by norm_num⟩, best, hbest, rfl⟩

/-! ## The whole fit -/

structure WellShaped (tools : Tools Model Bytes) : Prop where
  exp_pos : ∀ x, 0 < tools.math.exp x
  logits_length : ∀ model tensors, (tools.logits model tensors).length = tensors.length
  logits_shape : ∀ model tensors, ∀ row ∈ tools.logits model tensors, row.length = classCount
  classes : ∀ rows targets seed, (tools.regression rows targets seed).classes = List.range classCount
  coefficients : ∀ rows targets seed, (tools.regression rows targets seed).coefficients.length = classCount ∧
    (∀ weights ∈ (tools.regression rows targets seed).coefficients, weights.length = classCount + contextCount) ∧
    (tools.regression rows targets seed).intercepts.length = classCount

theorem length_contextRow (context : ContextRow) : (contextRow context).length = contextCount := rfl

theorem length_features (logits contexts : List (List Rat)) (h : contexts.length = logits.length) :
    (features logits contexts).length = logits.length := by
  unfold features
  rw [List.length_zipWith, h, Nat.min_self]

theorem length_fused {coefficients : List (List Rat)} {intercepts row : List Rat} (h : coefficients.length = classCount)
    (h' : intercepts.length = classCount) : (fused coefficients intercepts row).length = classCount := by
  unfold fused
  rw [List.length_zipWith, h, h', Nat.min_self]

theorem applyFusion_returns (math : Elementary) (logits contexts coefficients : List (List Rat)) (intercepts : List Rat)
    (hpos : 0 < temperature) (hlogits : ∀ row ∈ logits, row.length = classCount)
    (hcontexts : ∀ row ∈ contexts, row.length = contextCount) (hlength : contexts.length = logits.length)
    (hshape : coefficients.length = classCount ∧ (∀ weights ∈ coefficients, weights.length = classCount + contextCount) ∧
      intercepts.length = classCount) :
    applyFusion math logits contexts coefficients intercepts temperature =
      .ok (((features logits contexts).map (fused coefficients intercepts)).map fun row =>
        softmax math.exp (row.map fun x => x / temperature)) := by
  refine applyFusion_ok_iff.mpr ⟨⟨hlogits, hcontexts, hlength⟩, hshape, applyTemperature_ok_iff.mpr ⟨hpos, ?_, rfl⟩⟩
  intro row hrow
  obtain ⟨source, -, rfl⟩ := List.mem_map.mp hrow
  exact length_fused hshape.1 hshape.2.2

variable {tools : Tools Model Bytes} {calibration forbidden train : List String} {corpus : Corpus}

theorem calibration_returns (h : WellShaped tools) {logits contexts : List (List Rat)}
    (seed : Nat) (hshape : ∀ row ∈ logits, row.length = classCount) (hlength : logits.length = targets.length)
    (hcontexts : ∀ row ∈ contexts, row.length = contextCount) (hsame : contexts.length = targets.length)
    (htargets : ∀ k ∈ targets, k < classCount) (hclasses : ∀ k < classCount, k ∈ targets) :
    ∃ cameraTemperature fusion fusionTemperature probabilities threshold,
      fitTemperature tools.math logits targets = .ok cameraTemperature ∧
      fitLogisticFusion tools.regression logits contexts targets seed = .ok fusion ∧
      fitTemperature tools.math ((features logits contexts).map (fused fusion.coefficients fusion.intercepts)) targets =
        .ok fusionTemperature ∧
      applyFusion tools.math logits contexts fusion.coefficients fusion.intercepts fusionTemperature = .ok probabilities ∧
      selectAbstentionThreshold probabilities targets (3 / 4) = .ok threshold := by
  have hnonempty : targets ≠ [] := by
    rintro rfl
    cases hclasses 0 (by decide)
  obtain ⟨cameraTemperature, hcamera⟩ := fitTemperature_returns h.exp_pos hshape hlength hnonempty htargets
  have hparameters := h.coefficients (features logits contexts) targets seed
  have hfusion : fitLogisticFusion tools.regression logits contexts targets seed =
      .ok (tools.regression (features logits contexts) targets seed).toFusionFit := by
    unfold fitLogisticFusion
    simp only [bind_ok_iff, require_eq_ok]
    exact ⟨(), ⟨hshape, hlength, hcontexts, hsame⟩, (), ⟨htargets, hclasses⟩, (), h.classes _ _ _, rfl⟩
  have hfused : ∀ row ∈ (features logits contexts).map (fused
      (tools.regression (features logits contexts) targets seed).coefficients
      (tools.regression (features logits contexts) targets seed).intercepts), row.length = classCount := by
    intro row hrow
    obtain ⟨source, -, rfl⟩ := List.mem_map.mp hrow
    exact length_fused hparameters.1 hparameters.2.2
  have hfusedLength : ((features logits contexts).map (fused
      (tools.regression (features logits contexts) targets seed).coefficients
      (tools.regression (features logits contexts) targets seed).intercepts)).length = targets.length := by
    rw [List.length_map, length_features logits contexts (hsame.trans hlength.symm), hlength]
  obtain ⟨fusionTemperature, htemperature⟩ := fitTemperature_returns h.exp_pos hfused hfusedLength hnonempty htargets
  have hprobabilities := applyFusion_returns tools.math logits contexts _ _ (fitTemperature_positive htemperature) hshape hcontexts
    (hsame.trans hlength.symm) hparameters
  obtain ⟨threshold, hthreshold⟩ := selectAbstentionThreshold_returns
    (((features logits contexts).map (fused (tools.regression (features logits contexts) targets seed).coefficients
      (tools.regression (features logits contexts) targets seed).intercepts)).map fun row =>
        softmax tools.math.exp (row.map fun x => x / fusionTemperature)) targets (fun row hrow => by
      obtain ⟨source, hsource, rfl⟩ := List.mem_map.mp hrow
      rw [length_softmax, List.length_map, hfused source hsource]) (by rw [List.length_map, hfusedLength]) hnonempty
    (fun row hrow => by
      obtain ⟨source, hsource, rfl⟩ := List.mem_map.mp hrow
      refine (rowMax_softmax_mem_unit tools.math.exp_nonneg tools.math.exp_zero fun hnil => ?_).1
      have hlength := hfused source hsource
      rw [List.map_eq_nil_iff.mp hnil] at hlength
      cases hlength)
  exact ⟨cameraTemperature, _, fusionTemperature, _, threshold, hcamera, hfusion, htemperature, hprobabilities, hthreshold⟩

theorem fitModel_returns (h : WellShaped tools)
    (epochs seed : Nat)
    (hdisjoint : ∀ person ∈ train, person ∉ calibration) (hforbidden : ∀ person ∈ train ++ calibration, person ∉ forbidden)
    (htrain : corpus.rowsOf train ≠ []) (hlabels : ∀ row ∈ corpus.rowsOf calibration, labelIndex row < classCount)
    (hclasses : ∀ k < classCount, k ∈ (corpus.rowsOf calibration).map labelIndex) :
    ∃ trained, fitModel tools corpus train calibration forbidden epochs seed = .ok trained := by
  have hcalibration : corpus.rowsOf calibration ≠ [] := by
    intro hnil
    have hzero := hclasses 0 (by decide)
    rw [hnil] at hzero
    cases hzero
  have hcontexts : ∀ row ∈ (corpus.rowsOf calibration).map fun window => contextRow window.context,
      row.length = contextCount := by
    intro row hrow
    obtain ⟨window, -, rfl⟩ := List.mem_map.mp hrow
    exact length_contextRow window.context
  have hinrange : ∀ k ∈ (corpus.rowsOf calibration).map labelIndex, k < classCount := by
    intro k hk
    obtain ⟨row, hrow, rfl⟩ := List.mem_map.mp hk
    exact hlabels row hrow
  obtain ⟨cameraTemperature, fusion, fusionTemperature, probabilities, threshold, hcamera, hfusion, htemperature,
    hprobabilities, hthreshold⟩ := calibration_returns h seed
      (h.logits_shape (tools.train (corpus.rowsOf train) (corpus.rowsOf calibration) epochs seed)
        ((corpus.rowsOf calibration).map Window.tensor))
      (by rw [h.logits_length, List.length_map, List.length_map]) hcontexts (by rw [List.length_map, List.length_map])
      hinrange hclasses
  unfold fitModel
  simp only [bind_ok_iff, require_eq_ok]
  exact ⟨_, (), hdisjoint, (), hforbidden, (), ⟨htrain, hcalibration⟩, cameraTemperature, hcamera, fusion, hfusion,
    fusionTemperature, htemperature, probabilities, hprobabilities, threshold, hthreshold, rfl⟩

theorem fusion_of_fitModel {epochs seed : Nat} {trained : TrainedModel Model}
    (h : fitModel tools corpus train calibration forbidden epochs seed = .ok trained) :
    ∃ rows targets, trained.fusionCoefficients = (tools.regression rows targets seed).coefficients ∧
      trained.fusionIntercepts = (tools.regression rows targets seed).intercepts := by
  unfold fitModel at h
  simp only [bind_ok_iff, require_eq_ok] at h
  obtain ⟨-, -, -, -, -, -, cameraTemperature, -, fusion, hfusion, fusionTemperature, -, probabilities, -, threshold, -, h⟩ := h
  obtain rfl := Except.ok.inj h
  unfold fitLogisticFusion at hfusion
  simp only [bind_ok_iff, require_eq_ok] at hfusion
  obtain ⟨-, -, -, -, -, -, hfusion⟩ := hfusion
  obtain rfl := Except.ok.inj hfusion
  exact ⟨_, _, rfl, rfl⟩

end PduExamObserver.Models
