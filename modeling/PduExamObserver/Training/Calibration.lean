import PduExamObserver.Library.Except
import PduExamObserver.Library.Softmax

/-! # Calibration

Temperature, late fusion and abstention, fitted on the calibration participants only. Numbers are exact; the exponential
and the logarithm are parameters, and so is the regression that is fitted. -/

namespace PduExamObserver.Training
open Scores
set_option autoImplicit false

/-! ## Parameters -/

/-- `np.exp` and `math.log`. -/
structure Elementary where
  exp : Rat → Rat
  log : Rat → Rat
  exp_nonneg : ∀ x, 0 ≤ exp x
  exp_zero : exp 0 = 1

/-- `len(CLASS_ORDER)`. -/
def classCount : Nat := 4

/-- `len(CONTEXT_ORDER)`. -/
def contextCount : Nat := 6

/-- `FusionFit`, of which the probabilities are not read. -/
structure FusionFit where
  coefficients : List (List Rat)
  intercepts : List Rat

/-- What `LogisticRegression` is after it has been fitted. -/
structure Estimator extends FusionFit where
  classes : List Nat

def mean (xs : List Rat) : Rat := xs.sum / xs.length

/-! ## Temperature -/

def stableSoftmax (math : Elementary) (logits : List (List Rat)) : Except String (List (List Rat)) := do
  require (∀ row ∈ logits, row.length = classCount) "logits must be finite [batch, 4]"
  return logits.map (softmax math.exp)

def applyTemperature (math : Elementary) (logits : List (List Rat)) (temperature : Rat) :
    Except String (List (List Rat)) := do
  require (0 < temperature) "temperature must be finite and positive"
  stableSoftmax math (logits.map fun row => row.map fun x => x / temperature)

def linspace (lower upper : Rat) (count : Nat) : List Rat :=
  (List.range count).map fun i => lower + i * ((upper - lower) / (count - 1 : Nat))

def clip (x lower upper : Rat) : Rat := min (max x lower) upper

def loss (math : Elementary) (probabilities : List (List Rat)) (targets : List Nat) : Rat :=
  - mean ((probabilities.zip targets).map fun entry => math.log (clip (entry.1.getD entry.2 0) (1 / 1000000000000) 1))

def argmin (xs : List Rat) : Nat := argmax (xs.map fun x => -x)

structure Search where
  lower : Rat
  upper : Rat
  selected : Rat

def refine (math : Elementary) (values : List (List Rat)) (targets : List Nat) (search : Search) :
    Except String Search := do
  let candidates := (linspace search.lower search.upper 81).map math.exp
  let losses ← candidates.mapM fun item => do return loss math (← applyTemperature math values item) targets
  let selected := candidates.getD (argmin losses) 1
  let logSelected := math.log selected
  let span := (search.upper - search.lower) / 10
  return { lower := logSelected - span, upper := logSelected + span, selected }

def fitTemperature (math : Elementary) (values : List (List Rat)) (targets : List Nat) : Except String Rat := do
  require ((∀ row ∈ values, row.length = classCount) ∧ values.length = targets.length ∧ targets ≠ [])
    "calibration logits and labels are incompatible"
  require (∀ target ∈ targets, target < classCount) "calibration label is invalid"
  let search ← (List.range 5).foldlM (fun search _ => refine math values targets search) ⟨-4, 4, 1⟩
  return search.selected

/-! ## Fusion -/

/-- `np.concatenate((logits, contexts), axis=1)`. -/
def features (logits contexts : List (List Rat)) : List (List Rat) := List.zipWith (· ++ ·) logits contexts

def dot (a b : List Rat) : Rat := (List.zipWith (· * ·) a b).sum

/-- A row of `features @ coefficients.T + intercepts`. -/
def fused (coefficients : List (List Rat)) (intercepts row : List Rat) : List Rat :=
  List.zipWith (fun weights bias => dot row weights + bias) coefficients intercepts

def fitLogisticFusion (regression : List (List Rat) → List Nat → Nat → Estimator) (cameraLogits contexts : List (List Rat))
    (targets : List Nat) (seed : Nat) : Except String FusionFit := do
  require ((∀ row ∈ cameraLogits, row.length = classCount) ∧ cameraLogits.length = targets.length ∧
    (∀ row ∈ contexts, row.length = contextCount) ∧ contexts.length = targets.length)
    "fusion calibration shapes are incompatible"
  require ((∀ target ∈ targets, target < classCount) ∧ ∀ k < classCount, k ∈ targets)
    "fusion calibration requires every learned class"
  let estimator := regression (features cameraLogits contexts) targets seed
  require (estimator.classes = List.range classCount) "fusion class order is incompatible"
  return estimator.toFusionFit

def applyFusion (math : Elementary) (logits contexts : List (List Rat)) (coefficients : List (List Rat))
    (intercepts : List Rat) (temperature : Rat) : Except String (List (List Rat)) := do
  require ((∀ row ∈ logits, row.length = classCount) ∧ (∀ row ∈ contexts, row.length = contextCount) ∧
    contexts.length = logits.length) "fusion input shape is incompatible"
  require (coefficients.length = classCount ∧ (∀ weights ∈ coefficients, weights.length = classCount + contextCount) ∧
    intercepts.length = classCount) "fusion parameter shape is incompatible"
  applyTemperature math ((features logits contexts).map (fused coefficients intercepts)) temperature

/-! ## Abstention -/

structure Candidate where
  accuracy : Rat
  coverage : Rat
  threshold : Rat

def Candidate.lt (a b : Candidate) : Prop :=
  a.accuracy < b.accuracy ∨ a.accuracy = b.accuracy ∧
    (a.coverage < b.coverage ∨ a.coverage = b.coverage ∧ a.threshold < b.threshold)

instance (a b : Candidate) : Decidable (a.lt b) := inferInstanceAs (Decidable (_ ∨ _ ∧ (_ ∨ _ ∧ _)))

def share {α : Type} (rows : List α) (counts : α → Bool) : Rat := (rows.countP counts : Rat) / rows.length

def tryThreshold (rows : List (List Rat × Nat)) (minimumCoverage : Rat) (selected : Option Candidate) (threshold : Rat) :
    Option Candidate :=
  let accepted := rows.filter fun row => threshold ≤ rowMax row.1
  let coverage := share rows fun row => threshold ≤ rowMax row.1
  if coverage < minimumCoverage then selected
  else
    let candidate := ⟨share accepted fun row => argmax row.1 = row.2, coverage, threshold⟩
    match selected with
    | none => some candidate
    | some best => if best.lt candidate then some candidate else some best

/-- `select_abstention_threshold`, of rows that are not empty. -/
def selectAbstentionThreshold (probabilities : List (List Rat)) (targets : List Nat) (minimumCoverage : Rat) :
    Except String Rat := do
  require ((∀ row ∈ probabilities, row.length = classCount) ∧ probabilities.length = targets.length ∧
    0 < minimumCoverage ∧ minimumCoverage ≤ 1) "abstention calibration input is incompatible"
  let thresholds := (0 :: probabilities.map rowMax).dedup.mergeSort fun a b => decide (a ≤ b)
  let selected ← orError "no abstention threshold satisfies coverage"
    (thresholds.foldl (tryThreshold (probabilities.zip targets) minimumCoverage) none)
  return selected.threshold

/-! ## What is fitted -/

variable {math : Elementary} {values logits contexts probabilities coefficients : List (List Rat)} {targets : List Nat}
  {temperature minimumCoverage : Rat} {intercepts : List Rat}

theorem applyTemperature_ok_iff {result : List (List Rat)} : applyTemperature math values temperature = .ok result ↔
    0 < temperature ∧ (∀ row ∈ values, row.length = classCount) ∧
      result = values.map fun row => softmax math.exp (row.map fun x => x / temperature) := by
  unfold applyTemperature stableSoftmax
  simp only [bind_ok_iff, require_eq_ok, List.forall_mem_map, List.length_map, List.map_map]
  constructor
  · rintro ⟨⟨⟩, hpos, ⟨⟩, hshape, h⟩
    exact ⟨hpos, hshape, (Except.ok.inj h).symm⟩
  · rintro ⟨hpos, hshape, rfl⟩
    exact ⟨(), hpos, (), hshape, rfl⟩

theorem applyFusion_ok_iff {result : List (List Rat)} :
    applyFusion math logits contexts coefficients intercepts temperature = .ok result ↔
      ((∀ row ∈ logits, row.length = classCount) ∧ (∀ row ∈ contexts, row.length = contextCount) ∧
        contexts.length = logits.length) ∧
      (coefficients.length = classCount ∧ (∀ weights ∈ coefficients, weights.length = classCount + contextCount) ∧
        intercepts.length = classCount) ∧
      applyTemperature math ((features logits contexts).map (fused coefficients intercepts)) temperature = .ok result := by
  unfold applyFusion
  simp only [bind_ok_iff, require_eq_ok]
  constructor
  · rintro ⟨⟨⟩, hinput, ⟨⟩, hparameters, h⟩
    exact ⟨hinput, hparameters, h⟩
  · rintro ⟨hinput, hparameters, h⟩
    exact ⟨(), hinput, (), hparameters, h⟩

theorem refine_positive {search search' : Search} (h : refine math values targets search = .ok search') :
    0 < search'.selected := by
  unfold refine at h
  simp only [bind_ok_iff] at h
  obtain ⟨losses, hlosses, h⟩ := h
  cases h
  have hlength : losses.length = 81 := by
    rw [mapM_ok_length hlosses]
    simp [linspace]
  have hnonempty : losses ≠ [] := by
    rintro rfl
    cases hlength
  have hindex : argmin losses < 81 := by
    have hlt : argmax (losses.map fun x => -x) < (losses.map fun x => -x).length := argmax_lt (by simpa using hnonempty)
    rwa [List.length_map, hlength] at hlt
  have hmem : ((linspace search.lower search.upper 81).map math.exp).getD (argmin losses) 1 ∈
      (linspace search.lower search.upper 81).map math.exp := by
    rw [List.getD_eq_getElem?_getD, List.getElem?_eq_getElem (by simpa [linspace] using hindex), Option.getD_some]
    exact List.getElem_mem _
  obtain ⟨b, -, hb⟩ := (mapM_ok_mem hlosses).2 _ hmem
  obtain ⟨rows, hrows, -⟩ := bind_ok_iff.mp hb
  exact (applyTemperature_ok_iff.mp hrows).1

theorem fitTemperature_positive (h : fitTemperature math values targets = .ok temperature) : 0 < temperature := by
  unfold fitTemperature at h
  simp only [bind_ok_iff] at h
  obtain ⟨-, -, -, -, search, hsearch, h⟩ := h
  obtain rfl := Except.ok.inj h
  have hturn {steps : List Nat} {start last : Search}
      (hlast : steps.foldlM (fun search _ => refine math values targets search) start = .ok last) :
      0 < start.selected → 0 < last.selected := by
    induction steps generalizing start with
    | nil =>
      intro hstart
      rw [List.foldlM_nil] at hlast
      cases hlast
      exact hstart
    | cons step rest ih =>
      intro _
      rw [List.foldlM_cons, bind_ok_iff] at hlast
      obtain ⟨next, hnext, hlast⟩ := hlast
      exact ih hlast (refine_positive hnext)
  exact hturn hsearch (by decide)

variable {start : Option Candidate} {threshold : Rat}

theorem tryThreshold_eq_some {rows : List (List Rat × Nat)} {best : Candidate}
    (h : tryThreshold rows minimumCoverage start threshold = some best) : start = some best ∨ best.threshold = threshold := by
  unfold tryThreshold at h
  simp only at h
  by_cases hcoverage : (share rows fun row => decide (threshold ≤ rowMax row.1)) < minimumCoverage
  · rw [if_pos hcoverage] at h
    exact .inl h
  · rw [if_neg hcoverage] at h
    cases start with
    | none => exact .inr (congrArg Candidate.threshold (Option.some.inj h)).symm
    | some old =>
      simp only at h
      split at h
      · exact .inr (congrArg Candidate.threshold (Option.some.inj h)).symm
      · exact .inl h

theorem tryThreshold_isSome {rows : List (List Rat × Nat)} (h : start.isSome = true ∨ ¬ share rows (fun row => threshold ≤ rowMax row.1) < minimumCoverage) :
    (tryThreshold rows minimumCoverage start threshold).isSome = true := by
  unfold tryThreshold
  simp only
  split
  · next hlow => exact h.resolve_right (not_not.mpr hlow)
  · cases start with
    | none => rfl
    | some best =>
      simp only
      split <;> rfl

theorem foldl_tryThreshold_isSome {rows : List (List Rat × Nat)} {thresholds : List Rat}
    (h : start.isSome = true ∨
      ∃ threshold ∈ thresholds, ¬ share rows (fun row => threshold ≤ rowMax row.1) < minimumCoverage) :
    (thresholds.foldl (tryThreshold rows minimumCoverage) start).isSome = true := by
  induction thresholds generalizing start with
  | nil =>
    rcases h with h | ⟨threshold, hmem, -⟩
    · exact h
    · cases hmem
  | cons threshold rest ih =>
    rw [List.foldl_cons]
    refine ih ?_
    rcases h with h | ⟨other, hmem, hcovers⟩
    · exact .inl (tryThreshold_isSome (.inl h))
    · rcases List.mem_cons.mp hmem with rfl | hmem
      · exact .inl (tryThreshold_isSome (.inr hcovers))
      · exact .inr ⟨other, hmem, hcovers⟩

theorem selectAbstentionThreshold_mem
    (h : selectAbstentionThreshold probabilities targets minimumCoverage = .ok threshold) :
    threshold ∈ 0 :: probabilities.map rowMax := by
  unfold selectAbstentionThreshold at h
  simp only [bind_ok_iff, orError_eq_ok] at h
  obtain ⟨-, -, selected, hselected, h⟩ := h
  obtain rfl := Except.ok.inj h
  have hturn {thresholds : List Rat} {start : Option Candidate} {last : Candidate}
      (hlast : thresholds.foldl (tryThreshold (probabilities.zip targets) minimumCoverage) start = some last) :
      start = some last ∨ last.threshold ∈ thresholds := by
    induction thresholds generalizing start with
    | nil => exact .inl hlast
    | cons threshold rest ih =>
      rcases ih hlast with hbest | hmem
      · rcases tryThreshold_eq_some hbest with hstart | heq
        · exact .inl hstart
        · exact .inr (heq ▸ List.mem_cons_self)
      · exact .inr (List.mem_cons_of_mem _ hmem)
  rcases hturn hselected with hnone | hmem
  · cases hnone
  · exact List.mem_dedup.mp (List.mem_mergeSort.mp hmem)

theorem selectAbstentionThreshold_mem_unit {rows : List (List Rat)}
    (hrows : ∀ row ∈ rows, row ≠ [])
    (h : selectAbstentionThreshold (rows.map (softmax math.exp)) targets minimumCoverage = .ok threshold) :
    0 ≤ threshold ∧ threshold ≤ 1 := by
  rcases List.mem_cons.mp (selectAbstentionThreshold_mem h) with rfl | hmem
  · exact ⟨le_refl 0, zero_le_one⟩
  · rw [List.map_map] at hmem
    obtain ⟨row, hrow, rfl⟩ := List.mem_map.mp hmem
    exact rowMax_softmax_mem_unit math.exp_nonneg math.exp_zero (hrows row hrow)

end PduExamObserver.Training
