import Mathlib.Data.Prod.Lex
import Mathlib.Data.Real.Basic
import PduExamObserver.Training.Calibration

/-! # The abstention threshold is the best of all

The loop only tries zero and the confidences that occur. No real threshold that covers enough rows is more accurate on the
rows it accepts, and none that is as accurate covers more. -/

namespace PduExamObserver.Training
open Scores
set_option autoImplicit false

variable {rows : List (List Rat × Nat)} {minimumCoverage : Rat}

/-! ## What the loop keeps -/

def Candidate.key (candidate : Candidate) : Rat ×ₗ Rat ×ₗ Rat :=
  toLex (candidate.accuracy, toLex (candidate.coverage, candidate.threshold))

theorem lt_iff_key {a b : Candidate} : a.lt b ↔ a.key < b.key := by
  simp [Candidate.lt, Candidate.key, Prod.Lex.toLex_lt_toLex]

def candidateAt (rows : List (List Rat × Nat)) (threshold : Rat) : Candidate :=
  ⟨share (rows.filter fun row => threshold ≤ rowMax row.1) fun row => argmax row.1 = row.2,
    share rows fun row => threshold ≤ rowMax row.1, threshold⟩

theorem tryThreshold_of_low {start : Option Candidate} {threshold : Rat}
    (h : (candidateAt rows threshold).coverage < minimumCoverage) :
    tryThreshold rows minimumCoverage start threshold = start := by
  unfold tryThreshold
  exact if_pos h

theorem tryThreshold_of_covers (start : Option Candidate) {threshold : Rat}
    (h : ¬ (candidateAt rows threshold).coverage < minimumCoverage) :
    ∃ best, tryThreshold rows minimumCoverage start threshold = some best ∧
      (candidateAt rows threshold).key ≤ best.key ∧ (∀ old, start = some old → old.key ≤ best.key) ∧
      (best = candidateAt rows threshold ∨ start = some best) := by
  cases start with
  | none => exact ⟨candidateAt rows threshold, if_neg h, le_refl _, by simp, .inl rfl⟩
  | some old =>
    by_cases hbetter : old.lt (candidateAt rows threshold)
    · refine ⟨candidateAt rows threshold, (if_neg h).trans (if_pos hbetter), le_refl _, ?_, .inl rfl⟩
      rintro _ ⟨⟩
      exact (lt_iff_key.mp hbetter).le
    · refine ⟨old, (if_neg h).trans (if_neg hbetter), ?_, ?_, .inr rfl⟩
      · exact not_lt.mp fun hlt => hbetter (lt_iff_key.mpr hlt)
      · rintro _ ⟨⟩
        exact le_refl _

theorem foldl_tryThreshold_best {thresholds : List Rat} {start : Option Candidate} {last : Candidate}
    (h : thresholds.foldl (tryThreshold rows minimumCoverage) start = some last) :
    (∀ old, start = some old → old.key ≤ last.key) ∧
    (∀ threshold ∈ thresholds, ¬ (candidateAt rows threshold).coverage < minimumCoverage →
      (candidateAt rows threshold).key ≤ last.key) ∧
    (start = some last ∨ ∃ threshold ∈ thresholds,
      ¬ (candidateAt rows threshold).coverage < minimumCoverage ∧ last = candidateAt rows threshold) := by
  induction thresholds generalizing start with
  | nil =>
    obtain rfl : start = some last := h
    refine ⟨?_, by simp, .inl rfl⟩
    rintro _ ⟨⟩
    exact le_refl _
  | cons threshold rest ih =>
    rw [List.foldl_cons] at h
    obtain ⟨hold, hrest, hfrom⟩ := ih h
    by_cases hlow : (candidateAt rows threshold).coverage < minimumCoverage
    · rw [tryThreshold_of_low hlow] at hold hfrom
      refine ⟨hold, ?_, ?_⟩
      · intro other hmem hcovers
        rcases List.mem_cons.mp hmem with rfl | hmem
        · exact absurd hlow hcovers
        · exact hrest other hmem hcovers
      · rcases hfrom with hstart | ⟨other, hmem, hother⟩
        · exact .inl hstart
        · exact .inr ⟨other, List.mem_cons_of_mem _ hmem, hother⟩
    · obtain ⟨best, hbest, hcandidate, hkeeps, hwhich⟩ := tryThreshold_of_covers start hlow
      rw [hbest] at hold hfrom
      have hnext : best.key ≤ last.key := hold best rfl
      refine ⟨fun old hstart => (hkeeps old hstart).trans hnext, ?_, ?_⟩
      · intro other hmem hcovers
        rcases List.mem_cons.mp hmem with rfl | hmem
        · exact hcandidate.trans hnext
        · exact hrest other hmem hcovers
      · rcases hfrom with hlast | ⟨other, hmem, hother⟩
        · obtain rfl := Option.some.inj hlast
          rcases hwhich with rfl | hstart
          · exact .inr ⟨threshold, List.mem_cons_self, hlow, rfl⟩
          · exact .inl hstart
        · exact .inr ⟨other, List.mem_cons_of_mem _ hmem, hother⟩

/-! ## Real thresholds -/

noncomputable def acceptedRows (rows : List (List Rat × Nat)) (threshold : ℝ) : List (List Rat × Nat) :=
  rows.filter fun row => threshold ≤ ((rowMax row.1 : Rat) : ℝ)

noncomputable def coverageAt (rows : List (List Rat × Nat)) (threshold : ℝ) : Rat :=
  (acceptedRows rows threshold).length / rows.length

noncomputable def accuracyAt (rows : List (List Rat × Nat)) (threshold : ℝ) : Rat :=
  share (acceptedRows rows threshold) fun row => argmax row.1 = row.2

theorem acceptedRows_cast (threshold : Rat) :
    acceptedRows rows (threshold : ℝ) = rows.filter fun row => threshold ≤ rowMax row.1 := by
  refine List.filter_congr fun row _ => ?_
  exact decide_eq_decide.mpr Rat.cast_le

theorem coverageAt_cast (threshold : Rat) : coverageAt rows threshold = (candidateAt rows threshold).coverage := by
  unfold coverageAt
  rw [acceptedRows_cast, ← List.countP_eq_length_filter]
  rfl

theorem accuracyAt_cast (threshold : Rat) : accuracyAt rows threshold = (candidateAt rows threshold).accuracy := by
  unfold accuracyAt candidateAt
  rw [acceptedRows_cast]

theorem exists_confidence {threshold : ℝ} (h : acceptedRows rows threshold ≠ []) :
    ∃ row ∈ rows, acceptedRows rows threshold = acceptedRows rows ((rowMax row.1 : Rat) : ℝ) := by
  have hnonempty : (acceptedRows rows threshold).toFinset.Nonempty := List.toFinset_nonempty_iff _ |>.mpr h
  obtain ⟨row, hrow, hleast⟩ := (acceptedRows rows threshold).toFinset.exists_min_image (fun row => rowMax row.1) hnonempty
  have haccepted := List.mem_toFinset.mp hrow
  obtain ⟨hmem, hreach⟩ := List.mem_filter.mp haccepted
  refine ⟨row, hmem, List.filter_congr fun other hother => ?_⟩
  refine decide_eq_decide.mpr ⟨fun hover => ?_, fun hover => (of_decide_eq_true hreach).trans hover⟩
  have hleft := hleast other (List.mem_toFinset.mpr (List.mem_filter.mpr ⟨hother, decide_eq_true hover⟩))
  exact_mod_cast hleft

theorem accepted_ne_nil {threshold : ℝ} (hpos : 0 < minimumCoverage) (h : minimumCoverage ≤ coverageAt rows threshold) :
    acceptedRows rows threshold ≠ [] := by
  intro hnil
  have hzero : coverageAt rows threshold = 0 := by
    unfold coverageAt
    rw [hnil, List.length_nil, Nat.cast_zero, zero_div]
  exact absurd h (by rw [hzero]; exact not_le.mpr hpos)

theorem exists_full_coverage (hnonempty : rows ≠ []) : ∃ row ∈ rows, (candidateAt rows (rowMax row.1)).coverage = 1 := by
  obtain ⟨row, hrow, hleast⟩ := rows.toFinset.exists_min_image (fun row => rowMax row.1)
    (List.toFinset_nonempty_iff _ |>.mpr hnonempty)
  refine ⟨row, List.mem_toFinset.mp hrow, ?_⟩
  have hall : rows.countP (fun other => decide (rowMax row.1 ≤ rowMax other.1)) = rows.length :=
    List.countP_eq_length.mpr fun other hother => decide_eq_true (hleast other (List.mem_toFinset.mpr hother))
  unfold candidateAt share
  simp only
  rw [hall]
  exact div_self (by exact_mod_cast (List.length_pos_iff.mpr hnonempty).ne')

/-! ## The selected threshold -/

theorem selectAbstentionThreshold_optimal (probabilities : List (List Rat)) (targets : List Nat) (minimumCoverage : Rat)
    (hshape : ∀ row ∈ probabilities, row.length = classCount) (hlength : probabilities.length = targets.length)
    (hnonempty : targets ≠ []) (hpos : 0 < minimumCoverage) (hone : minimumCoverage ≤ 1) :
    ∃ threshold : Rat, selectAbstentionThreshold probabilities targets minimumCoverage = .ok threshold ∧
      minimumCoverage ≤ coverageAt (probabilities.zip targets) threshold ∧
      ∀ other : ℝ, minimumCoverage ≤ coverageAt (probabilities.zip targets) other →
        accuracyAt (probabilities.zip targets) other < accuracyAt (probabilities.zip targets) threshold ∨
        accuracyAt (probabilities.zip targets) other = accuracyAt (probabilities.zip targets) threshold ∧
          coverageAt (probabilities.zip targets) other ≤ coverageAt (probabilities.zip targets) threshold := by
  have htried : ∀ row ∈ probabilities.zip targets,
      rowMax row.1 ∈ (0 :: probabilities.map rowMax).dedup.mergeSort fun a b => decide (a ≤ b) := by
    intro row hrow
    refine List.mem_mergeSort.mpr (List.mem_dedup.mpr (List.mem_cons_of_mem _ ?_))
    exact List.mem_map_of_mem (List.of_mem_zip hrow).1
  have hrows : probabilities.zip targets ≠ [] := by
    rw [← List.length_pos_iff, List.length_zip, hlength, Nat.min_self]
    exact List.length_pos_iff.mpr hnonempty
  -- some threshold is selected
  obtain ⟨row, hrow, hfull⟩ := exists_full_coverage hrows
  have hsome := @foldl_tryThreshold_isSome minimumCoverage none (probabilities.zip targets) _
    (.inr ⟨rowMax row.1, htried row hrow, not_lt.mpr (hone.trans_eq hfull.symm)⟩)
  obtain ⟨last, hlast⟩ := Option.isSome_iff_exists.mp hsome
  obtain ⟨-, hbest, hfrom⟩ := foldl_tryThreshold_best hlast
  obtain hnone | ⟨threshold, -, hcovers, rfl⟩ := hfrom
  · cases hnone
  refine ⟨threshold, ?_, ?_, ?_⟩
  · unfold selectAbstentionThreshold
    simp only [bind_ok_iff, require_eq_ok, orError_eq_ok]
    exact ⟨(), ⟨hshape, hlength, hpos, hone⟩, candidateAt (probabilities.zip targets) threshold, hlast, rfl⟩
  · rw [coverageAt_cast]
    exact not_lt.mp hcovers
  · intro other hother
    obtain ⟨row, hrow, hsame⟩ := exists_confidence (accepted_ne_nil hpos hother)
    have haccuracy : accuracyAt (probabilities.zip targets) other =
        (candidateAt (probabilities.zip targets) (rowMax row.1)).accuracy := by
      rw [← accuracyAt_cast]
      unfold accuracyAt
      rw [hsame]
    have hcoverage : coverageAt (probabilities.zip targets) other =
        (candidateAt (probabilities.zip targets) (rowMax row.1)).coverage := by
      rw [← coverageAt_cast]
      unfold coverageAt
      rw [hsame]
    rw [hcoverage] at hother
    have hkey := hbest (rowMax row.1) (htried row hrow) (not_lt.mpr hother)
    rw [haccuracy, hcoverage, accuracyAt_cast, coverageAt_cast]
    rcases Prod.Lex.toLex_le_toLex.mp hkey with hless | ⟨heq, hrest⟩
    · exact .inl hless
    · refine .inr ⟨heq, ?_⟩
      rcases Prod.Lex.toLex_le_toLex.mp hrest with hless | ⟨hsame, -⟩
      · exact hless.le
      · exact hsame.le

theorem selectAbstentionThreshold_optimal_pair : ∃ threshold : Rat,
    selectAbstentionThreshold [[9 / 10, 1 / 10, 0, 0], [2 / 5, 3 / 10, 1 / 5, 1 / 10]] [0, 1] (1 / 2) = .ok threshold ∧
      1 / 2 ≤ coverageAt [([9 / 10, 1 / 10, 0, 0], 0), ([2 / 5, 3 / 10, 1 / 5, 1 / 10], 1)] threshold := by
  obtain ⟨threshold, hselected, hcovers, -⟩ := selectAbstentionThreshold_optimal
    [[9 / 10, 1 / 10, 0, 0], [2 / 5, 3 / 10, 1 / 5, 1 / 10]] [0, 1] (1 / 2) (by decide) rfl (by decide) (by norm_num)
    (by norm_num)
  exact ⟨threshold, hselected, hcovers⟩

end PduExamObserver.Training
