import PduExamObserver.D1Contract.Verdicts
import PduExamObserver.Synthetic.Timing

/-! # Where the evaluator agrees with the runner on timing

`clash` is what the evaluator objects to in frames that the runner has let pass. The evaluator's scan of a run is the
first clash, if there is one before the first rejection of the runner, and otherwise that rejection. -/

namespace PduExamObserver.Synthetic
open D1Contract
set_option autoImplicit false

variable {setup : Setup} {runner : SyntheticRunner} {request : SyntheticRequest} {core : SyntheticCore}
  {bindings : SyntheticEnvironmentBindings} {memory : Memory} {answers : Nat → FrameAnswers}
  {observed : TechnicalObservation} {observations : List TechnicalObservation} {validation : ValidationInput}
  {lastCaptured lastProcessed previous : Option Int} {items : List Observation}

/-! ## The scan -/

/-- The first capture after the end of the run, or processing at the time of the one before, of the frames up to the
first that the runner has rejected. -/
def clash (runEnd : Int) : Option Int → List TechnicalObservation → Option D1FailureCode
  | _, [] => none
  | previous, observed :: rest =>
    if runEnd < observed.capturedMonotonicNs then some .schemaIncompatible
    else if observed.rejection ≠ none then none
    else if observed.processingState = .processed then
      if observed.processedMonotonicNs.any fun time => previous.any (time ≤ ·) then some .clockRegression
      else clash runEnd observed.processedMonotonicNs rest
    else clash runEnd previous rest

def Near (left right : Int) : Prop := |right - left| < 1000000000

instance : DecidableRel Near := fun _ _ => inferInstanceAs (Decidable (_ < _))

variable {captured : Int} {code : D1FailureCode} {item : Observation} {rest : List TechnicalObservation}

theorem checkCapture_accepted (haccepted : Accepts lastCaptured captured)
    (hnear : ∀ last ∈ lastCaptured, Near last captured) : checkCapture lastCaptured captured = .ok () := by
  unfold checkCapture
  cases lastCaptured with
  | none => rfl
  | some last =>
    have hlater : last < captured := haccepted.later last rfl
    have hclose : |captured - last| < 1000000000 := hnear last rfl
    rw [abs_lt] at hclose
    dsimp only
    rw [if_neg (by omega), if_neg (by omega), if_neg (by omega)]

theorem checkObservation_rejected (hobservation : item.isObservation = true) (hkind : item.sourceKind = some validation.inputKind)
    (hcaptured : item.capturedMonotonicNs = .int captured) (hquality : item.qualityInsufficient = .bool false)
    (hend : captured ≤ validation.plan.runEndMonotonicNs) (hcode : Rejects lastCaptured captured code) :
    checkObservation validation lastCaptured previous item = .error code := by
  rw [checkObservation_eq hobservation hkind hcaptured hquality (fun h => by cases h)]
  cases hcode with
  | negative h =>
    have hout : require (0 ≤ captured ∧ captured ≤ validation.plan.runEndMonotonicNs)
        D1FailureCode.schemaIncompatible = .error .schemaIncompatible := if_neg (by omega)
    rw [hout]
    rfl
  | regressed h last hlast hlt =>
    have hin : require (0 ≤ captured ∧ captured ≤ validation.plan.runEndMonotonicNs)
        D1FailureCode.schemaIncompatible = .ok () := if_pos ⟨h, hend⟩
    have hcapture : checkCapture lastCaptured captured = .error .clockRegression := by
      unfold checkCapture
      rw [hlast]
      dsimp only
      rw [if_neg (by omega), if_pos hlt]
    rw [hin, hcapture]
    rfl
  | stalled h hlast =>
    have hin : require (0 ≤ captured ∧ captured ≤ validation.plan.runEndMonotonicNs)
        D1FailureCode.schemaIncompatible = .ok () := if_pos ⟨h, hend⟩
    have hcapture : checkCapture lastCaptured captured = .error .frameStalled := by
      unfold checkCapture
      rw [hlast]
      exact if_pos rfl
    rw [hin, hcapture]
    rfl

theorem checkObservation_accepted {quality : Bool}
    (hobservation : item.isObservation = true) (hkind : item.sourceKind = some validation.inputKind)
    (hcaptured : item.capturedMonotonicNs = .int captured) (hquality : item.qualityInsufficient = .bool quality)
    (hdisposition : quality = true → item.disposition = some .processed)
    (hend : captured ≤ validation.plan.runEndMonotonicNs) (haccepted : Accepts lastCaptured captured)
    (hnear : ∀ last ∈ lastCaptured, Near last captured) :
    checkObservation validation lastCaptured previous item =
      (checkDisposition validation previous captured item >>= fun processed => .ok (captured, processed)) := by
  have hin : require (0 ≤ captured ∧ captured ≤ validation.plan.runEndMonotonicNs)
      D1FailureCode.schemaIncompatible = .ok () := if_pos ⟨haccepted.nonneg, hend⟩
  rw [checkObservation_eq hobservation hkind hcaptured hquality hdisposition, hin,
    checkCapture_accepted haccepted hnear]
  rfl

theorem checkObservation_late {quality : Bool}
    (hobservation : item.isObservation = true) (hkind : item.sourceKind = some validation.inputKind)
    (hcaptured : item.capturedMonotonicNs = .int captured) (hquality : item.qualityInsufficient = .bool quality)
    (hdisposition : quality = true → item.disposition = some .processed)
    (hend : validation.plan.runEndMonotonicNs < captured) :
    checkObservation validation lastCaptured previous item = .error .schemaIncompatible := by
  have hout : require (0 ≤ captured ∧ captured ≤ validation.plan.runEndMonotonicNs)
      D1FailureCode.schemaIncompatible = .error .schemaIncompatible := if_neg (by omega)
  rw [checkObservation_eq hobservation hkind hcaptured hquality hdisposition, hout]
  rfl

/-! ## The scan of a run -/

theorem rejects_mem (h : Rejects lastCaptured captured code) :
    code ∈ [D1FailureCode.schemaIncompatible, .clockRegression, .frameStalled] := by
  cases h with
  | negative h => simp
  | regressed h last hlast hlt => simp
  | stalled h hlast => simp

theorem rejection_of_rejects (h : Rejects lastCaptured captured code)
    (hstate : observed.processingState = .failed) (hprocessed : observed.processedMonotonicNs = none)
    (hfailure : observed.failureCode = some code) : observed.rejection = some code := by
  have hmem := rejects_mem h
  unfold TechnicalObservation.rejection
  rw [if_pos ⟨hstate, hprocessed⟩, hfailure]
  simp only [Option.filter_some, hmem, decide_true, if_true]

theorem checkDisposition_failed {kind : InputKind} :
    checkDisposition validation previous captured (failedItem kind observed code) = .ok previous := by
  rfl

theorem checkDisposition_processed {kind : InputKind} {time : Int} (hordered : observed.capturedMonotonicNs ≤ time)
    (hend : time ≤ validation.plan.runEndMonotonicNs) :
    checkDisposition validation previous observed.capturedMonotonicNs (processedItem kind observed time) =
      if previous.any (time ≤ ·) then .error .clockRegression else .ok (some time) := by
  have hplain : ¬ (time < observed.capturedMonotonicNs ∨ validation.plan.runEndMonotonicNs < time ∨
      (processedItem kind observed time).failureCode ≠ .none ∨ (processedItem kind observed time).dropReason ≠ .none) := by
    simp only [processedItem, ne_eq, not_true_eq_false, or_false, not_or, not_lt]
    exact ⟨hordered, hend⟩
  change (if _ then _ else _) = _
  rw [if_neg hplain]

/-- The readings of frames after one captured at `last`, each captured less than a second from the one before. -/
def NearRun (last : Option Int) (observations : List TechnicalObservation) : Prop :=
  (last.toList ++ observations.map TechnicalObservation.capturedMonotonicNs).IsChain Near

theorem nearRun_cons (h : NearRun lastCaptured (observed :: rest)) :
    (∀ last ∈ lastCaptured, Near last observed.capturedMonotonicNs) ∧
      NearRun (some observed.capturedMonotonicNs) rest := by
  cases lastCaptured with
  | none =>
    refine ⟨fun last hlast => ?_, h⟩
    cases hlast
  | some last =>
    obtain ⟨hnear, hrest⟩ := List.isChain_cons_cons.mp h
    refine ⟨fun other hother => ?_, hrest⟩
    cases hother
    exact hnear

theorem clash_processed {runEnd time : Int}
    (hend : observed.capturedMonotonicNs ≤ runEnd) (hrejection : observed.rejection = none)
    (hstate : observed.processingState = .processed) (htime : observed.processedMonotonicNs = some time) :
    clash runEnd previous (observed :: rest) =
      if previous.any (time ≤ ·) then some .clockRegression else clash runEnd (some time) rest := by
  rw [clash, if_neg (not_lt.mpr hend), if_neg (not_not.mpr hrejection), if_pos hstate, htime, Option.any_some]

theorem observationsFailure_eq (hframes : Frames lastCaptured lastProcessed observations)
    (hmap : observations.mapM mapTechnicalObservation = .ok items)
    (hkind : ∀ item ∈ items, item.sourceKind = some validation.inputKind)
    (hend : ∀ observed ∈ observations, observed.processingState = .processed →
      ∀ time ∈ observed.processedMonotonicNs, time ≤ validation.plan.runEndMonotonicNs)
    (hnear : NearRun lastCaptured observations) :
    observationsFailure validation lastCaptured previous items =
      (clash validation.plan.runEndMonotonicNs previous observations).or
        (observations.findSome? TechnicalObservation.rejection) := by
  induction hframes generalizing previous items with
  | nil =>
    cases hmap
    rfl
  | @rejected lastCaptured lastProcessed observed rest code hcode hstate hprocessed hfailure hrest ih =>
    rw [List.mapM_cons] at hmap
    obtain ⟨item, hitem, hmap⟩ := bind_ok_iff.mp hmap
    obtain ⟨others, hothers, hmap⟩ := bind_ok_iff.mp hmap
    cases hmap
    obtain ⟨kind, rfl⟩ := map_failed hstate hfailure hitem
    have hright := hkind _ List.mem_cons_self
    have hrejection := rejection_of_rejects hcode hstate hprocessed hfailure
    unfold observationsFailure clash
    rw [List.findSome?_cons, hrejection]
    by_cases hlate : validation.plan.runEndMonotonicNs < observed.capturedMonotonicNs
    · rw [checkObservation_late rfl hright rfl rfl (fun h => by cases h) hlate, if_pos hlate]
      rfl
    · rw [checkObservation_rejected rfl hright rfl rfl (by omega) hcode, if_neg hlate, if_pos (by simp)]
      rfl
  | @failed lastCaptured lastProcessed observed rest code next haccepted hstate hfailure hrejection hnext hrest ih =>
    rw [List.mapM_cons] at hmap
    obtain ⟨item, hitem, hmap⟩ := bind_ok_iff.mp hmap
    obtain ⟨others, hothers, hmap⟩ := bind_ok_iff.mp hmap
    cases hmap
    obtain ⟨kind, rfl⟩ := map_failed hstate hfailure hitem
    have hright := hkind _ List.mem_cons_self
    obtain ⟨hfirst, hlater⟩ := nearRun_cons hnear
    unfold observationsFailure clash
    rw [List.findSome?_cons, hrejection]
    by_cases hlate : validation.plan.runEndMonotonicNs < observed.capturedMonotonicNs
    · rw [checkObservation_late rfl hright rfl rfl (fun h => by cases h) hlate, if_pos hlate]
      rfl
    · rw [checkObservation_accepted rfl hright rfl rfl (fun h => by cases h) (by omega) haccepted hfirst,
        checkDisposition_failed, ok_bind, if_neg hlate, if_neg (by simp), if_neg (by rw [hstate]; decide)]
      exact ih hothers (fun item hitem => hkind item (List.mem_cons_of_mem _ hitem))
        (fun other hother => hend other (List.mem_cons_of_mem _ hother)) hlater
  | @processed lastCaptured lastProcessed observed rest time haccepted hstate htime hordered hafter hquality hrest ih =>
    rw [List.mapM_cons] at hmap
    obtain ⟨item, hitem, hmap⟩ := bind_ok_iff.mp hmap
    obtain ⟨others, hothers, hmap⟩ := bind_ok_iff.mp hmap
    cases hmap
    obtain ⟨kind, rfl⟩ := map_processed hstate htime hitem
    have hright := hkind _ List.mem_cons_self
    obtain ⟨hfirst, hlater⟩ := nearRun_cons hnear
    have hrejection : observed.rejection = none := by
      unfold TechnicalObservation.rejection
      rw [if_neg (by rw [hstate]; simp)]
    have htimeEnd : time ≤ validation.plan.runEndMonotonicNs := hend observed List.mem_cons_self hstate time htime
    have hcapturedEnd : observed.capturedMonotonicNs ≤ validation.plan.runEndMonotonicNs := hordered.trans htimeEnd
    unfold observationsFailure
    rw [List.findSome?_cons, hrejection, clash_processed hcapturedEnd hrejection hstate htime,
      checkObservation_accepted rfl hright rfl rfl (fun _ => rfl) hcapturedEnd haccepted hfirst,
      checkDisposition_processed hordered htimeEnd]
    by_cases hsame : previous.any (time ≤ ·) = true
    · rw [if_pos hsame, if_pos hsame]
      rfl
    · rw [if_neg hsame, if_neg hsame]
      exact ih hothers (fun item hitem => hkind item (List.mem_cons_of_mem _ hitem))
        (fun other hother => hend other (List.mem_cons_of_mem _ hother)) hlater

end PduExamObserver.Synthetic
