import PduExamObserver.D1Contract.Verification
import PduExamObserver.Synthetic.Integration

/-! # The two timing checks of a synthetic run

The runner checks the readings of the clock frame by frame, the evaluator checks those of the mapped observations.
`Frames` is what the runner reports, and the evaluator is compared with it. -/

namespace PduExamObserver.Synthetic
open D1Contract
set_option autoImplicit false

variable {setup : Setup} {runner : SyntheticRunner} {request : SyntheticRequest} {fixture : FixtureInput}
  {definition : FixtureDefinition} {memory : Memory} {observed : TechnicalObservation}
  {observations : List TechnicalObservation}

/-! ## What the runner reports -/

def TechnicalObservation.rejection (observed : TechnicalObservation) : Option TechnicalFailureCode :=
  if observed.processingState = .failed ∧ observed.processedMonotonicNs = none then
    observed.failureCode.filter fun code => code ∈ [.schemaIncompatible, .clockRegression, .frameStalled]
  else none

/-- The runner rejects a capture at `captured` after one at `last`. -/
inductive Rejects (last : Option Int) (captured : Int) : TechnicalFailureCode → Prop
  | negative (h : captured < 0) : Rejects last captured .schemaIncompatible
  | regressed (h : 0 ≤ captured) (previous : Int) (hlast : last = some previous) (hlt : captured < previous) :
      Rejects last captured .clockRegression
  | stalled (h : 0 ≤ captured) (hlast : last = some captured) : Rejects last captured .frameStalled

/-- The runner accepts a capture at `captured` after one at `last`. -/
structure Accepts (last : Option Int) (captured : Int) : Prop where
  nonneg : 0 ≤ captured
  later : ∀ previous ∈ last, previous < captured

variable {captured : Int} {accepted : Memory} {item : Observation}

theorem captureTimingFailure_none (h : captureTimingFailure fixture memory captured = none) :
    Accepts (memory.lastCapturedNs fixture.runId) captured := by
  unfold captureTimingFailure at h
  split at h
  · cases h
  rename_i hnonneg
  split at h
  · rename_i hlast
    exact ⟨by omega, by simp [hlast]⟩
  · rename_i previous hlast
    split at h
    · cases h
    · split at h
      · cases h
      · refine ⟨by omega, ?_⟩
        intro other hother
        rw [hlast] at hother
        cases hother
        omega

theorem captureTimingFailure_some {code : TechnicalFailureCode}
    (h : captureTimingFailure fixture memory captured = some code) :
    Rejects (memory.lastCapturedNs fixture.runId) captured code := by
  unfold captureTimingFailure at h
  split at h
  · cases h
    exact .negative ‹_›
  rename_i hnonneg
  split at h
  · cases h
  · rename_i previous hlast
    split at h
    · cases h
      exact .regressed (by omega) previous hlast ‹_›
    · split at h
      · rename_i hsame
        cases h
        exact .stalled (by omega) (by rw [hlast, hsame])
      · cases h

theorem processingTimingFailure_none {processed : Int}
    (h : processingTimingFailure fixture memory captured processed = none) :
    captured ≤ processed ∧ ∀ previous ∈ memory.lastProcessedNs fixture.runId, previous ≤ processed := by
  unfold processingTimingFailure at h
  split at h
  · cases h
  rename_i hordered
  split at h
  · cases h
  rename_i hlater
  refine ⟨by omega, ?_⟩
  intro previous hprevious
  rw [Option.mem_def.mp hprevious] at hlater
  simpa using hlater

/-- What the runner reports of the frames of a run, after a capture at `lastCaptured` and a processing at
`lastProcessed`. -/
inductive Frames : Option Int → Option Int → List TechnicalObservation → Prop
  | nil {lastCaptured lastProcessed : Option Int} : Frames lastCaptured lastProcessed []
  | rejected {lastCaptured lastProcessed : Option Int} {observed : TechnicalObservation}
      {rest : List TechnicalObservation} (code : TechnicalFailureCode)
      (hcode : Rejects lastCaptured observed.capturedMonotonicNs code) (hstate : observed.processingState = .failed)
      (hprocessed : observed.processedMonotonicNs = none) (hfailure : observed.failureCode = some code)
      (hrest : Frames lastCaptured lastProcessed rest) : Frames lastCaptured lastProcessed (observed :: rest)
  | failed {lastCaptured lastProcessed : Option Int} {observed : TechnicalObservation}
      {rest : List TechnicalObservation} (code : TechnicalFailureCode) (next : Option Int)
      (haccepted : Accepts lastCaptured observed.capturedMonotonicNs) (hstate : observed.processingState = .failed)
      (hfailure : observed.failureCode = some code) (hrejection : observed.rejection = none)
      (hnext : ∀ previous ∈ lastProcessed, ∃ time ∈ next, previous ≤ time)
      (hrest : Frames (some observed.capturedMonotonicNs) next rest) :
      Frames lastCaptured lastProcessed (observed :: rest)
  | processed {lastCaptured lastProcessed : Option Int} {observed : TechnicalObservation}
      {rest : List TechnicalObservation} (time : Int)
      (haccepted : Accepts lastCaptured observed.capturedMonotonicNs)
      (hstate : observed.processingState = .processed) (htime : observed.processedMonotonicNs = some time)
      (hordered : observed.capturedMonotonicNs ≤ time) (hlater : ∀ previous ∈ lastProcessed, previous ≤ time)
      (hquality : observed.qualityState = .insufficient ∧ observed.failureCode = some .qualityInsufficient ∨
        observed.qualityState = .valid ∧ observed.failureCode = none)
      (hrest : Frames (some observed.capturedMonotonicNs) (some time) rest) :
      Frames lastCaptured lastProcessed (observed :: rest)

structure Goes (fixture : FixtureInput) (memory : Memory) (turn : TechnicalObservation × Memory) : Prop where
  frameSeq : turn.2.lastFrameSeq fixture.runId = memory.lastFrameSeq fixture.runId ∨
    turn.2.lastFrameSeq fixture.runId = some fixture.frameSeq
  frames : ∀ rest,
    Frames (turn.2.lastCapturedNs fixture.runId) (turn.2.lastProcessedNs fixture.runId) rest →
    Frames (memory.lastCapturedNs fixture.runId) (memory.lastProcessedNs fixture.runId) (turn.1 :: rest)

theorem failure_rejection_none {code : TechnicalFailureCode} {processed : Option Int}
    (h : processed ≠ none ∨ code ∉ [.schemaIncompatible, .clockRegression, .frameStalled]) :
    (failure setup runner fixture definition code captured processed).rejection = none := by
  unfold TechnicalObservation.rejection
  split
  · rename_i hrejected
    rcases h with h | h
    · exact absurd hrejected.right h
    · simpa [failure, observation, Option.filter] using h
  · rfl

theorem goes_failed {processed : Option Int} {code : TechnicalFailureCode}
    (haccepted : Accepts (memory.lastCapturedNs fixture.runId) captured)
    (hseq : accepted.lastFrameSeq fixture.runId = some fixture.frameSeq)
    (hcaptured : accepted.lastCapturedNs fixture.runId = some captured)
    (hcode : processed ≠ none ∨ code ∉ [.schemaIncompatible, .clockRegression, .frameStalled])
    (hnext : ∀ previous ∈ memory.lastProcessedNs fixture.runId,
      ∃ time ∈ accepted.lastProcessedNs fixture.runId, previous ≤ time) :
    Goes fixture memory (failure setup runner fixture definition code captured processed, accepted) := by
  refine ⟨.inr hseq, fun rest hrest => ?_⟩
  rw [hcaptured] at hrest
  exact .failed code _ haccepted rfl rfl (failure_rejection_none hcode) hnext hrest

theorem finishPose_goes {pose : PoseResult} {processed : Int}
    (haccepted : Accepts (memory.lastCapturedNs fixture.runId) captured)
    (hseq : accepted.lastFrameSeq fixture.runId = some fixture.frameSeq)
    (hcaptured : accepted.lastCapturedNs fixture.runId = some captured)
    (hprocessed : accepted.lastProcessedNs fixture.runId = some processed) (hordered : captured ≤ processed)
    (hlater : ∀ previous ∈ memory.lastProcessedNs fixture.runId, previous ≤ processed) :
    Goes fixture memory (finishPose setup runner fixture definition pose captured processed, accepted) := by
  have hnext : ∀ previous ∈ memory.lastProcessedNs fixture.runId,
      ∃ time ∈ accepted.lastProcessedNs fixture.runId, previous ≤ time := fun previous hprevious =>
    ⟨processed, hprocessed, hlater previous hprevious⟩
  have hfailed : ∀ code,
      Goes fixture memory (failure setup runner fixture definition code captured (some processed), accepted) :=
    fun code => goes_failed haccepted hseq hcaptured (.inl (by simp)) hnext
  unfold finishPose
  split
  · exact hfailed _
  · split
    · exact hfailed _
    · dsimp only
      split
      · refine ⟨.inr hseq, fun rest hrest => ?_⟩
        dsimp only at hrest
        rw [hcaptured, hprocessed] at hrest
        exact .processed processed haccepted rfl rfl hordered hlater (.inl ⟨rfl, rfl⟩) hrest
      · split
        · exact hfailed _
        · refine ⟨.inr hseq, fun rest hrest => ?_⟩
          dsimp only at hrest
          rw [hcaptured, hprocessed] at hrest
          exact .processed processed haccepted rfl rfl hordered hlater (.inr ⟨rfl, rfl⟩) hrest

theorem processCaptured_goes {answers : FrameAnswers}
    (haccepted : Accepts (memory.lastCapturedNs fixture.runId) answers.capturedNs)
    (hseq : accepted.lastFrameSeq fixture.runId = some fixture.frameSeq)
    (hcaptured : accepted.lastCapturedNs fixture.runId = some answers.capturedNs)
    (hprocessed : accepted.lastProcessedNs = memory.lastProcessedNs) :
    Goes fixture memory (processCaptured setup runner fixture definition accepted answers) := by
  have hsame : ∀ previous ∈ memory.lastProcessedNs fixture.runId,
      ∃ time ∈ accepted.lastProcessedNs fixture.runId, previous ≤ time := fun previous hprevious =>
    ⟨previous, by rw [hprocessed]; exact hprevious, le_refl previous⟩
  unfold processCaptured
  dsimp only
  split
  · exact goes_failed haccepted hseq hcaptured (.inr (by decide)) hsame
  · exact goes_failed haccepted hseq hcaptured (.inr (by decide)) hsame
  · split
    · exact goes_failed haccepted hseq hcaptured (.inr (by decide)) hsame
    · split
      · exact goes_failed haccepted hseq hcaptured (.inr (by decide)) hsame
      · exact goes_failed haccepted hseq hcaptured (.inr (by decide)) hsame
      · exact goes_failed haccepted hseq hcaptured (.inr (by decide)) hsame
      · split
        · exact goes_failed haccepted hseq hcaptured (.inl (by simp)) hsame
        · rename_i htiming
          obtain ⟨hordered, hlater⟩ := processingTimingFailure_none htiming
          refine finishPose_goes haccepted hseq hcaptured (by simp) hordered ?_
          rwa [hprocessed] at hlater

theorem observe_goes {answers : FrameAnswers} (hnonneg : 0 ≤ fixture.frameSeq)
    (hseq : ∀ previous ∈ memory.lastFrameSeq fixture.runId, previous < fixture.frameSeq) :
    Goes fixture memory (observe setup runner fixture definition memory answers) := by
  have hnumber : ¬ (fixture.frameSeq < 0 ∨ (memory.lastFrameSeq fixture.runId).any (fixture.frameSeq ≤ ·) = true) := by
    rintro (hnegative | hany)
    · omega
    · cases hlast : memory.lastFrameSeq fixture.runId with
      | none => simp [hlast] at hany
      | some previous =>
        have hlt := hseq previous hlast
        simp only [hlast, Option.any_some, decide_eq_true_eq] at hany
        omega
  unfold observe
  rw [if_neg hnumber]
  split
  · rename_i code hcode
    refine ⟨.inl rfl, fun rest hrest => ?_⟩
    exact .rejected code (captureTimingFailure_some hcode) rfl rfl rfl hrest
  · rename_i hnone
    exact processCaptured_goes (captureTimingFailure_none hnone) (by simp) (by simp) rfl

theorem process_ok {answers : FrameAnswers} {turn : TechnicalObservation × Memory}
    (h : process setup runner fixture memory answers = .ok turn) :
    ∃ definition, turn = observe setup runner fixture definition memory answers := by
  unfold process at h
  obtain ⟨definition, -, h⟩ := bind_ok_iff.mp h
  obtain ⟨-, -, h⟩ := bind_ok_iff.mp h
  obtain ⟨-, -, h⟩ := bind_ok_iff.mp h
  cases h
  exact ⟨definition, rfl⟩

theorem runFixtures_frames {fixtures : List FixtureInput} {answers : Nat → FrameAnswers} {previous : Int}
    {seen : List (String × String)} (hvalid : fixturesAreValid request.runId previous seen fixtures = true)
    (hprevious : -1 ≤ previous) (hseq : ∀ last ∈ memory.lastFrameSeq request.runId, last ≤ previous)
    (h : runFixtures setup runner request answers memory fixtures = .ok observations) :
    Frames (memory.lastCapturedNs request.runId) (memory.lastProcessedNs request.runId) observations := by
  induction fixtures generalizing memory answers previous seen observations with
  | nil =>
    cases h
    exact .nil
  | cons fixture rest ih =>
    simp only [fixturesAreValid, Bool.and_eq_true, beq_iff_eq, decide_eq_true_eq] at hvalid
    obtain ⟨⟨⟨hrun, hgrows⟩, -⟩, hrest⟩ := hvalid
    rw [← hrun] at hseq ih ⊢
    unfold runFixtures at h
    split at h
    · cases h
    rename_i observed next hprocess
    obtain ⟨-, -, h⟩ := bind_ok_iff.mp h
    obtain ⟨others, hothers, h⟩ := bind_ok_iff.mp h
    cases h
    obtain ⟨definition, hturn⟩ := process_ok hprocess
    have hgoes : Goes fixture memory (observe setup runner fixture definition memory (answers 0)) :=
      observe_goes (by omega) fun last hlast => by
        have := hseq last hlast
        omega
    rw [← hturn] at hgoes
    refine hgoes.frames others (ih (hrun ▸ hrest) (by omega) ?_ hothers)
    intro last hlast
    rcases hgoes.frameSeq with hsame | hnew
    · rw [hsame] at hlast
      have := hseq last hlast
      omega
    · rw [hnew] at hlast
      cases hlast
      exact le_refl _

/-! ## What the evaluator is given -/

def processedItem (kind : InputKind) (observed : TechnicalObservation) (time : Int) : Observation where
  sourceKind := some kind
  capturedMonotonicNs := .int observed.capturedMonotonicNs
  processedMonotonicNs := .int time
  disposition := some .processed
  qualityInsufficient := .bool
    (observed.qualityState = .insufficient ∨ observed.failureCode = some .qualityInsufficient)
  failureCode := .none
  dropReason := .none

def failedItem (kind : InputKind) (observed : TechnicalObservation) (code : D1FailureCode) : Observation where
  sourceKind := some kind
  capturedMonotonicNs := .int observed.capturedMonotonicNs
  processedMonotonicNs := .null
  disposition := some .failed
  qualityInsufficient := .bool false
  failureCode := .code code
  dropReason := .none

theorem map_processed {time : Int} (hstate : observed.processingState = .processed)
    (htime : observed.processedMonotonicNs = some time) (h : mapTechnicalObservation observed = .ok item) :
    ∃ kind, item = processedItem kind observed time := by
  obtain ⟨kind, hkind, h⟩ := bind_ok_iff.mp h
  rw [hstate] at h
  obtain ⟨-, -, h⟩ := bind_ok_iff.mp h
  cases h
  rw [htime]
  exact ⟨kind, rfl⟩

theorem map_failed {code : D1FailureCode} (hstate : observed.processingState = .failed)
    (hcode : observed.failureCode = some code) (h : mapTechnicalObservation observed = .ok item) :
    ∃ kind, item = failedItem kind observed code := by
  obtain ⟨kind, hkind, h⟩ := bind_ok_iff.mp h
  rw [hstate] at h
  obtain ⟨found, hfound, h⟩ := bind_ok_iff.mp h
  rw [hcode, orError_eq_ok] at hfound
  cases hfound
  cases h
  exact ⟨kind, rfl⟩

/-! ## The evaluator's scan -/

variable {validation : ValidationInput} {previousCapture previousProcessed : Option Int}

theorem checkObservation_eq {quality : Bool}
    (hobservation : item.isObservation = true) (hkind : item.sourceKind = some validation.inputKind)
    (hcaptured : item.capturedMonotonicNs = .int captured) (hquality : item.qualityInsufficient = .bool quality)
    (hdisposition : quality = true → item.disposition = some .processed) :
    checkObservation validation previousCapture previousProcessed item =
      (require (0 ≤ captured ∧ captured ≤ validation.plan.runEndMonotonicNs) .schemaIncompatible >>= fun _ =>
        checkCapture previousCapture captured >>= fun _ =>
          checkDisposition validation previousProcessed captured item >>= fun processed => .ok (captured, processed)) := by
  have hright : require (item.isObservation = true ∧ item.sourceKind = some validation.inputKind)
      D1FailureCode.schemaIncompatible = .ok () := if_pos ⟨hobservation, hkind⟩
  have hplaced : require (quality = true → item.disposition = some .processed) D1FailureCode.schemaIncompatible =
      .ok () := if_pos hdisposition
  unfold checkObservation
  rw [hright, hcaptured, hquality]
  change (require _ _ >>= fun _ => checkCapture previousCapture captured >>= fun _ =>
    checkDisposition validation previousProcessed captured item >>= fun processed =>
      require (quality = true → item.disposition = some .processed) D1FailureCode.schemaIncompatible >>= fun _ =>
        Except.ok (captured, processed)) = _
  rw [hplaced]
  rfl

end PduExamObserver.Synthetic
