import PduExamObserver.D1Contract.Evaluation

/-! # The D1 contract: how an evaluation ends

Receipts are built on every path of `evaluate`, also by its handlers. When a receipt can be built at all, when the
lease is released, and what a receipt of a privacy stop depends on. -/

namespace PduExamObserver.D1Contract
open Authority Tally
set_option autoImplicit false

/-! ## A request of one frame -/

namespace Sample

def digest : String := "0000000000000000000000000000000000000000000000000000000000000000"

def setup : Setup := ⟨fun _ => digest, fun _ => by decide +kernel, none⟩

def plan : RunPlan := ⟨.preflight60s, 1280, 720, 15, 60, 5, 61000000000⟩

def frame (failureCode : FailureField) : Observation where
  sourceKind := some .testChart
  capturedMonotonicNs := .int 1000000000
  processedMonotonicNs := .null
  disposition := some .failed
  qualityInsufficient := .bool false
  failureCode
  dropReason := .none

def disk : DiskEvidence where
  freeBytes := 4294967296
  encodedByteCount := 60
  encodedByteRate := .int 1
  throughputSamples := (List.range 60).map fun index => ⟨index, .int 2⟩
  stages := notAttempted

def request (observations : List Observation) : ValidationInput where
  schemaVersion := 1
  evidenceKind := .simulated
  inputKind := .testChart
  plan
  observations
  disk
  injectedFailures := []
  authority := ⟨1, "D1_C1_AUTHORITY", "2026-08-26", "root", canonicalProposalSha256, "0.4", true, true, false, false,
    false, false⟩
  provenance := ⟨1, .testChart, "chart-v1", "d1-fixture-generator-v1", digest, observations.length, true, true, "N/A",
    "N/A", "d1-baseline-v1", ["mutant-ledger-v1"]⟩
  environment := ⟨1, "D1_C1_INJECTED_ENVIRONMENT", digest, digest, digest, digest, "SIMULATED-N/A", "N/A", "N/A", true,
    true, true, true, true⟩
  reproduction := ⟨1, "D1_C1_REPRODUCTION", reproductionInvocation, dependencyArtifactName, dependencyArtifactSha256,
    digest, "N/A", "d1-thresholds-v1", "d1-baseline-v1", ["mutant-ledger-v1"], "SIMULATED_EVALUATOR_ONLY", digest,
    digest⟩

def clearGuard : PrivacyGuard := fun _ _ => .decided .clear

def stoppingGuard : PrivacyGuard := fun _ _ => .raises

def calmLease : Lease := ⟨.returnsTrue, false⟩

theorem request_valid : validateRequest setup (request [frame (.code .frameStalled)]) = .ok () := by decide +kernel

end Sample

variable {setup : Setup} {request request' : ValidationInput} {guard guard' : PrivacyGuard} {lease lease' : Lease}
  {code : D1FailureCode} {detail : FailureDetail} {checked : Nat} {result : D1Receipt}

/-! ## Counts -/

def ValidationInput.Countable (request : ValidationInput) : Prop := ∀ item ∈ request.observations, item.failureCode ≠ .bare

theorem failureNames_isSome_iff (item : Observation) : item.failureNames.isSome = true ↔ item.failureCode ≠ .bare := by
  unfold Observation.failureNames
  cases item.failureCode <;> simp

theorem mapM_isSome_iff {α β : Type} {f : α → Option β} {l : List α} :
    (l.mapM f).isSome = true ↔ ∀ a ∈ l, (f a).isSome = true := by
  induction l with
  | nil => simp
  | cons a rest ih =>
    rw [List.mapM_cons, List.forall_mem_cons, ← ih]
    cases f a with
    | none => simp
    | some b =>
      cases rest.mapM f with
      | none => simp
      | some bs => simp

theorem failureCounts_isSome_iff (request : ValidationInput) (privacyStop : Bool) :
    (failureCounts request privacyStop).isSome = true ↔ request.Countable := by
  have hnames : (request.observations.mapM Observation.failureNames).isSome = true ↔ request.Countable := by
    rw [mapM_isSome_iff, ValidationInput.Countable]
    simp only [failureNames_isSome_iff]
  rw [← hnames, failureCounts]
  cases request.observations.mapM Observation.failureNames with
  | none => simp
  | some names => simp

/-! ## When a receipt can be built -/

def ValidationInput.Bounded (setup : Setup) (request : ValidationInput) : Prop :=
  (requiredBytes setup request.disk.encodedByteRate request.plan.requestedDurationSeconds).isSome = true

variable {accounting warmup : Accounting} {counts : List (String × Int)} {metrics : MetricSummary}
  {outcome : ValidationOutcome} {scrubbed : Bool} {stops : Int} {previousCapture previousProcessed : Option Int}

theorem receipt_isSome_iff {code : Option D1FailureCode}
    {checked : Int} :
    (receipt setup request outcome code counts checked stops warmup accounting metrics scrubbed).isSome = true ↔
      scrubbed = true ∨ request.Bounded setup := by
  unfold receipt ValidationInput.Bounded
  cases scrubbed with
  | true => simp
  | false =>
    cases requiredBytes setup request.disk.encodedByteRate request.plan.requestedDurationSeconds with
    | none => simp
    | some required => simp

theorem failureReceipt_isSome_iff :
    (failureReceipt setup request code detail).isSome = true ↔
      (detail.counts.isSome = true ∨ request.Countable) ∧ (code = .privacyStop ∨ request.Bounded setup) := by
  have hcounted : ∀ counts : List (String × Int),
      (if code = .privacyStop then receipt setup request .noGo (some code) (withCode counts code) detail.checked
          detail.stops .empty .empty (emptyMetrics request.plan) true
        else receipt setup request .noGo (some code) (withCode counts code) detail.checked detail.stops
          (accountingOf detail.warmup) detail.accounting (detail.metrics.getD (emptyMetrics request.plan)) false).isSome =
        true ↔ code = .privacyStop ∨ request.Bounded setup := by
    intro counts
    by_cases hcode : code = .privacyStop
    · rw [if_pos hcode, receipt_isSome_iff]
      simp [hcode]
    · rw [if_neg hcode, receipt_isSome_iff]
      simp [hcode]
  unfold failureReceipt
  cases hdetail : detail.counts with
  | some counts =>
    have hthis := hcounted counts
    simpa using hthis
  | none =>
    rw [← failureCounts_isSome_iff request (0 < detail.stops)]
    cases failureCounts request (0 < detail.stops) with
    | none => simp
    | some counts =>
      have hthis := hcounted counts
      simpa using hthis

theorem handlerReceipt_isSome_iff (hcode : code ≠ .privacyStop) :
    (failureReceipt setup request code {}).isSome = true ↔ request.Countable ∧ request.Bounded setup := by
  rw [failureReceipt_isSome_iff]
  simp [hcode]

theorem checkObservation_ne_privacyStop {item : Observation}
    (h : checkObservation request previousCapture previousProcessed item = .error code) : code ≠ .privacyStop := by
  have hcapture : ∀ captured e, checkCapture previousCapture captured = .error e → e ≠ .privacyStop := by
    intro captured e hcapture
    unfold checkCapture at hcapture
    split at hcapture
    · cases hcapture
    · split at hcapture
      · cases hcapture
        decide
      · split at hcapture
        · cases hcapture
          decide
        · split at hcapture
          · cases hcapture
            decide
          · cases hcapture
  have hdisposition : ∀ captured e, checkDisposition request previousProcessed captured item = .error e →
      e ≠ .privacyStop := by
    intro captured e hdisposition
    unfold checkDisposition at hdisposition
    grind
  unfold checkObservation at h
  simp only [bind_error_iff, require_eq_error, orError_eq_error] at h
  rcases h with ⟨-, rfl⟩ | ⟨-, -, ⟨-, rfl⟩ | ⟨captured, -, ⟨-, rfl⟩ | ⟨-, -, herror | ⟨-, -, herror |
    ⟨processed, -, ⟨-, rfl⟩ | ⟨quality, -, ⟨-, rfl⟩ | ⟨-, -, herror⟩⟩⟩⟩⟩⟩⟩
  · decide
  · decide
  · decide
  · exact hcapture captured code herror
  · exact hdisposition captured code herror
  · decide
  · decide
  · cases herror

theorem observationsFailure_ne_privacyStop {items : List Observation}
    (h : observationsFailure request previousCapture previousProcessed items = some code) : code ≠ .privacyStop := by
  induction items generalizing previousCapture previousProcessed with
  | nil => cases h
  | cons item rest ih =>
    unfold observationsFailure at h
    split at h
    · next hcheck =>
      cases h
      exact checkObservation_ne_privacyStop hcheck
    · exact ih h

theorem stageFailure_ne_privacyStop {stages : EncoderDurabilityEvidence} (h : stageFailure stages = some code) :
    code ≠ .privacyStop := by
  unfold stageFailure at h
  grind

theorem thresholdFailure_ne_privacyStop {required : Int}
    (h : thresholdFailure request accounting metrics required = some code) : code ≠ .privacyStop := by
  unfold thresholdFailure at h
  grind

/-- The guard answers anything but `CLEAR` about one of the observations. -/
def ValidationInput.Stopped (request : ValidationInput) (guard : PrivacyGuard) : Prop :=
  (firstStop guard 0 request.observations).isSome = true

/-- The observations are in order, and the first failure that is counted is an injected privacy stop. -/
def ValidationInput.CountedStop (request : ValidationInput) : Prop :=
  validateObservations request = none ∧ (failureCounts request false).bind firstCountCode = some .privacyStop

theorem evaluateUnderLease_stopped (h : firstStop guard 0 request.observations = some checked) :
    evaluateUnderLease setup request guard =
      failureReceipt setup request .privacyStop
        { checked, stops := 1, counts := some [(D1FailureCode.privacyStop.value, 1)] } := by
  rw [evaluateUnderLease, h]

theorem evaluateUnderLease_countedStop (h : request.CountedStop) :
    (evaluateUnderLease setup request guard).isSome = true := by
  unfold evaluateUnderLease
  cases hstop : firstStop guard 0 request.observations with
  | some checked =>
    dsimp only
    rw [failureReceipt_isSome_iff]
    simp
  | none =>
    dsimp only
    rw [h.1]
    obtain ⟨counts, hcounts, hcode⟩ := Option.bind_eq_some_iff.mp h.2
    have hne : counts ≠ [] := by
      rintro rfl
      cases hcode
    dsimp only
    rw [hcounts, Option.bind_eq_bind, Option.bind_some, if_neg hne, hcode, Option.bind_eq_bind, Option.bind_some,
      failureReceipt_isSome_iff]
    simp

def privacyReceipt (setup : Setup) (plan : RunPlan) (authority : AuthorityReceipt) (environment : EnvironmentReceipt)
    (checked : Int) : D1Receipt :=
  D1Receipt.sealed setup
    { schemaVersion := 1
      outcome := .noGo
      deviceGateDecision := .unverified
      evidenceKind := .simulated
      failureCode := some .privacyStop
      failureCounts := [(D1FailureCode.privacyStop.value, 1)]
      runKind := plan.runKind
      width := plan.width
      height := plan.height
      framesPerSecond := plan.framesPerSecond
      requestedDurationSeconds := plan.requestedDurationSeconds
      warmupSeconds := plan.warmupSeconds
      privacyCheckedFrames := checked
      privacyStopCount := 1
      warmupAccounting := .empty
      accounting := .empty
      metrics := emptyMetrics plan
      requiredBytes := 0
      freeBytes := 0
      encodedByteCount := 0
      encodedByteRate := .float 0
      throughputSampleCount := 0
      throughputDigest := setup.digest (.array [])
      stages := notAttempted
      sealAttempted := false
      exportAttempted := false
      authorityDigest := setup.digest (authorityPayload authority)
      inputDigest := privacyStopDigest setup checked
      provenanceDigest := privacyStopDigest setup checked
      environmentDigest := setup.digest (environmentPayload environment)
      reproductionDigest := privacyStopDigest setup checked
      evaluationCoreDigest := privacyStopDigest setup checked
      resultDigest := "" }

theorem evaluateUnderLease_privacyReceipt (h : firstStop guard 0 request.observations = some checked) :
    evaluateUnderLease setup request guard =
      some (privacyReceipt setup request.plan request.authority request.environment checked) := by
  have hcounts : withCode [(D1FailureCode.privacyStop.value, 1)] .privacyStop = [(D1FailureCode.privacyStop.value, 1)] :=
    if_pos (by simp)
  rw [evaluateUnderLease_stopped h]
  simp only [failureReceipt, receipt, Option.bind_eq_bind, Option.bind_some, if_true, hcounts]
  rfl

theorem receipt_fields {code : Option D1FailureCode}
    {checked : Int} (h : receipt setup request outcome code counts checked stops warmup accounting metrics scrubbed = some result) :
    result.outcome = outcome ∧ result.failureCode = code ∧ result.failureCounts = counts ∧
      result.privacyStopCount = stops := by
  unfold receipt at h
  cases scrubbed with
  | true =>
    simp only [if_true, Option.bind_eq_bind, Option.bind_some] at h
    cases h
    exact ⟨rfl, rfl, rfl, rfl⟩
  | false =>
    cases hrequired : requiredBytes setup request.disk.encodedByteRate request.plan.requestedDurationSeconds with
    | none => simp [hrequired] at h
    | some required =>
      simp only [hrequired, Option.bind_eq_bind, Option.bind_some, Bool.false_eq_true, if_false] at h
      cases h
      exact ⟨rfl, rfl, rfl, rfl⟩

theorem failureReceipt_fields (h : failureReceipt setup request code detail = some result) :
    result.outcome = .noGo ∧ result.failureCode = some code ∧ result.privacyStopCount = detail.stops := by
  obtain ⟨counts, hreceipt⟩ : ∃ counts,
      (if code = .privacyStop then receipt setup request .noGo (some code) (withCode counts code) detail.checked
          detail.stops .empty .empty (emptyMetrics request.plan) true
        else receipt setup request .noGo (some code) (withCode counts code) detail.checked detail.stops
          (accountingOf detail.warmup) detail.accounting (detail.metrics.getD (emptyMetrics request.plan)) false) =
        some result := by
    unfold failureReceipt at h
    cases hdetail : detail.counts with
    | some counts =>
      rw [hdetail] at h
      exact ⟨counts, h⟩
    | none =>
      rw [hdetail] at h
      obtain ⟨counts, -, hreceipt⟩ := Option.bind_eq_some_iff.mp h
      exact ⟨counts, hreceipt⟩
  split at hreceipt
  · obtain ⟨houtcome, hcode, -, hstops⟩ := receipt_fields hreceipt
    exact ⟨houtcome, hcode, hstops⟩
  · obtain ⟨houtcome, hcode, -, hstops⟩ := receipt_fields hreceipt
    exact ⟨houtcome, hcode, hstops⟩

theorem evaluate_stopped (hvalid : validateRequest setup request = .ok ()) (hacquire : lease.acquire = .returnsTrue)
    (h : firstStop guard 0 request.observations = some checked) :
    (evaluate setup request guard lease).result =
      if lease.releaseRaises then orError .raised (failureReceipt setup request .schemaIncompatible {})
      else .ok (privacyReceipt setup request.plan request.authority request.environment checked) := by
  unfold evaluate
  rw [hvalid, hacquire]
  dsimp only
  rw [evaluateUnderLease_privacyReceipt h]
  rfl

end PduExamObserver.D1Contract
