import PduExamObserver.D1Contract.Outcomes

/-! # The D1 contract: verification of a receipt

`verify_receipt_semantics`, the second set of rules over a receipt. -/

namespace PduExamObserver.D1Contract
open Authority Tally
set_option autoImplicit false

/-! ## Parts of a receipt -/

def accountingIsSemantic (value : Accounting) : Prop :=
  (∀ count ∈ [value.deliveredFrames, value.interFrameGaps, value.processed, value.droppedExplicit, value.failed,
      value.qualityInsufficient], 0 ≤ count) ∧
    value.interFrameGaps = max (value.deliveredFrames - 1) 0 ∧
    value.processed + value.droppedExplicit + value.failed = value.deliveredFrames ∧
    value.qualityInsufficient ≤ value.processed ∧
    value.dropReasons = sortItems value.dropReasons ∧
    (∀ item ∈ value.dropReasons, item.1 ∈ DropReason.values ∧ 0 < item.2) ∧
    (value.dropReasons.map Prod.snd).sum = value.droppedExplicit

instance (value : Accounting) : Decidable (accountingIsSemantic value) := by
  unfold accountingIsSemantic
  infer_instance

def failureCountsAreSemantic (values : List (String × Int)) : Prop :=
  values = sortItems values ∧ (values.map Prod.fst).Nodup ∧
    ∀ item ∈ values, 0 < item.2 ∧ item.1 ∈ D1FailureCode.all.map D1FailureCode.value

instance (values : List (String × Int)) : Decidable (failureCountsAreSemantic values) := by
  unfold failureCountsAreSemantic
  infer_instance

/-- The metrics of `_metrics_are_semantic` that are not times of the clock. -/
def MetricSummary.values (metrics : MetricSummary) : List (Option Rat) :=
  [some metrics.measuredTotalSeconds, some metrics.measuredPostWarmupSeconds, some metrics.deliveredFramesPerSecond,
    metrics.p95InterFrameGapMs, metrics.p95PoseLatencyMs, metrics.p99PoseLatencyMs,
    metrics.p10PreflightThroughputBytesPerSecond, metrics.backlogMs]

def metricsAreSemantic (metrics : MetricSummary) (receipt : D1Receipt) : Prop :=
  let duration : Rat := receipt.requestedDurationSeconds
  let delivered : Rat := receipt.accounting.deliveredFrames
  (∀ value ∈ metrics.values, value.isSome = true ∧ 0 ≤ value.getD 0) ∧
    0 ≤ metrics.firstCaptureMonotonicNs ∧ metrics.firstCaptureMonotonicNs ≤ metrics.runEndMonotonicNs ∧
    isClose metrics.measuredTotalSeconds
      (((metrics.runEndMonotonicNs - metrics.firstCaptureMonotonicNs : Int) : Rat) / 1000000000) (1 / 1000) ∧
    isClose (metrics.measuredTotalSeconds - metrics.measuredPostWarmupSeconds) receipt.warmupSeconds (1 / 1000) ∧
    duration ≤ metrics.measuredTotalSeconds ∧ duration ≤ metrics.measuredPostWarmupSeconds ∧
    isClose metrics.deliveredFramesPerSecond (delivered / metrics.measuredPostWarmupSeconds) (1 / 1000000) ∧
    27 / 2 ≤ metrics.deliveredFramesPerSecond ∧ metrics.p95InterFrameGapMs.getD 0 ≤ 200 ∧
    metrics.p95PoseLatencyMs.getD 0 ≤ 200 ∧ metrics.p99PoseLatencyMs.getD 0 ≤ 500 ∧
    metrics.backlogMs.getD 0 ≤ 2000 ∧
    2 * receipt.encodedByteRate.toRat ≤ metrics.p10PreflightThroughputBytesPerSecond.getD 0 ∧
    receipt.accounting.deliveredFrames ≠ 0 ∧ 99 / 100 ≤ receipt.accounting.processed / delivered ∧
    ((receipt.accounting.droppedExplicit + receipt.accounting.failed : Int) : Rat) / delivered ≤ 1 / 100

instance (metrics : MetricSummary) (receipt : D1Receipt) : Decidable (metricsAreSemantic metrics receipt) := by
  unfold metricsAreSemantic
  infer_instance

def stagesSucceeded (value : EncoderDurabilityEvidence) : Prop :=
  ∀ stage ∈ [value.encoderOpen, value.encoderWrite, value.encoderFinalize, value.durability], stage = .succeeded

instance (value : EncoderDurabilityEvidence) : Decidable (stagesSucceeded value) :=
  inferInstanceAs (Decidable (∀ stage ∈ _, _))

/-! ## The receipt -/

def headIsSemantic (receipt : D1Receipt) : Prop :=
  receipt.schemaVersion = 1 ∧ receipt.evidenceKind = .simulated ∧ receipt.deviceGateDecision = .unverified ∧
    receipt.sealAttempted = false ∧ receipt.exportAttempted = false ∧
    accountingIsSemantic receipt.warmupAccounting ∧ accountingIsSemantic receipt.accounting ∧
    failureCountsAreSemantic receipt.failureCounts ∧
    receipt.requestedDurationSeconds = requiredDuration receipt.runKind ∧
    (receipt.width, receipt.height, receipt.framesPerSecond, receipt.warmupSeconds) = (1280, 720, 15, 5)

instance (receipt : D1Receipt) : Decidable (headIsSemantic receipt) := by
  unfold headIsSemantic
  infer_instance

def privacyStopIsSemantic (setup : Setup) (receipt : D1Receipt) : Prop :=
  receipt.outcome = .noGo ∧ receipt.failureCounts = [(D1FailureCode.privacyStop.value, 1)] ∧
    1 ≤ receipt.privacyCheckedFrames ∧ receipt.privacyStopCount = 1 ∧ receipt.warmupAccounting = .empty ∧
    receipt.accounting = .empty ∧ receipt.requiredBytes = 0 ∧ receipt.freeBytes = 0 ∧ receipt.encodedByteCount = 0 ∧
    receipt.encodedByteRate.isFinite = true ∧ receipt.encodedByteRate.toRat = 0 ∧ receipt.throughputSampleCount = 0 ∧
    receipt.throughputDigest = setup.digest (.array []) ∧ receipt.stages = notAttempted ∧
    ∀ digest ∈ [receipt.inputDigest, receipt.provenanceDigest, receipt.reproductionDigest,
      receipt.evaluationCoreDigest], digest = privacyStopDigest setup receipt.privacyCheckedFrames

instance (setup : Setup) (receipt : D1Receipt) : Decidable (privacyStopIsSemantic setup receipt) := by
  unfold privacyStopIsSemantic
  infer_instance

def outcomeIsSemantic (receipt : D1Receipt) : Prop :=
  match receipt.outcome with
  | .backendContractPass =>
    receipt.failureCode = none ∧ receipt.failureCounts = [] ∧ receipt.privacyStopCount = 0 ∧
      receipt.privacyCheckedFrames = receipt.warmupAccounting.deliveredFrames + receipt.accounting.deliveredFrames ∧
      receipt.accounting.qualityInsufficient = 0 ∧ 0 < receipt.encodedByteCount ∧
      0 < receipt.encodedByteRate.toRat ∧ stagesSucceeded receipt.stages ∧
      metricsAreSemantic receipt.metrics receipt ∧
      isClose (receipt.encodedByteCount / receipt.encodedByteRate.toRat) receipt.metrics.measuredTotalSeconds
        (1 / 1000)
  | .noGo => ∃ code ∈ receipt.failureCode, code.value ∈ receipt.failureCounts.map Prod.fst

instance (receipt : D1Receipt) : Decidable (outcomeIsSemantic receipt) := by
  unfold outcomeIsSemantic
  cases receipt.outcome <;> infer_instance

/-- `verify_receipt_semantics`; none is the `OverflowError` of `int`. -/
def verifyReceiptSemantics (setup : Setup) (receipt : D1Receipt) : Option Bool :=
  if ¬ headIsSemantic receipt then some false
  else if receipt.failureCode = some .privacyStop then
    some (privacyStopIsSemantic setup receipt ∧ receipt.resultDigest = receipt.recomputeDigest setup)
  else
    match requiredBytes setup receipt.encodedByteRate receipt.requestedDurationSeconds with
    | none => none
    | some expected =>
      some (receipt.requiredBytes = expected ∧ receipt.requiredBytes ≤ receipt.freeBytes ∧
        receipt.throughputSampleCount = 60 ∧ isHexDigest receipt.throughputDigest = true ∧ outcomeIsSemantic receipt ∧
        0 ≤ receipt.privacyCheckedFrames ∧ 0 ≤ receipt.privacyStopCount ∧
        receipt.privacyStopCount ≤ receipt.privacyCheckedFrames ∧
        receipt.resultDigest = receipt.recomputeDigest setup)

variable {setup : Setup} {request : ValidationInput} {guard : PrivacyGuard} {lease : Lease}
  {code : D1FailureCode} {detail : FailureDetail} {result : D1Receipt}

/-! ## Observations that are in order -/

inductive Observation.Settled (request : ValidationInput) (item : Observation) : Prop where
  | processed (time : Int) (disposition : item.disposition = some .processed)
      (completed : item.processedMonotonicNs.int? = some time) (late : item.captured ≤ time)
      (failureCode : item.failureCode = .none) (dropReason : item.dropReason = .none)
  | dropped (reason : DropReason) (disposition : item.disposition = some .droppedExplicit)
      (failureCode : item.failureCode = .none) (dropReason : item.dropReason = .reason reason)
  | failed (code : D1FailureCode) (disposition : item.disposition = some .failed)
      (failureCode : item.failureCode = .code code) (dropReason : item.dropReason = .none)

structure Observation.InOrder (request : ValidationInput) (item : Observation) : Prop where
  captured_nonneg : 0 ≤ item.captured
  captured_le : item.captured ≤ request.plan.runEndMonotonicNs
  settled : item.Settled request
  quality : item.qualityInsufficient.bool? = some true → item.disposition = some .processed

variable {captured : Int} {previous previousCapture previousProcessed : Option Int} {accounting : Accounting}
  {values : List Rat}

theorem checkDisposition_settled {item : Observation} {next : Option Int}
    (h : checkDisposition request previous captured item = .ok next) (hcaptured : item.captured = captured) :
    item.Settled request := by
  unfold checkDisposition at h
  cases hdisposition : item.disposition with
  | none =>
    rw [hdisposition] at h
    cases h
  | some disposition =>
    rw [hdisposition] at h
    cases disposition with
    | processed =>
      dsimp only at h
      cases htime : item.processedMonotonicNs.int? with
      | none =>
        rw [htime] at h
        cases h
      | some time =>
        rw [htime] at h
        dsimp only at h
        split at h
        · cases h
        · next hsettled =>
          simp only [not_or, not_lt, not_not] at hsettled
          exact .processed time hdisposition htime (by omega) hsettled.2.2.1 hsettled.2.2.2
    | droppedExplicit =>
      dsimp only at h
      cases hreason : item.dropReason with
      | none => simp [hreason] at h
      | other => simp [hreason] at h
      | reason reason =>
        rw [hreason] at h
        dsimp only at h
        split at h
        · next hsettled => exact .dropped reason hdisposition hsettled.2 hreason
        · cases h
    | failed =>
      dsimp only at h
      cases hcode : item.failureCode with
      | none => simp [hcode] at h
      | valued value => simp [hcode] at h
      | bare => simp [hcode] at h
      | code code =>
        rw [hcode] at h
        dsimp only at h
        split at h
        · next hsettled => exact .failed code hdisposition hcode hsettled.2
        · cases h

theorem checkCapture_lt (h : checkCapture previous captured = .ok ()) :
    ∀ time ∈ previous, time < captured := by
  rintro time rfl
  unfold checkCapture at h
  dsimp only at h
  split at h
  · cases h
  · split at h
    · cases h
    · omega

theorem checkObservation_inOrder {item : Observation}
    {next : Int × Option Int} (h : checkObservation request previousCapture previousProcessed item = .ok next) :
    item.InOrder request ∧ next.1 = item.captured ∧ ∀ time ∈ previousCapture, time < item.captured := by
  unfold checkObservation at h
  simp only [bind_ok_iff, require_eq_ok, orError_eq_ok] at h
  obtain ⟨-, -, captured, hcaptured, -, hrange, ⟨⟩, hcapture, processed, hdisposition, quality, hquality, -, hprocessed,
    hnext⟩ := h
  cases hnext
  have hitem : item.captured = captured := by rw [Observation.captured, hcaptured, Option.getD_some]
  refine ⟨⟨hitem ▸ hrange.1, hitem ▸ hrange.2, checkDisposition_settled hdisposition hitem, fun htrue => ?_⟩,
    hitem.symm, fun time htime => hitem ▸ checkCapture_lt hcapture time htime⟩
  exact hprocessed (Option.some.inj (hquality.symm.trans htrue))

variable {items : List Observation} {names : List String} {counts : List (String × Int)} {metrics : MetricSummary}

theorem inOrder_of_observationsFailure
    (h : observationsFailure request previousCapture previousProcessed items = none) :
    (∀ item ∈ items, item.InOrder request) ∧
      (items.map Observation.captured).Pairwise (· < ·) ∧
      ∀ time ∈ previousCapture, ∀ item ∈ items, time < item.captured := by
  induction items generalizing previousCapture previousProcessed with
  | nil => simp
  | cons item rest ih =>
    unfold observationsFailure at h
    cases hcheck : checkObservation request previousCapture previousProcessed item with
    | error code => simp [hcheck] at h
    | ok next =>
      rw [hcheck] at h
      obtain ⟨hitem, hnext, hbefore⟩ := checkObservation_inOrder hcheck
      obtain ⟨hrest, hsorted, hafter⟩ := ih h
      have hlater : ∀ other ∈ rest, item.captured < other.captured := fun other hother =>
        hnext ▸ hafter next.1 rfl other hother
      refine ⟨List.forall_mem_cons.mpr ⟨hitem, hrest⟩, ?_, fun time htime => ?_⟩
      · rw [List.map_cons, List.pairwise_cons]
        refine ⟨fun time htime => ?_, hsorted⟩
        obtain ⟨other, hother, rfl⟩ := List.mem_map.mp htime
        exact hlater other hother
      · have hfirst := hbefore time htime
        exact List.forall_mem_cons.mpr ⟨hfirst, fun other hother => hfirst.trans (hlater other hother)⟩

theorem inOrder_of_validateObservations (h : validateObservations request = none) :
    ∀ item ∈ request.observations, item.InOrder request := (inOrder_of_observationsFailure h).1

/-! ## Counts that are in order -/

theorem length_eq_dispositions (h : ∀ item ∈ items, item.Settled request) :
    items.length = items.countP (fun item => item.disposition = some .processed) +
      items.countP (fun item => item.disposition = some .droppedExplicit) +
      items.countP (fun item => item.disposition = some .failed) := by
  induction items with
  | nil => rfl
  | cons item rest ih =>
    obtain ⟨hitem, hrest⟩ := List.forall_mem_cons.mp h
    have hlength := ih hrest
    simp only [List.countP_cons, List.length_cons]
    cases hitem with
    | processed time hdisposition => simp [hdisposition]; omega
    | dropped reason hdisposition => simp [hdisposition]; omega
    | failed code hdisposition => simp [hdisposition]; omega

theorem length_dropNames (h : ∀ item ∈ items, item.Settled request) :
    (items.filterMap Observation.dropName).length =
      items.countP (fun item => item.disposition = some .droppedExplicit) := by
  induction items with
  | nil => rfl
  | cons item rest ih =>
    obtain ⟨hitem, hrest⟩ := List.forall_mem_cons.mp h
    have hlength := ih hrest
    rw [List.filterMap_cons, List.countP_cons]
    cases hitem with
    | processed time hdisposition _ _ _ hreason => simp [Observation.dropName, hdisposition, hreason, hlength]
    | dropped reason hdisposition _ hreason => simp [Observation.dropName, hdisposition, hreason, hlength]
    | failed code hdisposition _ hreason => simp [Observation.dropName, hdisposition, hreason, hlength]

theorem dropName_mem {name : String}
    (h : name ∈ items.filterMap Observation.dropName) : name ∈ DropReason.values := by
  obtain ⟨item, -, hname⟩ := List.mem_filterMap.mp h
  unfold Observation.dropName at hname
  split at hname
  · next reason _ =>
    cases hname
    cases reason
    decide
  · cases hname

theorem mem_sorted_tally {item : String × Int} (h : item ∈ sortItems (tally names)) :
    item.1 ∈ names ∧ 0 < item.2 := by
  have hitem := mem_sortItems.mp h
  exact ⟨mem_tally_keys.mp (List.mem_map_of_mem hitem), pos_tally names item hitem⟩

theorem accountingOf_semantic (h : ∀ item ∈ items, item.InOrder request) :
    accountingIsSemantic (accountingOf items) := by
  have hsettled : ∀ item ∈ items, item.Settled request := fun item hitem => (h item hitem).settled
  have hlength := length_eq_dispositions hsettled
  have hquality : items.countP (fun item => item.qualityInsufficient.bool? = some true) ≤
      items.countP (fun item => item.disposition = some .processed) := by
    apply List.countP_mono_left
    intro item hitem htrue
    simpa using (h item hitem).quality (by simpa using htrue)
  have hdropped : (((items.filterMap Observation.dropName).length : Nat) : Int) =
      (items.countP (fun item => item.disposition = some .droppedExplicit) : Nat) := by rw [length_dropNames hsettled]
  unfold accountingOf accountingIsSemantic
  refine ⟨?_, rfl, ?_, ?_, (sortItems_sortItems _).symm, ?_, ?_⟩
  · simp
  · dsimp only
    omega
  · dsimp only
    omega
  · intro item hitem
    obtain ⟨hname, hcount⟩ := mem_sorted_tally hitem
    exact ⟨dropName_mem hname, hcount⟩
  · rw [sum_sortItems, sum_tally]
    exact hdropped

theorem empty_semantic : accountingIsSemantic .empty := by decide

theorem failureCountsAreSemantic_sorted_tally :
    failureCountsAreSemantic (sortItems (tally names)) ↔
      ∀ name ∈ names, name ∈ D1FailureCode.all.map D1FailureCode.value := by
  constructor
  · rintro ⟨-, -, hnames⟩ name hname
    obtain ⟨item, hitem, rfl⟩ := List.mem_map.mp (mem_tally_keys.mpr hname)
    exact (hnames item (mem_sortItems.mpr hitem)).2
  · intro h
    refine ⟨(sortItems_sortItems _).symm, nodup_sortItems.mpr (nodup_tally names), fun item hitem => ?_⟩
    obtain ⟨hname, hcount⟩ := mem_sorted_tally hitem
    exact ⟨hcount, h item.1 hname⟩

theorem value_mem (code : D1FailureCode) : code.value ∈ D1FailureCode.all.map D1FailureCode.value :=
  List.mem_map_of_mem (D1FailureCode.mem_all code)

theorem failureCountsAreSemantic_withCode {code : D1FailureCode} :
    failureCountsAreSemantic (withCode (sortItems (tally names)) code) ↔
      failureCountsAreSemantic (sortItems (tally names)) := by
  unfold withCode
  by_cases hmem : code.value ∈ (sortItems (tally names)).map Prod.fst
  · rw [if_pos hmem]
  · rw [if_neg hmem]
    constructor
    · rintro ⟨-, -, hnames⟩
      refine ⟨(sortItems_sortItems _).symm, nodup_sortItems.mpr (nodup_tally names), fun item hitem => ?_⟩
      exact hnames item (mem_sortItems.mpr (List.mem_append_left _ hitem))
    · rintro ⟨-, hnodup, hnames⟩
      refine ⟨(sortItems_sortItems _).symm, nodup_sortItems.mpr ?_, fun item hitem => ?_⟩
      · rw [List.map_append, List.nodup_append]
        refine ⟨hnodup, List.nodup_singleton _, fun name hname other hother heq => ?_⟩
        rw [List.map_singleton, List.mem_singleton] at hother
        have hcode : name = code.value := heq.trans hother
        exact hmem (hcode ▸ hname)
      · rcases List.mem_append.mp (mem_sortItems.mp hitem) with hold | hnew
        · exact hnames item hold
        · rw [List.mem_singleton] at hnew
          subst hnew
          exact ⟨Int.one_pos, value_mem code⟩

theorem mem_withCode (counts : List (String × Int)) (code : D1FailureCode) :
    code.value ∈ (withCode counts code).map Prod.fst := by
  unfold withCode
  by_cases hmem : code.value ∈ counts.map Prod.fst
  · rw [if_pos hmem]
    exact hmem
  · rw [if_neg hmem]
    exact List.mem_map_of_mem (mem_sortItems.mpr (List.mem_append_right counts (List.mem_singleton.mpr rfl)))

/-! ## When a receipt of a failure is accepted -/

def ValidationInput.Known (request : ValidationInput) : Prop :=
  ∀ item ∈ request.observations, ∀ names ∈ item.failureNames, ∀ name ∈ names,
    name ∈ D1FailureCode.all.map D1FailureCode.value

def ValidationInput.HasRoom (setup : Setup) (request : ValidationInput) : Prop :=
  ∃ required ∈ requiredBytes setup request.disk.encodedByteRate request.plan.requestedDurationSeconds,
    required ≤ request.disk.freeBytes

structure FailureDetail.Plain (request : ValidationInput) (detail : FailureDetail) : Prop where
  counts : detail.counts = none ∨ detail.counts = failureCounts request false
  stops : detail.stops = 0
  checked : 0 ≤ detail.checked
  warmup : accountingIsSemantic (accountingOf detail.warmup)
  accounting : accountingIsSemantic detail.accounting

theorem validatePlan_ok (hvalid : validateRequest setup request = .ok ()) :
    request.plan.requestedDurationSeconds = requiredDuration request.plan.runKind ∧
      (request.plan.width, request.plan.height, request.plan.framesPerSecond, request.plan.warmupSeconds) =
        (1280, 720, 15, 5) := by
  unfold validateRequest validatePlan at hvalid
  simp only [bind_ok_iff, require_eq_ok] at hvalid
  obtain ⟨-, -, -, -, -, hplan, -⟩ := hvalid
  exact ⟨hplan.1, hplan.2.1⟩

theorem validateDiskShape_ok (hvalid : validateRequest setup request = .ok ()) :
    request.disk.throughputSamples.length = 60 ∧ samplesAreOrdered request.disk.throughputSamples := by
  unfold validateRequest validateDiskShape at hvalid
  simp only [bind_ok_iff, require_eq_ok] at hvalid
  obtain ⟨-, -, -, -, -, -, -, -, -, ⟨-, hdisk, hsamples⟩, -⟩ := hvalid
  exact ⟨hdisk.2.2.2.2, hsamples⟩

theorem mapM_eq_some_flatten {α β : Type} {f : α → Option (List β)} {l : List α} {lists : List (List β)}
    (h : l.mapM f = some lists) {b : β} : b ∈ lists.flatten ↔ ∃ a ∈ l, ∃ found ∈ f a, b ∈ found := by
  induction l generalizing lists with
  | nil =>
    cases h
    simp
  | cons a rest ih =>
    rw [List.mapM_cons] at h
    cases hfirst : f a with
    | none => simp [hfirst] at h
    | some found =>
      cases hrest : rest.mapM f with
      | none => simp [hfirst, hrest] at h
      | some others =>
        simp only [hfirst, hrest, Option.bind_eq_bind, Option.bind_some, Option.pure_def, Option.some.injEq] at h
        subst h
        rw [List.flatten_cons, List.mem_append, ih hrest]
        simp [hfirst]

theorem failureCounts_semantic_iff (h : failureCounts request false = some counts) :
    ∃ names, counts = sortItems (tally names) ∧ (failureCountsAreSemantic counts ↔ request.Known) := by
  unfold failureCounts at h
  cases hnames : request.observations.mapM Observation.failureNames with
  | none => simp [hnames] at h
  | some names =>
    simp only [hnames, Option.bind_eq_bind, Option.bind_some, Option.pure_def, Option.some.injEq, Bool.false_eq_true,
      if_false, List.append_nil] at h
    subst h
    refine ⟨_, rfl, ?_⟩
    rw [failureCountsAreSemantic_sorted_tally]
    constructor
    · intro hall item hitem found hfound name hname
      exact hall name (List.mem_append_left _ ((mapM_eq_some_flatten hnames).mpr ⟨item, hitem, found, hfound, hname⟩))
    · intro hknown name hname
      rcases List.mem_append.mp hname with hcounted | hinjected
      · obtain ⟨item, hitem, found, hfound, hmem⟩ := (mapM_eq_some_flatten hnames).mp hcounted
        exact hknown item hitem found hfound name hmem
      · obtain ⟨code, -, rfl⟩ := List.mem_map.mp hinjected
        exact value_mem code

theorem verify_eq_true_iff (hcode : result.failureCode ≠ some .privacyStop) :
    verifyReceiptSemantics setup result = some true ↔
      headIsSemantic result ∧
        ∃ expected, requiredBytes setup result.encodedByteRate result.requestedDurationSeconds = some expected ∧
          result.requiredBytes = expected ∧ result.requiredBytes ≤ result.freeBytes ∧
          result.throughputSampleCount = 60 ∧ isHexDigest result.throughputDigest = true ∧ outcomeIsSemantic result ∧
          0 ≤ result.privacyCheckedFrames ∧ 0 ≤ result.privacyStopCount ∧
          result.privacyStopCount ≤ result.privacyCheckedFrames ∧
          result.resultDigest = result.recomputeDigest setup := by
  unfold verifyReceiptSemantics
  by_cases hhead : headIsSemantic result
  · rw [if_neg (not_not.mpr hhead), if_neg hcode]
    cases requiredBytes setup result.encodedByteRate result.requestedDurationSeconds with
    | none => simp
    | some expected =>
      constructor
      · intro hverified
        exact ⟨hhead, expected, rfl, of_decide_eq_true (Option.some.inj hverified)⟩
      · rintro ⟨-, other, hother, hchecks⟩
        cases hother
        exact congrArg some (decide_eq_true hchecks)
  · rw [if_pos hhead]
    simp [hhead]

theorem receipt_verified_iff {outcome : ValidationOutcome} {code : Option D1FailureCode}
    {checked stops : Int} {warmup : Accounting}
    (hvalid : validateRequest setup request = .ok ()) (hcode : code ≠ some .privacyStop)
    (h : receipt setup request outcome code counts checked stops warmup accounting metrics false = some result) :
    verifyReceiptSemantics setup result = some true ↔
      (accountingIsSemantic warmup ∧ accountingIsSemantic accounting ∧ failureCountsAreSemantic counts) ∧
        request.HasRoom setup ∧ outcomeIsSemantic result ∧ 0 ≤ checked ∧ 0 ≤ stops ∧ stops ≤ checked := by
  obtain ⟨hduration, hprofile⟩ := validatePlan_ok hvalid
  obtain ⟨hsamples, -⟩ := validateDiskShape_ok hvalid
  unfold receipt at h
  cases hrequired : requiredBytes setup request.disk.encodedByteRate request.plan.requestedDurationSeconds with
  | none => simp [hrequired] at h
  | some required =>
    simp only [hrequired, Option.bind_eq_bind, Option.bind_some, Bool.false_eq_true, if_false] at h
    cases h
    rw [verify_eq_true_iff hcode]
    constructor
    · rintro ⟨⟨-, -, -, -, -, hwarmup, haccounting, hcounts, -⟩, expected, hexpected, -, hroom, -, -, houtcome, hrest⟩
      exact ⟨⟨hwarmup, haccounting, hcounts⟩, ⟨required, hrequired, hroom⟩, houtcome, hrest.1, hrest.2.1, hrest.2.2.1⟩
    · rintro ⟨⟨hwarmup, haccounting, hcounts⟩, ⟨expected, hexpected, hroom⟩, houtcome, hchecked, hstops, hle⟩
      obtain rfl : required = expected := Option.some.inj (hrequired.symm.trans hexpected)
      have hcount : ((request.disk.throughputSamples.length : Nat) : Int) = 60 := by exact_mod_cast hsamples
      exact ⟨⟨rfl, rfl, rfl, rfl, rfl, hwarmup, haccounting, hcounts, hduration, hprofile⟩, required, hrequired, rfl,
        hroom, hcount, setup.hex _, houtcome, hchecked, hstops, hle, rfl⟩

theorem failureReceipt_plain (hdetail : detail.Plain request) (hcode : code ≠ .privacyStop)
    (h : failureReceipt setup request code detail = some result) :
    ∃ counts, failureCounts request false = some counts ∧
      receipt setup request .noGo (some code) (withCode counts code) detail.checked 0 (accountingOf detail.warmup)
        detail.accounting (detail.metrics.getD (emptyMetrics request.plan)) false = some result := by
  unfold failureReceipt at h
  rw [hdetail.stops] at h
  simp only [hcode, if_false, lt_irrefl, decide_false] at h
  cases hcounts : detail.counts with
  | some counts =>
    rw [hcounts] at h
    have hrequest : failureCounts request false = some counts := by
      rcases hdetail.counts with hnone | hsome
      · rw [hnone] at hcounts
        cases hcounts
      · exact hsome.symm.trans hcounts
    exact ⟨counts, hrequest, h⟩
  | none =>
    rw [hcounts] at h
    cases hrequest : failureCounts request false with
    | none =>
      rw [hrequest] at h
      cases h
    | some counts =>
      rw [hrequest] at h
      exact ⟨counts, rfl, h⟩

theorem failureReceipt_verified_iff (hvalid : validateRequest setup request = .ok ()) (hdetail : detail.Plain request)
    (hcode : code ≠ .privacyStop) (h : failureReceipt setup request code detail = some result) :
    verifyReceiptSemantics setup result = some true ↔ request.Known ∧ request.HasRoom setup := by
  obtain ⟨counts, hcounts, hreceipt⟩ := failureReceipt_plain hdetail hcode h
  obtain ⟨names, rfl, hknown⟩ := failureCounts_semantic_iff hcounts
  have houtcome : outcomeIsSemantic result := by
    obtain ⟨hnogo, hfailed, hcounted, -⟩ := receipt_fields hreceipt
    rw [outcomeIsSemantic, hnogo, hfailed, hcounted]
    exact ⟨code, rfl, mem_withCode _ code⟩
  rw [receipt_verified_iff hvalid (by simpa using hcode) hreceipt, failureCountsAreSemantic_withCode, hknown]
  constructor
  · rintro ⟨⟨-, -, hnames⟩, hroom, -⟩
    exact ⟨hnames, hroom⟩
  · rintro ⟨hnames, hroom⟩
    exact ⟨⟨hdetail.warmup, hdetail.accounting, hnames⟩, hroom, houtcome, hdetail.checked, le_refl 0, hdetail.checked⟩

theorem failureReceipt_countedStop (hdetail : detail.Plain request)
    (h : failureReceipt setup request .privacyStop detail = some result) :
    verifyReceiptSemantics setup result ≠ some true := by
  obtain ⟨-, hcode, hstops⟩ := failureReceipt_fields h
  unfold verifyReceiptSemantics
  by_cases hhead : headIsSemantic result
  · rw [if_neg (not_not.mpr hhead), if_pos hcode]
    intro hverified
    obtain ⟨⟨-, -, -, hone, -⟩, -⟩ := of_decide_eq_true (Option.some.inj hverified)
    rw [hstops, hdetail.stops] at hone
    cases hone
  · rw [if_pos hhead]
    simp

/-! ## When an evaluation passes -/

/-- The checks of `evaluate` find nothing to fail a run. -/
def ValidationInput.MeetsContract (setup : Setup) (request : ValidationInput) : Prop :=
  validateObservations request = none ∧ failureCounts request false = some [] ∧
    let post := (splitWarmup request).2
    let accounting := accountingOf post
    accounting.deliveredFrames ≠ 0 ∧
      accounting.processed + accounting.droppedExplicit + accounting.failed = accounting.deliveredFrames ∧
      accounting.qualityInsufficient = 0 ∧ stageFailure request.disk.stages = none ∧
      ∃ metrics ∈ metricsOf request post, 0 < request.disk.encodedByteCount ∧ 0 < request.disk.encodedByteRate.toRat ∧
        isClose (request.disk.encodedByteCount / request.disk.encodedByteRate.toRat) metrics.measuredTotalSeconds
          (1 / 1000) ∧
        ∃ required ∈ requiredBytes setup request.disk.encodedByteRate request.plan.requestedDurationSeconds,
          thresholdFailure request accounting metrics required = none

def passingReceipt (setup : Setup) (request : ValidationInput) (metrics : MetricSummary) : Option D1Receipt :=
  receipt setup request .backendContractPass none [] request.observations.length 0
    (accountingOf (splitWarmup request).1) (accountingOf (splitWarmup request).2) metrics false

theorem splitWarmup_sublists (request : ValidationInput) :
    (splitWarmup request).1.Sublist request.observations ∧ (splitWarmup request).2.Sublist request.observations := by
  unfold splitWarmup
  cases request.observations with
  | nil => exact ⟨List.Sublist.slnil, List.Sublist.slnil⟩
  | cons first rest => exact ⟨List.filter_sublist, List.filter_sublist⟩

theorem splitWarmup_length (request : ValidationInput) :
    (splitWarmup request).1.length + (splitWarmup request).2.length = request.observations.length := by
  unfold splitWarmup
  cases request.observations with
  | nil => rfl
  | cons first rest =>
    have hnot : ∀ item : Observation,
        decide (first.captured + request.plan.warmupSeconds * 1000000000 ≤ item.captured) =
          !decide (item.captured < first.captured + request.plan.warmupSeconds * 1000000000) := by
      intro item
      rw [← decide_not, decide_eq_decide, not_lt]
    dsimp only
    rw [funext hnot]
    exact (List.length_eq_length_filter_add _).symm

theorem split_semantic (h : validateObservations request = none) :
    accountingIsSemantic (accountingOf (splitWarmup request).1) ∧
      accountingIsSemantic (accountingOf (splitWarmup request).2) := by
  have hall := inOrder_of_validateObservations h
  obtain ⟨hwarmup, hpost⟩ := splitWarmup_sublists request
  exact ⟨accountingOf_semantic fun item hitem => hall item (hwarmup.subset hitem),
    accountingOf_semantic fun item hitem => hall item (hpost.subset hitem)⟩

theorem evaluateClean_cases (hobserved : validateObservations request = none)
    (hcounts : failureCounts request false = some []) (h : evaluateClean setup request = some result) :
    (request.MeetsContract setup ∧
        ∃ metrics ∈ metricsOf request (splitWarmup request).2, passingReceipt setup request metrics = some result) ∨
      ¬ request.MeetsContract setup ∧ ∃ code, ∃ detail : FailureDetail, code ≠ .privacyStop ∧ detail.Plain request ∧
        failureReceipt setup request code detail = some result := by
  obtain ⟨hwarmup, hpost⟩ := split_semantic hobserved
  have hplain : ∀ metrics, FailureDetail.Plain request
      { warmup := (splitWarmup request).1, accounting := accountingOf (splitWarmup request).2, metrics,
        checked := request.observations.length } := fun metrics =>
    ⟨.inl rfl, rfl, Int.natCast_nonneg _, hwarmup, hpost⟩
  unfold evaluateClean at h
  dsimp only at h
  split at h
  · next hnone =>
    exact .inr ⟨fun hmeets => hmeets.2.2.1 hnone, _, _, by decide, hplain none, h⟩
  · next hdelivered =>
    split at h
    · next hsum =>
      exact .inr ⟨fun hmeets => hsum hmeets.2.2.2.1, _, _, by decide, hplain none, h⟩
    · next hsum =>
      split at h
      · next hquality =>
        exact .inr ⟨fun hmeets => hquality hmeets.2.2.2.2.1, _, _, by decide, hplain none, h⟩
      · next hquality =>
        split at h
        · next code hstage =>
          refine .inr ⟨fun hmeets => ?_, _, _, stageFailure_ne_privacyStop hstage, hplain none, h⟩
          rw [hmeets.2.2.2.2.2.1] at hstage
          cases hstage
        · next hstage =>
          split at h
          · next hmetrics =>
            refine .inr ⟨fun hmeets => ?_, _, _, by decide, hplain none, h⟩
            obtain ⟨metrics, hsome, -⟩ := hmeets.2.2.2.2.2.2
            rw [hmetrics] at hsome
            cases hsome
          · next metrics hmetrics =>
            -- the checks after the metrics speak of the metrics that were found
            have hfound : ∀ other ∈ metricsOf request (splitWarmup request).2, other = metrics := fun other hother =>
              Option.some.inj (hother.symm.trans hmetrics)
            split at h
            · next hencoded =>
              refine .inr ⟨fun hmeets => ?_, _, _, by decide, hplain _, h⟩
              obtain ⟨-, -, hcount, hrate, -⟩ := hmeets.2.2.2.2.2.2
              rcases hencoded with hcount' | hrate'
              · omega
              · exact absurd hrate (not_lt.mpr hrate')
            · next hencoded =>
              split at h
              · next hclose =>
                refine .inr ⟨fun hmeets => ?_, _, _, by decide, hplain _, h⟩
                obtain ⟨other, hother, -, -, hclose', -⟩ := hmeets.2.2.2.2.2.2
                exact hclose (hfound other hother ▸ hclose')
              · next hclose =>
                cases hrequired : requiredBytes setup request.disk.encodedByteRate
                    request.plan.requestedDurationSeconds with
                | none => simp [hrequired] at h
                | some required =>
                  rw [hrequired, Option.bind_eq_bind, Option.bind_some] at h
                  cases hthreshold : thresholdFailure request (accountingOf (splitWarmup request).2) metrics required with
                  | some code =>
                    rw [hthreshold] at h
                    refine .inr ⟨fun hmeets => ?_, _, _, thresholdFailure_ne_privacyStop hthreshold, hplain _, h⟩
                    obtain ⟨other, hother, -, -, -, bytes, hbytes, hnone⟩ := hmeets.2.2.2.2.2.2
                    rw [hfound other hother, Option.some.inj (hbytes.symm.trans hrequired), hthreshold] at hnone
                    cases hnone
                  | none =>
                    rw [hthreshold] at h
                    simp only [not_or, not_le] at hencoded
                    exact .inl ⟨⟨hobserved, hcounts, hdelivered, not_not.mp hsum, not_not.mp hquality, hstage, metrics,
                      hmetrics, hencoded.1, hencoded.2, not_not.mp hclose, required, hrequired, hthreshold⟩, metrics,
                      hmetrics, h⟩

/-! ## Metrics of a run that passes -/

theorem nearestRank_nonneg (h : ∀ value ∈ values, 0 ≤ value) (percentile : Nat) :
    0 ≤ nearestRank values percentile := by
  unfold nearestRank
  rw [List.getD_eq_getElem?_getD]
  cases hrank : (values.insertionSort (· ≤ ·))[(percentile * values.length + 99) / 100 - 1]? with
  | none => exact le_refl 0
  | some value => exact h value ((List.mem_insertionSort (· ≤ ·)).mp (List.mem_of_getElem? hrank))

theorem rankOrNone_nonneg {percentile : Nat} (h : ∀ value ∈ values, 0 ≤ value) :
    ∀ rank ∈ rankOrNone values percentile, 0 ≤ rank := by
  unfold rankOrNone
  intro rank hrank
  split at hrank
  · cases hrank
  · cases hrank
    exact nearestRank_nonneg h percentile

theorem captureGaps_nonneg (h : (items.map Observation.captured).Pairwise (· < ·)) :
    ∀ gap ∈ captureGaps items, 0 ≤ gap := by
  induction items using captureGaps.induct with
  | case1 left right rest ih =>
    rw [List.map_cons, List.pairwise_cons] at h
    have hlater : left.captured < right.captured := h.1 right.captured (by simp)
    have hgap : (0 : Rat) ≤ ((right.captured - left.captured : Int) : Rat) / 1000000 := by
      apply div_nonneg
      · exact_mod_cast Int.sub_nonneg_of_le hlater.le
      · norm_num
    rw [captureGaps, List.forall_mem_cons]
    exact ⟨hgap, ih h.2⟩
  | case2 items hshort =>
    have hnil : captureGaps items = [] := by
      rw [captureGaps]
      exact hshort
    simp [hnil]

theorem captureGaps_ne_nil (h : 2 ≤ items.length) : captureGaps items ≠ [] := by
  match items, h with
  | left :: right :: rest, _ => simp [captureGaps]

theorem thresholdFailure_eq_none {required : Int}
    (h : thresholdFailure request accounting metrics required = none) :
    ((request.plan.requestedDurationSeconds : Rat) ≤ metrics.measuredTotalSeconds ∧
      (request.plan.requestedDurationSeconds : Rat) ≤ metrics.measuredPostWarmupSeconds) ∧
    (27 / 2 ≤ metrics.deliveredFramesPerSecond ∧ ∀ gap ∈ metrics.p95InterFrameGapMs, gap ≤ 200) ∧
    ((∃ latency ∈ metrics.p95PoseLatencyMs, latency ≤ 200) ∧ ∃ latency ∈ metrics.p99PoseLatencyMs, latency ≤ 500) ∧
    (∃ backlog ∈ metrics.backlogMs, backlog ≤ 2000) ∧
    (99 / 100 ≤ (accounting.processed : Rat) / accounting.deliveredFrames ∧
      ((accounting.droppedExplicit + accounting.failed : Int) : Rat) / accounting.deliveredFrames ≤ 1 / 100) ∧
    required ≤ request.disk.freeBytes ∧
    ∃ throughput ∈ metrics.p10PreflightThroughputBytesPerSecond, 2 * request.disk.encodedByteRate.toRat ≤ throughput := by
  have hany : ∀ {value : Option Rat} {bound : Rat}, ¬ value.any (bound < ·) = true → ∀ v ∈ value, v ≤ bound := by
    rintro value bound hnot v rfl
    simpa using hnot
  have hall : ∀ {value : Option Rat} {test : Rat → Bool}, ¬ value.all test = true → ∃ v ∈ value, test v = false := by
    intro value test hnot
    cases value with
    | none => exact absurd rfl hnot
    | some v => exact ⟨v, rfl, by simpa using hnot⟩
  unfold thresholdFailure at h
  dsimp only at h
  split at h
  · cases h
  · next hduration =>
    split at h
    · cases h
    · next hdelivery =>
      split at h
      · cases h
      · next hlatency =>
        split at h
        · cases h
        · next hbacklog =>
          split at h
          · cases h
          · next hratio =>
            split at h
            · cases h
            · next hroom =>
              split at h
              · cases h
              · next hthroughput =>
                rw [not_or, not_lt, not_lt] at hduration
                rw [not_or, not_lt] at hdelivery
                rw [not_or] at hlatency
                rw [not_or, not_lt, not_lt] at hratio
                obtain ⟨p95, hp95, hle95⟩ := hall hlatency.1
                obtain ⟨p99, hp99, hle99⟩ := hall hlatency.2
                obtain ⟨backlog, hsome, hle⟩ := hall hbacklog
                obtain ⟨throughput, hfound, hge⟩ := hall hthroughput
                exact ⟨hduration, ⟨hdelivery.1, hany hdelivery.2⟩,
                  ⟨⟨p95, hp95, by simpa using hle95⟩, p99, hp99, by simpa using hle99⟩,
                  ⟨backlog, hsome, by simpa using hle⟩, hratio, not_lt.mp hroom, throughput, hfound, by simpa using hge⟩

def poseLatencies (items : List Observation) : List Rat :=
  (items.filter fun item => item.disposition = some .processed).filterMap fun item =>
    item.processedMonotonicNs.int?.map fun time => ((time - item.captured : Int) : Rat) / 1000000

theorem poseLatencies_nonneg (h : ∀ item ∈ items, item.InOrder request) :
    ∀ latency ∈ poseLatencies items, 0 ≤ latency := by
  intro latency hlatency
  obtain ⟨item, hitem, hsome⟩ := List.mem_filterMap.mp hlatency
  rw [List.mem_filter, decide_eq_true_eq] at hitem
  obtain ⟨time, htime, rfl⟩ := Option.map_eq_some_iff.mp hsome
  have hlate : item.captured ≤ time := by
    cases (h item hitem.1).settled with
    | processed time' _ hcompleted hlate =>
      rw [hcompleted] at htime
      cases htime
      exact hlate
    | dropped reason hdisposition =>
      rw [hdisposition] at hitem
      cases hitem.2
    | failed code hdisposition =>
      rw [hdisposition] at hitem
      cases hitem.2
  apply div_nonneg
  · exact_mod_cast Int.sub_nonneg_of_le hlate
  · norm_num

theorem samples_nonneg {samples : List ThroughputSample} (h : samplesAreOrdered samples) :
    ∀ value ∈ samples.map (fun item => item.bytesPerSecond.toRat), 0 ≤ value := by
  intro value hvalue
  obtain ⟨sample, hsample, rfl⟩ := List.mem_map.mp hvalue
  obtain ⟨index, hindex, rfl⟩ := List.getElem_of_mem hsample
  have hmem : (samples[index], index) ∈ samples.zipIdx := by
    rw [List.mk_mem_zipIdx_iff_getElem?]
    exact List.getElem?_eq_getElem hindex
  exact (h _ hmem).2.2

theorem metricsOf_fields {post : List Observation} (h : metricsOf request post = some metrics) :
    ∃ start ∈ request.observations.head?, metrics.firstCaptureMonotonicNs = start.captured ∧
      metrics.runEndMonotonicNs = request.plan.runEndMonotonicNs ∧
      metrics.measuredTotalSeconds =
        ((request.plan.runEndMonotonicNs - start.captured : Int) : Rat) / 1000000000 ∧
      metrics.measuredTotalSeconds - metrics.measuredPostWarmupSeconds = request.plan.warmupSeconds ∧
      0 < metrics.measuredTotalSeconds ∧ 0 < metrics.measuredPostWarmupSeconds ∧
      metrics.deliveredFramesPerSecond = post.length / metrics.measuredPostWarmupSeconds ∧
      metrics.p95InterFrameGapMs = rankOrNone (captureGaps post) 95 ∧
      metrics.p95PoseLatencyMs = rankOrNone (poseLatencies post) 95 ∧
      metrics.p99PoseLatencyMs = rankOrNone (poseLatencies post) 99 ∧
      metrics.p10PreflightThroughputBytesPerSecond =
        some (nearestRank (request.disk.throughputSamples.map fun item => item.bytesPerSecond.toRat) 10) ∧
      (∀ backlog ∈ metrics.backlogMs, 0 ≤ backlog) := by
  unfold metricsOf at h
  cases hstart : request.observations.head? with
  | none => simp [hstart] at h
  | some start =>
    cases hlast : post.getLast? with
    | none => simp [hstart, hlast] at h
    | some last =>
      rw [hstart, hlast] at h
      dsimp only at h
      split at h
      · cases h
      · next hseconds =>
        split at h
        · cases h
        · next hbacklog =>
          cases h
          rw [not_or, not_le, not_le] at hseconds
          refine ⟨start, rfl, rfl, rfl, rfl, ?_, hseconds.1, hseconds.2, rfl, rfl, rfl, rfl, rfl,
            fun backlog hsome => ?_⟩
          · push_cast
            ring
          · simp only [Option.mem_def] at hsome
            simp only [hsome, Option.any_some, decide_eq_true_eq, not_lt] at hbacklog
            exact hbacklog

theorem isClose_self (a : Rat) {absTol : Rat} (h : 0 ≤ absTol) : isClose a a absTol := by
  unfold isClose
  rw [sub_self, abs_zero]
  exact h.trans (le_max_right _ _)

theorem two_le_length {length : Nat} {seconds : Rat} (hseconds : 60 ≤ seconds) (hrate : 27 / 2 ≤ (length : Rat) / seconds) :
    2 ≤ length := by
  have hpos : 0 < seconds := by linarith
  rw [le_div_iff₀ hpos] at hrate
  have hlength : (2 : Rat) ≤ length := by nlinarith
  exact_mod_cast hlength

theorem metricsOf_semantic {required : Int}
    (hvalid : validateRequest setup request = .ok ()) (hobserved : validateObservations request = none)
    (hdelivered : (accountingOf (splitWarmup request).2).deliveredFrames ≠ 0)
    (hmetrics : metricsOf request (splitWarmup request).2 = some metrics)
    (hthreshold : thresholdFailure request (accountingOf (splitWarmup request).2) metrics required = none)
    (haccounting : result.accounting = accountingOf (splitWarmup request).2)
    (hduration : result.requestedDurationSeconds = request.plan.requestedDurationSeconds)
    (hwarmup : result.warmupSeconds = request.plan.warmupSeconds)
    (hrate : result.encodedByteRate = request.disk.encodedByteRate) : metricsAreSemantic metrics result := by
  obtain ⟨start, hstart, hfirst, hend, htotal, hdifference, htotalpos, hpostpos, hfps, hgaps, hp95, hp99, hp10,
    hbacklog⟩ := metricsOf_fields hmetrics
  obtain ⟨⟨hlong, hlongpost⟩, ⟨hfast, hgap⟩, ⟨⟨p95, hsome95, hle95⟩, p99, hsome99, hle99⟩, ⟨backlog, hsomebacklog,
    hlebacklog⟩, ⟨hsuccess, hloss⟩, -, throughput, hsomethroughput, hlethroughput⟩ := thresholdFailure_eq_none hthreshold
  have hall := inOrder_of_validateObservations hobserved
  obtain ⟨-, hsublist⟩ := splitWarmup_sublists request
  have hpost : ∀ item ∈ (splitWarmup request).2, item.InOrder request := fun item hitem =>
    hall item (hsublist.subset hitem)
  have hsorted : ((splitWarmup request).2.map Observation.captured).Pairwise (· < ·) :=
    (inOrder_of_observationsFailure hobserved).2.1.sublist (hsublist.map _)
  have hstartOrder := hall start (List.mem_of_mem_head? hstart)
  have hminute : (60 : Rat) ≤ request.plan.requestedDurationSeconds := by
    rw [(validatePlan_ok hvalid).1]
    cases request.plan.runKind <;> norm_num [requiredDuration]
  have hframes : 2 ≤ (splitWarmup request).2.length := two_le_length (hminute.trans hlongpost) (hfps ▸ hfast)
  have hgapsome : metrics.p95InterFrameGapMs = some (nearestRank (captureGaps (splitWarmup request).2) 95) := by
    rw [hgaps, rankOrNone, if_neg (captureGaps_ne_nil hframes)]
  have hvalues : ∀ value ∈ metrics.values, value.isSome = true ∧ 0 ≤ value.getD 0 := by
    have hsample := samples_nonneg (validateDiskShape_ok hvalid).2
    unfold MetricSummary.values
    simp only [List.forall_mem_cons, List.not_mem_nil, IsEmpty.forall_iff, implies_true, and_true]
    refine ⟨⟨rfl, htotalpos.le⟩, ⟨rfl, hpostpos.le⟩, ⟨rfl, ?_⟩, ?_, ?_, ?_, ?_, ?_⟩
    · rw [Option.getD_some]
      linarith
    · rw [hgapsome]
      exact ⟨rfl, nearestRank_nonneg (captureGaps_nonneg hsorted) 95⟩
    · rw [hsome95]
      exact ⟨rfl, rankOrNone_nonneg (poseLatencies_nonneg hpost) p95 (hp95 ▸ hsome95)⟩
    · rw [hsome99]
      exact ⟨rfl, rankOrNone_nonneg (poseLatencies_nonneg hpost) p99 (hp99 ▸ hsome99)⟩
    · rw [hp10]
      exact ⟨rfl, nearestRank_nonneg hsample 10⟩
    · rw [hsomebacklog]
      exact ⟨rfl, hbacklog backlog hsomebacklog⟩
  unfold metricsAreSemantic
  rw [haccounting, hduration, hwarmup, hrate, hfirst, hend, ← htotal, hdifference, hsome95, hsome99, hsomebacklog,
    hsomethroughput]
  refine ⟨hvalues, hstartOrder.captured_nonneg, hstartOrder.captured_le, isClose_self _ (by norm_num),
    isClose_self _ (by norm_num), hlong, hlongpost, ?_, hfast, ?_, hle95, hle99, hlebacklog, hlethroughput, hdelivered,
    hsuccess, hloss⟩
  · rw [hfps]
    exact isClose_self _ (by norm_num)
  · rw [hgapsome]
    exact hgap _ hgapsome

theorem known_of_no_counts (h : failureCounts request false = some []) : request.Known := by
  obtain ⟨names, -, hknown⟩ := failureCounts_semantic_iff h
  exact hknown.mp (by decide)

theorem passingReceipt_verified_iff (hvalid : validateRequest setup request = .ok ())
    (hmeets : request.MeetsContract setup) (hmetrics : metricsOf request (splitWarmup request).2 = some metrics)
    (h : passingReceipt setup request metrics = some result) :
    verifyReceiptSemantics setup result = some true ↔ stagesSucceeded request.disk.stages := by
  obtain ⟨hobserved, -, hdelivered, -, hquality, -, other, hother, hcount, hrate, hclose, required, hrequired,
    hthreshold⟩ := hmeets
  obtain rfl : other = metrics := Option.some.inj (hother.symm.trans hmetrics)
  have hbytes : requiredBytes setup request.disk.encodedByteRate request.plan.requestedDurationSeconds = some required :=
    hrequired
  obtain ⟨hwarmup, hpost⟩ := split_semantic hobserved
  have hroom : required ≤ request.disk.freeBytes := (thresholdFailure_eq_none hthreshold).2.2.2.2.2.1
  have houtcome : outcomeIsSemantic result ↔ stagesSucceeded request.disk.stages := by
    have hsum : ((request.observations.length : Nat) : Int) =
        (accountingOf (splitWarmup request).1).deliveredFrames + (accountingOf (splitWarmup request).2).deliveredFrames := by
      rw [← splitWarmup_length request, Nat.cast_add]
      rfl
    have hmetricsSemantic := @metricsOf_semantic setup request result other required hvalid hobserved hdelivered hother
      hthreshold
    unfold passingReceipt receipt at h
    simp only [hbytes, Option.bind_eq_bind, Option.bind_some, Bool.false_eq_true, if_false] at h
    cases h
    constructor
    · rintro ⟨-, -, -, -, -, -, -, hstages, -⟩
      exact hstages
    · intro hstages
      exact ⟨rfl, rfl, rfl, hsum, hquality, hcount, hrate, hstages, hmetricsSemantic rfl rfl rfl rfl, hclose⟩
  rw [receipt_verified_iff hvalid (by simp) h, houtcome]
  constructor
  · rintro ⟨-, -, hstages, -⟩
    exact hstages
  · intro hstages
    exact ⟨⟨hwarmup, hpost, by decide⟩, ⟨required, hrequired, hroom⟩, hstages, Int.natCast_nonneg _, le_refl 0,
      Int.natCast_nonneg _⟩

/-! ## Which receipts of `evaluate` are accepted -/

theorem plain_of_checked {checked : Int} (h : 0 ≤ checked) : FailureDetail.Plain request { checked } := by
  have hitems : ∀ item ∈ ([] : List Observation), item.InOrder request := fun _ hitem => absurd hitem List.not_mem_nil
  exact ⟨.inl rfl, rfl, h, accountingOf_semantic hitems, empty_semantic⟩

theorem evaluateUnderLease_cases (hclear : ¬ request.Stopped guard)
    (h : evaluateUnderLease setup request guard = some result) :
    (request.MeetsContract setup ∧
        ∃ metrics ∈ metricsOf request (splitWarmup request).2, passingReceipt setup request metrics = some result) ∨
      ¬ request.MeetsContract setup ∧ ∃ code, ∃ detail : FailureDetail, (code = .privacyStop ↔ request.CountedStop) ∧
        detail.Plain request ∧ failureReceipt setup request code detail = some result := by
  have hstop : firstStop guard 0 request.observations = none := by simpa [ValidationInput.Stopped] using hclear
  unfold evaluateUnderLease at h
  rw [hstop] at h
  dsimp only at h
  cases hobserved : validateObservations request with
  | some error =>
    rw [hobserved] at h
    have herror : error ≠ .privacyStop := observationsFailure_ne_privacyStop hobserved
    refine .inr ⟨fun hmeets => ?_, error, _, iff_of_false herror fun hcounted => ?_,
      plain_of_checked (Int.natCast_nonneg _), h⟩
    · cases hobserved.symm.trans hmeets.1
    · cases hobserved.symm.trans hcounted.1
  | none =>
    rw [hobserved] at h
    dsimp only at h
    cases hcounts : failureCounts request false with
    | none => simp [hcounts] at h
    | some counts =>
      rw [hcounts, Option.bind_eq_bind, Option.bind_some] at h
      by_cases hnil : counts = []
      · rw [if_pos hnil] at h
        subst hnil
        rcases evaluateClean_cases hobserved hcounts h with hpasses | ⟨hfails, code, detail, hcode, hplain, hreceipt⟩
        · exact .inl hpasses
        · refine .inr ⟨hfails, code, detail, iff_of_false hcode fun hcounted => ?_, hplain, hreceipt⟩
          have hfirst := hcounted.2
          rw [hcounts] at hfirst
          cases hfirst
      · rw [if_neg hnil] at h
        cases hcode : firstCountCode counts with
        | none => simp [hcode] at h
        | some code =>
          rw [hcode, Option.bind_eq_bind, Option.bind_some] at h
          obtain ⟨hwarmup, hpost⟩ := split_semantic hobserved
          refine .inr ⟨fun hmeets => ?_, code, _, ?_,
            ⟨.inr hcounts.symm, rfl, Int.natCast_nonneg _, hwarmup, hpost⟩, h⟩
          · exact hnil (Option.some.inj (hcounts.symm.trans hmeets.2.1))
          · rw [ValidationInput.CountedStop, hcounts, Option.bind_some, hcode]
            constructor
            · rintro rfl
              exact ⟨hobserved, rfl⟩
            · rintro ⟨-, hstopped⟩
              exact Option.some.inj hstopped

theorem evaluateUnderLease_meets (hclear : ¬ request.Stopped guard) (h : request.MeetsContract setup) :
    (evaluateUnderLease setup request guard).isSome = true := by
  obtain ⟨hobserved, hcounts, hdelivered, hsum, hquality, hstage, metrics, hmetrics, hcount, hrate, hclose, required,
    hrequired, hthreshold⟩ := h
  have hbytes : requiredBytes setup request.disk.encodedByteRate request.plan.requestedDurationSeconds = some required :=
    hrequired
  have hfound : metricsOf request (splitWarmup request).2 = some metrics := hmetrics
  have hstop : firstStop guard 0 request.observations = none := by simpa [ValidationInput.Stopped] using hclear
  have hclean : evaluateClean setup request = passingReceipt setup request metrics := by
    unfold evaluateClean
    dsimp only
    rw [if_neg hdelivered, if_neg (not_not.mpr hsum), if_neg (not_not.mpr hquality), hstage, hfound]
    dsimp only
    rw [if_neg (by rw [not_or, not_le, not_le]; exact ⟨hcount, hrate⟩), if_neg (not_not.mpr hclose), hbytes,
      Option.bind_eq_bind, Option.bind_some, hthreshold]
    rfl
  unfold evaluateUnderLease
  rw [hstop]
  dsimp only
  rw [hobserved]
  dsimp only
  rw [hcounts, Option.bind_eq_bind, Option.bind_some, if_pos rfl, hclean, passingReceipt, receipt_isSome_iff]
  right
  rw [ValidationInput.Bounded, hbytes]
  rfl

/-- What the receipt of a validated request needs for `verify_receipt_semantics` to accept it. -/
def ValidationInput.Verifiable (setup : Setup) (request : ValidationInput) (guard : PrivacyGuard) : Prop :=
  request.Stopped guard ∨ ¬ request.CountedStop ∧ request.Known ∧ request.HasRoom setup ∧
    (request.MeetsContract setup → stagesSucceeded request.disk.stages)

theorem handler_plain : FailureDetail.Plain request {} := plain_of_checked (le_refl 0)

theorem privacyReceipt_verified {checked : Int} (hvalid : validateRequest setup request = .ok ()) (h : 1 ≤ checked) :
    verifyReceiptSemantics setup (privacyReceipt setup request.plan request.authority request.environment checked) =
      some true := by
  obtain ⟨hduration, hprofile⟩ := validatePlan_ok hvalid
  have hcounts : failureCountsAreSemantic [(D1FailureCode.privacyStop.value, 1)] := by decide
  have hhead : headIsSemantic
      (privacyReceipt setup request.plan request.authority request.environment checked) :=
    ⟨rfl, rfl, rfl, rfl, rfl, empty_semantic, empty_semantic, hcounts, hduration, hprofile⟩
  have hcode : (privacyReceipt setup request.plan request.authority request.environment checked).failureCode =
      some .privacyStop := rfl
  unfold verifyReceiptSemantics
  rw [if_neg (not_not.mpr hhead), if_pos hcode]
  refine congrArg some (decide_eq_true ⟨⟨rfl, rfl, h, rfl, rfl, rfl, rfl, rfl, rfl, rfl, rfl, rfl, rfl, rfl, ?_⟩, rfl⟩)
  simp [privacyReceipt, D1Receipt.sealed]

theorem firstStop_pos {observations : List Observation} {start checked : Nat}
    (h : firstStop guard start observations = some checked) : start < checked := by
  induction observations generalizing start with
  | nil => cases h
  | cons observation rest ih =>
    unfold firstStop at h
    split at h
    · have hlater := ih h
      omega
    · cases h
      omega

/-- The receipt that `evaluate` returns about a validated request, under a lease that acquires and releases normally,
is accepted by `verify_receipt_semantics` exactly if the request is verifiable. -/
theorem evaluate_verified_iff (hvalid : validateRequest setup request = .ok ())
    (hacquire : lease.acquire = .returnsTrue) (hrelease : lease.releaseRaises = false)
    (h : (evaluate setup request guard lease).result = .ok result) :
    verifyReceiptSemantics setup result = some true ↔ request.Verifiable setup guard := by
  have hresult : (evaluateUnderLease setup request guard).or
      (failureReceipt setup request .unknownTechnicalFailure {}) = some result := by
    unfold evaluate at h
    rw [hvalid, hacquire, hrelease] at h
    dsimp only at h
    split at h
    · cases h
    · next receipt hreceipt =>
      cases h
      exact hreceipt
  by_cases hstopped : request.Stopped guard
  · obtain ⟨checked, hchecked⟩ := Option.isSome_iff_exists.mp hstopped
    rw [evaluateUnderLease_privacyReceipt hchecked] at hresult
    cases hresult
    refine iff_of_true (privacyReceipt_verified hvalid ?_) (.inl hstopped)
    have hpos := firstStop_pos hchecked
    omega
  · rw [ValidationInput.Verifiable, or_iff_right hstopped]
    cases hevaluated : evaluateUnderLease setup request guard with
    | some evaluated =>
      rw [hevaluated] at hresult
      cases hresult
      rcases evaluateUnderLease_cases hstopped hevaluated with ⟨hmeets, metrics, hmetrics, hreceipt⟩ |
        ⟨hfails, code, detail, hcode, hplain, hreceipt⟩
      · have hroom : request.HasRoom setup := by
          obtain ⟨-, -, -, -, -, -, other, -, -, -, -, required, hrequired, hthreshold⟩ := hmeets
          exact ⟨required, hrequired, (thresholdFailure_eq_none hthreshold).2.2.2.2.2.1⟩
        have hnotstop : ¬ request.CountedStop := by
          rintro ⟨-, hfirst⟩
          rw [hmeets.2.1] at hfirst
          cases hfirst
        rw [passingReceipt_verified_iff hvalid hmeets hmetrics hreceipt]
        exact ⟨fun hstages => ⟨hnotstop, known_of_no_counts hmeets.2.1, hroom, fun _ => hstages⟩,
          fun hall => hall.2.2.2 hmeets⟩
      · by_cases hcounted : request.CountedStop
        · obtain rfl := hcode.mpr hcounted
          exact iff_of_false (failureReceipt_countedStop hplain hreceipt) fun hall => hall.1 hcounted
        · rw [failureReceipt_verified_iff hvalid hplain (fun hstop => hcounted (hcode.mp hstop)) hreceipt]
          exact ⟨fun hboth => ⟨hcounted, hboth.1, hboth.2, fun hmeets => absurd hmeets hfails⟩,
            fun hall => ⟨hall.2.1, hall.2.2.1⟩⟩
    | none =>
      rw [hevaluated, Option.none_or] at hresult
      have hfails : ¬ request.MeetsContract setup := by
        intro hmeets
        have hsome := evaluateUnderLease_meets hstopped hmeets
        rw [hevaluated] at hsome
        cases hsome
      have hnotstop : ¬ request.CountedStop := by
        intro hcounted
        have hsome : (evaluateUnderLease setup request guard).isSome = true := evaluateUnderLease_countedStop hcounted
        rw [hevaluated] at hsome
        cases hsome
      rw [failureReceipt_verified_iff hvalid handler_plain (by decide) hresult]
      exact ⟨fun hboth => ⟨hnotstop, hboth.1, hboth.2, fun hmeets => absurd hmeets hfails⟩,
        fun hall => ⟨hall.2.1, hall.2.2.1⟩⟩

namespace Sample

def processedFrame (index : Nat) : Observation where
  sourceKind := some .testChart
  capturedMonotonicNs := .int (1000000000 + 66666667 * (index : Int))
  processedMonotonicNs := .int (1010000000 + 66666667 * (index : Int))
  disposition := some .processed
  qualityInsufficient := .bool false
  failureCode := .none
  dropReason := .none

/-- Sixty-five seconds at 15 frames a second, all of them processed after ten milliseconds. -/
def passingRequest : ValidationInput :=
  { Sample.request ((List.range 975).map processedFrame) with
    plan := { plan with runEndMonotonicNs := 66000000000 }
    disk := { disk with encodedByteCount := 65, stages := ⟨.succeeded, .succeeded, .succeeded, .succeeded⟩ } }

end Sample

theorem result_of_outcome {result : Except EvaluateError D1Receipt} {outcome : ValidationOutcome}
    (h : result.toOption.map D1Receipt.outcome = some outcome) : ∃ receipt, result = .ok receipt ∧ receipt.outcome = outcome := by
  cases result with
  | error e => cases h
  | ok receipt => exact ⟨receipt, rfl, Option.some.inj h⟩

/-- A receipt about a privacy stop, one about a failure and one about a run that passes. -/
theorem evaluate_verified_iff_sample :
    (∃ result, (evaluate Sample.setup (Sample.request [Sample.frame (.code .frameStalled)]) Sample.stoppingGuard
        Sample.calmLease).result = .ok result ∧ verifyReceiptSemantics Sample.setup result = some true) ∧
    (∃ result, (evaluate Sample.setup (Sample.request [Sample.frame (.code .frameStalled)]) Sample.clearGuard
        Sample.calmLease).result = .ok result ∧ result.outcome = .noGo ∧
        verifyReceiptSemantics Sample.setup result = some true) ∧
    ∃ result, (evaluate Sample.setup Sample.passingRequest Sample.clearGuard Sample.calmLease).result = .ok result ∧
      result.outcome = .backendContractPass ∧ verifyReceiptSemantics Sample.setup result = some true := by
  refine ⟨?_, ?_, ?_⟩
  · have hstop : firstStop Sample.stoppingGuard 0 (Sample.request [Sample.frame (.code .frameStalled)]).observations =
        some 1 := rfl
    have hresult := evaluate_stopped Sample.request_valid (show Sample.calmLease.acquire = .returnsTrue from rfl) hstop
    rw [if_neg (by decide)] at hresult
    exact ⟨_, hresult, (evaluate_verified_iff Sample.request_valid rfl rfl hresult).mpr (.inl (by
      rw [ValidationInput.Stopped, hstop]
      rfl))⟩
  · obtain ⟨result, hresult, houtcome⟩ := @result_of_outcome (evaluate Sample.setup
      (Sample.request [Sample.frame (.code .frameStalled)]) Sample.clearGuard Sample.calmLease).result .noGo
        (by decide +kernel)
    refine ⟨result, hresult, houtcome, (evaluate_verified_iff Sample.request_valid rfl rfl hresult).mpr ?_⟩
    refine .inr ⟨fun h => absurd h.2 (by decide +kernel), ?_, ⟨_, rfl, by decide⟩, fun h => absurd h.2.1 (by decide +kernel)⟩
    intro item hitem names hnames name hname
    obtain rfl := List.mem_singleton.mp hitem
    obtain rfl := Option.some.inj hnames
    obtain rfl := List.mem_singleton.mp hname
    decide
  · obtain ⟨result, hresult, houtcome⟩ := @result_of_outcome (evaluate Sample.setup Sample.passingRequest
      Sample.clearGuard Sample.calmLease).result .backendContractPass (by decide +kernel)
    have hvalid : validateRequest Sample.setup Sample.passingRequest = .ok () := by decide +kernel
    have hcounts : failureCounts Sample.passingRequest false = some [] := by decide +kernel
    refine ⟨result, hresult, houtcome, (evaluate_verified_iff hvalid rfl rfl hresult).mpr ?_⟩
    refine .inr ⟨?_, known_of_no_counts hcounts, ⟨_, rfl, by decide⟩, fun _ => by decide⟩
    rintro ⟨-, hstop⟩
    rw [hcounts] at hstop
    cases hstop

namespace Sample

def crowdedRequest : ValidationInput :=
  { Sample.request [frame (.code .frameStalled)] with disk := { disk with freeBytes := 1 } }

end Sample

/-- A receipt about a full disk is not accepted. -/
theorem evaluate_crowded :
    validateRequest Sample.setup Sample.crowdedRequest = .ok () ∧ Sample.calmLease.acquire = .returnsTrue ∧
      Sample.calmLease.releaseRaises = false ∧
      (evaluate Sample.setup Sample.crowdedRequest Sample.clearGuard Sample.calmLease).result.toOption.map
        (verifyReceiptSemantics Sample.setup) = some (some false) := by
  refine ⟨?_, rfl, rfl, ?_⟩
  · decide +kernel
  · decide +kernel

end PduExamObserver.D1Contract
