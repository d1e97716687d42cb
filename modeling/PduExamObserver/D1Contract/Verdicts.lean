import PduExamObserver.D1Contract.Verification

/-! # The failure codes of an evaluation

What decides the failure code of a receipt: the scan of the observations, the counted failures, and the checks that
follow them. -/

namespace PduExamObserver.D1Contract
open Tally
set_option autoImplicit false

variable {setup : Setup} {request : ValidationInput} {guard : PrivacyGuard} {lease : Lease} {result : D1Receipt}
  {code : D1FailureCode} {detail : FailureDetail}

def ValidationInput.Mismeasured (request : ValidationInput) : Prop :=
  let post := accountingOf (splitWarmup request).2
  post.deliveredFrames ≠ 0 ∧
    (post.processed + post.droppedExplicit + post.failed ≠ post.deliveredFrames ∨
      metricsOf request (splitWarmup request).2 = none ∨
      ∃ metrics ∈ metricsOf request (splitWarmup request).2,
        ¬ isClose (request.disk.encodedByteCount / request.disk.encodedByteRate.toRat) metrics.measuredTotalSeconds
          (1 / 1000))

def cleanCodes : List D1FailureCode :=
  [.inputUnavailable, .qualityInsufficient, .encoderUnavailable, .encoderWriteFailed, .encoderFinalizeFailed,
    .diskFsyncFailed, .diskSpaceInsufficient, .diskThroughputInsufficient]

theorem stageFailure_mem {stages : EncoderDurabilityEvidence} (h : stageFailure stages = some code) :
    code ∈ cleanCodes := by
  unfold stageFailure at h
  unfold cleanCodes
  grind

theorem thresholdFailure_mem {accounting : Accounting} {metrics : MetricSummary} {required : Int}
    (h : thresholdFailure request accounting metrics required = some code) : code ∈ cleanCodes := by
  unfold thresholdFailure at h
  unfold cleanCodes
  grind

theorem evaluateClean_code (h : evaluateClean setup request = some result) :
    result.failureCode = none ∨ (∃ code ∈ cleanCodes, result.failureCode = some code) ∨
      result.failureCode = some .schemaIncompatible ∧ request.Mismeasured := by
  have hfailed : ∀ {code : D1FailureCode} {detail : FailureDetail}, code ∈ cleanCodes →
      failureReceipt setup request code detail = some result →
      result.failureCode = none ∨ (∃ code ∈ cleanCodes, result.failureCode = some code) ∨
        result.failureCode = some .schemaIncompatible ∧ request.Mismeasured := fun hcode h =>
    .inr (.inl ⟨_, hcode, (failureReceipt_fields h).2.1⟩)
  unfold evaluateClean at h
  dsimp only at h
  split at h
  · exact hfailed (by decide) h
  · rename_i hdelivered
    split at h
    · rename_i hsum
      exact .inr (.inr ⟨(failureReceipt_fields h).2.1, hdelivered, .inl hsum⟩)
    · split at h
      · exact hfailed (by decide) h
      · split at h
        · rename_i code hstage
          exact hfailed (stageFailure_mem hstage) h
        · split at h
          · rename_i hmetrics
            exact .inr (.inr ⟨(failureReceipt_fields h).2.1, hdelivered, .inr (.inl hmetrics)⟩)
          · rename_i metrics hmetrics
            split at h
            · exact hfailed (by decide) h
            · split at h
              · rename_i hclose
                exact .inr (.inr ⟨(failureReceipt_fields h).2.1, hdelivered, .inr (.inr ⟨metrics, hmetrics, hclose⟩)⟩)
              · obtain ⟨required, -, h⟩ := Option.bind_eq_some_iff.mp h
                cases hthreshold : thresholdFailure request (accountingOf (splitWarmup request).2) metrics required with
                | some code =>
                  rw [hthreshold] at h
                  exact hfailed (thresholdFailure_mem hthreshold) h
                | none =>
                  rw [hthreshold] at h
                  exact .inl (receipt_fields h).2.1

inductive Verdict (setup : Setup) (request : ValidationInput) (result : D1Receipt) : Prop
  | objected (code : D1FailureCode) (hobserved : validateObservations request = some code)
      (houtcome : result.outcome = .noGo) (hcode : result.failureCode = some code)
  | counted (hobserved : validateObservations request = none) (counts : List (String × Int))
      (hcounts : failureCounts request false = some counts) (hne : counts ≠ []) (code : D1FailureCode)
      (hfirst : firstCountCode counts = some code) (houtcome : result.outcome = .noGo)
      (hcode : result.failureCode = some code)
  | clean (hobserved : validateObservations request = none) (hcounts : failureCounts request false = some [])
      (hclean : evaluateClean setup request = some result)

theorem evaluateUnderLease_verdict (hstop : firstStop guard 0 request.observations = none)
    (h : evaluateUnderLease setup request guard = some result) : Verdict setup request result := by
  unfold evaluateUnderLease at h
  rw [hstop] at h
  dsimp only at h
  cases hobserved : validateObservations request with
  | some error =>
    rw [hobserved] at h
    obtain ⟨houtcome, hcode, -⟩ := failureReceipt_fields h
    exact .objected error hobserved houtcome hcode
  | none =>
    rw [hobserved] at h
    obtain ⟨counts, hcounts, h⟩ := Option.bind_eq_some_iff.mp h
    by_cases hnil : counts = []
    · rw [if_pos hnil] at h
      exact .clean hobserved (hnil ▸ hcounts) h
    · rw [if_neg hnil] at h
      obtain ⟨code, hfirst, h⟩ := Option.bind_eq_some_iff.mp h
      obtain ⟨houtcome, hcode, -⟩ := failureReceipt_fields h
      exact .counted hobserved counts hcounts hnil code hfirst houtcome hcode

theorem handled_verdict (hstop : firstStop guard 0 request.observations = none) (hknown : request.Known)
    (h : (evaluateUnderLease setup request guard).or (failureReceipt setup request .unknownTechnicalFailure {}) =
      some result) :
    Verdict setup request result ∨
      result.failureCode = some .unknownTechnicalFailure ∧ validateObservations request = none ∧
        failureCounts request false = some [] := by
  cases hresult : evaluateUnderLease setup request guard with
  | some found =>
    rw [hresult] at h
    cases h
    exact .inl (evaluateUnderLease_verdict hstop hresult)
  | none =>
    rw [hresult, Option.none_or] at h
    right
    have hboth : (failureReceipt setup request .unknownTechnicalFailure {}).isSome = true := by rw [h]; rfl
    rw [handlerReceipt_isSome_iff (by decide)] at hboth
    obtain ⟨hcountable, hbounded⟩ := hboth
    have hfails : ∀ (code : D1FailureCode) (detail : FailureDetail),
        (failureReceipt setup request code detail).isSome = true := fun code detail =>
      failureReceipt_isSome_iff.mpr ⟨.inr hcountable, .inr hbounded⟩
    unfold evaluateUnderLease at hresult
    rw [hstop] at hresult
    dsimp only at hresult
    cases hobserved : validateObservations request with
    | some error =>
      rw [hobserved] at hresult
      dsimp only at hresult
      have hsome := hfails error { checked := request.observations.length }
      rw [hresult] at hsome
      cases hsome
    | none =>
      rw [hobserved] at hresult
      dsimp only at hresult
      obtain ⟨counts, hcounts⟩ := Option.isSome_iff_exists.mp ((failureCounts_isSome_iff request false).mpr hcountable)
      rw [hcounts, Option.bind_eq_bind, Option.bind_some] at hresult
      by_cases hnil : counts = []
      · exact ⟨(failureReceipt_fields h).2.1, rfl, hnil ▸ hcounts⟩
      · rw [if_neg hnil] at hresult
        obtain ⟨names, hnames, hsemantic⟩ := failureCounts_semantic_iff hcounts
        obtain ⟨item, rest, hcons⟩ := List.exists_cons_of_ne_nil hnil
        have hitem : item.1 ∈ D1FailureCode.all.map D1FailureCode.value :=
          ((hsemantic.mpr hknown).2.2 item (by rw [hcons]; exact List.mem_cons_self)).2
        obtain ⟨code, -, hcode⟩ := List.mem_map.mp hitem
        have hfirst : firstCountCode counts = some code := by
          rw [firstCountCode, hcons, List.head?_cons, Option.bind_some, ← hcode, D1FailureCode.ofValue?_value]
        rw [hfirst, Option.bind_eq_bind, Option.bind_some] at hresult
        have hsome := hfails code
          { warmup := (splitWarmup request).1, accounting := accountingOf (splitWarmup request).2,
            checked := request.observations.length, counts := some counts }
        rw [hresult] at hsome
        cases hsome

theorem firstCountCode_mem {counts : List (String × Int)} (h : firstCountCode counts = some code) :
    code.value ∈ counts.map Prod.fst := by
  cases counts with
  | nil => cases h
  | cons item rest =>
    have hfound : D1FailureCode.ofValue? item.1 = some code := h
    have hvalue : code.value = item.1 := by simpa using List.find?_some hfound
    rw [hvalue, List.map_cons]
    exact List.mem_cons_self

theorem mem_failureCounts {counts : List (String × Int)} (hinjected : request.injectedFailures = [])
    (h : failureCounts request false = some counts) {name : String} :
    name ∈ counts.map Prod.fst ↔ ∃ item ∈ request.observations, ∃ names ∈ item.failureNames, name ∈ names := by
  unfold failureCounts at h
  obtain ⟨lists, hlists, h⟩ := Option.bind_eq_some_iff.mp h
  simp only [hinjected, List.map_nil, Bool.false_eq_true, if_false, List.append_nil, Option.pure_def,
    Option.some.injEq] at h
  subst h
  have hkeys : name ∈ (tally lists.flatten).map Prod.fst ↔ name ∈ lists.flatten := mem_tally_keys
  rw [← mapM_eq_some_flatten hlists, ← hkeys, List.mem_map, List.mem_map]
  simp only [mem_sortItems]

/-! ## Measurements of observations in order -/

theorem latestCompleted_mem {items : List Observation} {latest : Observation} (h : latestCompleted items = some latest) :
    latest ∈ items := by
  have hfold (step : Option Observation → Observation → Option Observation)
      (hstep : ∀ found item, step found item = found ∨ step found item = some item) (rest : List Observation) :
      ∀ found, rest.foldl step found = some latest → found = some latest ∨ latest ∈ rest := by
    induction rest with
    | nil => exact fun found hfound => .inl hfound
    | cons item rest ih =>
      intro found hfound
      rcases ih _ hfound with hsame | hmem
      · rcases hstep found item with hold | hnew
        · exact .inl (hold ▸ hsame)
        · cases hnew.symm.trans hsame
          exact .inr List.mem_cons_self
      · exact .inr (List.mem_cons_of_mem _ hmem)
  refine (hfold _ ?_ items none h).resolve_left (by simp)
  intro found item
  cases found with
  | none => exact .inr rfl
  | some best =>
    dsimp only
    split
    · exact .inr rfl
    · exact .inl rfl

theorem captured_le_getLast {items : List Observation} {item last : Observation}
    (h : (items.map Observation.captured).Pairwise (· < ·)) (hlast : items.getLast? = some last) (hitem : item ∈ items) :
    item.captured ≤ last.captured := by
  obtain ⟨front, rfl⟩ := List.getLast?_eq_some_iff.mp hlast
  rcases List.mem_append.mp hitem with hfront | htail
  · rw [List.map_append, List.pairwise_append] at h
    have hlt : item.captured < last.captured :=
      h.2.2 item.captured (List.mem_map_of_mem hfront) last.captured (by simp)
    exact hlt.le
  · rw [List.mem_singleton.mp htail]

theorem metricsOf_isSome (hobserved : validateObservations request = none)
    (hpost : (splitWarmup request).2 ≠ [])
    (hend : ∀ item ∈ request.observations, item.captured < request.plan.runEndMonotonicNs) :
    metricsOf request (splitWarmup request).2 ≠ none := by
  have hsorted := (inOrder_of_observationsFailure hobserved).2.1
  have hsublist := (splitWarmup_sublists request).2
  have hpostSorted : ((splitWarmup request).2.map Observation.captured).Pairwise (· < ·) :=
    hsorted.sublist (hsublist.map _)
  cases hobservations : request.observations with
  | nil =>
    rw [hobservations] at hsublist
    exact absurd (List.sublist_nil.mp hsublist) hpost
  | cons first rest =>
    obtain ⟨item, hitem⟩ := List.exists_mem_of_ne_nil _ hpost
    have hfirst : first.captured < request.plan.runEndMonotonicNs := hend first (by rw [hobservations]; exact List.mem_cons_self)
    have hitemEnd := hend item (hsublist.subset hitem)
    have hboundary : first.captured + request.plan.warmupSeconds * 1000000000 ≤ item.captured := by
      unfold splitWarmup at hitem
      rw [hobservations] at hitem
      simpa using (List.mem_filter.mp hitem).2
    have hlast := List.getLast?_eq_some_getLast hpost
    unfold metricsOf
    rw [hobservations, List.head?_cons, hlast]
    dsimp only
    have htotal : (0 : Rat) < ((request.plan.runEndMonotonicNs - first.captured : Int) : Rat) / 1000000000 := by
      have hpos : (0 : Rat) < ((request.plan.runEndMonotonicNs - first.captured : Int) : Rat) := by
        exact_mod_cast Int.sub_pos_of_lt hfirst
      positivity
    have hpostSeconds : (0 : Rat) < ((request.plan.runEndMonotonicNs -
        (first.captured + request.plan.warmupSeconds * 1000000000) : Int) : Rat) / 1000000000 := by
      have hpos : (0 : Rat) < ((request.plan.runEndMonotonicNs -
          (first.captured + request.plan.warmupSeconds * 1000000000) : Int) : Rat) := by
        exact_mod_cast Int.sub_pos_of_lt (lt_of_le_of_lt hboundary hitemEnd)
      positivity
    rw [if_neg (by rw [not_or, not_le, not_le]; exact ⟨htotal, hpostSeconds⟩)]
    rw [if_neg]
    · exact Option.some_ne_none _
    · intro hbacklog
      rw [Option.any_map] at hbacklog
      cases hlatest : latestCompleted ((splitWarmup request).2.filter fun item => item.disposition = some .processed) with
      | none =>
        rw [hlatest] at hbacklog
        cases hbacklog
      | some latest =>
        have hmem := (List.mem_filter.mp (latestCompleted_mem hlatest)).1
        have hle : latest.captured ≤ ((splitWarmup request).2.getLast hpost).captured :=
          captured_le_getLast hpostSorted hlast hmem
        rw [hlatest, Option.any_some] at hbacklog
        have hnegative := of_decide_eq_true hbacklog
        have hnonneg : (0 : Rat) ≤ ((((splitWarmup request).2.getLast hpost).captured - latest.captured : Int) : Rat) := by
          exact_mod_cast Int.sub_nonneg_of_le hle
        have hquotient : (0 : Rat) ≤
            ((((splitWarmup request).2.getLast hpost).captured - latest.captured : Int) : Rat) / 1000000 := by
          positivity
        linarith

end PduExamObserver.D1Contract
