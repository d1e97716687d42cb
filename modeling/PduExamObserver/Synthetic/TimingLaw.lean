import PduExamObserver.Synthetic.Agreement

/-! # Runner and evaluator on the timing of a run

The receipt of a run whose guard answers `CLEAR` and that has no injected failures, against what the runner reported. -/

namespace PduExamObserver.Synthetic
open D1Contract
set_option autoImplicit false

section Runs

variable {setup : Setup} {runner : SyntheticRunner} {request : SyntheticRequest} {core : SyntheticCore}
  {bindings : SyntheticEnvironmentBindings} {memory : Memory} {answers : Nat → FrameAnswers}
  {observed : TechnicalObservation} {observations : List TechnicalObservation} {validation : ValidationInput}
  {lastCaptured lastProcessed : Option Int} {items : List Observation} {guard : PrivacyGuard} {lease : Lease}
  {result : D1Receipt}

/-! ## What the runner has reported -/

def reported (observations : List TechnicalObservation) : List TechnicalFailureCode :=
  observations.filterMap TechnicalObservation.failureCode

def Mistimed (observations : List TechnicalObservation) : Prop :=
  .clockRegression ∈ reported observations ∨ .frameStalled ∈ reported observations

def AllProcessed (observations : List TechnicalObservation) : Prop :=
  ∀ observed ∈ observations, observed.processingState = .processed

def endOfRun (observations : List TechnicalObservation) : Int :=
  max (((observations.getLast?.map TechnicalObservation.capturedMonotonicNs).getD 0) + 10000000)
    (((observations.filterMap fun observed =>
      if observed.processingState = .processed then observed.processedMonotonicNs else none).max?).getD 0)

def objection (lease : Lease) (observations : List TechnicalObservation) : Option D1FailureCode :=
  if lease.acquire = .returnsTrue ∧ lease.releaseRaises = false then clash (endOfRun observations) none observations
  else some .schemaIncompatible

inductive Reports (observed : TechnicalObservation) : Prop
  | failed (code : TechnicalFailureCode) (hstate : observed.processingState = .failed)
      (hfailure : observed.failureCode = some code)
  | processed (time : Int) (hstate : observed.processingState = .processed)
      (htime : observed.processedMonotonicNs = some time) (hordered : observed.capturedMonotonicNs ≤ time)
      (hquality : observed.qualityState = .insufficient ∧ observed.failureCode = some .qualityInsufficient ∨
        observed.qualityState = .valid ∧ observed.failureCode = none)

theorem reports_of_frames (h : Frames lastCaptured lastProcessed observations) :
    ∀ observed ∈ observations, Reports observed := by
  induction h with
  | nil => exact fun observed hobserved => absurd hobserved List.not_mem_nil
  | rejected code hcode hstate hprocessed hfailure hrest ih =>
    exact List.forall_mem_cons.mpr ⟨.failed code hstate hfailure, ih⟩
  | failed code next haccepted hstate hfailure hrejection hnext hrest ih =>
    exact List.forall_mem_cons.mpr ⟨.failed code hstate hfailure, ih⟩
  | processed time haccepted hstate htime hordered hafter hquality hrest ih =>
    exact List.forall_mem_cons.mpr ⟨.processed time hstate htime hordered hquality, ih⟩

theorem failureNames_map {item : Observation} (hreports : Reports observed)
    (h : mapTechnicalObservation observed = .ok item) :
    item.failureNames = some (observed.failureCode.toList.map D1FailureCode.value) := by
  cases hreports with
  | failed code hstate hfailure =>
    obtain ⟨kind, rfl⟩ := map_failed hstate hfailure h
    rw [hfailure]
    rfl
  | processed time hstate htime hordered hquality =>
    obtain ⟨kind, rfl⟩ := map_processed hstate htime h
    rcases hquality with ⟨hstate', hfailure⟩ | ⟨hstate', hfailure⟩
    · simp [Observation.failureNames, processedItem, hstate', hfailure, Json.truthy]
    · simp [Observation.failureNames, processedItem, hstate', hfailure, Json.truthy]

theorem readings_map {item : Observation} (hreports : Reports observed)
    (h : mapTechnicalObservation observed = .ok item) :
    item.captured = observed.capturedMonotonicNs ∧
      item.processedMonotonicNs.int? =
        if observed.processingState = .processed then observed.processedMonotonicNs else none := by
  cases hreports with
  | failed code hstate hfailure =>
    obtain ⟨kind, rfl⟩ := map_failed hstate hfailure h
    rw [if_neg (by rw [hstate]; decide)]
    exact ⟨rfl, rfl⟩
  | processed time hstate htime hordered hquality =>
    obtain ⟨kind, rfl⟩ := map_processed hstate htime h
    rw [if_pos hstate, htime]
    exact ⟨rfl, rfl⟩

/-! ## What the evaluator is given -/

theorem mapped_forall₂ (h : observations.mapM mapTechnicalObservation = .ok items) :
    List.Forall₂ (fun observed item => mapTechnicalObservation observed = .ok item) observations items := by
  induction observations generalizing items with
  | nil =>
    cases h
    exact .nil
  | cons observed rest ih =>
    rw [List.mapM_cons] at h
    obtain ⟨item, hitem, h⟩ := bind_ok_iff.mp h
    obtain ⟨others, hothers, h⟩ := bind_ok_iff.mp h
    cases h
    exact .cons hitem (ih hothers)

theorem runEndOf_map {last : Observation} (hreports : ∀ observed ∈ observations, Reports observed)
    (hmap : observations.mapM mapTechnicalObservation = .ok items) (hlast : items.getLast? = some last) :
    runEndOf items last = endOfRun observations := by
  have hpairs := mapped_forall₂ hmap
  have htimes : (items.filterMap fun item => item.processedMonotonicNs.int?) =
      observations.filterMap fun observed =>
        if observed.processingState = .processed then observed.processedMonotonicNs else none := by
    clear hlast hmap
    induction hpairs with
    | nil => rfl
    | cons hitem hrest ih =>
      obtain ⟨hfirst, hothers⟩ := List.forall_mem_cons.mp hreports
      rw [List.filterMap_cons, List.filterMap_cons, (readings_map hfirst hitem).2, ih hothers]
  have hcaptures : items.map Observation.captured = observations.map TechnicalObservation.capturedMonotonicNs := by
    clear hlast hmap htimes
    induction hpairs with
    | nil => rfl
    | cons hitem hrest ih =>
      obtain ⟨hfirst, hothers⟩ := List.forall_mem_cons.mp hreports
      rw [List.map_cons, List.map_cons, (readings_map hfirst hitem).1, ih hothers]
  have hcaptured : last.captured =
      (observations.getLast?.map TechnicalObservation.capturedMonotonicNs).getD 0 := by
    rw [← List.getLast?_map, ← hcaptures, List.getLast?_map, hlast]
    rfl
  rw [runEndOf, endOfRun, hcaptured, htimes]

structure Given (observations : List TechnicalObservation) (items : List Observation)
    (bindings : SyntheticEnvironmentBindings) (validation : ValidationInput) : Prop where
  mapped : observations.mapM mapTechnicalObservation = .ok items
  frames : Frames none none observations
  items_eq : validation.observations = items
  kinds : ∀ item ∈ items, item.sourceKind = some validation.inputKind
  runEnd : validation.plan.runEndMonotonicNs = endOfRun observations
  injected : validation.injectedFailures = bindings.injectedFailureCodes
  warmup : validation.plan.warmupSeconds = 5
  disk : ∃ first ∈ items.head?, validation.disk = diskOf first (endOfRun observations)

theorem evaluatorInput_given (hseq : memory.lastFrameSeq request.runId = none)
    (hcaptured : memory.lastCapturedNs request.runId = none)
    (hprocessed : memory.lastProcessedNs request.runId = none)
    (h : evaluatorInput setup runner memory answers bindings request core = .ok (observations, validation)) :
    ∃ items, Given observations items bindings validation := by
  obtain ⟨⟨⟩, hvalid, h⟩ := bind_ok_iff.mp h
  rw [require_eq_ok] at hvalid
  obtain ⟨found, hrun, h⟩ := bind_ok_iff.mp h
  obtain ⟨items, hmap, h⟩ := bind_ok_iff.mp h
  obtain ⟨built, hbuild, h⟩ := bind_ok_iff.mp h
  cases h
  have hfixtures : fixturesAreValid request.runId (-1) [] request.fixtures = true := by
    have hrequest := hvalid.1
    unfold requestIsValid at hrequest
    split at hrequest
    · cases hrequest
    · rename_i first rest hfixtures
      simp only [Bool.and_eq_true] at hrequest
      rw [hfixtures]
      rw [hfixtures] at hrequest
      exact hrequest.2
  have hframes : Frames none none observations := by
    have hfound := runFixtures_frames hfixtures (le_refl _) (fun last hlast => by rw [hseq] at hlast; cases hlast) hrun
    rw [hcaptured, hprocessed] at hfound
    exact hfound
  have hreports := reports_of_frames hframes
  refine ⟨items, ?_⟩
  unfold buildValidationInput at hbuild
  split at hbuild
  · rename_i first rest last hlast
    obtain ⟨⟨⟩, hkinds, hbuild⟩ := bind_ok_iff.mp hbuild
    obtain ⟨kind, hkind, hbuild⟩ := bind_ok_iff.mp hbuild
    rw [require_eq_ok, List.all_eq_true] at hkinds
    rw [orError_eq_ok] at hkind
    cases hbuild
    have hend : runEndOf (first :: rest) last = endOfRun observations := runEndOf_map hreports hmap hlast
    refine ⟨hmap, hframes, rfl, fun item hitem => ?_, hend, rfl, rfl, first, rfl, ?_⟩
    · rw [← hkind]
      exact of_decide_eq_true (hkinds item hitem)
    · rw [← hend]
  · cases hbuild

/-! ## The verdict -/

theorem max_getD_le {values : List Int} {value : Int} (h : value ∈ values) : value ≤ values.max?.getD 0 := by
  cases hmax : values.max? with
  | none =>
    rw [List.max?_eq_none_iff] at hmax
    rw [hmax] at h
    cases h
  | some greatest => exact (List.max?_eq_some_iff.mp hmax).2 value h

theorem processed_le_endOfRun {time : Int} (hobserved : observed ∈ observations)
    (hstate : observed.processingState = .processed) (htime : observed.processedMonotonicNs = some time) :
    time ≤ endOfRun observations := by
  refine le_trans (max_getD_le ?_) (le_max_right _ _)
  refine List.mem_filterMap.mpr ⟨observed, hobserved, ?_⟩
  rw [if_pos hstate, htime]

theorem validateObservations_eq (hgiven : Given observations items bindings validation)
    (hnear : NearRun none observations) :
    validateObservations validation =
      (clash (endOfRun observations) none observations).or (observations.findSome? TechnicalObservation.rejection) := by
  have hscan := @observationsFailure_eq _ _ _ _ none _ hgiven.frames hgiven.mapped hgiven.kinds
    (fun observed hobserved hstate time htime => ?_) hnear
  · rw [validateObservations, hgiven.items_eq, hscan, hgiven.runEnd]
  · rw [hgiven.runEnd]
    exact processed_le_endOfRun hobserved hstate htime

theorem items_failureNames (hgiven : Given observations items bindings validation) :
    (∀ item ∈ items, ∃ observed ∈ observations,
      item.failureNames = some (observed.failureCode.toList.map D1FailureCode.value)) ∧
    ∀ observed ∈ observations, ∃ item ∈ items,
      item.failureNames = some (observed.failureCode.toList.map D1FailureCode.value) := by
  have hreports := reports_of_frames hgiven.frames
  obtain ⟨hback, hforth⟩ := mapM_ok_mem hgiven.mapped
  constructor
  · intro item hitem
    obtain ⟨observed, hobserved, hmap⟩ := hback item hitem
    exact ⟨observed, hobserved, failureNames_map (hreports observed hobserved) hmap⟩
  · intro observed hobserved
    obtain ⟨item, hitem, hmap⟩ := hforth observed hobserved
    exact ⟨item, hitem, failureNames_map (hreports observed hobserved) hmap⟩

theorem known_of_given (hgiven : Given observations items bindings validation) : validation.Known := by
  intro item hitem names hnames name hname
  rw [hgiven.items_eq] at hitem
  obtain ⟨observed, hobserved, hmap⟩ := (items_failureNames hgiven).1 item hitem
  rw [hmap] at hnames
  cases hnames
  obtain ⟨code, -, rfl⟩ := List.mem_map.mp hname
  exact value_mem code

theorem counted_iff {counts : List (String × Int)} {code : D1FailureCode}
    (hgiven : Given observations items bindings validation) (hinjected : bindings.injectedFailureCodes = [])
    (hcounts : failureCounts validation false = some counts) :
    code.value ∈ counts.map Prod.fst ↔ code ∈ reported observations := by
  rw [mem_failureCounts (hgiven.injected.trans hinjected) hcounts, hgiven.items_eq, reported, List.mem_filterMap]
  obtain ⟨hback, hforth⟩ := items_failureNames hgiven
  constructor
  · rintro ⟨item, hitem, names, hnames, hname⟩
    obtain ⟨observed, hobserved, hmap⟩ := hback item hitem
    rw [hmap] at hnames
    cases hnames
    obtain ⟨found, hfound, hvalue⟩ := List.mem_map.mp hname
    rw [Option.mem_toList] at hfound
    exact ⟨observed, hobserved, D1FailureCode.value_injective hvalue ▸ hfound⟩
  · rintro ⟨observed, hobserved, hcode⟩
    obtain ⟨item, hitem, hmap⟩ := hforth observed hobserved
    exact ⟨item, hitem, _, hmap, List.mem_map_of_mem (Option.mem_toList.mpr hcode)⟩

theorem rejection_mem_reported {code : D1FailureCode} (h : observations.findSome? TechnicalObservation.rejection = some code) :
    code ∈ reported observations := by
  obtain ⟨observed, hobserved, hrejection⟩ := List.exists_of_findSome?_eq_some h
  unfold TechnicalObservation.rejection at hrejection
  split at hrejection
  · exact List.mem_filterMap.mpr ⟨observed, hobserved, Option.eq_some_of_filter_eq_some hrejection⟩
  · cases hrejection

theorem code_reported (hgiven : Given observations items bindings validation)
    (hinjected : bindings.injectedFailureCodes = []) (hnear : NearRun none observations)
    (hclash : clash (endOfRun observations) none observations = none) (hmistimed : Mistimed observations)
    (hstop : firstStop guard 0 validation.observations = none)
    (h : (evaluateUnderLease setup validation guard).or (failureReceipt setup validation .unknownTechnicalFailure {}) =
      some result) :
    result.outcome = .noGo ∧ ∃ code ∈ reported observations, result.failureCode = some code := by
  have hempty : failureCounts validation false ≠ some [] := by
    intro hcounts
    rcases hmistimed with hcode | hcode
    · rw [← counted_iff hgiven hinjected hcounts] at hcode
      cases hcode
    · rw [← counted_iff hgiven hinjected hcounts] at hcode
      cases hcode
  rcases handled_verdict hstop (known_of_given hgiven) h with hverdict | ⟨-, -, hcounts⟩
  · cases hverdict with
    | objected code hobserved houtcome hcode =>
      rw [validateObservations_eq hgiven hnear, hclash, Option.none_or] at hobserved
      exact ⟨houtcome, code, rejection_mem_reported hobserved, hcode⟩
    | counted hobserved counts hcounts hne code hfirst houtcome hcode =>
      exact ⟨houtcome, code, (counted_iff hgiven hinjected hcounts).mp (firstCountCode_mem hfirst), hcode⟩
    | clean hobserved hcounts hclean => exact absurd hcounts hempty
  · exact absurd hcounts hempty

/-! ## A run without objections -/

theorem captured_map (hreports : ∀ observed ∈ observations, Reports observed)
    (hmap : observations.mapM mapTechnicalObservation = .ok items) :
    items.map Observation.captured = observations.map TechnicalObservation.capturedMonotonicNs := by
  have hpairs := mapped_forall₂ hmap
  clear hmap
  induction hpairs with
  | nil => rfl
  | cons hitem hrest ih =>
    obtain ⟨hfirst, hothers⟩ := List.forall_mem_cons.mp hreports
    rw [List.map_cons, List.map_cons, (readings_map hfirst hitem).1, ih hothers]

theorem captured_le_end (hgiven : Given observations items bindings validation)
    (hobserved : validateObservations validation = none) :
    ∀ item ∈ items, item.captured + 10000000 ≤ endOfRun observations := by
  intro item hitem
  have hsorted := (inOrder_of_observationsFailure hobserved).2.1
  rw [hgiven.items_eq] at hsorted
  have hne : items ≠ [] := List.ne_nil_of_mem hitem
  have hlast := List.getLast?_eq_some_getLast hne
  have hle := captured_le_getLast hsorted hlast hitem
  have hend : (observations.getLast?.map TechnicalObservation.capturedMonotonicNs).getD 0 =
      (items.getLast hne).captured := by
    rw [← List.getLast?_map, ← captured_map (reports_of_frames hgiven.frames) hgiven.mapped, List.getLast?_map, hlast]
    rfl
  have hmax : (items.getLast hne).captured + 10000000 ≤ endOfRun observations := by
    rw [← hend]
    exact le_max_left _ _
  omega

theorem encoded_isClose {total : Int} (h : 10000000 ≤ total) :
    isClose ((max 1 (total / 1000) : Int) / (1000000 : Rat)) ((total : Rat) / 1000000000) (1 / 1000) := by
  have hmax : max 1 (total / 1000) = total / 1000 := max_eq_right (by omega)
  have hdiv := Int.emod_add_mul_ediv total 1000
  have hpos : 0 ≤ total % 1000 := Int.emod_nonneg total (by decide)
  have hlt : total % 1000 < 1000 := Int.emod_lt_of_pos total (by decide)
  have hquotient : (total : Rat) = ((total % 1000 : Int) : Rat) + 1000 * ((total / 1000 : Int) : Rat) := by
    exact_mod_cast hdiv.symm
  have hrest : (0 : Rat) ≤ ((total % 1000 : Int) : Rat) := by exact_mod_cast hpos
  have hless : ((total % 1000 : Int) : Rat) < 1000 := by exact_mod_cast hlt
  unfold isClose
  refine le_trans ?_ (le_max_right _ _)
  rw [hmax, hquotient, abs_le]
  constructor
  · linarith
  · linarith

theorem not_mismeasured (hgiven : Given observations items bindings validation)
    (hobserved : validateObservations validation = none) : ¬ validation.Mismeasured := by
  have hcaptured := captured_le_end hgiven hobserved
  rintro ⟨hdelivered, hsum | hmetrics | ⟨metrics, hmetrics, hclose⟩⟩
  · exact hsum (split_semantic hobserved).2.2.2.1
  · refine metricsOf_isSome hobserved ?_ (fun item hitem => ?_) hmetrics
    · intro hnil
      rw [hnil] at hdelivered
      exact hdelivered rfl
    · rw [hgiven.items_eq] at hitem
      have hle := hcaptured item hitem
      rw [hgiven.runEnd]
      omega
  · obtain ⟨start, hstart, -, -, htotal, -⟩ := metricsOf_fields hmetrics
    obtain ⟨first, hfirst, hdisk⟩ := hgiven.disk
    rw [hgiven.items_eq] at hstart
    obtain rfl : first = start := Option.some.inj (hfirst.symm.trans hstart)
    have hle := hcaptured first (List.mem_of_mem_head? hfirst)
    apply hclose
    rw [htotal, hdisk, hgiven.runEnd]
    exact encoded_isClose (by omega)

theorem rejection_of_processed (hstate : observed.processingState = .processed) : observed.rejection = none := by
  unfold TechnicalObservation.rejection
  rw [if_neg (by rw [hstate]; simp)]

theorem reported_of_processed (hreports : ∀ observed ∈ observations, Reports observed)
    (h : AllProcessed observations) : ∀ code ∈ reported observations, code = .qualityInsufficient := by
  intro code hcode
  obtain ⟨observed, hobserved, hfailure⟩ := List.mem_filterMap.mp hcode
  cases hreports observed hobserved with
  | failed other hstate =>
    rw [h observed hobserved] at hstate
    cases hstate
  | processed time hstate htime hordered hquality =>
    rcases hquality with ⟨-, hsome⟩ | ⟨-, hnone⟩
    · rw [hsome] at hfailure
      exact (Option.some.inj hfailure).symm
    · rw [hnone] at hfailure
      cases hfailure

def timingCodes : List D1FailureCode := [.clockRegression, .frameStalled, .schemaIncompatible]

theorem code_of_processed (hgiven : Given observations items bindings validation)
    (hinjected : bindings.injectedFailureCodes = []) (hnear : NearRun none observations)
    (hclash : clash (endOfRun observations) none observations = none) (hprocessed : AllProcessed observations)
    (hstop : firstStop guard 0 validation.observations = none)
    (h : (evaluateUnderLease setup validation guard).or (failureReceipt setup validation .unknownTechnicalFailure {}) =
      some result) :
    ∀ code ∈ timingCodes, result.failureCode ≠ some code := by
  have hnone : validateObservations validation = none := by
    rw [validateObservations_eq hgiven hnear, hclash, Option.none_or, List.findSome?_eq_none_iff]
    exact fun observed hobserved => rejection_of_processed (hprocessed observed hobserved)
  have hreported := reported_of_processed (reports_of_frames hgiven.frames) hprocessed
  intro code htiming hcode
  rcases handled_verdict hstop (known_of_given hgiven) h with hverdict | ⟨hunknown, -, -⟩
  · cases hverdict with
    | objected other hobserved =>
      rw [hnone] at hobserved
      cases hobserved
    | counted hobserved counts hcounts hne first hfirst houtcome hfailure =>
      have hquality := hreported first ((counted_iff hgiven hinjected hcounts).mp (firstCountCode_mem hfirst))
      rw [hfailure, hquality] at hcode
      cases hcode
      revert htiming
      decide
    | clean hobserved hcounts hclean =>
      rcases evaluateClean_code hclean with hpass | ⟨other, hother, hfailure⟩ | ⟨-, hmismeasured⟩
      · rw [hpass] at hcode
        cases hcode
      · rw [hfailure] at hcode
        cases hcode
        revert htiming hother
        cases code <;> decide
      · exact not_mismeasured hgiven hnone hmismeasured
  · rw [hunknown] at hcode
    cases hcode
    revert htiming
    decide

/-! ## The receipt of a run -/

theorem clash_mem {runEnd : Int} {previous : Option Int} {code : D1FailureCode}
    (h : clash runEnd previous observations = some code) : code ∈ timingCodes := by
  induction observations generalizing previous with
  | nil => cases h
  | cons observed rest ih =>
    unfold clash at h
    split at h
    · cases h
      decide
    · split at h
      · cases h
      · split at h
        · split at h
          · cases h
            decide
          · exact ih h
        · exact ih h

theorem objection_mem {code : D1FailureCode} (h : objection lease observations = some code) : code ∈ timingCodes := by
  unfold objection at h
  split at h
  · exact clash_mem h
  · cases h
    decide

theorem firstStop_clear {checked : Nat} (hclear : ∀ call item, guard call item = .decided .clear) :
    firstStop guard checked items = none := by
  induction items generalizing checked with
  | nil => rfl
  | cons item rest ih =>
    unfold firstStop
    rw [if_pos (hclear checked item), ih]

theorem code_of_objection {code : D1FailureCode} (hgiven : Given observations items bindings validation)
    (hnear : NearRun none observations) (hstop : firstStop guard 0 validation.observations = none)
    (hresult : (evaluate setup validation guard lease).result = .ok result)
    (hobjection : objection lease observations = some code) : result.outcome = .noGo ∧ result.failureCode = some code := by
  unfold evaluate at hresult
  cases hrequest : validateRequest setup validation with
  | error message =>
    rw [hrequest] at hresult
    cases hresult
  | ok answered =>
    rw [hrequest] at hresult
    dsimp only at hresult
    unfold objection at hobjection
    split at hobjection
    · rename_i hcalm
      rw [hcalm.1] at hresult
      dsimp only at hresult
      split at hresult
      · cases hresult
      · rename_i found hfound
        rw [hcalm.2] at hresult
        cases hresult
        have hobserved := validateObservations_eq hgiven hnear
        rw [hobjection, Option.some_or] at hobserved
        rcases handled_verdict hstop (known_of_given hgiven) hfound with hverdict | ⟨-, hnone, -⟩
        · cases hverdict with
          | objected other hother houtcome hcode =>
            rw [hobserved] at hother
            cases hother
            exact ⟨houtcome, hcode⟩
          | counted hnone =>
            rw [hobserved] at hnone
            cases hnone
          | clean hnone =>
            rw [hobserved] at hnone
            cases hnone
        · rw [hobserved] at hnone
          cases hnone
    · rename_i hrestless
      cases hobjection
      have hdenied : orError EvaluateError.raised (failureReceipt setup validation .schemaIncompatible {}) = .ok result := by
        cases hacquire : lease.acquire with
        | raises =>
          rw [hacquire] at hresult
          exact hresult
        | other =>
          rw [hacquire] at hresult
          exact hresult
        | returnsTrue =>
          rw [hacquire] at hresult
          dsimp only at hresult
          have hraises : lease.releaseRaises = true := by
            rw [hacquire] at hrestless
            simpa using hrestless
          split at hresult
          · cases hresult
          · rwa [hraises] at hresult
      obtain ⟨houtcome, hcode, -⟩ := failureReceipt_fields (orError_eq_ok.mp hdenied)
      exact ⟨houtcome, hcode⟩

theorem handled_of_no_objection (hresult : (evaluate setup validation guard lease).result = .ok result)
    (h : objection lease observations = none) :
    clash (endOfRun observations) none observations = none ∧
      (evaluateUnderLease setup validation guard).or (failureReceipt setup validation .unknownTechnicalFailure {}) =
        some result := by
  unfold objection at h
  split at h
  · rename_i hcalm
    refine ⟨h, ?_⟩
    unfold evaluate at hresult
    split at hresult
    · cases hresult
    · rw [hcalm.1] at hresult
      dsimp only at hresult
      split at hresult
      · cases hresult
      · rename_i found hfound
        rw [hcalm.2] at hresult
        cases hresult
        exact hfound
  · cases h

/-- Runner and evaluator agree on the timing of a run exactly if the evaluator objects to nothing that the runner has
let pass, or objects with a code that the runner has reported too. -/
theorem timing_agrees (hseq : memory.lastFrameSeq request.runId = none)
    (hcaptured : memory.lastCapturedNs request.runId = none)
    (hprocessed : memory.lastProcessedNs request.runId = none)
    (hinput : evaluatorInput setup runner memory answers bindings request core = .ok (observations, validation))
    (hinjected : bindings.injectedFailureCodes = []) (hclear : ∀ call item, guard call item = .decided .clear)
    (hnear : (observations.map TechnicalObservation.capturedMonotonicNs).IsChain Near)
    (hresult : (evaluate setup validation guard lease).result = .ok result) :
    ((Mistimed observations →
        result.outcome = .noGo ∧ ∃ code ∈ reported observations, result.failureCode = some code) ∧
      (AllProcessed observations → ∀ code ∈ timingCodes, result.failureCode ≠ some code)) ↔
    (Mistimed observations → ∀ code ∈ objection lease observations, code ∈ reported observations) ∧
      (AllProcessed observations → objection lease observations = none) := by
  obtain ⟨items, hgiven⟩ := evaluatorInput_given hseq hcaptured hprocessed hinput
  have hstop : firstStop guard 0 validation.observations = none := firstStop_clear hclear
  have hrun : NearRun none observations := hnear
  cases hobjection : objection lease observations with
  | none =>
    obtain ⟨hclash, hhandled⟩ := handled_of_no_objection hresult hobjection
    refine iff_of_true ⟨fun hmistimed => ?_, fun hall => ?_⟩ ⟨fun _ code hcode => ?_, fun _ => rfl⟩
    · exact code_reported hgiven hinjected hrun hclash hmistimed hstop hhandled
    · exact code_of_processed hgiven hinjected hrun hclash hall hstop hhandled
    · cases hcode
  | some code =>
    obtain ⟨houtcome, hcode⟩ := code_of_objection hgiven hrun hstop hresult hobjection
    have htiming := objection_mem hobjection
    constructor
    · rintro ⟨hreport, hquiet⟩
      refine ⟨fun hmistimed other hother => ?_, fun hall => absurd hcode (hquiet hall code htiming)⟩
      cases hother
      obtain ⟨-, found, hfound, hsame⟩ := hreport hmistimed
      rw [hcode] at hsame
      cases hsame
      exact hfound
    · rintro ⟨hreport, hquiet⟩
      refine ⟨fun hmistimed => ⟨houtcome, code, hreport hmistimed code rfl, hcode⟩, fun hall => ?_⟩
      cases hquiet hall

end Runs

/-! ## Two runs of two frames -/

namespace Sample
open D1Contract.Sample

def fixture (id : String) (seq : Int) : FixtureInput := ⟨id, "v1", "run", seq, .deterministicFixture, "plain"⟩

def definition (id : String) : FixtureDefinition := ⟨id, "v1", .deterministicFixture, "plain", digest, digest⟩

def runner : SyntheticRunner := ⟨[definition "first", definition "second"], ["run"], digest, Char.isAlphanum⟩

def request : SyntheticRequest := ⟨"session", "intent", "artifact", "run", [fixture "first" 0, fixture "second" 1], []⟩

def bindings : SyntheticEnvironmentBindings := ⟨digest, digest, digest, digest, []⟩

def emptyPose : PoseResult :=
  ⟨topologyVersion, [], [List.replicate 33 true, List.replicate 33 true], [], some .valid, none, none⟩

def equalAnswers : Nat → FrameAnswers
  | 0 => ⟨0, .ok (some (fixture "first" 0)), .ok (some emptyPose), 100, false⟩
  | _ => ⟨100, .ok (some (fixture "second" 1)), .ok (some emptyPose), 100, false⟩

def lateAnswers : Nat → FrameAnswers
  | 0 => ⟨500000000, .ok (some (fixture "first" 0)), .error .exception, 0, false⟩
  | _ => ⟨100000000, .ok (some (fixture "second" 1)), .ok (some emptyPose), 100000000, false⟩

def plainAnswers : Nat → FrameAnswers
  | 0 => ⟨0, .ok (some (fixture "first" 0)), .ok (some emptyPose), 100, false⟩
  | _ => ⟨200, .ok (some (fixture "second" 1)), .ok (some emptyPose), 300, false⟩

def ends (answers : Nat → FrameAnswers) (check : List TechnicalObservation → D1Receipt → Bool) : Bool :=
  match evaluatorInput setup runner .new answers bindings request .preflight with
  | .error () => false
  | .ok (observations, validation) =>
    match (evaluate setup validation clearGuard calmLease).result with
    | .error _ => false
    | .ok result => check observations result

theorem exists_of_ends {answers : Nat → FrameAnswers} {check : List TechnicalObservation → D1Receipt → Bool}
    (h : ends answers check = true) :
    ∃ observations validation result,
      evaluatorInput setup runner .new answers bindings request .preflight = .ok (observations, validation) ∧
        (evaluate setup validation clearGuard calmLease).result = .ok result ∧ check observations result = true := by
  unfold ends at h
  split at h
  · cases h
  · rename_i observations validation hinput
    split at h
    · cases h
    · rename_i result hresult
      exact ⟨observations, validation, result, hinput, hresult, h⟩

end Sample

theorem timing_agrees_plain :
    ∃ observations validation result,
      evaluatorInput D1Contract.Sample.setup Sample.runner .new Sample.plainAnswers Sample.bindings Sample.request
          .preflight = .ok (observations, validation) ∧
        (evaluate D1Contract.Sample.setup validation D1Contract.Sample.clearGuard D1Contract.Sample.calmLease).result =
          .ok result ∧
        (Mistimed observations →
          result.outcome = .noGo ∧ ∃ code ∈ reported observations, result.failureCode = some code) ∧
        (AllProcessed observations → ∀ code ∈ timingCodes, result.failureCode ≠ some code) := by
  have hends : Sample.ends Sample.plainAnswers (fun observations _ =>
      decide ((observations.map TechnicalObservation.capturedMonotonicNs).IsChain Near) &&
        decide (reported observations = []) &&
        decide (objection D1Contract.Sample.calmLease observations = none)) = true := by decide +kernel
  obtain ⟨observations, validation, result, hinput, hresult, hcheck⟩ := Sample.exists_of_ends hends
  simp only [Bool.and_eq_true, decide_eq_true_eq] at hcheck
  obtain ⟨⟨hnear, hreported⟩, hobjection⟩ := hcheck
  refine ⟨observations, validation, result, hinput, hresult, ?_⟩
  refine (timing_agrees rfl rfl rfl hinput rfl (fun _ _ => rfl) hnear hresult).mpr ⟨fun hmistimed => ?_, fun _ => hobjection⟩
  rw [Mistimed, hreported] at hmistimed
  rcases hmistimed with hcode | hcode
  · cases hcode
  · cases hcode

/-- In a run with two processings at one time all frames are processed, and the receipt says `CLOCK_REGRESSION`; in a
run that ends before its first capture the receipt has a code that the runner has not reported. -/
theorem timing_disagrees :
    (∃ observations validation result,
      evaluatorInput D1Contract.Sample.setup Sample.runner .new Sample.equalAnswers Sample.bindings Sample.request
          .preflight = .ok (observations, validation) ∧
        (observations.map TechnicalObservation.capturedMonotonicNs).IsChain Near ∧
        (evaluate D1Contract.Sample.setup validation D1Contract.Sample.clearGuard D1Contract.Sample.calmLease).result =
          .ok result ∧
        AllProcessed observations ∧ result.failureCode = some .clockRegression) ∧
      ∃ observations validation result,
        evaluatorInput D1Contract.Sample.setup Sample.runner .new Sample.lateAnswers Sample.bindings Sample.request
            .preflight = .ok (observations, validation) ∧
          (observations.map TechnicalObservation.capturedMonotonicNs).IsChain Near ∧
          (evaluate D1Contract.Sample.setup validation D1Contract.Sample.clearGuard D1Contract.Sample.calmLease).result =
            .ok result ∧
          Mistimed observations ∧ result.failureCode = some .schemaIncompatible ∧
          .schemaIncompatible ∉ reported observations := by
  constructor
  · have hends : Sample.ends Sample.equalAnswers (fun observations result =>
        decide ((observations.map TechnicalObservation.capturedMonotonicNs).IsChain Near) &&
          observations.all (fun observed => observed.processingState = .processed) &&
          decide (result.failureCode = some .clockRegression)) = true := by decide +kernel
    obtain ⟨observations, validation, result, hinput, hresult, hcheck⟩ := Sample.exists_of_ends hends
    simp only [Bool.and_eq_true, decide_eq_true_eq, List.all_eq_true] at hcheck
    exact ⟨observations, validation, result, hinput, hcheck.1.1, hresult, hcheck.1.2, hcheck.2⟩
  · have hends : Sample.ends Sample.lateAnswers (fun observations result =>
        decide ((observations.map TechnicalObservation.capturedMonotonicNs).IsChain Near) &&
          decide (.clockRegression ∈ reported observations) && decide (result.failureCode = some .schemaIncompatible) &&
          decide (.schemaIncompatible ∉ reported observations)) = true := by decide +kernel
    obtain ⟨observations, validation, result, hinput, hresult, hcheck⟩ := Sample.exists_of_ends hends
    simp only [Bool.and_eq_true, decide_eq_true_eq] at hcheck
    exact ⟨observations, validation, result, hinput, hcheck.1.1.1, hresult, .inl hcheck.1.1.2, hcheck.1.2, hcheck.2⟩

end PduExamObserver.Synthetic
