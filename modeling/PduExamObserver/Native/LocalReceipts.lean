import PduExamObserver.Library.Softmax
import PduExamObserver.Native.TerminalReceipts

/-! # The receipt of a local capture

The candidate of a capture meets the rules exactly if the capture does not pass with an unverified lease, and
does not report a failed `CAPTURE_CLOSED` while raw frames are retained. -/

namespace PduExamObserver.Native
open Authority
set_option autoImplicit false

variable {rt : Runtime} {calls : CaptureCalls} {prepared : PreparedAuthority} {opened : Opened}

/-! ## Ranks and sums of measures -/

variable {values : List ℚ} {exit : EarlyExit} {post total : ℚ}

theorem nearestRank_mem (hvalues : values ≠ []) {percentile : Nat} (hle : percentile ≤ 100) :
    nearestRank values percentile ∈ values := by
  have hlength : (values.insertionSort (· ≤ ·)).length = values.length := List.length_insertionSort _ _
  have hpos : 0 < values.length := List.length_pos_iff.mpr hvalues
  have hindex : (values.length * percentile + 99) / 100 - 1 < (values.insertionSort (· ≤ ·)).length := by
    have hmul : values.length * percentile ≤ values.length * 100 := Nat.mul_le_mul_left _ hle
    omega
  unfold nearestRank
  rw [List.getD_eq_getElem?_getD, List.getElem?_eq_getElem hindex, Option.getD_some]
  exact (List.mem_insertionSort _).mp (List.getElem_mem hindex)

theorem largest_mem (hvalues : values ≠ []) : largest values ∈ values := by
  cases values with
  | nil => exact absurd rfl hvalues
  | cons value rest => exact Scores.foldl_max_mem rest value

/-! ## What the capture knows of its executable -/

theorem takeMutex_ok {found : Opened} (h : calls.takeMutex found = .ok opened) : found = opened := by
  unfold CaptureCalls.takeMutex at h
  split at h
  · cases h
  · split at h
    · cases h
    · cases h
    · cases h
      rfl

inductive CaptureCalls.Exits (calls : CaptureCalls) : EarlyExit → Prop
  | prerequisites : calls.prerequisites = false → Exits calls { failure := .poseEngineUnavailable }
  | liveness : Exits calls (calls.mediaExit .poseEngineUnavailable)
  | event : Exits calls (calls.mediaExit .captureRuntimeException)
  | cameras : Exits calls
      { failure := .schemaIncompatible, phases := calls.privacyPhases, holdings := CaptureCalls.mediaHeld }
  | authority (raised : Raised) : calls.authority.answer = .error raised → Exits calls
      { failure := .schemaIncompatible, phases := calls.privacyPhases, holdings := calls.leaseHeld }
  | incompatible (authority : FfmpegAuthority) : calls.authority.answer = .ok authority →
      Exits calls calls.incompatibleExit
  | mutex (authority : FfmpegAuthority) (acquired : Bool) : calls.authority.answer = .ok authority →
      Exits calls (calls.mutexExit acquired)

theorem openCapture_error (h : calls.openCapture rt prepared = .error exit) : calls.Exits exit := by
  unfold CaptureCalls.openCapture at h
  split at h
  · rename_i hprerequisites
    cases h
    exact .prerequisites ((Bool.not_eq_true' _).mp hprerequisites)
  split at h
  · split at h
    · cases h
      exact .event
    unfold CaptureCalls.bindCapture at h
    split at h
    · cases h
      exact .cameras
    split at h
    · rename_i hauthority
      cases h
      exact .authority _ hauthority
    rename_i authority hauthority
    split at h
    · dsimp only at h
      split at h
      · unfold CaptureCalls.takeMutex at h
        split at h
        · cases h
          exact .mutex authority _ hauthority
        · split at h
          · cases h
            exact .mutex authority _ hauthority
          · cases h
            exact .mutex authority _ hauthority
          · cases h
      · cases h
        exact .incompatible authority hauthority
    · cases h
      exact .incompatible authority hauthority
  · cases h
    exact .liveness

theorem openCapture_ok (h : calls.openCapture rt prepared = .ok opened) :
    ∃ executableDigest, CaptureCalls.authorityMatches prepared executableDigest opened = true := by
  unfold CaptureCalls.openCapture at h
  split at h
  · cases h
  split at h
  · split at h
    · cases h
    unfold CaptureCalls.bindCapture at h
    split at h
    · cases h
    split at h
    · cases h
    split at h
    · dsimp only at h
      split at h
      · rename_i hmatches
        obtain rfl := takeMutex_ok h
        exact ⟨_, hmatches⟩
      · cases h
    · cases h
  · cases h

theorem opened_binding (h : calls.openCapture rt prepared = .ok opened) :
    opened.authority.sha256 = prepared.ffmpegSha256 ∧ opened.authority.version = prepared.ffmpegVersion
      ∧ opened.size = prepared.ffmpegSizeBytes ∧ opened.identity = prepared.ffmpegIdentityDigest := by
  obtain ⟨executableDigest, hmatches⟩ := openCapture_ok h
  simp only [CaptureCalls.authorityMatches, Bool.and_eq_true, decide_eq_true_eq] at hmatches
  obtain ⟨⟨⟨⟨-, hsha⟩, hversion⟩, hsize⟩, hidentity⟩ := hmatches
  exact ⟨hsha, hversion, hsize, hidentity⟩

/-! ## The failure of a capture -/

theorem attempt_failure :
    (∃ failure ∈ .captureRuntimeException :: loopFailures, calls.attempt.loop.run.failure = some failure)
      ∨ calls.attempt.loop.run.failure = none ∧ calls.attempt.loop.run.Sound := by
  have hexcepted : ∀ run : Attempt, run.loop.run.failure = none →
      ∃ failure ∈ NativeFailure.captureRuntimeException :: loopFailures,
        run.excepted.loop.run.failure = some failure := by
    intro run hnone
    refine ⟨.captureRuntimeException, List.mem_cons_self, ?_⟩
    simp [Attempt.excepted, hnone]
  have hchild : ∀ run : Attempt, run.loop = {} →
      (∃ failure ∈ .captureRuntimeException :: loopFailures,
        (calls.attemptChild run).loop.run.failure = some failure)
      ∨ (calls.attemptChild run).loop.run.failure = none ∧ (calls.attemptChild run).loop.run.Sound := by
    intro run hloop
    have hnone : run.loop.run.failure = none := by rw [hloop]
    unfold CaptureCalls.attemptChild
    split
    · exact Or.inl (hexcepted _ hnone)
    · dsimp only
      split
      · exact Or.inl (hexcepted _ hnone)
      · split
        · exact Or.inl (hexcepted _ hnone)
        · unfold Attempt.halted
          rcases @captureLoop_keeps calls.sink calls.alive {}
              (fun loop => loop.run.Sound) (fun haccepts hsound => haccepts.sound hsound) calls.turns rfl sound_start
            with (⟨hraised, hfailure⟩ | ⟨hraised, failure, hmem, hfailure⟩) | ⟨hraised, hfailure, hsound⟩
          · rw [if_pos hraised]
            exact Or.inl (hexcepted _ hfailure)
          · rw [if_neg (by rw [hraised]; exact Bool.false_ne_true)]
            exact Or.inl ⟨failure, List.mem_cons_of_mem _ hmem, hfailure⟩
          · rw [if_neg (by rw [hraised]; exact Bool.false_ne_true)]
            exact Or.inr ⟨hfailure, hsound⟩
  unfold CaptureCalls.attempt
  split
  · exact Or.inl (hexcepted _ rfl)
  · dsimp only
    split
    · split
      · exact Or.inl (hexcepted _ rfl)
      · exact hchild _ rfl
    · exact hchild _ rfl

theorem attempt_failure_ne_cleanup : calls.attempt.loop.run.failure ≠ some .cleanupIncomplete := by
  rcases @attempt_failure calls with ⟨failure, hmem, hfailure⟩ | ⟨hnone, -⟩
  · rw [hfailure]
    rintro hcleanup
    cases hcleanup
    revert hmem
    decide
  · rw [hnone]
    nofun

theorem finalFailure_cases (run : Attempt) :
    run.loop.run.failure = some .privacyStop ∧ calls.finalFailure run = some .privacyStop
      ∨ run.loop.run.failure ≠ some .privacyStop
        ∧ ((calls.sendsClosed run = true ∧ calls.captureClosed.isOk = false
            ∧ calls.finalFailure run = some .captureRuntimeException)
          ∨ (calls.sendsClosed run = true → calls.captureClosed.isOk = true)
            ∧ ((calls.cleanUp run).complete = true ∧ calls.finalFailure run = run.loop.run.failure
              ∨ (calls.cleanUp run).complete = false ∧ calls.finalFailure run = some .cleanupIncomplete)) := by
  unfold CaptureCalls.finalFailure
  dsimp only
  by_cases hstop : run.loop.run.failure = some .privacyStop
  · rw [if_pos hstop]
    exact Or.inl ⟨hstop, hstop⟩
  · right
    refine ⟨hstop, ?_⟩
    rw [if_neg hstop]
    cases hsends : calls.sendsClosed run <;> cases hclosed : calls.captureClosed.isOk <;>
      cases hcomplete : (calls.cleanUp run).complete <;> simp

/-! ## The two defects -/

def CaptureCalls.MeetsThresholds (calls : CaptureCalls) : Prop :=
  calls.finalFailure calls.attempt = none
    ∧ ∃ first ∈ calls.attempt.loop.run.firstIngressNs, ∃ previous ∈ calls.attempt.loop.run.previousIngressNs,
      thresholdFailure calls.attempt.loop.run (measuredTotal first previous)
        (measuredPost (measuredTotal first previous)) = none

structure CaptureCalls.Verifiable (calls : CaptureCalls) : Prop where
  lease : calls.MeetsThresholds → calls.platformVerified = .ok true
  closing : calls.sendsClosed calls.attempt = true → calls.captureClosed.isOk = false →
    calls.attempt.loop.run.failure ≠ some .privacyStop → (calls.cleanUp calls.attempt).buffersZeroed = true

theorem complete_zeroed {flags : CleanUp} (h : flags.complete = true) : flags.buffersZeroed = true := by
  simp only [CleanUp.complete, Bool.and_eq_true] at h
  exact h.1.1.1.1.1.1

theorem retained_failure (hclosing : calls.sendsClosed calls.attempt = true → calls.captureClosed.isOk = false →
      calls.attempt.loop.run.failure ≠ some .privacyStop → (calls.cleanUp calls.attempt).buffersZeroed = true)
    (hretained : (calls.cleanUp calls.attempt).buffersZeroed = false)
    (hstop : calls.finalFailure calls.attempt ≠ some .privacyStop) :
    calls.finalFailure calls.attempt = some .cleanupIncomplete := by
  rcases @finalFailure_cases calls calls.attempt with
    ⟨-, hfinal⟩ | ⟨hother, ⟨hsends, hclosed, -⟩ | ⟨-, ⟨hcomplete, -⟩ | ⟨-, hfinal⟩⟩⟩
  · exact absurd hfinal hstop
  · rw [hclosing hsends hclosed hother] at hretained
    cases hretained
  · rw [complete_zeroed hcomplete] at hretained
    cases hretained
  · exact hfinal

theorem cleanup_incomplete (h : calls.finalFailure calls.attempt = some .cleanupIncomplete) :
    (calls.cleanUp calls.attempt).complete = false := by
  rcases @finalFailure_cases calls calls.attempt with
    ⟨-, hfinal⟩ | ⟨-, ⟨-, -, hfinal⟩ | ⟨-, ⟨-, hfinal⟩ | ⟨hcomplete, -⟩⟩⟩
  · rw [hfinal] at h
    cases h
  · rw [hfinal] at h
    cases h
  · rw [hfinal] at h
    exact absurd h attempt_failure_ne_cleanup
  · exact hcomplete

theorem closing_of_unfailed (h : calls.finalFailure calls.attempt = none) :
    (calls.cleanUp calls.attempt).complete = true ∧ calls.attempt.loop.run.failure = none
      ∧ (calls.sendsClosed calls.attempt = true → calls.captureClosed.isOk = true) := by
  rcases @finalFailure_cases calls calls.attempt with
    ⟨-, hfinal⟩ | ⟨-, ⟨-, -, hfinal⟩ | ⟨hsends, ⟨hcomplete, hfinal⟩ | ⟨-, hfinal⟩⟩⟩
  · rw [hfinal] at h
    cases h
  · rw [hfinal] at h
    cases h
  · rw [hfinal] at h
    exact ⟨hcomplete, h, hsends⟩
  · rw [hfinal] at h
    cases h

theorem final_of_unsent (hsends : calls.sendsClosed calls.attempt = true) (hclosed : calls.captureClosed.isOk = false)
    (hstop : calls.attempt.loop.run.failure ≠ some .privacyStop) :
    calls.finalFailure calls.attempt = some .captureRuntimeException := by
  rcases @finalFailure_cases calls calls.attempt with
    ⟨hother, -⟩ | ⟨-, ⟨-, -, hfinal⟩ | ⟨hsent, -⟩⟩
  · exact absurd hother hstop
  · exact hfinal
  · rw [hsent hsends] at hclosed
    cases hclosed

/-! ## Thresholds -/

theorem thresholdFailure_some {state : RunState} {failure : NativeFailure}
    (h : thresholdFailure state total post = some failure) :
    failure = .inputMalformed ∨ failure = .qualityInsufficient := by
  unfold thresholdFailure at h
  split at h
  · cases h
    exact Or.inl rfl
  · split at h
    · cases h
      exact Or.inr rfl
    · split at h
      · cases h
        exact Or.inr rfl
      · cases h

structure MeetsRates (state : RunState) (total post : ℚ) : Prop where
  totalSeconds : 60 ≤ total
  postSeconds : 55 ≤ post
  gaps : state.gapsMs ≠ []
  latencies : state.latenciesMs ≠ []
  backlog : state.maxBacklogNs ≤ 2000000000
  rate : 27 / 2 ≤ state.postWarmupProcessedFrames / post
  gap : nearestRank state.gapsMs 95 ≤ 200
  latency : nearestRank state.latenciesMs 95 ≤ 200
  tail : nearestRank state.latenciesMs 99 ≤ 500

theorem thresholdFailure_none {state : RunState} (h : thresholdFailure state total post = none) :
    MeetsRates state total post := by
  unfold thresholdFailure at h
  split at h
  · cases h
  rename_i htimes
  split at h
  · cases h
  rename_i hmeasured
  split at h
  · cases h
  rename_i hrates
  simp only [preflightSeconds, warmupSeconds, not_or, not_lt] at htimes
  simp only [not_or] at hmeasured
  simp only [not_or, not_lt, gt_iff_lt] at hrates
  obtain ⟨htotal, hpost⟩ := htimes
  obtain ⟨hgaps, hlatencies, -⟩ := hmeasured
  obtain ⟨hbacklog, hrate, hgap, hlatency, htail⟩ := hrates
  norm_num at htotal hpost
  exact ⟨htotal, hpost, hgaps, hlatencies, hbacklog, hrate, hgap, hlatency, htail⟩

/-! ## The arguments of a pass -/

section Passing

variable {facts : CaptureFacts} {state : RunState} {first previous : Int}

theorem measured_whole (h : 55 ≤ measuredPost (measuredTotal first previous)) :
    measuredPost (measuredTotal first previous)
      = ((⌊measuredPost (measuredTotal first previous) * 1000000000⌋ : Int) : ℚ) / 1000000000 := by
  have hpositive : measuredPost (measuredTotal first previous) = measuredTotal first previous - 5 := by
    unfold measuredPost at h ⊢
    norm_num [warmupSeconds] at h ⊢
    linarith
  have hinteger : measuredPost (measuredTotal first previous) * 1000000000
      = ((previous - first - 5000000000 : Int) : ℚ) := by
    rw [hpositive, measuredTotal]
    push_cast
    ring
  rw [hinteger, Int.floor_intCast, ← hinteger]
  field_simp

theorem passArgs_measured (hvalid : facts.prepared.IsValid) (hsound : state.Sound)
    (hrates : MeetsRates state (measuredTotal first previous) (measuredPost (measuredTotal first previous)))
    (hbinding : facts.opened.authority.sha256 = facts.prepared.ffmpegSha256
      ∧ facts.opened.authority.version = facts.prepared.ffmpegVersion
      ∧ facts.opened.size = facts.prepared.ffmpegSizeBytes
      ∧ facts.opened.identity = facts.prepared.ffmpegIdentityDigest)
    (hargv : facts.argvDigest = some (fixedArgvTemplateDigest rt)) (hcomplete : facts.flags.complete = true)
    (hverified : facts.leaseVerified = true) :
    PassArgs rt facts.prepared (facts.measuredArgs rt state (measuredTotal first previous)) := by
  obtain ⟨hsha, hversion, hsize, hidentity⟩ := hbinding
  have hflags := hcomplete
  simp only [CleanUp.complete, Bool.and_eq_true] at hflags
  obtain ⟨⟨⟨⟨⟨⟨hzeroed, hpipe⟩, hchild⟩, hreader⟩, hmedia⟩, hlease⟩, hmutex⟩ := hflags
  have hwhole := measured_whole hrates.postSeconds
  have hpost : measuredPost (measuredTotal first previous) ≠ 0 := by
    have := hrates.postSeconds
    linarith
  have hfps : (state.postWarmupProcessedFrames : ℚ) / measuredPost (measuredTotal first previous)
      = (state.postWarmupProcessedFrames : ℤ) * 1000000000
        / ((⌊measuredPost (measuredTotal first previous) * 1000000000⌋ : Int) : ℚ) := by
    conv_lhs => rw [hwhole]
    rw [div_div_eq_mul_div]
    norm_cast
  have hgap := nearestRank_mem hrates.gaps (by decide : 95 ≤ 100)
  have hlatency := nearestRank_mem hrates.latencies (by decide : 95 ≤ 100)
  have htail := nearestRank_mem hrates.latencies (by decide : 99 ≤ 100)
  have hlargest := hsound.gaps _ (largest_mem hrates.gaps)
  exact {
    authority := rfl
    valid := hvalid
    argv := hargv
    sha256 := congrArg some hsha
    version := congrArg some hversion
    size := congrArg some hsize
    identity := congrArg some hidentity
    leaseVerified := hverified
    leaseClosed := hlease
    stops := rfl
    faces := rfl
    poses := rfl
    total := hrates.totalSeconds
    post := hrates.postSeconds
    elapsed := hwhole
    rate := by
      have hrate := hrates.rate
      rw [hfps] at hrate
      exact hrate
    fps := by
      change (if measuredPost (measuredTotal first previous) = 0 then none
        else some ((state.postWarmupProcessedFrames : ℚ) / measuredPost (measuredTotal first previous))) = _
      rw [if_neg hpost, hfps]
      rfl
    gap := ⟨_, if_neg hrates.gaps, (hsound.gaps _ hgap).1, hrates.gap⟩
    latency95 := ⟨_, if_neg hrates.latencies, hsound.latencies _ hlatency, hrates.latency⟩
    latency99 := ⟨_, if_neg hrates.latencies, hsound.latencies _ htail, hrates.tail⟩
    backlog := rfl
    backlogNs := ⟨hsound.backlog, hrates.backlog⟩
    mutex := hmutex
    child := hchild
    pipe := hpipe
    reader := hreader
    cleanup := by
      change (!(!facts.flags.buffersZeroed) && facts.flags.mutexReleased && facts.flags.childTerminated
        && facts.flags.pipeClosed && facts.flags.readerStopped && facts.flags.mediaClosed
        && facts.flags.ffmpegLeaseClosed) = true
      rw [hzeroed, hmutex, hchild, hpipe, hreader, hmedia, hlease]
      rfl
    media := hmedia
    supervised := rfl
    deadline := rfl
    drained := rfl
    workerLease := rfl
    executable := rt.digest_isHex _
    workerIdentity := rt.digest_isHex _
    consumed := rfl
    warmup := by
      change (0 : Int) ≤ state.deliveredFrames - state.postWarmupProcessedFrames
      have := hsound.counts
      omega
    successful := by
      change (0 : Int) ≤ state.postWarmupProcessedFrames
      omega
    lost := ⟨rfl, rfl, rfl, rfl⟩
    stall := by
      change 0 ≤ ⌊largest state.gapsMs * 1000000⌋ ∧ ⌊largest state.gapsMs * 1000000⌋ < 1000000000
      obtain ⟨hnonneg, hlt⟩ := hlargest
      refine ⟨Int.floor_nonneg.mpr (by positivity), Int.floor_lt.mpr ?_⟩
      push_cast
      linarith }

end Passing

/-! ## The candidates -/

section Candidates

variable {candidate : NativeReceipt} {facts : CaptureFacts} {state : RunState}

variable {args : ReceiptArgs} {outcome : NativeOutcome}

theorem issueReceipt_ok {failure : Option NativeFailure}
    {receipt : NativeReceipt} (h : issueReceipt rt outcome failure args = .ok receipt) :
    receipt = (draftReceipt rt outcome failure args).issued rt := by
  obtain ⟨_, -, h⟩ := bind_ok_iff.mp h
  obtain ⟨_, -, h⟩ := bind_ok_iff.mp h
  cases h
  rfl

theorem earlyExit_acceptable (hrt : rt.Intact) (hexit : exit.failure ≠ .cleanupIncomplete)
    (hstop : exit.failure ≠ .privacyStop)
    (hcandidate : issueReceipt rt .noGo (some exit.failure) (exit.args prepared) = .ok candidate) :
    candidate.Acceptable rt := by
  rw [issueReceipt_ok hcandidate, acceptable_issued]
  exact noGo_acceptable hrt (honest_of_plain rfl rfl hexit hstop ⟨rfl, rfl, rfl, rfl⟩)

theorem exits_failure (h : calls.Exits exit) :
    exit.failure ≠ .cleanupIncomplete ∧ exit.failure ≠ .privacyStop := by
  cases h <;> exact ⟨nofun, nofun⟩

theorem stopArgs_honest : Honest .privacyStop (facts.stopArgs state) where
  consumed := rfl
  raw _ := Or.inl rfl
  cleanup := nofun
  unstopped h := absurd rfl h
  stopped _ := ⟨rfl, rfl, rfl⟩

theorem released_honest {failure : NativeFailure} (hstop : failure ≠ .privacyStop)
    (hretained : facts.flags.buffersZeroed = false → failure = .cleanupIncomplete) : Honest failure facts.released where
  consumed := rfl
  raw h := Or.inr (hretained ((Bool.not_eq_true' _).mp h))
  cleanup _ := by
    simp [CaptureFacts.released]
  unstopped _ := ⟨rfl, rfl, rfl, rfl⟩
  stopped h := absurd h hstop

theorem measured_honest {failure : NativeFailure} (hstop : failure ≠ .privacyStop)
    (hretained : facts.flags.buffersZeroed = false → failure = .cleanupIncomplete)
    (hcleanup : failure = .cleanupIncomplete → facts.flags.complete = false) :
    Honest failure (facts.measuredArgs rt state total) where
  consumed := rfl
  raw h := Or.inr (hretained ((Bool.not_eq_true' _).mp h))
  cleanup h := by
    have hincomplete := hcleanup h
    have hdone : (facts.measuredArgs rt state total).cleanupComplete = facts.flags.complete := by
      change (!(!facts.flags.buffersZeroed) && facts.flags.mutexReleased && facts.flags.childTerminated
        && facts.flags.pipeClosed && facts.flags.readerStopped && facts.flags.mediaClosed
        && facts.flags.ffmpegLeaseClosed) = _
      rw [CleanUp.complete, Bool.not_not]
      ac_rfl
    rw [hdone, hincomplete, Bool.false_and]
  unstopped _ := ⟨rfl, rfl, rfl, rfl⟩
  stopped h := absurd h hstop

theorem retained_of_acceptable {failure : Option NativeFailure}
    (h : (draftReceipt rt outcome failure args).Acceptable rt) (hretained : args.rawRetained = true) :
    failure = some .privacyStop ∨ failure = some .cleanupIncomplete :=
  h.1.raw hretained

theorem verified_of_pass (h : (draftReceipt rt .preflightPass none args).Acceptable rt) :
    args.ffmpegLeaseVerified = true := by
  have hcheck := h.2 (.ok !args.ffmpegLeaseVerified) (by
    refine List.mem_append_left _ ?_
    simp [NativeReceipt.passChecks, draftReceipt, Value.truthy])
  simpa using hcheck

theorem captureCandidate_ok (hcandidate : calls.captureCandidate rt prepared opened = .ok candidate) :
    ∃ facts : CaptureFacts, facts.prepared = prepared ∧ facts.opened = opened
      ∧ facts.argvDigest = (if calls.attempt.buffers then some (fixedArgvTemplateDigest rt) else none)
      ∧ facts.flags = calls.cleanUp calls.attempt ∧ calls.platformVerified = .ok facts.leaseVerified
      ∧ (if calls.finalFailure calls.attempt = some .privacyStop then
          issueReceipt rt .noGo (some .privacyStop)
            (facts.stopArgs { calls.attempt.loop.run with failure := calls.finalFailure calls.attempt })
        else resultReceipt rt facts { calls.attempt.loop.run with failure := calls.finalFailure calls.attempt })
        = .ok candidate := by
  obtain ⟨leaseVerified, hverified, hissue⟩ := bind_ok_iff.mp hcandidate
  exact ⟨_, rfl, rfl, rfl, rfl, hverified, hissue⟩

theorem captureCandidate_acceptable (hrt : rt.Intact) (hvalid : prepared.IsValid)
    (hopen : calls.openCapture rt prepared = .ok opened)
    (hcandidate : calls.captureCandidate rt prepared opened = .ok candidate) :
    (candidate.failureCode = some .authorityFinalizationFailed ∨ candidate.Acceptable rt) ↔ calls.Verifiable := by
  obtain ⟨facts, rfl, rfl, hargv, hflags, hverified, hissue⟩ := captureCandidate_ok hcandidate
  split at hissue
  · rename_i hstop
    rw [issueReceipt_ok hissue, acceptable_issued]
    refine ⟨fun _ => ⟨?_, ?_⟩, fun _ => Or.inr (noGo_acceptable hrt stopArgs_honest)⟩
    · rintro ⟨hnone, -⟩
      rw [hnone] at hstop
      cases hstop
    · intro hsends hclosed hother
      rw [final_of_unsent hsends hclosed hother] at hstop
      cases hstop
  rename_i hstop
  have hretained : calls.Verifiable → facts.flags.buffersZeroed = false →
      calls.finalFailure calls.attempt = some .cleanupIncomplete := by
    intro hverifiable hraw
    rw [hflags] at hraw
    exact retained_failure hverifiable.closing hraw hstop
  -- a closing event that failed over retained frames gives a receipt that nobody accepts
  have hclosing : ∀ {args : ReceiptArgs} {outcome : NativeOutcome} {failure : Option NativeFailure},
      args.rawRetained = !facts.flags.buffersZeroed →
      (calls.finalFailure calls.attempt = some .captureRuntimeException → failure = some .captureRuntimeException) →
      (failure = some .authorityFinalizationFailed ∨ (draftReceipt rt outcome failure args).Acceptable rt) →
      calls.sendsClosed calls.attempt = true → calls.captureClosed.isOk = false →
      calls.attempt.loop.run.failure ≠ some .privacyStop → (calls.cleanUp calls.attempt).buffersZeroed = true := by
    intro args outcome failure hraw hcode haccepted hsends hclosed hother
    rw [← hflags]
    by_contra hzeroed
    have hfailure := hcode (final_of_unsent hsends hclosed hother)
    rw [hfailure] at haccepted
    rcases haccepted with hcode | hacceptable
    · cases hcode
    · rw [Bool.eq_false_of_not_eq_true hzeroed] at hraw
      rcases retained_of_acceptable hacceptable hraw with h | h <;> cases h
  unfold resultReceipt at hissue
  dsimp only at hissue
  split at hissue
  · rename_i first previous hfirst hprevious
    have hmeets : calls.MeetsThresholds ↔ (calls.finalFailure calls.attempt <|>
        thresholdFailure { calls.attempt.loop.run with failure := calls.finalFailure calls.attempt }
          (measuredTotal first previous) (measuredPost (measuredTotal first previous))) = none := by
      rw [Option.orElse_eq_none]
      refine and_congr_right fun _ => ?_
      rw [hfirst, hprevious]
      simp only [Option.mem_def, Option.some.injEq, exists_eq_left']
      rfl
    cases hfailure : (calls.finalFailure calls.attempt <|>
        thresholdFailure { calls.attempt.loop.run with failure := calls.finalFailure calls.attempt }
          (measuredTotal first previous) (measuredPost (measuredTotal first previous))) with
    | none =>
      rw [hfailure] at hissue
      rw [issueReceipt_ok hissue, acceptable_issued]
      obtain ⟨hnone, hrates⟩ := (Option.orElse_eq_none _ _).mp hfailure
      obtain ⟨hcomplete, hunfailed, hsent⟩ := closing_of_unfailed hnone
      have hsound : calls.attempt.loop.run.Sound := by
        rcases @attempt_failure calls with ⟨failure, -, hfails⟩ | ⟨-, hsound⟩
        · rw [hfails] at hunfailed
          cases hunfailed
        · exact hsound
      constructor
      · rintro (hcode | hacceptable)
        · cases hcode
        · refine ⟨fun _ => ?_, fun hsends hclosed _ => ?_⟩
          · have htrue : facts.leaseVerified = true := verified_of_pass hacceptable
            rw [hverified, htrue]
          · rw [hsent hsends] at hclosed
            cases hclosed
      · intro hverifiable
        right
        have htrue : facts.leaseVerified = true := by
          have hlease := hverifiable.lease (hmeets.mpr hfailure)
          rw [hverified] at hlease
          exact Except.ok.inj hlease
        have hbuffers : calls.attempt.buffers = true := by
          have hzeroed := complete_zeroed hcomplete
          simp only [CaptureCalls.cleanUp, Bool.and_eq_true] at hzeroed
          exact hzeroed.1.2
        rw [if_pos hbuffers] at hargv
        have hzeroed := complete_zeroed hcomplete
        rw [← hflags] at hcomplete hzeroed
        have hargs := @passArgs_measured rt facts
          { calls.attempt.loop.run with failure := calls.finalFailure calls.attempt } first previous hvalid
          ⟨hsound.backlog, hsound.gaps, hsound.latencies, hsound.counts, hsound.processed, hsound.checked,
            hsound.unstopped⟩ (thresholdFailure_none hrates) (opened_binding hopen) hargv hcomplete htrue
        refine ⟨draftReceipt_sound hrt rfl nofun ?_, ?_⟩
        · intro hraw
          have hraw' : (!facts.flags.buffersZeroed) = true := hraw
          rw [hzeroed] at hraw'
          cases hraw'
        · exact List.forall_mem_append.mpr ⟨passChecks_draft hargs, basisChecks_draft hargs⟩
    | some failure =>
      rw [hfailure] at hissue
      rw [issueReceipt_ok hissue, acceptable_issued]
      have hcode : ∀ code, calls.finalFailure calls.attempt = some code → some failure = some code := by
        intro code hfinal
        rw [hfinal] at hfailure
        exact hfailure.symm
      have hstopped : failure ≠ .privacyStop ∧ (failure = .cleanupIncomplete →
          calls.finalFailure calls.attempt = some .cleanupIncomplete) := by
        cases hfinal : calls.finalFailure calls.attempt with
        | some code =>
          obtain rfl := Option.some.inj (hcode code hfinal)
          exact ⟨fun h => hstop (hfinal.trans (congrArg some h)), fun h => congrArg some h⟩
        | none =>
          rw [hfinal] at hfailure
          rcases thresholdFailure_some hfailure with rfl | rfl <;> exact ⟨nofun, nofun⟩
      constructor
      · intro haccepted
        refine ⟨fun hmeets' => ?_, hclosing rfl (hcode _) haccepted⟩
        rw [hmeets.mp hmeets'] at hfailure
        cases hfailure
      · intro hverifiable
        right
        refine noGo_acceptable hrt (measured_honest hstopped.1 (fun hraw => ?_) (fun hcleanup => ?_))
        · exact Option.some.inj (hcode _ (hretained hverifiable hraw))
        · rw [hflags]
          exact cleanup_incomplete (hstopped.2 hcleanup)
  · rename_i hmissing
    rw [issueReceipt_ok hissue, acceptable_issued]
    have hcode : ∀ code, calls.finalFailure calls.attempt = some code →
        some ((calls.finalFailure calls.attempt).getD .inputUnavailable) = some code := by
      intro code hfinal
      rw [hfinal]
      rfl
    have hstopped : (calls.finalFailure calls.attempt).getD .inputUnavailable ≠ .privacyStop := by
      cases hfinal : calls.finalFailure calls.attempt with
      | some code => exact fun h => hstop (hfinal.trans (congrArg some h))
      | none => exact nofun
    constructor
    · intro haccepted
      refine ⟨?_, hclosing rfl (hcode _) haccepted⟩
      rintro ⟨-, first, hfirst, previous, hprevious, -⟩
      exact absurd hprevious (hmissing first previous hfirst)
    · intro hverifiable
      right
      exact noGo_acceptable hrt (released_honest hstopped
        fun hraw => Option.some.inj (hcode _ (hretained hverifiable hraw)))

end Candidates

end PduExamObserver.Native
