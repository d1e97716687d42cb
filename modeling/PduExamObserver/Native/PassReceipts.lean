import PduExamObserver.Native.Sealing

/-! # Receipts that this program issues

A receipt of `_receipt` meets the rules under any seal when the runtime is intact and the arguments are
those of a pass, or of a failure that hides nothing. -/

namespace PduExamObserver.Native
open Authority
set_option autoImplicit false

structure Runtime.Intact (rt : Runtime) : Prop where
  poseSha256 : rt.poseSha256 = Native.poseModelSha256
  faceSha256 : rt.faceSha256 = Native.faceModelSha256
  poseBytes : rt.poseBytes = Native.poseModelBytes
  faceBytes : rt.faceBytes = Native.faceModelBytes
  installed : rt.installed = some "1.0.1"
  networkGuard : rt.networkGuard = true
  audioSeal : rt.audioSeal = true
  outboundAttempts : rt.outboundAttempts = 0

section Issued

variable {rt : Runtime} {prepared : PreparedAuthority} {args : ReceiptArgs} {outcome : NativeOutcome}
  {failure : Option NativeFailure}

theorem draftReceipt_binding (hrt : rt.Intact) : (draftReceipt rt outcome failure args).bindingRejected rt = false := by
  simp [NativeReceipt.bindingRejected, draftReceipt, hrt.poseSha256, hrt.faceSha256, hrt.poseBytes, hrt.faceBytes,
    hrt.installed, hrt.networkGuard, hrt.audioSeal, hrt.outboundAttempts]

theorem draftReceipt_sound (hrt : rt.Intact) (hconsumed : args.authorityConsumed = true) (houtcome : outcome ≠ .prepared)
    (hraw : args.rawRetained = true → failure = some .privacyStop ∨ failure = some .cleanupIncomplete) :
    (draftReceipt rt outcome failure args).Sound rt where
  schema := rfl
  consumed := hconsumed
  outcome := houtcome
  gate := rfl
  frame := rfl
  audio := rfl
  raw := hraw
  binding := draftReceipt_binding hrt
  stages := rfl

structure PassArgs (rt : Runtime) (prepared : PreparedAuthority) (args : ReceiptArgs) : Prop where
  authority : args.prepared = some prepared
  valid : prepared.IsValid
  argv : args.fixedArgvDigest = some (fixedArgvTemplateDigest rt)
  sha256 : args.ffmpegSha256 = some prepared.ffmpegSha256
  version : args.ffmpegVersion = some prepared.ffmpegVersion
  size : args.ffmpegSizeBytes = some prepared.ffmpegSizeBytes
  identity : args.ffmpegIdentityDigest = some prepared.ffmpegIdentityDigest
  leaseVerified : args.ffmpegLeaseVerified = true
  leaseClosed : args.ffmpegLeaseClosed = true
  stops : args.privacyStopCount = 0
  faces : args.faceDetections = 0
  poses : args.poseDetections = 0
  total : 60 ≤ args.measuredTotalSeconds
  post : 55 ≤ args.measuredPostWarmupSeconds
  elapsed : args.measuredPostWarmupSeconds = args.postElapsedNs / 1000000000
  rate : 27 / 2 ≤ (args.postSuccessfulFrames : ℚ) * 1000000000 / args.postElapsedNs
  fps : args.deliveredFramesPerSecond = some ((args.postSuccessfulFrames : ℚ) * 1000000000 / args.postElapsedNs)
  gap : ∃ gap ∈ args.p95IngressGapMs, 0 ≤ gap ∧ gap ≤ 200
  latency95 : ∃ latency ∈ args.p95PoseLatencyMs, 0 ≤ latency ∧ latency ≤ 200
  latency99 : ∃ latency ∈ args.p99PoseLatencyMs, 0 ≤ latency ∧ latency ≤ 500
  backlog : args.backlogMs = some ((args.backlogNs : ℚ) / 1000000)
  backlogNs : 0 ≤ args.backlogNs ∧ args.backlogNs ≤ 2000000000
  mutex : args.mutexReleased = true
  child : args.childTerminated = true
  pipe : args.pipeClosed = true
  reader : args.readerStopped = true
  cleanup : args.cleanupComplete = true
  media : args.mediaClosed = true
  supervised : args.captureWorkerSupervised = true
  deadline : args.captureDeadlineEnforced = true
  drained : args.captureJobDrained = true
  workerLease : args.captureWorkerLeaseClosed = true
  executable : isDigest? args.captureWorkerExecutableSha256 = true
  workerIdentity : isDigest? args.captureWorkerIdentityDigest = true
  consumed : args.authorityConsumed = true
  warmup : 0 ≤ args.warmupFrames
  successful : 0 ≤ args.postSuccessfulFrames
  lost : args.droppedShortFrames = 0 ∧ args.inferenceFailureFrames = 0 ∧ args.privacyTerminalFrames = 0
    ∧ args.deliveryFailureFrames = 0
  stall : 0 ≤ args.maxStallGapNs ∧ args.maxStallGapNs < 1000000000

theorem isclose_self (q : ℚ) : isclose q q = true := by
  simp [isclose]

/-! ## Reading issued values -/

@[simp] theorem Value.eq_str_str (s s' : String) : (Value.str s).eq (.str s') = decide (s' = s) := by
  simp [Value.eq, Value.str?]

@[simp] theorem Value.eq_int_int (n n' : Int) : (Value.int n).eq (.int n') = decide (n = n') := by
  simp [Value.eq, Value.number, PyFloat.eq]

@[simp] theorem Value.differs_int (n n' : Int) : (Value.int n).differs n' = decide (n ≠ n') := by
  simp [Value.differs]

@[simp] theorem Value.ofRat_lt (q bound : ℚ) : (Value.ofRat q).lt bound = .ok (decide (q < bound)) := rfl

@[simp] theorem Value.ofRat_gt (q bound : ℚ) : (Value.ofRat q).gt bound = .ok (decide (bound < q)) := rfl

@[simp] theorem Value.int_isNone (n : Int) : (Value.int n).isNone = false := rfl

@[simp] theorem Value.str_isNone (s : String) : (Value.str s).isNone = false := rfl

@[simp] theorem Value.ofRat_isNone (q : ℚ) : (Value.ofRat q).isNone = false := rfl

@[simp] theorem Value.ofRat_isMeasure (q : ℚ) : (Value.ofRat q).isMeasure = decide (0 ≤ q) := rfl

@[simp] theorem Value.ofRat_measure (q : ℚ) : (Value.ofRat q).measure = q := rfl

@[simp] theorem Value.int_count (n : Int) : (Value.int n).count = n := rfl

@[simp] theorem Value.int_isCount (n : Int) : (Value.int n).isCount = decide (0 ≤ n) := rfl

@[simp] theorem Value.int_le (n : Int) : (Value.int n).le 0 = .ok (decide (n ≤ 0)) := by
  simp only [Value.le, Value.number, PyFloat.lt, PyFloat.eq]
  congr 1
  rw [Bool.eq_iff_iff]
  simp [le_iff_lt_or_eq]

@[simp] theorem Value.int_add (n n' : Int) : (Value.int n).add (.int n') = .ok (.int (n + n')) := rfl

theorem sumDiffers_int (a b c total : Int) :
    NativeReceipt.sumDiffers (.int a) (.int b) (.int c) (.int total) = .ok (decide (a + b + c ≠ total)) := by
  simp only [NativeReceipt.sumDiffers, Value.int_add, ok_bind, Value.eq_int_int, decide_not]
  rfl

@[simp] theorem Value.ofOption_some {α : Type} (wrap : α → Value) (a : α) : Value.ofOption wrap (some a) = wrap a := rfl

theorem isDigest_some (s : String) : isDigest? (some s) = isHexDigest s := rfl

theorem passChecks_draft (h : PassArgs rt prepared args) :
    ∀ check ∈ (draftReceipt rt .preflightPass none args).passChecks rt, check = .ok false := by
  obtain ⟨gap, hgap, -, hgap200⟩ := h.gap
  obtain ⟨latency, hlatency, -, hlatency200⟩ := h.latency95
  obtain ⟨tail, htail, -, htail500⟩ := h.latency99
  obtain ⟨hdropped, hinference, hprivacy, hdelivery⟩ := h.lost
  obtain ⟨-, -, -, hsha, -, hsize, hidentity, -⟩ := h.valid
  have hargv : isHexDigest (fixedArgvTemplateDigest rt) = true := rt.digest_isHex _
  have hconfig : isHexDigest (rt.digest prepared.toValue) = true := rt.digest_isHex _
  have hbacklog : (args.backlogNs : ℚ) / 1000000 ≤ 2000 := by
    have hle : (args.backlogNs : ℚ) ≤ 2000000000 := by exact_mod_cast h.backlogNs.2
    linarith
  simp only [NativeReceipt.passChecks, List.forall_mem_cons,
    draftReceipt, h.authority, h.argv, h.sha256, h.version, h.size, h.identity]
  simp [NativeReceipt.missingOrAbove, sumDiffers_int, h.stops, h.faces, h.poses, h.fps, h.rate, Option.mem_def.mp hgap, hgap200,
    Option.mem_def.mp hlatency, hlatency200, Option.mem_def.mp htail, htail500, h.backlog, hbacklog, h.mutex, h.child,
    h.pipe, h.reader, h.cleanup, h.media, h.supervised, h.deadline, h.drained, h.workerLease, h.executable,
    h.workerIdentity, h.consumed, h.leaseVerified, h.leaseClosed, ReceiptArgs.derivedAttempted, hdropped, hinference,
    hprivacy, hdelivery, Value.isDigest, isDigest_some, hargv, hconfig, hsha, hsize, hidentity, Value.truthy]
  have htotal := h.total
  have hpost := h.post
  have hpreflight : ((preflightSeconds : Int) : ℚ) = 60 := by norm_num [preflightSeconds]
  have hwarmup : ((Native.warmupSeconds : Int) : ℚ) = 5 := by norm_num [Native.warmupSeconds]
  rw [hpreflight, hwarmup]
  exact ⟨htotal, by linarith⟩

theorem basisChecks_draft (h : PassArgs rt prepared args) :
    ∀ check ∈ (draftReceipt rt .preflightPass none args).basisChecks, check = .ok false := by
  obtain ⟨gap, hgap, hgap0, -⟩ := h.gap
  obtain ⟨latency, hlatency, hlatency0, -⟩ := h.latency95
  obtain ⟨tail, htail, htail0, -⟩ := h.latency99
  obtain ⟨hdropped, hinference, hprivacy, hdelivery⟩ := h.lost
  have htotal := h.total
  have hpost := h.post
  have hrate := h.rate
  have hbacklog : (0 : ℚ) ≤ args.backlogNs / 1000000 := by
    have hle : (0 : ℚ) ≤ args.backlogNs := by exact_mod_cast h.backlogNs.1
    positivity
  have helapsed : 0 < args.postElapsedNs := by
    have hle : (55 : ℚ) ≤ args.postElapsedNs / 1000000000 := h.elapsed ▸ hpost
    have hlt : (0 : ℚ) < args.postElapsedNs := by linarith
    exact_mod_cast hlt
  have hcounts : (0 : ℤ) ≤ args.warmupFrames + args.postSuccessfulFrames := add_nonneg h.warmup h.successful
  have hwhole : ¬ args.postElapsedNs = 0 := helapsed.ne'
  simp only [NativeReceipt.basisChecks, List.forall_mem_cons,
    draftReceipt, ReceiptArgs.derivedAttempted, hdropped, hinference, hprivacy, hdelivery, h.fps, h.backlog,
    Option.mem_def.mp hgap, Option.mem_def.mp hlatency, Option.mem_def.mp htail, Value.ofOption_some, h.stops]
  refine ⟨?_, ?_, ?_, ?_, ?_, ?_, ?_, ?_, ?_, ?_⟩
  · have hrate0 : 0 ≤ (args.postSuccessfulFrames : ℚ) * 1000000000 / args.postElapsedNs := by linarith
    simp [hrate0, hgap0, hlatency0, htail0, hbacklog, (by linarith : (0 : ℚ) ≤ args.measuredTotalSeconds),
      (by linarith : (0 : ℚ) ≤ args.measuredPostWarmupSeconds)]
  · simp [hcounts]
  · simp [hcounts, h.warmup, h.successful, helapsed.le, h.stall.1, h.backlogNs.1]
  · simp
  · simp
  · simp
  · have hsuccessful := h.successful
    simp only [Value.int_count, hwhole, ge_iff_le, not_le.mpr h.stall.2, gt_iff_lt, not_lt.mpr h.backlogNs.2, ne_eq,
      not_true_eq_false, decide_false, Bool.or_self, Bool.false_or, add_zero]
    simp
    omega
  · simp [isclose_self]
  · simp [h.elapsed, isclose_self]
  · simp [isclose_self]

theorem pass_verified {nonce stateDigest : String} (hrt : rt.Intact) (h : PassArgs rt prepared args)
    (hretained : args.rawRetained = false) (hdigests : SealDigests nonce stateDigest) :
    verifyReceiptSemantics rt ((draftReceipt rt .preflightPass none args).sealedWith rt nonce stateDigest) = .ok true := by
  refine (verify_sealedWith hdigests).mpr ⟨draftReceipt_sound hrt h.consumed nofun ?_, ?_⟩
  · intro hraw
    rw [hretained] at hraw
    cases hraw
  · exact List.forall_mem_append.mpr ⟨passChecks_draft h, basisChecks_draft h⟩

theorem pass_candidate (hrt : rt.Intact) (h : PassArgs rt prepared args) (hretained : args.rawRetained = false) :
    candidateSemanticsAreValid rt ((draftReceipt rt .preflightPass none args).issued rt) = .ok true := by
  rw [candidateSemanticsAreValid, issued_sealedWith]
  exact pass_verified hrt h hretained candidate_digests

end Issued

/-! ## A sample -/

namespace Sample

def digits (digit : Char) : String := String.ofList (List.replicate 64 digit)

def runtime : Runtime where
  digest _ := digits 'a'
  digest_isHex _ := (isHexDigest_replicate 'a').trans (by decide)
  sourceSha256 := digits 'b'
  lockSha256 := digits 'c'
  poseSha256 := Native.poseModelSha256
  faceSha256 := Native.faceModelSha256
  poseBytes := Native.poseModelBytes
  faceBytes := Native.faceModelBytes
  installed := some "1.0.1"
  networkGuard := true
  audioSeal := true
  outboundAttempts := 0

theorem runtime_intact : runtime.Intact := ⟨rfl, rfl, rfl, rfl, rfl, rfl, rfl, rfl⟩

def prepared : PreparedAuthority where
  schemaVersion := 2
  opaqueDeviceToken := digits '1'
  authorityRevision := Native.authorityRevision
  state := .prepared
  ffmpegSha256 := digits '2'
  ffmpegVersion := digits '3'
  ffmpegSizeBytes := 1000
  ffmpegIdentityDigest := digits '4'
  authorizationNonce := digits '5'

theorem prepared_valid : prepared.IsValid :=
  ⟨rfl, (isHexDigest_replicate '1').trans (by decide), rfl, (isHexDigest_replicate '2').trans (by decide),
    (isHexDigest_replicate '3').trans (by decide), by decide, (isHexDigest_replicate '4').trans (by decide),
    (isHexDigest_replicate '5').trans (by decide)⟩

end Sample

end PduExamObserver.Native
