import PduExamObserver.Native.LocalReceipts
import PduExamObserver.Native.PassOrder

/-! # Every consumed authority ends with a receipt that can be verified

A supervised run always does; a local capture does unless it spoils its receipt. The digest in the terminal
record binds every field of that receipt. -/

namespace PduExamObserver.Native
open Authority
set_option autoImplicit false

section

variable {rt : Runtime} {prepared : PreparedAuthority} {candidate receipt : NativeReceipt}

/-! ## The prepared authority of a candidate -/

def NativeReceipt.For (receipt : NativeReceipt) (rt : Runtime) (prepared : PreparedAuthority) : Prop :=
  receipt.preparedConfigDigest = some (rt.digest prepared.toValue)

theorem issueReceipt_for {outcome : NativeOutcome} {failure : Option NativeFailure} {args : ReceiptArgs}
    (h : issueReceipt rt outcome failure args = .ok receipt) (hprepared : args.prepared = some prepared) :
    receipt.For rt prepared := by
  rw [issueReceipt_ok h]
  change args.prepared.map _ = _
  rw [hprepared]
  rfl

theorem consumedReceipt_for (failure : NativeFailure) : (consumedReceipt rt prepared failure).For rt prepared := rfl

theorem captureCandidate_for {calls : CaptureCalls} {opened : Opened}
    (h : calls.captureCandidate rt prepared opened = .ok candidate) : candidate.For rt prepared := by
  obtain ⟨facts, rfl, -, -, -, -, hissue⟩ := captureCandidate_ok h
  split at hissue
  · exact issueReceipt_for hissue rfl
  · unfold resultReceipt at hissue
    split at hissue
    · exact issueReceipt_for hissue rfl
    · exact issueReceipt_for hissue rfl

theorem deserialize_for {payload : Dict} {supervision : Supervision} {phases : Option Phases}
    (h : deserializeWorkerReceipt rt payload prepared supervision phases = .ok receipt) :
    receipt.For rt prepared := by
  obtain ⟨_, -, h⟩ := bind_ok_iff.mp h
  obtain ⟨outcomeValue, -, h⟩ := bind_ok_iff.mp h
  obtain ⟨outcome, -, h⟩ := bind_ok_iff.mp h
  obtain ⟨failure, -, h⟩ := bind_ok_iff.mp h
  obtain ⟨_, -, h⟩ := bind_ok_iff.mp h
  obtain ⟨cleanup, -, h⟩ := bind_ok_iff.mp h
  obtain ⟨_, -, h⟩ := bind_ok_iff.mp h
  obtain ⟨base, hbase, h⟩ := bind_ok_iff.mp h
  have hfor : base.For rt prepared := issueReceipt_for hbase rfl
  split at h
  · cases h
    exact hfor
  · cases h
    exact hfor

theorem judgeWorker_for {binding : FfmpegBinding} {launch : WorkerLaunch} {monitor : WorkerMonitorResult}
    (h : judgeWorker rt prepared binding launch monitor = .ok receipt) : receipt.For rt prepared := by
  unfold judgeWorker at h
  dsimp only at h
  split at h
  · split at h
    · split at h
      · exact issueReceipt_for h rfl
      · cases h
    · rename_i candidate hcandidate
      split at h
      · exact issueReceipt_for h rfl
      · obtain ⟨valid, -, h⟩ := bind_ok_iff.mp h
        split at h
        · cases h
          exact deserialize_for hcandidate
        · exact issueReceipt_for h rfl
  · exact issueReceipt_for h rfl

/-! ## Supervised runs -/

theorem acceptable_of_candidate (h : candidateSemanticsAreValid rt receipt = .ok true) : receipt.Acceptable rt :=
  (verify_sealedWith candidate_digests).mp h

theorem consumedReceipt_acceptable (hrt : rt.Intact) {failure : NativeFailure} (hcleanup : failure ≠ .cleanupIncomplete)
    (hstop : failure ≠ .privacyStop) : (consumedReceipt rt prepared failure).Acceptable rt :=
  acceptable_issued.mpr (noGo_acceptable hrt (honest_of_plain rfl rfl hcleanup hstop ⟨rfl, rfl, rfl, rfl⟩))

theorem checkCandidate_ok {proposed : NativeReceipt} (h : SupervisedCalls.checkCandidate rt prepared proposed = .ok candidate) :
    candidate = consumedReceipt rt prepared .workerProtocolFailure
      ∨ candidate = proposed ∧ candidateSemanticsAreValid rt proposed = .ok true := by
  unfold SupervisedCalls.checkCandidate at h
  split at h
  · cases h
    exact Or.inl rfl
  · obtain ⟨valid, hvalid, h⟩ := bind_ok_iff.mp h
    cases valid with
    | true =>
      cases h
      exact Or.inr ⟨rfl, hvalid⟩
    | false =>
      cases h
      exact Or.inl rfl

theorem supervised_candidate {calls : SupervisedCalls} (hrt : rt.Intact)
    (h : calls.candidate rt prepared = .ok candidate) : candidate.Acceptable rt ∧ candidate.For rt prepared := by
  obtain ⟨checked, hchecked, h⟩ := bind_ok_iff.mp h
  have hcandidate : checked.Acceptable rt ∧ checked.For rt prepared := by
    rcases checkCandidate_ok hchecked with rfl | ⟨rfl, hvalid⟩
    · exact ⟨consumedReceipt_acceptable hrt nofun nofun, consumedReceipt_for _⟩
    · refine ⟨acceptable_of_candidate hvalid, ?_⟩
      split
      · rename_i receipt hreceipt
        obtain ⟨grant, -, hrun⟩ := bind_ok_iff.mp hreceipt
        unfold runWindowsCaptureWorker at hrun
        obtain ⟨durable, -, hrun⟩ := bind_ok_iff.mp hrun
        obtain ⟨_, -, hrun⟩ := bind_ok_iff.mp hrun
        obtain ⟨binding, -, hrun⟩ := bind_ok_iff.mp hrun
        obtain ⟨_, -, hrun⟩ := bind_ok_iff.mp hrun
        obtain ⟨_, -, hrun⟩ := bind_ok_iff.mp hrun
        obtain ⟨_, -, hrun⟩ := bind_ok_iff.mp hrun
        obtain ⟨_, -, hrun⟩ := bind_ok_iff.mp hrun
        obtain ⟨monitor, -, hrun⟩ := bind_ok_iff.mp hrun
        exact judgeWorker_for hrun
      · exact consumedReceipt_for _
  split at h
  · cases h
    exact hcandidate
  · cases h
    exact hcandidate
  · cases h
    exact ⟨consumedReceipt_acceptable hrt nofun nofun, consumedReceipt_for _⟩

/-! ## What the digest binds -/

mutual

/-- The value as `json.dumps` writes it: the entries of a dictionary sorted by their keys. -/
def Value.encoding : Value → Value
  | .list items => .list (encodingItems items)
  | .dict fields => .dict ((encodingFields fields).insertionSort fun a b => a.1 ≤ b.1)
  | value => value

def encodingItems : List Value → List Value
  | [] => []
  | item :: items => item.encoding :: encodingItems items

def encodingFields : Dict → Dict
  | [] => []
  | (key, value) :: fields => (key, value.encoding) :: encodingFields fields

end

def NativeReceipt.encoded (receipt : NativeReceipt) : NativeReceipt :=
  { receipt with
    ffmpegSha256 := receipt.ffmpegSha256.encoding
    ffmpegVersion := receipt.ffmpegVersion.encoding
    ffmpegSizeBytes := receipt.ffmpegSizeBytes.encoding
    ffmpegIdentityDigest := receipt.ffmpegIdentityDigest.encoding
    ffmpegLeaseVerified := receipt.ffmpegLeaseVerified.encoding
    fixedArgvDigest := receipt.fixedArgvDigest.encoding
    deliveredFrames := receipt.deliveredFrames.encoding
    processedFrames := receipt.processedFrames.encoding
    droppedExplicitFrames := receipt.droppedExplicitFrames.encoding
    failedFrames := receipt.failedFrames.encoding
    privacyCheckedFrames := receipt.privacyCheckedFrames.encoding
    privacyStopCount := receipt.privacyStopCount.encoding
    faceDetections := receipt.faceDetections.encoding
    poseDetections := receipt.poseDetections.encoding
    measuredTotalSeconds := receipt.measuredTotalSeconds.encoding
    measuredPostWarmupSeconds := receipt.measuredPostWarmupSeconds.encoding
    deliveredFramesPerSecond := receipt.deliveredFramesPerSecond.encoding
    p95IngressGapMs := receipt.p95IngressGapMs.encoding
    p95PoseLatencyMs := receipt.p95PoseLatencyMs.encoding
    p99PoseLatencyMs := receipt.p99PoseLatencyMs.encoding
    backlogMs := receipt.backlogMs.encoding
    workerCleanupComplete := receipt.workerCleanupComplete.encoding
    receivedFrames := receipt.receivedFrames.encoding
    warmupFrames := receipt.warmupFrames.encoding
    postAttemptedFrames := receipt.postAttemptedFrames.encoding
    postSuccessfulFrames := receipt.postSuccessfulFrames.encoding
    droppedShortFrames := receipt.droppedShortFrames.encoding
    inferenceFailureFrames := receipt.inferenceFailureFrames.encoding
    privacyTerminalFrames := receipt.privacyTerminalFrames.encoding
    deliveryFailureFrames := receipt.deliveryFailureFrames.encoding
    postElapsedNs := receipt.postElapsedNs.encoding
    maxStallGapNs := receipt.maxStallGapNs.encoding
    backlogNs := receipt.backlogNs.encoding }

@[simp] theorem encoding_optionStr (s : Option String) : (Value.ofOption .str s).encoding = .ofOption .str s := by
  cases s <;> rfl

@[simp] theorem encoding_optionInt (n : Option Int) : (Value.ofOption .int n).encoding = .ofOption .int n := by
  cases n <;> rfl

theorem encodingItems_str (items : List String) : encodingItems (items.map .str) = items.map .str := by
  induction items with
  | nil => rfl
  | cons item items ih => exact congrArg _ ih

theorem ofOption_inj {α : Type} {wrap : α → Value} (hwrap : Function.Injective wrap) (hnone : ∀ a, wrap a ≠ .none)
    {a b : Option α} : Value.ofOption wrap a = .ofOption wrap b ↔ a = b := by
  constructor
  · intro h
    cases a with
    | none =>
      cases b with
      | none => rfl
      | some b => exact absurd h.symm (hnone b)
    | some a =>
      cases b with
      | none => exact absurd h (hnone a)
      | some b => exact congrArg some (hwrap h)
  · rintro rfl
    rfl

theorem optionStr_inj {a b : Option String} : Value.ofOption .str a = .ofOption .str b ↔ a = b :=
  ofOption_inj (fun _ _ h => Value.str.inj h) nofun

theorem optionInt_inj {a b : Option Int} : Value.ofOption .int a = .ofOption .int b ↔ a = b :=
  ofOption_inj (fun _ _ h => Value.int.inj h) nofun

theorem failure_value_injective : Function.Injective NativeFailure.value := by
  intro a b h
  have hof := congrArg NativeFailure.ofValue h
  rw [NativeFailure.ofValue_value, NativeFailure.ofValue_value] at hof
  exact Option.some.inj hof

theorem outcome_value_injective : Function.Injective NativeOutcome.value := by
  intro a b h
  have hof := congrArg NativeOutcome.ofValue h
  rw [NativeOutcome.ofValue_value, NativeOutcome.ofValue_value] at hof
  exact Option.some.inj hof

theorem optionFailure_inj {a b : Option NativeFailure} :
    Value.ofOption (fun failure : NativeFailure => .str failure.value) a = .ofOption (fun failure : NativeFailure => .str failure.value) b ↔ a = b :=
  ofOption_inj (fun _ _ h => failure_value_injective (Value.str.inj h)) nofun

@[simp] theorem encoding_optionFailure (a : Option NativeFailure) :
    (Value.ofOption (fun failure : NativeFailure => .str failure.value) a).encoding = .ofOption (fun failure : NativeFailure => .str failure.value) a := by
  cases a <;> rfl

theorem encoding_stages (stages : List StageState) :
    (Value.list (stages.map fun stage => .str stage.value)).encoding = .list (stages.map fun stage => .str stage.value) := by
  have h : stages.map (fun stage => Value.str stage.value) = (stages.map StageState.value).map .str := by
    rw [List.map_map]
    rfl
  rw [h, Value.encoding, encodingItems_str]

theorem stages_inj {a b : List StageState} : (a.map fun stage => Value.str stage.value) = b.map (fun stage => Value.str stage.value) ↔ a = b := by
  refine (List.map_injective_iff.mpr ?_).eq_iff
  intro x y _
  cases x
  cases y
  rfl

theorem eq_of_perm_of_keys {l l' : Dict} (hperm : l.Perm l') (hkeys : l.map Prod.fst = l'.map Prod.fst)
    (hnodup : (l.map Prod.fst).Nodup) : l = l' := by
  induction l generalizing l' with
  | nil => exact (List.nil_perm.mp hperm).symm
  | cons entry rest ih =>
    cases l' with
    | nil => exact absurd hkeys (by simp)
    | cons entry' rest' =>
      obtain ⟨hkey, hrest⟩ := List.cons.inj hkeys
      obtain ⟨hfresh, hnodup⟩ := List.nodup_cons.mp hnodup
      have hentry : entry = entry' := by
        rcases List.mem_cons.mp (hperm.subset List.mem_cons_self) with h | h
        · exact h
        · exact absurd (hrest ▸ List.mem_map_of_mem h) hfresh
      subst hentry
      rw [ih (List.perm_cons entry |>.mp hperm) hrest hnodup]

theorem encodingFields_keys (fields : Dict) : (encodingFields fields).map Prod.fst = fields.map Prod.fst := by
  induction fields with
  | nil => rfl
  | cons field fields ih => exact congrArg (field.1 :: ·) ih

theorem encodingFields_of_encoding {fields fields' : Dict} (h : (Value.dict fields).encoding = (Value.dict fields').encoding)
    (hkeys : fields.map Prod.fst = fields'.map Prod.fst) (hnodup : (fields.map Prod.fst).Nodup) :
    encodingFields fields = encodingFields fields' := by
  have hsorted := Value.dict.inj h
  have hperm := (List.perm_insertionSort (fun a b : String × Value => a.1 ≤ b.1) (encodingFields fields)).symm.trans
    (hsorted ▸ List.perm_insertionSort (fun a b : String × Value => a.1 ≤ b.1) (encodingFields fields'))
  refine eq_of_perm_of_keys hperm ?_ ?_
  · rw [encodingFields_keys, encodingFields_keys, hkeys]
  · rw [encodingFields_keys]
    exact hnodup

theorem coreFields_nodup (receipt : NativeReceipt) : (receipt.coreFields.map Prod.fst).Nodup := by
  simp only [NativeReceipt.coreFields, List.map_cons, List.map_nil]
  decide +kernel

theorem encoded_of_core {receipt other : NativeReceipt} (h : encodingFields other.coreFields = encodingFields receipt.coreFields)
    (hcore : other.terminalReceiptDigest = receipt.terminalReceiptDigest)
    (hstate : other.terminalStateDigest = receipt.terminalStateDigest) (hresult : other.resultDigest = receipt.resultDigest) :
    other.encoded = receipt.encoded := by
  cases other
  cases receipt
  simp only [NativeReceipt.coreFields, encodingFields, encoding_optionStr, encoding_optionInt, encoding_optionFailure,
    encoding_stages, List.cons.injEq, Prod.mk.injEq, true_and, and_true] at h
  simp only [Value.encoding, Value.str.injEq, Value.int.injEq, Value.bool.injEq, Value.list.injEq, optionStr_inj, optionInt_inj,
    optionFailure_inj, stages_inj, outcome_value_injective.eq_iff] at h
  dsimp only at hcore hstate hresult
  simp only [NativeReceipt.encoded, NativeReceipt.mk.injEq]
  simp only [h, hcore, hstate, hresult, and_self]

theorem encodingFields_append (fields fields' : Dict) :
    encodingFields (fields ++ fields') = encodingFields fields ++ encodingFields fields' := by
  induction fields with
  | nil => rfl
  | cons field fields ih => exact congrArg ((field.1, field.2.encoding) :: ·) ih

structure Runtime.Seals (rt : Runtime) (receipt : NativeReceipt) : Prop where
  encodes : ∀ value other : Value, value.encoding = other.encoding → rt.digest value = rt.digest other
  binds : ∀ value : Value, rt.digest value = rt.digest (.dict receipt.coreFields) →
    value.encoding = (Value.dict receipt.coreFields).encoding

theorem verified_digests (h : verifyReceiptSemantics rt receipt = .ok true) (hconsumed : receipt.authorityConsumed = true) :
    receipt.resultDigest = receipt.recomputeDigest rt
      ∧ receipt.terminalReceiptDigest = some (receipt.recomputeCoreDigest rt) := by
  have hcommon := (List.forall_mem_append.mp (verifyReceiptSemantics_iff.mp h)).1
  simp only [NativeReceipt.commonChecks, List.forall_mem_cons, Except.ok.injEq, decide_eq_false_iff_not, not_not] at hcommon
  obtain ⟨-, hresult, hseal, -⟩ := hcommon
  refine ⟨hresult, ?_⟩
  rw [NativeReceipt.sealRejected, if_pos hconsumed] at hseal
  simp only [Bool.or_eq_false_iff, decide_eq_false_iff_not, not_not] at hseal
  exact hseal.2

theorem verified_unique {other : NativeReceipt} {files : Files} (hreceipt : verifyTerminalReceipt rt receipt files = .ok true)
    (hother : verifyTerminalReceipt rt other files = .ok true) (hseals : rt.Seals receipt) :
    other.encoded = receipt.encoded := by
  obtain ⟨hsemantics, hconsumed, terminal, hterminal, -, hmatches⟩ := verifyTerminalReceipt_iff.mp hreceipt
  obtain ⟨hsemantics', hconsumed', terminal', hterminal', -, hmatches'⟩ := verifyTerminalReceipt_iff.mp hother
  obtain rfl := Option.some.inj (hterminal.symm.trans hterminal')
  simp only [NativeReceipt.matchesTerminal, Bool.and_eq_true, decide_eq_true_eq] at hmatches hmatches'
  obtain ⟨⟨⟨⟨⟨⟨⟨⟨⟨⟨-, -⟩, hcore⟩, -⟩, -⟩, hstate⟩, -⟩, -⟩, -⟩, -⟩, -⟩ := hmatches
  obtain ⟨⟨⟨⟨⟨⟨⟨⟨⟨⟨-, -⟩, hcore'⟩, -⟩, -⟩, hstate'⟩, -⟩, -⟩, -⟩, -⟩, -⟩ := hmatches'
  obtain ⟨hresult, hdigest⟩ := verified_digests hsemantics hconsumed
  obtain ⟨hresult', hdigest'⟩ := verified_digests hsemantics' hconsumed'
  have hsame : rt.digest (.dict other.coreFields) = rt.digest (.dict receipt.coreFields) :=
    Option.some.inj (hdigest'.symm.trans (hcore'.trans (hcore.symm.trans hdigest)))
  have hfields : encodingFields other.coreFields = encodingFields receipt.coreFields :=
    encodingFields_of_encoding (hseals.binds _ hsame) rfl (coreFields_nodup other)
  refine encoded_of_core hfields (hcore'.trans hcore.symm) (hstate'.trans hstate.symm) ?_
  rw [hresult, hresult']
  refine hseals.encodes _ _ ?_
  simp only [Value.encoding, encodingFields_append, hfields, hcore, hcore', hstate, hstate']

/-! ## Every run -/

def PreflightRun.Verifiable (run : PreflightRun) (rt : Runtime) (prepared : PreparedAuthority) : Prop :=
  match run with
  | .supervised _ => True
  | .localCapture calls => ∀ opened, calls.openCapture rt prepared = .ok opened → calls.Verifiable

theorem run_candidate {run : PreflightRun} (hrt : rt.Intact) (hvalid : prepared.IsValid)
    (hcandidate : run.candidate rt prepared = .ok candidate) :
    candidate.For rt prepared
      ∧ ((candidate.failureCode = some .authorityFinalizationFailed ∨ candidate.Acceptable rt)
        ↔ run.Verifiable rt prepared) := by
  cases run with
  | supervised calls =>
    obtain ⟨hacceptable, hfor⟩ := supervised_candidate hrt hcandidate
    exact ⟨hfor, fun _ => trivial, fun _ => Or.inr hacceptable⟩
  | localCapture calls =>
    unfold PreflightRun.candidate CaptureCalls.runConsumed at hcandidate
    dsimp only at hcandidate
    cases hopen : calls.openCapture rt prepared with
    | error exit =>
      rw [hopen] at hcandidate
      obtain ⟨hcleanup, hstop⟩ := exits_failure (openCapture_error hopen)
      refine ⟨issueReceipt_for hcandidate rfl, fun _ opened hopened => ?_, fun _ => Or.inr ?_⟩
      · rw [hopen] at hopened
        cases hopened
      · exact earlyExit_acceptable hrt hcleanup hstop hcandidate
    | ok opened =>
      rw [hopen] at hcandidate
      have hiff := captureCandidate_acceptable hrt hvalid hopen hcandidate
      refine ⟨captureCandidate_for hcandidate, fun h opened' hopened => hiff.mp h, fun h => hiff.mpr (h opened hopen)⟩

theorem takePreparedAuthority_ok {take : TakeCalls} {files files' : Files}
    (h : takePreparedAuthority rt take files = (files', .ok (.ok prepared))) : prepared.IsValid := by
  unfold takePreparedAuthority at h
  split at h
  · cases h
  · cases h
  · rename_i found hload
    split at h
    · cases h
    · split at h
      · cases h
      · cases h
      · split at h
        · cases h
          unfold Files.load at hload
          split at hload
          · cases hload
          · exact of_decide_eq_true (readRecord_ok hload).2
        · cases h
        · cases h
        · cases h

def NativeReceipt.Verified (receipt : NativeReceipt) (rt : Runtime) (files : Files) : Prop :=
  receipt.failureCode = some .authorityFinalizationFailed
    ∨ verifyTerminalReceipt rt receipt files = .ok true
      ∧ (rt.Seals receipt → ∀ other, verifyTerminalReceipt rt other files = .ok true → other.encoded = receipt.encoded)

def Unfinalized (rt : Runtime) (request : TerminalRequest) (faults : Faults) (files : Files) : Prop :=
  ∀ terminal, (finalizeTerminal rt request faults files).2 ≠ .ok (some terminal)

theorem terminalize_verified {nonce : String} {faults : Faults} {files files' : Files} (hnonce : isHexDigest nonce = true)
    (hfor : candidate.For rt prepared)
    (hfinal : terminalize rt prepared candidate nonce faults files = (files', .ok receipt)) :
    receipt.Verified rt files'
      ↔ (candidate.failureCode = some .authorityFinalizationFailed ∨ candidate.Acceptable rt)
        ∨ Unfinalized rt (terminalRequest rt prepared candidate nonce) faults files := by
  unfold terminalize at hfinal
  split at hfinal
  · rename_i written terminal hterminal
    cases hfinal
    obtain ⟨rfl, hstored, haccepted⟩ := finalizeTerminal_ok hterminal
    have hfinalized : ¬ Unfinalized rt (terminalRequest rt prepared candidate nonce) faults files := by
      intro hnone
      exact hnone _ (congrArg Prod.snd hterminal)
    have hverify := verify_finalized hfor hnonce hstored haccepted
    constructor
    · rintro (hcode | ⟨hverified, -⟩)
      · exact Or.inl (Or.inl hcode)
      · exact Or.inl (Or.inr (hverify.mp hverified))
    · rintro ((hcode | hacceptable) | hnone)
      · exact Or.inl hcode
      · exact Or.inr ⟨hverify.mpr hacceptable, fun hseals other hother =>
          verified_unique (hverify.mpr hacceptable) hother hseals⟩
      · exact absurd hnone hfinalized
  · cases hfinal
  · rename_i written result hnone hcrashed hresult
    cases hfinal
    refine ⟨fun _ => Or.inr fun terminal h => ?_, fun _ => Or.inl rfl⟩
    rw [hresult] at h
    exact hnone terminal h

end

/-- The receipt of a call that consumed the authority is verified exactly if its run does not spoil it, or no
terminal record could be written. -/
theorem preflight_receipt_verified {rt : Runtime} {run : PreflightRun} {take : TakeCalls} {faults : Faults}
    {nonce : String} {files taken before after : Files} {prepared : PreparedAuthority}
    {candidate receipt : NativeReceipt} (hrt : rt.Intact) (hnonce : isHexDigest nonce = true)
    (htake : takePreparedAuthority rt take files = (taken, .ok (.ok prepared)))
    (hcandidate : run.candidate rt prepared = .ok candidate)
    (hfinal : terminalize rt prepared candidate nonce faults before = (after, .ok receipt)) :
    receipt.Verified rt after
      ↔ run.Verifiable rt prepared
        ∨ Unfinalized rt (terminalRequest rt prepared candidate nonce) faults before := by
  obtain ⟨hfor, hiff⟩ := run_candidate hrt (takePreparedAuthority_ok htake) hcandidate
  rw [terminalize_verified hnonce hfor hfinal, hiff]

/-! ## A spoiled receipt -/

namespace Sample

def authority : FfmpegAuthority where
  executable := "ffmpeg.exe"
  sha256 := digits '2'
  version := digits '3'

def camera : CameraCandidate where
  friendlyName := "Camera"
  present := true
  statusOk := true

theorem camera_safe : safeDirectshowName "Camera" = true := by decide

def opened : Opened where
  camera := camera
  authority := authority
  size := 1000
  identity := digits '4'

def closing : ClosingCalls where
  terminate := .ok ()
  kill := none
  stopReader := .ok true
  closeStdout := .ok ()
  zeroBuffers := false
  closeMedia := .ok ()
  closeLease := some (.ok true)
  releaseMutex := .ok none

/-- No frame arrives, the buffers keep their bytes, and the sink raises at `CAPTURE_CLOSED`. -/
def spoiled : CaptureCalls where
  prerequisites := true
  liveness := .ok true
  sink := true
  privacyReady := .ok ()
  cameras := .ok [camera]
  authority := { answer := .ok authority }
  executableSha256 := .ok (digits '2')
  identity := some (.ok (1000, digits '4'))
  namedMutex := .ok ()
  acquire := { answer := .ok true }
  buffers := .ok ()
  captureStarting := .ok 1
  launch := { answer := .ok () }
  reader := .ok ()
  startReader := .ok ()
  turns := []
  alive := true
  closing := closing
  captureClosed := .error .valueError
  leaseVerified := some (.ok true)

theorem spoiled_opens : spoiled.openCapture runtime prepared = .ok opened := by
  have hmatches : CaptureCalls.authorityMatches prepared (digits '2') opened = true := by
    have hhex : isHexDigest (digits '2') = true := (isHexDigest_replicate _).trans (by decide)
    simp [CaptureCalls.authorityMatches, opened, camera, authority, prepared, camera_safe, hhex]
  have hopen : spoiled.openCapture runtime prepared = spoiled.bindCapture runtime prepared := rfl
  have hbind : spoiled.bindCapture runtime prepared
      = if CaptureCalls.authorityMatches prepared (digits '2') opened then spoiled.takeMutex opened
        else .error spoiled.incompatibleExit := by
    rw [CaptureCalls.bindCapture]
    rfl
  rw [hopen, hbind]
  exact (if_pos hmatches).trans rfl

def spoiledCandidate : NativeReceipt :=
  (draftReceipt runtime .noGo (some .captureRuntimeException)
    { prepared := some prepared
      mutexReleased := true
      childTerminated := true
      pipeClosed := true
      readerStopped := true
      mediaClosed := true
      authorityConsumed := true
      rawRetained := true }).issued runtime

theorem spoiled_captured :
    (PreflightRun.localCapture spoiled).candidate runtime prepared
      = spoiled.captureCandidate runtime prepared opened := by
  rw [PreflightRun.candidate, CaptureCalls.runConsumed, spoiled_opens]

theorem spoiled_candidate :
    (PreflightRun.localCapture spoiled).candidate runtime prepared = .ok spoiledCandidate := by
  rw [spoiled_captured]
  rfl

def files : Files where
  prepared := some prepared

def consumedFiles : Files where
  prepared := some (prepared.withState .consumed)

theorem files_load : files.load true = .ok (some prepared) := by
  simp [Files.load, files, readRecord, prepared_valid]

theorem consumedFiles_load : consumedFiles.load true = .ok (some (prepared.withState .consumed)) := by
  have hvalid : (prepared.withState .consumed).IsValid := prepared_valid
  simp [Files.load, consumedFiles, readRecord, hvalid]

theorem take_prepared : takePreparedAuthority runtime {} files = (consumedFiles, .ok (.ok prepared)) := by
  have hconsume : consume prepared {} files = (consumedFiles, .ok true) := by
    rw [consume, advance, files_load]
    rfl
  rw [takePreparedAuthority, files_load]
  dsimp only
  rw [hconsume]
  rfl

def terminalOf (candidate : NativeReceipt) : TerminalAuthority :=
  (terminalRequest runtime prepared candidate (digits '6')).terminal runtime

def terminalFiles (candidate : NativeReceipt) : Files := { consumedFiles with terminal := some (terminalOf candidate) }

theorem nonce_hex : isHexDigest (digits '6') = true := (isHexDigest_replicate _).trans (by decide)

theorem accepted {candidate : NativeReceipt}
    (h : candidate.outcome = .preflightPass ∧ candidate.failureCode = none
      ∨ candidate.outcome = .noGo ∧ candidate.failureCode.isSome) :
    ¬ (terminalRequest runtime prepared candidate (digits '6')).Rejected := by
  have hcore : isHexDigest (terminalRequest runtime prepared candidate (digits '6')).receiptCoreDigest = true :=
    (isHexDigest_replicate 'a').trans (by decide)
  have hnonce : isHexDigest (terminalRequest runtime prepared candidate (digits '6')).runNonce = true := nonce_hex
  have hfields : (terminalRequest runtime prepared candidate (digits '6')).outcome = candidate.outcome
      ∧ (terminalRequest runtime prepared candidate (digits '6')).failure = candidate.failureCode := ⟨rfl, rfl⟩
  rw [TerminalRequest.Rejected, hnonce, hcore, hfields.1, hfields.2]
  rcases h with ⟨houtcome, hfailure⟩ | ⟨houtcome, hfailure⟩
  · simp [houtcome, hfailure]
  · simpa [houtcome] using Option.isSome_iff_ne_none.mp hfailure

theorem finalized {candidate : NativeReceipt}
    (haccepted : ¬ (terminalRequest runtime prepared candidate (digits '6')).Rejected) :
    finalizeTerminal runtime (terminalRequest runtime prepared candidate (digits '6')) {} consumedFiles
      = (terminalFiles candidate, .ok (some (terminalOf candidate))) := by
  rw [finalizeTerminal, consumedFiles_load]
  simp only [haccepted, if_false]
  rfl

def receiptOf (candidate : NativeReceipt) : NativeReceipt :=
  candidate.sealedWith runtime (digits '6') (terminalOf candidate).recordDigest

theorem terminalized {candidate : NativeReceipt}
    (haccepted : ¬ (terminalRequest runtime prepared candidate (digits '6')).Rejected) :
    terminalize runtime prepared candidate (digits '6') {} consumedFiles
      = (terminalFiles candidate, .ok (receiptOf candidate)) := by
  rw [terminalize, finalized haccepted]
  rfl

theorem spoiled_not_verifiable : ¬ spoiled.Verifiable := by
  intro h
  have hzeroed := h.closing rfl rfl nofun
  cases hzeroed

theorem spoiled_not_verified : ¬ (receiptOf spoiledCandidate).Verified runtime (terminalFiles spoiledCandidate) := by
  have hfinal := @terminalize_verified runtime prepared spoiledCandidate _ _ _ _ _ nonce_hex rfl
    (terminalized (accepted (.inr ⟨rfl, rfl⟩)))
  rw [hfinal]
  rintro (haccepted | hnone)
  · have hiff := captureCandidate_acceptable runtime_intact prepared_valid spoiled_opens
      (spoiled_captured.symm.trans spoiled_candidate)
    exact spoiled_not_verifiable (hiff.mp haccepted)
  · exact hnone _ (congrArg Prod.snd (finalized (accepted (.inr ⟨rfl, rfl⟩))))

end Sample

/-- The receipt of a local capture whose closing event failed while it retained frames is rejected. -/
theorem spoiled_receipt_rejected :
    ¬ ∀ (rt : Runtime) (run : PreflightRun) (take : TakeCalls) (faults : Faults) (nonce : String)
        (files taken before after : Files) (prepared : PreparedAuthority) (candidate receipt : NativeReceipt),
      rt.Intact → isHexDigest nonce = true → takePreparedAuthority rt take files = (taken, .ok (.ok prepared)) →
      run.candidate rt prepared = .ok candidate →
      terminalize rt prepared candidate nonce faults before = (after, .ok receipt) → receipt.Verified rt after := by
  intro h
  exact Sample.spoiled_not_verified
    (h _ _ _ _ _ _ _ _ _ _ _ _ Sample.runtime_intact Sample.nonce_hex Sample.take_prepared Sample.spoiled_candidate
      (Sample.terminalized (Sample.accepted (.inr ⟨rfl, rfl⟩))))

/-! ## A pass of a worker -/

namespace Sample
open LateFrame (binding grant launch payload message clock turn run)

/-- The worker of `LateFrame`, which here reports its first frame before the end of the capture. -/
def loads : Loads
  | [3] => .ok (message "FIRST_FRAME" (clock 2000000000))
  | [4] => .ok (message "CAPTURE_CLOSED" (clock 3000000000))
  | line => LateFrame.loads line

def supervised : SupervisedCalls where
  loads := loads
  challenge := ""
  probe := .ok binding
  closeProbe := .ok true
  newGrant := .ok grant
  issue := .ok true
  launch := launch
  run := run
  revoke := .ok true

theorem run_heard :
    Heard (watchOf runtime loads "" grant) run.turns { deadline := run.start + workerAuthorizationTimeout }
      (completeState (4 + workerReportTimeout) 1000000000 2000000000 payload) := by
  have hauthorized : LineSays (watchOf runtime loads "" grant) [0] .authorized :=
    ⟨_, rfl, rfl, rfl, by decide, _, rfl, by decide, rfl⟩
  have hready : LineSays (watchOf runtime loads "" grant) [1] .privacyReady :=
    ⟨_, rfl, rfl, rfl, by unfold Phase.Fits; decide⟩
  have hstarting : LineSays (watchOf runtime loads "" grant) [2] (.captureStarting 1000000000) :=
    ⟨_, rfl, rfl, rfl, by decide, by decide⟩
  have hfirst : LineSays (watchOf runtime loads "" grant) [3] (.firstFrame 2000000000) :=
    ⟨_, rfl, rfl, rfl, by decide, by decide⟩
  have hclosed : LineSays (watchOf runtime loads "" grant) [4] (.captureClosed 3000000000) :=
    ⟨_, rfl, rfl, rfl, by decide, by decide⟩
  have hreceipt : LineSays (watchOf runtime loads "" grant) [5] (.receipt payload) :=
    ⟨_, rfl, rfl, rfl, by decide, rfl⟩
  have htimely : decide (secondsOfNs 2000000000 + workerCaptureTimeout ≤ (turn 3).now) = false := by decide +kernel
  have hframe : (Phase.firstFrame 2000000000).step (turn 3)
      { deadline := secondsOfNs 1000000000 + workerFirstFrameTimeout, authorized := true, privacyReady := true,
        captureStarting := true, captureStartingNs := some 1000000000 }
      = some
        { deadline := secondsOfNs 2000000000 + workerCaptureTimeout, authorized := true, privacyReady := true,
          captureStarting := true, captureStartingNs := some 1000000000, firstFrame := true,
          firstFrameNs := some 2000000000 } := by
    rw [Phase.step, if_neg (by decide), htimely]
  have hclose : (Phase.captureClosed 3000000000).step (turn 4)
      { deadline := secondsOfNs 2000000000 + workerCaptureTimeout, authorized := true, privacyReady := true,
        captureStarting := true, captureStartingNs := some 1000000000, firstFrame := true,
        firstFrameNs := some 2000000000 }
      = some { completeState (4 + workerReportTimeout) 1000000000 2000000000 payload with payload := none } :=
    if_neg (by decide +kernel)
  exact .phase (by decide +kernel) rfl hauthorized rfl rfl <| .phase (by decide +kernel) rfl hready rfl rfl <|
    .phase (by decide +kernel) rfl hstarting rfl rfl <| .phase (by decide +kernel) rfl hfirst hframe rfl <|
    .phase (by decide +kernel) rfl hclosed hclose rfl <| .receipt (by decide +kernel) rfl hreceipt

theorem supervised_passes : supervised.superviseWorker runtime prepared = .ok LateFrame.candidate := by
  have hend : CleanEnd launch run := ⟨rfl, rfl, rfl, rfl, rfl, rfl⟩
  have hstarted : Started runtime "" grant launch binding := ⟨rfl, rfl, rfl, rfl, rfl, rfl, rfl, rfl⟩
  have hissued : supervised.grantIssued = .ok grant := rfl
  obtain ⟨monitor, hmonitor, hallowed, hall, hpayload⟩ := monitor_of_heard hend run_heard
  rw [SupervisedCalls.superviseWorker, hissued, ok_bind]
  exact runWindowsCaptureWorker_ok.mpr
    ⟨binding, monitor, hstarted, hmonitor, judgeWorker_eq hallowed hall hpayload LateFrame.candidate_passes⟩

theorem supervised_candidate_eq :
    (PreflightRun.supervised supervised).candidate runtime prepared = .ok LateFrame.candidate := by
  have hvalid := LateFrame.candidate_passes.2.2
  have hchecked : SupervisedCalls.checkCandidate runtime prepared LateFrame.candidate = .ok LateFrame.candidate := by
    rw [SupervisedCalls.checkCandidate, hvalid]
    rfl
  rw [PreflightRun.candidate, SupervisedCalls.candidate, supervised_passes]
  simp only [hchecked, ok_bind]
  rfl

end Sample

theorem preflight_receipt_verified_sample :
    ¬ (Sample.receiptOf Sample.spoiledCandidate).Verified Sample.runtime (Sample.terminalFiles Sample.spoiledCandidate)
      ∧ (Sample.receiptOf LateFrame.candidate).outcome = .preflightPass
      ∧ (Sample.receiptOf LateFrame.candidate).Verified Sample.runtime (Sample.terminalFiles LateFrame.candidate) := by
  refine ⟨fun hverified => ?_, rfl, ?_⟩
  · rcases (preflight_receipt_verified Sample.runtime_intact Sample.nonce_hex Sample.take_prepared
      Sample.spoiled_candidate (Sample.terminalized (Sample.accepted (.inr ⟨rfl, rfl⟩)))).mp hverified with hrun | hnone
    · exact Sample.spoiled_not_verifiable (hrun _ Sample.spoiled_opens)
    · exact hnone _ (congrArg Prod.snd (Sample.finalized (Sample.accepted (.inr ⟨rfl, rfl⟩))))
  · exact (preflight_receipt_verified Sample.runtime_intact Sample.nonce_hex Sample.take_prepared
      Sample.supervised_candidate_eq (Sample.terminalized (Sample.accepted (.inl ⟨rfl, rfl⟩)))).mpr (.inl trivial)

end PduExamObserver.Native
