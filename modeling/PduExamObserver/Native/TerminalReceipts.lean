import PduExamObserver.Native.LoopFacts
import PduExamObserver.Native.PassReceipts
import PduExamObserver.Native.Preflight

/-! # Terminal receipts

A receipt that was bound to the terminal record is accepted against the store exactly if the rules that do not
mention the seal hold of its candidate. Early exits, privacy stops and measured captures each meet them, apart
from two ways in which a capture can go wrong. -/

namespace PduExamObserver.Native
open Authority
set_option autoImplicit false

variable {rt : Runtime}

def NativeReceipt.Acceptable (rt : Runtime) (receipt : NativeReceipt) : Prop :=
  receipt.Sound rt ∧ ∀ check ∈ receipt.outcomeChecks rt, check = .ok false

/-! ## The terminal record -/

section Finalized

variable {request : TerminalRequest} {faults : Faults} {files files' : Files} {terminal : TerminalAuthority}

theorem guarded_ok {α : Type} {body : Outcome α} {a : α} (h : guarded faults files body = (files', .ok a)) :
    body = (files', .ok a) := by
  obtain ⟨bodyFiles, result⟩ := body
  unfold guarded at h
  split at h
  · cases result with
    | ok b =>
      dsimp only at h
      split at h
      · exact h
      · cases h
    | error stop =>
      cases stop with
      | raised =>
        dsimp only at h
        split at h
        · exact h
        · cases h
      | crashed => cases h
  · cases h

theorem readRecord_ok {α : Type} {readable : Bool} {valid : α → Bool} {stored : Option α} {value : α}
    (h : readRecord readable valid stored = .ok (some value)) : stored = some value ∧ valid value = true := by
  cases stored with
  | none => cases h
  | some found =>
    unfold readRecord at h
    dsimp only at h
    split at h
    · rename_i hvalid
      cases h
      exact ⟨rfl, (Bool.and_eq_true_iff.mp hvalid).2⟩
    · cases h

theorem finalizeTerminal_ok (h : finalizeTerminal rt request faults files = (files', .ok (some terminal))) :
    terminal = request.terminal rt ∧ files'.terminal = some terminal ∧ ¬ request.Rejected := by
  have hbody := guarded_ok h
  split at hbody
  · cases hbody
  · split at hbody
    · cases hbody
    · split at hbody
      · cases hbody
      · rename_i hrejected
        unfold atomicJsonWrite at hbody
        cases hwrite : faults.write with
        | none =>
          rw [hwrite] at hbody
          cases hbody
          exact ⟨rfl, rfl, hrejected⟩
        | failsBefore =>
          rw [hwrite] at hbody
          obtain ⟨rfl, hresult⟩ := Prod.mk.inj hbody
          obtain ⟨observed, hload, hsome⟩ := map_ok_iff.mp hresult
          split at hsome
          · rename_i hobserved
            cases hsome
            rw [hobserved] at hload
            exact ⟨rfl, (readRecord_ok hload).1, hrejected⟩
          · cases hsome
        | failsAfter =>
          rw [hwrite] at hbody
          obtain ⟨rfl, hresult⟩ := Prod.mk.inj hbody
          obtain ⟨observed, -, hsome⟩ := map_ok_iff.mp hresult
          split at hsome
          · cases hsome
            exact ⟨rfl, rfl, hrejected⟩
          · cases hsome
        | crashesBefore =>
          rw [hwrite] at hbody
          cases hbody
        | crashesAfter =>
          rw [hwrite] at hbody
          cases hbody

theorem NativeFailure.mem_all (failure : NativeFailure) : failure ∈ NativeFailure.all := by
  cases failure <;> decide

theorem terminal_valid (h : ¬ request.Rejected) : (request.terminal rt).IsValid rt := by
  obtain ⟨hnonce, hcore, houtcome, hpass, hfailure⟩ : isHexDigest request.runNonce = true
      ∧ isHexDigest request.receiptCoreDigest = true ∧ request.outcome ≠ .prepared
      ∧ (request.outcome = .preflightPass → request.failure = none)
      ∧ (request.outcome = .noGo → request.failure ≠ none) := by
    simp only [TerminalRequest.Rejected, not_or, not_and, Bool.not_eq_false] at h
    obtain ⟨hnonce, hcore, houtcome, hpass, hfailure⟩ := h
    refine ⟨hnonce, hcore, houtcome, fun houtcome => ?_, fun houtcome hnone => ?_⟩
    · simpa using hpass houtcome
    · exact hfailure houtcome (by simp [hnone])
  refine ⟨rfl, rfl, rt.digest_isHex _, hnonce, hcore, ?_, rfl⟩
  change request.outcome.value = _ ∧ (request.failure.map NativeFailure.value).getD "NONE" = _
    ∨ request.outcome.value = _ ∧ (request.failure.map NativeFailure.value).getD "NONE" ∈ _
  cases hcase : request.outcome with
  | prepared => exact absurd hcase houtcome
  | preflightPass =>
    left
    rw [hpass hcase]
    exact ⟨rfl, rfl⟩
  | noGo =>
    right
    obtain ⟨failure, hsome⟩ := Option.ne_none_iff_exists'.mp (hfailure hcase)
    rw [hsome]
    exact ⟨rfl, List.mem_map_of_mem (NativeFailure.mem_all failure)⟩

end Finalized

/-! ## Verification against the store -/

section Verify

variable {prepared : PreparedAuthority} {candidate : NativeReceipt} {nonce : String} {files : Files}

theorem verifyTerminalReceipt_iff {receipt : NativeReceipt} :
    verifyTerminalReceipt rt receipt files = .ok true
      ↔ verifyReceiptSemantics rt receipt = .ok true ∧ receipt.authorityConsumed = true
        ∧ ∃ terminal, files.terminal = some terminal ∧ terminal.IsValid rt ∧ receipt.matchesTerminal rt terminal = true := by
  unfold verifyTerminalReceipt
  cases hsemantics : verifyReceiptSemantics rt receipt with
  | error raised =>
    constructor
    · rintro ⟨⟩
    · rintro ⟨h, -⟩
      cases h
  | ok valid =>
    rw [ok_bind]
    cases valid with
    | false =>
      constructor
      · rintro ⟨⟩
      · rintro ⟨h, -⟩
        cases h
    | true =>
      cases hconsumed : receipt.authorityConsumed with
      | false =>
        constructor
        · rintro ⟨⟩
        · rintro ⟨-, h, -⟩
          cases h
      | true =>
        unfold Files.loadTerminal
        cases hterminal : files.terminal with
        | none =>
          constructor
          · rintro ⟨⟩
          · rintro ⟨-, -, terminal, h, -⟩
            cases h
        | some terminal =>
          unfold readRecord
          by_cases hvalid : terminal.IsValid rt
          · simp [hvalid, pure_eq_ok]
          · simp [hvalid, pure_eq_ok]

theorem verify_finalized (hconfig : candidate.preparedConfigDigest = some (rt.digest prepared.toValue))
    (hnonce : isHexDigest nonce = true)
    (hterminal : files.terminal = some ((terminalRequest rt prepared candidate nonce).terminal rt))
    (haccepted : ¬ (terminalRequest rt prepared candidate nonce).Rejected) :
    verifyTerminalReceipt rt
        (candidate.sealedWith rt nonce ((terminalRequest rt prepared candidate nonce).terminal rt).recordDigest) files
        = .ok true
      ↔ candidate.Acceptable rt := by
  have hdigests : SealDigests nonce ((terminalRequest rt prepared candidate nonce).terminal rt).recordDigest :=
    ⟨hnonce, rt.digest_isHex _⟩
  rw [verifyTerminalReceipt_iff, verify_sealedWith hdigests]
  constructor
  · rintro ⟨hacceptable, -⟩
    exact hacceptable
  · intro hacceptable
    refine ⟨hacceptable, hacceptable.1.consumed, _, hterminal, terminal_valid haccepted, ?_⟩
    have hbinding := hacceptable.1.binding
    simp only [NativeReceipt.bindingRejected, Bool.or_eq_false_iff, decide_eq_false_iff_not, not_not] at hbinding
    obtain ⟨⟨⟨⟨⟨⟨⟨⟨⟨⟨⟨⟨hsource, hlock⟩, hpose⟩, hface⟩, -⟩, -⟩, hinstalled⟩, -⟩, -⟩, -⟩, -⟩, -⟩, -⟩ := hbinding
    have hmatches : (candidate.sealedWith rt nonce
          ((terminalRequest rt prepared candidate nonce).terminal rt).recordDigest).matchesTerminal rt
            ((terminalRequest rt prepared candidate nonce).terminal rt)
        = (decide (candidate.preparedConfigDigest = some (rt.digest prepared.toValue))
          && decide (some nonce = some nonce)
          && decide (some (NativeReceipt.recomputeCoreDigest rt { candidate with runNonce := some nonce })
            = some (NativeReceipt.recomputeCoreDigest rt { candidate with runNonce := some nonce }))
          && decide (candidate.outcome.value = candidate.outcome.value)
          && decide ((candidate.failureCode.map NativeFailure.value).getD "NONE"
            = (candidate.failureCode.map NativeFailure.value).getD "NONE")
          && decide (some ((terminalRequest rt prepared candidate nonce).terminal rt).recordDigest
            = some ((terminalRequest rt prepared candidate nonce).terminal rt).recordDigest)
          && decide (candidate.sourceSha256 = rt.sourceSha256)
          && decide (candidate.lockSha256 = rt.lockSha256)
          && decide (candidate.poseModelSha256 = Native.poseModelSha256)
          && decide (candidate.faceModelSha256 = Native.faceModelSha256)
          && decide (candidate.runtimeDependencyVersion = some "1.0.1")) := rfl
    rw [hmatches]
    simp [hconfig, hsource, hlock, hpose, hface, hinstalled]

end Verify

/-! ## Candidates without a pass -/

section NoGo

variable {failure : NativeFailure} {args : ReceiptArgs} {receipt : NativeReceipt}

theorem acceptable_issued : (receipt.issued rt).Acceptable rt ↔ receipt.Acceptable rt := by
  constructor
  · rintro ⟨hsound, hchecks⟩
    exact ⟨⟨hsound.schema, hsound.consumed, hsound.outcome, hsound.gate, hsound.frame, hsound.audio, hsound.raw,
      hsound.binding, hsound.stages⟩, hchecks⟩
  · rintro ⟨hsound, hchecks⟩
    exact ⟨⟨hsound.schema, hsound.consumed, hsound.outcome, hsound.gate, hsound.frame, hsound.audio, hsound.raw,
      hsound.binding, hsound.stages⟩, hchecks⟩

structure Honest (failure : NativeFailure) (args : ReceiptArgs) : Prop where
  consumed : args.authorityConsumed = true
  raw : args.rawRetained = true → failure = .privacyStop ∨ failure = .cleanupIncomplete
  cleanup : failure = .cleanupIncomplete →
    (args.cleanupComplete && (args.mutexReleased && args.childTerminated && args.pipeClosed && args.readerStopped
      && args.mediaClosed && args.ffmpegLeaseClosed && args.captureJobDrained && args.captureWorkerLeaseClosed))
      = false
  unstopped : failure ≠ .privacyStop →
    args.privacyStopCount = 0 ∧ args.faceDetections = 0 ∧ args.poseDetections = 0 ∧ args.privacyTerminalFrames = 0
  stopped : failure = .privacyStop →
    args.warmupFrames + args.derivedAttempted = 0 ∧ args.warmupFrames + args.postSuccessfulFrames = 0
      ∧ args.privacyStopCount = 1

theorem noGoChecks_draft (h : Honest failure args) :
    ∀ check ∈ (draftReceipt rt .noGo (some failure) args).noGoChecks, check = .ok false := by
  have hcleanup := h.cleanup
  have hunstopped := h.unstopped
  have hstopped := h.stopped
  simp only [NativeReceipt.noGoChecks, List.forall_mem_cons, Except.ok.injEq]
  refine ⟨rfl, ?_, ?_, ?_⟩
  · by_cases hfailure : failure = .cleanupIncomplete
    · have hflags := hcleanup hfailure
      simp only [draftReceipt, NativeReceipt.cleanupFlags, Value.truthy, hfailure, decide_true, Bool.true_and]
      exact hflags
    · simp [draftReceipt, hfailure]
  · by_cases hfailure : failure = .privacyStop
    · simp [draftReceipt, hfailure]
    · obtain ⟨hcount, hfaces, hposes, hframes⟩ := hunstopped hfailure
      simp [draftReceipt, hcount, hfaces, hposes, hframes, Value.truthy]
  · by_cases hfailure : failure = .privacyStop
    · obtain ⟨hdelivered, hprocessed, hcount⟩ := hstopped hfailure
      simp [draftReceipt, hdelivered, hprocessed, hcount]
    · simp [draftReceipt, hfailure]

theorem noGo_acceptable (hrt : rt.Intact) (h : Honest failure args) :
    (draftReceipt rt .noGo (some failure) args).Acceptable rt := by
  refine ⟨draftReceipt_sound hrt h.consumed nofun ?_, noGoChecks_draft h⟩
  intro hretained
  rcases h.raw hretained with rfl | rfl
  · exact Or.inl rfl
  · exact Or.inr rfl

theorem honest_of_plain {failure : NativeFailure} {args : ReceiptArgs} (hconsumed : args.authorityConsumed = true)
    (hraw : args.rawRetained = false) (hcleanup : failure ≠ .cleanupIncomplete) (hstop : failure ≠ .privacyStop)
    (hcounts : args.privacyStopCount = 0 ∧ args.faceDetections = 0 ∧ args.poseDetections = 0
      ∧ args.privacyTerminalFrames = 0) : Honest failure args where
  consumed := hconsumed
  raw := by
    intro hretained
    rw [hraw] at hretained
    cases hretained
  cleanup h := absurd h hcleanup
  unstopped _ := hcounts
  stopped h := absurd h hstop

end NoGo

end PduExamObserver.Native
