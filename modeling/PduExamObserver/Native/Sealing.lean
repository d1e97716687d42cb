import PduExamObserver.Native.Verification

/-! # Sealed receipts

A receipt is verified after its nonce and its two digests are filled in. The rules that remain after the
sealing do not mention them. -/

namespace PduExamObserver.Native
open Authority
set_option autoImplicit false

variable {rt : Runtime} {receipt : NativeReceipt} {nonce stateDigest : String}

theorem verifyReceiptSemantics_iff :
    verifyReceiptSemantics rt receipt = .ok true
      ↔ ∀ check ∈ receipt.commonChecks rt ++ receipt.outcomeChecks rt, check = .ok false := by
  rw [← anyOf_eq_ok_false, verifyReceiptSemantics]
  cases anyOf (receipt.commonChecks rt ++ receipt.outcomeChecks rt) with
  | error raised => simp [Except.map]
  | ok b => cases b <;> simp [Except.map]

structure NativeReceipt.Sound (rt : Runtime) (receipt : NativeReceipt) : Prop where
  schema : receipt.schemaVersion = 2
  consumed : receipt.authorityConsumed = true
  outcome : receipt.outcome ≠ .prepared
  gate : receipt.d1Go = false
  frame : receipt.frameBytes = Native.frameBytes
  audio : receipt.audioRequested = false
  raw : receipt.rawRetained = true →
    receipt.failureCode = some .privacyStop ∨ receipt.failureCode = some .cleanupIncomplete
  binding : receipt.bindingRejected rt = false
  stages : receipt.stages = List.replicate 4 .notAttempted

structure SealDigests (nonce stateDigest : String) : Prop where
  nonce : isHexDigest nonce = true
  state : isHexDigest stateDigest = true

theorem candidate_digests : SealDigests candidateNonce candidateStateDigest where
  nonce := (isHexDigest_replicate '0').trans (by decide)
  state := (isHexDigest_replicate '1').trans (by decide)

theorem sealRejected_sealedWith (hdigests : SealDigests nonce stateDigest) :
    (receipt.sealedWith rt nonce stateDigest).sealRejected rt = false
      ↔ receipt.authorityConsumed = true ∧ receipt.outcome ≠ .prepared := by
  have hcore : (receipt.sealedWith rt nonce stateDigest).terminalReceiptDigest
      = some ((receipt.sealedWith rt nonce stateDigest).recomputeCoreDigest rt) := rfl
  have hconsumed : (receipt.sealedWith rt nonce stateDigest).authorityConsumed = receipt.authorityConsumed := rfl
  have houtcome : (receipt.sealedWith rt nonce stateDigest).outcome = receipt.outcome := rfl
  have hnonce : (receipt.sealedWith rt nonce stateDigest).runNonce = some nonce := rfl
  have hstate : (receipt.sealedWith rt nonce stateDigest).terminalStateDigest = some stateDigest := rfl
  rw [NativeReceipt.sealRejected, hcore, hconsumed, houtcome, hnonce, hstate]
  have hhex : isHexDigest ((receipt.sealedWith rt nonce stateDigest).recomputeCoreDigest rt) = true := rt.digest_isHex _
  cases receipt.authorityConsumed <;> simp [isDigest?, hdigests.nonce, hdigests.state, hhex]

theorem commonChecks_sealedWith (hdigests : SealDigests nonce stateDigest) :
    (∀ check ∈ (receipt.sealedWith rt nonce stateDigest).commonChecks rt, check = .ok false) ↔ receipt.Sound rt := by
  have hseal : (receipt.sealedWith rt nonce stateDigest).sealRejected rt = false ↔ _ := sealRejected_sealedWith hdigests
  have hresult : (receipt.sealedWith rt nonce stateDigest).resultDigest
      = (receipt.sealedWith rt nonce stateDigest).recomputeDigest rt := rfl
  have hcommon : (∀ check ∈ (receipt.sealedWith rt nonce stateDigest).commonChecks rt, check = .ok false)
      ↔ decide (receipt.schemaVersion ≠ 2) = false
        ∧ (receipt.authorityConsumed = true ∧ receipt.outcome ≠ .prepared)
        ∧ (decide (receipt.deviceGateDecision ≠ .unverified) || receipt.d1Go) = false
        ∧ (decide (receipt.frameBytes ≠ Native.frameBytes) || receipt.audioRequested) = false
        ∧ (receipt.rawRetained && decide (receipt.failureCode ≠ some .privacyStop)
            && decide (receipt.failureCode ≠ some .cleanupIncomplete)) = false
        ∧ receipt.bindingRejected rt = false
        ∧ decide (receipt.stages ≠ List.replicate 4 .notAttempted) = false := by
    rw [← hseal]
    simp only [NativeReceipt.commonChecks, List.forall_mem_cons, List.not_mem_nil, false_implies, implies_true,
      and_true, Except.ok.injEq, hresult, ne_eq, not_true_eq_false, decide_false, true_and]
    rfl
  rw [hcommon]
  constructor
  · rintro ⟨hschema, ⟨hconsumed, houtcome⟩, hgate, hframe, hraw, hbinding, hstages⟩
    simp only [Bool.or_eq_false_iff] at hgate hframe
    refine ⟨by simpa using hschema, hconsumed, houtcome, hgate.2, by simpa using hframe.1, hframe.2, ?_, hbinding,
      by simpa using hstages⟩
    intro hretained
    rw [hretained] at hraw
    by_contra hother
    rw [not_or] at hother
    simp [hother.1, hother.2] at hraw
  · intro h
    refine ⟨by simp [h.schema], ⟨h.consumed, h.outcome⟩, ?_, by simp [h.frame, h.audio], ?_, h.binding, by simp [h.stages]⟩
    · cases receipt.deviceGateDecision
      simp [h.gate]
    · cases hretained : receipt.rawRetained with
      | false => rfl
      | true => rcases h.raw hretained with hstop | hcleanup <;> simp [*]

theorem verify_sealedWith (hdigests : SealDigests nonce stateDigest) :
    verifyReceiptSemantics rt (receipt.sealedWith rt nonce stateDigest) = .ok true
      ↔ receipt.Sound rt ∧ ∀ check ∈ receipt.outcomeChecks rt, check = .ok false := by
  rw [verifyReceiptSemantics_iff, List.forall_mem_append, commonChecks_sealedWith hdigests]
  rfl

theorem issued_sealedWith : (receipt.issued rt).sealedWith rt nonce stateDigest = receipt.sealedWith rt nonce stateDigest :=
  rfl

end PduExamObserver.Native
