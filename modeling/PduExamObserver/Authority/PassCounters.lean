import PduExamObserver.Authority.Evidence

/-! # The counters of a passing receipt

Whether the equations and bounds that `_receipt` checks of a passing receipt make its counters possible for
one run. The verifier of the sibling receipt also counts the warm-up frames, and refuses frames that ended in
a privacy stop; this one does neither. -/

namespace PduExamObserver.Authority
open Canonical
set_option autoImplicit false

namespace Decoded

/-- The counters are jointly possible for one run: whatever counts as a success was processed and checked,
whatever was attempted was received, no frame ended in a privacy stop, and frames were received, at the accepted
rate. -/
structure OneRun (decoded : Decoded) : Prop where
  processed : decoded.int "post_successful_frames" ≤ decoded.int "processed_frames"
  checked : decoded.int "processed_frames" = decoded.int "privacy_checked_frames"
  received : decoded.int "post_attempted_frames" ≤ decoded.int "received_frames"
  terminal : decoded.int "privacy_terminal_frames" = 0
  successChecked : decoded.int "post_successful_frames" ≤ decoded.int "privacy_checked_frames"
  frames : 0 < decoded.int "received_frames"
  rate : 27 * decoded.int "post_elapsed_ns" ≤ 2 * decoded.int "received_frames" * 1000000000

/-- The processed frames are the successful ones and some warm-up frames, as the sibling receipt demands, and no
frame ended in a privacy stop. -/
def Warmed (decoded : Decoded) : Prop :=
  decoded.int "privacy_terminal_frames" = 0 ∧
    ∃ warmupFrames : Nat, decoded.int "processed_frames" = warmupFrames + decoded.int "post_successful_frames"

end Decoded

variable {hash : Sha256} {receiptBytes failureLedgerBytes : JsonText} {retainedCleanup : RetainedLeaseCleanup}
  {evidence : VerifiedTerminalEvidence} {redacted : RedactedReceipt} {decoded : Decoded}

theorem buildVerifiedTerminalEvidence_receipt
    (h : buildVerifiedTerminalEvidence hash receiptBytes failureLedgerBytes retainedCleanup = some evidence) :
    ∃ redacted, receipt receiptBytes = some redacted := by
  unfold buildVerifiedTerminalEvidence at h
  split at h
  · split at h
    · cases h
    · exact ⟨_, ‹_›⟩
  · cases h

theorem receipt_pass (h : receipt (.object decoded) = some redacted)
    (houtcome : decoded.lookup "outcome" = some (.str "D1_N2_PREFLIGHT_PASS")) :
    receiptShape decoded = true ∧ receiptAccounting decoded = true ∧ receiptPasses decoded = true := by
  simp only [receipt, houtcome] at h
  split at h
  · next hchecks =>
    simp only [Bool.and_eq_true] at hchecks
    split at h
    · exact ⟨hchecks.1.1.2, hchecks.1.2, ‹_›⟩
    · cases h
  · cases h

theorem receiptShape_count {name : String} (h : receiptShape decoded = true) (hname : name ∈ countFields ++ timingFields) :
    0 ≤ decoded.int name := by
  have hcounts : (countFields ++ timingFields).all (fun name => decoded.isCount name) = true := by
    simp only [receiptShape, Bool.and_eq_true] at h
    exact h.1.1.1.2
  have hcount : decoded.isCount name = true := List.all_eq_true.mp hcounts name hname
  unfold Decoded.isCount at hcount
  unfold Decoded.int
  split at hcount
  · simpa using hcount
  · cases hcount

/-- The counters of a passing receipt are possible for one run exactly if its processed frames are the successful
ones and some warm-up frames, and none ended in a privacy stop. -/
theorem passReceipt_oneRun (hbuilt : buildVerifiedTerminalEvidence hash (.object decoded) failureLedgerBytes
      retainedCleanup = some evidence)
    (houtcome : decoded.lookup "outcome" = some (.str "D1_N2_PREFLIGHT_PASS")) :
    decoded.OneRun ↔ decoded.Warmed := by
  obtain ⟨redacted, hreceipt⟩ := buildVerifiedTerminalEvidence_receipt hbuilt
  obtain ⟨hshape, haccounting, hpasses⟩ := receipt_pass hreceipt houtcome
  simp only [receiptAccounting, Bool.and_eq_true, decide_eq_true_eq] at haccounting
  obtain ⟨⟨⟨⟨⟨⟨-, hdelivered⟩, hsum⟩, hdropped⟩, hfailed⟩, hattempted⟩, hchecked⟩ := haccounting
  simp only [receiptPasses, Bool.and_eq_true, decide_eq_true_eq] at hpasses
  have hpositive : 0 < decoded.int "post_elapsed_ns" := by tauto
  have hrate : 27 * decoded.int "post_elapsed_ns" ≤ 2 * decoded.int "post_successful_frames" * 1000000000 := by
    tauto
  have hsuccessful : 0 ≤ decoded.int "post_successful_frames" := receiptShape_count hshape (by decide)
  have hshort : 0 ≤ decoded.int "dropped_short_frames" := receiptShape_count hshape (by decide)
  have hinference : 0 ≤ decoded.int "inference_failure_frames" := receiptShape_count hshape (by decide)
  have hdelivery : 0 ≤ decoded.int "delivery_failure_frames" := receiptShape_count hshape (by decide)
  constructor
  · intro hrun
    refine ⟨hrun.terminal, (decoded.int "processed_frames" - decoded.int "post_successful_frames").toNat, ?_⟩
    have := hrun.processed
    omega
  · rintro ⟨hterminal, warmupFrames, hwarm⟩
    -- the frames that were attempted and not processed are those that were received and not processed
    have hsplit : decoded.int "received_frames" = warmupFrames + decoded.int "post_attempted_frames" := by omega
    constructor <;> omega

/-! ## A minute without a processed frame -/

/-- A minute at 15 frames a second: `processed` frames were processed, and `successful` count as a success. -/
def minuteReceipt (processed successful : Int) : Decoded :=
  [("audio_requested", .bool false), ("authority_digest", .str capturePolicyDigest), ("backlog_ns", .int 0),
    ("buffers_cleared", .bool true), ("capture_closed", .bool true),
    ("capture_policy_digest", .str capturePolicyDigest), ("capture_starting", .bool true),
    ("challenge_digest", .str capturePolicyDigest), ("d1_go", .bool false),
    ("delivered_frames", .int processed), ("delivery_failure_frames", .int 0),
    ("device_gate_decision", .str "UNVERIFIED"), ("dropped_explicit_frames", .int 0),
    ("dropped_short_frames", .int 0), ("duration_seconds", .int 60), ("face_detections", .int 0),
    ("face_model_sha256", .str capturePolicyDigest), ("failed_frames", .int 0), ("failure_code", .null),
    ("ffmpeg_lease_closed", .bool true), ("first_frame", .bool true),
    ("grant_record_digest", .str capturePolicyDigest), ("inference_failure_frames", .int 0),
    ("job_drained", .bool true), ("job_name_digest", .str capturePolicyDigest), ("max_stall_gap_ns", .int 0),
    ("measured_post_warmup_ns", .int 55000000000), ("measured_total_ns", .int 60000000000),
    ("media_closed", .bool true), ("mutex_released", .bool true), ("network_authorized", .bool false),
    ("network_transport_constructed", .bool false), ("outbound_attempt_count", .int 0),
    ("outcome", .str "D1_N2_PREFLIGHT_PASS"), ("p95_ingress_gap_us", .int 0),
    ("p95_pose_latency_us", .int 0), ("p99_pose_latency_us", .int 0), ("pipe_closed", .bool true),
    ("pose_detections", .int 0), ("pose_model_sha256", .str capturePolicyDigest),
    ("post_attempted_frames", .int successful), ("post_elapsed_ns", .int 55000000000),
    ("post_successful_frames", .int successful), ("privacy_checked_frames", .int processed),
    ("privacy_ready", .bool true), ("privacy_stop_count", .int 0), ("privacy_terminal_frames", .int 0),
    ("processed_frames", .int processed), ("raw_retained", .bool false), ("receipt_received", .bool true),
    ("received_frames", .int processed), ("retry", .bool false),
    ("runtime_digest", .str capturePolicyDigest), ("schema_version", .int 1),
    ("static_bindings_digest", .str capturePolicyDigest), ("video_only", .bool true),
    ("watchdog_authorized", .bool true), ("watchdog_policy_digest", .str watchdogPolicyDigest),
    ("worker_lease_closed", .bool true), ("worker_supervised", .bool true)]

def cleanLease : RetainedLeaseCleanup := ⟨true, true, true⟩

theorem buildVerifiedTerminalEvidence_pass (hash : Sha256) (h : receipt receiptBytes = some redacted)
    (houtcome : redacted.outcome = "D1_N2_PREFLIGHT_PASS") (hcode : redacted.failureCode = none) :
    ∃ evidence, buildVerifiedTerminalEvidence hash receiptBytes (.array []) cleanLease = some evidence := by
  have hledger : ledger (.array []) none "D1_N2_PREFLIGHT_PASS" = true := by decide
  simp only [buildVerifiedTerminalEvidence, h, houtcome, hcode, hledger, if_true]
  exact ⟨_, rfl⟩

theorem minuteReceipt_accepted (hash : Sha256) (processed successful : Int)
    (h : (receipt (.object (minuteReceipt processed successful))).map (fun r => (r.outcome, r.failureCode)) =
      some ("D1_N2_PREFLIGHT_PASS", none)) :
    ∃ evidence, buildVerifiedTerminalEvidence hash (.object (minuteReceipt processed successful)) (.array [])
      cleanLease = some evidence := by
  obtain ⟨redacted, hreceipt, hfields⟩ := Option.map_eq_some_iff.mp h
  exact buildVerifiedTerminalEvidence_pass hash hreceipt (congrArg Prod.fst hfields) (congrArg Prod.snd hfields)

/-- No frame of the minute was processed, and 825 frames count as a success. -/
theorem passReceipt_unprocessed : ∃ (hash : Sha256) (evidence : VerifiedTerminalEvidence),
    buildVerifiedTerminalEvidence hash (.object (minuteReceipt 0 825)) (.array []) cleanLease = some evidence ∧
      (minuteReceipt 0 825).lookup "outcome" = some (.str "D1_N2_PREFLIGHT_PASS") ∧
      ¬ (minuteReceipt 0 825).OneRun := by
  let hash : Sha256 := ⟨fun _ => capturePolicyDigest, fun _ => by decide⟩
  obtain ⟨evidence, hbuilt⟩ := minuteReceipt_accepted hash 0 825 (by decide +kernel)
  exact ⟨hash, evidence, hbuilt, by decide +kernel, fun hrun => absurd hrun.processed (by decide +kernel)⟩

/-- A minute with 900 processed frames, 825 of them after the warm-up. -/
theorem passReceipt_minute : ∃ (hash : Sha256) (evidence : VerifiedTerminalEvidence),
    buildVerifiedTerminalEvidence hash (.object (minuteReceipt 900 825)) (.array []) cleanLease = some evidence ∧
      (minuteReceipt 900 825).OneRun := by
  let hash : Sha256 := ⟨fun _ => capturePolicyDigest, fun _ => by decide⟩
  obtain ⟨evidence, hbuilt⟩ := minuteReceipt_accepted hash 900 825 (by decide +kernel)
  exact ⟨hash, evidence, hbuilt, (passReceipt_oneRun hbuilt (by decide +kernel)).mpr
    ⟨by decide +kernel, 75, by decide +kernel⟩⟩

end PduExamObserver.Authority
