import PduExamObserver.Authority.Values

/-! # Terminal evidence

The closed verifier of receipts and failure ledgers in `m2_d1_n2_evidence.py`. A text that is not the
canonical JSON of an object or of an array of objects is never evidence. -/

namespace PduExamObserver.Authority
open Canonical
set_option autoImplicit false

def capturePolicyDigest : String := "553f25eb67f50d8fcb0285498a065ff77b5c0cedd7dcc8019ab3ac20a6b8042b"

def watchdogPolicyDigest : String := "b54e97e25f5428af7bc39cfc02fc7377bdd633f9b3834140cc13a22b844c2f78"

inductive FailureStage where
  | authorization
  | workerImage
  | job
  | watchdog
  | capture
  | privacy
  | accounting
  | cleanup
  deriving DecidableEq, Repr

def FailureStage.value : FailureStage → String
  | .authorization => "AUTHORIZATION"
  | .workerImage => "WORKER_IMAGE"
  | .job => "JOB"
  | .watchdog => "WATCHDOG"
  | .capture => "CAPTURE"
  | .privacy => "PRIVACY"
  | .accounting => "ACCOUNTING"
  | .cleanup => "CLEANUP"

def failureCodes : List (String × FailureStage) :=
  [("AUTHORIZATION_FAILED", .authorization), ("WORKER_IMAGE_MISMATCH", .workerImage),
    ("JOB_BINDING_FAILED", .job), ("FRAME_STALLED", .watchdog), ("WATCHDOG_FAILED", .watchdog),
    ("CAPTURE_RUNTIME_FAILED", .capture), ("INFERENCE_FAILED", .capture), ("DELIVERY_FAILED", .capture),
    ("PRIVACY_STOP", .privacy), ("ACCOUNTING_INVALID", .accounting), ("QUALITY_INSUFFICIENT", .accounting),
    ("CLEANUP_INCOMPLETE", .cleanup)]

abbrev Decoded := List (String × Scalar)

structure RedactedReceipt where
  canonicalBytes : JsonText
  outcome : String
  failureCode : Option String

structure RetainedLeaseCleanup where
  a0Clean : Bool
  rp2Clean : Bool
  preparationClean : Bool
  deriving DecidableEq

def RetainedLeaseCleanup.valid (cleanup : RetainedLeaseCleanup) : Bool :=
  cleanup.a0Clean && cleanup.rp2Clean && cleanup.preparationClean

/-- `receiptJson` and `failureLedgerJson` are strings. -/
structure VerifiedTerminalEvidence where
  receiptJson : Value
  receiptDigest : String
  failureLedgerJson : Value
  failureLedgerDigest : String
  retainedCleanup : RetainedLeaseCleanup
  deriving DecidableEq

/-! ## The keys of a receipt -/

def countFields : List String :=
  ["received_frames", "delivered_frames", "processed_frames", "dropped_explicit_frames",
    "dropped_short_frames", "failed_frames", "inference_failure_frames", "privacy_terminal_frames",
    "delivery_failure_frames", "post_attempted_frames", "post_successful_frames", "privacy_checked_frames",
    "privacy_stop_count", "face_detections", "pose_detections", "outbound_attempt_count"]

def timingFields : List String :=
  ["measured_total_ns", "measured_post_warmup_ns", "post_elapsed_ns", "p95_ingress_gap_us",
    "p95_pose_latency_us", "p99_pose_latency_us", "backlog_ns", "max_stall_gap_ns"]

def boolFields : List String :=
  ["video_only", "retry", "audio_requested", "network_authorized", "network_transport_constructed",
    "raw_retained", "d1_go", "watchdog_authorized", "privacy_ready", "capture_starting", "first_frame",
    "capture_closed", "receipt_received", "worker_supervised", "job_drained", "worker_lease_closed",
    "pipe_closed", "media_closed", "ffmpeg_lease_closed", "mutex_released", "buffers_cleared"]

def digestFields : List String :=
  ["authority_digest", "grant_record_digest", "challenge_digest", "job_name_digest",
    "static_bindings_digest", "capture_policy_digest", "watchdog_policy_digest", "runtime_digest",
    "pose_model_sha256", "face_model_sha256"]

def receiptKeys : List String :=
  countFields ++ timingFields ++ boolFields ++ digestFields ++
    ["device_gate_decision", "duration_seconds", "failure_code", "outcome", "schema_version"]

def sameKeys (keys keys' : List String) : Bool :=
  keys.all (fun key => keys'.contains key) && keys'.all (fun key => keys.contains key)

theorem sameKeys_perm {keys keys' : List String} (h : keys.Perm keys') (other : List String) :
    sameKeys keys other = sameKeys keys' other := by
  rw [Bool.eq_iff_iff]
  simp only [sameKeys, Bool.and_eq_true, List.all_eq_true, List.contains_iff_mem, h.mem_iff]

namespace Decoded

/-- `int(decoded[name])`, once the field is known to be an integer. -/
def int (decoded : Decoded) (name : String) : Int :=
  match decoded.lookup name with
  | some (.int n) => n
  | _ => 0

def isTrue (decoded : Decoded) (name : String) : Bool := decoded.lookup name = some (.bool true)

def isFalse (decoded : Decoded) (name : String) : Bool := decoded.lookup name = some (.bool false)

/-- `type(decoded.get(name)) is int and int(decoded[name]) >= 0`. -/
def isCount (decoded : Decoded) (name : String) : Bool :=
  match decoded.lookup name with
  | some (.int n) => 0 ≤ n
  | _ => false

end Decoded

/-! ## Receipts -/

/-- The first group of checks of `_receipt`: types and fixed values. -/
def receiptShape (decoded : Decoded) : Bool :=
  sameKeys (decoded.map Prod.fst) receiptKeys &&
  decoded.lookup "schema_version" = some (.int 1) &&
  decoded.lookup "duration_seconds" = some (.int 60) &&
  decoded.isTrue "video_only" &&
  decoded.isFalse "retry" &&
  decoded.isFalse "audio_requested" &&
  decoded.isFalse "network_authorized" &&
  decoded.isFalse "network_transport_constructed" &&
  decoded.isFalse "raw_retained" &&
  decoded.lookup "device_gate_decision" = some (.str "UNVERIFIED") &&
  decoded.isFalse "d1_go" &&
  boolFields.all (fun name => ((decoded.lookup name).map Scalar.isBool).getD false) &&
  (countFields ++ timingFields).all (fun name => decoded.isCount name) &&
  digestFields.all (fun name => ((decoded.lookup name).map Scalar.isDigest).getD false) &&
  decoded.lookup "capture_policy_digest" = some (.str capturePolicyDigest) &&
  decoded.lookup "watchdog_policy_digest" = some (.str watchdogPolicyDigest)

def receiptAccounting (decoded : Decoded) : Bool :=
  decoded.int "outbound_attempt_count" = 0 &&
  decoded.int "received_frames" = decoded.int "delivered_frames" &&
  decoded.int "delivered_frames" =
    decoded.int "processed_frames" + decoded.int "dropped_explicit_frames" + decoded.int "failed_frames" &&
  decoded.int "dropped_explicit_frames" = decoded.int "dropped_short_frames" &&
  decoded.int "failed_frames" =
    decoded.int "inference_failure_frames" + decoded.int "privacy_terminal_frames" +
      decoded.int "delivery_failure_frames" &&
  decoded.int "post_attempted_frames" =
    decoded.int "post_successful_frames" + decoded.int "dropped_short_frames" +
      decoded.int "inference_failure_frames" + decoded.int "privacy_terminal_frames" +
      decoded.int "delivery_failure_frames" &&
  decoded.int "privacy_checked_frames" = decoded.int "processed_frames"

def cleanupFields : List String :=
  ["worker_supervised", "job_drained", "worker_lease_closed", "pipe_closed", "media_closed",
    "ffmpeg_lease_closed", "mutex_released", "buffers_cleared"]

def receiptPasses (decoded : Decoded) : Bool :=
  decoded.lookup "failure_code" = some .null &&
  60000000000 ≤ decoded.int "measured_total_ns" &&
  55000000000 ≤ decoded.int "measured_post_warmup_ns" &&
  0 < decoded.int "post_elapsed_ns" &&
  27 * decoded.int "post_elapsed_ns" ≤ 2 * decoded.int "post_successful_frames" * 1000000000 &&
  decoded.int "p95_ingress_gap_us" ≤ 200000 &&
  decoded.int "p95_pose_latency_us" ≤ 200000 &&
  decoded.int "p99_pose_latency_us" ≤ 500000 &&
  decoded.int "backlog_ns" ≤ 2000000000 &&
  decoded.int "max_stall_gap_ns" < 1000000000 &&
  0 < decoded.int "post_attempted_frames" &&
  100 * (decoded.int "dropped_short_frames" + decoded.int "inference_failure_frames") ≤
    decoded.int "post_attempted_frames" &&
  99 * decoded.int "post_attempted_frames" ≤ 100 * decoded.int "post_successful_frames" &&
  decoded.int "delivery_failure_frames" = 0 &&
  decoded.int "privacy_stop_count" = 0 &&
  decoded.int "face_detections" = 0 &&
  decoded.int "pose_detections" = 0 &&
  ["watchdog_authorized", "privacy_ready", "capture_starting", "first_frame", "capture_closed",
    "receipt_received"].all (fun name => decoded.isTrue name)

def receipt : JsonText → Option RedactedReceipt
  | .array _ => none
  | .object decoded =>
    if (JsonText.object decoded).isCanonical && receiptShape decoded && receiptAccounting decoded &&
        cleanupFields.all (fun name => Decoded.isTrue decoded name) then
      match decoded.lookup "outcome", decoded.lookup "failure_code" with
      | some (.str "D1_N2_PREFLIGHT_PASS"), _ =>
        if receiptPasses decoded then some ⟨.object decoded, "D1_N2_PREFLIGHT_PASS", none⟩ else none
      | some (.str "NO_GO"), some (.str failureCode) => some ⟨.object decoded, "NO_GO", some failureCode⟩
      | _, _ => none
    else none

/-! ## Ledgers -/

/-- The loop of `_ledger`, from entry `index` on. -/
def ledgerEntries (index : Nat) (seen : List (String × String)) : List Decoded → Bool
  | [] => true
  | raw :: rest =>
    match raw.lookup "stage", raw.lookup "code", raw.lookup "count", raw.lookup "precedence" with
    | some (.str stage), some (.str code), some (.int count), some (.int precedence) =>
      sameKeys (raw.map Prod.fst) ["stage", "code", "count", "precedence"] && 0 < count &&
        precedence = index && (failureCodes.lookup code).map FailureStage.value = some stage &&
        !seen.contains (stage, code) && ledgerEntries (index + 1) ((stage, code) :: seen) rest
    | _, _, _, _ => false

def ledger (payload : JsonText) (failureCode : Option String) (outcome : String) : Bool :=
  match payload with
  | .object _ => false
  | .array decoded =>
    (JsonText.array decoded).isCanonical && decoded.length ≤ 8 &&
      if outcome = "D1_N2_PREFLIGHT_PASS" then failureCode.isNone && decoded.isEmpty
      else
        match failureCode, decoded with
        | some failureCode, first :: rest =>
          outcome = "NO_GO" && ledgerEntries 0 [] (first :: rest) &&
            first.lookup "code" = some (.str failureCode)
        | _, _ => false

/-! ## Evidence -/

variable (hash : Sha256)

def buildVerifiedTerminalEvidence (receiptBytes failureLedgerBytes : JsonText)
    (retainedCleanup : RetainedLeaseCleanup) : Option VerifiedTerminalEvidence :=
  if retainedCleanup.valid then
    match receipt receiptBytes with
    | none => none
    | some redacted =>
      if ledger failureLedgerBytes redacted.failureCode redacted.outcome then
        some {
          receiptJson := .json receiptBytes
          receiptDigest := hash.hexdigest (.text receiptBytes)
          failureLedgerJson := .json failureLedgerBytes
          failureLedgerDigest := hash.hexdigest (.text failureLedgerBytes)
          retainedCleanup }
      else none
  else none

variable {retainedCleanup : RetainedLeaseCleanup} {name : String} {value : Scalar}

variable {hash} in
theorem buildVerifiedTerminalEvidence_digests {receiptBytes failureLedgerBytes : JsonText}
    {evidence : VerifiedTerminalEvidence}
    (h : buildVerifiedTerminalEvidence hash receiptBytes failureLedgerBytes retainedCleanup = some evidence) :
    evidence.receiptDigest = hash.hexdigest (.text receiptBytes) ∧
      evidence.failureLedgerDigest = hash.hexdigest (.text failureLedgerBytes) := by
  unfold buildVerifiedTerminalEvidence at h
  split at h
  · split at h
    · cases h
    · split at h
      · cases h
        exact ⟨rfl, rfl⟩
      · cases h
  · cases h

def verifyTerminalEvidence (evidence : VerifiedTerminalEvidence) : Bool :=
  match evidence.receiptJson, evidence.failureLedgerJson with
  | .json receiptBytes, .json failureLedgerBytes =>
    buildVerifiedTerminalEvidence hash receiptBytes failureLedgerBytes evidence.retainedCleanup = some evidence
  | _, _ => false

structure ReceiptBindings where
  authorityDigest : String
  grantRecordDigest : String
  challengeDigest : String
  jobNameDigest : String
  staticBindingsDigest : String
  capturePolicyDigest : String
  watchdogPolicyDigest : String
  runtimeDigest : String
  poseModelSha256 : String
  faceModelSha256 : String

def ReceiptBindings.fields (bindings : ReceiptBindings) : Decoded :=
  [("authority_digest", .str bindings.authorityDigest),
    ("grant_record_digest", .str bindings.grantRecordDigest),
    ("challenge_digest", .str bindings.challengeDigest),
    ("job_name_digest", .str bindings.jobNameDigest),
    ("static_bindings_digest", .str bindings.staticBindingsDigest),
    ("capture_policy_digest", .str bindings.capturePolicyDigest),
    ("watchdog_policy_digest", .str bindings.watchdogPolicyDigest),
    ("runtime_digest", .str bindings.runtimeDigest),
    ("pose_model_sha256", .str bindings.poseModelSha256),
    ("face_model_sha256", .str bindings.faceModelSha256)]

/-- The receipt of a run that never started: counts and timings are zero, and every flag is false that is
not a cleanup flag or `video_only`. -/
def sanitizedReceipt (failureCode : String) (bindings : ReceiptBindings) : Decoded :=
  (countFields ++ timingFields).map (fun name => (name, Scalar.int 0)) ++
  boolFields.map (fun name => (name, Scalar.bool ((cleanupFields ++ ["video_only"]).contains name))) ++
  bindings.fields ++
  [("device_gate_decision", .str "UNVERIFIED"), ("duration_seconds", .int 60),
    ("failure_code", .str failureCode), ("outcome", .str "NO_GO"), ("schema_version", .int 1)]

def buildSanitizedNoGoEvidence (failureCode : String) (bindings : ReceiptBindings)
    (retainedCleanup : RetainedLeaseCleanup) : Option VerifiedTerminalEvidence :=
  match failureCodes.lookup failureCode with
  | none => none
  | some stage =>
    if bindings.fields.all (fun field => field.2.isDigest) then
      buildVerifiedTerminalEvidence hash (.object (sortKeys (sanitizedReceipt failureCode bindings)))
        (.array [sortKeys [("code", .str failureCode), ("count", .int 1), ("precedence", .int 0),
          ("stage", .str stage.value)]])
        retainedCleanup
    else none

/-! ## Sanitized evidence verifies -/

theorem sanitizedReceipt_keys (failureCode : String) (bindings : ReceiptBindings) :
    (sanitizedReceipt failureCode bindings).map Prod.fst = receiptKeys := rfl

theorem receiptKeys_nodup : receiptKeys.Nodup := by decide +kernel

variable {failureCode : String} {bindings : ReceiptBindings}

theorem sanitizedReceipt_lookup :
    (sortKeys (sanitizedReceipt failureCode bindings)).lookup name = some value ↔
      (name, value) ∈ sanitizedReceipt failureCode bindings := by
  have hnodup : ((sanitizedReceipt failureCode bindings).map Prod.fst).Nodup := by
    rw [sanitizedReceipt_keys]
    exact receiptKeys_nodup
  rw [lookup_sortKeys hnodup, lookup_eq_some hnodup]

theorem sanitizedReceipt_count (h : name ∈ countFields ++ timingFields) :
    (sortKeys (sanitizedReceipt failureCode bindings)).lookup name = some (.int 0) := by
  rw [sanitizedReceipt_lookup]
  simp only [sanitizedReceipt, List.mem_append, List.mem_map] at h ⊢
  exact .inl (.inl (.inl ⟨name, h, rfl⟩))

theorem sanitizedReceipt_bool (h : name ∈ boolFields) :
    (sortKeys (sanitizedReceipt failureCode bindings)).lookup name =
      some (.bool ((cleanupFields ++ ["video_only"]).contains name)) := by
  rw [sanitizedReceipt_lookup]
  simp only [sanitizedReceipt, List.mem_append, List.mem_map] at h ⊢
  exact .inl (.inl (.inr ⟨name, h, rfl⟩))

theorem sanitizedReceipt_int (h : name ∈ countFields ++ timingFields) :
    Decoded.int (sortKeys (sanitizedReceipt failureCode bindings)) name = 0 := by
  rw [Decoded.int, sanitizedReceipt_count h]

theorem sanitizedReceipt_binding (h : (name, value) ∈ bindings.fields) :
    (sortKeys (sanitizedReceipt failureCode bindings)).lookup name = some value := by
  rw [sanitizedReceipt_lookup]
  simp only [sanitizedReceipt, List.mem_append]
  exact .inl (.inr h)

theorem sanitizedReceipt_fixed     (h : (name, value) ∈ [("device_gate_decision", Scalar.str "UNVERIFIED"), ("duration_seconds", .int 60),
      ("failure_code", .str failureCode), ("outcome", .str "NO_GO"), ("schema_version", .int 1)]) :
    (sortKeys (sanitizedReceipt failureCode bindings)).lookup name = some value := by
  rw [sanitizedReceipt_lookup]
  exact List.mem_append_right _ h

theorem sanitizedReceipt_shape (hdigests : bindings.fields.all (fun field => field.2.isDigest) = true)
    (hcapture : bindings.capturePolicyDigest = capturePolicyDigest)
    (hwatchdog : bindings.watchdogPolicyDigest = watchdogPolicyDigest) :
    receiptShape (sortKeys (sanitizedReceipt failureCode bindings)) = true := by
  have hkeys : sameKeys ((sortKeys (sanitizedReceipt failureCode bindings)).map Prod.fst) receiptKeys = true := by
    rw [sameKeys_perm ((sortKeys_perm _).map Prod.fst), sanitizedReceipt_keys]
    simp [sameKeys]
  have hbools : boolFields.all (fun name => ((List.lookup name (sortKeys
      (sanitizedReceipt failureCode bindings))).map Scalar.isBool).getD false) = true := by
    rw [List.all_eq_true]
    intro name hname
    rw [sanitizedReceipt_bool hname]
    rfl
  have hcounts : (countFields ++ timingFields).all (fun name => Decoded.isCount (sortKeys
      (sanitizedReceipt failureCode bindings)) name) = true := by
    rw [List.all_eq_true]
    intro name hname
    rw [Decoded.isCount, sanitizedReceipt_count hname]
    rfl
  have hnames : digestFields.all (fun name => ((List.lookup name (sortKeys
      (sanitizedReceipt failureCode bindings))).map Scalar.isDigest).getD false) = true := by
    have hfields : digestFields = bindings.fields.map Prod.fst := rfl
    rw [hfields, List.all_map, List.all_eq_true]
    intro field hfield
    rw [List.all_eq_true] at hdigests
    simp only [Function.comp_apply]
    rw [sanitizedReceipt_binding hfield]
    exact hdigests field hfield
  have hflags : ∀ name ∈ boolFields, Decoded.isTrue (sortKeys (sanitizedReceipt failureCode bindings)) name =
      (cleanupFields ++ ["video_only"]).contains name ∧
      Decoded.isFalse (sortKeys (sanitizedReceipt failureCode bindings)) name =
        !(cleanupFields ++ ["video_only"]).contains name := by
    intro name hname
    rw [Decoded.isTrue, Decoded.isFalse, sanitizedReceipt_bool hname]
    cases (cleanupFields ++ ["video_only"]).contains name <;> decide
  simp only [receiptShape, hkeys, hbools, hcounts, hnames, Bool.and_eq_true, decide_eq_true_eq, and_true, true_and]
  refine ⟨⟨⟨⟨⟨⟨⟨⟨⟨⟨⟨?_, ?_⟩, ?_⟩, ?_⟩, ?_⟩, ?_⟩, ?_⟩, ?_⟩, ?_⟩, ?_⟩, ?_⟩, ?_⟩
  · exact sanitizedReceipt_fixed (by simp)
  · exact sanitizedReceipt_fixed (by simp)
  · exact (hflags _ (by decide)).1.trans (by decide)
  · exact (hflags _ (by decide)).2.trans (by decide)
  · exact (hflags _ (by decide)).2.trans (by decide)
  · exact (hflags _ (by decide)).2.trans (by decide)
  · exact (hflags _ (by decide)).2.trans (by decide)
  · exact (hflags _ (by decide)).2.trans (by decide)
  · exact sanitizedReceipt_fixed (by simp)
  · exact (hflags _ (by decide)).2.trans (by decide)
  · exact sanitizedReceipt_binding (by simp [ReceiptBindings.fields, hcapture])
  · exact sanitizedReceipt_binding (by simp [ReceiptBindings.fields, hwatchdog])

theorem sanitizedReceipt_accounting :
    receiptAccounting (sortKeys (sanitizedReceipt failureCode bindings)) = true := by
  have hzero : ∀ name ∈ countFields ++ timingFields,
      Decoded.int (sortKeys (sanitizedReceipt failureCode bindings)) name = 0 := fun name => sanitizedReceipt_int
  simp (disch := decide) only [receiptAccounting, hzero, Int.add_zero, decide_true, Bool.and_self]

theorem receipt_sanitized (hdigests : bindings.fields.all (fun field => field.2.isDigest) = true)
    (hcapture : bindings.capturePolicyDigest = capturePolicyDigest)
    (hwatchdog : bindings.watchdogPolicyDigest = watchdogPolicyDigest) :
    receipt (.object (sortKeys (sanitizedReceipt failureCode bindings))) =
      some ⟨.object (sortKeys (sanitizedReceipt failureCode bindings)), "NO_GO", some failureCode⟩ := by
  have hcanonical : JsonText.isCanonical (.object (sortKeys (sanitizedReceipt failureCode bindings))) = true := by
    rw [JsonText.isCanonical, decide_eq_true_eq, nodup_sortKeys, sanitizedReceipt_keys]
    exact ⟨receiptKeys_nodup, sortKeys_sortKeys _⟩
  have hcleanup : cleanupFields.all (fun name =>
      Decoded.isTrue (sortKeys (sanitizedReceipt failureCode bindings)) name) = true := by
    rw [List.all_eq_true]
    intro name hname
    have hbool : name ∈ boolFields := by
      revert name
      decide +kernel
    have hclean : (cleanupFields ++ ["video_only"]).contains name = true := by simp [hname]
    rw [Decoded.isTrue, sanitizedReceipt_bool hbool, hclean]
    rfl
  simp only [receipt]
  rw [hcanonical, sanitizedReceipt_shape hdigests hcapture hwatchdog, sanitizedReceipt_accounting, hcleanup,
    sanitizedReceipt_fixed (show ("outcome", Scalar.str "NO_GO") ∈ _ by simp),
    sanitizedReceipt_fixed (show ("failure_code", Scalar.str failureCode) ∈ _ by simp)]
  rfl

theorem buildSanitizedNoGoEvidence_verifies {stage : FailureStage}
    (hcode : failureCodes.lookup failureCode = some stage)
    (hdigests : bindings.fields.all (fun field => field.2.isDigest) = true)
    (hcapture : bindings.capturePolicyDigest = capturePolicyDigest)
    (hwatchdog : bindings.watchdogPolicyDigest = watchdogPolicyDigest) (hcleanup : retainedCleanup.valid = true) :
    ∃ evidence, buildSanitizedNoGoEvidence hash failureCode bindings retainedCleanup = some evidence ∧
      evidence.receiptJson = .json (.object (sortKeys (sanitizedReceipt failureCode bindings))) ∧
      verifyTerminalEvidence hash evidence = true := by
  have hledger : ledger (.array [sortKeys [("code", Scalar.str failureCode), ("count", .int 1),
      ("precedence", .int 0), ("stage", .str stage.value)]]) (some failureCode) "NO_GO" = true := by
    have hnodup : ([("code", Scalar.str failureCode), ("count", .int 1), ("precedence", .int 0),
        ("stage", .str stage.value)].map Prod.fst).Nodup := by simp
    have hkeys : sameKeys ((sortKeys [("code", Scalar.str failureCode), ("count", .int 1), ("precedence", .int 0),
        ("stage", .str stage.value)]).map Prod.fst) ["stage", "code", "count", "precedence"] = true := by
      rw [sameKeys_perm ((sortKeys_perm _).map Prod.fst)]
      simp [sameKeys]
    have hcanonical : JsonText.isCanonical (.array [sortKeys [("code", Scalar.str failureCode), ("count", .int 1),
        ("precedence", .int 0), ("stage", .str stage.value)]]) = true := by
      simp only [JsonText.isCanonical, List.mem_singleton, forall_eq, nodup_sortKeys, sortKeys_sortKeys, and_true,
        decide_eq_true_eq]
      exact hnodup
    simp [ledger, ledgerEntries, hcanonical, hkeys, lookup_sortKeys hnodup, List.lookup_cons, hcode]
  have hbuilt : ∃ evidence, buildVerifiedTerminalEvidence hash
      (.object (sortKeys (sanitizedReceipt failureCode bindings)))
      (.array [sortKeys [("code", .str failureCode), ("count", .int 1), ("precedence", .int 0),
        ("stage", .str stage.value)]]) retainedCleanup = some evidence ∧
      evidence.receiptJson = .json (.object (sortKeys (sanitizedReceipt failureCode bindings))) ∧
      verifyTerminalEvidence hash evidence = true := by
    simp [buildVerifiedTerminalEvidence, hcleanup, receipt_sanitized hdigests hcapture hwatchdog, hledger,
      verifyTerminalEvidence]
  simpa only [buildSanitizedNoGoEvidence, hcode, hdigests, if_true] using hbuilt

end PduExamObserver.Authority
