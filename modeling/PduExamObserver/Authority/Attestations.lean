import Mathlib.Algebra.Group.Int.Defs
import PduExamObserver.Authority.Evidence

/-! # Attestations

What the guard and the supervisor attest to, with the checks of `valid` and the fields that end up in the
records. `ofDecoded` builds an attestation back from the fields of a record; it fails where `valid` would
refuse the type of a field. -/

namespace PduExamObserver.Authority
set_option autoImplicit false

def workerGrantTtlNs : Int := 300000000000

def preparedTtlNs : Int := 900000000000

def a0ValidityNs : Int := 900000000000

def maxSignedNs : Int := 2 ^ 63 - 1

def authorityRevision : String := "d1-n2-authority-v1"

/-- `decoded.get`. -/
abbrev Getter := String → Option Value

namespace Getter

def str (get : Getter) (name : String) : Option String :=
  match get name with
  | some (.str s) => some s
  | _ => none

def int (get : Getter) (name : String) : Option Int :=
  match get name with
  | some (.int n) => some n
  | _ => none

def bool (get : Getter) (name : String) : Option Bool :=
  match get name with
  | some (.bool b) => some b
  | _ => none

/-- `str(decoded[name])`; a JSON text is never a digest. -/
def pyStr (get : Getter) (name : String) : Option String :=
  (get name).map fun value => match value with
    | .null => "None"
    | .bool true => "True"
    | .bool false => "False"
    | .int n => toString n
    | .str s => s
    | .json _ => ""

end Getter

/-! ## The approval that comes before the pending record -/

structure ApprovedRP2Triple where
  staticBindingsDigest : String
  bindingSchemaCanonicalSha256 : String
  candidateExactBytesSha256 : String
  a0ApprovalDigest : String
  approvalIdDigest : String
  issuedUnixNs : Int
  expiresUnixNs : Int

namespace ApprovedRP2Triple

def valid (a : ApprovedRP2Triple) : Bool :=
  isHexDigest a.staticBindingsDigest && isHexDigest a.bindingSchemaCanonicalSha256 &&
    isHexDigest a.candidateExactBytesSha256 && isHexDigest a.a0ApprovalDigest &&
    isHexDigest a.approvalIdDigest && 0 ≤ a.issuedUnixNs && a.issuedUnixNs ≤ maxSignedNs - a0ValidityNs &&
    a.expiresUnixNs - a.issuedUnixNs = a0ValidityNs

def pendingFields (a : ApprovedRP2Triple) : Fields :=
  [("a0_approval_digest", .str a.a0ApprovalDigest),
    ("approval_id_digest", .str a.approvalIdDigest),
    ("binding_schema_canonical_sha256", .str a.bindingSchemaCanonicalSha256),
    ("candidate_exact_bytes_sha256", .str a.candidateExactBytesSha256),
    ("expires_unix_ns", .int a.expiresUnixNs),
    ("issued_unix_ns", .int a.issuedUnixNs),
    ("static_bindings_digest", .str a.staticBindingsDigest)]

def ofDecoded (get : Getter) : Option ApprovedRP2Triple := do
  return {
    staticBindingsDigest := ← get.pyStr "static_bindings_digest"
    bindingSchemaCanonicalSha256 := ← get.pyStr "binding_schema_canonical_sha256"
    candidateExactBytesSha256 := ← get.pyStr "candidate_exact_bytes_sha256"
    a0ApprovalDigest := ← get.pyStr "a0_approval_digest"
    approvalIdDigest := ← get.pyStr "approval_id_digest"
    issuedUnixNs := ← get.int "issued_unix_ns"
    expiresUnixNs := ← get.int "expires_unix_ns" }

end ApprovedRP2Triple

/-! ## The attestation of a prepared record -/

structure PreparedBindingAttestation where
  authorityRevision : String
  schemaVersion : Int
  staticBindingsDigest : String
  bindingSchemaDigest : String
  manifestSha256 : String
  cameraCount : Int
  cameraStatus : String
  opaqueDeviceToken : String
  supervisorPathDigest : String
  supervisorSha256 : String
  supervisorSizeBytes : Int
  supervisorIdentityDigest : String
  ffmpegPathDigest : String
  ffmpegSha256 : String
  ffmpegSizeBytes : Int
  ffmpegIdentityDigest : String
  ffmpegVersionDigest : String
  dependencyObservationDigest : String
  poseModelSha256 : String
  poseModelSizeBytes : Int
  faceModelSha256 : String
  faceModelSizeBytes : Int
  authorizationNonceDigest : String
  issuedUnixNs : Int
  expiresUnixNs : Int

namespace PreparedBindingAttestation

/-- `__dataclass_fields__`. -/
def fieldNames : List String :=
  ["authority_revision", "schema_version", "static_bindings_digest", "binding_schema_digest",
    "manifest_sha256", "camera_count", "camera_status", "opaque_device_token", "supervisor_path_digest",
    "supervisor_sha256", "supervisor_size_bytes", "supervisor_identity_digest", "ffmpeg_path_digest",
    "ffmpeg_sha256", "ffmpeg_size_bytes", "ffmpeg_identity_digest", "ffmpeg_version_digest",
    "dependency_observation_digest", "pose_model_sha256", "pose_model_size_bytes", "face_model_sha256",
    "face_model_size_bytes", "authorization_nonce_digest", "issued_unix_ns", "expires_unix_ns"]

def valid (a : PreparedBindingAttestation) : Bool :=
  a.authorityRevision = Authority.authorityRevision && a.schemaVersion = 3 &&
    [a.staticBindingsDigest, a.bindingSchemaDigest, a.manifestSha256, a.opaqueDeviceToken,
      a.supervisorPathDigest, a.supervisorSha256, a.supervisorIdentityDigest, a.ffmpegPathDigest,
      a.ffmpegSha256, a.ffmpegIdentityDigest, a.ffmpegVersionDigest, a.dependencyObservationDigest,
      a.poseModelSha256, a.faceModelSha256, a.authorizationNonceDigest].all isHexDigest &&
    a.cameraCount = 1 && a.cameraStatus = "PRESENT_OK" &&
    [a.supervisorSizeBytes, a.ffmpegSizeBytes, a.poseModelSizeBytes, a.faceModelSizeBytes].all (0 < ·) &&
    0 ≤ a.issuedUnixNs && a.issuedUnixNs ≤ maxSignedNs - preparedTtlNs &&
    a.expiresUnixNs - a.issuedUnixNs = preparedTtlNs

def recordFields (a : PreparedBindingAttestation) : Fields :=
  [("authority_revision", .str a.authorityRevision),
    ("schema_version", .int a.schemaVersion),
    ("static_bindings_digest", .str a.staticBindingsDigest),
    ("binding_schema_digest", .str a.bindingSchemaDigest),
    ("manifest_sha256", .str a.manifestSha256),
    ("camera_count", .int a.cameraCount),
    ("camera_status", .str a.cameraStatus),
    ("opaque_device_token", .str a.opaqueDeviceToken),
    ("supervisor_path_digest", .str a.supervisorPathDigest),
    ("supervisor_sha256", .str a.supervisorSha256),
    ("supervisor_size_bytes", .int a.supervisorSizeBytes),
    ("supervisor_identity_digest", .str a.supervisorIdentityDigest),
    ("ffmpeg_path_digest", .str a.ffmpegPathDigest),
    ("ffmpeg_sha256", .str a.ffmpegSha256),
    ("ffmpeg_size_bytes", .int a.ffmpegSizeBytes),
    ("ffmpeg_identity_digest", .str a.ffmpegIdentityDigest),
    ("ffmpeg_version_digest", .str a.ffmpegVersionDigest),
    ("dependency_observation_digest", .str a.dependencyObservationDigest),
    ("pose_model_sha256", .str a.poseModelSha256),
    ("pose_model_size_bytes", .int a.poseModelSizeBytes),
    ("face_model_sha256", .str a.faceModelSha256),
    ("face_model_size_bytes", .int a.faceModelSizeBytes),
    ("authorization_nonce_digest", .str a.authorizationNonceDigest),
    ("issued_unix_ns", .int a.issuedUnixNs),
    ("expires_unix_ns", .int a.expiresUnixNs)]

def ofDecoded (get : Getter) : Option PreparedBindingAttestation := do
  return {
    authorityRevision := ← get.str "authority_revision"
    schemaVersion := ← get.int "schema_version"
    staticBindingsDigest := ← get.str "static_bindings_digest"
    bindingSchemaDigest := ← get.str "binding_schema_digest"
    manifestSha256 := ← get.str "manifest_sha256"
    cameraCount := ← get.int "camera_count"
    cameraStatus := ← get.str "camera_status"
    opaqueDeviceToken := ← get.str "opaque_device_token"
    supervisorPathDigest := ← get.str "supervisor_path_digest"
    supervisorSha256 := ← get.str "supervisor_sha256"
    supervisorSizeBytes := ← get.int "supervisor_size_bytes"
    supervisorIdentityDigest := ← get.str "supervisor_identity_digest"
    ffmpegPathDigest := ← get.str "ffmpeg_path_digest"
    ffmpegSha256 := ← get.str "ffmpeg_sha256"
    ffmpegSizeBytes := ← get.int "ffmpeg_size_bytes"
    ffmpegIdentityDigest := ← get.str "ffmpeg_identity_digest"
    ffmpegVersionDigest := ← get.str "ffmpeg_version_digest"
    dependencyObservationDigest := ← get.str "dependency_observation_digest"
    poseModelSha256 := ← get.str "pose_model_sha256"
    poseModelSizeBytes := ← get.int "pose_model_size_bytes"
    faceModelSha256 := ← get.str "face_model_sha256"
    faceModelSizeBytes := ← get.int "face_model_size_bytes"
    authorizationNonceDigest := ← get.str "authorization_nonce_digest"
    issuedUnixNs := ← get.int "issued_unix_ns"
    expiresUnixNs := ← get.int "expires_unix_ns" }

end PreparedBindingAttestation

/-! ## The binding of a worker grant -/

structure WorkerGrantBindingAttestation where
  preparedAuthorityDigest : String
  workerSha256 : String
  workerSizeBytes : Int
  workerIdentityDigest : String
  workerArgvDigest : String
  workerJobPolicyDigest : String
  challengeDigest : String
  jobNameDigest : String
  durationSeconds : Int
  videoOnly : Bool
  retry : Bool

namespace WorkerGrantBindingAttestation

/-- `__dataclass_fields__`. -/
def fieldNames : List String :=
  ["prepared_authority_digest", "worker_sha256", "worker_size_bytes", "worker_identity_digest",
    "worker_argv_digest", "worker_job_policy_digest", "challenge_digest", "job_name_digest",
    "duration_seconds", "video_only", "retry"]

def valid (a : WorkerGrantBindingAttestation) : Bool :=
  [a.preparedAuthorityDigest, a.workerSha256, a.workerIdentityDigest, a.workerArgvDigest,
      a.workerJobPolicyDigest, a.challengeDigest, a.jobNameDigest].all isHexDigest &&
    0 < a.workerSizeBytes && a.durationSeconds = 60 && a.videoOnly && !a.retry

def recordFields (a : WorkerGrantBindingAttestation) : Fields :=
  [("prepared_authority_digest", .str a.preparedAuthorityDigest),
    ("worker_sha256", .str a.workerSha256),
    ("worker_size_bytes", .int a.workerSizeBytes),
    ("worker_identity_digest", .str a.workerIdentityDigest),
    ("worker_argv_digest", .str a.workerArgvDigest),
    ("worker_job_policy_digest", .str a.workerJobPolicyDigest),
    ("challenge_digest", .str a.challengeDigest),
    ("job_name_digest", .str a.jobNameDigest),
    ("duration_seconds", .int a.durationSeconds),
    ("video_only", .bool a.videoOnly),
    ("retry", .bool a.retry)]

def ofDecoded (get : Getter) : Option WorkerGrantBindingAttestation := do
  return {
    preparedAuthorityDigest := ← get.str "prepared_authority_digest"
    workerSha256 := ← get.str "worker_sha256"
    workerSizeBytes := ← get.int "worker_size_bytes"
    workerIdentityDigest := ← get.str "worker_identity_digest"
    workerArgvDigest := ← get.str "worker_argv_digest"
    workerJobPolicyDigest := ← get.str "worker_job_policy_digest"
    challengeDigest := ← get.str "challenge_digest"
    jobNameDigest := ← get.str "job_name_digest"
    durationSeconds := ← get.int "duration_seconds"
    videoOnly := ← get.bool "video_only"
    retry := ← get.bool "retry" }

end WorkerGrantBindingAttestation

/-! ## The binding of a terminal record -/

structure TerminalBindingAttestation where
  receiptJson : Value
  receiptDigest : String
  failureLedgerJson : Value
  failureLedgerDigest : String
  retainedA0Clean : Bool
  retainedRp2Clean : Bool
  retainedPreparationClean : Bool
  nativeSideEffectCount : Int

namespace TerminalBindingAttestation

/-- `__dataclass_fields__`. -/
def fieldNames : List String :=
  ["receipt_json", "receipt_digest", "failure_ledger_json", "failure_ledger_digest",
    "retained_a0_clean", "retained_rp2_clean", "retained_preparation_clean", "native_side_effect_count"]

def evidence (a : TerminalBindingAttestation) : VerifiedTerminalEvidence where
  receiptJson := a.receiptJson
  receiptDigest := a.receiptDigest
  failureLedgerJson := a.failureLedgerJson
  failureLedgerDigest := a.failureLedgerDigest
  retainedCleanup := ⟨a.retainedA0Clean, a.retainedRp2Clean, a.retainedPreparationClean⟩

def valid (hash : Sha256) (a : TerminalBindingAttestation) : Bool :=
  verifyTerminalEvidence hash a.evidence && (a.nativeSideEffectCount = 0 || a.nativeSideEffectCount = 1)

def fromEvidence (evidence : VerifiedTerminalEvidence) (nativeSideEffectCount : Int) :
    TerminalBindingAttestation where
  receiptJson := evidence.receiptJson
  receiptDigest := evidence.receiptDigest
  failureLedgerJson := evidence.failureLedgerJson
  failureLedgerDigest := evidence.failureLedgerDigest
  retainedA0Clean := evidence.retainedCleanup.a0Clean
  retainedRp2Clean := evidence.retainedCleanup.rp2Clean
  retainedPreparationClean := evidence.retainedCleanup.preparationClean
  nativeSideEffectCount

def recordFields (a : TerminalBindingAttestation) : Fields :=
  [("receipt_json", a.receiptJson),
    ("receipt_digest", .str a.receiptDigest),
    ("failure_ledger_json", a.failureLedgerJson),
    ("failure_ledger_digest", .str a.failureLedgerDigest),
    ("retained_a0_clean", .bool a.retainedA0Clean),
    ("retained_rp2_clean", .bool a.retainedRp2Clean),
    ("retained_preparation_clean", .bool a.retainedPreparationClean),
    ("native_side_effect_count", .int a.nativeSideEffectCount)]

def ofDecoded (get : Getter) : Option TerminalBindingAttestation := do
  return {
    receiptJson := ← get "receipt_json"
    receiptDigest := ← get.str "receipt_digest"
    failureLedgerJson := ← get "failure_ledger_json"
    failureLedgerDigest := ← get.str "failure_ledger_digest"
    retainedA0Clean := ← get.bool "retained_a0_clean"
    retainedRp2Clean := ← get.bool "retained_rp2_clean"
    retainedPreparationClean := ← get.bool "retained_preparation_clean"
    nativeSideEffectCount := ← get.int "native_side_effect_count" }

theorem valid_digests {hash : Sha256} {a : TerminalBindingAttestation} (h : a.valid hash = true) :
    isHexDigest a.receiptDigest = true ∧ isHexDigest a.failureLedgerDigest = true := by
  simp only [valid, Bool.and_eq_true] at h
  have hverified := h.1
  unfold verifyTerminalEvidence at hverified
  split at hverified
  · obtain ⟨hreceipt, hledger⟩ := buildVerifiedTerminalEvidence_digests (of_decide_eq_true hverified)
    change isHexDigest a.evidence.receiptDigest = true ∧ isHexDigest a.evidence.failureLedgerDigest = true
    rw [hreceipt, hledger]
    exact ⟨hash.digest _, hash.digest _⟩
  · cases hverified

end TerminalBindingAttestation

end PduExamObserver.Authority
