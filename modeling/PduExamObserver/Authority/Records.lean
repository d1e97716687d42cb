import PduExamObserver.Authority.Attestations

/-! # Canonical authority records

The six record domains: what is written, and `_validated_record`, which decides what is read back. -/

namespace PduExamObserver.Authority
open Canonical
set_option autoImplicit false

inductive AuthorityLeaf where
  | prepared
  | grant
  | terminal
  deriving DecidableEq, Repr

inductive CanonicalLifecycleState where
  | unknownNonlaunchable
  | absent
  | pending
  | presentInvalid
  | prepared
  | preparedNonlaunchable
  | stalePreparedNonlaunchable
  | consumedNoGrant
  | issued
  | revokedTerminalPending
  | terminal
  | terminalDurabilityUnverified
  deriving DecidableEq, Repr

inductive GrantDisposition where
  | notIssued
  | revoked
  deriving DecidableEq, Repr

def GrantDisposition.value : GrantDisposition → String
  | .notIssued => "NOT_ISSUED"
  | .revoked => "REVOKED"

inductive Domain where
  | pending
  | prepared
  | consumed
  | grantIssued
  | grantRevoked
  | terminal
  deriving DecidableEq, Repr

namespace Domain

def all : List Domain := [.pending, .prepared, .consumed, .grantIssued, .grantRevoked, .terminal]

def value : Domain → String
  | .pending => "D1N2/PENDING/v1"
  | .prepared => "D1N2/PREPARED/v1"
  | .consumed => "D1N2/CONSUMED/v1"
  | .grantIssued => "D1N2/GRANT_ISSUED/v1"
  | .grantRevoked => "D1N2/GRANT_REVOKED/v1"
  | .terminal => "D1N2/TERMINAL/v1"

/-- `_RECORD_STATES`. -/
def recordState : Domain → String
  | .pending => "PENDING"
  | .prepared => "PREPARED"
  | .consumed => "CONSUMED"
  | .grantIssued => "ISSUED"
  | .grantRevoked => "REVOKED"
  | .terminal => "TERMINAL"

def recordKeys : Domain → List String
  | .pending =>
    ["a0_approval_digest", "approval_id_digest", "binding_schema_canonical_sha256",
      "candidate_exact_bytes_sha256", "domain", "epoch_digest", "expires_unix_ns", "issued_unix_ns",
      "schema_version", "state", "static_bindings_digest"]
  | .prepared =>
    PreparedBindingAttestation.fieldNames ++ ["domain", "epoch_digest", "pending_digest", "state"]
  | .consumed =>
    ["dependency_observation_digest", "domain", "epoch_digest", "face_model_sha256", "pose_model_sha256",
      "prepared_digest", "schema_version", "state", "static_bindings_digest"]
  | .grantIssued =>
    WorkerGrantBindingAttestation.fieldNames ++ ["consumed_digest", "domain", "epoch_digest",
      "expires_monotonic_ns", "grant_digest", "grant_size", "issued_monotonic_ns", "schema_version", "state"]
  | .grantRevoked =>
    ["challenge_digest", "consumed_digest", "domain", "epoch_digest", "expires_monotonic_ns", "grant_digest",
      "issued_monotonic_ns", "issued_record_digest", "job_name_digest", "schema_version", "state"]
  | .terminal =>
    TerminalBindingAttestation.fieldNames ++ ["consumed_digest", "domain", "durability_policy",
      "grant_disposition", "grant_record_digest", "schema_version", "state"]

end Domain

/-! ## Writing -/

/-- `{**d, **values}`, up to the order of its keys. -/
def mergeFields (d values : Fields) : Fields :=
  d.filter (fun field => !(values.map Prod.fst).contains field.1) ++ values

def recordFields (domain : Domain) (values : Fields) : Fields :=
  mergeFields [("domain", .str domain.value), ("schema_version", .int 3)] values

def record (domain : Domain) (values : Fields) : Bytes := canonicalBytes (recordFields domain values)

structure CanonicalGrantInspection where
  digest : String
  issuedMonotonicNs : Int
  expiresMonotonicNs : Int
  used : Bool
  deriving DecidableEq

variable (hash : Sha256)

/-- The values of the record that `prepare` creates. -/
def pendingValues (approved : ApprovedRP2Triple) (epochDigest : String) : Fields :=
  approved.pendingFields ++ [("epoch_digest", .str epochDigest), ("state", .str "PENDING")]

/-- The values of the record that `prepare` replaces the pending one by. -/
def preparedValues (attestation : PreparedBindingAttestation) (epochDigest : String) (pending : Bytes) : Fields :=
  attestation.recordFields ++ [("epoch_digest", .str epochDigest),
    ("pending_digest", .str (hash.hexdigest pending)), ("state", .str "PREPARED")]

/-- The values of the record that `consume` writes; `preparedGet` is a validated record, so the fields that
it is asked for are there. -/
def consumedValues (preparedGet : Getter) (epochDigest : String) (prepared : Bytes) : Fields :=
  [("dependency_observation_digest", (preparedGet "dependency_observation_digest").getD .null),
    ("epoch_digest", .str epochDigest),
    ("face_model_sha256", (preparedGet "face_model_sha256").getD .null),
    ("pose_model_sha256", (preparedGet "pose_model_sha256").getD .null),
    ("prepared_digest", .str (hash.hexdigest prepared)),
    ("state", .str "CONSUMED"),
    ("static_bindings_digest", (preparedGet "static_bindings_digest").getD .null)]

/-- The values of the record that `issue_grant` creates. -/
def issuedValues (binding : WorkerGrantBindingAttestation) (consumed : Bytes) (epochDigest grantDigest : String)
    (issuedMonotonicNs : Int) : Fields :=
  binding.recordFields ++ [("consumed_digest", .str (hash.hexdigest consumed)),
    ("epoch_digest", .str epochDigest),
    ("expires_monotonic_ns", .int (issuedMonotonicNs + workerGrantTtlNs)),
    ("grant_digest", .str grantDigest),
    ("grant_size", .int 32),
    ("issued_monotonic_ns", .int issuedMonotonicNs),
    ("state", .str "ISSUED")]

/-- The values of the record that `revoke_grant` writes. -/
def revokedValues (issuedGet : Getter) (consumed : Bytes) (epochDigest : String)
    (grant : CanonicalGrantInspection) (grantRecord : Bytes) : Fields :=
  [("challenge_digest", (issuedGet "challenge_digest").getD .null),
    ("consumed_digest", .str (hash.hexdigest consumed)),
    ("epoch_digest", .str epochDigest),
    ("expires_monotonic_ns", .int grant.expiresMonotonicNs),
    ("grant_digest", .str grant.digest),
    ("issued_monotonic_ns", .int grant.issuedMonotonicNs),
    ("issued_record_digest", .str (hash.hexdigest grantRecord)),
    ("job_name_digest", (issuedGet "job_name_digest").getD .null),
    ("state", .str "REVOKED")]

def grantRecordDigest : Option Bytes → Value
  | none => .null
  | some grantRecord => .str (hash.hexdigest grantRecord)

/-- The values of the record that `terminalize` creates. -/
def terminalValues (binding : TerminalBindingAttestation) (consumed : Bytes) (disposition : GrantDisposition)
    (grantRecord : Option Bytes) : Fields :=
  binding.recordFields ++ [("consumed_digest", .str (hash.hexdigest consumed)),
    ("durability_policy", .str "REVERIFY_PARENT_ON_INSPECTION"),
    ("grant_disposition", .str disposition.value),
    ("grant_record_digest", grantRecordDigest hash grantRecord),
    ("state", .str "TERMINAL")]

/-! ## Reading -/

/-- `_decode_record`: the text is its own canonical form. -/
def decodeRecord : Option Bytes → Option Fields
  | some (.record fields) =>
    if (fields.map Prod.fst).Nodup ∧ canonicalBytes fields = .record fields then some fields else none
  | _ => none

/-- `key.endswith("_digest") and key != "grant_record_digest"`. -/
def isDigestKey (key : String) : Bool :=
  "_digest".toList.isSuffixOf key.toList && key != "grant_record_digest"

def validGrantWindow (get : Getter) : Bool :=
  match get.int "issued_monotonic_ns", get.int "expires_monotonic_ns" with
  | some issued, some expires => 0 ≤ issued && expires ≤ maxSignedNs && expires - issued = workerGrantTtlNs
  | _, _ => false

def validDisposition (get : Getter) : Bool :=
  match get "grant_disposition", get "grant_record_digest" with
  | some (.str "NOT_ISSUED"), grantDigest => grantDigest = some .null
  | some (.str "REVOKED"), some grantDigest => grantDigest.isDigest
  | _, _ => false

/-- The checks of `_validated_record` that depend on the domain. -/
def validContent (get : Getter) : Domain → Bool
  | .pending => ((ApprovedRP2Triple.ofDecoded get).map ApprovedRP2Triple.valid).getD false
  | .prepared => ((PreparedBindingAttestation.ofDecoded get).map PreparedBindingAttestation.valid).getD false
  | .consumed => true
  | .grantIssued =>
    ((WorkerGrantBindingAttestation.ofDecoded get).map WorkerGrantBindingAttestation.valid).getD false &&
      validGrantWindow get && get "grant_size" = some (.int 32)
  | .grantRevoked => validGrantWindow get
  | .terminal =>
    get "durability_policy" = some (.str "REVERIFY_PARENT_ON_INSPECTION") && validDisposition get &&
      ((TerminalBindingAttestation.ofDecoded get).map (TerminalBindingAttestation.valid hash)).getD false

/-- `decoded.get`. -/
def getter (decoded : Fields) : Getter := fun name => decoded.lookup name

/-- Everything that `_validated_record` asks of the decoded fields of a domain. -/
def validFields (domain : Domain) (decoded : Fields) : Bool :=
  sameKeys (decoded.map Prod.fst) domain.recordKeys &&
    decoded.lookup "schema_version" = some (.int 3) &&
    decoded.lookup "state" = some (.str domain.recordState) &&
    decoded.all (fun field => !isDigestKey field.1 || field.2.isDigest) &&
    validContent hash (getter decoded) domain

/-- `_validated_record`, without an expected domain: the domain and the fields of a valid record. -/
def validatedRecord (value : Option Bytes) : Option (Domain × Fields) :=
  match decodeRecord value with
  | none => none
  | some decoded =>
    match Domain.all.find? (fun domain => decoded.lookup "domain" = some (.str domain.value)) with
    | none => none
    | some domain => if validFields hash domain decoded then some (domain, decoded) else none

/-- `_validated_record` with an expected domain. -/
def validatedRecordOf (expected : Domain) (value : Option Bytes) : Option Fields :=
  match validatedRecord hash value with
  | some (domain, decoded) => if domain = expected then some decoded else none
  | none => none

def classifyCanonicalLeafRecord (leaf : AuthorityLeaf) (value : Bytes) : Option CanonicalLifecycleState :=
  match validatedRecord hash (some value) with
  | none => none
  | some (domain, _) =>
    match leaf, domain with
    | .prepared, .pending => some .pending
    | .prepared, .prepared => some .prepared
    | .prepared, .consumed => some .consumedNoGrant
    | .grant, .grantIssued => some .issued
    | .grant, .grantRevoked => some .revokedTerminalPending
    | .terminal, .terminal => some .terminal
    | _, _ => none

def Scalar.toValue : Scalar → Value
  | .null => .null
  | .bool b => .bool b
  | .int n => .int n
  | .str s => .str s

def receiptProjections : List (String × String) :=
  [("authority_digest", "prepared_digest"),
    ("static_bindings_digest", "static_bindings_digest"),
    ("runtime_digest", "dependency_observation_digest"),
    ("pose_model_sha256", "pose_model_sha256"),
    ("face_model_sha256", "face_model_sha256")]

def terminalReceiptMatchesLifecycle (terminalGet consumedGet : Getter) (revokedGrantRecord : Option Bytes) :
    Bool :=
  match terminalGet "receipt_json" with
  | some (.json (.object receipt)) =>
    receiptProjections.all
      (fun projection => (receipt.lookup projection.1).map Scalar.toValue = consumedGet projection.2) &&
    match revokedGrantRecord with
    | none => true
    | some grantRecord =>
      match validatedRecordOf hash .grantRevoked revokedGrantRecord with
      | none => false
      | some revoked =>
        receipt.lookup "grant_record_digest" = some (.str (hash.hexdigest grantRecord)) &&
          (receipt.lookup "challenge_digest").map Scalar.toValue = revoked.lookup "challenge_digest" &&
          (receipt.lookup "job_name_digest").map Scalar.toValue = revoked.lookup "job_name_digest"
  | _ => false

end PduExamObserver.Authority
