import PduExamObserver.ResearchRuntime.Schema

/-! # Authority records

What the service asks of a native authority record before it collects, exports or withdraws. The resolver may
answer anything, and something else each time it is asked. -/

namespace PduExamObserver.ResearchRuntime
open Authority
set_option autoImplicit false

/-- A value of an authority record. A number is the float that it converts to, an `oversized` one is an integer that
converts to none, and `unhashable` is a list or an object. -/
inductive RecordValue where
  | str (s : String)
  | number (q : Rat)
  | oversized
  | nonFinite
  | bool (b : Bool)
  | unhashable
  | other
  deriving DecidableEq

/-- `record.get`. -/
abbrev AuthorityRecord := String → Option RecordValue

/-- `str.isspace` of one character. -/
def isSpace (c : Char) : Bool :=
  let n := c.toNat
  (0x9 ≤ n && n ≤ 0xd) || (0x1c ≤ n && n ≤ 0x20) || n = 0x85 || n = 0xa0 || n = 0x1680 ||
    (0x2000 ≤ n && n ≤ 0x200a) || n = 0x2028 || n = 0x2029 || n = 0x202f || n = 0x205f || n = 0x3000

def strip (value : String) : String :=
  String.ofList (((value.toList.dropWhile isSpace).reverse.dropWhile isSpace).reverse)

def isDigest : Option RecordValue → Bool
  | some (.str s) => isHexDigest s
  | _ => false

def isReference : Option RecordValue → Bool
  | some (.str s) =>
    1 ≤ s.length && s.length ≤ 128 && s.toList.all fun c => c.isAlphanum || "._-".toList.contains c
  | _ => false

def isPseudonym : Option RecordValue → Bool
  | some (.str s) => strip s ≠ ""
  | _ => false

def deviceGateDecisions : List String :=
  ["UNVERIFIED", "NO_GO", "BACKEND_CONTRACT_PASS", "D1_N1_PREFLIGHT_PASS", "D1_N2_PREFLIGHT_PASS"]

structure Setup where
  rootDigest : String
  digests : Digests

/-- What the resolver answers, and the clock. -/
structure AuthorityAnswer where
  record : Except RuntimeError (Option AuthorityRecord)
  now : Rat

/-- `value in {...}`: the value is hashed first. -/
def isMember (allowed : List String) : Option RecordValue → Except RuntimeError Bool
  | some (.str s) => .ok (allowed.contains s)
  | some .unhashable => .error .typeError
  | _ => .ok false

/-- The retention of a record as a float; `math.isfinite` raises for an integer that is too large for one. -/
def retentionExpiry : Option RecordValue → Except RuntimeError (Option Rat)
  | some (.number expires) => .ok (some expires)
  | some .oversized => .error .overflowError
  | _ => .ok none

/-- The checks of `_validate_authority`, in their order. -/
def authorityBinds (setup : Setup) (record : AuthorityRecord) (now : Rat) (reference : String) (withdrawal : Bool) :
    Except RuntimeError Bool :=
  if record "authority_reference" ≠ some (.str reference) then .ok false
  else do
    let status ← isMember (if withdrawal then ["APPROVED", "REVOKED"] else ["APPROVED"]) (record "status")
    if !status ∨ record "native_root_digest" ≠ some (.str setup.rootDigest) ∨
        !isPseudonym (record "participant_pseudonym") then
      return false
    else
      let consent ← isMember (if withdrawal then ["CONFIRMED", "WITHDRAWN"] else ["CONFIRMED"]) (record "consent_status")
      if !consent then return false
      else
        let expiry ← retentionExpiry (record "retention_expires_at")
        let retained := expiry.any fun expires => withdrawal || now < expires
        let bound := ["consent_policy_sha256", "institutional_approval_sha256", "retention_record_sha256"].all
          fun field => isDigest (record field)
        let referenced := ["protocol_version", "consent_receipt_id", "consent_version", "operator_pseudonym"].all
          fun field => isReference (record field)
        if !retained ∨ !bound ∨ !referenced then return false
        else isMember deviceGateDecisions (record "device_gate_decision")

def validateAuthority (setup : Setup) (answer : AuthorityAnswer) (reference : String) (withdrawal : Bool) :
    Except RuntimeError AuthorityRecord := do
  match ← answer.record with
  | none => .error (.authorityDenied "native collection authority was not found")
  | some record =>
    if ← authorityBinds setup record answer.now reference withdrawal then return record
    else .error (.authorityDenied "native collection authority is incomplete or does not bind this root")

/-- `_validate_export_authority`; `now` is the clock of its own look at the retention. -/
def validateExportAuthority (setup : Setup) (answer : AuthorityAnswer) (now : Rat) (row : Session) :
    Except RuntimeError Unit :=
  match row.authorityReference with
  | none | some "" => .error (.authorityDenied "EXPORT_AUTHORITY_REQUIRED")
  | some reference => do
    let record ← validateAuthority setup answer reference false
    if record "session_pseudonym" ≠ some (.str row.sessionId) ∨
        record "participant_pseudonym" ≠ some (.str row.participantPseudonym) then
      .error (.authorityDenied "AUTHORITY_SESSION_MISMATCH")
    else if record "consent_status" = some (.str "WITHDRAWN") then .error (.authorityDenied "CONSENT_WITHDRAWN")
    else
      match record "retention_expires_at" with
      | some (.number expires) =>
        if expires ≤ now then .error (.authorityDenied "RETENTION_EXPIRED") else .ok ()
      | _ => .error (.authorityDenied "RETENTION_EXPIRED")

def AuthorityRecord.text (record : AuthorityRecord) (field : String) : String :=
  match record field with
  | some (.str s) => s
  | _ => ""

end PduExamObserver.ResearchRuntime
