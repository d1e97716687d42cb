import Mathlib.Logic.Function.Basic
import PduExamObserver.Authority.Records
import PduExamObserver.Library.Except

/-! # `CanonicalInjectableAuthorityLifecycle`

Every call into the guard, the session, the store, the clocks and the entropy source is an answer of the
environment of the operation, which may also be an exception. An operation takes the lifecycle and the
three leaves to the lifecycle and the leaves it leaves behind, also when it raises. -/

namespace PduExamObserver.Authority
open Canonical
set_option autoImplicit false

inductive PersistenceOutcome where
  | ok
  | inputInvalid
  | ownerUnavailable
  | ownerAbandoned
  | ownerFailed
  | leaseDrift
  | attestationFailed
  | createFailed
  | casMismatch
  | readbackFailed
  | closeFailed
  | durabilityFailed
  | cleanupFailed
  | grantEntropyFailed
  | grantNotAuthorized
  | terminalNotAuthorized
  | terminalAlreadyPresent
  deriving DecidableEq, Repr

inductive OwnerStatus where
  | acquired
  | abandonedInspectionOnly
  | unavailable
  | error
  deriving DecidableEq, Repr

inductive ValidationStatus where
  | valid
  | drift
  | error
  deriving DecidableEq, Repr

inductive DurabilityStatus where
  | verified
  | unverified
  | error
  deriving DecidableEq, Repr

inductive StepStatus where
  | clean
  | failed
  | notHeld
  deriving DecidableEq, Repr

inductive WriteDisposition where
  | zeroWrite
  | presentValid
  | presentInvalid
  | presentUnknown
  deriving DecidableEq, Repr

inductive Raised where
  | raised
  deriving DecidableEq, Repr

abbrev Call (α : Type) := Except Raised α

structure CanonicalInspection where
  state : CanonicalLifecycleState
  record : Option Bytes
  durability : DurabilityStatus := .unverified

structure WriteResult where
  outcome : PersistenceOutcome
  disposition : WriteDisposition
  observedBytes : Option Bytes := none

structure CleanupReport where
  leaseClose : StepStatus
  mutexRelease : StepStatus
  mutexClose : StepStatus

/-- What the session of one operation answers; `prepare` validates and checks durability twice. -/
structure MutationSession where
  writePermitted : Bool
  validateBefore : Nat → Call ValidationStatus
  validateAfter : Nat → Call ValidationStatus
  parentDurable : Nat → Call DurabilityStatus
  attestA0BeforePending : Call (Option ApprovedRP2Triple)
  attestPending : Call (Option PreparedBindingAttestation)
  closeLeases : Call StepStatus
  releaseMutex : Call StepStatus
  closeMutex : Call StepStatus

structure BeginResult where
  owner : OwnerStatus
  session : Option MutationSession

structure CanonicalAuthorityPersistence where
  inspect : AuthorityLeaf → Option Bytes → Call CanonicalInspection
  createExact : AuthorityLeaf → Option Bytes → Bytes → Call WriteResult × Option Bytes
  casExact : AuthorityLeaf → Option Bytes → Bytes → Bytes → Call WriteResult × Option Bytes

structure Environment where
  begin : Call BeginResult
  persistence : CanonicalAuthorityPersistence
  clockNs : Call Int
  unixClockNs : Call Int
  grantEntropy : Call (List UInt8)

structure Lifecycle where
  epoch : List UInt8
  state : CanonicalLifecycleState := .unknownNonlaunchable
  pending : Option Bytes := none
  prepared : Option Bytes := none
  consumed : Option Bytes := none
  livePrepared : Bool := false
  liveConsumed : Bool := false
  grantRaw : Option (List UInt8) := none
  grantHandedOff : Bool := false
  grant : Option CanonicalGrantInspection := none
  grantRecord : Option Bytes := none
  approvedRp2 : Option ApprovedRP2Triple := none

abbrev Store := AuthorityLeaf → Option Bytes

/-- How an operation, or its `try` block, ends. -/
structure Ran (α : Type) where
  lifecycle : Lifecycle
  store : Store
  result : Call α

variable (hash : Sha256)

def Lifecycle.epochDigest (lifecycle : Lifecycle) : String := hash.hexdigest (.raw lifecycle.epoch)

/-! ## Guards and cleanup -/

def cleanupIsClean (report : CleanupReport) : Bool :=
  report.leaseClose = .clean && report.mutexRelease = .clean && report.mutexClose = .clean

/-- `_finish` without a primary error: it raises when one of the three steps raised. -/
def finish (session : MutationSession) : Call CleanupReport :=
  match session.closeLeases, session.releaseMutex, session.closeMutex with
  | .ok leaseClose, .ok mutexRelease, .ok mutexClose => .ok { leaseClose, mutexRelease, mutexClose }
  | _, _, _ => .error .raised

def OwnerStatus.outcome : OwnerStatus → PersistenceOutcome
  | .abandonedInspectionOnly => .ownerAbandoned
  | .unavailable => .ownerUnavailable
  | .error => .ownerFailed
  | .acquired => .ownerFailed

def giveBack (session : MutationSession) (outcome : PersistenceOutcome) :
    Call (Except PersistenceOutcome MutationSession) := do
  let report ← finish session
  return .error (if cleanupIsClean report then outcome else .cleanupFailed)

def beginMutation (begin : Call BeginResult) : Call (Except PersistenceOutcome MutationSession) := do
  let begun ← begin
  match begun.session with
  | none => return .error begun.owner.outcome
  | some session =>
    if begun.owner ≠ .acquired then giveBack session begun.owner.outcome
    else if !session.writePermitted then giveBack session .ownerFailed
    else
      let validation ← session.validateBefore 0
      if validation ≠ .valid then giveBack session .leaseDrift
      else return .ok session

/-- An operation under the guard: its body, and what becomes of the body's result once the session is
closed, cleanly or not. An exception in the body is raised again whatever the cleanup does. -/
def mutation {α : Type} (env : Environment) (lifecycle : Lifecycle) (store : Store)
    (body : MutationSession → Ran α)
    (settle : Bool → α → Lifecycle → Lifecycle × PersistenceOutcome) : Ran PersistenceOutcome :=
  match beginMutation env.begin with
  | .error e => ⟨lifecycle, store, .error e⟩
  | .ok (.error outcome) => ⟨lifecycle, store, .ok outcome⟩
  | .ok (.ok session) =>
    match (body session).result with
    | .error e => ⟨(body session).lifecycle, (body session).store, .error e⟩
    | .ok a =>
      match finish session with
      | .error e => ⟨(body session).lifecycle, (body session).store, .error e⟩
      | .ok report =>
        let settled := settle (cleanupIsClean report) a (body session).lifecycle
        ⟨settled.1, (body session).store, .ok settled.2⟩

/-! ## Writes -/

def writeStatus (result : WriteResult) (expected : Bytes) : PersistenceOutcome × Bool :=
  let exact := decide (result.disposition = .presentValid ∧ result.observedBytes = some expected)
  if result.outcome = .ok then
    if exact then (.ok, true) else (.readbackFailed, false)
  else (result.outcome, exact)

/-- `_post_write`, after the `k`th write of the operation. -/
def postWrite (session : MutationSession) (k : Nat) : Call PersistenceOutcome := do
  let validation ← session.validateAfter k
  if validation ≠ .valid then return .leaseDrift
  else
    let durability ← session.parentDurable k
    if durability ≠ .verified then return .durabilityFailed
    else return .ok

/-- What follows every write. `onOk` is the lifecycle once the write is known to be good, `onPost` what the
checks after the write make of it, `onExact` the lifecycle when the write failed and yet the record is
there. A failed write that may have left something makes the leaf invalid. -/
def afterWrite (session : MutationSession) (k : Nat) (lifecycle onOk onExact : Lifecycle)
    (onPost : PersistenceOutcome → Lifecycle) (store : Store) (expected : Bytes) (written : Call WriteResult) :
    Ran PersistenceOutcome :=
  match written with
  | .error e => ⟨lifecycle, store, .error e⟩
  | .ok result =>
    match writeStatus result expected with
    | (.ok, _) =>
      match postWrite session k with
      | .error e => ⟨onOk, store, .error e⟩
      | .ok outcome => ⟨onPost outcome, store, .ok outcome⟩
    | (outcome, true) => ⟨onExact, store, .ok outcome⟩
    | (outcome, false) =>
      if result.disposition = .zeroWrite then ⟨lifecycle, store, .ok outcome⟩
      else ⟨{ lifecycle with state := .presentInvalid }, store, .ok outcome⟩

/-! ## `prepare` -/

/-- The end of `prepare`: the pending record is replaced by the prepared one. -/
def prepareReplace (session : MutationSession) (persistence : CanonicalAuthorityPersistence)
    (lifecycle : Lifecycle) (store : Store) (pending : Bytes) (attestation : PreparedBindingAttestation) :
    Ran PersistenceOutcome :=
  let prepared := record .prepared (preparedValues hash attestation (lifecycle.epochDigest hash) pending)
  let written := persistence.casExact .prepared (store .prepared) pending prepared
  let onOk := { lifecycle with prepared := some prepared, state := .prepared }
  afterWrite session 1 lifecycle onOk { lifecycle with prepared := some prepared, state := .preparedNonlaunchable }
    (fun outcome => if outcome = .ok then onOk else
      { onOk with livePrepared := false, state := .preparedNonlaunchable })
    (Function.update store .prepared written.2) prepared written.1

/-- The middle of `prepare`: the supervisor attests to the pending record, for the approved triple. -/
def prepareAttest (session : MutationSession) (persistence : CanonicalAuthorityPersistence)
    (lifecycle : Lifecycle) (store : Store) (pending : Bytes) (approved : ApprovedRP2Triple) :
    Ran PersistenceOutcome :=
  match session.attestPending with
  | .error e => ⟨lifecycle, store, .error e⟩
  | .ok none => ⟨lifecycle, store, .ok .attestationFailed⟩
  | .ok (some attestation) =>
    if attestation.valid && attestation.staticBindingsDigest = approved.staticBindingsDigest &&
        attestation.bindingSchemaDigest = approved.bindingSchemaCanonicalSha256 &&
        attestation.manifestSha256 = approved.candidateExactBytesSha256 then
      match session.validateBefore 1 with
      | .error e => ⟨lifecycle, store, .error e⟩
      | .ok .valid => prepareReplace hash session persistence lifecycle store pending attestation
      | .ok _ => ⟨lifecycle, store, .ok .leaseDrift⟩
    else ⟨lifecycle, store, .ok .attestationFailed⟩

/-- The start of `prepare`: the pending record is created. -/
def prepareCreate (session : MutationSession) (persistence : CanonicalAuthorityPersistence)
    (lifecycle : Lifecycle) (store : Store) (approved : ApprovedRP2Triple) : Ran PersistenceOutcome :=
  let pending := record .pending (pendingValues approved (lifecycle.epochDigest hash))
  let written := persistence.createExact .prepared (store .prepared) pending
  let onOk := { lifecycle with pending := some pending, state := .pending }
  let ran := afterWrite session 0 lifecycle onOk onOk (fun _ => onOk) (Function.update store .prepared written.2)
    pending written.1
  match ran.result with
  | .ok .ok => prepareAttest hash session persistence ran.lifecycle ran.store pending approved
  | _ => ran

def prepareBody (persistence : CanonicalAuthorityPersistence) (lifecycle : Lifecycle) (store : Store)
    (session : MutationSession) : Ran PersistenceOutcome :=
  match persistence.inspect .prepared (store .prepared) with
  | .error e => ⟨lifecycle, store, .error e⟩
  | .ok inspection =>
    if inspection.state ≠ .absent then
      ⟨{ lifecycle with state := inspection.state }, store, .ok .createFailed⟩
    else if inspection.record ≠ none then
      ⟨{ lifecycle with state := .presentInvalid }, store, .ok .createFailed⟩
    else
      match session.attestA0BeforePending with
      | .error e => ⟨lifecycle, store, .error e⟩
      | .ok none => ⟨lifecycle, store, .ok .attestationFailed⟩
      | .ok (some approved) =>
        if approved.valid then
          prepareCreate hash session persistence { lifecycle with approvedRp2 := some approved } store approved
        else ⟨lifecycle, store, .ok .attestationFailed⟩

def prepareSettle (clean : Bool) (outcome : PersistenceOutcome) (lifecycle : Lifecycle) :
    Lifecycle × PersistenceOutcome :=
  if !clean then
    (if lifecycle.state = .prepared then { lifecycle with state := .preparedNonlaunchable } else lifecycle,
      .cleanupFailed)
  else if outcome = .ok ∧ lifecycle.state = .prepared then ({ lifecycle with livePrepared := true }, outcome)
  else (lifecycle, outcome)

def prepare (env : Environment) (lifecycle : Lifecycle) (store : Store) : Ran PersistenceOutcome :=
  if lifecycle.state ≠ .absent then ⟨lifecycle, store, .ok .inputInvalid⟩
  else mutation env lifecycle store (prepareBody hash env.persistence lifecycle store) prepareSettle

/-! ## `consume` -/

def withinPreparedWindow (preparedGet : Getter) (nowUnixNs : Int) : Bool :=
  match preparedGet.int "issued_unix_ns", preparedGet.int "expires_unix_ns" with
  | some issued, some expires => issued ≤ nowUnixNs && nowUnixNs ≤ expires
  | _, _ => false

/-- `_unix_clock_ns`, or -1 when it raises. -/
def Environment.nowUnixNs (env : Environment) : Int :=
  match env.unixClockNs with
  | .ok now => now
  | .error _ => -1

def consumeBody (persistence : CanonicalAuthorityPersistence) (lifecycle : Lifecycle) (store : Store)
    (prepared : Bytes) (preparedGet : Getter) (session : MutationSession) : Ran PersistenceOutcome :=
  match persistence.inspect .prepared (store .prepared) with
  | .error e => ⟨lifecycle, store, .error e⟩
  | .ok inspection =>
    if inspection.record ≠ some prepared then
      ⟨{ lifecycle with state := .presentInvalid }, store, .ok .casMismatch⟩
    else if preparedGet "epoch_digest" ≠ some (.str (lifecycle.epochDigest hash)) then
      ⟨{ lifecycle with state := .stalePreparedNonlaunchable }, store, .ok .casMismatch⟩
    else
      let consumed := record .consumed (consumedValues hash preparedGet (lifecycle.epochDigest hash) prepared)
      let written := persistence.casExact .prepared (store .prepared) prepared consumed
      let onOk := { lifecycle with consumed := some consumed, state := .consumedNoGrant }
      afterWrite session 0 lifecycle onOk onOk (fun _ => onOk) (Function.update store .prepared written.2)
        consumed written.1

def consumeSettle (clean : Bool) (outcome : PersistenceOutcome) (lifecycle : Lifecycle) :
    Lifecycle × PersistenceOutcome :=
  if !clean then (lifecycle, .cleanupFailed)
  else if outcome = .ok ∧ lifecycle.state = .consumedNoGrant then ({ lifecycle with liveConsumed := true }, outcome)
  else (lifecycle, outcome)

def consume (env : Environment) (lifecycle : Lifecycle) (store : Store) : Ran PersistenceOutcome :=
  match lifecycle.prepared with
  | none => ⟨lifecycle, store, .ok .casMismatch⟩
  | some prepared =>
    if lifecycle.state ≠ .prepared ∨ lifecycle.livePrepared = false then ⟨lifecycle, store, .ok .casMismatch⟩
    else
      match validatedRecordOf hash .prepared (some prepared) with
      | none =>
        ⟨{ lifecycle with livePrepared := false, state := .stalePreparedNonlaunchable }, store, .ok .casMismatch⟩
      | some preparedFields =>
        if withinPreparedWindow (getter preparedFields) env.nowUnixNs then
          mutation env lifecycle store
            (consumeBody hash env.persistence lifecycle store prepared (getter preparedFields)) consumeSettle
        else
          ⟨{ lifecycle with livePrepared := false, state := .stalePreparedNonlaunchable }, store,
            .ok .casMismatch⟩

/-! ## Grants -/

/-- The last part of `issue_grant`: the record of a grant with the given raw capability is created. -/
def issueCreate (session : MutationSession) (persistence : CanonicalAuthorityPersistence)
    (lifecycle : Lifecycle) (store : Store) (binding : WorkerGrantBindingAttestation) (consumed : Bytes)
    (issuedMonotonicNs : Int) (raw : List UInt8) : Ran PersistenceOutcome :=
  let digest := hash.hexdigest (.raw raw)
  let grantRecord := record .grantIssued
    (issuedValues hash binding consumed (lifecycle.epochDigest hash) digest issuedMonotonicNs)
  let written := persistence.createExact .grant (store .grant) grantRecord
  let onOk := { lifecycle with grantRecord := some grantRecord, state := .issued }
  -- an exception in `_post_write` comes before the grant is kept
  let onPost := { onOk with
    grant := some ⟨digest, issuedMonotonicNs, issuedMonotonicNs + workerGrantTtlNs, false⟩ }
  afterWrite session 0 lifecycle onOk onPost (fun _ => onPost) (Function.update store .grant written.2)
    grantRecord written.1

/-- The result of the body of `issue_grant` carries the raw capability with the outcome. -/
def issueBody (env : Environment) (lifecycle : Lifecycle) (store : Store)
    (binding : WorkerGrantBindingAttestation) (consumed : Bytes) (session : MutationSession) :
    Ran (PersistenceOutcome × Option (List UInt8)) :=
  match env.persistence.inspect .prepared (store .prepared), env.persistence.inspect .grant (store .grant) with
  | .ok consumedLeaf, .ok grantLeaf =>
    if consumedLeaf.record ≠ some consumed ∨ grantLeaf.record ≠ none then
      ⟨lifecycle, store, .ok (.casMismatch, none)⟩
    else
      match env.clockNs with
      | .error e => ⟨lifecycle, store, .error e⟩
      | .ok issuedMonotonicNs =>
        if issuedMonotonicNs < 0 ∨ maxSignedNs - workerGrantTtlNs < issuedMonotonicNs then
          ⟨lifecycle, store, .ok (.grantNotAuthorized, none)⟩
        else
          match env.grantEntropy with
          | .error _ => ⟨lifecycle, store, .ok (.grantEntropyFailed, none)⟩
          | .ok raw =>
            if raw.length ≠ 32 then ⟨lifecycle, store, .ok (.grantEntropyFailed, some raw)⟩
            else
              let ran := issueCreate hash session env.persistence lifecycle store binding consumed
                issuedMonotonicNs raw
              ⟨ran.lifecycle, ran.store, ran.result.map fun outcome => (outcome, some raw)⟩
  | _, _ => ⟨lifecycle, store, .error .raised⟩

def issueSettle (clean : Bool) (issued : PersistenceOutcome × Option (List UInt8)) (lifecycle : Lifecycle) :
    Lifecycle × PersistenceOutcome :=
  if !clean then ({ lifecycle with grantRaw := none }, .cleanupFailed)
  else if issued.1 = .ok then ({ lifecycle with grantRaw := issued.2 }, .ok)
  else ({ lifecycle with grantRaw := none }, issued.1)

/-- The checks that `issue_grant` makes before it asks for the guard: the consumed record. -/
def issueAuthorized (lifecycle : Lifecycle) (binding : WorkerGrantBindingAttestation) : Option Bytes :=
  match lifecycle.prepared, lifecycle.consumed with
  | some prepared, some consumed =>
    if binding.valid = true ∧ binding.preparedAuthorityDigest = hash.hexdigest prepared ∧
        lifecycle.state = .consumedNoGrant ∧ lifecycle.liveConsumed = true then some consumed
    else none
  | _, _ => none

def issueGrant (env : Environment) (lifecycle : Lifecycle) (store : Store)
    (binding : WorkerGrantBindingAttestation) : Ran PersistenceOutcome :=
  match issueAuthorized hash lifecycle binding with
  | none => ⟨lifecycle, store, .ok .grantNotAuthorized⟩
  | some consumed =>
    mutation env lifecycle store (issueBody hash env lifecycle store binding consumed) issueSettle

def takeGrantCapability (lifecycle : Lifecycle) : Lifecycle × Option (List UInt8) :=
  match lifecycle.grantRaw with
  | none => (lifecycle, none)
  | some raw =>
    if lifecycle.state ≠ .issued ∨ lifecycle.grantHandedOff = true then (lifecycle, none)
    else ({ lifecycle with grantHandedOff := true }, some raw)

/-- `authorize_grant`; the clock is read first. -/
def authorizeGrant (env : Environment) (lifecycle : Lifecycle) (presentedRaw : List UInt8) :
    Lifecycle × Call PersistenceOutcome :=
  match env.clockNs, lifecycle.grant with
  | .error e, _ => (lifecycle, .error e)
  | .ok _, none => (lifecycle, .ok .grantNotAuthorized)
  | .ok now, some grant =>
    if lifecycle.state ≠ .issued ∨ lifecycle.grantHandedOff = false ∨ grant.used = true ∨
        now < grant.issuedMonotonicNs ∨ grant.expiresMonotonicNs < now ∨ presentedRaw.length ≠ 32 ∨
        hash.hexdigest (.raw presentedRaw) ≠ grant.digest then
      (lifecycle, .ok .grantNotAuthorized)
    else ({ lifecycle with grant := some { grant with used := true } }, .ok .ok)

def revokeBody (persistence : CanonicalAuthorityPersistence) (lifecycle : Lifecycle) (store : Store)
    (grant : CanonicalGrantInspection) (grantRecord consumed : Bytes) (session : MutationSession) :
    Ran PersistenceOutcome :=
  match persistence.inspect .grant (store .grant) with
  | .error e => ⟨lifecycle, store, .error e⟩
  | .ok inspection =>
    if inspection.record ≠ some grantRecord then ⟨lifecycle, store, .ok .casMismatch⟩
    else
      match validatedRecordOf hash .grantIssued (some grantRecord) with
      | none => ⟨lifecycle, store, .ok .casMismatch⟩
      | some issuedFields =>
        let revoked := record .grantRevoked (revokedValues hash (getter issuedFields) consumed
          (lifecycle.epochDigest hash) grant grantRecord)
        let written := persistence.casExact .grant (store .grant) grantRecord revoked
        let onOk := { lifecycle with grantRecord := some revoked, state := .revokedTerminalPending }
        afterWrite session 0 lifecycle onOk onOk (fun _ => onOk) (Function.update store .grant written.2)
          revoked written.1

def revokeSettle (clean : Bool) (outcome : PersistenceOutcome) (lifecycle : Lifecycle) :
    Lifecycle × PersistenceOutcome :=
  (lifecycle, if clean then outcome else .cleanupFailed)

/-- `revoke_grant`; the capability is withdrawn before the guard is asked for. -/
def revokeGrant (env : Environment) (lifecycle : Lifecycle) (store : Store) : Ran PersistenceOutcome :=
  match lifecycle.grant, lifecycle.grantRecord, lifecycle.consumed with
  | some grant, some grantRecord, some consumed =>
    if lifecycle.state ≠ .issued then ⟨lifecycle, store, .ok .grantNotAuthorized⟩
    else
      let lifecycle := { lifecycle with grantRaw := none, grantHandedOff := true }
      mutation env lifecycle store (revokeBody hash env.persistence lifecycle store grant grantRecord consumed)
        revokeSettle
  | _, _, _ => ⟨lifecycle, store, .ok .grantNotAuthorized⟩

/-! ## `terminalize` -/

/-- The checks that `terminalize` makes before it asks for the guard: the disposition and the consumed
record. -/
def terminalAuthorized (lifecycle : Lifecycle) (binding : TerminalBindingAttestation) :
    Except PersistenceOutcome (GrantDisposition × Bytes) :=
  if !binding.valid hash then .error .terminalNotAuthorized
  else if lifecycle.state = .terminal ∨ lifecycle.state = .terminalDurabilityUnverified then
    .error .terminalAlreadyPresent
  else do
    let disposition ← orError .terminalNotAuthorized <|
      match lifecycle.state with
      | .consumedNoGrant => some .notIssued
      | .revokedTerminalPending => some .revoked
      | _ => none
    let consumed ← orError .terminalNotAuthorized lifecycle.consumed
    let consumedFields ← orError .terminalNotAuthorized (validatedRecordOf hash .consumed (some consumed))
    let revokedRecord := if disposition = .revoked then lifecycle.grantRecord else none
    require (terminalReceiptMatchesLifecycle hash (getter binding.recordFields) (getter consumedFields)
      revokedRecord = true) .terminalNotAuthorized
    return (disposition, consumed)

/-- The last part of `terminalize`: the terminal record is created. -/
def terminalCreate (session : MutationSession) (persistence : CanonicalAuthorityPersistence)
    (lifecycle : Lifecycle) (store : Store) (binding : TerminalBindingAttestation)
    (disposition : GrantDisposition) (consumed : Bytes) (grantRecord : Option Bytes) : Ran PersistenceOutcome :=
  let terminal := record .terminal (terminalValues hash binding consumed disposition grantRecord)
  let written := persistence.createExact .terminal (store .terminal) terminal
  let onOk := { lifecycle with state := .terminal }
  let unverified := { lifecycle with state := .terminalDurabilityUnverified }
  afterWrite session 0 lifecycle onOk unverified (fun outcome => if outcome = .ok then onOk else unverified)
    (Function.update store .terminal written.2) terminal written.1

def terminalizeBody (persistence : CanonicalAuthorityPersistence) (lifecycle : Lifecycle) (store : Store)
    (binding : TerminalBindingAttestation) (disposition : GrantDisposition) (consumed : Bytes)
    (session : MutationSession) : Ran PersistenceOutcome :=
  match persistence.inspect .prepared (store .prepared), persistence.inspect .terminal (store .terminal) with
  | .ok consumedLeaf, .ok terminalLeaf =>
    if consumedLeaf.record ≠ some consumed then ⟨lifecycle, store, .ok .casMismatch⟩
    else if terminalLeaf.record ≠ none then ⟨lifecycle, store, .ok .terminalAlreadyPresent⟩
    else
      match disposition with
      | .notIssued => terminalCreate hash session persistence lifecycle store binding .notIssued consumed none
      | .revoked =>
        match persistence.inspect .grant (store .grant) with
        | .error e => ⟨lifecycle, store, .error e⟩
        | .ok grantLeaf =>
          if grantLeaf.record ≠ lifecycle.grantRecord then ⟨lifecycle, store, .ok .casMismatch⟩
          else
            terminalCreate hash session persistence lifecycle store binding .revoked consumed
              lifecycle.grantRecord
  | _, _ => ⟨lifecycle, store, .error .raised⟩

def terminalizeSettle (clean : Bool) (outcome : PersistenceOutcome) (lifecycle : Lifecycle) :
    Lifecycle × PersistenceOutcome :=
  if !clean then
    (if lifecycle.state = .terminal then { lifecycle with state := .terminalDurabilityUnverified } else lifecycle,
      .cleanupFailed)
  else (lifecycle, outcome)

def terminalize (env : Environment) (lifecycle : Lifecycle) (store : Store)
    (binding : TerminalBindingAttestation) : Ran PersistenceOutcome :=
  match terminalAuthorized hash lifecycle binding with
  | .error outcome => ⟨lifecycle, store, .ok outcome⟩
  | .ok (disposition, consumed) =>
    mutation env lifecycle store
      (terminalizeBody hash env.persistence lifecycle store binding disposition consumed) terminalizeSettle

/-! ## `_load_existing_state` -/

def terminalBelongs (terminalGet preparedGet : Getter) (prepared : Bytes) (grant : Option Bytes) : Bool :=
  if terminalGet "grant_disposition" = some (.str GrantDisposition.notIssued.value) then
    grant = none && terminalReceiptMatchesLifecycle hash terminalGet preparedGet none
  else
    match grant, validatedRecordOf hash .grantRevoked grant with
    | some grantRecord, some grantFields =>
      terminalGet "grant_record_digest" = some (.str (hash.hexdigest grantRecord)) &&
        getter grantFields "consumed_digest" = some (.str (hash.hexdigest prepared)) &&
        getter grantFields "epoch_digest" = preparedGet "epoch_digest" &&
        terminalReceiptMatchesLifecycle hash terminalGet preparedGet grant
    | _, _ => false

def loadTerminal (prepared grant : Option Bytes) (terminal : CanonicalInspection) : CanonicalLifecycleState :=
  match validatedRecordOf hash .terminal terminal.record, prepared, validatedRecordOf hash .consumed prepared with
  | some terminalFields, some preparedRecord, some preparedFields =>
    if getter terminalFields "consumed_digest" = some (.str (hash.hexdigest preparedRecord)) &&
        terminalBelongs hash (getter terminalFields) (getter preparedFields) preparedRecord grant then
      if terminal.durability = .verified then .terminal else .terminalDurabilityUnverified
    else .presentInvalid
  | _, _, _ => .presentInvalid

def loadGrantInspection (consumed : Bytes) (consumedGet grantGet : Getter) : Option CanonicalGrantInspection :=
  match grantGet.str "grant_digest", grantGet.int "issued_monotonic_ns", grantGet.int "expires_monotonic_ns" with
  | some digest, some issued, some expires =>
    if isHexDigest digest && grantGet "consumed_digest" = some (.str (hash.hexdigest consumed)) &&
        grantGet "epoch_digest" = consumedGet "epoch_digest" then
      some ⟨digest, issued, expires, false⟩
    else none
  | _, _, _ => none

/-- The end of `_load_existing_state`, over a consumed record and no terminal one. -/
def loadConsumed (lifecycle : Lifecycle) (consumed : Bytes) (consumedGet : Getter) (grant : Option Bytes) :
    Lifecycle :=
  let lifecycle := { lifecycle with consumed := some consumed }
  match grant with
  | none => { lifecycle with state := .consumedNoGrant }
  | some grantRecord =>
    match validatedRecord hash (some grantRecord) with
    | none => { lifecycle with state := .presentInvalid }
    | some (domain, grantFields) =>
      match loadGrantInspection hash consumed consumedGet (getter grantFields) with
      | none => { lifecycle with state := .presentInvalid }
      | some inspection =>
        { lifecycle with
          grant := some inspection
          grantRecord := some grantRecord
          state := match domain with
            | .grantIssued => .issued
            | .grantRevoked => .revokedTerminalPending
            | _ => .presentInvalid }

/-- The state that `_load_existing_state` makes of three inspections. -/
def loadInspections (lifecycle : Lifecycle) (prepared grant terminal : CanonicalInspection) : Lifecycle :=
  match [prepared, grant, terminal].find? fun i => i.record = none ∧ i.state ≠ .absent with
  | some inspection =>
    { lifecycle with
      state := if inspection.state = .presentInvalid then .presentInvalid else .unknownNonlaunchable }
  | none =>
    if terminal.record ≠ none then
      { lifecycle with state := loadTerminal hash prepared.record grant.record terminal }
    else
      match prepared.record with
      | none => { lifecycle with state := if grant.record = none then .absent else .presentInvalid }
      | some preparedRecord =>
        match validatedRecord hash (some preparedRecord) with
        | some (.pending, _) => { lifecycle with pending := some preparedRecord, state := .pending }
        | some (.prepared, _) =>
          { lifecycle with prepared := some preparedRecord, state := .stalePreparedNonlaunchable }
        | some (.consumed, fields) => loadConsumed hash lifecycle preparedRecord (getter fields) grant.record
        | _ => { lifecycle with state := .presentInvalid }

def inspectLeaves (owner : OwnerStatus) (session : MutationSession) (persistence : CanonicalAuthorityPersistence)
    (store : Store) : Call (Option (CanonicalInspection × CanonicalInspection × CanonicalInspection)) :=
  if owner = .acquired ∨ owner = .abandonedInspectionOnly then do
    let validation ← session.validateBefore 0
    if validation ≠ .valid then return none
    else
      let prepared ← persistence.inspect .prepared (store .prepared)
      let grant ← persistence.inspect .grant (store .grant)
      let terminal ← persistence.inspect .terminal (store .terminal)
      return some (prepared, grant, terminal)
  else return none

def loadExistingState (env : Environment) (lifecycle : Lifecycle) (store : Store) : Call Lifecycle := do
  let begun ← env.begin
  match begun.session with
  | none => return lifecycle
  | some session =>
    let inspections ← inspectLeaves begun.owner session env.persistence store
    let report ← finish session
    match inspections with
    | none => return lifecycle
    | some (prepared, grant, terminal) =>
      if !cleanupIsClean report then return lifecycle
      else return loadInspections hash lifecycle prepared grant terminal

/-- `__init__`: the process epoch is exactly 32 bytes of entropy. -/
def construct (env : Environment) (epoch : List UInt8) (store : Store) : Call Lifecycle :=
  if epoch.length ≠ 32 then .error .raised else loadExistingState hash env { epoch } store

end PduExamObserver.Authority
