import PduExamObserver.Authority.Lifecycle
import PduExamObserver.Library.Stateful

/-! # `D1N2ExecutionBridge`

The authority, the driver and the source of the challenge are any functions of a world, so that a call may answer
or raise whatever the world makes of it. A run keeps a list of its calls with their answers. -/

namespace PduExamObserver.Authority
open Canonical Stateful
set_option autoImplicit false

/-- What a call raises: an `Exception`, or one of the others, such as `KeyboardInterrupt`. -/
inductive Thrown where
  | exception
  | interrupt
  deriving DecidableEq, Repr

abbrev Act (σ α : Type) := σ → Except Thrown α × σ

inductive D1N2DriverStatus where
  | completed
  | failed
  deriving DecidableEq, Repr

structure D1N2ExecutionRequest where
  grantCapability : List UInt8
  grantRecord : Bytes
  deviceName : String
  preparedAuthorityDigest : String
  rawChallenge : List UInt8
  preparedAttestation : Option PreparedBindingAttestation
  durationSeconds : Int := 60
  videoOnly : Bool := true
  retry : Bool := false

structure D1N2DriverResult where
  status : D1N2DriverStatus
  nativeSideEffectCount : Int
  workerSupervised : Bool
  jobDrained : Bool
  workerLeaseClosed : Bool
  receiptBytes : Option Bytes := none
  failureLedgerBytes : Option Bytes := none

structure ExecutionAuthority (σ : Type) where
  revalidateForRun : Act σ Bool
  consume : Act σ PersistenceOutcome
  issueGrant : WorkerGrantBindingAttestation → Act σ PersistenceOutcome
  takeGrantCapability : Act σ (Option (List UInt8))
  grantRecordBytes : Act σ (Option Bytes)
  authorizeGrant : List UInt8 → Act σ PersistenceOutcome
  revokeGrant : Act σ PersistenceOutcome
  closeRetainedForTerminal : Act σ (Option RetainedLeaseCleanup)
  terminalize : TerminalBindingAttestation → Act σ PersistenceOutcome

inductive D1N2ExecutionStatus where
  | terminal
  | failedNonlaunchable
  | alreadyUsed
  deriving DecidableEq, Repr

structure D1N2ExecutionResult where
  status : D1N2ExecutionStatus
  nativeSideEffectCount : Int := 0
  receiptDigest : Option String := none
  deriving DecidableEq, Repr

/-- What the module computes with: the hash, `str.isalnum`, `json.loads` of a dictionary of scalars, and the digests
of fixed texts. -/
structure NativeRuntime where
  hash : Sha256
  isAlnum : Char → Bool
  loads : Bytes → Option Decoded
  workerArgvDigest : String
  workerJobPolicyDigest : String
  capturePolicyDigest : String
  watchdogPolicyDigest : String

/-- The arguments of the constructor. The entropy source answers none when it is no byte string. -/
structure D1N2ExecutionBridge (σ : Type) where
  authority : ExecutionAuthority σ
  driver : D1N2ExecutionRequest → Act σ D1N2DriverResult
  deviceName : String
  preparedAuthorityDigest : String
  preparedAttestation : Option PreparedBindingAttestation
  challengeEntropy : Act σ (Option (List UInt8))

inductive BridgeCall where
  | revalidated (answer : Except Thrown Bool)
  | consumed (answer : Except Thrown PersistenceOutcome)
  | challenged (answer : Except Thrown (Option (List UInt8)))
  | issued (binding : WorkerGrantBindingAttestation) (answer : Except Thrown PersistenceOutcome)
  | taken (answer : Except Thrown (Option (List UInt8)))
  | recordRead (answer : Except Thrown (Option Bytes))
  | authorized (capability : List UInt8) (answer : Except Thrown PersistenceOutcome)
  | drove (request : D1N2ExecutionRequest) (answer : Except Thrown D1N2DriverResult)
  | revoked (answer : Except Thrown PersistenceOutcome)
  | closed (answer : Except Thrown (Option RetainedLeaseCleanup))
  | terminalized (binding : TerminalBindingAttestation) (answer : Except Thrown PersistenceOutcome)

/-! ## Helpers -/

def safeDeviceName (rt : NativeRuntime) (value : String) : Bool :=
  1 ≤ value.length ∧ value.length ≤ 128 ∧
    value.toList.all fun character => rt.isAlnum character || " _().-".toList.contains character

def hexDigits (byte : UInt8) : List Char :=
  ["0123456789abcdef".toList.getD (byte.toNat / 16) '0', "0123456789abcdef".toList.getD (byte.toNat % 16) '0']

/-- `bytes.hex`. -/
def hexText (octets : List UInt8) : String := String.ofList (octets.flatMap hexDigits)

def utf8 (text : String) : List UInt8 := text.toUTF8.toList

/-- `_d1n2_challenge_digest`. -/
def challengeDigest (rt : NativeRuntime) (challenge : String) : String :=
  rt.hash.hexdigest (.raw (utf8 "d1-n2-worker-challenge-v1" ++ [0] ++ utf8 challenge))

/-- `_d1n2_job_name_digest`; the text of 32 octets is a lower digest, so that `_d1n2_job_name` does not raise. -/
def jobNameDigest (rt : NativeRuntime) (challenge : String) : String :=
  rt.hash.hexdigest (.raw (utf8 "d1-n2-job-name-v1" ++ [0] ++ utf8 ("Local\\PDUExamObserver.D1N2.Capture." ++ challenge)))

def Bytes.isEmpty : Bytes → Bool
  | .raw [] => true
  | _ => false

/-- `dict.update`, up to the order of the keys. -/
def Decoded.update (decoded fields : Decoded) : Decoded :=
  decoded.filter (fun field => !(fields.map Prod.fst).contains field.1) ++ fields

/-! ## Locals and calls -/

/-- The world, the calls so far, and the locals of `run` that outlive its `try` block. -/
structure BridgeFrame (σ : Type) where
  world : σ
  calls : List BridgeCall := []
  grantAttempted : Bool := false
  grantIssued : Bool := false
  driverResult : Option D1N2DriverResult := none
  challengeDigest : String := ""
  jobNameDigest : String := ""

/-- How a block is left: by `return`, or by an exception. -/
inductive BridgeExit where
  | leaves (result : D1N2ExecutionResult)
  | thrown (thrown : Thrown)

abbrev BridgeM (σ : Type) := EStateM BridgeExit (BridgeFrame σ)

section Calls

variable {σ α : Type}

def BridgeFrame.called (frame : BridgeFrame σ) (world : σ) (call : BridgeCall) : BridgeFrame σ :=
  { frame with world, calls := frame.calls ++ [call] }

def bridgeCall (entry : Except Thrown α → BridgeCall) (act : Act σ α) : BridgeM σ α := fun frame =>
  match act frame.world with
  | (.ok answer, world) => .ok answer (frame.called world (entry (.ok answer)))
  | (.error thrown, world) => .error (.thrown thrown) (frame.called world (entry (.error thrown)))

def failedNonlaunchable : D1N2ExecutionResult := { status := .failedNonlaunchable }

/-- `return FAILED_NONLAUNCHABLE` unless the condition holds. -/
def proceedIf (p : Prop) [Decidable p] : BridgeM σ Unit :=
  if p then pure () else throw (.leaves failedNonlaunchable)

/-- The value, or `return FAILED_NONLAUNCHABLE`. -/
def proceedWith : Option α → BridgeM σ α
  | some a => pure a
  | none => throw (.leaves failedNonlaunchable)

/-- `try` with `except Exception`. -/
def exceptException (x : BridgeM σ α) (handle : BridgeM σ α) : BridgeM σ α :=
  tryCatch x fun
    | .thrown .exception => handle
    | exit => throw exit

end Calls

/-! ## `run` -/

namespace D1N2ExecutionBridge

variable {σ : Type} (rt : NativeRuntime) (bridge : D1N2ExecutionBridge σ)

def workerBinding (attestation : PreparedBindingAttestation) (challenge : String) : WorkerGrantBindingAttestation where
  preparedAuthorityDigest := bridge.preparedAuthorityDigest
  workerSha256 := attestation.supervisorSha256
  workerSizeBytes := attestation.supervisorSizeBytes
  workerIdentityDigest := attestation.supervisorIdentityDigest
  workerArgvDigest := rt.workerArgvDigest
  workerJobPolicyDigest := rt.workerJobPolicyDigest
  challengeDigest := challengeDigest rt challenge
  jobNameDigest := jobNameDigest rt challenge
  durationSeconds := 60
  videoOnly := true
  retry := false

/-- The `try` block, once the grant is issued. -/
def drive (rawChallenge : List UInt8) : BridgeM σ Unit := do
  let value ← bridgeCall .taken bridge.authority.takeGrantCapability
  let capability ← proceedWith (value.filter fun value => value.length = 32)
  let grant ← bridgeCall .recordRead bridge.authority.grantRecordBytes
  let grantRecord ← proceedWith (grant.filter fun grantRecord => !grantRecord.isEmpty)
  let authorized ← bridgeCall (.authorized capability) (bridge.authority.authorizeGrant capability)
  proceedIf (authorized = .ok)
  let request : D1N2ExecutionRequest :=
    { grantCapability := capability, grantRecord, deviceName := bridge.deviceName
      preparedAuthorityDigest := bridge.preparedAuthorityDigest, rawChallenge
      preparedAttestation := bridge.preparedAttestation }
  let result ← bridgeCall (.drove request) (bridge.driver request)
  modify fun frame => { frame with driverResult := some result }

/-- The `try` block. -/
def attempt : BridgeM σ Unit := do
  proceedIf (safeDeviceName rt bridge.deviceName = true ∧ isHexDigest bridge.preparedAuthorityDigest = true)
  let valid ← bridgeCall .revalidated bridge.authority.revalidateForRun
  proceedIf (valid = true)
  let consumed ← bridgeCall .consumed bridge.authority.consume
  proceedIf (consumed = .ok)
  let attestation ← proceedWith bridge.preparedAttestation
  let entropy ← bridgeCall .challenged bridge.challengeEntropy
  let rawChallenge ← proceedWith (entropy.filter fun raw => raw.length = 32)
  let challenge := hexText rawChallenge
  modify fun frame => { frame with
    challengeDigest := Authority.challengeDigest rt challenge
    jobNameDigest := Authority.jobNameDigest rt challenge
    grantAttempted := true }
  let binding := bridge.workerBinding rt attestation challenge
  let issued ← bridgeCall (.issued binding) (bridge.authority.issueGrant binding)
  proceedIf (issued = .ok)
  modify fun frame => { frame with grantIssued := true }
  bridge.drive rawChallenge

def recordPresent : BridgeM σ (Bool × Bool) := do
  let grant ← bridgeCall .recordRead bridge.authority.grantRecordBytes
  return (grant.isSome, true)

/-- Whether a grant is to be revoked, and `cleanup_ok` after asking. -/
def revokeNeeded : BridgeM σ (Bool × Bool) := do
  let frame ← get
  if frame.grantIssued then return (true, true)
  else if frame.grantAttempted then exceptException bridge.recordPresent (pure (false, false))
  else return (false, true)

def revokeOnce (cleanupOk : Bool) : BridgeM σ Bool := do
  let outcome ← bridgeCall .revoked bridge.authority.revokeGrant
  return decide (outcome = .ok) && cleanupOk

def revoke (needed cleanupOk : Bool) : BridgeM σ Bool :=
  if needed then exceptException (bridge.revokeOnce cleanupOk) (pure false) else pure cleanupOk

def boundReceipt (frame : BridgeFrame σ) (result : D1N2DriverResult) (revokedRecord : Option Bytes) :
    Option JsonText := do
  let receiptBytes ← result.receiptBytes
  let revoked ← revokedRecord.filter fun revoked => !revoked.isEmpty
  let attestation ← bridge.preparedAttestation
  let candidate ← rt.loads receiptBytes
  return .object (sortKeys (candidate.update (ReceiptBindings.fields {
    authorityDigest := bridge.preparedAuthorityDigest
    grantRecordDigest := rt.hash.hexdigest revoked
    challengeDigest := frame.challengeDigest
    jobNameDigest := frame.jobNameDigest
    staticBindingsDigest := attestation.staticBindingsDigest
    capturePolicyDigest := rt.capturePolicyDigest
    watchdogPolicyDigest := rt.watchdogPolicyDigest
    runtimeDigest := attestation.dependencyObservationDigest
    poseModelSha256 := attestation.poseModelSha256
    faceModelSha256 := attestation.faceModelSha256 })))

def terminalEvidence (frame : BridgeFrame σ) (cleanupOk : Bool) (revokedRecord : Option Bytes)
    (retained : Option RetainedLeaseCleanup) : Option (D1N2DriverResult × VerifiedTerminalEvidence) := do
  let cleanup ← retained
  let result ← frame.driverResult
  if !cleanupOk then none
  else
    let receipt ← bridge.boundReceipt rt frame result revokedRecord
    match result.failureLedgerBytes with
    | some (.text ledger) =>
      let evidence ← buildVerifiedTerminalEvidence rt.hash receipt ledger cleanup
      return (result, evidence)
    | _ => none

def revokedRecord : BridgeM σ (Option Bytes) := do
  let frame ← get
  if frame.grantIssued then bridgeCall .recordRead bridge.authority.grantRecordBytes else pure none

def terminalize (cleanupOk : Bool) (evidence : Option (D1N2DriverResult × VerifiedTerminalEvidence)) :
    BridgeM σ (Bool × Option String) :=
  match evidence with
  | none => pure (false, none)
  | some (result, evidence) => do
    let binding := TerminalBindingAttestation.fromEvidence evidence result.nativeSideEffectCount
    let outcome ← bridgeCall (.terminalized binding) (bridge.authority.terminalize binding)
    return (decide (outcome = .ok ∨ outcome = .terminalAlreadyPresent) && cleanupOk, some evidence.receiptDigest)

/-- The last part of the `finally` block: `cleanup_ok` and `terminal_receipt_digest`. -/
def settleOnce (cleanupOk : Bool) : BridgeM σ (Bool × Option String) := do
  let revoked ← bridge.revokedRecord
  let retained ← bridgeCall .closed bridge.authority.closeRetainedForTerminal
  let frame ← get
  bridge.terminalize cleanupOk (bridge.terminalEvidence rt frame cleanupOk revoked retained)

def settle (cleanupOk : Bool) : BridgeM σ (Bool × Option String) :=
  exceptException (bridge.settleOnce rt cleanupOk) (pure (false, none))

/-- The result of a run whose `try` block was not left by a `return`. -/
def conclude (driverResult : Option D1N2DriverResult) (cleanupOk : Bool) (receiptDigest : Option String) :
    D1N2ExecutionResult :=
  match driverResult with
  | none => failedNonlaunchable
  | some result =>
    if cleanupOk ∧ result.status = .completed ∧
        (result.nativeSideEffectCount = 0 ∨ result.nativeSideEffectCount = 1) ∧
        (receiptDigest.any isHexDigest) ∧ result.workerSupervised ∧ result.jobDrained ∧ result.workerLeaseClosed then
      { status := .terminal, nativeSideEffectCount := result.nativeSideEffectCount, receiptDigest }
    else { status := .failedNonlaunchable, nativeSideEffectCount := result.nativeSideEffectCount }

/-- The `try` block with its `except`: how it was left, if it was not run through. -/
def guardedAttempt : BridgeM σ (Option BridgeExit) :=
  tryCatch (do
    bridge.attempt rt
    return none) fun
    | .thrown .exception => do
      modify fun frame => { frame with driverResult := none }
      return none
    | exit => return some exit

/-- Everything after the check of `_used`. -/
def body : BridgeM σ D1N2ExecutionResult := do
  let exit ← bridge.guardedAttempt rt
  let (needed, asked) ← bridge.revokeNeeded
  let revoked ← bridge.revoke needed asked
  let (cleanupOk, receiptDigest) ← bridge.settle rt revoked
  match exit with
  | some exit => throw exit
  | none =>
    let frame ← get
    return conclude frame.driverResult cleanupOk receiptDigest

end D1N2ExecutionBridge

/-- A bridge over its life: `_used`, the world, and all calls. -/
structure BridgeLife (σ : Type) where
  used : Bool := false
  world : σ
  calls : List BridgeCall := []

def D1N2ExecutionBridge.run {σ : Type} (rt : NativeRuntime) (bridge : D1N2ExecutionBridge σ) (life : BridgeLife σ) :
    Except Thrown D1N2ExecutionResult × BridgeLife σ :=
  if life.used then (.ok { status := .alreadyUsed }, life)
  else
    match (bridge.body rt).run { world := life.world, calls := life.calls } with
    | .ok result frame => (.ok result, ⟨true, frame.world, frame.calls⟩)
    | .error (.leaves result) frame => (.ok result, ⟨true, frame.world, frame.calls⟩)
    | .error (.thrown thrown) frame => (.error thrown, ⟨true, frame.world, frame.calls⟩)

end PduExamObserver.Authority
