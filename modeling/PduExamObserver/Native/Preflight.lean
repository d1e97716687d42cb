import PduExamObserver.Native.RunConsumed
import PduExamObserver.Native.Store
import PduExamObserver.Native.Worker

/-! # The preflight call

`NativePreflightService.preflight`: it takes the prepared authority, lets a capture run or a supervised worker
make a receipt, and binds that receipt to the terminal record of the store. The three parts work on the files
as they find them; other services may write in between. -/

namespace PduExamObserver.Native
open Authority
set_option autoImplicit false

variable (rt : Runtime)

/-! ## Taking the authority -/

structure TakeCalls where
  loads : Bool := true
  loadsTerminal : Bool := true
  consume : Faults := {}

/-- `_receipt(NO_GO, failure)`, for a call that consumed nothing. -/
def refusal (failure : NativeFailure) : NativeReceipt := (draftReceipt rt .noGo (some failure) {}).issued rt

/-- `_take_prepared_authority`: the authority, or the receipt of the refusal. -/
def takePreparedAuthority (calls : TakeCalls) (files : Files) : Outcome (Except NativeReceipt PreparedAuthority) :=
  match files.load calls.loads with
  | .error _ | .ok none => (files, .ok (.error (refusal rt .schemaIncompatible)))
  | .ok (some prepared) =>
    if prepared.state ≠ .prepared then (files, .ok (.error (refusal rt .reauthorizationRequired)))
    else
      match files.loadTerminal rt calls.loadsTerminal with
      | .error _ => (files, .ok (.error (refusal rt .schemaIncompatible)))
      | .ok (some _) => (files, .ok (.error (refusal rt .reauthorizationRequired)))
      | .ok none =>
        match consume prepared calls.consume files with
        | (files, .ok true) => (files, .ok (.ok prepared))
        | (files, .ok false) => (files, .ok (.error (refusal rt .reauthorizationRequired)))
        | (files, .error .raised) => (files, .ok (.error (refusal rt .schemaIncompatible)))
        | (files, .error .crashed) => (files, .error .crashed)

/-! ## The supervised run -/

/-- `_receipt(NO_GO, failure, prepared=prepared, authority_consumed=True)`. -/
def consumedReceipt (prepared : PreparedAuthority) (failure : NativeFailure) : NativeReceipt :=
  (draftReceipt rt .noGo (some failure) { prepared := some prepared, authorityConsumed := true }).issued rt

structure SupervisedCalls where
  loads : Loads
  challenge : String
  probe : Except Raised FfmpegBinding
  closeProbe : Except Raised Bool
  newGrant : Except Raised WorkerGrant
  issue : Except Raised Bool
  launch : WorkerLaunch
  run : WorkerRun
  revoke : Except Raised Bool

namespace SupervisedCalls

variable (calls : SupervisedCalls)

def grantIssued : Except Raised WorkerGrant := do
  let _binding ← calls.probe
  require ((← calls.closeProbe) = true) .osError
  let grant ← calls.newGrant
  require ((← calls.issue) = true) .osError
  return grant

/-- The `try` block of `_supervised_preflight`. -/
def superviseWorker (prepared : PreparedAuthority) : Except Raised NativeReceipt := do
  let grant ← calls.grantIssued
  runWindowsCaptureWorker rt calls.loads prepared calls.challenge grant calls.launch calls.run

def passSupervisionInvalid (candidate : NativeReceipt) : Bool :=
  candidate.outcome = .preflightPass
    && !(candidate.captureWorkerSupervised && candidate.captureDeadlineEnforced && candidate.captureJobDrained
      && candidate.captureWorkerLeaseClosed)

def checkCandidate (prepared : PreparedAuthority) (candidate : NativeReceipt) : Except Raised NativeReceipt := do
  if passSupervisionInvalid candidate then return consumedReceipt rt prepared .workerProtocolFailure
  else if ← candidateSemanticsAreValid rt candidate then return candidate
  else return consumedReceipt rt prepared .workerProtocolFailure

/-- `_supervised_preflight`, before `_terminalize`. -/
def candidate (prepared : PreparedAuthority) : Except Raised NativeReceipt := do
  let proposed :=
    match calls.superviseWorker rt prepared with
    | .ok receipt => receipt
    | .error _ => consumedReceipt rt prepared .unknownTechnicalFailure
  let checked ← checkCandidate rt prepared proposed
  match calls.grantIssued, calls.revoke with
  | .error _, _ | _, .ok true => return checked
  | .ok _, _ => return consumedReceipt rt prepared .unknownTechnicalFailure

end SupervisedCalls

inductive PreflightRun where
  | localCapture (calls : CaptureCalls)
  | supervised (calls : SupervisedCalls)

def PreflightRun.candidate (run : PreflightRun) (prepared : PreparedAuthority) : Except Raised NativeReceipt :=
  match run with
  | .localCapture calls => (calls.runConsumed rt prepared).candidate
  | .supervised calls => calls.candidate rt prepared

/-! ## The terminal record -/

def NativeReceipt.unfinalized (receipt : NativeReceipt) : NativeReceipt :=
  NativeReceipt.issued rt
    { receipt with
      outcome := .noGo
      failureCode := some .authorityFinalizationFailed
      runNonce := none
      terminalReceiptDigest := none
      terminalStateDigest := none
      resultDigest := "" }

def terminalRequest (prepared : PreparedAuthority) (receipt : NativeReceipt) (runNonce : String) : TerminalRequest where
  prepared := prepared
  runNonce := runNonce
  receiptCoreDigest := NativeReceipt.recomputeCoreDigest rt { receipt with runNonce := some runNonce }
  outcome := receipt.outcome
  failure := receipt.failureCode

/-- `_terminalize`, of a service that does not defer it. -/
def terminalize (prepared : PreparedAuthority) (receipt : NativeReceipt) (runNonce : String) (faults : Faults)
    (files : Files) : Outcome NativeReceipt :=
  match finalizeTerminal rt (terminalRequest rt prepared receipt runNonce) faults files with
  | (files, .ok (some terminal)) => (files, .ok (receipt.sealedWith rt runNonce terminal.recordDigest))
  | (files, .error .crashed) => (files, .error .crashed)
  | (files, _) => (files, .ok (receipt.unfinalized rt))

/-! ## The durable verification -/

def NativeReceipt.matchesTerminal (receipt : NativeReceipt) (terminal : TerminalAuthority) : Bool :=
  receipt.preparedConfigDigest = some terminal.preparedConfigDigest
    && receipt.runNonce = some terminal.runNonce
    && receipt.terminalReceiptDigest = some terminal.receiptCoreDigest
    && terminal.outcome = receipt.outcome.value
    && terminal.failureCode = (receipt.failureCode.map NativeFailure.value).getD "NONE"
    && receipt.terminalStateDigest = some terminal.recordDigest
    && receipt.sourceSha256 = rt.sourceSha256
    && receipt.lockSha256 = rt.lockSha256
    && receipt.poseModelSha256 = Native.poseModelSha256
    && receipt.faceModelSha256 = Native.faceModelSha256
    && receipt.runtimeDependencyVersion = some "1.0.1"

/-- `_verify_terminal_receipt_with_store`, for files that can be read. -/
def verifyTerminalReceipt (receipt : NativeReceipt) (files : Files) : Except Raised Bool := do
  if !(← verifyReceiptSemantics rt receipt) || !receipt.authorityConsumed then return false
  match files.loadTerminal rt true with
  | .error _ | .ok none => return false
  | .ok (some terminal) => return receipt.matchesTerminal rt terminal

end PduExamObserver.Native
