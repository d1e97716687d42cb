import PduExamObserver.Native.RunConsumed

/-! # The preparation

`NativePreflightService.prepare`: it records a pending authority for the one camera and the leased executable,
closes everything, and only then makes the record a prepared one. -/

namespace PduExamObserver.Native
open Authority
set_option autoImplicit false

variable (rt : Runtime)

structure PrepareCalls where
  namedMutex : Except Raised Unit
  acquire : Acquire Bool
  load : Except Raised (Option PreparedAuthority)
  prerequisites : Bool
  cameras : Except Raised (List CameraCandidate)
  authority : Acquire FfmpegAuthority
  identity : Option (Except Raised (Int × String))
  executableSha256 : Except Raised String
  /-- the two results of `secrets.token_hex(32)` -/
  opaqueDeviceToken : String
  authorizationNonce : String
  save : Except Raised Unit
  liveness : Except Raised Bool
  closing : ClosingCalls
  finalize : Except Raised Bool

/-- What the `try` block of a preparation leaves. -/
structure PrepareAttempt where
  named : Bool := false
  acquired : Bool := false
  prepared : Option PreparedAuthority := none
  outcome : NativeOutcome := .noGo
  failure : Option NativeFailure
  mediaUsed : Bool := false
  /-- `ffmpeg_lease_opened` -/
  leaseFlag : Bool := false
  leaseOpened : Bool := false

/-- The two `except` clauses. -/
def prepareFailure : Raised → NativeFailure
  | .valueError => .schemaIncompatible
  | _ => .unknownTechnicalFailure

namespace PrepareAttempt

def failed (run : PrepareAttempt) (failure : NativeFailure) : PrepareAttempt :=
  { run with outcome := .noGo, failure := some failure }

def excepted (run : PrepareAttempt) (raised : Raised) : PrepareAttempt := run.failed (prepareFailure raised)

end PrepareAttempt

namespace PrepareCalls

variable (calls : PrepareCalls)

def platformIdentity (authority : FfmpegAuthority) : Except Raised (Int × String) :=
  platformFfmpegIdentity rt calls.identity authority

def leaseOpened : Bool := calls.authority.obtained && calls.closing.closeLease.isSome

def pending (authority : FfmpegAuthority) (size : Int) (identity : String) : PreparedAuthority where
  schemaVersion := 2
  opaqueDeviceToken := calls.opaqueDeviceToken
  authorityRevision := Native.authorityRevision
  state := .pending
  ffmpegSha256 := authority.sha256
  ffmpegVersion := authority.version
  ffmpegSizeBytes := size
  ffmpegIdentityDigest := identity
  authorizationNonce := calls.authorizationNonce

def saveAndTry (run : PrepareAttempt) (prepared : PreparedAuthority) : PrepareAttempt :=
  let run := { run with prepared := some prepared }
  match calls.save with
  | .error raised => run.excepted raised
  | .ok _ =>
    let run := { run with mediaUsed := true }
    match calls.liveness with
    | .error raised => run.excepted raised
    | .ok true => { run with failure := none }
    | .ok false => run.failed .poseEngineUnavailable

def attemptLease (run : PrepareAttempt) : PrepareAttempt :=
  let run := { run with leaseOpened := calls.leaseOpened }
  match calls.authority.answer with
  | .error raised => run.excepted raised
  | .ok authority =>
    let run := { run with leaseFlag := true }
    match calls.platformIdentity rt authority with
    | .error raised => run.excepted raised
    | .ok (size, identity) =>
      if !isHexDigest authority.sha256 then run.failed .schemaIncompatible
      else
        match calls.executableSha256 with
        | .error raised => run.excepted raised
        | .ok executableDigest =>
          if executableDigest ≠ authority.sha256 then run.failed .schemaIncompatible
          else calls.saveAndTry run (calls.pending authority size identity)

def attemptNew (run : PrepareAttempt) : PrepareAttempt :=
  if !calls.prerequisites then run.failed .poseEngineUnavailable
  else
    match calls.cameras with
    | .error raised => run.excepted raised
    | .ok [camera] =>
      if camera.present && camera.statusOk && safeDirectshowName camera.friendlyName then calls.attemptLease rt run
      else run.failed .schemaIncompatible
    | .ok _ => run.failed .schemaIncompatible

/-- The `try` block. -/
def attempt : PrepareAttempt :=
  let run : PrepareAttempt := { failure := some .unknownTechnicalFailure }
  match calls.namedMutex with
  | .error raised => run.excepted raised
  | .ok _ =>
    let run := { run with named := true }
    match calls.acquire.answer with
    | .error raised => { run with acquired := calls.acquire.leaves }.excepted raised
    | .ok false => run.failed .schemaIncompatible
    | .ok true =>
      let run := { run with acquired := true }
      match calls.load with
      | .error raised => run.excepted raised
      | .ok none => calls.attemptNew rt run
      | .ok (some existing) =>
        if existing.IsValid ∧ existing.state = .prepared then
          { run with prepared := some existing, outcome := .prepared, failure := none }
        else run.failed .reauthorizationRequired

/-- The flags of the `finally` block. -/
structure Closed where
  media : Bool
  lease : Bool
  mutex : Bool

def Closed.clean (closed : Closed) : Bool := closed.media && closed.lease && closed.mutex

def closed (run : PrepareAttempt) : Closed where
  media := !run.mediaUsed || calls.closing.mediaClosed
  lease := !run.leaseFlag || calls.closing.ffmpegLeaseClosed
  mutex := run.named && calls.closing.mutexReleased

def PrepareAttempt.pending (run : PrepareAttempt) : Option PreparedAuthority :=
  if run.failure = none then run.prepared.filter fun prepared => prepared.state = .pending else none

def finalized (run : PrepareAttempt) : PrepareAttempt :=
  match PrepareAttempt.pending run with
  | none => run
  | some prepared =>
    if !(calls.closed run).clean then { run with failure := some .cleanupIncomplete }
    else
      match calls.finalize with
      | .ok true =>
        { run with prepared := some { prepared with state := .prepared }, outcome := .prepared }
      | .ok false => { run with failure := some .reauthorizationRequired }
      | .error _ => { run with failure := some .unknownTechnicalFailure }

structure Result where
  receipt : Except Raised NativeReceipt
  holdings : Holdings

def prepare : Result :=
  let run := calls.attempt rt
  let closed := calls.closed run
  let settled := calls.finalized run
  let settled :=
    if settled.outcome = .prepared && !closed.clean then settled.failed .cleanupIncomplete else settled
  { receipt :=
      issueReceipt rt settled.outcome settled.failure
        { prepared := settled.prepared
          mediaClosed := closed.media
          mutexReleased := closed.mutex
          ffmpegLeaseClosed := closed.lease }
    holdings := {
      mediaUsed := run.mediaUsed
      mediaClosed := run.mediaUsed && calls.closing.mediaClosed
      leaseOpened := run.leaseOpened
      leaseClosed := run.leaseFlag && calls.closing.ffmpegLeaseClosed
      mutexAcquired := run.acquired
      mutexReleases := if run.named && calls.closing.mutexReleased then 1 else 0 } }

end PrepareCalls

end PduExamObserver.Native
