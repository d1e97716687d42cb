import PduExamObserver.Native.D1N2Capture
import PduExamObserver.Native.FirstFrame
import PduExamObserver.Native.Prepare
import PduExamObserver.Native.VerifiedReceipts

/-! # What is released, and what the flags say

The release flags of a result are truthful when each flag that is set stands for a resource that is closed
again, or was never opened. The three functions are truthful apart from the lease of the executable: it is
lost where its probe raises, and two exits do not report that it could not be closed. -/

namespace PduExamObserver.Native
open Authority
set_option autoImplicit false

structure ReleaseFlags where
  media : Bool
  lease : Bool
  mutex : Bool
  child : Bool
  pipe : Bool
  reader : Bool

/-- A flag that is set is the truth; what is not closed is visible as a flag that is not set. -/
structure Truthful (held : Holdings) (flags : ReleaseFlags) : Prop where
  media : flags.media = true → held.mediaUsed = true → held.mediaClosed = true
  lease : flags.lease = true → held.leaseOpened = true → held.leaseClosed = true
  mutex : flags.mutex = true → held.mutexReleases = 1
  once : held.mutexReleases ≤ 1
  child : flags.child = true → held.childTerminated = true
  pipe : flags.pipe = true → held.pipeClosed = true
  reader : flags.reader = true → held.readerStarted = true → held.readerStopped = true

/-! ## The preparation -/

namespace PrepareCalls

variable (calls : PrepareCalls)

end PrepareCalls

section Prepare

variable {rt : Runtime} {calls : PrepareCalls}

end Prepare

/-! ## The local preflight -/

namespace CaptureCalls

variable (calls : CaptureCalls)

def Agrees (rt : Runtime) (prepared : PreparedAuthority) (authority : FfmpegAuthority) : Prop :=
  ∃ executableDigest size identity camera, calls.executableSha256 = .ok executableDigest
    ∧ calls.platformIdentity rt authority = .ok (size, identity) ∧ calls.cameras = .ok [camera]
    ∧ authorityMatches prepared executableDigest { camera, authority, size, identity } = true

end CaptureCalls

/-- The receipt that a local preflight returns: its candidate, or the receipt that `_terminalize` makes of it. -/
def Returns (rt : Runtime) (calls : CaptureCalls) (prepared : PreparedAuthority) (receipt : NativeReceipt) : Prop :=
  ∃ candidate, (calls.runConsumed rt prepared).candidate = .ok candidate
    ∧ (receipt = candidate
      ∨ ∃ nonce faults files files', terminalize rt prepared candidate nonce faults files = (files', .ok receipt))

section Local

variable {rt : Runtime} {calls : CaptureCalls} {prepared : PreparedAuthority} {receipt candidate : NativeReceipt}

end Local

/-! ## The D1-N2 capture -/

namespace CaptureCalls

end CaptureCalls

section D1N2

variable {calls : CaptureCalls} {attestation : PreparedBindingAttestation}

end D1N2

/-! ## The lease of a platform -/

section Lease

variable {lease : LeaseCalls}

end Lease

/-! ## The three functions -/

namespace Sample

def preparation (lease : LeaseCalls) : PrepareCalls where
  namedMutex := .ok ()
  acquire := { answer := .ok true }
  load := .ok none
  prerequisites := true
  cameras := .ok [camera]
  authority := lease.ffmpegAuthority
  identity := some (.ok (1000, digits '4'))
  executableSha256 := .ok (digits '2')
  opaqueDeviceToken := digits '7'
  authorizationNonce := digits '8'
  save := .ok ()
  liveness := .ok true
  closing := closing
  finalize := .ok true

def capture (lease : LeaseCalls) : CaptureCalls := { spoiled with authority := lease.d1n2FfmpegAuthority }

end Sample

end PduExamObserver.Native
