import PduExamObserver.Library.Transition
import PduExamObserver.ResearchRuntime.Withdrawal

/-! # The runtime service

One process at a time owns the sessions of a root. Its threads run one locked section at a time; a call that
joins a worker between two sections is in flight there. A restart drops the memory and the calls, and recovers. -/

namespace PduExamObserver.ResearchRuntime
open Stateful Transition
set_option autoImplicit false

inductive Pending where
  | stop (joined : Bool)
  | withdraw (call : WithdrawCall)
  | export
  deriving DecidableEq

inductive Section where
  | preflight (requested : Option Diagnostic) (measured : Except RuntimeError Diagnostic)
  | startSyntheticDemo (fixtureName : String) (env : FixtureEnv)
  | startRealCollection (authorityReference : String) (answer : AuthorityAnswer)
  | ingestFrame (env : FrameEnv)
  | recordFocusContext (focus : Option Focus)
  | markContamination
  | captureFails (code : String) (closeRaises : Bool)
  | workerEnds
  | beginStop
  | finishStop (joined : Bool) (env : FinalizeEnv)
  | sealSession
  | review (request : ReviewRequest)
  | lock
  | beginExport (env : ExportEnv)
  | finishExport
  | beginWithdraw (authorityReference : String) (answer : AuthorityAnswer)
  | finishWithdraw (call : WithdrawCall) (env : RemovalEnv)
  | withdrawTestArtifacts (fault : Option Fault)

def Section.continues : Section → Option Pending
  | .finishStop joined _ => some (.stop joined)
  | .finishExport => some .export
  | .finishWithdraw call _ => some (.withdraw call)
  | _ => none

def Section.isCapture : Section → Bool
  | .captureFails .. => true
  | _ => false

def Section.ends : Section → Bool
  | .finishStop _ env => env.fault.any Fault.ends
  | .finishWithdraw _ env => env.fault.any Fault.ends
  | .withdrawTestArtifacts fault => fault.any Fault.ends
  | _ => false

/-- A section; `active` says that some session records or some capture thread is alive. -/
def perform (setup : Setup) (active : Bool) : Section → Op (Option Pending)
  | .preflight requested measured => do preflight requested measured; return none
  | .startSyntheticDemo fixtureName env => do startSyntheticDemo setup active fixtureName env; return none
  | .startRealCollection reference answer => do startRealCollection setup active reference answer; return none
  | .ingestFrame env => do ingestFrame setup env; return none
  | .recordFocusContext focus => do recordFocusContext focus; return none
  | .markContamination => do markContamination; return none
  | .captureFails code closeRaises => do captureFails code closeRaises; return none
  | .workerEnds => do workerEnds; return none
  | .beginStop => do return some (.stop (← beginStop))
  | .finishStop joined env => do finishStop setup joined env; return none
  | .sealSession => do sealSession setup; return none
  | .review request => do let _ ← review setup request; return none
  | .lock => do lock; return none
  | .beginExport env => do beginExport setup env; return some .export
  | .finishExport => do finishExport; return none
  | .beginWithdraw reference answer => do return some (.withdraw (← beginWithdraw setup reference answer))
  | .finishWithdraw call env => do finishWithdraw setup call env; return none
  | .withdrawTestArtifacts fault => do withdrawTestArtifacts setup fault; return none

theorem final_returnNone (x : Op Unit) (c : Collection) :
    final ((do x; return none : Op (Option Pending)).run c) = final (x.run c) := by
  rw [EStateM.run_bind]
  cases x.run c <;> rfl

/-- The sessions of a root, the calls in flight, and whether a process has come up and owns them. -/
structure World where
  collections : List Collection := []
  calls : List (Nat × Pending) := []
  running : Bool := false

def World.active (w : World) : Bool :=
  w.collections.any fun c => c.session.state = .recording ∨ c.memory.captureThread ∧ c.worker

inductive Action where
  | create (sessionId : String) (sourceKind : SourceKind) (participantPseudonym : String)
  | act (index : Nat) (part : Section)
  | restart (fault : Option Fault)

/-- One locked section of a call on the session at `index`. A worker that fails is alive. -/
def World.act (setup : Setup) (w : World) (index : Nat) (part : Section) (c : Collection) : World :=
  let continued := part.continues.map fun pending => (index, pending)
  let calls := match continued with
    | none => w.calls
    | some call => w.calls.erase call
  if continued.any (· ∉ w.calls) then w
  else if part.isCapture && !c.worker then w
  else
    match (perform setup w.active part).run c with
    | .ok pending after =>
      { collections := w.collections.set index after
        calls := calls ++ (pending.map fun pending => (index, pending)).toList
        running := !part.ends }
    | .error _ after => { collections := w.collections.set index after, calls, running := !part.ends }

def World.step (setup : Setup) (w : World) : Action → World
  | .create sessionId sourceKind participantPseudonym =>
    if w.running then
      { w with collections := w.collections ++ [createSession sessionId sourceKind participantPseudonym] }
    else w
  | .act index part =>
    match w.running, w.collections[index]? with
    | true, some c => w.act setup index part c
    | _, _ => w
  | .restart fault =>
    { collections := w.collections.map fun c => recover fault c.restarted
      calls := []
      running := fault.isNone }

def service (setup : Setup) : System World Action := ofFun (fun w => w = {}) (World.step setup)

/-! ## A sample run

A real session of one frame, from its creation to its seal. -/

namespace Sample

def digest : String := "0123456789abcdef0123456789abcdef0123456789abcdef0123456789abcdef"

def setup : Setup where
  rootDigest := digest
  digests := {
    sha256 := fun
      | .timeline .. => "1123456789abcdef0123456789abcdef0123456789abcdef0123456789abcdef"
      | .video .. => "2123456789abcdef0123456789abcdef0123456789abcdef0123456789abcdef"
      | .other .. => "3123456789abcdef0123456789abcdef0123456789abcdef0123456789abcdef"
    size := fun
      | .timeline lines _ => 512 * lines.length
      | .video frames => 4096 + 1024 * frames.length
      | .other octets => octets.length }

def record : AuthorityRecord := fun field =>
  [("authority_reference", RecordValue.str "A"), ("status", .str "APPROVED"), ("native_root_digest", .str digest),
    ("session_pseudonym", .str "S"), ("participant_pseudonym", .str "P"), ("consent_status", .str "CONFIRMED"),
    ("retention_expires_at", .number 10), ("consent_policy_sha256", .str digest),
    ("institutional_approval_sha256", .str digest), ("retention_record_sha256", .str digest),
    ("protocol_version", .str "V"), ("consent_receipt_id", .str "R"), ("consent_version", .str "C"),
    ("operator_pseudonym", .str "O"), ("device_gate_decision", .str "UNVERIFIED"),
    ("withdrawal_decision", .str "DELETE_OWNED_RUNTIME_ARTIFACTS"),
    ("withdrawal_authority_sha256", .str digest)].lookup field

def answer : AuthorityAnswer := ⟨.ok (some record), 1⟩

def frame (capturedNs : Int) : FrameEnv where
  authority := answer
  exportNow := 1
  capturedAt := .nanoseconds capturedNs
  droppedFrames := some 0
  shape := some [720, 1280, 3]
  analysis := .poses .sufficient 50 128 []
  focusAgeMs := 0
  write := {}
  closeRaises := false
  emit := {
    frozenRules := none
    authority := answer
    orientation := none
    hasModelProvider := false
    infer := fun _ => .ok none }

def recording : List Action :=
  [.restart none, .create "S" .real "P",
    .act 0 (.preflight none (.ok [("camera", "READY"), ("display", "READY"), ("disk", "READY")])),
    .act 0 (.startRealCollection "A" answer), .act 0 (.ingestFrame (frame 0))]

def sealing : List Action :=
  [.act 0 .beginStop, .act 0 .workerEnds,
    .act 0 (.finishStop true { transcode := some ⟨some [0], .exited 0⟩ }), .act 0 .sealSession]

def run (actions : List Action) : World := actions.foldl (World.step setup) {}

theorem run_reachable (actions : List Action) : Reachable (service setup) (run actions) :=
  reachable_foldl actions (.init rfl)

end Sample

end PduExamObserver.ResearchRuntime
