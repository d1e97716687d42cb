import PduExamObserver.Authority.Values
import PduExamObserver.Library.Stateful
import PduExamObserver.ResearchRuntime.Recorder
import PduExamObserver.Showcase.TemporalRules

/-! # The state of one runtime session

A `Collection` is one row of `runtime_sessions` with the rows of the other tables that refer to it, what the
service keeps in memory for it, and its artifact directory. Clock columns, which nothing in the service decides
on, are left out; identifiers that `uuid4` draws are numbers that are never drawn again. -/

namespace PduExamObserver.ResearchRuntime
open Showcase Stateful
set_option autoImplicit false

/-! ## Columns -/

/-- `ALLOWED_SOURCE_KINDS`. -/
inductive SourceKind where
  | real
  | aiRendered
  | augmented
  deriving DecidableEq, Repr

inductive SessionState where
  | draft
  | preflightReady
  | recording
  | stopped
  | sealed
  | failed
  | withdrawn
  deriving DecidableEq, Repr

def SessionState.value : SessionState → String
  | .draft => "DRAFT"
  | .preflightReady => "PREFLIGHT_READY"
  | .recording => "RECORDING"
  | .stopped => "STOPPED"
  | .sealed => "SEALED"
  | .failed => "FAILED"
  | .withdrawn => "WITHDRAWN"

/-- `ALLOWED_FOCUS`. -/
inductive Focus where
  | examFocused
  | examNotFocused
  | focusUnknown
  deriving DecidableEq, Repr

inductive QualityState where
  | unknown
  | sufficient
  | insufficient
  | synthetic
  | technicalInsufficient
  deriving DecidableEq, Repr

/-- `ALLOWED_REVIEW_STATUS`. -/
inductive ReviewStatus where
  | confirmed
  | rejected
  | uncertain
  deriving DecidableEq, Repr

/-! ## Observations -/

structure Landmark where
  x : Rat
  y : Rat
  z : Rat
  visibility : Rat
  deriving DecidableEq

structure Quality where
  state : QualityState
  blur : Rat
  exposure : Rat
  visibilityMean : Rat
  frameGapRatio : Rat
  deriving DecidableEq

structure Observation where
  frameSeq : Nat
  capturedNs : Int
  poseCount : Nat
  landmarks : List (List Landmark)
  quality : Quality
  focus : Focus
  focusAgeMs : Rat
  deriving DecidableEq

structure Prediction where
  label : Option Label
  confidence : Option Rat
  modelVersion : Option String
  policyVersion : Option String
  operatorOutcome : Option String
  sourceSignals : List String
  deriving DecidableEq

/-! ## Events -/

/-- `_event_payload`, with what `_persist_rule_events_locked` adds. -/
structure ObservablePayload where
  researchLabel : Label
  startMs : Int
  endMs : Int
  sourceSignals : List String
  confidenceStatus : String
  confidence : Option Rat
  sourceKind : SourceKind
  policyVersion : String := "runtime-policy.v1"
  logicalId : Option Nat := none
  eventState : Option EventKind := none
  eligibleOnsetMs : Option Int := none
  deriving DecidableEq

structure InventoryItem where
  name : String
  sha256 : String
  sizeBytes : Nat
  deriving DecidableEq

inductive WithdrawalDecision where
  | deleteOwnedRuntimeArtifacts
  | quarantineRuntimeArtifacts
  deriving DecidableEq, Repr

structure WithdrawalReceipt where
  authorityReference : String
  withdrawalAuthoritySha256 : String
  decision : WithdrawalDecision
  exportCount : Nat
  artifacts : List InventoryItem
  deriving DecidableEq

inductive EventBody where
  | sessionCreated
  | technicalPreflight (ready : Bool)
  | syntheticFixtureStarted (fixtureName : String)
  | technicalState (ready : Bool)
  | observableEvent (payload : ObservablePayload)
  | collectionStarted
  | poseObservation (observation : Observation)
  | syntheticPoseObservation (frameSeq : Nat) (capturedNs : Int)
  | focusContext (state : Focus) (contaminatedByOperator : Bool)
  | operatorContaminationMarked (fromFrameSeq : Nat)
  | rulePolicyBound (policy : RulePolicy)
  | eventBoundaryUpdate (eventId : Nat) (startMs endMs : Int) (eventState : EventKind)
  | modelState (frameSeq : Nat) (ready : Bool) (prediction : Option Prediction)
  | collectionStopped
  | sessionSealed
  | reviewDecision (eventId : Nat) (label : Label) (reviewStatus : ReviewStatus) (reviewId : Nat)
  | sessionLocked
  | withdrawalRecorded (receipt : WithdrawalReceipt)
  | testArtifactsWithdrawn
  | technicalFailure (code : String)
  deriving DecidableEq

/-- `event_type='OBSERVABLE_EVENT'`. -/
def EventBody.isObservable : EventBody → Bool
  | .observableEvent _ => true
  | _ => false

/-- A row of `runtime_events`. -/
structure Event where
  eventId : Nat
  eventSeq : Nat
  body : EventBody
  deriving DecidableEq

/-- A row of `runtime_reviews`. -/
structure Review where
  reviewId : Nat
  eventId : Nat
  label : Label
  reviewStatus : ReviewStatus
  startMs : Int
  endMs : Int
  reason : String
  revision : Nat
  operatorPseudonym : Option String
  deriving DecidableEq

/-- A row of `runtime_artifacts`. -/
structure ArtifactRecord where
  name : String
  sha256 : String
  sizeBytes : Nat
  deriving DecidableEq

/-- A row of `runtime_sessions` and the rows of the other tables that refer to it. -/
structure Session where
  sessionId : String
  sourceKind : SourceKind
  participantPseudonym : String
  state : SessionState := .draft
  revision : Nat := 0
  failureCode : Option String := none
  locked : Bool := false
  frameSeq : Nat := 0
  focusState : Focus := .focusUnknown
  qualityState : QualityState := .unknown
  authorityReference : Option String := none
  droppedFrames : Nat := 0
  gapEvents : Nat := 0
  maxGapFrames : Nat := 0
  contaminatedFromSeq : Option Nat := none
  protocolVersion : Option String := none
  operatorPseudonym : Option String := none
  events : List Event := []
  reviews : List Review := []
  /-- `runtime_exports` -/
  exports : List Nat := []
  artifacts : List ArtifactRecord := []
  /-- the exports that `runtime_withdrawal_tasks` follows up -/
  withdrawalTasks : List Nat := []
  deriving DecidableEq

/-! ## Files -/

inductive Content where
  | timeline (lines : List Observation) (torn : Bool)
  | video (frames : List Nat)
  | other (octets : List UInt8)
  deriving DecidableEq

abbrev Directory := List (String × Content)

namespace Directory

def erase (directory : Directory) (name : String) : Directory := directory.filter fun file => file.1 ≠ name

def put (directory : Directory) (name : String) (content : Content) : Directory :=
  erase directory name ++ [(name, content)]

end Directory

structure Digests where
  sha256 : Content → String
  size : Content → Nat

/-! ## Memory -/

/-- What the service keeps in memory for a session. `captureThread` says that `_capture_threads` has an entry;
`logicalEvents` is `_logical_events`. -/
structure Memory where
  stream : Option ArtifactStream := none
  captureThread : Bool := false
  ruleEngine : Option TemporalRuleEngine := none
  modelEngine : Option TemporalRuleEngine := none
  logicalEvents : List (Nat × Nat) := []
  poseBuffer : List Observation := []
  captureOrigin : Option Int := none
  lastModelTime : Option Int := none

/-- A session with its memory and its files. `worker` says that its capture thread is alive, `quarantine` is
the directory that a withdrawal set aside, and `fresh` the next identifier. -/
structure Collection where
  session : Session
  memory : Memory := {}
  directory : Option Directory := none
  quarantine : Option Directory := none
  worker : Bool := false
  fresh : Nat := 0

/-! ## Operations -/

inductive RuntimeError where
  | invalidTransition (message : String)
  | authorityDenied (message : String)
  | revisionConflict (message : String)
  | runtimeErrorBase (code : String)
  | valueError (code : String)
  | typeError
  | overflowError
  | osError
  | subprocessError
  /-- an exception that nothing in the service expects -/
  | unexpected
  deriving DecidableEq, Repr

abbrev Op := EStateM RuntimeError Collection

/-- `with self._connection`: the rows are taken back when the body raises. -/
def Collection.rollback (before after : Collection) : Collection := { after with session := before.session }

def locked {α : Type} (body : Op α) : Op α := transaction Collection.rollback body

def liftExcept {α : Type} : Except RuntimeError α → Op α
  | .ok a => pure a
  | .error e => throw e

def sessionRow : Op Session := do return (← get).session

def requireState (states : List SessionState) : Op Session := do
  let row ← sessionRow
  if row.state ∈ states then return row
  else throw (.invalidTransition ("session state " ++ row.state.value ++ " cannot perform this operation"))

/-- `_update_session_locked`. -/
def updateSession (changes : Session → Session) : Op Unit :=
  modify fun c => { c with session := changes c.session }

def updateMemory (changes : Memory → Memory) : Op Unit := modify fun c => { c with memory := changes c.memory }

/-- `uuid.uuid4()`. -/
def uuid : Op Nat := modifyGet fun c => (c.fresh, { c with fresh := c.fresh + 1 })

/-- `SELECT COALESCE(MAX(event_seq),0)+1`. -/
def Session.nextSeq (session : Session) : Nat := (session.events.map Event.eventSeq).foldl max 0 + 1

/-- `_append_event_locked`: the new event's id. -/
def appendEvent (body : EventBody) : Op Nat := do
  let eventId ← uuid
  updateSession fun row => { row with events := row.events ++ [⟨eventId, row.nextSeq, body⟩] }
  return eventId

/-- `_close_stream_locked` without finalization; `raises` says that flushing the timeline raises. -/
def closeStream (raises : Bool) : Op Unit := do
  if (← get).memory.stream.isSome then
    updateMemory fun memory => { memory with stream := none }
    if raises then throw .osError

def failLocked (raises : Bool) (failureCode : String) : Op Unit := do
  closeStream raises
  updateSession fun row => { row with
    state := .failed
    failureCode := some failureCode
    qualityState := .technicalInsufficient }
  let _ ← appendEvent (.technicalFailure failureCode)

end PduExamObserver.ResearchRuntime
