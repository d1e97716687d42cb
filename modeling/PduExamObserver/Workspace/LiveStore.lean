import PduExamObserver.M1R1.SessionLog
import PduExamObserver.Services.StreamGapless

/-! # Live event streams over the ledger

`M1Backend` and `WorkspaceBackend` commit an event in one transaction and hand it to the subscribers only after
the lock is released, so that commits and publications of several threads interleave. The streams are those of
`M0Backend`; they read their backlog from the database. -/

namespace PduExamObserver.Workspace
open M1 M1R1 Services Transition
set_option autoImplicit false

/-- A row of `session_events` as `events_after` reads it. No writer has a payload with `event_seq`. -/
def eventRecord (row : SessionEvent) : EventRecord where
  eventSeq := row.eventSeq
  type := row.eventType
  payload := ⟨row.payload.filter fun field => field.1 ≠ "event_seq", by simp⟩

def sessionRecord (db : Database) (row : Session) : SessionRecord where
  sessionId := row.id
  state := row.state
  eventSeq := row.eventSeq
  submitted := row.submitted
  durationSeconds := row.durationSeconds
  startedAt := row.startedAt
  events := (db.sessionEvents.filter fun e => e.sessionId = row.id).map eventRecord

/-- `_record`, with the events of the session. -/
def record? (db : Database) (sessionId : String) : Option SessionRecord :=
  (db.session? sessionId).map (sessionRecord db)

/-- The database, the events that are committed and not yet published, and every stream ever opened. -/
structure LiveBackend where
  database : Database := {}
  pending : List SessionEvent := []
  streams : String → List Stream := fun _ => []

inductive LiveAction where
  /-- the transaction of an operation; its event is to be published -/
  | commit (clock : Clock) (action : M1Action)
  /-- `_reconcile_runtime`, where the runtime has answered -/
  | reconcileRuntime (sessionId : String) (state : Option String)
  /-- `_publish` of a thread whose transaction is committed -/
  | publish (index : Nat)
  /-- the first `anext` of `stream_events`, with the runtime's answer for `snapshot` -/
  | openStream (sessionId : String) (after : Nat) (now : Seconds) (state : Option String)
  | read (sessionId : String) (stream : Nat)
  | timeout (sessionId : String) (stream : Nat)
  | close (sessionId : String) (stream : Nat)

namespace LiveBackend

variable (rt : M1.Runtime) (limits : StreamLimits) (backend : LiveBackend)

/-- A transaction; the rows that it has inserted into `session_events` are still to be published. -/
def commit (clock : Clock) (action : M1Action) : LiveBackend :=
  match action.run rt clock backend.database with
  | .error _ => backend
  | .ok database =>
    { backend with
      database
      pending := backend.pending ++ database.sessionEvents.drop backend.database.sessionEvents.length }

/-- `_reconcile_runtime` commits and publishes nothing. -/
def reconcile (sessionId : String) (state : Option String) : LiveBackend :=
  match reconcileRuntime backend.database sessionId state with
  | .error _ => backend
  | .ok database => { backend with database }

/-- `self._subscribers[sessionId]` changes to `f` of itself. -/
def modifyStreams (sessionId : String) (f : List Stream → List Stream) : LiveBackend :=
  { backend with streams := Function.update backend.streams sessionId (f (backend.streams sessionId)) }

def publish (index : Nat) : LiveBackend :=
  match backend.pending[index]? with
  | none => backend
  | some row =>
    { backend with pending := backend.pending.eraseIdx index }.modifyStreams row.sessionId
      fun streams => streams.map (Stream.put limits (eventRecord row).asDict)

def subscriberSlotsAvailable (sessionId : String) : Bool :=
  decide (((backend.streams sessionId).filter Stream.subscribed).length < limits.maxSubscribersPerSession)

def openStream (sessionId : String) (after : Nat) (now : Seconds) (state : Option String) : LiveBackend :=
  if backend.subscriberSlotsAvailable limits sessionId then
    let backend := backend.reconcile sessionId state
    match record? backend.database sessionId with
    | none => backend
    | some record =>
      backend.modifyStreams sessionId fun streams =>
        streams ++ [{ after, output := [.snapshot (record.snapshot now)] }]
  else backend

def modifyStream (sessionId : String) (stream : Nat) (f : SessionRecord → Stream → Stream) : LiveBackend :=
  match record? backend.database sessionId with
  | none => backend
  | some record => backend.modifyStreams sessionId fun streams => streams.modify stream (f record)

def step : LiveBackend → LiveAction → LiveBackend
  | backend, .commit clock action => backend.commit rt clock action
  | backend, .reconcileRuntime sessionId state => backend.reconcile sessionId state
  | backend, .publish index => backend.publish limits index
  | backend, .openStream sessionId after now state => backend.openStream limits sessionId after now state
  | backend, .read sessionId stream => backend.modifyStream sessionId stream Stream.read
  | backend, .timeout sessionId stream => backend.modifyStream sessionId stream fun _ => Stream.timeout
  | backend, .close sessionId stream => backend.modifyStream sessionId stream fun _ => Stream.finish

def system : System LiveBackend LiveAction := ofFun (fun backend => backend = {}) (step rt limits)

/-- A stream that waits for nothing, with all events of its session published, has handed out every event after
its start, in order. -/
def Delivered : Prop :=
  ∀ sessionId record, record? backend.database sessionId = some record →
    (∀ row ∈ backend.pending, row.sessionId ≠ sessionId) →
    ∀ s ∈ backend.streams sessionId, s.phase = .live → s.queue = [] → s.dropped = [] →
      s.delivered = record.eventsAfter s.after

end LiveBackend

/-! ## The orderly steps -/

def reading (s : Stream) : Bool :=
  match s.phase with
  | .replaying _ => true
  | .live => true
  | .opened => false
  | .ended => false

def reach (s : Stream) : Nat := s.lastDelivered + s.backlog.length

namespace LiveBackend

variable (backend : LiveBackend)

def Unobserved (sessionId : String) (state : Option String) : Prop :=
  (reconciledState state).isSome →
    (backend.database.sessions.any fun s => s.id = sessionId ∧ s.state = .recording) = true →
      ∀ s ∈ backend.streams sessionId, reading s = false

def InOrder (index : Nat) : Prop :=
  ∀ row, backend.pending[index]? = some row → ∀ earlier ∈ backend.pending, earlier.sessionId = row.sessionId →
    earlier.eventSeq < row.eventSeq → ∀ s ∈ backend.streams row.sessionId, reading s = true →
      earlier.eventSeq ≤ reach s

def Orderly (limits : StreamLimits) (backend : LiveBackend) : LiveAction → Prop
  | .publish index => backend.InOrder index
  | .reconcileRuntime sessionId state => backend.Unobserved sessionId state
  | .openStream sessionId _ _ state =>
    backend.subscriberSlotsAvailable limits sessionId = true → backend.Unobserved sessionId state
  | _ => True

end LiveBackend

end PduExamObserver.Workspace
