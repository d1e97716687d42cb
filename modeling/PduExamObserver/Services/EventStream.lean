import PduExamObserver.Library.Transition
import PduExamObserver.Services.EventLog

/-! # Live event streams of `M0Backend`

`append_event` writes to a session's log and `_fanout` puts the event on the bounded queue of every
subscriber. `stream_events` is an asynchronous generator: it is a state machine here, suspended at
the yield of the snapshot, inside the backlog replay, or in the live loop. A scheduler interleaves
publishing, reading, heartbeat timeouts and closing in any order.

A queue and its membership in `_stale_subscribers` are kept with the stream that owns them; a
session's subscriber list is the list of its streams that have not ended. -/

namespace PduExamObserver.Services
open Transition
set_option autoImplicit false

/-- The two bounds of `M0Backend`. A queue size of zero is unbounded, as in `asyncio.Queue`. -/
structure StreamLimits where
  subscriberQueueSize : Nat := 512
  maxSubscribersPerSession : Nat := 8

inductive Output where
  | snapshot (snapshot : SessionSnapshot)
  | event (event : Event)
  | heartbeat

def Output.event? : Output → Option Event
  | .event e => some e
  | .snapshot _ => none
  | .heartbeat => none

def deliveredEvents (output : List Output) : List Event := output.filterMap Output.event?

@[simp] theorem deliveredEvents_event (output : List Output) (event : Event) :
    deliveredEvents (output ++ [.event event]) = deliveredEvents output ++ [event] := by
  simp [deliveredEvents, Output.event?]

@[simp] theorem deliveredEvents_heartbeat (output : List Output) :
    deliveredEvents (output ++ [.heartbeat]) = deliveredEvents output := by
  simp [deliveredEvents, Output.event?]

inductive Phase where
  /-- at the yield of the snapshot; the backlog has not been read -/
  | opened
  /-- inside the backlog loop, with what is left of the list `events_after` returned -/
  | replaying (rest : List Event)
  | live
  | ended

/-- One run of `stream_events(session_id, after)`. `output` is everything yielded so far; `dropped`
records the events its queue refused and is read by no code. -/
structure Stream where
  after : Nat
  phase : Phase := .opened
  queue : List Event := []
  stale : Bool := false
  lastDelivered : Nat := 0
  output : List Output := []
  dropped : List Event := []

namespace Stream

abbrev delivered (s : Stream) : List Event := deliveredEvents s.output

def subscribed (s : Stream) : Bool :=
  match s.phase with
  | .ended => false
  | _ => true

def full (limits : StreamLimits) (s : Stream) : Bool :=
  decide (0 < limits.subscriberQueueSize ∧ limits.subscriberQueueSize ≤ s.queue.length)

/-- One round of the loop in `_fanout`: `put_nowait`, or the stale mark on `QueueFull`. -/
def put (limits : StreamLimits) (event : Event) (s : Stream) : Stream :=
  if s.subscribed then
    if s.full limits then { s with stale := true, dropped := s.dropped ++ [event] }
    else { s with queue := s.queue ++ [event] }
  else s

/-- One round of the live loop: `queue.get()` and the `last_delivered` filter. An empty queue
leaves the generator waiting. -/
def readLive (s : Stream) : Stream :=
  match s.queue with
  | [] => { s with phase := .live }
  | event :: rest =>
    if s.lastDelivered < event.eventSeq then
      { s with
        phase := .live
        queue := rest
        lastDelivered := event.eventSeq
        output := s.output ++ [.event event] }
    else { s with phase := .live, queue := rest }

/-- `yield event` inside the backlog loop. -/
def yieldBacklog (s : Stream) (event : Event) (rest : List Event) : Stream :=
  { s with
    phase := .replaying rest
    lastDelivered := event.eventSeq
    output := s.output ++ [.event event] }

def read (record : SessionRecord) (s : Stream) : Stream :=
  match s.phase with
  | .opened =>
    match record.eventsAfter s.after with
    | [] => readLive { s with lastDelivered := s.after }
    | event :: rest => yieldBacklog { s with lastDelivered := s.after } event rest
  | .replaying [] => readLive s
  | .replaying (event :: rest) => yieldBacklog s event rest
  | .live => readLive s
  | .ended => s

/-- The `finally` clause: the queue leaves the subscriber list and the stale set. -/
def finish (s : Stream) : Stream := { s with phase := .ended, stale := false }

/-- `wait_for` raises `TimeoutError` in the live loop. -/
def timeout (s : Stream) : Stream :=
  match s.phase with
  | .live => if s.stale then s.finish else { s with output := s.output ++ [.heartbeat] }
  | _ => s

end Stream

structure Channel where
  record : SessionRecord
  streams : List Stream := []

def Channel.subscriberSlotsAvailable (limits : StreamLimits) (channel : Channel) : Bool :=
  decide ((channel.streams.filter Stream.subscribed).length < limits.maxSubscribersPerSession)

structure M0Backend where
  sessions : String → Option Channel := fun _ => none

inductive StreamAction where
  | createSession (sessionId : String) (durationSeconds : Int)
  | appendEvent (sessionId eventType : String) (payload : EventPayload)
  | openStream (sessionId : String) (after : Nat) (now : Seconds)
  | read (sessionId : String) (stream : Nat)
  | timeout (sessionId : String) (stream : Nat)
  | close (sessionId : String) (stream : Nat)

namespace M0Backend

/-- `self.sessions[sessionId]` changes to `f` of itself; a missing session is left alone. -/
def modifySession (backend : M0Backend) (sessionId : String) (f : Channel → Channel) : M0Backend where
  sessions := Function.update backend.sessions sessionId ((backend.sessions sessionId).map f)

/-- `create_session` with the identifier `token_urlsafe` returned; it never returns one in use. -/
def createSession (backend : M0Backend) (sessionId : String) (durationSeconds : Int) : M0Backend :=
  match backend.sessions sessionId with
  | some _ => backend
  | none =>
    { sessions := Function.update backend.sessions sessionId
        (some { record := { sessionId, durationSeconds } }) }

/-- `append_event`, with `_fanout` to every subscriber of the session. An append that raises
publishes nothing. -/
def appendEvent (limits : StreamLimits) (eventType : String) (payload : EventPayload)
    (channel : Channel) : Channel :=
  match channel.record.appendEvent eventType payload with
  | .error _ => channel
  | .ok (record, event) =>
    { record, streams := channel.streams.map (Stream.put limits event.asDict) }

/-- The first `anext` of `stream_events`: subscription and the snapshot. Without a free slot it
raises `SubscriberLimitExceeded` and subscribes nothing. -/
def openStream (limits : StreamLimits) (after : Nat) (now : Seconds) (channel : Channel) : Channel :=
  if channel.subscriberSlotsAvailable limits then
    { channel with
      streams := channel.streams ++
        [{ after, output := [.snapshot (channel.record.snapshot now)] }] }
  else channel

def modifyStream (stream : Nat) (f : SessionRecord → Stream → Stream) (channel : Channel) : Channel :=
  { channel with streams := channel.streams.modify stream (f channel.record) }

def step (limits : StreamLimits) (backend : M0Backend) : StreamAction → M0Backend
  | .createSession sessionId durationSeconds => backend.createSession sessionId durationSeconds
  | .appendEvent sessionId eventType payload =>
    backend.modifySession sessionId (appendEvent limits eventType payload)
  | .openStream sessionId after now => backend.modifySession sessionId (openStream limits after now)
  | .read sessionId stream => backend.modifySession sessionId (modifyStream stream Stream.read)
  | .timeout sessionId stream =>
    backend.modifySession sessionId (modifyStream stream fun _ => Stream.timeout)
  | .close sessionId stream =>
    backend.modifySession sessionId (modifyStream stream fun _ => Stream.finish)

def system (limits : StreamLimits) : System M0Backend StreamAction :=
  ofFun (fun backend => backend = {}) (step limits)

end M0Backend

end PduExamObserver.Services
