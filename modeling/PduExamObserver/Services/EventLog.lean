import PduExamObserver.WireContracts

/-! # The in-memory session event log

`SessionRecord`, `EventRecord` and the log operations of `InMemorySessionRepository`, with the
snapshot that `M0Backend` builds from a record. Answers and submissions are not part of the log and
are left out here. -/

namespace PduExamObserver.Services
set_option autoImplicit false

def maxEventsPerSession : Nat := 10000

/-- What a caller of `append_event` passes. `as_dict` lets the payload override the event's own
keys; no caller in the source uses the key `event_seq`. -/
structure EventPayload where
  fields : Dict
  no_event_seq : ∀ field ∈ fields, field.1 ≠ "event_seq"

/-- `{}`. -/
def EventPayload.empty : EventPayload := ⟨[], by simp⟩

structure EventRecord where
  eventSeq : Nat
  type : String
  payload : EventPayload

structure Event where
  dict : Dict
  eventSeq : Nat
  event_seq : Dict.get dict "event_seq" = some (.int eventSeq)

/-- `{"event_seq": self.event_seq, "type": self.type, **self.payload}`. -/
def EventRecord.asDict (event : EventRecord) : Event where
  dict := Dict.update [("event_seq", .int event.eventSeq), ("type", .str event.type)]
    event.payload.fields
  eventSeq := event.eventSeq
  event_seq := by
    rw [Dict.get_update_of_notMem event.payload.no_event_seq]
    simp [Dict.get]

@[simp] theorem asDict_eventSeq (event : EventRecord) : event.asDict.eventSeq = event.eventSeq := rfl

structure SessionRecord where
  sessionId : String
  state : SessionState := .draft
  eventSeq : Nat := 0
  submitted : Bool := false
  durationSeconds : Int := 2700
  startedAt : Option Seconds := none
  events : List EventRecord := []

/-- `EventLogLimitExceeded("EVENT_LOG_LIMIT_REACHED")`. -/
inductive AppendError where
  | eventLogLimitReached
  deriving DecidableEq, Repr

def SessionRecord.appendEvent (record : SessionRecord) (eventType : String) (payload : EventPayload) :
    Except AppendError (SessionRecord × EventRecord) :=
  if maxEventsPerSession ≤ record.events.length then .error .eventLogLimitReached
  else
    let event : EventRecord := ⟨record.eventSeq + 1, eventType, payload⟩
    .ok ({ record with eventSeq := record.eventSeq + 1, events := record.events ++ [event] }, event)

/-- `InMemorySessionRepository.events_after`, as the dictionaries `M0Backend.events_after` returns. -/
def SessionRecord.eventsAfter (record : SessionRecord) (eventSeq : Nat) : List Event :=
  (record.events.filter fun event => decide (eventSeq < event.eventSeq)).map EventRecord.asDict

structure SessionSnapshot where
  sessionId : String
  state : SessionState
  eventSeq : Nat
  submitted : Bool
  durationSeconds : Int
  remainingSeconds : Option Int
  startedAtUtc : Option Seconds

/-- `M0Backend.snapshot` of a record that exists, at clock reading `now`. -/
def SessionRecord.snapshot (record : SessionRecord) (now : Seconds) : SessionSnapshot where
  sessionId := record.sessionId
  state := record.state
  eventSeq := record.eventSeq
  submitted := record.submitted
  durationSeconds := record.durationSeconds
  remainingSeconds := record.startedAt.map fun startedAt =>
    -- `int` truncates towards zero; below zero the outer `max` hides the difference to the floor
    max 0 (record.durationSeconds - max 0 ⌊now - startedAt⌋)
  startedAtUtc := record.startedAt

/-! ## The log is numbered from one without a gap -/

/-- The number of the record is the length of its log, and the log counts up to it from one. -/
structure SessionRecord.Numbered (record : SessionRecord) : Prop where
  length : record.events.length = record.eventSeq
  numbers : record.events.map EventRecord.eventSeq = List.range' 1 record.eventSeq

theorem numbered_new (sessionId : String) (durationSeconds : Int) :
    SessionRecord.Numbered { sessionId, durationSeconds } := ⟨rfl, rfl⟩

variable {event : EventRecord} {eventType : String} {payload : EventPayload} {record record' : SessionRecord}

theorem SessionRecord.appendEvent_ok (h : record.appendEvent eventType payload = .ok (record', event)) :
    event.eventSeq = record.eventSeq + 1 ∧ record'.eventSeq = record.eventSeq + 1 ∧
      record'.events = record.events ++ [event] := by
  unfold SessionRecord.appendEvent at h
  split at h
  · cases h
  · cases h
    exact ⟨rfl, rfl, rfl⟩

theorem SessionRecord.Numbered.appendEvent (hn : record.Numbered)
    (h : record.appendEvent eventType payload = .ok (record', event)) : record'.Numbered := by
  obtain ⟨hseq, hrec, hevents⟩ := SessionRecord.appendEvent_ok h
  constructor
  · rw [hevents, List.length_append, hn.length, hrec]
    rfl
  · rw [hevents, List.map_append, hn.numbers, hrec, List.range'_concat]
    simp [hseq, Nat.add_comm]

theorem SessionRecord.Numbered.eventsAfter (hn : record.Numbered)
    (eventSeq : Nat) :
    (record.eventsAfter eventSeq).map Event.eventSeq =
      List.range' (eventSeq + 1) (record.eventSeq - eventSeq) := by
  have hfilter : (record.eventsAfter eventSeq).map Event.eventSeq =
      (record.events.map EventRecord.eventSeq).filter fun n => decide (eventSeq < n) := by
    simp [SessionRecord.eventsAfter, List.filter_map, Function.comp_def]
  rw [hfilter, hn.numbers]
  induction record.eventSeq with
  | zero => simp
  | succ n ih =>
    rw [List.range'_concat, List.filter_append, ih]
    by_cases h : eventSeq < 1 + n
    · have hlen : n + 1 - eventSeq = (n - eventSeq) + 1 := by omega
      have hlast : 1 + n = eventSeq + 1 + (n - eventSeq) := by omega
      rw [hlen, List.range'_concat]
      simp [h, ← hlast]
    · have h1 : n - eventSeq = 0 := by omega
      have h2 : n + 1 - eventSeq = 0 := by omega
      simp [h, h1, h2]

end PduExamObserver.Services
