import Mathlib.Data.Rat.Floor
import PduExamObserver.Library.Lines
import PduExamObserver.Library.Transition

/-! # The browser's event stream

`SseParser` and one call of `BrowserEventStream.subscribe`: a loop of connections whose body is read in chunks. Texts are
what `TextDecoder` makes of the bytes. -/

namespace PduExamObserver.Web
open Transition
set_option autoImplicit false

abbrev Text := List Char

/-! ## `SseParser` -/

structure ParsedSseMessage where
  data : Text
  id : Option Text
  deriving DecidableEq

structure SseFields where
  dataLines : List Text := []
  eventId : Option Text := none
  deriving DecidableEq

structure SseParser where
  buffer : Text := []
  fields : SseFields := {}
  deriving DecidableEq

/-- `lines.join('\n')` -/
def joinLines : List Text → Text
  | [] => []
  | [line] => line
  | line :: rest => line ++ '\n' :: joinLines rest

def SseFields.takeLine (fields : SseFields) (line : Text) : SseFields × List ParsedSseMessage :=
  let line := if line.getLast? = some '\r' then line.dropLast else line
  if line = [] then
    if fields.dataLines = [] then (fields, [])
    else ({ fields with dataLines := [] }, [⟨joinLines fields.dataLines, fields.eventId⟩])
  else if line.head? = some ':' then (fields, [])
  else
    let field := line.takeWhile (· ≠ ':')
    let value := (line.dropWhile (· ≠ ':')).drop 1
    let value := if value.head? = some ' ' then value.drop 1 else value
    if field = "data".toList then ({ fields with dataLines := fields.dataLines ++ [value] }, [])
    else if field = "id".toList ∧ '\u0000' ∉ value then ({ fields with eventId := some value }, [])
    else (fields, [])

def SseFields.takeLines (fields : SseFields) : List Text → SseFields × List ParsedSseMessage
  | [] => (fields, [])
  | line :: lines =>
    let (next, messages) := fields.takeLine line
    let (last, rest) := next.takeLines lines
    (last, messages ++ rest)

def SseParser.push (parser : SseParser) (chunk : Text) : SseParser × List ParsedSseMessage :=
  let (lines, rest) := Lines.split '\n' (parser.buffer ++ chunk)
  let (fields, messages) := parser.fields.takeLines lines
  (⟨rest, fields⟩, messages)

/-- What `JSON.parse` gives. -/
inductive JsValue where
  | null
  | bool (b : Bool)
  | number (q : ℚ)
  | string (s : String)
  | array (items : List JsValue)
  | object (fields : List (String × JsValue))
  deriving Inhabited

inductive JsNumber where
  | nan
  | finite (q : ℚ)
  | infinite (negative : Bool)
  deriving DecidableEq

namespace JsValue

/-- A property; none is `undefined`. The last field of a name counts. -/
def get (value : JsValue) (name : String) : Option JsValue :=
  match value with
  | object fields => (fields.reverse.find? (·.1 = name)).map (·.2)
  | _ => none

def truthy : Option JsValue → Bool
  | none | some null => false
  | some (bool b) => b
  | some (number q) => q ≠ 0
  | some (string s) => s ≠ ""
  | some (array _) | some (object _) => true

def isString (value : Option JsValue) (text : String) : Bool :=
  match value with
  | some (string s) => s = text
  | _ => false

/-- The equality of a `Set`; two objects that were parsed are never one. -/
def same : Option JsValue → Option JsValue → Bool
  | none, none => true
  | some null, some null => true
  | some (bool b), some (bool b') => b = b'
  | some (number q), some (number q') => q = q'
  | some (string s), some (string s') => s = s'
  | _, _ => false

end JsValue

def JsNumber.isSafeInteger : JsNumber → Bool
  | finite q => q.den = 1 ∧ -9007199254740991 ≤ q ∧ q ≤ 9007199254740991
  | _ => false

def JsNumber.max : JsNumber → JsNumber → JsNumber
  | finite q, finite q' => finite (if q ≤ q' then q' else q)
  | nan, _ | _, nan => nan
  | infinite true, x | x, infinite true => x
  | infinite false, _ | _, infinite false => infinite false

/-- The parts of the JavaScript runtime that are not written out: `JSON.parse`, which throws or not, and the conversion to
a number of values that are none and of texts that are not all digits. -/
structure Runtime where
  parseJson : Text → Option JsValue
  valueNumber : Option JsValue → JsNumber
  textNumber : Text → JsNumber

/-- `Number(text)` -/
def Runtime.number (runtime : Runtime) (text : Text) : JsNumber :=
  if text ≠ [] ∧ text.all Char.isDigit then .finite (Nat.ofDigitChars 10 text 0) else runtime.textNumber text

def Runtime.toNumber (runtime : Runtime) : Option JsValue → JsNumber
  | some (.number q) => .finite q
  | value => runtime.valueNumber value

/-! ## Messages -/

structure SessionSnapshot where
  sessionId : Option JsValue
  eventSeq : Option JsValue
  submitted : Option JsValue
  state : Option JsValue
  durationSeconds : Option JsValue
  remainingSeconds : Option JsValue
  startedAtUtc : Option JsValue

inductive EventKind
  | signal
  | technical
  deriving DecidableEq

/-- Its `id` and `occurredAt` are its `eventSeq` with `event-` or `#` before it. -/
structure ReviewerEvent where
  eventSeq : Option JsValue
  kind : EventKind
  title : Option String
  confidence : JsValue
  confidenceStatus : Option JsValue
  durationSeconds : JsValue
  signals : JsValue

inductive StreamMessage
  | snapshot (snapshot : SessionSnapshot)
  | event (event : ReviewerEvent)

def eventTitles : List (String × String) :=
  [("BENIGN_CONFOUNDER", "Tư thế có thể do yếu tố lành tính"),
    ("PROLONGED_HEAD_DOWN", "Đầu hướng xuống kéo dài"),
    ("PROLONGED_SIDE_LOOK", "Hướng nhìn sang bên kéo dài"),
    ("NO_PERSON", "Không có người trong khung quan sát"),
    ("MULTIPLE_PEOPLE", "Có nhiều người trong khung quan sát"),
    ("UNCERTAIN", "Dữ liệu quan sát chưa chắc chắn"),
    ("NORMAL", "Tín hiệu trong ngưỡng thông thường")]

def demoEventTitles : List (String × String) :=
  [("session_started", "Phiên mô phỏng bắt đầu"),
    ("answer_recorded", "Câu trả lời mô phỏng đã được ghi nhận"),
    ("technical_state", "Dữ liệu kỹ thuật chưa đủ"),
    ("session_stopped", "Phiên mô phỏng đã kết thúc")]

/-- `titles[key]` -/
def titleOf (titles : List (String × String)) : Option JsValue → Option String
  | some (.string key) => titles.lookup key
  | _ => none

/-- `value ?? fallback` -/
def orElse (value : Option JsValue) (fallback : JsValue) : JsValue :=
  match value with
  | none | some .null => fallback
  | some value => value

def mapEvent (event : JsValue) : Option ReviewerEvent :=
  if JsValue.isString (event.get "type") "AlertEvent" ∧ JsValue.truthy (event.get "label") ∧
      JsValue.truthy (event.get "confidence_status") then
    some {
      eventSeq := event.get "event_seq"
      kind := if JsValue.isString (event.get "confidence_status") "CALIBRATED" then .signal else .technical
      title := titleOf eventTitles (event.get "label")
      confidence := orElse (event.get "confidence") .null
      confidenceStatus := event.get "confidence_status"
      durationSeconds := orElse (event.get "duration_seconds") (.number 0)
      signals := orElse (event.get "contributing_signals") (.array []) }
  else if JsValue.isString (event.get "type") "DemoEvent" ∧ JsValue.same (event.get "confidence") (some .null) ∧
      JsValue.isString (event.get "source_kind") "synthetic_demo" ∧ JsValue.truthy (event.get "confidence_status") ∧
      (titleOf demoEventTitles (event.get "fixture_event_type")).isSome then
    some {
      eventSeq := event.get "event_seq"
      kind := .technical
      title := titleOf demoEventTitles (event.get "fixture_event_type")
      confidence := .null
      confidenceStatus := event.get "confidence_status"
      durationSeconds := .number 0
      signals := .array [.string "synthetic_demo"] }
  else none

def isSnapshot (event : JsValue) : Bool :=
  JsValue.isString (event.get "type") "SessionSnapshot" ∧ JsValue.truthy (event.get "session_id") ∧
    JsValue.truthy (event.get "state") ∧ (event.get "submitted").isSome ∧ (event.get "duration_seconds").isSome

def mapSnapshot (snapshot : JsValue) : SessionSnapshot where
  sessionId := snapshot.get "session_id"
  eventSeq := snapshot.get "event_seq"
  submitted := snapshot.get "submitted"
  state := snapshot.get "state"
  durationSeconds := snapshot.get "duration_seconds"
  remainingSeconds := snapshot.get "remaining_seconds"
  startedAtUtc := snapshot.get "started_at_utc"

/-! ## Subscriptions -/

inductive Status
  | connected
  | reconnecting
  deriving DecidableEq

/-- Where `run` is suspended: in `fetch`, in `reader.read()`, before its next turn (in the timer, after the first), or
nowhere. -/
inductive Phase
  | turning
  | fetching
  | reading (parser : SseParser)
  | ended
  deriving DecidableEq

/-- A connection: the `after_event_seq` that was requested, and what has been read of its body. -/
structure Connection where
  afterEventSeq : JsNumber
  text : Text := []
  deriving DecidableEq

/-- The variables of a subscription; `handed`, `statuses` and `connections` are its calls of `onMessage`, `onStatus` and
`fetch`, with every connection whose response was accepted. -/
structure Subscription where
  received : List (Option JsValue) := []
  afterEventSeq : JsNumber := .finite 0
  stopped : Bool := false
  reconnects : Nat := 0
  phase : Phase := .turning
  authLost : Bool := false
  handed : List StreamMessage := []
  statuses : List Status := []
  connections : List Connection := []

def maxReconnectAttempts : Nat := 3

/-- How `fetch` resolves. -/
inductive Response
  | rejected
  | answered (status : Nat) (hasBody : Bool)

/-- A chunk comes with the messages for which `onMessage` throws, and with whether one of them cancels the subscription. At
the end of the body the decoder may hold an incomplete character. -/
inductive StreamEvent
  | turn (hasSession : Bool)
  | response (response : Response)
  | chunk (text : Text) (throws : StreamMessage → Bool) (cancels : Bool)
  | endOfBody (incomplete : Bool)
  | readFailed
  | unsubscribe

namespace Subscription

variable (runtime : Runtime) (s : Subscription)

def report (status : Status) : Subscription := { s with statuses := s.statuses ++ [status] }

/-- `onMessage(message)` in the `try` of `handleMessage` -/
def hand (throws : StreamMessage → Bool) (message : StreamMessage) : Subscription :=
  let s := { s with handed := s.handed ++ [message] }
  if throws message then s.report .reconnecting else s

def sequence (message : ParsedSseMessage) (event : ReviewerEvent) : Option JsValue :=
  match (message.id.map runtime.number).getD .nan with
  | .finite q => if (JsNumber.finite q).isSafeInteger then some (.number q) else event.eventSeq
  | _ => event.eventSeq

def handleMessage (throws : StreamMessage → Bool) (message : ParsedSseMessage) : Subscription :=
  match runtime.parseJson message.data with
  | none | some .null => s.report .reconnecting
  | some payload =>
    if isSnapshot payload then s.hand throws (.snapshot (mapSnapshot payload))
    else
      match mapEvent payload with
      | none => s
      | some event =>
        let sequence := sequence runtime message event
        if s.received.any (JsValue.same sequence) then s
        else
          hand { s with
            received := s.received ++ [sequence],
            afterEventSeq := s.afterEventSeq.max (runtime.toNumber sequence) } throws (.event event)

def retry : Subscription :=
  let s := { s with reconnects := s.reconnects + 1 }
  if maxReconnectAttempts < s.reconnects then { s with phase := .ended }
  else { s.report .reconnecting with phase := .turning }

def caught : Subscription := if s.stopped then { s with phase := .ended } else s.retry

def finish (parser : SseParser) (incomplete : Bool) : Subscription :=
  let messages := (parser.push (if incomplete then ['�'] else [])).2
  let s := messages.foldl (handleMessage runtime · fun _ => false) s
  if s.stopped then { s with phase := .ended } else s.retry

def addText (text : Text) : List Connection → List Connection
  | [] => []
  | [connection] => [{ connection with text := connection.text ++ text }]
  | connection :: rest => connection :: addText text rest

def respond : Response → Subscription
  | .rejected => s.caught
  | .answered status hasBody =>
    if status = 401 ∨ status = 403 then { s with phase := .ended, authLost := true }
    else if status < 200 ∨ 299 < status ∨ hasBody = false then s.caught
    else
      let connection : Connection := { afterEventSeq := s.afterEventSeq }
      let s := { s.report .connected with connections := s.connections ++ [connection] }
      if s.stopped then s.finish runtime {} false else { s with phase := .reading {} }

def step : StreamEvent → Subscription
  | .turn hasSession =>
    match s.phase with
    | .turning =>
      if s.stopped ∨ maxReconnectAttempts < s.reconnects then { s with phase := .ended }
      else if hasSession then { s with phase := .fetching }
      else { s with phase := .ended, authLost := true }
    | _ => s
  | .response response =>
    match s.phase with
    | .fetching => s.respond runtime response
    | _ => s
  | .chunk text throws cancels =>
    match s.phase with
    | .reading parser =>
      let (parser, messages) := parser.push text
      let s := messages.foldl (handleMessage runtime · throws) s
      let s := { s with stopped := s.stopped || cancels, connections := addText text s.connections }
      if s.stopped then s.finish runtime parser false else { s with phase := .reading parser }
    | _ => s
  | .endOfBody incomplete =>
    match s.phase with
    | .reading parser => s.finish runtime parser incomplete
    | _ => s
  | .readFailed =>
    match s.phase with
    | .reading _ => s.caught
    | _ => s
  | .unsubscribe => { s with stopped := true }

end Subscription

/-- One call of `subscribe`. -/
def subscription (runtime : Runtime) : System Subscription StreamEvent := ofFun (· = {}) (Subscription.step runtime)

end PduExamObserver.Web
