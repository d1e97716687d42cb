import PduExamObserver.Native.Receipts

/-! # The monitor of the capture worker

`_monitor_capture_worker` reads the lines that a worker writes, one a turn of its loop. A turn carries the
clock readings of the loop and what `messages.get` gives. `json.loads`, with the duplicate-key and constant
hooks, is a parameter; clock readings in seconds are read exactly. -/

namespace PduExamObserver.Native
set_option autoImplicit false

def workerAuthorizationTimeout : ℚ := 10
def workerPrivacyReadyTimeout : ℚ := 30
def workerDeviceSetupTimeout : ℚ := 25
def workerFirstFrameTimeout : ℚ := 10
def workerCaptureTimeout : ℚ := 60
def workerReportTimeout : ℚ := 5
def workerMessageMaxBytes : Nat := 65536

/-- `int(capture_timeout * 1_000_000_000)`. -/
def captureLimitNs : Int := (workerCaptureTimeout * 1000000000).floor

abbrev Line := List UInt8

/-- `json.loads` on a decoded line, with its hooks. -/
abbrev Loads := Line → Except Raised Value

def strictWorkerMessage (loads : Loads) (line : Line) : Except Raised Dict := do
  require (line ≠ [] ∧ line.length ≤ workerMessageMaxBytes) .valueError
  orError .valueError (← loads line).dict?

structure Watch where
  loads : Loads
  challengeDigest : String
  grantId : String

/-! ## The state of the loop -/

structure MonitorState where
  deadline : ℚ
  authorized : Bool := false
  privacyReady : Bool := false
  captureStarting : Bool := false
  captureStartingNs : Option Int := none
  firstFrame : Bool := false
  firstFrameNs : Option Int := none
  captureClosed : Bool := false
  timedOut : Bool := false
  timeoutFailure : Option NativeFailure := none
  malformed : Bool := false
  payload : Option Dict := none

inductive Got where
  | empty
  | closed
  | line (line : Line)

/-- One turn of the loop: `head` is `time.monotonic()` at its head, `observedNs` and `now` are
`time.monotonic_ns()` and `time.monotonic()` while the message is handled. -/
structure Turn where
  head : ℚ
  got : Got
  observedNs : Int
  now : ℚ

/-- `x / 1_000_000_000`. -/
def secondsOfNs (ns : Int) : ℚ := ns / 1000000000

namespace MonitorState

def reject (state : MonitorState) : MonitorState := { state with malformed := true }

def expire (state : MonitorState) : MonitorState :=
  { state with
    timedOut := true
    timeoutFailure :=
      if !state.authorized || state.captureClosed then some .workerProtocolFailure
      else if !state.privacyReady || state.firstFrame then some .privacyGuardTimeout
      else some .captureStartupTimeout }

/-- `payload is None and not malformed`, unless a timeout broke the loop. -/
def running (state : MonitorState) : Bool := state.payload.isNone && !state.malformed && !state.timedOut

end MonitorState

/-- The integer of a payload `{"worker_monotonic_ns": n}`. -/
def workerMonotonicNs (evidence : Value) : Option Int :=
  match evidence.dict? with
  | some fields => if fields.HasKeys ["worker_monotonic_ns"] then (fields.get "worker_monotonic_ns").int? else none
  | none => none

def messageKeys : List String := ["event", "challenge_digest", "payload"]

/-! ## One message -/

variable (watch : Watch)

def onAuthorized (turn : Turn) (message : Dict) (state : MonitorState) : MonitorState :=
  match (message.get "payload").dict? with
  | none => state.reject
  | some evidence =>
    if ¬ message.HasKeys messageKeys ∨ state.authorized ∨ state.firstFrame ∨ ¬ evidence.HasKeys ["grant_id"]
        ∨ !(evidence.get "grant_id").eq (.str watch.grantId) then state.reject
    else { state with authorized := true, deadline := turn.now + workerPrivacyReadyTimeout }

def onPrivacyReady (turn : Turn) (message : Dict) (state : MonitorState) : MonitorState :=
  if ¬ message.HasKeys ["event", "challenge_digest"] ∨ !state.authorized ∨ state.privacyReady
      ∨ state.captureStarting ∨ state.firstFrame then state.reject
  else { state with privacyReady := true, deadline := turn.now + workerDeviceSetupTimeout }

def onCaptureStarting (turn : Turn) (message : Dict) (state : MonitorState) : MonitorState :=
  if ¬ message.HasKeys messageKeys ∨ !state.privacyReady ∨ state.captureStarting ∨ state.firstFrame then
    state.reject
  else
    match workerMonotonicNs (message.get "payload") with
    | none => state.reject
    | some ns =>
      let state := { state with captureStartingNs := some ns }
      if ns ≤ 0 ∨ ns > turn.observedNs then state.reject
      else { state with captureStarting := true, deadline := secondsOfNs ns + workerFirstFrameTimeout }

def onFirstFrame (turn : Turn) (message : Dict) (state : MonitorState) : MonitorState :=
  match state.captureStartingNs, workerMonotonicNs (message.get "payload") with
  | some startingNs, some ns =>
    if ¬ message.HasKeys messageKeys ∨ !state.authorized ∨ !state.privacyReady ∨ !state.captureStarting
        ∨ state.firstFrame then state.reject
    else
      let state := { state with firstFrameNs := some ns }
      if ns ≤ 0 ∨ ns > turn.observedNs ∨ ns < startingNs then state.reject
      else
        let deadline := secondsOfNs ns + workerCaptureTimeout
        { state with firstFrame := true, deadline, timedOut := decide (deadline ≤ turn.now) }
  | _, _ => state.reject

def onCaptureClosed (turn : Turn) (message : Dict) (state : MonitorState) : MonitorState :=
  match state.captureStartingNs, workerMonotonicNs (message.get "payload") with
  | some startingNs, some ns =>
    if ¬ message.HasKeys messageKeys ∨ !state.authorized ∨ !state.privacyReady ∨ !state.captureStarting
        ∨ state.captureClosed then state.reject
    else if ns ≤ 0 ∨ ns < startingNs ∨ ns > turn.observedNs
        ∨ state.firstFrameNs.any (fun first => ns < first ∨ ns - first > captureLimitNs) then state.reject
    else { state with captureClosed := true, deadline := turn.now + workerReportTimeout }
  | _, _ => state.reject

def onReceipt (message : Dict) (state : MonitorState) : MonitorState :=
  match (message.get "payload").dict? with
  | some payload => if message.HasKeys messageKeys then { state with payload := some payload } else state.reject
  | none => state.reject

def handleMessage (turn : Turn) (message : Dict) (state : MonitorState) : MonitorState :=
  if !(message.get "challenge_digest").eq (.str watch.challengeDigest) then state.reject
  else
    match (message.get "event").str? with
    | some "AUTHORIZED" => onAuthorized watch turn message state
    | some "PRIVACY_READY" => onPrivacyReady turn message state
    | some "CAPTURE_STARTING" => onCaptureStarting turn message state
    | some "FIRST_FRAME" => onFirstFrame turn message state
    | some "CAPTURE_CLOSED" => onCaptureClosed turn message state
    | some "RECEIPT" => onReceipt message state
    | _ => state.reject

/-- The body of the loop for one line: only `TypeError` and `ValueError` make it malformed. -/
def receiveLine (turn : Turn) (line : Line) (state : MonitorState) : Except Raised MonitorState :=
  match strictWorkerMessage watch.loads line with
  | .ok message => .ok (handleMessage watch turn message state)
  | .error .typeError => .ok state.reject
  | .error .valueError => .ok state.reject
  | .error raised => .error raised

/-- The loop. When nothing arrives any more, `messages.get` waits for the deadline. -/
def monitorLoop : List Turn → MonitorState → Except Raised MonitorState
  | [], state => .ok state.expire
  | turn :: turns, state =>
    if state.deadline - turn.head ≤ 0 then .ok state.expire
    else
      match turn.got with
      | .empty => .ok state.expire
      | .closed => .ok state
      | .line line => do
        let state ← receiveLine watch turn line state
        if state.running then monitorLoop turns state else return state

/-! ## The result -/

structure WorkerMonitorResult where
  payload : Option Dict
  authorized : Bool
  firstFrame : Bool
  captureClosed : Bool
  timedOut : Bool
  malformed : Bool
  jobDrained : Bool
  pipeClosed : Bool
  readerStopped : Bool
  forcedTermination : Bool
  exitCode : Option Int
  privacyReady : Bool
  captureStarting : Bool
  captureStartingNs : Option Int
  timeoutFailure : Option NativeFailure

/-- What the watched process does: when the monitor starts, its turns, and how the process ends. -/
structure WorkerRun where
  start : ℚ
  turns : List Turn
  waitDrained : Bool
  terminateAndDrain : Bool
  exitCode : Option Int
  stdoutClosed : Bool
  readerStopped : Bool

def monitorCaptureWorker (run : WorkerRun) : Except Raised WorkerMonitorResult := do
  let state ← monitorLoop watch run.turns { deadline := run.start + workerAuthorizationTimeout }
  let drained := state.payload.isSome && !state.malformed && !state.timedOut && run.waitDrained
  return {
    payload := state.payload
    authorized := state.authorized
    firstFrame := state.firstFrame
    captureClosed := state.captureClosed
    timedOut := state.timedOut
    malformed := state.malformed
    jobDrained := drained || run.terminateAndDrain
    pipeClosed := run.stdoutClosed
    readerStopped := run.readerStopped
    forcedTermination := !drained
    exitCode := run.exitCode
    privacyReady := state.privacyReady
    captureStarting := state.captureStarting
    captureStartingNs := state.captureStartingNs
    timeoutFailure := state.timeoutFailure }

namespace WorkerMonitorResult

/-- `_monitor_allows_candidate`. -/
def allowsCandidate (monitor : WorkerMonitorResult) : Bool :=
  monitor.payload.isSome
    && monitor.authorized
    && !monitor.timedOut
    && !monitor.malformed
    && monitor.jobDrained
    && monitor.pipeClosed
    && monitor.readerStopped
    && !monitor.forcedTermination
    && monitor.exitCode = some 0

/-- `_monitor_failure_code`. -/
def failureCode (monitor : WorkerMonitorResult) (workerLeaseClosed jobClosed : Bool) : NativeFailure :=
  if monitor.timedOut then
    match monitor.timeoutFailure with
    | some failure => failure
    | none =>
      if !monitor.authorized || monitor.captureClosed then .workerProtocolFailure
      else if !monitor.privacyReady || monitor.firstFrame then .privacyGuardTimeout
      else .captureStartupTimeout
  else if !workerLeaseClosed || !jobClosed || !monitor.jobDrained then .cleanupIncomplete
  else .workerProtocolFailure

end WorkerMonitorResult

end PduExamObserver.Native
