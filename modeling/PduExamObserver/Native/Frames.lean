import PduExamObserver.Native.Receipts

/-! # The frame loop of a capture

The loop that both capture workers run: it takes what the frame reader hands over, checks the clocks, looks
at the frame for a face and for a person, and records it. A turn carries the answers of every call that it may
make; each of them may raise. -/

namespace PduExamObserver.Native
set_option autoImplicit false

/-- `_RunState`. Measures in milliseconds are read exactly. -/
structure RunState where
  firstIngressNs : Option Int := none
  previousIngressNs : Option Int := none
  previousVideoTimestampMs : Int := -1
  deliveredFrames : Nat := 0
  processedFrames : Nat := 0
  postWarmupProcessedFrames : Nat := 0
  privacyCheckedFrames : Nat := 0
  privacyStopCount : Nat := 0
  faceDetections : Nat := 0
  poseDetections : Nat := 0
  maxBacklogNs : Int := 0
  gapsMs : List ℚ := []
  latenciesMs : List ℚ := []
  failure : Option NativeFailure := none

/-- `x / 1_000_000`. -/
def millisecondsOfNs (ns : Int) : ℚ := ns / 1000000

/-- `_RunState.record`, once the first frame is known. -/
def RunState.record (state : RunState) (first ingress latencyNs : Int) : RunState :=
  let state :=
    if ingress - first ≥ warmupSeconds * 1000000000 then
      { state with
        gapsMs :=
          match state.previousIngressNs with
          | some previous =>
            if state.deliveredFrames = 0 then state.gapsMs
            else state.gapsMs ++ [millisecondsOfNs (ingress - previous)]
          | none => state.gapsMs
        latenciesMs := state.latenciesMs ++ [millisecondsOfNs latencyNs]
        postWarmupProcessedFrames := state.postWarmupProcessedFrames + 1 }
    else state
  { state with deliveredFrames := state.deliveredFrames + 1, processedFrames := state.processedFrames + 1 }

/-- What `_FrameReader.next` hands over; `count` and `ingress` are what the reader has put there. -/
inductive ReaderEvent where
  | readException
  | ingressClockException
  | eof
  | frame (count ingress : Option Int)

/-- The answers of one turn: the reader's event, or nothing within a second, and whether it is still alive;
the clock when the frame is taken; the sink for the first frame; the two inspections; the clock after them. -/
structure FrameTurn where
  event : Option ReaderEvent
  alive : Bool
  dequeued : Except Raised Int
  sent : Except Raised Unit
  face : Except Raised Bool
  pose : Except Raised Bool
  completed : Except Raised Int

structure LoopState where
  run : RunState := {}
  firstFrame : Option Int := none

structure Halt where
  loop : LoopState
  raised : Bool

namespace LoopState

/-- `state.failure = failure; break`. -/
def fail (loop : LoopState) (failure : NativeFailure) : Halt :=
  { loop := { loop with run := { loop.run with failure := some failure } }, raised := false }

/-- `state.privacy_stop_count = 1; state.failure = PRIVACY_STOP; break`. -/
def stop (loop : LoopState) : Halt :=
  { loop with run := { loop.run with privacyStopCount := 1 } }.fail .privacyStop

def raise (loop : LoopState) : Halt := { loop, raised := true }

end LoopState

def orRaise {α : Type} (loop : LoopState) : Except Raised α → Except Halt α
  | .ok a => .ok a
  | .error _ => .error loop.raise

namespace FrameTurn

variable (turn : FrameTurn)

def readFrame (loop : LoopState) : Except Halt Int :=
  match turn.event with
  | none => .error (loop.fail (if turn.alive then .frameStalled else .frameReaderException))
  | some .readException | some .ingressClockException => .error (loop.fail .frameReaderException)
  | some .eof =>
    .error (loop.fail (if loop.run.deliveredFrames = 0 then .inputUnavailable else .inputMalformed))
  | some (.frame none _) => .error (loop.fail .frameReaderException)
  | some (.frame (some count) ingress) =>
    if count ≠ frameBytes then .error (loop.fail .inputMalformed)
    else
      match ingress with
      | none => .error (loop.fail .frameReaderException)
      | some ingress => .ok ingress

end FrameTurn

namespace LoopState

variable (loop : LoopState)

/-- `state.max_backlog_ns = max(state.max_backlog_ns, backlog)`. -/
def withBacklog (backlog : Int) : LoopState :=
  { loop with run := { loop.run with maxBacklogNs := max loop.run.maxBacklogNs backlog } }

def firstOf (ingress : Int) : Int := loop.run.firstIngressNs.getD ingress

def withFirst (ingress : Int) : LoopState :=
  { loop with run := { loop.run with firstIngressNs := some (loop.firstOf ingress) } }

def announced (ingress : Int) : LoopState := { loop with firstFrame := some ingress }

def withTimestamp (timestampMs : Int) : LoopState :=
  { loop with run := { loop.run with previousVideoTimestampMs := timestampMs } }

def withFace : LoopState :=
  { loop with run := { loop.run with faceDetections := loop.run.faceDetections + 1 } }

def withPose : LoopState :=
  { loop with run := { loop.run with poseDetections := loop.run.poseDetections + 1 } }

/-- `state.privacy_checked_frames += 1`. -/
def withPrivacyCheck : LoopState :=
  { loop with run := { loop.run with privacyCheckedFrames := loop.run.privacyCheckedFrames + 1 } }

def recorded (first ingress latencyNs : Int) : LoopState :=
  { loop with run := { loop.run.record first ingress latencyNs with previousIngressNs := some ingress } }

end LoopState

namespace FrameTurn

variable (turn : FrameTurn)

def noteFirst (sink : Bool) (ingress : Int) (loop : LoopState) : Except Halt LoopState :=
  if loop.run.firstIngressNs.isNone && sink then do
    orRaise (loop.withFirst ingress) turn.sent
    return (loop.withFirst ingress).announced ingress
  else .ok (loop.withFirst ingress)

def checkGap (ingress : Int) (loop : LoopState) : Except Halt Unit :=
  match loop.run.previousIngressNs with
  | none => .ok ()
  | some previous =>
    if ingress - previous ≤ 0 then .error (loop.fail .clockRegression)
    else if ingress - previous ≥ 1000000000 then .error (loop.fail .frameStalled)
    else .ok ()

/-- `(ingress - state.first_ingress_ns) // 1_000_000`. -/
def timestampMs (first ingress : Int) : Int := (ingress - first) / 1000000

def admitFrame (sink : Bool) (ingress : Int) (loop : LoopState) : Except Halt LoopState := do
  let dequeued ← orRaise loop turn.dequeued
  if dequeued < ingress then .error (loop.fail .clockRegression)
  else
    let noted ← turn.noteFirst sink ingress (loop.withBacklog (dequeued - ingress))
    checkGap ingress noted
    let timestamp := timestampMs (loop.firstOf ingress) ingress
    if timestamp ≤ loop.run.previousVideoTimestampMs then .error (noted.fail .clockRegression)
    else .ok (noted.withTimestamp timestamp)

def inspectFace (loop : LoopState) : Except Halt Unit :=
  match turn.face with
  | .ok false => .ok ()
  | .ok true => .error loop.withFace.stop
  | .error _ => .error loop.stop

def inspectPose (loop : LoopState) : Except Halt Unit :=
  match turn.pose with
  | .ok false => .ok ()
  | .ok true => .error loop.withPose.stop
  | .error _ => .error (loop.fail .poseEngineException)

def complete (ingress : Int) (loop : LoopState) : Except Halt Int := do
  let completed ← orRaise loop turn.completed
  if completed < ingress then .error (loop.fail .clockRegression) else .ok (completed - ingress)

/-- One turn of the loop: the state after it, and whether the frame completes the required duration. -/
def take (sink : Bool) (loop : LoopState) : Except Halt (LoopState × Bool) := do
  let ingress ← turn.readFrame loop
  let admitted ← turn.admitFrame sink ingress loop
  turn.inspectFace admitted
  turn.inspectPose admitted
  let latencyNs ← turn.complete ingress admitted.withPrivacyCheck
  let first := loop.firstOf ingress
  return (admitted.withPrivacyCheck.recorded first ingress latencyNs,
    decide (ingress - first ≥ preflightSeconds * 1000000000))

end FrameTurn

def captureLoop (sink alive : Bool) : List FrameTurn → LoopState → Halt
  | [], loop => loop.fail (if alive then .frameStalled else .frameReaderException)
  | turn :: turns, loop =>
    match turn.take sink loop with
    | .error halt => halt
    | .ok (loop, true) => { loop, raised := false }
    | .ok (loop, false) => captureLoop sink alive turns loop

/-! ## Thresholds -/

/-- `nearest_rank`, for values that are there. -/
def nearestRank (values : List ℚ) (percentile : Nat) : ℚ :=
  (values.insertionSort (· ≤ ·)).getD ((values.length * percentile + 99) / 100 - 1) 0

def thresholdFailure (state : RunState) (total post : ℚ) : Option NativeFailure :=
  if total < preflightSeconds ∨ post < preflightSeconds - warmupSeconds then some .inputMalformed
  else if state.gapsMs = [] ∨ state.latenciesMs = [] ∨ state.processedFrames = 0 then some .qualityInsufficient
  else if state.maxBacklogNs > 2000000000 ∨ state.postWarmupProcessedFrames / post < 27 / 2
      ∨ nearestRank state.gapsMs 95 > 200 ∨ nearestRank state.latenciesMs 95 > 200
      ∨ nearestRank state.latenciesMs 99 > 500 then some .qualityInsufficient
  else none

end PduExamObserver.Native
