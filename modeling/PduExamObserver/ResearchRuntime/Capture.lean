import PduExamObserver.ResearchRuntime.Governance

/-! # Capturing frames

From the start of a collection to its stop: the frames that `ingest_frame` takes, the artifacts it writes and
the events it emits. -/

namespace PduExamObserver.ResearchRuntime
open Showcase Stateful
set_option autoImplicit false

/-! ## The artifact stream -/

inductive Encoder where
  | unavailable
  | notOpened
  | opened
  deriving DecidableEq, Repr

inductive LineWrite where
  | written
  | raised (line : Bool) (torn : Bool)
  deriving DecidableEq, Repr

structure WriteEnv where
  encoder : Encoder := .opened
  poseOpens : Bool := true
  line : LineWrite := .written
  deriving DecidableEq

def videoPartial : String := "raw_video.partial.avi"

def posePartial : String := "pose_timeline.jsonl.partial"

def videoTranscoding : String := "raw_video.partial.mp4"

def videoDestination : String := "raw_video.mp4"

def poseDestination : String := "pose_timeline.jsonl"

def Collection.files (c : Collection) : Directory := c.directory.getD []

def Collection.names (c : Collection) : List String := c.files.map Prod.fst

def Collection.hasFile (c : Collection) (name : String) : Bool := (c.files.lookup name).isSome

def putFile (name : String) (content : Content) : Op Unit :=
  modify fun c => { c with directory := c.directory.map fun directory => directory.put name content }

/-- The part of `_write_frame_locked` that opens the two files for the first frame. -/
def openStream (env : WriteEnv) (capturedNs : Int) : Op ArtifactStream := do
  if env.encoder = .unavailable then throw (.runtimeErrorBase "ENCODER_UNAVAILABLE")
  else if env.encoder = .notOpened ∨ (← get).directory.isNone then
    throw (.runtimeErrorBase "ENCODER_MP4_UNAVAILABLE")
  else
    putFile videoPartial (.video [])
    if !env.poseOpens ∨ (← get).hasFile posePartial then throw .osError
    else
      putFile posePartial (.timeline [] false)
      let stream : ArtifactStream := { originNs := capturedNs }
      updateMemory fun memory => { memory with stream := some stream }
      return stream

def Content.lines : Content → List Observation
  | .timeline lines _ => lines
  | _ => []

def Collection.partialLines (c : Collection) : List Observation :=
  ((c.files.lookup posePartial).map Content.lines).getD []

def writeLine (env : WriteEnv) (observation : Observation) : Op Unit := do
  let lines := (← get).partialLines
  match env.line with
  | .written => putFile posePartial (.timeline (lines ++ [observation]) false)
  | .raised line torn =>
    putFile posePartial (.timeline (if line then lines ++ [observation] else lines) torn)
    throw .osError

/-- The part of `_write_frame_locked` that writes to the open stream: the number of repeated frames that fill a gap. -/
def writeTo (env : WriteEnv) (observation : Observation) (stream : ArtifactStream) : Op Nat := do
  match stream.write observation.capturedNs observation.frameSeq with
  | none => throw (.runtimeErrorBase "FRAME_GAP_EXCEEDED")
  | some after =>
    updateMemory fun memory => { memory with stream := some after }
    putFile videoPartial (.video after.video)
    writeLine env observation
    return (stream.missing observation.capturedNs).toNat

/-- `_write_frame_locked`. -/
def writeFrame (env : WriteEnv) (observation : Observation) : Op Nat := do
  let stream ← match (← get).memory.stream with
    | some stream => pure stream
    | none => openStream env observation.capturedNs
  writeTo env observation stream

/-! ## Rules and models -/

/-- `frozen-rules.v1.json`, as read and parsed: its digest, the digest of the rest of it, and what
`RulePolicy.from_protocol_freeze` makes of it. -/
structure FrozenRules where
  protocolFreezeSha256 : Option String
  unsignedSha256 : String
  protocolVersion : Option RecordValue
  policy : Option RulePolicy

/-- What the rules and the model see while one frame is emitted. A file that cannot be read or parsed is none;
an orientation is none if the pose has none; `infer` is the model stage with the exceptions that it catches. -/
structure EmitEnv where
  frozenRules : Option FrozenRules
  authority : AuthorityAnswer
  orientation : Option (Rat × Rat)
  hasModelProvider : Bool
  infer : List Observation → Except RuntimeError (Option Prediction)

/-- The exceptions that `_policy_for_session` catches; an authority that is denied here is none of them. -/
def isPolicyError : RuntimeError → Bool
  | .osError | .valueError _ | .typeError => true
  | _ => false

/-- `_policy_for_session`. -/
def policyForSession (setup : Setup) (env : EmitEnv) (row : Session) : Except RuntimeError (Option RulePolicy) :=
  if row.sourceKind ≠ .real then .ok (some .demo)
  else
    match env.frozenRules with
    | none => .ok none
    | some document =>
      match document.protocolFreezeSha256 with
      | none => .ok none
      | some digest =>
        match validateAuthority setup env.authority (row.authorityReference.getD "None") false with
        | .error e => if isPolicyError e then .ok none else .error e
        | .ok authority =>
          if document.unsignedSha256 ≠ digest ∨ document.protocolVersion ≠ authority "protocol_version" then .ok none
          else .ok document.policy

/-- `_event_payload` of a rule event. -/
def rulePayload (row : Session) (event : RuleEvent) (signal : String) (policy : RulePolicy)
    (confidence : Option Rat) : ObservablePayload where
  researchLabel := event.label
  startMs := event.startMs
  endMs := event.endMs
  sourceSignals := [signal]
  confidenceStatus := if confidence.isSome then "CALIBRATED" else "NOT_APPLICABLE"
  confidence
  sourceKind := row.sourceKind
  policyVersion := policy.policyVersion
  logicalId := some event.logicalId
  eventState := some event.kind
  eligibleOnsetMs := some event.eligibleOnsetMs

/-- One turn of the loop of `_persist_rule_events_locked`. -/
def persistRuleEvent (row : Session) (signal : String) (policy : RulePolicy) (confidence : Option Rat)
    (event : RuleEvent) : Op Unit := do
  let payload := rulePayload row event signal policy confidence
  match (← get).memory.logicalEvents.lookup event.logicalId with
  | none =>
    let saved ← appendEvent (.observableEvent payload)
    updateMemory fun memory => { memory with logicalEvents := (event.logicalId, saved) :: memory.logicalEvents }
  | some existing =>
    updateSession fun session => { session with
      events := session.events.map fun e =>
        if e.eventId = existing then { e with body := .observableEvent payload } else e }
    let _ ← appendEvent (.eventBoundaryUpdate existing event.startMs event.endMs event.kind)

/-- `_persist_rule_events_locked`. -/
def persistRuleEvents (row : Session) (signal : String) (policy : RulePolicy) (confidence : Option Rat)
    (events : List RuleEvent) : Op Unit :=
  forM events (persistRuleEvent row signal policy confidence)

def independentTemporalRules : String := "INDEPENDENT_TEMPORAL_RULES"

def stGcnTemporalModel : String := "ST_GCN_TEMPORAL_MODEL"

/-- A prediction that the events may use: one of four labels and a confidence between 0 and 1. -/
def Prediction.valid (prediction : Prediction) : Option (Label × Rat) :=
  match prediction.label, prediction.confidence with
  | some label, some confidence =>
    if label ∈ [Label.normal, .benignConfounder, .prolongedHeadDown, .prolongedSideLook] ∧
        0 ≤ confidence ∧ confidence ≤ 1 then some (label, confidence)
    else none
  | _, _ => none

def predict (env : EmitEnv) (observation : Observation) (qualityOk : Bool) (frames : List Observation) :
    Except RuntimeError (Option Prediction) :=
  if qualityOk ∧ (frames.all fun item => item.poseCount = 1) ∧ observation.focus ≠ .focusUnknown then
    env.infer frames
  else .ok none

/-- The end of `_emit_model_or_rule_locked`: the events of the model. -/
def emitPrediction (row : Session) (observation : Observation) (policy : RulePolicy) (timestampMs : Int)
    (modelEngine : TemporalRuleEngine) (prediction : Option Prediction) : Op Unit := do
  let valid := prediction.bind Prediction.valid
  let _ ← appendEvent (.modelState observation.frameSeq valid.isSome prediction)
  let logicalId ← uuid
  match modelEngine.advance logicalId timestampMs 1 (some 0) (some 0) valid.isSome
      (some ((valid.map Prod.fst).getD .uncertain)) with
  | none => throw (.valueError "TIMESTAMP_NOT_MONOTONIC")
  | some (engine, events) =>
    updateMemory fun memory => { memory with modelEngine := some engine }
    persistRuleEvents row stGcnTemporalModel policy (valid.map Prod.snd) events

/-- The second part of `_emit_model_or_rule_locked`: the model, at most every half second over six seconds. -/
def emitModel (env : EmitEnv) (row : Session) (observation : Observation) (policy : RulePolicy) (timestampMs : Int)
    (qualityOk : Bool) : Op Unit := do
  let memory := (← get).memory
  match memory.poseBuffer with
  | first :: _ :: _ =>
    if env.hasModelProvider = false ∨ observation.capturedNs - first.capturedNs < 5933333334 ∨
        timestampMs - memory.lastModelTime.getD (-1000) < 500 then
      return
    else
      let frames := memory.poseBuffer.filter fun item => observation.capturedNs - 6000000000 ≤ item.capturedNs
      let modelEngine := memory.modelEngine.getD { policy }
      updateMemory fun memory => { memory with
        lastModelTime := some timestampMs
        modelEngine := some modelEngine }
      let prediction ← liftExcept (predict env observation qualityOk frames)
      emitPrediction row observation policy timestampMs modelEngine prediction
  | _ => return

def frameScores (env : EmitEnv) (observation : Observation) : Bool × Rat × Rat :=
  let qualityOk := observation.quality.state = .sufficient ∨ observation.quality.state = .synthetic
  if observation.poseCount = 1 then
    match env.orientation with
    | some (down, side) => (qualityOk, down, side)
    | none => (false, 0, 0)
  else (qualityOk, 0, 0)

def applyRules (env : EmitEnv) (row : Session) (observation : Observation) (engine : TemporalRuleEngine)
    (timestampMs : Int) : Op Unit := do
  let (qualityOk, down, side) := frameScores env observation
  let logicalId ← uuid
  match engine.advance logicalId timestampMs observation.poseCount (some down) (some side) qualityOk none with
  | none => throw (.valueError "TIMESTAMP_NOT_MONOTONIC")
  | some (after, events) =>
    updateMemory fun memory => { memory with ruleEngine := some after }
    persistRuleEvents row independentTemporalRules engine.policy none events
    emitModel env row observation engine.policy timestampMs qualityOk

/-- `_emit_model_or_rule_locked`, once there is a policy. -/
def emitRules (env : EmitEnv) (row : Session) (observation : Observation) (policy : RulePolicy)
    (timestampMs : Int) : Op Unit := do
  let engine := (← get).memory.ruleEngine.getD { policy }
  updateMemory fun memory => { memory with ruleEngine := some engine }
  if observation.frameSeq = 1 then
    let _ ← appendEvent (.rulePolicyBound engine.policy)
  applyRules env row observation engine timestampMs

/-- `_emit_model_or_rule_locked`. -/
def emitModelOrRule (setup : Setup) (env : EmitEnv) (row : Session) (observation : Observation) : Op Unit := do
  let origin := (← get).memory.captureOrigin.getD observation.capturedNs
  updateMemory fun memory => { memory with captureOrigin := some origin }
  let policy ← liftExcept (policyForSession setup env row)
  match policy with
  | none =>
    if observation.frameSeq = 1 then
      let _ ← appendEvent (.technicalState false)
  | some policy => emitRules env row observation policy ((observation.capturedNs - origin) / 1000000)

/-! ## `ingest_frame` -/

/-- What `_analyze_frame` finds: the quality and the poses, or the failure that it reports. -/
inductive Analysis where
  | poses (state : QualityState) (blur exposure : Rat) (landmarks : List (List Landmark))
  | error (code : String)
  deriving DecidableEq

/-- `captured_at`, as `ingest_frame` uses it: not finite, finite with a product by 10⁹ that is infinite, or this many
nanoseconds. -/
inductive CaptureTime where
  | notFinite
  | overflows
  | nanoseconds (ns : Int)
  deriving DecidableEq

/-- `int(captured_at * 1_000_000_000)` of a finite time. -/
def CaptureTime.toNs : CaptureTime → Except RuntimeError Int
  | .nanoseconds ns => .ok ns
  | _ => .error .overflowError

/-- Everything that one call of `ingest_frame` is given or sees. A count of dropped frames that is no natural number
is none, and the shape of what is no array is none. `closeRaises` says that flushing the timeline raises when the
stream is closed. -/
structure FrameEnv where
  authority : AuthorityAnswer
  exportNow : Rat
  capturedAt : CaptureTime
  droppedFrames : Option Nat
  shape : Option (List Nat)
  analysis : Analysis
  focusAgeMs : Rat
  write : WriteEnv
  closeRaises : Bool
  emit : EmitEnv

def frameRefusal : Option (List Nat) → Option String
  | some [height, width, channels] =>
    if channels ≠ 3 ∧ channels ≠ 4 then some "FRAME_INVALID"
    else if height ≠ 720 ∨ width ≠ 1280 then some "CAPTURE_PROFILE_MISMATCH"
    else none
  | _ => some "FRAME_INVALID"

/-- `float(np.mean(...))` of the visibilities. -/
def visibilityMean (pose : List Landmark) : Rat := (pose.map Landmark.visibility).sum / pose.length

/-- The observation that `ingest_frame` makes of a frame. -/
def observationOf (env : FrameEnv) (row : Session) (history : List Observation) (capturedNs : Int)
    (state : QualityState) (blur exposure : Rat) (landmarks : List (List Landmark)) : Observation where
  frameSeq := row.frameSeq + 1
  capturedNs
  poseCount := landmarks.length
  landmarks
  quality := {
    state
    blur
    exposure
    visibilityMean := match landmarks with
      | [pose] => visibilityMean pose
      | _ => 0
    frameGapRatio := match history.getLast? with
      | none => 0
      | some last => min (max 0 ((capturedNs - last.capturedNs : Rat) / 66666667 - 1)) 1 }
  focus := if env.focusAgeMs ≤ 6000 then row.focusState else .focusUnknown
  focusAgeMs := min env.focusAgeMs 6001

/-- `deque(maxlen=180).append`. -/
def pushBounded (history : List Observation) (observation : Observation) : List Observation :=
  (history ++ [observation]).drop (history.length + 1 - 180)

def safeCode (code : String) : Bool :=
  code ≠ "" && code.length < 80 && code.toList.all fun c => "ABCDEFGHIJKLMNOPQRSTUVWXYZ_".toList.contains c

/-- The handler around `_write_frame_locked`. -/
def writeRefused (closeRaises : Bool) : RuntimeError → Op (Option Nat)
  | .osError => do
    failLocked closeRaises "ARTIFACT_WRITE_FAILED"
    return none
  | .runtimeErrorBase code | .invalidTransition code | .authorityDenied code | .revisionConflict code => do
    failLocked closeRaises (if safeCode code then code else "ARTIFACT_WRITE_FAILED")
    return none
  | e => throw e

/-- The largest integer that a column of the database takes. -/
def sqliteMax : Nat := 2 ^ 63 - 1

/-- The end of `ingest_frame`: the frame has been written. -/
def recordFrame (setup : Setup) (env : FrameEnv) (row : Session) (observation : Observation) (hole : Nat) :
    Op Unit := do
  if sqliteMax < row.droppedFrames + hole then throw .overflowError
  else
    updateSession fun session => { session with
      frameSeq := observation.frameSeq
      qualityState := observation.quality.state
      droppedFrames := row.droppedFrames + hole
      gapEvents := if hole ≠ 0 then row.gapEvents + 1 else session.gapEvents
      maxGapFrames := if hole ≠ 0 then max row.maxGapFrames hole else session.maxGapFrames }
    updateMemory fun memory => { memory with poseBuffer := pushBounded memory.poseBuffer observation }
    let _ ← appendEvent (.poseObservation observation)
    emitModelOrRule setup env.emit row observation

/-- The part of `ingest_frame` that writes an observation. -/
def storeFrame (setup : Setup) (env : FrameEnv) (row : Session) (observation : Observation) (dropped : Nat) :
    Op Unit := do
  let missing ← tryCatch (some <$> writeFrame env.write observation) (writeRefused env.closeRaises)
  match missing with
  | none => return
  | some missing => recordFrame setup env row observation (max dropped missing)

/-- The part of `ingest_frame` for a valid frame with a finite capture time. -/
def takeFrame (setup : Setup) (env : FrameEnv) (row : Session) (capturedNs : Int) (dropped : Nat) : Op Unit := do
  let history := (← get).memory.poseBuffer
  if history.getLast?.any (fun last => capturedNs ≤ last.capturedNs) then
    failLocked env.closeRaises "CAPTURE_TIMESTAMP_INVALID"
  else
    match env.analysis with
    | .error code => failLocked env.closeRaises code
    | .poses state blur exposure landmarks =>
      storeFrame setup env row (observationOf env row history capturedNs state blur exposure landmarks) dropped

/-- The authority of a frame of a real session has been denied; any other exception of the check escapes. -/
def authorityRefused (setup : Setup) (env : FrameEnv) (row : Session) : Except RuntimeError Bool :=
  if row.sourceKind = .real then
    match validateExportAuthority setup env.authority env.exportNow row with
    | .ok () => .ok false
    | .error (.authorityDenied _) => .ok true
    | .error e => .error e
  else .ok false

/-- The checks of `ingest_frame` in their order: why a frame is refused before it is looked at. -/
def ingestRefusal (setup : Setup) (env : FrameEnv) (row : Session) : Except RuntimeError (Option String) := do
  if ← authorityRefused setup env row then return some "COLLECTION_AUTHORITY_INVALID"
  else if env.capturedAt = .notFinite then return some "CAPTURE_TIMESTAMP_INVALID"
  else if env.droppedFrames = none then return some "CAPTURE_ACCOUNTING_INVALID"
  else return frameRefusal env.shape

def ingestFrame (setup : Setup) (env : FrameEnv) : Op Unit := locked do
  let row ← requireState [.recording]
  match ← liftExcept (ingestRefusal setup env row) with
  | some code => failLocked env.closeRaises code
  | none =>
    let capturedNs ← liftExcept env.capturedAt.toNs
    takeFrame setup env row capturedNs (env.droppedFrames.getD 0)

end PduExamObserver.ResearchRuntime
