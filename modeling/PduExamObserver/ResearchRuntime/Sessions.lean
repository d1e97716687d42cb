import PduExamObserver.ResearchRuntime.Capture

/-! # Starting and stopping a session

From the creation of a session to the end of its collection: the preflight, the synthetic fixture, the real
collection with its camera worker, and the finalization of the artifacts. -/

namespace PduExamObserver.ResearchRuntime
open Showcase Stateful
set_option autoImplicit false

/-! ## Before the collection -/

/-- `create_session`; the artifact directory is made first. -/
def createSession (sessionId : String) (sourceKind : SourceKind) (participantPseudonym : String) : Collection where
  session := { sessionId, sourceKind, participantPseudonym, events := [⟨0, 1, .sessionCreated⟩] }
  directory := some []
  fresh := 1

abbrev Diagnostic := List (String × String)

def requiredDiagnostics : SourceKind → List String
  | .real => ["camera", "display", "disk"]
  | _ => ["disk"]

/-- The facts of a preflight; `measured` is the answer of the diagnostic provider, which only a real session asks. -/
def diagnosticFor (sourceKind : SourceKind) (requested : Option Diagnostic) (measured : Except RuntimeError Diagnostic) :
    Except RuntimeError Diagnostic :=
  if sourceKind = .real then measured
  else
    match requested with
    | none | some [] => .ok [("disk", "READY"), ("source", "synthetic")]
    | some diagnostic => .ok diagnostic

def preflight (requested : Option Diagnostic) (measured : Except RuntimeError Diagnostic) : Op Unit := locked do
  let session ← requireState [.draft]
  let diagnostic ← liftExcept (diagnosticFor session.sourceKind requested measured)
  let ready := (requiredDiagnostics session.sourceKind).all fun field => diagnostic.lookup field = some "READY"
  updateSession fun row => { row with
    state := if ready then .preflightReady else .failed
    failureCode := if ready then none else some "PREFLIGHT_FAILED" }
  let _ ← appendEvent (.technicalPreflight ready)

/-- `_assert_no_active_collection_locked`; `active` says that a session records or a capture thread is alive. -/
def assertNoActiveCollection (active : Bool) : Op Unit :=
  if active then throw (.invalidTransition "an active collection session already owns the camera") else return

/-! ## The synthetic fixture -/

/-- What one run of `_write_synthetic_fixture_locked` sees, frame by frame; `pose` is the skeleton it draws. -/
structure FixtureEnv where
  renderer : Bool
  baseNs : Int
  pose : Nat → List Landmark
  write : Nat → WriteEnv
  emit : Nat → EmitEnv
  closeRaises : Bool

def fixtureObservation (env : FixtureEnv) (frameSeq : Nat) : Observation where
  frameSeq
  capturedNs := env.baseNs + frameSeq * 66666667
  poseCount := 1
  landmarks := [env.pose frameSeq]
  quality := { state := .synthetic, blur := 5, exposure := 128, visibilityMean := 1, frameGapRatio := 0 }
  focus := .examFocused
  focusAgeMs := 0

/-- One turn of the loop of `_write_synthetic_fixture_locked`. -/
def writeFixtureFrame (setup : Setup) (env : FixtureEnv) (frameSeq : Nat) : Op Unit := do
  let observation := fixtureObservation env frameSeq
  let _ ← writeFrame (env.write frameSeq) observation
  updateMemory fun memory => { memory with poseBuffer := pushBounded memory.poseBuffer observation }
  let row ← sessionRow
  emitModelOrRule setup (env.emit frameSeq) row observation
  updateSession fun row => { row with frameSeq, qualityState := .synthetic }
  let _ ← appendEvent (.syntheticPoseObservation frameSeq observation.capturedNs)

/-- `_write_synthetic_fixture_locked`: six seconds at 15 frames a second. -/
def writeSyntheticFixture (setup : Setup) (env : FixtureEnv) : Op Unit := do
  if !env.renderer then throw (.runtimeErrorBase "SYNTHETIC_RENDERER_UNAVAILABLE")
  else forM (List.range' 1 90) (writeFixtureFrame setup env)

/-- `OSError` and `RuntimeErrorBase` with its subclasses. -/
def RuntimeError.isArtifactError : RuntimeError → Bool
  | .osError | .runtimeErrorBase _ | .invalidTransition _ | .authorityDenied _ | .revisionConflict _ => true
  | .valueError _ | .typeError | .overflowError | .subprocessError | .unexpected => false

def eventPayload (row : Session) (researchLabel : Label) (startMs endMs : Int) (sourceSignals : List String) :
    ObservablePayload where
  researchLabel
  startMs
  endMs
  sourceSignals
  confidenceStatus := "NOT_APPLICABLE"
  confidence := none
  sourceKind := row.sourceKind

def startSyntheticDemo (setup : Setup) (active : Bool) (fixtureName : String) (env : FixtureEnv) : Op Unit := locked do
  let row ← requireState [.preflightReady]
  if row.sourceKind = .real then throw (.invalidTransition "REAL sessions must use start_real_collection")
  else
    assertNoActiveCollection active
    updateSession fun row => { row with state := .recording }
    let _ ← appendEvent (.syntheticFixtureStarted fixtureName)
    let _ ← appendEvent (.technicalState true)
    let _ ← appendEvent (.observableEvent (eventPayload row .benignConfounder 0 6000 ["synthetic_fixture"]))
    tryCatch (writeSyntheticFixture setup env) fun e =>
      if e.isArtifactError then failLocked env.closeRaises "SYNTHETIC_FIXTURE_FAILED" else throw e

/-! ## The real collection -/

def startRealCollection (setup : Setup) (active : Bool) (authorityReference : String) (answer : AuthorityAnswer) :
    Op Unit := locked do
  let row ← requireState [.preflightReady]
  if row.sourceKind ≠ .real then throw (.invalidTransition "only REAL sessions can start real collection")
  else
    let authority ← liftExcept (validateAuthority setup answer authorityReference false)
    if authority "session_pseudonym" ≠ some (.str row.sessionId) then
      throw (.authorityDenied "AUTHORITY_SESSION_MISMATCH")
    else
      assertNoActiveCollection active
      updateSession fun row => { row with
        state := .recording
        authorityReference := some authorityReference
        participantPseudonym := authority.text "participant_pseudonym"
        protocolVersion := some (authority.text "protocol_version")
        operatorPseudonym := some (authority.text "operator_pseudonym") }
      let _ ← appendEvent .collectionStarted
      updateMemory fun memory => { memory with captureThread := true }
      modify fun c => { c with worker := true }

/-- `record_focus_context`; a focus that is none of `ALLOWED_FOCUS` is none. -/
def recordFocusContext (focus : Option Focus) : Op Unit := do
  match focus with
  | none => throw (.valueError "invalid focus state")
  | some focus => locked do
    let row ← requireState [.preflightReady, .recording]
    updateSession fun row => { row with focusState := focus }
    let _ ← appendEvent (.focusContext focus row.contaminatedFromSeq.isSome)

def markContamination : Op Unit := locked do
  let row ← requireState [.recording]
  if row.contaminatedFromSeq.isNone then
    let boundary := row.frameSeq + 1
    updateSession fun row => { row with contaminatedFromSeq := some boundary }
    let _ ← appendEvent (.operatorContaminationMarked boundary)

/-- The handler of `_camera_worker`, for an exception with this text. -/
def captureFails (code : String) (closeRaises : Bool) : Op Unit := locked do
  let row ← sessionRow
  if row.state = .recording then
    failLocked closeRaises (if safeCode code then code else "CAPTURE_PIPELINE_FAILED")

def workerEnds : Op Unit := modify fun c => { c with worker := false }

/-! ## The artifacts of a stopped session -/

/-- `unlink` of a file that need not be there. -/
def removeFile (name : String) : Op Unit :=
  modify fun c => { c with directory := c.directory.map fun directory => directory.erase name }

/-- `replace`: a file gets another name, in place of the file that has it. -/
def renameFile (source destination : String) : Op Unit := do
  match (← get).files.lookup source with
  | none => throw .osError
  | some content =>
    removeFile source
    putFile destination content

/-- One row of `INSERT OR REPLACE INTO runtime_artifacts`, with the digest and the size of the file. -/
def recordArtifact (setup : Setup) (name : String) : Op Unit := do
  match (← get).files.lookup name with
  | none => throw .osError
  | some content =>
    updateSession fun row => { row with
      artifacts := row.artifacts.filter (fun record => record.name ≠ name) ++
        [⟨name, setup.digests.sha256 content, setup.digests.size content⟩] }

/-- What stops an operation on files: an `OSError` after so many of its steps, or the end of the process. -/
structure Fault where
  steps : Nat
  ends : Bool
  deriving DecidableEq, Repr

def Fault.error (fault : Fault) : RuntimeError := if fault.ends then .unexpected else .osError

def stepwise (fault : Option Fault) (steps : List (Op Unit)) : Op Unit :=
  interrupted (fault.map fun fault => (fault.steps, fault.error)) steps

/-- How `subprocess.run` of the transcoder ends. -/
inductive TranscodeEnd where
  | exited (returnCode : Int)
  | osError
  | timeout
  deriving DecidableEq, Repr

/-- The transcoder; `output` is what it leaves behind, if anything. -/
structure Transcode where
  output : Option (List UInt8)
  outcome : TranscodeEnd
  deriving DecidableEq, Repr

/-- What closing and finalizing a stream sees: whether the last flush raises, the transcoder if there is one, and
what stops the renaming and recording. -/
structure FinalizeEnv where
  closeRaises : Bool := false
  transcode : Option Transcode
  fault : Option Fault := none

def Collection.fileSize (setup : Setup) (c : Collection) (name : String) : Option Nat :=
  (c.files.lookup name).map setup.digests.size

def leaveOutput : Option (List UInt8) → Op Unit
  | none => return
  | some octets => putFile videoTranscoding (.other octets)

/-- `subprocess.run` of the transcoder, and the checks of its outcome. -/
def runTranscoder (setup : Setup) (run : Transcode) : Op Unit := do
  leaveOutput run.output
  match run.outcome with
  | .osError => throw .osError
  | .timeout => throw .subprocessError
  | .exited returnCode =>
    let written := (← get).fileSize setup videoTranscoding
    if returnCode ≠ 0 ∨ written = none ∨ written = some 0 then
      throw (.runtimeErrorBase "ENCODER_TRANSCODE_FAILED")
    else return

/-- The part of `_close_stream_locked` that makes the final video. -/
def transcode (setup : Setup) (env : FinalizeEnv) : Op Unit := do
  let recorded := (← get).fileSize setup videoPartial
  if recorded = none ∨ recorded = some 0 then throw (.runtimeErrorBase "ENCODER_WRITE_FAILED")
  else
    match env.transcode with
    | none => throw (.runtimeErrorBase "ENCODER_FFMPEG_UNAVAILABLE")
    | some run => runTranscoder setup run

/-- The end of `_close_stream_locked`: the two files get their final names and are recorded. -/
def finalizeArtifacts (setup : Setup) (fault : Option Fault) : Op Unit :=
  stepwise fault [renameFile videoTranscoding videoDestination, removeFile videoPartial,
    renameFile posePartial poseDestination, recordArtifact setup videoDestination, recordArtifact setup poseDestination]

/-- `_close_stream_locked` with finalization. -/
def finalizeStream (setup : Setup) (env : FinalizeEnv) : Op Unit := do
  if (← get).memory.stream.isNone then return
  else
    closeStream env.closeRaises
    transcode setup env
    finalizeArtifacts setup env.fault

/-! ## `stop` -/

/-- The first section of `stop`: whether there is a worker to be joined. -/
def beginStop : Op Bool := do
  let _ ← requireState [.recording]
  return (← get).memory.captureThread

/-- One turn of the loop of `stop` over the two engines. -/
def closeEngine (row : Session) (engine : Option TemporalRuleEngine) (signal : String) : Op Unit := do
  let memory := (← get).memory
  match engine, memory.poseBuffer.getLast? with
  | some engine, some last =>
    match memory.captureOrigin with
    | none => throw .unexpected
    | some origin =>
      persistRuleEvents row signal engine.policy none (engine.close ((last.capturedNs - origin) / 1000000 + 67)).2
  | _, _ => return

/-- The part of `stop` after the artifacts have been finalized. -/
def finishCollection : Op Unit := do
  let row ← sessionRow
  let ruleEngine := (← get).memory.ruleEngine
  updateMemory fun memory => { memory with ruleEngine := none }
  closeEngine row ruleEngine independentTemporalRules
  let modelEngine := (← get).memory.modelEngine
  updateMemory fun memory => { memory with modelEngine := none }
  closeEngine row modelEngine stGcnTemporalModel
  updateSession fun row => { row with state := .stopped }
  let _ ← appendEvent .collectionStopped

def finalizeRefused (e : RuntimeError) : Op Bool := do
  if e.isArtifactError ∨ e = .subprocessError then
    failLocked false "ARTIFACT_WRITE_FAILED"
    return false
  else throw e

/-- The second section of `stop`; `joined` says that the first one found a worker to be joined. -/
def finishStop (setup : Setup) (joined : Bool) (env : FinalizeEnv) : Op Unit := locked do
  let _ ← requireState [.recording]
  if joined ∧ (← get).worker then failLocked env.closeRaises "CAMERA_STOP_TIMEOUT"
  else
    updateMemory fun memory => { memory with captureThread := false }
    let finalized ← tryCatch (do finalizeStream setup env; return true) finalizeRefused
    if finalized then finishCollection
    else return

end PduExamObserver.ResearchRuntime
