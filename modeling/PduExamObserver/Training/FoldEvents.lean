import PduExamObserver.Showcase.RuleRuns
import PduExamObserver.Training.Corpus
import PduExamObserver.Training.ProtocolFreeze

/-! # The events of a fold

`_research_fold_evaluation`: the events that are evaluated for the test participants of a fold, and the check that
`evaluate_configurations` makes of them. -/

namespace PduExamObserver.Training
open ResearchRuntime Showcase
set_option autoImplicit false

/-! ## Sessions and events -/

/-- `Session`. -/
structure EvaluationSession where
  sessionId : String
  participantId : String
  durationMs : Int
  named : sessionId ≠ "" ∧ participantId ≠ ""
  lasts : 0 < durationMs

def EvaluationSession.make (sessionId participantId : String) (durationMs : Int) : Except String EvaluationSession :=
  if h : (sessionId ≠ "" ∧ participantId ≠ "") ∧ 0 < durationMs then
    .ok { sessionId, participantId, durationMs, named := h.1, lasts := h.2 }
  else .error "session identifiers and positive duration are required"

structure Event where
  sessionId : String
  participantId : String
  label : Label
  startMs : Int
  endMs : Int
  eligibleAtMs : Option Int
  named : sessionId ≠ "" ∧ participantId ≠ ""
  proper : 0 ≤ startMs ∧ startMs < endMs
  eligible : ∀ ms ∈ eligibleAtMs, startMs ≤ ms

def Event.make (sessionId participantId : String) (label : Label) (startMs endMs : Int) (eligibleAtMs : Option Int) :
    Except String Event :=
  if h : (sessionId ≠ "" ∧ participantId ≠ "") ∧ (0 ≤ startMs ∧ startMs < endMs) ∧ ∀ ms ∈ eligibleAtMs, startMs ≤ ms then
    .ok { sessionId, participantId, label, startMs, endMs, eligibleAtMs, named := h.1, proper := h.2.1, eligible := h.2.2 }
  else .error "event interval is invalid"

/-! ## Predicted events -/

/-- A row of `_predicted_events`. -/
structure PredictedRow where
  session : String
  participant : String
  labelIndex : Int
  startMs : Int
  endMs : Int

def PredictedRow.le (a b : PredictedRow) : Prop :=
  a.session < b.session ∨ a.session = b.session ∧ (a.participant < b.participant ∨
    a.participant = b.participant ∧ (a.labelIndex < b.labelIndex ∨
      a.labelIndex = b.labelIndex ∧ (a.startMs < b.startMs ∨ a.startMs = b.startMs ∧ a.endMs ≤ b.endMs)))

instance (a b : PredictedRow) : Decidable (a.le b) := by
  unfold PredictedRow.le
  infer_instance

def PredictedRow.label (row : PredictedRow) : Label := classOrder.getD row.labelIndex.toNat .normal

def predictedRows (windows : List Window) (predictedLabels : List Int) : List PredictedRow :=
  (windows.zip predictedLabels).filterMap fun entry =>
    if entry.2 = 2 ∨ entry.2 = 3 then
      some ⟨entry.1.session, entry.1.participant, entry.2, entry.1.startMs, entry.1.endMs⟩
    else none

def mergeRow (mergeGapMs : Int) (merged : List Event) (row : PredictedRow) : Except String (List Event) := do
  match merged with
  | [] => return [← Event.make row.session row.participant row.label row.startMs row.endMs none]
  | previous :: rest =>
    if previous.sessionId = row.session ∧ previous.label = row.label ∧ row.startMs ≤ previous.endMs + mergeGapMs then
      return (← Event.make row.session row.participant row.label previous.startMs (max previous.endMs row.endMs) none) :: rest
    else
      return (← Event.make row.session row.participant row.label row.startMs row.endMs none) :: previous :: rest

def predictedEvents (windows : List Window) (predictedLabels : List Int) (mergeGapMs : Int) :
    Except String (List Event) := do
  let rows := (predictedRows windows predictedLabels).mergeSort fun a b => decide (a.le b)
  return (← rows.foldlM (mergeRow mergeGapMs) []).reverse

/-! ## Rule events -/

def driveRules (engine : TemporalRuleEngine) (nextId : Nat) :
    List RawRuleFrame → Except String (TemporalRuleEngine × List RuleEvent)
  | [] => .ok (engine, [])
  | frame :: rest => do
    let (engine, events) ← orError "TIMESTAMP_NOT_MONOTONIC" (engine.advance nextId frame.timestampMs frame.poseCount
      (some frame.downScore) (some frame.sideScore) frame.qualityOk none)
    let (engine, more) ← driveRules engine (nextId + 1) rest
    return (engine, events ++ more)

def lastByKey (entries : List (String × Event)) : List (String × Event) :=
  entries.foldl (fun output entry => output.filter (fun other => other.1 ≠ entry.1) ++ [entry]) []

/-- The events of one session; `uuid` draws the logical identifiers. -/
def sessionRuleEvents (uuid : String → Nat → String) (policy : RulePolicy) (corpus : Corpus) (sessionId : String)
    (frames : List RawRuleFrame) : Except String (List Event) := do
  let ordered := frames.mergeSort fun a b => decide (a.timestampMs ≤ b.timestampMs)
  let (engine, emitted) ← driveRules { policy } 0 ordered
  let emitted :=
    match corpus.sessions.find? fun session => session.sessionId = sessionId with
    | some session => emitted ++ (engine.close session.durationMs).2
    | none => emitted
  let first ← orError "IndexError" ordered.head?
  let entries ← emitted.mapM fun event => do
    return (uuid sessionId event.logicalId, ← Event.make sessionId first.participantId event.label event.startMs
      event.endMs (some event.eligibleOnsetMs))
  return ((lastByKey entries).mergeSort fun a b => decide (a.1 ≤ b.1)).map Prod.snd

def ruleEventsFromRaw (uuid : String → Nat → String) (corpus : Corpus) (fold : OuterFold) (protocol : Native.Dict) :
    Except String (List Event) := do
  let policy ← RulePolicy.fromProtocolFreeze protocol
  let frames := (corpus.sessions.flatMap SessionLoad.rawRuleFrames).filter fun frame => frame.participantId ∈ fold.test
  let sessionIds := (frames.map RawRuleFrame.sessionId).eraseDups.mergeSort fun a b => decide (a ≤ b)
  let events ← sessionIds.mapM fun sessionId =>
    sessionRuleEvents uuid policy corpus sessionId (frames.filter fun frame => frame.sessionId = sessionId)
  return events.flatten

/-! ## The evaluation -/

/-- The arguments of `evaluate_configurations`. -/
structure FoldEvents where
  sessions : List EvaluationSession
  truth : List Event
  rules : List Event
  cameraOnly : List Event
  contextPlusAbstention : List Event

def FoldEvents.all (events : FoldEvents) : List Event :=
  events.truth ++ (events.rules ++ (events.cameraOnly ++ events.contextPlusAbstention))

/-- What `_research_fold_evaluation` constructs of the labels that the two models predict. -/
def researchFoldEvents (uuid : String → Nat → String) (corpus : Corpus) (fold : OuterFold) (protocol : Native.Dict)
    (cameraLabels contextLabels : List Int) : Except String FoldEvents := do
  let windows := corpus.rowsOf fold.test
  let policy ← orError "KeyError" (protocol.get "event_policy").dict?
  let rules ← ruleEventsFromRaw uuid corpus fold protocol
  let mergeGapMs ← orError "TypeError" (policy.get "merge_gap_ms").int?
  let cameraOnly ← predictedEvents windows cameraLabels mergeGapMs
  let contextPlusAbstention ← predictedEvents windows contextLabels mergeGapMs
  let tested := corpus.sessions.filter fun session => session.participant ∈ fold.test
  let sessions ← (tested.mergeSort fun a b => decide (a.sessionId ≤ b.sessionId)).mapM fun session =>
    EvaluationSession.make session.sessionId session.participant session.durationMs
  let persistenceMs ← orError "TypeError" (policy.get "persistence_ms").int?
  let reviewed := (corpus.sessions.flatMap SessionLoad.reviewedEvents).filter fun event => event.participantId ∈ fold.test
  let truth ← reviewed.mapM fun item =>
    Event.make item.sessionId item.participantId item.label item.startMs item.endMs (some (item.startMs + persistenceMs))
  return { sessions, truth, rules, cameraOnly, contextPlusAbstention }

/-- The checks of `evaluate_configurations`, before anything is counted. -/
def evaluateConfigurations (events : FoldEvents) : Except String Unit := do
  require (events.sessions ≠ []) "evaluation requires confirmatory REAL continuous sessions"
  require (events.sessions.map EvaluationSession.sessionId).Nodup "session IDs must be unique"
  events.all.forM fun event => do
    let session ← orError "event is outside its continuous session"
      (events.sessions.find? fun session => session.sessionId = event.sessionId)
    require (event.participantId = session.participantId ∧ event.endMs ≤ session.durationMs)
      "event is outside its continuous session"

end PduExamObserver.Training
