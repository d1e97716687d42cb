import PduExamObserver.Domain.State
import PduExamObserver.Library.Stateful
import PduExamObserver.Library.Transition
import PduExamObserver.Services.EventLog

/-! # Exam sessions of `M0Backend`

`apply_session_action`, `record_answer` and `submit_exam` on the record of one session. Each of them changes the
record before it appends to the event log, and keeps what it has changed when the append raises. -/

namespace PduExamObserver

/-! ## Python's equality -/

def Json.number : Json → Option ℚ
  | .bool b => some (if b then 1 else 0)
  | .int n => some n
  | .float q => some q
  | _ => none

mutual

/-- `==` of JSON values. -/
def Json.pyEq : Json → Json → Bool
  | .null, .null => true
  | .str s, .str t => s = t
  | .arr items, .arr items' => Json.itemsEq items items'
  | .obj fields, .obj fields' => fields.length = fields'.length && Json.fieldsEq fields fields'
  | a, b =>
    match a.number, b.number with
    | some q, some r => q = r
    | _, _ => false

def Json.itemsEq : List Json → List Json → Bool
  | [], [] => true
  | item :: rest, item' :: rest' => item.pyEq item' && Json.itemsEq rest rest'
  | _, _ => false

def Json.fieldsEq : List (String × Json) → Dict → Bool
  | [], _ => true
  | (name, value) :: rest, other =>
    (match Dict.get other name with
      | some value' => value.pyEq value'
      | none => false) && Json.fieldsEq rest other

end

namespace Services
open Stateful Transition
set_option autoImplicit false

def maxAnswersPerSession : Nat := 1000

inductive M0Error where
  | keyError (key : String)
  | invalidTransition (message : String)
  | idempotencyConflict (message : String)
  | eventLogLimitExceeded
  deriving DecidableEq, Repr

/-- A `SessionRecord` with its answers and results, by idempotency key. -/
structure ExamRecord extends SessionRecord where
  answers : List (String × Dict) := []
  answerResults : List (String × Dict) := []
  submitResults : List (String × Dict) := []

abbrev M0 := EStateM M0Error ExamRecord

namespace ExamBackend

/-- `append_event`, without the live streams. -/
def appendEvent (eventType : String) (payload : EventPayload) : M0 EventRecord := do
  match (← get).toSessionRecord.appendEvent eventType payload with
  | .error .eventLogLimitReached => throw .eventLogLimitExceeded
  | .ok (record, event) =>
    modify fun r => { r with toSessionRecord := record }
    return event

def field (name : String) (value : Json) (h : name ≠ "event_seq") : EventPayload where
  fields := [(name, value)]
  no_event_seq := by simpa using h

def moved (clock : Nat → Seconds) (action : String) (nextState : SessionState) (record : ExamRecord) : ExamRecord :=
  { record with
    startedAt := if action = "start" then some (clock 0) else record.startedAt
    state := nextState }

/-- `snapshot`, at the second reading of the clock. -/
def snapshot (clock : Nat → Seconds) : M0 SessionSnapshot := do return (← get).toSessionRecord.snapshot (clock 1)

/-- `apply_session_action`; `clock` gives its readings of the clock in order. -/
def applySessionAction (clock : Nat → Seconds) (action : String) : M0 SessionSnapshot := do
  let record ← get
  match Domain.transition record.state action with
  | .error e => throw (.invalidTransition e.message)
  | .ok nextState =>
    if nextState = record.state then snapshot clock
    else
      modify (moved clock action nextState)
      let _ ← appendEvent "SessionStateChanged" (field "state" (.str nextState.value) (by decide))
      snapshot clock

def accepted : Dict := [("schema_version", .int 1), ("accepted", .bool true)]

def submitted : Dict := [("schema_version", .int 1), ("submitted", .bool true)]

def recordAnswer (idempotencyKey : String) (payload : Dict) : M0 Dict := do
  let record ← get
  match record.answers.lookup idempotencyKey with
  | some existing =>
    if !(Json.obj existing).pyEq (.obj payload) then
      throw (.idempotencyConflict "Idempotency key was reused with a different answer payload")
    else
      match record.answerResults.lookup idempotencyKey with
      | some result => return result
      | none => throw (.keyError idempotencyKey)
  | none =>
    if record.state ≠ .recording ∨ record.submitted then
      throw (.invalidTransition "Answers are accepted only while the session is recording")
    else if maxAnswersPerSession ≤ record.answers.length then throw (.invalidTransition "ANSWER_LIMIT_REACHED")
    else
      modify fun r => { r with
        answers := r.answers ++ [(idempotencyKey, payload)]
        answerResults := r.answerResults ++ [(idempotencyKey, accepted)] }
      match Dict.get payload "answer_id" with
      | none => throw (.keyError "answer_id")
      | some answerId =>
        let _ ← appendEvent "AnswerRecorded" (field "answer_id" answerId (by decide))
        return accepted

def submitExam (idempotencyKey : String) : M0 Dict := do
  let record ← get
  match record.submitResults.lookup idempotencyKey with
  | some existing => return existing
  | none =>
    if record.state ≠ .recording then
      throw (.invalidTransition "Exam can be submitted only while the session is recording")
    else if record.submitted then
      throw (.idempotencyConflict "Exam was already submitted with a different idempotency key")
    else
      modify fun r => { r with
        submitted := true
        submitResults := r.submitResults ++ [(idempotencyKey, submitted)] }
      let _ ← appendEvent "ExamSubmitted" .empty
      return submitted

end ExamBackend

/-! ## Calls -/

inductive ExamCall where
  | action (action : String)
  | answer (idempotencyKey : String) (payload : Dict)
  | submit (idempotencyKey : String)
  | event (eventType : String) (payload : EventPayload)

def performCall (clock : Nat → Seconds) : ExamCall → M0 Unit
  | .action action => do
    let _ ← ExamBackend.applySessionAction clock action
  | .answer idempotencyKey payload => do
    let _ ← ExamBackend.recordAnswer idempotencyKey payload
  | .submit idempotencyKey => do
    let _ ← ExamBackend.submitExam idempotencyKey
  | .event eventType payload => do
    let _ ← ExamBackend.appendEvent eventType payload

def examSessions (sessionId : String) (durationSeconds : Int) : System ExamRecord ((Nat → Seconds) × ExamCall) :=
  ofFun (fun record => record = { sessionId, durationSeconds })
    fun record call => final ((performCall call.1 call.2).run record)

/-! ## Which calls go past their checks -/

def ExamRecord.Enters (record : ExamRecord) : ExamCall → Prop
  | .action action => ∃ nextState, Domain.transition record.state action = .ok nextState ∧ nextState ≠ record.state
  | .answer idempotencyKey _ =>
    record.answers.lookup idempotencyKey = none ∧ record.state = .recording ∧ record.submitted = false ∧
      record.answers.length < maxAnswersPerSession
  | .submit idempotencyKey =>
    record.submitResults.lookup idempotencyKey = none ∧ record.state = .recording ∧ record.submitted = false
  | .event _ _ => False

def ExamCall.Named : ExamCall → Prop
  | .answer _ payload => (Dict.get payload "answer_id").isSome
  | _ => True

def ExamRecord.Safe (record : ExamRecord) (call : ExamCall) : Prop :=
  record.Enters call → record.events.length < maxEventsPerSession ∧ call.Named

/-! ## What a call that raises leaves -/

variable {clock : Nat → Seconds} {record after : ExamRecord} {call : ExamCall} {e : M0Error}

def ExamRecord.logged (record : ExamRecord) (eventType : String) (payload : EventPayload) : ExamRecord :=
  { record with
    eventSeq := record.eventSeq + 1
    events := record.events ++ [⟨record.eventSeq + 1, eventType, payload⟩] }

theorem appendEvent_full (eventType : String) (payload : EventPayload)
    (h : maxEventsPerSession ≤ record.events.length) :
    (ExamBackend.appendEvent eventType payload).run record = .error .eventLogLimitExceeded record := by
  unfold ExamBackend.appendEvent
  rw [run_bind_ok (EStateM.run_get _), SessionRecord.appendEvent, if_pos h]
  rfl

theorem appendEvent_room (eventType : String) (payload : EventPayload)
    (h : record.events.length < maxEventsPerSession) :
    (ExamBackend.appendEvent eventType payload).run record =
      .ok ⟨record.eventSeq + 1, eventType, payload⟩ (record.logged eventType payload) := by
  unfold ExamBackend.appendEvent
  rw [run_bind_ok (EStateM.run_get _), SessionRecord.appendEvent, if_neg (Nat.not_le.mpr h)]
  rfl

def Clean {α : Type} (x : M0 α) (record : ExamRecord) : Prop := ∀ e after, x.run record = .error e after → after = record

theorem clean_of_ok {α : Type} {x : M0 α} {a : α} (h : x.run record = .ok a after) : Clean x record := by
  intro e after' herror
  rw [h] at herror
  cases herror

theorem clean_throw {α : Type} {x : M0 α} (h : x.run record = .error e record) : Clean x record := by
  intro e' after' herror
  rw [h] at herror
  cases herror
  rfl

theorem not_clean {α : Type} {x : M0 α} (h : x.run record = .error e after) (hne : after ≠ record) :
    ¬ Clean x record := fun hclean => hne (hclean e after h)

theorem clean_perform_iff {α : Type} {x : M0 α} :
    Clean (do let _ ← x : M0 Unit) record ↔ Clean x record := by
  unfold Clean
  rw [EStateM.run_bind]
  cases x.run record with
  | ok a t =>
    constructor
    · intro _ e after h
      cases h
    · intro _ e after h
      cases h
  | error e t =>
    constructor
    · intro h e' after heq
      cases heq
      exact h e t rfl
    · intro h e' after heq
      cases heq
      exact h e t rfl

theorem enter_clean_iff {α : Type} {x : M0 α} {changed : ExamRecord} {eventType : String} {payload : EventPayload}
    {rest : M0 α} (hrun : x.run record = (do let _ ← ExamBackend.appendEvent eventType payload; rest : M0 α).run changed)
    (hrest : ∀ after, ∃ a t, rest.run after = .ok a t) (hchanged : changed ≠ record)
    (hlength : changed.events.length = record.events.length) :
    Clean x record ↔ record.events.length < maxEventsPerSession := by
  constructor
  · intro hclean
    by_contra hfull
    have hfull : maxEventsPerSession ≤ changed.events.length := by omega
    rw [run_bind_error (appendEvent_full eventType payload hfull)] at hrun
    exact hchanged (hclean _ _ hrun)
  · intro hroom
    rw [run_bind_ok (appendEvent_room eventType payload (hlength ▸ hroom))] at hrun
    obtain ⟨a, t, hok⟩ := hrest (changed.logged eventType payload)
    exact clean_of_ok (hrun.trans hok)

theorem applySessionAction_clean_iff (action : String) :
    Clean (ExamBackend.applySessionAction clock action) record ↔ record.Safe (.action action) := by
  unfold ExamRecord.Safe ExamRecord.Enters ExamCall.Named
  have hrun : (ExamBackend.applySessionAction clock action).run record = _ := rfl
  conv at hrun => rhs; unfold ExamBackend.applySessionAction
  rw [run_bind_ok (EStateM.run_get _)] at hrun
  cases htransition : Domain.transition record.state action with
  | error e =>
    rw [htransition] at hrun
    exact iff_of_true (clean_throw hrun) fun ⟨nextState, hok, _⟩ => by cases htransition.symm.trans hok
  | ok nextState =>
    rw [htransition] at hrun
    dsimp only at hrun
    by_cases hmoves : nextState = record.state
    · rw [if_pos hmoves] at hrun
      refine iff_of_true (clean_of_ok hrun) fun ⟨other, hok, hne⟩ => ?_
      cases htransition.symm.trans hok
      exact absurd hmoves hne
    · rw [if_neg hmoves] at hrun
      rw [enter_clean_iff hrun ?_ ?_ rfl]
      · exact ⟨fun hroom _ => ⟨hroom, trivial⟩, fun hsafe => (hsafe ⟨nextState, htransition, hmoves⟩).1⟩
      · exact fun after => ⟨_, _, rfl⟩
      · intro heq
        exact hmoves (congrArg (fun r => r.state) heq)

theorem recordAnswer_clean_iff (idempotencyKey : String) (payload : Dict) :
    Clean (ExamBackend.recordAnswer idempotencyKey payload) record ↔ record.Safe (.answer idempotencyKey payload) := by
  unfold ExamRecord.Safe ExamRecord.Enters ExamCall.Named
  have hrun : (ExamBackend.recordAnswer idempotencyKey payload).run record = _ := rfl
  conv at hrun => rhs; unfold ExamBackend.recordAnswer
  rw [run_bind_ok (EStateM.run_get _)] at hrun
  cases hanswers : record.answers.lookup idempotencyKey with
  | some existing =>
    rw [hanswers] at hrun
    refine iff_of_true ?_ fun ⟨hnone, _⟩ => by cases hanswers.symm.trans hnone
    dsimp only at hrun
    split at hrun
    · exact clean_throw hrun
    · split at hrun
      · exact clean_of_ok hrun
      · exact clean_throw hrun
  | none =>
    rw [hanswers] at hrun
    dsimp only at hrun
    by_cases hclosed : record.state ≠ .recording ∨ record.submitted = true
    · rw [if_pos hclosed] at hrun
      refine iff_of_true (clean_throw hrun) fun ⟨_, hstate, hopen, _⟩ => ?_
      rcases hclosed with hne | hsubmitted
      · exact absurd hstate hne
      · rw [hopen] at hsubmitted
        cases hsubmitted
    · rw [if_neg hclosed] at hrun
      have hopen : record.state = .recording ∧ record.submitted = false := by simpa using hclosed
      by_cases hlimit : maxAnswersPerSession ≤ record.answers.length
      · rw [if_pos hlimit] at hrun
        exact iff_of_true (clean_throw hrun) fun ⟨_, _, _, hlt⟩ => absurd hlimit (Nat.not_le.mpr hlt)
      · rw [if_neg hlimit] at hrun
        let changed : ExamRecord :=
          { record with
            answers := record.answers ++ [(idempotencyKey, payload)]
            answerResults := record.answerResults ++ [(idempotencyKey, ExamBackend.accepted)] }
        have hchanged : changed ≠ record := by
          intro heq
          have hlength : (record.answers ++ [(idempotencyKey, payload)]).length = record.answers.length :=
            congrArg (fun r => r.answers.length) heq
          simp at hlength
        have henters : record.answers.lookup idempotencyKey = none ∧ record.state = .recording ∧
            record.submitted = false ∧ record.answers.length < maxAnswersPerSession :=
          ⟨hanswers, hopen.1, hopen.2, Nat.not_le.mp hlimit⟩
        cases hnamed : Dict.get payload "answer_id" with
        | none =>
          rw [hnamed] at hrun
          refine iff_of_false (not_clean hrun hchanged) fun hsafe => ?_
          exact absurd (hsafe henters).2 (by simp [hnamed])
        | some answerId =>
          rw [hnamed] at hrun
          rw [enter_clean_iff hrun (fun after => ⟨_, _, rfl⟩) hchanged rfl]
          exact ⟨fun hroom _ => ⟨hroom, by simp [hnamed]⟩, fun hsafe => (hsafe henters).1⟩

theorem submitExam_clean_iff (idempotencyKey : String) :
    Clean (ExamBackend.submitExam idempotencyKey) record ↔ record.Safe (.submit idempotencyKey) := by
  unfold ExamRecord.Safe ExamRecord.Enters ExamCall.Named
  have hrun : (ExamBackend.submitExam idempotencyKey).run record = _ := rfl
  conv at hrun => rhs; unfold ExamBackend.submitExam
  rw [run_bind_ok (EStateM.run_get _)] at hrun
  cases hresults : record.submitResults.lookup idempotencyKey with
  | some existing =>
    rw [hresults] at hrun
    exact iff_of_true (clean_of_ok hrun) fun ⟨hnone, _⟩ => by cases hresults.symm.trans hnone
  | none =>
    rw [hresults] at hrun
    dsimp only at hrun
    by_cases hstate : record.state = .recording
    · rw [if_neg (not_not.mpr hstate)] at hrun
      by_cases hsubmitted : record.submitted = true
      · rw [if_pos hsubmitted] at hrun
        refine iff_of_true (clean_throw hrun) fun ⟨_, _, hopen⟩ => ?_
        rw [hsubmitted] at hopen
        cases hopen
      · rw [if_neg hsubmitted] at hrun
        let changed : ExamRecord :=
          { record with
            submitted := true
            submitResults := record.submitResults ++ [(idempotencyKey, ExamBackend.submitted)] }
        have hchanged : changed ≠ record := fun heq => hsubmitted (congrArg (fun r => r.submitted) heq).symm
        rw [enter_clean_iff hrun (fun after => ⟨_, _, rfl⟩) hchanged rfl]
        exact ⟨fun hroom _ => ⟨hroom, trivial⟩,
          fun hsafe => (hsafe ⟨hresults, hstate, Bool.eq_false_iff.mpr hsubmitted⟩).1⟩
    · rw [if_pos hstate] at hrun
      exact iff_of_true (clean_throw hrun) fun ⟨_, heq, _⟩ => absurd heq hstate

theorem appendEvent_clean (eventType : String) (payload : EventPayload) :
    Clean (ExamBackend.appendEvent eventType payload) record := by
  by_cases hroom : record.events.length < maxEventsPerSession
  · exact clean_of_ok (appendEvent_room eventType payload hroom)
  · exact clean_throw (appendEvent_full eventType payload (Nat.not_lt.mp hroom))

/-- A call that raises leaves the record as it was exactly if it is refused before it changes anything, or its event
can be appended. -/
theorem raises_unchanged_iff (clock : Nat → Seconds) (record : ExamRecord) (call : ExamCall) :
    (∀ e after, (performCall clock call).run record = .error e after → after = record) ↔ record.Safe call := by
  cases call with
  | action action => exact clean_perform_iff.trans (applySessionAction_clean_iff action)
  | answer idempotencyKey payload => exact clean_perform_iff.trans (recordAnswer_clean_iff idempotencyKey payload)
  | submit idempotencyKey => exact clean_perform_iff.trans (submitExam_clean_iff idempotencyKey)
  | event eventType payload =>
    exact iff_of_true (clean_perform_iff.mpr (appendEvent_clean eventType payload)) fun henters => henters.elim

/-! ## A full log -/

theorem reachable_recording (n : Nat) (h : n + 3 ≤ maxEventsPerSession) :
    ∃ record, Reachable (examSessions "S" 2700) record ∧ record.state = .recording ∧ record.submitted = false ∧
      record.submitResults = [] ∧ record.events.length = n + 3 := by
  induction n with
  | zero =>
    let calls : List ((Nat → Seconds) × ExamCall) :=
      [(fun _ => 0, .action "consent"), (fun _ => 0, .action "preflight"), (fun _ => 0, .action "start")]
    have hreach : Reachable (examSessions "S" 2700) _ := reachable_foldl calls (.init rfl)
    exact ⟨_, hreach, by decide +kernel, by decide +kernel, by rfl, by decide +kernel⟩
  | succ n ih =>
    obtain ⟨record, hreach, hstate, hsubmitted, hresults, hlength⟩ := ih (by omega)
    have hroom : record.events.length < maxEventsPerSession := by omega
    let payload : EventPayload := ⟨[], by simp⟩
    have hrun : (performCall (fun _ => 0) (.event "DemoEvent" payload)).run record =
        .ok () (record.logged "DemoEvent" payload) := by
      unfold performCall
      rw [run_bind_ok (appendEvent_room _ _ hroom)]
      rfl
    refine ⟨record.logged "DemoEvent" payload, hreach.next (a := (fun _ => 0, .event "DemoEvent" payload)) ?_, hstate,
      hsubmitted, hresults, ?_⟩
    · exact congrArg final hrun
    · simp [ExamRecord.logged, hlength]

/-- Submitting a recording session with a full log raises, and changes the record. -/
theorem submit_full : ∃ record, Reachable (examSessions "S" 2700) record ∧ ∃ e after,
    (ExamBackend.submitExam "K").run record = .error e after ∧ after ≠ record := by
  obtain ⟨record, hreach, hstate, hsubmitted, hresults, hlength⟩ := reachable_recording 9997 (by decide)
  have henters : record.Enters (.submit "K") := ⟨by rw [hresults]; rfl, hstate, hsubmitted⟩
  have hclean : ¬ Clean (ExamBackend.submitExam "K") record := by
    rw [submitExam_clean_iff]
    intro hsafe
    have hroom := (hsafe henters).1
    rw [hlength] at hroom
    exact absurd hroom (by decide)
  unfold Clean at hclean
  push Not at hclean
  exact ⟨record, hreach, hclean⟩

end Services
end PduExamObserver
