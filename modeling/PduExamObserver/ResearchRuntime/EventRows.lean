import PduExamObserver.WireContracts
import PduExamObserver.ResearchRuntime.Invariants

/-! # The event log as it is read

`events_after` merges the payload of each row over the columns of the row. Two kinds of payload have a key that is also
a column: `event_id`, for the event that they are about. -/

namespace PduExamObserver.ResearchRuntime
open Showcase Stateful Transition
set_option autoImplicit false

/-! ## Texts -/

def SourceKind.value : SourceKind → String
  | .real => "REAL"
  | .aiRendered => "AI_RENDERED"
  | .augmented => "AUGMENTED"

def Focus.value : Focus → String
  | .examFocused => "EXAM_FOCUSED"
  | .examNotFocused => "EXAM_NOT_FOCUSED"
  | .focusUnknown => "FOCUS_UNKNOWN"

def QualityState.value : QualityState → String
  | .unknown => "UNKNOWN"
  | .sufficient => "SUFFICIENT"
  | .insufficient => "INSUFFICIENT"
  | .synthetic => "SYNTHETIC"
  | .technicalInsufficient => "TECHNICAL_INSUFFICIENT"

def ReviewStatus.value : ReviewStatus → String
  | .confirmed => "CONFIRMED"
  | .rejected => "REJECTED"
  | .uncertain => "UNCERTAIN"

def labelValue : Label → String
  | .normal => "NORMAL"
  | .benignConfounder => "BENIGN_CONFOUNDER"
  | .prolongedHeadDown => "PROLONGED_HEAD_DOWN"
  | .prolongedSideLook => "PROLONGED_SIDE_LOOK"
  | .noPerson => "NO_PERSON"
  | .multiplePeople => "MULTIPLE_PEOPLE"
  | .uncertain => "UNCERTAIN"

def kindValue : EventKind → String
  | .start => "START"
  | .update => "UPDATE"
  | .end_ => "END"

def WithdrawalDecision.value : WithdrawalDecision → String
  | .deleteOwnedRuntimeArtifacts => "DELETE_OWNED_RUNTIME_ARTIFACTS"
  | .quarantineRuntimeArtifacts => "QUARANTINE_RUNTIME_ARTIFACTS"

def EventBody.eventType : EventBody → String
  | .sessionCreated => "SESSION_CREATED"
  | .technicalPreflight _ => "TECHNICAL_PREFLIGHT"
  | .syntheticFixtureStarted _ => "SYNTHETIC_FIXTURE_STARTED"
  | .technicalState _ => "TECHNICAL_STATE"
  | .observableEvent _ => "OBSERVABLE_EVENT"
  | .collectionStarted => "COLLECTION_STARTED"
  | .poseObservation _ | .syntheticPoseObservation _ _ => "POSE_OBSERVATION"
  | .focusContext _ _ => "FOCUS_CONTEXT"
  | .operatorContaminationMarked _ => "OPERATOR_CONTAMINATION_MARKED"
  | .rulePolicyBound _ => "RULE_POLICY_BOUND"
  | .eventBoundaryUpdate .. => "EVENT_BOUNDARY_UPDATE"
  | .modelState .. => "MODEL_STATE"
  | .collectionStopped => "COLLECTION_STOPPED"
  | .sessionSealed => "SESSION_SEALED"
  | .reviewDecision .. => "REVIEW_DECISION"
  | .sessionLocked => "SESSION_LOCKED"
  | .withdrawalRecorded _ => "WITHDRAWAL_RECORDED"
  | .testArtifactsWithdrawn => "TEST_ARTIFACTS_WITHDRAWN"
  | .technicalFailure _ => "TECHNICAL_FAILURE"

/-! ## Payloads -/

/-- What the rows of a session hold besides its collection: the clock reading and the diagnostic of each row, and the
digest of a document. -/
structure Columns where
  createdAt : Nat → Rat
  diagnostic : Nat → Diagnostic
  sha256 : Dict → String

/-- An identifier that `uuid4` has drawn. -/
def Json.uuid (id : Nat) : Json := .int id

def orNull {α : Type} (f : α → Json) : Option α → Json
  | none => .null
  | some a => f a

def texts (items : List String) : Json := .arr (items.map .str)

def Landmark.json (point : Landmark) : Json :=
  .obj [("x", .float point.x), ("y", .float point.y), ("z", .float point.z), ("visibility", .float point.visibility)]

def Quality.json (quality : Quality) : Json :=
  .obj [("state", .str quality.state.value), ("blur", .float quality.blur), ("exposure", .float quality.exposure),
    ("visibility_mean", .float quality.visibilityMean), ("frame_gap_ratio", .float quality.frameGapRatio)]

def RulePolicy.document (policy : RulePolicy) : Dict :=
  [("policy_version", .str policy.policyVersion), ("status", .str policy.status),
    ("selection_source", .str policy.selectionSource), ("head_down_on", .float policy.headDownOn),
    ("head_down_off", .float policy.headDownOff), ("side_look_on", .float policy.sideLookOn),
    ("side_look_off", .float policy.sideLookOff), ("motion_duration_ms", .int policy.motionDurationMs),
    ("presence_duration_ms", .int policy.presenceDurationMs), ("release_ms", .int policy.releaseMs),
    ("merge_gap_ms", .int policy.mergeGapMs), ("cooldown_ms", .int policy.cooldownMs)]

/-- `_event_payload`, and the keys that `_persist_rule_events_locked` adds. -/
def ObservablePayload.dict (payload : ObservablePayload) : Dict :=
  [("research_label", .str (labelValue payload.researchLabel)), ("start_ms", .int payload.startMs),
    ("end_ms", .int payload.endMs), ("source_signals", texts payload.sourceSignals),
    ("confidence_status", .str payload.confidenceStatus), ("confidence", orNull .float payload.confidence),
    ("source_kind", .str payload.sourceKind.value), ("policy_version", .str payload.policyVersion),
    ("schema_version", .int 1)] ++
  (match payload.logicalId with
    | none => []
    | some logicalId => [("logical_id", Json.uuid logicalId), ("event_state", orNull (.str ∘ kindValue) payload.eventState),
        ("eligible_onset_ms", orNull .int payload.eligibleOnsetMs)])

def Observation.dict (observation : Observation) : Dict :=
  [("frame_seq", .int observation.frameSeq), ("captured_ns", .int observation.capturedNs),
    ("pose_count", .int observation.poseCount),
    ("landmarks", .arr (observation.landmarks.map fun pose => .arr (pose.map Landmark.json))),
    ("quality", observation.quality.json), ("focus", .str observation.focus.value),
    ("focus_age_ms", .float observation.focusAgeMs)]

/-- The receipt of `withdraw`. -/
def WithdrawalReceipt.dict (sha256 : Dict → String) (receipt : WithdrawalReceipt) : Dict :=
  let body : Dict :=
    [("authority_reference", .str receipt.authorityReference),
      ("withdrawal_authority_sha256", .str receipt.withdrawalAuthoritySha256), ("decision", .str receipt.decision.value),
      ("external_export_follow_up_required", .bool (0 < receipt.exportCount)),
      ("export_count", .int receipt.exportCount), ("follow_up_task_count", .int receipt.exportCount),
      ("artifacts", .arr (receipt.artifacts.map fun item =>
        .obj [("name", .str item.name), ("sha256", .str item.sha256), ("size_bytes", .int item.sizeBytes)]))]
  body ++ [("receipt_sha256", .str (sha256 body))]

/-- `"MODEL_STATE"`. -/
def modelStatePayload (frameSeq : Nat) (ready : Bool) (prediction : Option Prediction) : Dict :=
  [("state", .str (if ready then "READY" else "TECHNICAL_INSUFFICIENT")),
    ("reason", .str (if ready then "PREDICTION" else "MODEL_OR_INPUT_UNAVAILABLE")), ("frame_seq", .int frameSeq),
    ("model_version", orNull .str (prediction.bind Prediction.modelVersion)),
    ("policy_version", orNull .str (prediction.bind Prediction.policyVersion)),
    ("model_invoked", .bool prediction.isSome),
    ("model_outcome", orNull .str (prediction.bind Prediction.operatorOutcome)),
    ("source_signals", orNull (texts ∘ Prediction.sourceSignals) prediction)]

/-- `"TECHNICAL_FAILURE"`; `recover`, which alone writes the one code, says nothing of a confidence. -/
def failurePayload (code : String) : Dict :=
  ("code", .str code) :: if code = "RECOVERY_REQUIRED" then [] else [("confidence_status", .str "INSUFFICIENT")]

/-- The third argument of `_append_event_locked`, for the row with the identifier. -/
def EventBody.payload (columns : Columns) (sourceKind : SourceKind) (eventId : Nat) : EventBody → Dict
  | .sessionCreated => [("source_kind", .str sourceKind.value)]
  | .technicalPreflight ready =>
    [("status", .str (if ready then "READY" else "TECHNICAL_INSUFFICIENT")),
      ("diagnostic", .obj ((columns.diagnostic eventId).map fun fact => (fact.1, .str fact.2)))]
  | .syntheticFixtureStarted fixtureName => [("fixture_name", .str fixtureName), ("synthetic", .bool true)]
  | .technicalState true => [("state", .str "READY"), ("synthetic", .bool true)]
  | .technicalState false => [("state", .str "TECHNICAL_INSUFFICIENT"), ("reason", .str "RULE_POLICY_NOT_FROZEN")]
  | .observableEvent payload => payload.dict
  | .collectionStarted => [("capture_profile", .str "capture.v1.1280x720@15fps.no-audio")]
  | .poseObservation observation => observation.dict
  | .syntheticPoseObservation frameSeq capturedNs =>
    [("frame_seq", .int frameSeq), ("captured_ns", .int capturedNs), ("pose_count", .int 1)]
  | .focusContext state contaminatedByOperator =>
    [("state", .str state.value), ("contaminated_by_operator", .bool contaminatedByOperator)]
  | .operatorContaminationMarked fromFrameSeq => [("from_frame_seq", .int fromFrameSeq)]
  | .rulePolicyBound policy => RulePolicy.document policy
  | .eventBoundaryUpdate existing startMs endMs eventState =>
    [("event_id", Json.uuid existing), ("start_ms", .int startMs), ("end_ms", .int endMs),
      ("event_state", .str (kindValue eventState))]
  | .modelState frameSeq ready prediction => modelStatePayload frameSeq ready prediction
  | .collectionStopped => []
  | .sessionSealed => []
  | .reviewDecision reviewed label reviewStatus reviewId =>
    [("event_id", Json.uuid reviewed), ("label", .str (labelValue label)), ("review_status", .str reviewStatus.value),
      ("review_id", Json.uuid reviewId)]
  | .sessionLocked => []
  | .withdrawalRecorded receipt => receipt.dict columns.sha256
  | .testArtifactsWithdrawn => []
  | .technicalFailure code => failurePayload code

def persistedPayload (columns : Columns) (row : Session) (event : Event) : Dict :=
  Dict.update [("source_kind", .str row.sourceKind.value), ("schema_version", .int 1)]
    (event.body.payload columns row.sourceKind event.eventId)

/-! ## Reading -/

def eventDict (columns : Columns) (row : Session) (event : Event) : Dict :=
  Dict.update
    [("event_id", Json.uuid event.eventId), ("event_seq", .int event.eventSeq), ("event_type", .str event.body.eventType),
      ("created_at", .float (columns.createdAt event.eventId))]
    (persistedPayload columns row event)

def eventsAfter (columns : Columns) (row : Session) (seq : Int) : Except RuntimeError (List Dict) :=
  if seq < 0 then .error (.valueError "seq must be non-negative")
  else .ok (((row.events.filter fun event => seq < event.eventSeq).insertionSort
    fun a b => a.eventSeq ≤ b.eventSeq).map (eventDict columns row))

/-! ## The keys of the payloads -/

variable {columns : Columns} {row : Session} {sourceKind : SourceKind} {event : Event} {body : EventBody} {seq : Nat}
  {setup : Setup} {w : World} {c : Collection}

theorem payload_keys (eventId : Nat) : ∀ field ∈ body.payload columns sourceKind eventId,
    field.1 ≠ "event_seq" ∧ field.1 ≠ "event_type" ∧ field.1 ≠ "created_at" ∧
      (body.refers = none → field.1 ≠ "event_id") := by
  cases body with
  | technicalState ready => cases ready <;> simp [EventBody.payload]
  | technicalFailure code =>
    simp only [EventBody.payload, failurePayload]
    split <;> simp
  | observableEvent payload =>
    simp only [EventBody.payload, ObservablePayload.dict]
    split <;> simp
  | poseObservation observation => simp [EventBody.payload, Observation.dict]
  | rulePolicyBound policy => simp [EventBody.payload, RulePolicy.document]
  | modelState frameSeq ready prediction => simp [EventBody.payload, modelStatePayload]
  | withdrawalRecorded receipt => simp [EventBody.payload, WithdrawalReceipt.dict]
  | eventBoundaryUpdate | reviewDecision => simp [EventBody.payload, EventBody.refers]
  | sessionCreated | technicalPreflight | syntheticFixtureStarted | collectionStarted | syntheticPoseObservation
  | focusContext | operatorContaminationMarked | collectionStopped | sessionSealed | sessionLocked
  | testArtifactsWithdrawn => simp [EventBody.payload]

theorem persistedPayload_keys {field : String × Json} (h : field ∈ persistedPayload columns row event) :
    field.1 ≠ "event_seq" ∧ field.1 ≠ "event_type" ∧ field.1 ≠ "created_at" ∧
      (event.body.refers = none → field.1 ≠ "event_id") := by
  rcases Dict.key_of_mem_update h with ⟨old, hold, heq⟩ | ⟨new, hnew, heq⟩
  · rw [← heq]
    simp only [List.mem_cons, List.not_mem_nil, or_false] at hold
    rcases hold with rfl | rfl <;> simp
  · rw [← heq]
    exact payload_keys event.eventId new hnew

/-! ## The rows as they are returned -/

structure Own (columns : Columns) (row : Session) (event : Event) : Prop where
  eventId : (eventDict columns row event).get "event_id" = some (Json.uuid event.eventId)
  eventSeq : (eventDict columns row event).get "event_seq" = some (.int event.eventSeq)
  eventType : (eventDict columns row event).get "event_type" = some (.str event.body.eventType)
  createdAt : (eventDict columns row event).get "created_at" = some (.float (columns.createdAt event.eventId))

theorem own_of_refers (h : event.body.refers = none) : Own columns row event where
  eventId := by
    rw [eventDict, Dict.get_update_of_notMem fun field hfield => (persistedPayload_keys hfield).2.2.2 h]
    rfl
  eventSeq := by
    rw [eventDict, Dict.get_update_of_notMem fun field hfield => (persistedPayload_keys hfield).1]
    rfl
  eventType := by
    rw [eventDict, Dict.get_update_of_notMem fun field hfield => (persistedPayload_keys hfield).2.1]
    rfl
  createdAt := by
    rw [eventDict, Dict.get_update_of_notMem fun field hfield => (persistedPayload_keys hfield).2.2.1]
    rfl

theorem get_eventId_of_refers {eventId : Nat} (h : event.body.refers = some eventId) :
    (eventDict columns row event).get "event_id" = some (Json.uuid eventId) := by
  obtain ⟨rowId, eventSeq, body⟩ := event
  cases body with
  | eventBoundaryUpdate existing startMs endMs eventState =>
    cases h
    simp [eventDict, persistedPayload, EventBody.payload, Dict.update, Dict.set, Dict.get]
  | reviewDecision reviewed label reviewStatus reviewId =>
    cases h
    simp [eventDict, persistedPayload, EventBody.payload, Dict.update, Dict.set, Dict.get]
  | _ => cases h

theorem uuid_injective : Function.Injective Json.uuid := by
  intro a b h
  exact Int.ofNat.inj (Json.int.inj h)

/-! ## The log -/

theorem EventLog.sorted {events : List Event} (h : EventLog events) :
    events.Pairwise fun a b => a.eventSeq ≤ b.eventSeq := by
  have hnumbers : (events.map Event.eventSeq).Pairwise (· ≤ ·) := by
    rw [h.numbered]
    exact (List.pairwise_lt_range' (s := 1) (n := events.length)).imp Nat.le_of_lt
  exact List.pairwise_map.mp hnumbers

theorem eventsAfter_eq (h : EventLog row.events) : eventsAfter columns row seq =
    .ok ((row.events.filter fun event => seq < event.eventSeq).map (eventDict columns row)) := by
  have hseq : ¬ (seq : Int) < 0 := by omega
  have hcast : (fun event : Event => decide ((seq : Int) < event.eventSeq)) =
      fun event : Event => decide (seq < event.eventSeq) := by
    funext event
    exact decide_eq_decide.mpr Int.ofNat_lt
  rw [eventsAfter, if_neg hseq, hcast]
  exact congrArg (fun events => Except.ok (List.map (eventDict columns row) events))
    (List.Pairwise.insertionSort_eq (h.sorted.filter _))

/-- The events that are returned have their own columns, and no two of them the same identifier. -/
structure Identified (columns : Columns) (row : Session) (events : List Event) : Prop where
  own : ∀ event ∈ events, Own columns row event
  distinct : (events.map fun event => (eventDict columns row event).get "event_id").Nodup

theorem EventLog.identified_iff {events : List Event} (h : EventLog row.events) (hsub : events.Sublist row.events) :
    Identified columns row events ↔ ∀ event ∈ events, event.body.refers = none := by
  constructor
  · intro hidentified event hmem
    cases hrefers : event.body.refers with
    | none => rfl
    | some eventId =>
      have hown := (hidentified.own event hmem).eventId
      rw [get_eventId_of_refers hrefers] at hown
      have hsame := uuid_injective (Option.some.inj hown)
      have hearlier := h.refers event (hsub.subset hmem) eventId hrefers
      omega
  · intro hnone
    refine ⟨fun event hmem => own_of_refers (hnone event hmem), ?_⟩
    have hids : events.map (fun event => (eventDict columns row event).get "event_id") =
        (events.map Event.eventId).map fun eventId => some (Json.uuid eventId) := by
      rw [List.map_map]
      exact List.map_congr_left fun event hmem => (own_of_refers (hnone event hmem)).eventId
    rw [hids]
    have hordered : (events.map Event.eventId).Pairwise (· < ·) :=
      List.pairwise_map.mpr (h.ordered.sublist hsub)
    have hnodup : (events.map Event.eventId).Nodup := hordered.imp Nat.ne_of_lt
    exact hnodup.map ((Option.some_injective _).comp uuid_injective)

/-- The events of a session are numbered without gaps and returned in order, and each under its own columns exactly if
none of them is a review decision or a boundary update. -/
theorem event_identity (h : Reachable (service setup) w) (hmem : c ∈ w.collections) (columns : Columns) (seq : Nat) :
    c.session.events.map Event.eventSeq = List.range' 1 c.session.events.length ∧
      eventsAfter columns c.session seq =
        .ok ((c.session.events.filter fun event => seq < event.eventSeq).map (eventDict columns c.session)) ∧
      (Identified columns c.session (c.session.events.filter fun event => seq < event.eventSeq) ↔
        ∀ event ∈ c.session.events, seq < event.eventSeq → event.body.refers = none) := by
  have hlog := (reachable_sound h c hmem).linked.log
  refine ⟨hlog.numbered, eventsAfter_eq hlog, (hlog.identified_iff List.filter_sublist).trans ?_⟩
  simp only [List.mem_filter, decide_eq_true_eq, and_imp]

namespace Sample

def rowColumns : Columns where
  createdAt _ := 0
  diagnostic _ := []
  sha256 _ := ""

def annotated : List Action :=
  recording ++ sealing ++ [.act 0 (.review {
    eventId := none, label := some .uncertain, reviewStatus := some .confirmed, startMs := 0, endMs := 60
    reason := "seen", expectedRevision := 0 })]

end Sample

theorem event_identity_sample : ∃ c ∈ (Sample.run Sample.recording).collections, 2 < c.session.events.length ∧
    eventsAfter Sample.rowColumns c.session 2 =
      .ok ((c.session.events.filter fun event => 2 < event.eventSeq).map (eventDict Sample.rowColumns c.session)) := by
  have hstored : ∃ c ∈ (Sample.run Sample.recording).collections, 2 < c.session.events.length := by decide +kernel
  obtain ⟨c, hmem, hlength⟩ := hstored
  exact ⟨c, hmem, hlength, (event_identity (Sample.run_reachable Sample.recording) hmem Sample.rowColumns 2).2.1⟩

/-- The annotation and the decision about it are returned under one identifier. -/
theorem review_takes_identity : ¬ ∀ w, Reachable (service Sample.setup) w → ∀ c ∈ w.collections, ∀ columns (seq : Nat),
    Identified columns c.session (c.session.events.filter fun event => seq < event.eventSeq) := by
  intro hidentified
  have hdecision : ∃ c ∈ (Sample.run Sample.annotated).collections, ∃ event ∈ c.session.events,
      event.body.refers = some 7 ∧ event.eventId = 9 ∧ 0 < event.eventSeq := by decide +kernel
  obtain ⟨c, hc, event, hevent, hrefers, hid, hseq⟩ := hdecision
  have hown := (hidentified _ (Sample.run_reachable Sample.annotated) c hc Sample.rowColumns 0).own event
    (List.mem_filter.mpr ⟨hevent, by simpa using hseq⟩)
  have hreturned := hown.eventId
  rw [get_eventId_of_refers hrefers, hid] at hreturned
  exact absurd (uuid_injective (Option.some.inj hreturned)) (by decide)

end PduExamObserver.ResearchRuntime
