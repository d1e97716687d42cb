import PduExamObserver.ResearchRuntime.Reviews

/-! # The records of an export

`_export_records`: one record a frame of the pose timeline, labelled by the first decision in the order of the
dictionary whose interval covers the frame. The labels depend on that order exactly if decisions with different
statuses meet at a frame. -/

namespace PduExamObserver.ResearchRuntime
open Showcase Stateful Transition
set_option autoImplicit false

/-! ## Records -/

inductive Provenance where
  | frame (sessionId : String) (frameSeq : Nat)
  | event (eventId : Nat)
  deriving DecidableEq

/-- `timing` of a record; a synthetic fixture has none of its own. -/
inductive Timing where
  | frame (capturedNs offsetMs : Int) (phase : String)
  | fixture
  deriving DecidableEq

/-- A record, without the sample id and the fields that the bundle fills in. A synthetic fixture has no landmarks,
no measured quality and no age of its focus signal. -/
structure ExportRecord where
  participantPseudonym : String
  sessionPseudonym : String
  sourceKind : SourceKind
  parentProvenanceId : Provenance
  pose : Option (List (List Landmark) × Nat)
  label : Label
  quality : Option Quality
  focusState : Focus
  signalAgeMs : Option Rat
  contaminatedByOperator : Bool
  timing : Timing
  deriving DecidableEq

def boundaries (row : Session) : List Review :=
  (Sweep.latest Review.eventId (listReviews row)).filter fun review => review.reviewStatus ≠ .rejected

def Review.covers (offsetMs : Int) (review : Review) : Bool :=
  review.startMs ≤ offsetMs ∧ offsetMs < review.endMs

def Review.verdict (review : Review) : Label := if review.reviewStatus = .confirmed then review.label else .uncertain

/-- `matching` and the label that it gives. -/
def exportLabel (boundaries : List Review) (offsetMs : Int) : Label :=
  ((boundaries.find? (Review.covers offsetMs)).map Review.verdict).getD .uncertain

def offsetMs (observations : List Observation) (observation : Observation) : Int :=
  (observation.capturedNs - (observations.head?.map Observation.capturedNs).getD 0) / 1000000

def frameRecord (row : Session) (boundaries : List Review) (phase : String) (observations : List Observation)
    (observation : Observation) : ExportRecord :=
  let offsetMs := offsetMs observations observation
  { participantPseudonym := row.participantPseudonym
    sessionPseudonym := row.sessionId
    sourceKind := row.sourceKind
    parentProvenanceId := .frame row.sessionId observation.frameSeq
    pose := some (observation.landmarks, observation.poseCount)
    label := exportLabel boundaries offsetMs
    quality := some observation.quality
    focusState := observation.focus
    signalAgeMs := some observation.focusAgeMs
    contaminatedByOperator := row.contaminatedFromSeq.any fun fromSeq => fromSeq ≤ observation.frameSeq
    timing := .frame observation.capturedNs offsetMs phase }

/-- The record of an observable event of a session without observations; `contaminated` compares its clock with
`contaminated_at`. -/
def fixtureRecord (row : Session) (contaminated : Nat → Bool) (event : Event) : ExportRecord where
  participantPseudonym := row.participantPseudonym
  sessionPseudonym := row.sessionId
  sourceKind := row.sourceKind
  parentProvenanceId := .event event.eventId
  pose := none
  label := .uncertain
  quality := none
  focusState := .focusUnknown
  signalAgeMs := none
  contaminatedByOperator := contaminated event.eventId
  timing := .fixture

/-- The part of `_export_records` that reads the timeline. -/
def timelineObservations (setup : Setup) (row : Session) (directory : Option Directory) :
    Except RuntimeError (List Observation) :=
  match (directory.getD []).lookup poseDestination with
  | none =>
    if row.sourceKind = .real then .error (.invalidTransition "POSE_TIMELINE_UNAVAILABLE") else .ok []
  | some content =>
    if maxPoseTimelineBytes < setup.digests.size content then .error (.invalidTransition "ARTIFACT_TOO_LARGE")
    else if (row.artifacts.find? fun record => record.name = poseDestination).map ArtifactRecord.sha256 ≠
        some (setup.digests.sha256 content) then
      .error (.invalidTransition "ARTIFACT_INTEGRITY_FAILED")
    else
      match content with
      | .timeline lines false =>
        if row.sourceKind = .real ∧ lines = [] then .error (.invalidTransition "POSE_TIMELINE_UNAVAILABLE")
        else .ok lines
      | _ => .error (.valueError "JSONDecodeError")

def exportPhase (setup : Setup) (answer : AuthorityAnswer) (row : Session) : Except RuntimeError String :=
  if row.sourceKind = .real then do
    let record ← validateAuthority setup answer (row.authorityReference.getD "None") false
    let phase := record.text "cohort"
    if phase = "PILOT" ∨ phase = "CONFIRMATORY" then return phase
    else .error (.authorityDenied "COHORT_REQUIRED")
  else .ok "DEMO"

def exportRecords (setup : Setup) (answer : AuthorityAnswer) (contaminated : Nat → Bool) (row : Session)
    (directory : Option Directory) : Except RuntimeError (List ExportRecord) := do
  let observations ← timelineObservations setup row directory
  let phase ← exportPhase setup answer row
  if observations = [] then
    return (row.events.filter fun event => event.body.isObservable).map (fixtureRecord row contaminated)
  else
    return observations.map (frameRecord row (boundaries row) phase observations)

variable {setup : Setup} {w w' : World} {c c' : Collection} {row next : Session} {review : Review}
  {observations : List Observation} {records : List ExportRecord} {answer : AuthorityAnswer}
  {contaminated : Nat → Bool} {order : List Review}

def frameLabels (records : List ExportRecord) : List (Nat × Label) :=
  records.filterMap fun record =>
    match record.parentProvenanceId with
    | .frame _ frameSeq => some (frameSeq, record.label)
    | .event _ => none

theorem frameLabels_exportRecords
    (htimeline : timelineObservations setup row c.directory = .ok observations)
    (h : exportRecords setup answer contaminated row c.directory = .ok records) :
    frameLabels records = observations.map fun observation =>
      (observation.frameSeq, exportLabel (boundaries row) (offsetMs observations observation)) := by
  unfold exportRecords at h
  obtain ⟨read, hread, h⟩ := bind_ok_iff.mp h
  obtain rfl : observations = read := Except.ok.inj (htimeline.symm.trans hread)
  obtain ⟨phase, -, h⟩ := bind_ok_iff.mp h
  split at h
  · next hempty =>
    cases h
    simp [hempty, frameLabels, fixtureRecord, List.filterMap_map, Function.comp_def]
  · cases h
    simp [frameLabels, frameRecord, List.filterMap_map, Function.comp_def]

/-! ## Decisions -/

def Session.Standing (row : Session) (review : Review) : Prop := row.Latest review ∧ review.reviewStatus ≠ .rejected

def Review.decision (review : Review) : Label × ReviewStatus × Int × Int :=
  (review.label, review.reviewStatus, review.startMs, review.endMs)

def Session.SameDecisions (row next : Session) : Prop :=
  ∀ decision, (∃ review, row.Standing review ∧ review.decision = decision) ↔
    ∃ review, next.Standing review ∧ review.decision = decision

/-- No frame is covered both by a decision that confirms a label and by one with the status `UNCERTAIN`. -/
def Session.Unmixed (row : Session) (observations : List Observation) : Prop :=
  ∀ observation ∈ observations, ∀ a b, row.Standing a → row.Standing b →
    a.covers (offsetMs observations observation) = true → b.covers (offsetMs observations observation) = true →
    a.reviewStatus = .confirmed → a.label ≠ .uncertain → b.reviewStatus ≠ .uncertain

theorem mem_boundaries_iff (h : row.Annotated) : review ∈ boundaries row ↔ row.Standing review := by
  unfold boundaries
  rw [List.mem_filter, h.listReviews_eq, Sweep.mem_latest_iff h.increasing, decide_eq_true_iff, Session.Standing,
    Session.Latest]

theorem Session.Lockable.label_eq (h : row.Lockable) {a b : Review} {ms : Int} (ha : row.Standing a)
    (hb : row.Standing b) (hacovers : a.covers ms = true) (hbcovers : b.covers ms = true) : a.label = b.label := by
  by_contra hlabel
  refine h.consistent a b ha.1 hb.1 ha.2 hb.2 hlabel ⟨ms, ?_, ?_⟩
  · simpa [Review.covers, Review.Covers] using hacovers
  · simpa [Review.covers, Review.Covers] using hbcovers

theorem unmixed_iff_verdicts (hlockable : row.Lockable) :
    row.Unmixed observations ↔ ∀ observation ∈ observations, ∀ a b, row.Standing a → row.Standing b →
      a.covers (offsetMs observations observation) = true → b.covers (offsetMs observations observation) = true →
      a.verdict = b.verdict := by
  constructor
  · intro hunmixed observation hmem a b ha hb hacovers hbcovers
    have hlabel : a.label = b.label := hlockable.label_eq ha hb hacovers hbcovers
    have hab := hunmixed observation hmem a b ha hb hacovers hbcovers
    have hba := hunmixed observation hmem b a hb ha hbcovers hacovers
    unfold Review.verdict
    cases hastatus : a.reviewStatus <;> cases hbstatus : b.reviewStatus <;>
      simp_all [Session.Standing]
  · intro hverdicts observation hmem a b ha hb hacovers hbcovers hconfirmed hlabel huncertain
    have heq := hverdicts observation hmem a b ha hb hacovers hbcovers
    simp [Review.verdict, hconfirmed, huncertain] at heq
    exact hlabel heq

theorem exportLabel_eq {boundaries boundaries' : List Review} {ms : Int}
    (h : (boundaries.find? (Review.covers ms)).map Review.verdict =
      (boundaries'.find? (Review.covers ms)).map Review.verdict) :
    exportLabel boundaries ms = exportLabel boundaries' ms := by
  rw [exportLabel, h, exportLabel]

theorem exportLabel_same (hrow : row.Annotated) (hnext : next.Annotated) (hlockable : row.Lockable)
    (hunmixed : row.Unmixed observations) (hsame : row.SameDecisions next) {observation : Observation}
    (hmem : observation ∈ observations) :
    exportLabel (boundaries row) (offsetMs observations observation) =
      exportLabel (boundaries next) (offsetMs observations observation) := by
  have hverdicts := (unmixed_iff_verdicts hlockable).mp hunmixed observation hmem
  -- a decision of the other session has a twin here that covers the same frames with the same verdict
  have htwin : ∀ b, next.Standing b → ∃ a, row.Standing a ∧ a.decision = b.decision := fun b hb =>
    (hsame b.decision).mpr ⟨b, hb, rfl⟩
  have hdecision : ∀ {a b : Review}, a.decision = b.decision → a.verdict = b.verdict ∧
      ∀ ms, a.covers ms = b.covers ms := by
    intro a b heq
    simp only [Review.decision, Prod.mk.injEq] at heq
    obtain ⟨hlabel, hstatus, hstart, hend⟩ := heq
    exact ⟨by rw [Review.verdict, hstatus, hlabel, Review.verdict], fun ms => by rw [Review.covers, hstart, hend, Review.covers]⟩
  refine exportLabel_eq (Sweep.map_find?_eq ?_ ⟨?_, ?_⟩)
  · intro a ha b hb hacovers hbcovers
    rw [mem_boundaries_iff hrow] at ha
    rw [mem_boundaries_iff hnext] at hb
    obtain ⟨twin, htwin, heq⟩ := htwin b hb
    obtain ⟨hverdict, hcovers⟩ := hdecision heq
    rw [← hverdict]
    exact hverdicts a twin ha htwin hacovers (by rw [hcovers, hbcovers])
  · rintro ⟨a, ha, hacovers⟩
    obtain ⟨b, hb, heq⟩ := (hsame a.decision).mp ⟨a, (mem_boundaries_iff hrow).mp ha, rfl⟩
    exact ⟨b, (mem_boundaries_iff hnext).mpr hb, by rw [(hdecision heq).2, hacovers]⟩
  · rintro ⟨b, hb, hbcovers⟩
    obtain ⟨a, ha, heq⟩ := htwin b ((mem_boundaries_iff hnext).mp hb)
    exact ⟨a, (mem_boundaries_iff hrow).mpr ha, by rw [(hdecision heq).2, hbcovers]⟩

theorem exportLabel_confirmed (hrow : row.Annotated) (hlockable : row.Lockable) (hunmixed : row.Unmixed observations)
    {observation : Observation} (hmem : observation ∈ observations) (hstanding : row.Standing review)
    (hcovers : review.covers (offsetMs observations observation) = true) (hconfirmed : review.reviewStatus = .confirmed) :
    exportLabel (boundaries row) (offsetMs observations observation) = review.label := by
  have hverdicts := (unmixed_iff_verdicts hlockable).mp hunmixed observation hmem
  have hreview : review ∈ boundaries row := (mem_boundaries_iff hrow).mpr hstanding
  obtain ⟨first, hfirst⟩ := Option.isSome_iff_exists.mp (List.find?_isSome.mpr ⟨review, hreview, hcovers⟩)
  have hmemfirst : row.Standing first := (mem_boundaries_iff hrow).mp (List.mem_of_find?_eq_some hfirst)
  rw [exportLabel, hfirst, Option.map_some, Option.getD_some,
    hverdicts first review hmemfirst hstanding (List.find?_some hfirst) hcovers, Review.verdict, if_pos hconfirmed]

/-- Two locked sessions of any runs over one recording that have the same decisions export the same labels, if no
frame of the one is covered both by a decision that confirms a label and by an uncertain one; a frame then has the label
of every confirmed decision that covers it. And the labels of a locked session are the same for every order of its
decisions exactly if no frame is. -/
theorem export_labels (hreach : Reachable (service setup) w) (hmem : c ∈ w.collections)
    (hlocked : c.session.locked = true) (observations : List Observation) :
    (c.session.Unmixed observations → ∀ w', Reachable (service setup) w' → ∀ c' ∈ w'.collections,
      c'.session.locked = true → c.session.SameDecisions c'.session →
      ∀ answer contaminated records answer' contaminated' records',
        timelineObservations setup c.session c.directory = .ok observations →
        timelineObservations setup c'.session c'.directory = .ok observations →
        exportRecords setup answer contaminated c.session c.directory = .ok records →
        exportRecords setup answer' contaminated' c'.session c'.directory = .ok records' →
        frameLabels records = frameLabels records') ∧
    (c.session.Unmixed observations → ∀ observation ∈ observations, ∀ review, c.session.Standing review →
      review.covers (offsetMs observations observation) = true → review.reviewStatus = .confirmed →
      exportLabel (boundaries c.session) (offsetMs observations observation) = review.label) ∧
    (c.session.Unmixed observations ↔ ∀ observation ∈ observations, ∀ order : List Review,
      order.Perm (boundaries c.session) →
      exportLabel order (offsetMs observations observation) =
        exportLabel (boundaries c.session) (offsetMs observations observation)) := by
  have hrow : c.session.Annotated := reachable_annotated hreach c hmem
  have hlockable : c.session.Lockable := hrow.lockable hlocked
  refine ⟨fun hunmixed w' hreach' c' hmem' hlocked' hsame answer contaminated records answer' contaminated' records'
      htimeline htimeline' hexport hexport' => ?_,
    fun hunmixed observation hframe review => exportLabel_confirmed hrow hlockable hunmixed hframe, ?_⟩
  · rw [frameLabels_exportRecords htimeline hexport, frameLabels_exportRecords htimeline' hexport']
    refine List.map_congr_left fun observation hframe => ?_
    rw [exportLabel_same hrow (reachable_annotated hreach' c' hmem') hlockable hunmixed hsame hframe]
  · rw [unmixed_iff_verdicts hlockable]
    unfold exportLabel
    simp only [Sweep.getD_find?_perm_iff, mem_boundaries_iff hrow]
    exact ⟨fun h observation hframe a ha b hb => h observation hframe a b ha hb,
      fun h observation hframe a b ha hb => h observation hframe a ha b hb⟩

/-! ## Two decisions about one frame -/

theorem sameDecisions_of_perm (hrow : row.Annotated) (hnext : next.Annotated)
    (h : ((boundaries row).map Review.decision).Perm ((boundaries next).map Review.decision)) :
    row.SameDecisions next := by
  intro decision
  have hmem : decision ∈ (boundaries row).map Review.decision ↔ decision ∈ (boundaries next).map Review.decision :=
    h.mem_iff
  simpa only [List.mem_map, mem_boundaries_iff hrow, mem_boundaries_iff hnext] using hmem

namespace Sample

def annotations (first second : ReviewStatus) : List Action :=
  recording ++ sealing ++ [.act 0 (.review { annotation with reviewStatus := some first }),
    .act 0 (.review { annotation with reviewStatus := some second, expectedRevision := 1 }), .act 0 .lock]

def pilot : AuthorityAnswer :=
  ⟨.ok (some fun field => if field = "cohort" then some (.str "PILOT") else record field), 1⟩

def exported (row : Session) (directory : Option Directory) : List (Nat × Label) :=
  match exportRecords Sample.setup pilot (fun _ => false) row directory with
  | .ok records => frameLabels records
  | .error _ => []

end Sample

/-- A normal frame that is confirmed and then marked as uncertain is exported as normal; in the other order it is
exported as uncertain. -/
theorem export_labels_ordered : ∃ c ∈ (Sample.run (Sample.annotations .confirmed .uncertain)).collections,
    ∃ c' ∈ (Sample.run (Sample.annotations .uncertain .confirmed)).collections,
      c.session.locked = true ∧ c'.session.locked = true ∧ c.directory = c'.directory ∧
      c.session.SameDecisions c'.session ∧ Sample.exported c.session c.directory = [(1, .normal)] ∧
      Sample.exported c'.session c'.directory = [(1, .uncertain)] := by
  have hruns : ∃ c ∈ (Sample.run (Sample.annotations .confirmed .uncertain)).collections,
      ∃ c' ∈ (Sample.run (Sample.annotations .uncertain .confirmed)).collections,
        c.session.locked = true ∧ c'.session.locked = true ∧ c.directory = c'.directory ∧
        ((boundaries c.session).map Review.decision).Perm ((boundaries c'.session).map Review.decision) ∧
        Sample.exported c.session c.directory = [(1, .normal)] ∧
        Sample.exported c'.session c'.directory = [(1, .uncertain)] := by
    decide +kernel
  obtain ⟨c, hmem, c', hmem', hlocked, hlocked', hsame, hperm, hlabels⟩ := hruns
  have hrow := reachable_annotated (Sample.run_reachable _) c hmem
  have hnext := reachable_annotated (Sample.run_reachable _) c' hmem'
  exact ⟨c, hmem, c', hmem', hlocked, hlocked', hsame, sameDecisions_of_perm hrow hnext hperm, hlabels⟩

/-- Two annotations that confirm one label. -/
theorem export_labels_confirmed : ∃ c ∈ (Sample.run (Sample.annotations .confirmed .confirmed)).collections,
    ∃ observations, timelineObservations Sample.setup c.session c.directory = .ok observations ∧
      ∀ observation ∈ observations, ∃ review : Review, review.covers (offsetMs observations observation) = true ∧
        exportLabel (boundaries c.session) (offsetMs observations observation) = review.label := by
  have hreach := Sample.run_reachable (Sample.annotations .confirmed .confirmed)
  have hrun : ∃ c ∈ (Sample.run (Sample.annotations .confirmed .confirmed)).collections, c.session.locked = true ∧
      (∀ review ∈ boundaries c.session, review.reviewStatus = .confirmed) ∧
      (∃ review ∈ boundaries c.session, review.covers 0 = true) ∧
      ∃ observations ∈ (timelineObservations Sample.setup c.session c.directory).toOption,
        ∀ observation ∈ observations, offsetMs observations observation = 0 := by
    decide +kernel
  obtain ⟨c, hmem, hlocked, hconfirmed, ⟨review, hreview, hcovers⟩, observations, hread, hfirst⟩ := hrun
  have htimeline : timelineObservations Sample.setup c.session c.directory = .ok observations := by
    cases htimeline : timelineObservations Sample.setup c.session c.directory with
    | ok read =>
      rw [htimeline] at hread
      rw [Option.some.inj hread]
    | error e =>
      rw [htimeline] at hread
      cases hread
  have hrow := reachable_annotated hreach c hmem
  have hunmixed : c.session.Unmixed observations := by
    intro observation hframe a b ha hb hacovers hbcovers hconfirm hlabel
    rw [hconfirmed b ((mem_boundaries_iff hrow).mpr hb)]
    decide
  refine ⟨c, hmem, observations, htimeline, fun observation hframe => ⟨review, ?_, ?_⟩⟩
  · rw [hfirst observation hframe, hcovers]
  · exact (export_labels hreach hmem hlocked observations).2.1 hunmixed observation hframe review
      ((mem_boundaries_iff hrow).mp hreview) (by rw [hfirst observation hframe, hcovers]) (hconfirmed review hreview)

end PduExamObserver.ResearchRuntime
