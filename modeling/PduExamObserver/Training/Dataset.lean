import Mathlib.Algebra.Order.AbsoluteValue.Basic
import Mathlib.Data.List.SplitBy
import PduExamObserver.Training.Exports
import PduExamObserver.Training.Preprocessing

/-! # Loading a runtime export

`load_runtime_export`: the frames for the rules, the reviewed events and the supervised windows of the sessions of an
archive. Arrays of columns are lists of rows. -/

namespace PduExamObserver.Training
open ResearchRuntime Showcase
set_option autoImplicit false

/-- What the loader takes from other packages, and the score of a pose: `orientation_proxy_degrees` raises for a pose
that has none. -/
structure LoaderEnv where
  arith : Arithmetic
  orientation : List Landmark → Option (Rat × Rat)
  windowId : String → Int → Label → String
  sha256 : Preimage → String
  packing : Packing

def classOrder : List Label := [.normal, .benignConfounder, .prolongedHeadDown, .prolongedSideLook]

/-- `_validate_record` of the loader. -/
def Record.recheck (manifest : Manifest) (record : Record) : Except String Unit := do
  require (record.schemaVersion = 1 ∧ record.boundTo manifest manifest.recordCount) "record envelope is incompatible"
  require (record.sampleId ≠ "" ∧ record.participantPseudonym ≠ "" ∧ record.sessionPseudonym ≠ "")
    "record pseudonymous identifier is invalid"
  require (record.sourceKind = .augmented → record.parentProvenanceId.getD "" ≠ "")
    "augmented record requires parent provenance"

/-! ## Poses -/

def fitsFloat32 (q : Rat) : Prop := |q| < 2 ^ 128 - 2 ^ 103

instance (q : Rat) : Decidable (fitsFloat32 q) := inferInstanceAs (Decidable (_ < _))

def landmarkValid (point : Landmark) : Prop :=
  (fitsFloat32 point.x ∧ fitsFloat32 point.y ∧ fitsFloat32 point.z ∧ fitsFloat32 point.visibility) ∧
    0 ≤ point.visibility ∧ point.visibility ≤ 1

instance (point : Landmark) : Decidable (landmarkValid point) := inferInstanceAs (Decidable (_ ∧ _ ∧ _))

def poseRows (record : Record) : Except String (List (List Landmark)) := do
  let count ← orError "MediaPipe-33 pose collection is invalid" record.pose.poseCount
  let poses ← orError "MediaPipe-33 pose collection is invalid" record.pose.landmarks
  require ((record.pose.topology = "mediapipe-33" ∨ record.pose.topology = "mediapipe-33-v1") ∧ 0 ≤ count ∧ count ≤ 2 ∧
    poses.length = count) "MediaPipe-33 pose collection is invalid"
  require (∀ pose ∈ poses, pose.length = landmarkCount) "MediaPipe-33 pose collection is invalid"
  require (∀ pose ∈ poses, ∀ point ∈ pose, landmarkValid point) "landmark value is invalid"
  return poses

/-- `_landmarks`, with the time of the record. -/
def sourceFrame (record : Record) : Except String SourceFrame := do
  match ← poseRows record with
  | [pose] =>
    let capturedNs ← orError "captured_ns is required" record.timing.capturedNs
    return ⟨capturedNs, pose, pose.map fun point => decide (0 < point.visibility)⟩
  | _ => .error "single-pose MediaPipe-33 landmarks are required"

/-! ## Context -/

def contextRow (record : Record) : Except String ContextRow := do
  let blurScore ← orError "quality/focus context is incomplete" record.quality.blur
  let exposureScore ← orError "quality/focus context is incomplete" record.quality.exposure
  let visibilityMean ← orError "quality/focus context is incomplete" record.quality.visibilityMean
  let frameGapRatio ← orError "quality/focus context is incomplete" record.quality.frameGapRatio
  let signalAgeMs ← orError "quality/focus context is incomplete" record.focus.signalAgeMs
  require (record.focus.contaminatedByOperator = false) "operator-contaminated focus cannot enter model context"
  let scaledFocusSignalAge := min (signalAgeMs / 6000) 1
  require (0 ≤ scaledFocusSignalAge) "quality/focus context is non-finite"
  return {
    visibilityMean, blurScore, exposureScore, frameGapRatio, scaledFocusSignalAge
    focusFraction := if record.focus.state = .examFocused then 1 else 0 }

def context (records : List Record) : Except String ContextRow := do
  aggregateContextRows (← records.mapM contextRow)

/-! ## Windows -/

structure Window where
  tensor : Tensor
  label : Label
  context : ContextRow
  participant : String
  session : String
  sourceKind : SourceKind
  phase : String
  sampleId : String
  startMs : Int
  endMs : Int
  parentProvenanceIds : List String
  sourceRecordIds : List String
  deriving DecidableEq

/-- `int(record["timing"]["offset_ms"])`. -/
def Record.offsetMs (record : Record) : Int := record.timing.offsetMs.getD 0

/-- `int(record["timing"].get("captured_ns", -1))`. -/
def Record.capturedNs (record : Record) : Int := record.timing.capturedNs.getD (-1)

def windowOf (env : LoaderEnv) (candidate : List Record) : Except String (Option Window) := do
  let first ← orError "IndexError" candidate.head?
  let source ← candidate.mapM sourceFrame
  match resamplePoseWindow env.arith source with
  | .error _ => return none
  | .ok tensor =>
    let selected := candidate.take windowFrames
    let context ← context selected
    require (∀ record ∈ selected, record.timing.phase = first.timing.phase)
      "window phase changed within one supervised sample"
    return some {
      tensor, context
      label := first.label
      participant := first.participantPseudonym
      session := first.sessionPseudonym
      sourceKind := first.sourceKind
      phase := first.timing.phase.getD "None"
      sampleId := env.windowId first.sessionPseudonym first.capturedNs first.label
      startMs := first.offsetMs
      endMs := first.offsetMs + 6000
      parentProvenanceIds := selected.filterMap Record.parentProvenanceId
      sourceRecordIds := selected.map Record.sampleId }

def candidates (run : List Record) : List (List Record) :=
  (List.range ((run.length - 75) / 15)).map fun i => run.drop (15 * i)

def slide (env : LoaderEnv) : List (List Record) → Except String (List Window)
  | [] => .ok []
  | candidate :: rest => do
    match ← windowOf env candidate with
    | none => return []
    | some window => return window :: (← slide env rest)

def labelRuns (records : List Record) : List (List Record) := records.splitBy fun a b => decide (a.label = b.label)

def isSupervised (run : List Record) : Prop := ∃ record ∈ run.head?, record.label ∈ classOrder

instance (run : List Record) : Decidable (isSupervised run) := by
  unfold isSupervised
  infer_instance

def runWindows (env : LoaderEnv) (run : List Record) : Except String (List Window) :=
  if isSupervised run then slide env (candidates run) else .ok []

/-! ## Sessions -/

structure RawRuleFrame where
  sessionId : String
  participantId : String
  sourceKind : SourceKind
  phase : String
  timestampMs : Int
  poseCount : Nat
  downScore : Rat
  sideScore : Rat
  qualityOk : Bool
  deriving DecidableEq

structure ReviewedEvent where
  sessionId : String
  participantId : String
  label : Label
  startMs : Int
  endMs : Int
  deriving DecidableEq

/-- The entry of a record in `record_provenance`. -/
structure RecordProvenance where
  participant : String
  sourceKind : SourceKind
  phase : String
  deriving DecidableEq

structure SessionLoad where
  sessionId : String
  participant : String
  sourceKind : SourceKind
  phase : String
  durationMs : Int
  recordProvenance : List (String × RecordProvenance)
  rawRuleFrames : List RawRuleFrame
  reviewedEvents : List ReviewedEvent
  windows : List Window
  deriving DecidableEq

def poseScores (env : LoaderEnv) (qualityOk : Bool) : List (List Landmark) → Rat × Rat × Bool
  | [pose] =>
    match env.orientation pose with
    | some (down, side) => (down, side, qualityOk)
    | none => (0, 0, false)
  | _ => (0, 0, qualityOk)

def rawRuleFrame (env : LoaderEnv) (first record : Record) : Except String RawRuleFrame := do
  let poses ← poseRows record
  let (downScore, sideScore, qualityOk) := poseScores env (record.quality.state = .sufficient) poses
  return {
    sessionId := first.sessionPseudonym
    participantId := first.participantPseudonym
    sourceKind := first.sourceKind
    phase := first.timing.phase.getD "None"
    timestampMs := record.offsetMs
    poseCount := poses.length
    downScore, sideScore, qualityOk }

def reviewedEvent (run : List Record) : Option ReviewedEvent :=
  match run.head?, run.getLast? with
  | some first, some last =>
    if first.label = .prolongedHeadDown ∨ first.label = .prolongedSideLook then
      some ⟨first.sessionPseudonym, first.participantPseudonym, first.label, first.offsetMs, last.offsetMs + 67⟩
    else none
  | _, _ => none

def ordered (records : List Record) : List Record :=
  records.mergeSort fun a b => decide (a.capturedNs ≤ b.capturedNs)

def sameProvenance (first : Record) (records : List Record) : Prop :=
  (∀ record ∈ records, record.participantPseudonym = first.participantPseudonym ∧
    record.sourceKind = first.sourceKind ∧ record.timing.phase = first.timing.phase) ∧
    (first.timing.phase = some "PILOT" ∨ first.timing.phase = some "CONFIRMATORY")

instance (first : Record) (records : List Record) : Decidable (sameProvenance first records) :=
  inferInstanceAs (Decidable ((∀ record ∈ records, _ ∧ _ ∧ _) ∧ _))

def loadSession (env : LoaderEnv) (grouped : List Record) : Except String SessionLoad := do
  let records := ordered grouped
  let first ← orError "IndexError" records.head?
  require (sameProvenance first records) "session participant/source/phase provenance changed"
  require (∀ record ∈ records, ∃ offset ∈ record.timing.offsetMs, 0 ≤ offset) "session timing is invalid"
  require ((records.map Record.offsetMs).IsChain (· < ·)) "session offsets must increase strictly"
  let rawRuleFrames ← records.mapM (rawRuleFrame env first)
  let windows ← (labelRuns records).mapM (runWindows env)
  return {
    sessionId := first.sessionPseudonym
    participant := first.participantPseudonym
    sourceKind := first.sourceKind
    phase := first.timing.phase.getD "None"
    durationMs := (records.map Record.offsetMs).foldl max 0 + 1
    recordProvenance := records.map fun record =>
      (record.sampleId, ⟨first.participantPseudonym, first.sourceKind, first.timing.phase.getD "None"⟩)
    rawRuleFrames
    reviewedEvents := (labelRuns records).filterMap reviewedEvent
    windows := windows.flatten }

/-! ## The export -/

structure LoadedRuntimeExport where
  manifestSha256 : String
  auditLabelCounts : List (Label × Nat)
  sessions : List SessionLoad
  deriving DecidableEq

def LoadedRuntimeExport.windows (loaded : LoadedRuntimeExport) : List Window :=
  loaded.sessions.flatMap SessionLoad.windows

def LoadedRuntimeExport.rawRuleFrames (loaded : LoadedRuntimeExport) : List RawRuleFrame :=
  loaded.sessions.flatMap SessionLoad.rawRuleFrames

/-- `Counter`, in the order in which the labels come first. -/
def counter (labels : List Label) : List (Label × Nat) := labels.eraseDups.map fun label => (label, labels.count label)

/-- `grouped`: the records of each session, in the order in which the sessions come first. -/
def groupedSessions (records : List Record) : List (List Record) :=
  (records.map Record.sessionPseudonym).eraseDups.map fun session =>
    records.filter fun record => record.sessionPseudonym = session

def loadRuntimeExport (env : LoaderEnv) (archive : Archive) : Except String LoadedRuntimeExport := do
  let (manifest, records) ← validateResearchExport env.sha256 env.packing archive
  records.forM (Record.recheck manifest)
  require (records.map Record.sampleId).Nodup "record sample IDs must be unique"
  let sessions ← (groupedSessions records).mapM (loadSession env)
  return {
    manifestSha256 := manifest.manifestSha256
    auditLabelCounts := counter (records.map Record.label)
    sessions }

/-! ## What a load that succeeds has read -/

variable {env : LoaderEnv} {archive : Archive} {loaded : LoadedRuntimeExport} {session : SessionLoad}
  {records grouped run candidate : List Record} {record first : Record} {window : Window} {windows : List Window}
  {source : List SourceFrame}

theorem validateResearchExport_eq {read : Manifest × List Record}
    (h : validateResearchExport env.sha256 env.packing archive = .ok read) : read = (archive.manifest, archive.records) := by
  unfold validateResearchExport at h
  simp only [bind_ok_iff, require_eq_ok] at h
  obtain ⟨-, -, -, -, -, -, -, -, -, -, h⟩ := h
  cases h
  rfl

theorem loadRuntimeExport_ok_iff : loadRuntimeExport env archive = .ok loaded ↔
    validateResearchExport env.sha256 env.packing archive = .ok (archive.manifest, archive.records) ∧
      (∀ record ∈ archive.records, record.recheck archive.manifest = .ok ()) ∧
      (archive.records.map Record.sampleId).Nodup ∧
      ∃ sessions, (groupedSessions archive.records).mapM (loadSession env) = .ok sessions ∧
        loaded = ⟨archive.manifest.manifestSha256, counter (archive.records.map Record.label), sessions⟩ := by
  unfold loadRuntimeExport
  simp only [bind_ok_iff, require_eq_ok]
  constructor
  · rintro ⟨read, hread, ⟨⟩, hrecheck, ⟨⟩, hunique, sessions, hsessions, hloaded⟩
    obtain rfl := validateResearchExport_eq hread
    exact ⟨hread, forM_ok_iff.mp hrecheck, hunique, sessions, hsessions, (Except.ok.inj hloaded).symm⟩
  · rintro ⟨hread, hrecheck, hunique, sessions, hsessions, rfl⟩
    exact ⟨_, hread, (), forM_ok_iff.mpr hrecheck, (), hunique, sessions, hsessions, rfl⟩

structure Loads (env : LoaderEnv) (grouped : List Record) (session : SessionLoad) (first : Record) : Prop where
  head : (ordered grouped).head? = some first
  provenance : sameProvenance first (ordered grouped)
  timing : ∀ record ∈ ordered grouped, ∃ offset ∈ record.timing.offsetMs, 0 ≤ offset
  increasing : ((ordered grouped).map Record.offsetMs).Pairwise (· < ·)
  sessionId : session.sessionId = first.sessionPseudonym
  participant : session.participant = first.participantPseudonym
  sourceKind : session.sourceKind = first.sourceKind
  phase : session.phase = first.timing.phase.getD "None"
  durationMs : session.durationMs = ((ordered grouped).map Record.offsetMs).foldl max 0 + 1
  recordProvenance : session.recordProvenance = (ordered grouped).map fun record =>
    (record.sampleId, ⟨first.participantPseudonym, first.sourceKind, first.timing.phase.getD "None"⟩)
  rawRuleFrames : (ordered grouped).mapM (rawRuleFrame env first) = .ok session.rawRuleFrames
  reviewedEvents : session.reviewedEvents = (labelRuns (ordered grouped)).filterMap reviewedEvent
  windows : ∃ windows, (labelRuns (ordered grouped)).mapM (runWindows env) = .ok windows ∧
    session.windows = windows.flatten

theorem loadSession_ok_iff : loadSession env grouped = .ok session ↔ ∃ first, Loads env grouped session first := by
  unfold loadSession
  simp only [bind_ok_iff, require_eq_ok, orError_eq_ok, List.isChain_iff_pairwise]
  constructor
  · rintro ⟨first, hhead, ⟨⟩, hprovenance, ⟨⟩, htiming, ⟨⟩, hincreasing, frames, hframes, windows, hwindows, hsession⟩
    obtain rfl := Except.ok.inj hsession
    exact ⟨first, hhead, hprovenance, htiming, hincreasing, rfl, rfl, rfl, rfl, rfl, rfl, hframes, rfl,
      windows, hwindows, rfl⟩
  · rintro ⟨first, h⟩
    obtain ⟨windows, hwindows, hflatten⟩ := h.windows
    refine ⟨first, h.head, (), h.provenance, (), h.timing, (), h.increasing, session.rawRuleFrames, h.rawRuleFrames,
      windows, hwindows, ?_⟩
    obtain ⟨sessionId, participant, sourceKind, phase, durationMs, provenance, frames, events, sessionWindows⟩ := session
    obtain ⟨-, -, -, -, rfl, rfl, rfl, rfl, rfl, rfl, -, rfl, -⟩ := h
    obtain rfl := hflatten
    rfl

/-! ## Windows and the records that they are cut from -/

theorem candidates_length (h : candidate ∈ candidates run) : windowFrames ≤ candidate.length := by
  obtain ⟨i, hi, rfl⟩ := List.mem_map.mp h
  have hcount := List.mem_range.mp hi
  rw [List.length_drop]
  unfold windowFrames
  omega

theorem candidates_eq_cons (h : windowFrames ≤ run.length) : ∃ others, candidates run = run :: others := by
  unfold candidates windowFrames at *
  obtain ⟨n, hn⟩ : ∃ n, (run.length - 75) / 15 = n + 1 := ⟨(run.length - 75) / 15 - 1, by omega⟩
  rw [hn, List.range_succ_eq_map, List.map_cons]
  exact ⟨_, rfl⟩

theorem candidates_suffix (h : candidate ∈ candidates run) : candidate <:+ run := by
  obtain ⟨i, -, rfl⟩ := List.mem_map.mp h
  exact List.drop_suffix _ _

theorem slide_mem {rest : List (List Record)} (h : slide env rest = .ok windows) (hmem : window ∈ windows) :
    ∃ candidate ∈ rest, windowOf env candidate = .ok (some window) := by
  induction rest generalizing windows with
  | nil =>
    cases h
    cases hmem
  | cons candidate rest ih =>
    rw [slide, bind_ok_iff] at h
    obtain ⟨cut, hcut, h⟩ := h
    cases cut with
    | none =>
      cases h
      cases hmem
    | some made =>
      rw [bind_ok_iff] at h
      obtain ⟨others, hothers, h⟩ := h
      cases h
      rcases List.mem_cons.mp hmem with rfl | hmem
      · exact ⟨candidate, List.mem_cons_self, hcut⟩
      · obtain ⟨other, hother, hcut⟩ := ih hothers hmem
        exact ⟨other, List.mem_cons_of_mem _ hother, hcut⟩

def IsCandidate (archive : Archive) (candidate : List Record) : Prop :=
  ∃ grouped ∈ groupedSessions archive.records, ∃ run ∈ labelRuns (ordered grouped), isSupervised run ∧
    candidate ∈ candidates run

structure Cuts (env : LoaderEnv) (archive : Archive) (loaded : LoadedRuntimeExport) (candidate : List Record)
    (window : Window) : Prop where
  isCandidate : IsCandidate archive candidate
  cut : windowOf env candidate = .ok (some window)
  loaded : window ∈ loaded.windows

theorem IsCandidate.infix (h : IsCandidate archive candidate) :
    windowFrames ≤ candidate.length ∧ ∃ grouped ∈ groupedSessions archive.records, candidate <:+: ordered grouped := by
  obtain ⟨grouped, hgrouped, run, hrun, -, hcandidate⟩ := h
  refine ⟨candidates_length hcandidate, grouped, hgrouped, ?_⟩
  have hstretch : run <:+: ordered grouped := by
    have hflatten := List.flatten_splitBy (fun a b : Record => decide (a.label = b.label)) (ordered grouped)
    rw [← hflatten]
    exact List.infix_of_mem_flatten hrun
  exact (candidates_suffix hcandidate).isInfix.trans hstretch

theorem mem_ordered : record ∈ ordered records ↔ record ∈ records := List.mem_mergeSort

theorem mem_groupedSessions (hgrouped : grouped ∈ groupedSessions records) (hmem : record ∈ grouped) :
    record ∈ records := by
  obtain ⟨session, -, rfl⟩ := List.mem_map.mp hgrouped
  exact (List.mem_filter.mp hmem).1

theorem IsCandidate.increasing (hload : loadRuntimeExport env archive = .ok loaded) (h : IsCandidate archive candidate) :
    (candidate.map Record.offsetMs).Pairwise (· < ·) ∧ (candidate.map Record.sampleId).Nodup := by
  obtain ⟨-, -, hunique, sessions, hsessions, rfl⟩ := loadRuntimeExport_ok_iff.mp hload
  obtain ⟨-, grouped, hgrouped, hstretch⟩ := h.infix
  obtain ⟨session, -, hsession⟩ := (mapM_ok_mem hsessions).2 grouped hgrouped
  obtain ⟨first, hloads⟩ := loadSession_ok_iff.mp hsession
  refine ⟨hloads.increasing.sublist (hstretch.sublist.map _), ?_⟩
  obtain ⟨session, -, rfl⟩ := List.mem_map.mp hgrouped
  have hperm := (List.mergeSort_perm (archive.records.filter fun record => record.sessionPseudonym = session)
    (fun a b => decide (a.capturedNs ≤ b.capturedNs))).map Record.sampleId
  have hfiltered : ((archive.records.filter fun record => record.sessionPseudonym = session).map
      Record.sampleId).Nodup := hunique.sublist (List.filter_sublist.map Record.sampleId)
  exact (hperm.nodup_iff.mpr hfiltered).sublist (hstretch.sublist.map _)

theorem IsCandidate.sameSource (hload : loadRuntimeExport env archive = .ok loaded) (h : IsCandidate archive candidate) :
    ∀ a ∈ candidate, ∀ b ∈ candidate, a.sourceKind = b.sourceKind := by
  obtain ⟨-, -, -, sessions, hsessions, rfl⟩ := loadRuntimeExport_ok_iff.mp hload
  obtain ⟨-, grouped, hgrouped, hstretch⟩ := h.infix
  obtain ⟨session, -, hsession⟩ := (mapM_ok_mem hsessions).2 grouped hgrouped
  obtain ⟨first, hloads⟩ := loadSession_ok_iff.mp hsession
  intro a ha b hb
  rw [(hloads.provenance.1 a (hstretch.subset ha)).2.1, (hloads.provenance.1 b (hstretch.subset hb)).2.1]

theorem windowOf_ne_none {tensor : Tensor} (hsource : candidate.mapM sourceFrame = .ok source)
    (htensor : resamplePoseWindow env.arith source = .ok tensor) : windowOf env candidate ≠ .ok none := by
  intro h
  unfold windowOf at h
  simp only [bind_ok_iff, orError_eq_ok] at h
  obtain ⟨first, -, read, hread, h⟩ := h
  obtain rfl := Except.ok.inj (hsource.symm.trans hread)
  rw [htensor] at h
  simp only [bind_ok_iff, require_eq_ok] at h
  obtain ⟨row, -, ⟨⟩, -, h⟩ := h
  cases h

structure WindowOf (env : LoaderEnv) (candidate : List Record) (window : Window) (first : Record)
    (source : List SourceFrame) : Prop where
  head : candidate.head? = some first
  frames : candidate.mapM sourceFrame = .ok source
  tensor : resamplePoseWindow env.arith source = .ok window.tensor
  context : context (candidate.take windowFrames) = .ok window.context
  label : window.label = first.label
  participant : window.participant = first.participantPseudonym
  session : window.session = first.sessionPseudonym
  sourceKind : window.sourceKind = first.sourceKind
  phase : window.phase = first.timing.phase.getD "None"
  startMs : window.startMs = first.offsetMs
  endMs : window.endMs = first.offsetMs + 6000
  parentProvenanceIds : window.parentProvenanceIds = (candidate.take windowFrames).filterMap Record.parentProvenanceId
  sourceRecordIds : window.sourceRecordIds = (candidate.take windowFrames).map Record.sampleId

theorem windowOf_some (h : windowOf env candidate = .ok (some window)) :
    ∃ first source, WindowOf env candidate window first source := by
  unfold windowOf at h
  simp only [bind_ok_iff, orError_eq_ok] at h
  obtain ⟨first, hhead, source, hsource, h⟩ := h
  cases htensor : resamplePoseWindow env.arith source with
  | error e =>
    rw [htensor] at h
    cases h
  | ok tensor =>
    rw [htensor] at h
    simp only [bind_ok_iff, require_eq_ok] at h
    obtain ⟨row, hcontext, ⟨⟩, -, h⟩ := h
    cases h
    exact ⟨first, source, hhead, hsource, htensor, hcontext, rfl, rfl, rfl, rfl, rfl, rfl, rfl, rfl, rfl⟩

end PduExamObserver.Training
