import Mathlib.Data.List.TakeWhile
import PduExamObserver.ResearchRuntime.Export
import PduExamObserver.Training.Dataset

/-! # Runtime exports as training data

What the loader makes of the archive that the runtime builds of a real session: which of them it accepts, and which
frames, labels and windows it takes from them. -/

namespace PduExamObserver.Training
open ResearchRuntime Rounding Showcase
set_option autoImplicit false

/-! ## The documents of an export -/

def provenanceText : Provenance → String
  | .frame sessionId frameSeq => sessionId ++ ":" ++ toString frameSeq
  | .event eventId => toString eventId

def recordOf (sampleId : String) (record : ExportRecord) : Record where
  exportId := ""
  manifestSha256 := ""
  schemaVersion := 1
  recordCount := 0
  sampleId
  participantPseudonym := record.participantPseudonym
  sessionPseudonym := record.sessionPseudonym
  sourceKind := record.sourceKind
  parentProvenanceId := some (provenanceText record.parentProvenanceId)
  pose := match record.pose with
    | some (landmarks, poseCount) => ⟨"mediapipe-33", some poseCount, some landmarks⟩
    | none => ⟨"synthetic-fixture", none, none⟩
  label := record.label
  quality := match record.quality with
    | some quality =>
      ⟨quality.state, some quality.blur, some quality.exposure, some quality.visibilityMean, some quality.frameGapRatio⟩
    | none => ⟨.synthetic, none, none, none, none⟩
  focus := ⟨record.focusState, record.signalAgeMs, record.contaminatedByOperator⟩
  timing := match record.timing with
    | .frame capturedNs offsetMs phase => ⟨some capturedNs, some offsetMs, some phase⟩
    | .fixture => ⟨none, none, none⟩

/-- The documents of an export; `sampleIds` are the identifiers that are drawn for them. -/
def documents (sampleIds : List String) (records : List ExportRecord) : List Record :=
  List.zipWith recordOf sampleIds records

theorem documents_eq (sampleIds : List String) (records : List ExportRecord) :
    documents sampleIds records = (sampleIds.zip records).map fun entry => recordOf entry.1 entry.2 := by
  rw [documents, ← List.map_uncurry_zip_eq_zipWith]
  rfl

/-! ## Frames -/

/-- A frame that `ingest_frame` accepts: its poses have been checked, and the age of its focus is not negative. -/
structure Accepted (observation : Observation) : Prop where
  poseCount : observation.poseCount = observation.landmarks.length
  few : observation.landmarks.length ≤ 2
  topology : ∀ pose ∈ observation.landmarks, pose.length = landmarkCount
  visible : ∀ pose ∈ observation.landmarks, visible pose
  focusAge : 0 ≤ observation.focusAgeMs

def Fits (observation : Observation) : Prop :=
  ∀ pose ∈ observation.landmarks, ∀ point ∈ pose,
    fitsFloat32 point.x ∧ fitsFloat32 point.y ∧ fitsFloat32 point.z ∧ fitsFloat32 point.visibility

variable {env : LoaderEnv} {setup : Setup} {answer : AuthorityAnswer} {contaminated : Nat → Bool} {row : Session}
  {directory : Option Directory} {observations : List Observation} {records : List ExportRecord}
  {sampleIds : List String} {exportId phase : String} {archive : Archive} {loaded : LoadedRuntimeExport}

def runtimeScores (emit : EmitEnv) (orientation : List Landmark → Option (Rat × Rat)) (observation : Observation) :
    Rat × Rat :=
  (frameScores { emit with orientation := observation.landmarks.head?.bind orientation } observation).2

def archiveRecord (row : Session) (phase : String) (observations : List Observation) (manifest : Manifest)
    (entry : String × Observation) : Record :=
  (recordOf entry.1 (frameRecord row (boundaries row) phase observations entry.2)).bound manifest.exportId
    manifest.recordCount manifest.manifestSha256

def frameContext (observation : Observation) : ContextRow where
  visibilityMean := observation.quality.visibilityMean
  blurScore := observation.quality.blur
  exposureScore := observation.quality.exposure
  frameGapRatio := observation.quality.frameGapRatio
  focusFraction := if observation.focus = .examFocused then 1 else 0
  scaledFocusSignalAge := min (observation.focusAgeMs / 6000) 1

def frameSource (observation : Observation) : SourceFrame :=
  let pose := observation.landmarks.headD []
  ⟨observation.capturedNs, pose, pose.map fun point => decide (0 < point.visibility)⟩

structure Builds (row : Session) (phase : String) (observations : List Observation) (entries : List (String × Observation))
    (archive : Archive) : Prop where
  frames : entries.map Prod.snd = observations
  nonempty : observations ≠ []
  cohort : phase = "PILOT" ∨ phase = "CONFIRMATORY"
  records : archive.records = entries.map (archiveRecord row phase observations archive.manifest)
  unique : (archive.records.map Record.sampleId).Nodup
  manifest : archive.manifest.schemaVersion = 1 ∧ archive.manifest.recordCount = archive.records.length
  valid : ∀ record ∈ archive.records, record.validate = .ok ()

theorem exportRecords_frames (hreal : row.sourceKind = .real)
    (htimeline : timelineObservations setup row directory = .ok observations)
    (h : exportRecords setup answer contaminated row directory = .ok records) :
    observations ≠ [] ∧ ∃ phase, (phase = "PILOT" ∨ phase = "CONFIRMATORY") ∧
      records = observations.map (frameRecord row (boundaries row) phase observations) := by
  have hnonempty : observations ≠ [] := by
    rintro rfl
    unfold timelineObservations at htimeline
    simp only [hreal, if_true, true_and] at htimeline
    split at htimeline
    · cases htimeline
    · split at htimeline
      · cases htimeline
      · split at htimeline
        · cases htimeline
        · split at htimeline
          · split at htimeline
            · cases htimeline
            · next hlines =>
              exact hlines (Except.ok.inj htimeline)
          · cases htimeline
  unfold exportRecords at h
  obtain ⟨read, hread, h⟩ := bind_ok_iff.mp h
  obtain rfl : observations = read := Except.ok.inj (htimeline.symm.trans hread)
  obtain ⟨phase, hphase, h⟩ := bind_ok_iff.mp h
  refine ⟨hnonempty, phase, ?_, ?_⟩
  · unfold exportPhase at hphase
    rw [if_pos hreal] at hphase
    obtain ⟨record, -, hphase⟩ := bind_ok_iff.mp hphase
    dsimp only at hphase
    split at hphase
    · next hcohort =>
      rwa [← Except.ok.inj hphase]
    · cases hphase
  · rw [if_neg hnonempty] at h
    exact (Except.ok.inj h).symm

theorem exists_builds (hreal : row.sourceKind = .real)
    (htimeline : timelineObservations setup row directory = .ok observations)
    (hexport : exportRecords setup answer contaminated row directory = .ok records)
    (hdrawn : sampleIds.length = records.length)
    (hbuild : buildResearchExport env.sha256 (documents sampleIds records) exportId = .ok archive) :
    ∃ phase entries, Builds row phase observations entries archive ∧
      archive.records.map Record.label = records.map ExportRecord.label := by
  obtain ⟨hnonempty, phase, hphase, rfl⟩ := exportRecords_frames hreal htimeline hexport
  rw [List.length_map] at hdrawn
  obtain ⟨-, -, hvalid, hunique, digest, -, rfl⟩ := buildResearchExport_ok_iff.mp hbuild
  have hdocuments : documents sampleIds (observations.map (frameRecord row (boundaries row) phase observations)) =
      (sampleIds.zip observations).map fun entry =>
        recordOf entry.1 (frameRecord row (boundaries row) phase observations entry.2) := by
    rw [documents_eq, List.zip_map_right, List.map_map]
    rfl
  have hsecond : (sampleIds.zip observations).map Prod.snd = observations := List.map_snd_zip hdrawn.ge
  refine ⟨phase, sampleIds.zip observations, ⟨hsecond, hnonempty, hphase, ?_, ?_, ?_, ?_⟩, ?_⟩
  · rw [hdocuments, List.map_map]
    rfl
  · rw [List.map_map]
    exact hunique
  · exact ⟨rfl, (List.length_map _).symm⟩
  · intro record hmem
    obtain ⟨source, hsource, rfl⟩ := List.mem_map.mp hmem
    exact validate_bound.trans (hvalid source hsource)
  · calc _ = (sampleIds.zip observations).map
          ((ExportRecord.label ∘ frameRecord row (boundaries row) phase observations) ∘ Prod.snd) := by
            rw [hdocuments, List.map_map, List.map_map]
            rfl
      _ = observations.map (ExportRecord.label ∘ frameRecord row (boundaries row) phase observations) := by
            rw [← List.map_map, hsecond]
      _ = _ := by rw [List.map_map]

/-! ## One record -/

section Record

variable {manifest : Manifest} {entry : String × Observation} {first record : Record}

theorem landmarkValid_iff {observation : Observation} (h : Accepted observation) :
    (∀ pose ∈ observation.landmarks, ∀ point ∈ pose, landmarkValid point) ↔ Fits observation := by
  unfold landmarkValid Fits
  constructor
  · intro hvalid pose hpose point hpoint
    exact (hvalid pose hpose point hpoint).1
  · intro hfits pose hpose point hpoint
    exact ⟨hfits pose hpose point hpoint, h.visible pose hpose point hpoint⟩

theorem poseRows_archiveRecord (h : Accepted entry.2) {poses : List (List Landmark)} :
    poseRows (archiveRecord row phase observations manifest entry) = .ok poses ↔
      Fits entry.2 ∧ poses = entry.2.landmarks := by
  unfold poseRows
  simp only [bind_ok_iff, require_eq_ok, orError_eq_ok]
  constructor
  · rintro ⟨count, hcount, rows, hrows, ⟨⟩, -, ⟨⟩, -, ⟨⟩, hvalid, hposes⟩
    obtain rfl : entry.2.landmarks = rows := Option.some.inj hrows
    exact ⟨(landmarkValid_iff h).mp hvalid, (Except.ok.inj hposes).symm⟩
  · rintro ⟨hfits, rfl⟩
    have hcount := h.poseCount
    have hfew := h.few
    refine ⟨entry.2.poseCount, rfl, entry.2.landmarks, rfl, (), ⟨.inl rfl, ?_, ?_, ?_⟩, (), h.topology, (),
      (landmarkValid_iff h).mpr hfits, rfl⟩ <;> omega

theorem contextRow_archiveRecord (h : Accepted entry.2) (hclean : row.contaminatedFromSeq = none) :
    contextRow (archiveRecord row phase observations manifest entry) = .ok (frameContext entry.2) := by
  unfold contextRow
  simp only [bind_ok_iff, require_eq_ok, orError_eq_ok]
  refine ⟨_, rfl, _, rfl, _, rfl, _, rfl, _, rfl, (), ?_, (), ?_, rfl⟩
  · simp [archiveRecord, Record.bound, recordOf, frameRecord, hclean]
  · have hage : 0 ≤ entry.2.focusAgeMs / 6000 := div_nonneg h.focusAge (by norm_num)
    exact le_min hage (by norm_num)

theorem recheck_valid {record : Record} (hvalid : record.validate = .ok ())
    (hbound : record.boundTo manifest manifest.recordCount) : record.recheck manifest = .ok () := by
  unfold Record.validate at hvalid
  unfold Record.recheck
  simp only [bind_ok_iff, require_eq_ok] at hvalid ⊢
  obtain ⟨⟨⟩, hschema, ⟨⟩, hids, ⟨⟩, hparent, -⟩ := hvalid
  exact ⟨(), ⟨hschema, hbound⟩, (), hids, hparent⟩

theorem rawRuleFrame_archiveRecord (h : Accepted entry.2) {frame : RawRuleFrame} :
    rawRuleFrame env first (archiveRecord row phase observations manifest entry) = .ok frame ↔
      Fits entry.2 ∧ frame =
        { sessionId := first.sessionPseudonym
          participantId := first.participantPseudonym
          sourceKind := first.sourceKind
          phase := first.timing.phase.getD "None"
          timestampMs := ResearchRuntime.offsetMs observations entry.2
          poseCount := entry.2.poseCount
          downScore := (poseScores env (entry.2.quality.state = .sufficient) entry.2.landmarks).1
          sideScore := (poseScores env (entry.2.quality.state = .sufficient) entry.2.landmarks).2.1
          qualityOk := (poseScores env (entry.2.quality.state = .sufficient) entry.2.landmarks).2.2 } := by
  unfold rawRuleFrame
  rw [bind_ok_iff]
  simp only [poseRows_archiveRecord h]
  constructor
  · rintro ⟨poses, ⟨hfits, rfl⟩, hframe⟩
    refine ⟨hfits, (Except.ok.inj hframe).symm.trans ?_⟩
    rw [h.poseCount]
    rfl
  · rintro ⟨hfits, rfl⟩
    refine ⟨_, ⟨hfits, rfl⟩, ?_⟩
    rw [h.poseCount]
    rfl

theorem poseScores_eq {observation : Observation} (h : Accepted observation) (emit : EmitEnv) (qualityOk : Bool) :
    ((poseScores env qualityOk observation.landmarks).1, (poseScores env qualityOk observation.landmarks).2.1) =
      runtimeScores emit env.orientation observation := by
  unfold runtimeScores frameScores poseScores
  have hcount := h.poseCount
  rcases hposes : observation.landmarks with _ | ⟨pose, _ | ⟨second, rest⟩⟩
  · rw [hposes] at hcount
    simp [hcount]
  · rw [hposes] at hcount
    have hone : observation.poseCount = 1 := hcount
    rw [if_pos hone]
    simp only [List.head?_cons, Option.bind_some]
    cases env.orientation pose with
    | none => rfl
    | some scores => rfl
  · rw [hposes] at hcount
    rw [if_neg (by rw [hcount]; simp)]

theorem sourceFrame_archiveRecord (h : Accepted entry.2) {frame : SourceFrame} :
    sourceFrame (archiveRecord row phase observations manifest entry) = .ok frame ↔
      Fits entry.2 ∧ entry.2.poseCount = 1 ∧ frame = frameSource entry.2 := by
  unfold sourceFrame frameSource
  simp only [bind_ok_iff, poseRows_archiveRecord h, h.poseCount]
  constructor
  · rintro ⟨poses, ⟨hfits, rfl⟩, hframe⟩
    refine ⟨hfits, ?_⟩
    split at hframe
    · next pose hposes =>
      rw [hposes]
      exact ⟨rfl, (Except.ok.inj hframe).symm⟩
    · cases hframe
  · rintro ⟨hfits, hone, rfl⟩
    obtain ⟨pose, hpose⟩ := List.length_eq_one_iff.mp hone
    refine ⟨entry.2.landmarks, ⟨hfits, rfl⟩, ?_⟩
    rw [hpose]
    rfl

theorem mapM_sourceFrame_iff {l : List (String × Observation)} (h : ∀ entry ∈ l, Accepted entry.2)
    {source : List SourceFrame} :
    (l.map (archiveRecord row phase observations manifest)).mapM sourceFrame = .ok source ↔
      (∀ entry ∈ l, Fits entry.2 ∧ entry.2.poseCount = 1) ∧ source = l.map fun entry => frameSource entry.2 := by
  rw [List.mapM_map]
  induction l generalizing source with
  | nil =>
    rw [List.mapM_nil]
    exact ⟨fun hsource => ⟨by simp, (Except.ok.inj hsource).symm⟩, fun ⟨_, hsource⟩ => by rw [hsource]; rfl⟩
  | cons entry rest ih =>
    obtain ⟨haccepted, hrest⟩ := List.forall_mem_cons.mp h
    rw [List.mapM_cons, bind_ok_iff]
    constructor
    · rintro ⟨frame, hframe, hsource⟩
      rw [bind_ok_iff] at hsource
      obtain ⟨others, hothers, hsource⟩ := hsource
      cases hsource
      obtain ⟨hfits, hone, rfl⟩ := (sourceFrame_archiveRecord haccepted).mp hframe
      obtain ⟨hall, rfl⟩ := (ih hrest).mp hothers
      exact ⟨List.forall_mem_cons.mpr ⟨⟨hfits, hone⟩, hall⟩, rfl⟩
    · rintro ⟨hall, rfl⟩
      obtain ⟨⟨hfits, hone⟩, hothers⟩ := List.forall_mem_cons.mp hall
      refine ⟨_, (sourceFrame_archiveRecord haccepted).mpr ⟨hfits, hone, rfl⟩, ?_⟩
      rw [bind_ok_iff]
      exact ⟨_, (ih hrest).mpr ⟨hothers, rfl⟩, rfl⟩

end Record

/-! ## One window -/

variable {candidate run : List Record}

theorem windowOf_returns (hnonempty : candidate ≠ [])
    (hframe : ∀ record ∈ candidate, ∃ frame, sourceFrame record = .ok frame)
    (hcontext : ∀ record ∈ candidate, ∃ context, contextRow record = .ok context)
    (hphase : ∀ record ∈ candidate, ∀ other ∈ candidate, record.timing.phase = other.timing.phase) :
    ∃ cut, windowOf env candidate = .ok cut := by
  obtain ⟨first, rest, rfl⟩ := List.exists_cons_of_ne_nil hnonempty
  obtain ⟨source, hsource⟩ := mapM_returns_iff.mpr hframe
  unfold windowOf
  rw [hsource]
  simp only [List.head?_cons, orError, ok_bind]
  cases resamplePoseWindow env.arith source with
  | error e => exact ⟨none, rfl⟩
  | ok tensor =>
    have hsub : ∀ record ∈ (first :: rest).take windowFrames, record ∈ first :: rest := fun record hmem =>
      List.mem_of_mem_take hmem
    obtain ⟨rows, hrows⟩ := mapM_returns_iff.mpr fun record hmem => hcontext record (hsub record hmem)
    have hlength := mapM_ok_length hrows
    have hrowsNonempty : rows ≠ [] := by
      rintro rfl
      simp [windowFrames] at hlength
    simp only [context, hrows, ok_bind, aggregateContextRows, require, if_pos hrowsNonempty]
    rw [if_pos fun record hmem => hphase record (hsub record hmem) first List.mem_cons_self]
    exact ⟨_, rfl⟩

theorem slide_returns {rest : List (List Record)} (h : ∀ candidate ∈ rest, ∃ cut, windowOf env candidate = .ok cut) :
    ∃ windows, slide env rest = .ok windows := by
  induction rest with
  | nil => exact ⟨[], rfl⟩
  | cons candidate rest ih =>
    obtain ⟨cut, hcut⟩ := h candidate List.mem_cons_self
    obtain ⟨others, hothers⟩ := ih fun other hmem => h other (List.mem_cons_of_mem _ hmem)
    rw [slide, hcut]
    cases cut with
    | none => exact ⟨[], rfl⟩
    | some window =>
      refine ⟨window :: others, ?_⟩
      rw [ok_bind, hothers]
      rfl

theorem runWindows_returns_iff
    (hcontext : ∀ record ∈ run, ∃ context, contextRow record = .ok context)
    (hphase : ∀ record ∈ run, ∀ other ∈ run, record.timing.phase = other.timing.phase) :
    (∃ windows, runWindows env run = .ok windows) ↔
      (isSupervised run → windowFrames ≤ run.length → ∀ record ∈ run, ∃ frame, sourceFrame record = .ok frame) := by
  unfold runWindows
  constructor
  · rintro ⟨windows, h⟩ hsupervised hlong
    rw [if_pos hsupervised] at h
    obtain ⟨others, hothers⟩ := candidates_eq_cons hlong
    rw [hothers, slide, bind_ok_iff] at h
    obtain ⟨cut, hcut, -⟩ := h
    unfold windowOf at hcut
    simp only [bind_ok_iff] at hcut
    obtain ⟨first, -, source, hsource, -⟩ := hcut
    exact mapM_returns_iff.mp ⟨source, hsource⟩
  · intro h
    by_cases hsupervised : isSupervised run
    · rw [if_pos hsupervised]
      refine slide_returns fun candidate hcandidate => ?_
      have hlength := candidates_length hcandidate
      have hsuffix := candidates_suffix hcandidate
      have hrows := h hsupervised (hlength.trans hsuffix.length_le)
      have hsub : ∀ record ∈ candidate, record ∈ run := fun record hmem => hsuffix.subset hmem
      refine windowOf_returns (List.ne_nil_of_length_pos ?_) (fun record hmem => hrows record (hsub record hmem))
        (fun record hmem => hcontext record (hsub record hmem))
        fun record hmem other hother => hphase record (hsub record hmem) other (hsub other hother)
      unfold windowFrames at hlength
      omega
    · rw [if_neg hsupervised]
      exact ⟨[], rfl⟩

/-! ## Sessions of frames -/

variable {entries : List (String × Observation)}

theorem offsetMs_mono {a b : Observation} (h : a.capturedNs ≤ b.capturedNs) :
    ResearchRuntime.offsetMs observations a ≤ ResearchRuntime.offsetMs observations b := by
  unfold ResearchRuntime.offsetMs
  exact Int.ediv_le_ediv (by omega) (by omega)

theorem offsetMs_nonneg (hdistinct : (observations.map (ResearchRuntime.offsetMs observations)).Pairwise (· < ·))
    {observation : Observation} (hmem : observation ∈ observations) :
    0 ≤ ResearchRuntime.offsetMs observations observation := by
  obtain ⟨first, rest, hobservations⟩ := List.exists_cons_of_ne_nil (List.ne_nil_of_mem hmem)
  have hzero : ResearchRuntime.offsetMs observations first = 0 := by
    unfold ResearchRuntime.offsetMs
    rw [hobservations]
    simp
  rw [hobservations] at hmem hdistinct
  rw [List.map_cons, List.pairwise_cons] at hdistinct
  rcases List.mem_cons.mp hmem with rfl | hmem
  · exact hzero.ge
  · have hlt := hdistinct.1 _ (List.mem_map_of_mem hmem)
    rw [← hobservations, hzero] at hlt
    exact hlt.le

theorem Builds.map_eq {α : Type} (h : Builds row phase observations entries archive) {f : Record → α}
    {g : Observation → α} (hfg : ∀ entry, f (archiveRecord row phase observations archive.manifest entry) = g entry.2) :
    archive.records.map f = observations.map g := by
  calc archive.records.map f
      = entries.map (f ∘ archiveRecord row phase observations archive.manifest) := by rw [h.records, List.map_map]
    _ = entries.map (g ∘ Prod.snd) := List.map_congr_left fun entry _ => hfg entry
    _ = observations.map g := by rw [← List.map_map, h.frames]

theorem Builds.mem (h : Builds row phase observations entries archive) {record : Record}
    (hmem : record ∈ archive.records) : ∃ entry ∈ entries, entry.2 ∈ observations ∧
      record = archiveRecord row phase observations archive.manifest entry := by
  rw [h.records] at hmem
  obtain ⟨entry, hentry, rfl⟩ := List.mem_map.mp hmem
  refine ⟨entry, hentry, ?_, rfl⟩
  rw [← h.frames]
  exact List.mem_map_of_mem hentry

theorem Builds.ordered_of_captured (h : Builds row phase observations entries archive)
    (hcaptured : (observations.map Observation.capturedNs).Pairwise (· ≤ ·)) :
    ordered archive.records = archive.records := by
  rw [← h.map_eq (f := Record.capturedNs) fun _ => rfl, List.pairwise_map] at hcaptured
  exact List.mergeSort_of_pairwise (hcaptured.imp fun {a b} hle => by simpa using hle)

theorem Builds.ordered (h : Builds row phase observations entries archive)
    (hdistinct : (observations.map (ResearchRuntime.offsetMs observations)).Pairwise (· < ·)) :
    ordered archive.records = archive.records := by
  refine h.ordered_of_captured ?_
  rw [List.pairwise_map] at hdistinct ⊢
  refine hdistinct.imp fun {a b} hlt => ?_
  by_contra hnot
  have hle : ResearchRuntime.offsetMs observations b ≤ ResearchRuntime.offsetMs observations a :=
    offsetMs_mono (Int.le_of_lt (Int.not_le.mp hnot))
  omega

theorem Builds.grouped (h : Builds row phase observations entries archive) :
    groupedSessions archive.records = [archive.records] := by
  have hsession : ∀ record ∈ archive.records, record.sessionPseudonym = row.sessionId := by
    intro record hmem
    obtain ⟨entry, -, -, rfl⟩ := h.mem hmem
    rfl
  have hnonempty : archive.records ≠ [] := by
    intro hnil
    have hmap := h.map_eq (f := Record.capturedNs) (g := Observation.capturedNs) fun _ => rfl
    rw [hnil] at hmap
    exact h.nonempty (List.map_eq_nil_iff.mp hmap.symm)
  have hsame : archive.records.map Record.sessionPseudonym = List.replicate archive.records.length row.sessionId :=
    List.map_eq_replicate_iff.mpr hsession
  obtain ⟨first, rest, hrecords⟩ := List.exists_cons_of_ne_nil hnonempty
  unfold groupedSessions
  rw [hsame, hrecords, List.length_cons, List.replicate_succ, List.eraseDups_cons,
    List.filter_eq_nil_iff.mpr fun session hmem => by simp [List.eq_of_mem_replicate hmem], ← hrecords]
  simp only [List.eraseDups_nil, List.map_cons, List.map_nil, List.cons.injEq, and_true, List.filter_eq_self,
    decide_eq_true_eq]
  exact hsession

/-! ## Acceptance -/

/-- What the loader asks of an archive of accepted frames: it is within the ceilings, every landmark fits, and in every
supervised run that is long enough for a window every frame has exactly one pose. -/
structure Loadable (env : LoaderEnv) (observations : List Observation) (archive : Archive) : Prop where
  bounded : env.packing.Bounded archive
  fits : ∀ observation ∈ observations, Fits observation
  single : ∀ run ∈ labelRuns archive.records, isSupervised run → windowFrames ≤ run.length →
    ∀ record ∈ run, record.pose.poseCount = some 1

theorem loadSession_returns_iff (h : Builds row phase observations entries archive)
    (hclean : row.contaminatedFromSeq = none)
    (haccepted : ∀ observation ∈ observations, Accepted observation)
    (hdistinct : (observations.map (ResearchRuntime.offsetMs observations)).Pairwise (· < ·)) :
    (∃ session, loadSession env archive.records = .ok session) ↔
      (∀ observation ∈ observations, Fits observation) ∧
        ∀ run ∈ labelRuns archive.records, isSupervised run → windowFrames ≤ run.length →
          ∀ record ∈ run, record.pose.poseCount = some 1 := by
  have hsub : ∀ run ∈ labelRuns archive.records, ∀ record ∈ run, record ∈ archive.records := by
    intro run hrun record hmem
    have hflatten := List.flatten_splitBy (fun a b : Record => decide (a.label = b.label)) archive.records
    rw [← hflatten]
    exact List.mem_flatten_of_mem hrun hmem
  have hentry : ∀ record ∈ archive.records, ∃ entry : String × Observation, entry.2 ∈ observations ∧
      record = archiveRecord row phase observations archive.manifest entry := by
    intro record hmem
    obtain ⟨entry, -, hmem, heq⟩ := h.mem hmem
    exact ⟨entry, hmem, heq⟩
  have hcontext : ∀ record ∈ archive.records, ∃ context, contextRow record = .ok context := by
    intro record hmem
    obtain ⟨entry, hobservation, rfl⟩ := hentry record hmem
    exact ⟨_, contextRow_archiveRecord (haccepted _ hobservation) hclean⟩
  have hphase : ∀ record ∈ archive.records, ∀ other ∈ archive.records, record.timing.phase = other.timing.phase := by
    intro record hmem other hother
    obtain ⟨entry, -, rfl⟩ := hentry record hmem
    obtain ⟨otherEntry, -, rfl⟩ := hentry other hother
    rfl
  have hruns : (∃ windows, (labelRuns archive.records).mapM (runWindows env) = .ok windows) ↔
      ∀ run ∈ labelRuns archive.records, isSupervised run → windowFrames ≤ run.length →
        ∀ record ∈ run, ∃ frame, sourceFrame record = .ok frame := by
    rw [mapM_returns_iff]
    refine forall₂_congr fun run hrun => runWindows_returns_iff (fun record hmem => hcontext record (hsub run hrun record hmem))
      fun record hmem other hother => hphase record (hsub run hrun record hmem) other (hsub run hrun other hother)
  constructor
  · rintro ⟨session, hsession⟩
    obtain ⟨first, hloads⟩ := loadSession_ok_iff.mp hsession
    obtain ⟨windows, hwindows, -⟩ := hloads.windows
    rw [h.ordered hdistinct] at hwindows
    refine ⟨fun observation hobservation => ?_, fun run hrun hsupervised hlong record hmem => ?_⟩
    · have hframes := hloads.rawRuleFrames
      rw [h.ordered hdistinct, h.records] at hframes
      rw [← h.frames] at hobservation
      obtain ⟨entry, hentries, rfl⟩ := List.mem_map.mp hobservation
      obtain ⟨frame, -, hframe⟩ := (mapM_ok_mem hframes).2 _ (List.mem_map_of_mem hentries)
      exact ((rawRuleFrame_archiveRecord (haccepted _ (h.frames ▸ List.mem_map_of_mem hentries))).mp hframe).1
    · obtain ⟨frame, hframe⟩ := hruns.mp ⟨windows, hwindows⟩ run hrun hsupervised hlong record hmem
      obtain ⟨entry, hobservation, rfl⟩ := hentry record (hsub run hrun record hmem)
      have hone := ((sourceFrame_archiveRecord (haccepted _ hobservation)).mp hframe).2.1
      exact congrArg (fun count : Nat => some (count : Int)) hone
  · rintro ⟨hfits, hsingle⟩
    obtain ⟨windows, hwindows⟩ := hruns.mpr fun run hrun hsupervised hlong record hmem => by
      obtain ⟨entry, hobservation, heq⟩ := hentry record (hsub run hrun record hmem)
      have hone := hsingle run hrun hsupervised hlong record hmem
      subst heq
      have hcount : entry.2.poseCount = 1 := by
        have hcast : (entry.2.poseCount : Int) = 1 := Option.some.inj hone
        omega
      exact ⟨_, (sourceFrame_archiveRecord (haccepted _ hobservation)).mpr ⟨hfits _ hobservation, hcount, rfl⟩⟩
    obtain ⟨first, rest, hrecords⟩ := List.exists_cons_of_ne_nil (l := archive.records) fun hnil => by
      have hmap := h.map_eq (f := Record.capturedNs) (g := Observation.capturedNs) fun _ => rfl
      rw [hnil] at hmap
      exact h.nonempty (List.map_eq_nil_iff.mp hmap.symm)
    have hfirst : first ∈ archive.records := hrecords ▸ List.mem_cons_self
    have hreturns : ∀ record ∈ archive.records, ∃ frame, rawRuleFrame env first record = .ok frame := by
      intro record hmem
      obtain ⟨entry, hobservation, rfl⟩ := hentry record hmem
      exact ⟨_, (rawRuleFrame_archiveRecord (haccepted _ hobservation)).mpr ⟨hfits _ hobservation, rfl⟩⟩
    obtain ⟨frames, hframes⟩ := mapM_returns_iff.mpr hreturns
    have hoffsets := h.map_eq (f := Record.offsetMs) (g := ResearchRuntime.offsetMs observations) fun _ => rfl
    apply Exists.intro
    unfold loadSession
    simp only [bind_ok_iff, require_eq_ok, orError_eq_ok, h.ordered hdistinct, List.isChain_iff_pairwise]
    refine ⟨first, by rw [hrecords]; rfl, (), ⟨fun record hmem => ?_, ?_⟩, (), fun record hmem => ?_, (), ?_, frames,
      hframes, windows, hwindows, rfl⟩
    · obtain ⟨entry, -, rfl⟩ := hentry record hmem
      obtain ⟨firstEntry, -, rfl⟩ := hentry first hfirst
      exact ⟨rfl, rfl, rfl⟩
    · obtain ⟨firstEntry, -, rfl⟩ := hentry first hfirst
      exact h.cohort.imp (congrArg some) (congrArg some)
    · obtain ⟨entry, hobservation, rfl⟩ := hentry record hmem
      exact ⟨_, rfl, offsetMs_nonneg hdistinct hobservation⟩
    · rw [hoffsets]
      exact hdistinct

/-! ## Windows without the frames that spoil them -/

def solo (candidate : List Record) : List Record := candidate.takeWhile fun record => record.pose.poseCount = some 1

def slideSolo (env : LoaderEnv) : List (List Record) → List Window
  | [] => []
  | candidate :: rest =>
    if (solo candidate).length < windowFrames then slideSolo env rest
    else
      match windowOf env (solo candidate) with
      | .ok (some window) => window :: slideSolo env rest
      | _ => if solo candidate = candidate then [] else slideSolo env rest

def soloWindows (env : LoaderEnv) (archive : Archive) : List Window :=
  ((labelRuns archive.records).filter fun run => isSupervised run).flatMap fun run => slideSolo env (candidates run)

theorem slide_solo {rest : List (List Record)} {windows : List Window}
    (hsolo : ∀ candidate ∈ rest, solo candidate = candidate ∧ windowFrames ≤ candidate.length)
    (h : slide env rest = .ok windows) : windows = slideSolo env rest := by
  induction rest generalizing windows with
  | nil =>
    cases h
    rfl
  | cons candidate rest ih =>
    obtain ⟨hsame, hlength⟩ := hsolo candidate List.mem_cons_self
    rw [slide, bind_ok_iff] at h
    obtain ⟨cut, hcut, h⟩ := h
    rw [slideSolo, hsame, if_neg (by omega), hcut]
    cases cut with
    | none =>
      cases h
      simp
    | some window =>
      rw [bind_ok_iff] at h
      obtain ⟨others, hothers, h⟩ := h
      cases h
      rw [ih (fun other hmem => hsolo other (List.mem_cons_of_mem _ hmem)) hothers]

theorem solo_eq (h : ∀ record ∈ candidate, record.pose.poseCount = some 1) : solo candidate = candidate :=
  List.takeWhile_eq_self_iff.mpr fun record hmem => decide_eq_true (h record hmem)

theorem runWindows_solo {windows : List Window}
    (hsingle : isSupervised run → windowFrames ≤ run.length → ∀ record ∈ run, record.pose.poseCount = some 1)
    (h : runWindows env run = .ok windows) :
    windows = if isSupervised run then slideSolo env (candidates run) else [] := by
  unfold runWindows at h
  by_cases hsupervised : isSupervised run
  · rw [if_pos hsupervised] at h ⊢
    refine slide_solo (fun candidate hcandidate => ?_) h
    have hlength := candidates_length hcandidate
    have hsuffix := candidates_suffix hcandidate
    exact ⟨solo_eq fun record hmem => hsingle hsupervised (hlength.trans hsuffix.length_le) record (hsuffix.subset hmem),
      hlength⟩
  · rw [if_neg hsupervised] at h ⊢
    exact (Except.ok.inj h).symm

theorem runs_solo {runs : List (List Record)} {windows : List (List Window)}
    (hsingle : ∀ run ∈ runs, isSupervised run → windowFrames ≤ run.length →
      ∀ record ∈ run, record.pose.poseCount = some 1)
    (h : runs.mapM (runWindows env) = .ok windows) :
    windows.flatten = (runs.filter fun run => isSupervised run).flatMap fun run => slideSolo env (candidates run) := by
  induction runs generalizing windows with
  | nil =>
    rw [List.mapM_nil] at h
    cases h
    rfl
  | cons run rest ih =>
    rw [List.mapM_cons, bind_ok_iff] at h
    obtain ⟨first, hfirst, h⟩ := h
    rw [bind_ok_iff] at h
    obtain ⟨others, hothers, h⟩ := h
    cases h
    rw [List.flatten_cons, ih (fun run' hmem => hsingle run' (List.mem_cons_of_mem _ hmem)) hothers,
      runWindows_solo (hsingle run List.mem_cons_self) hfirst]
    by_cases hsupervised : isSupervised run
    · rw [if_pos hsupervised, List.filter_cons_of_pos (by simpa using hsupervised), List.flatMap_cons]
    · rw [if_neg hsupervised, List.filter_cons_of_neg (by simpa using hsupervised), List.nil_append]

/-! ## What is loaded -/

theorem counter_lookup (labels : List Label) (label : Label) :
    ((counter labels).lookup label).getD 0 = labels.count label := by
  have hlookup (keys : List Label) : (keys.map fun key => (key, labels.count key)).lookup label =
      if label ∈ keys then some (labels.count label) else none := by
    induction keys with
    | nil => rfl
    | cons key rest ih =>
      rw [List.map_cons, List.lookup_cons, ih]
      by_cases hkey : label = key
      · subst hkey
        simp
      · have hbeq : (label == key) = false := beq_false_of_ne hkey
        rw [hbeq]
        simp [hkey]
  unfold counter
  rw [hlookup]
  by_cases hmem : label ∈ labels
  · rw [if_pos (List.mem_eraseDups.mpr hmem), Option.getD_some]
  · rw [if_neg (fun h => hmem (List.mem_eraseDups.mp h)), Option.getD_none, List.count_eq_zero_of_not_mem hmem]

structure TrainsOn (env : LoaderEnv) (observations : List Observation) (records : List ExportRecord) (archive : Archive)
    (loaded : LoadedRuntimeExport) : Prop where
  frames : ∀ emit, (loaded.rawRuleFrames.map fun frame =>
      (frame.timestampMs, frame.poseCount, frame.downScore, frame.sideScore)) =
    observations.map fun observation => (ResearchRuntime.offsetMs observations observation, observation.poseCount,
      runtimeScores emit env.orientation observation)
  labels : ∀ label, (loaded.auditLabelCounts.lookup label).getD 0 = (records.map ExportRecord.label).count label
  windows : loaded.windows = soloWindows env archive

theorem trains_of_loadable (h : Builds row phase observations entries archive)
    (hlabels : archive.records.map Record.label = records.map ExportRecord.label)
    (hclean : row.contaminatedFromSeq = none) (haccepted : ∀ observation ∈ observations, Accepted observation)
    (hdistinct : (observations.map (ResearchRuntime.offsetMs observations)).Pairwise (· < ·))
    (hvalidated : validateResearchExport env.sha256 env.packing archive = .ok (archive.manifest, archive.records))
    (hfits : ∀ observation ∈ observations, Fits observation)
    (hsingle : ∀ run ∈ labelRuns archive.records, isSupervised run → windowFrames ≤ run.length →
      ∀ record ∈ run, record.pose.poseCount = some 1) :
    ∃ loaded, loadRuntimeExport env archive = .ok loaded ∧ TrainsOn env observations records archive loaded := by
  obtain ⟨session, hloaded⟩ := (loadSession_returns_iff h hclean haccepted hdistinct).mpr ⟨hfits, hsingle⟩
  obtain ⟨first, hloads⟩ := loadSession_ok_iff.mp hloaded
  have hsessions : (groupedSessions archive.records).mapM (loadSession env) = .ok [session] := by
    rw [h.grouped, List.mapM_cons, hloaded]
    rfl
  refine ⟨_, loadRuntimeExport_ok_iff.mpr ⟨hvalidated, ?_, h.unique, [session], hsessions,
    rfl⟩, ?_, fun label => (counter_lookup _ label).trans (by rw [hlabels]), ?_⟩
  · intro record hmem
    have hrecord := h.valid record hmem
    refine recheck_valid hrecord ?_
    obtain ⟨entry, -, -, rfl⟩ := h.mem hmem
    exact ⟨rfl, rfl, rfl⟩
  · intro emit
    have hframes := hloads.rawRuleFrames
    rw [h.ordered hdistinct] at hframes
    have hloadedFrames : LoadedRuntimeExport.rawRuleFrames
        ⟨archive.manifest.manifestSha256, counter (archive.records.map Record.label), [session]⟩ =
          session.rawRuleFrames := by
      simp [LoadedRuntimeExport.rawRuleFrames]
    rw [h.records, List.mapM_map] at hframes
    rw [hloadedFrames, mapM_ok_map hframes (q := (fun observation =>
      (ResearchRuntime.offsetMs observations observation, observation.poseCount,
        runtimeScores emit env.orientation observation)) ∘ Prod.snd), ← List.map_map, h.frames]
    intro entry hentry frame hframe
    have haccepts : Accepted entry.2 := haccepted _ (h.frames ▸ List.mem_map_of_mem hentry)
    obtain ⟨-, rfl⟩ := (rawRuleFrame_archiveRecord haccepts).mp hframe
    exact Prod.ext rfl (Prod.ext rfl (poseScores_eq haccepts emit _))
  · obtain ⟨windows, hwindows, hflatten⟩ := hloads.windows
    rw [h.ordered hdistinct] at hwindows
    have hloadedWindows : LoadedRuntimeExport.windows
        ⟨archive.manifest.manifestSha256, counter (archive.records.map Record.label), [session]⟩ = session.windows := by
      simp [LoadedRuntimeExport.windows]
    rw [hloadedWindows, hflatten]
    exact runs_solo hsingle hwindows

namespace Sample

def pose : List Landmark := (List.range 33).map fun i => if i = 11 ∨ i = 12 then ⟨0, 1 / 2, 0, 1⟩ else ⟨0, 0, 0, 1⟩

/-- Frame `i` of a recording that becomes sharper; `seen` says whether the person is in it. -/
def frame (stepNs : Nat) (seen : Nat → Bool) (i : Nat) : Observation where
  frameSeq := i + 1
  capturedNs := i * stepNs
  poseCount := if seen i then 1 else 0
  landmarks := if seen i then [pose] else []
  quality := ⟨.sufficient, 50 + i, 128, 1, 0⟩
  focus := .examFocused
  focusAgeMs := 0

def frames (stepNs : Nat) (seen : Nat → Bool) (n : Nat) : List Observation := (List.range n).map (frame stepNs seen)

def review : Review where
  reviewId := 0
  eventId := 0
  label := .normal
  reviewStatus := .confirmed
  startMs := 0
  endMs := 60000
  reason := "seen"
  revision := 1
  operatorPseudonym := none

def session : Session where
  sessionId := "S"
  sourceKind := .real
  participantPseudonym := "P"
  state := .sealed
  authorityReference := some "A"
  locked := true
  reviews := [review]
  artifacts := [⟨poseDestination, "1123456789abcdef0123456789abcdef0123456789abcdef0123456789abcdef", 512⟩]

def folder (observations : List Observation) : Option Directory := some [(poseDestination, .timeline observations false)]

def loader : LoaderEnv where
  arith := binary64 fun x y z => |x| + |y| + |z|
  orientation _ := some (0, 0)
  windowId session capturedNs _ := session ++ toString capturedNs
  sha256 _ := ResearchRuntime.Sample.digest
  packing := ⟨fun _ => 4096, fun _ => [(128, 96), (65536, 4000)]⟩

def drawn (n : Nat) : List String := (List.range n).map fun i => String.ofList (List.replicate (i + 1) 's')

def exported (observations : List Observation) : List ExportRecord :=
  observations.map (frameRecord session (boundaries session) "PILOT" observations)

variable {stepNs n : Nat} {seen : Nat → Bool}

theorem timeline_ok (hnonempty : observations ≠ []) (hsmall : observations.length ≤ 1000) :
    timelineObservations ResearchRuntime.Sample.setup session (folder observations) = .ok observations := by
  have hlookup : ([(poseDestination, Content.timeline observations false)] : Directory).lookup poseDestination =
      some (.timeline observations false) := by simp
  unfold timelineObservations folder
  simp only [Option.getD_some, hlookup]
  rw [if_neg, if_neg, if_neg]
  · simp [hnonempty]
  · simp [session, ResearchRuntime.Sample.setup]
  · simp [ResearchRuntime.Sample.setup, maxPoseTimelineBytes]
    omega

theorem export_ok (hnonempty : observations ≠ []) (hsmall : observations.length ≤ 1000) :
    exportRecords ResearchRuntime.Sample.setup ResearchRuntime.Sample.pilot (fun _ => false) session
      (folder observations) = .ok (exported observations) := by
  have hphase : exportPhase ResearchRuntime.Sample.setup ResearchRuntime.Sample.pilot session = .ok "PILOT" := by
    decide +kernel
  unfold exportRecords
  rw [timeline_ok hnonempty hsmall, hphase]
  simp [ok_bind, hnonempty, pure, Except.pure, exported]

theorem drawn_nodup (n : Nat) : (drawn n).Nodup := by
  refine List.Nodup.map (fun i j heq => ?_) List.nodup_range
  have hlength := congrArg String.length heq
  simpa using hlength

theorem build_ok (hnonempty : observations ≠ []) :
    ∃ archive, buildResearchExport loader.sha256 (documents (drawn observations.length) (exported observations)) "E" =
      .ok archive := by
  have hlength : (drawn observations.length).length = (exported observations).length := by
    simp [drawn, exported]
  apply Exists.intro
  refine buildResearchExport_ok_iff.mpr ⟨by decide, ?_, ?_, ?_, _, rfl, rfl⟩
  · obtain ⟨first, rest, rfl⟩ := List.exists_cons_of_ne_nil hnonempty
    simp [documents, drawn, exported, List.range_succ_eq_map]
  · intro record hmem
    rw [documents_eq] at hmem
    obtain ⟨⟨id, item⟩, hentry, rfl⟩ := List.mem_map.mp hmem
    obtain ⟨hid, hitem⟩ := List.of_mem_zip hentry
    obtain ⟨i, -, rfl⟩ := List.mem_map.mp hid
    obtain ⟨observation, -, rfl⟩ := List.mem_map.mp hitem
    unfold Record.validate
    simp only [bind_ok_iff, require_eq_ok]
    refine ⟨(), rfl, (), ⟨?_, ?_, ?_⟩, (), fun haugmented => ?_, fun _ => .inl rfl⟩
    · intro hempty
      have hlengths := congrArg String.length hempty
      simp [recordOf] at hlengths
    · simp [recordOf, frameRecord, session]
    · simp [recordOf, frameRecord, session]
    · simp [recordOf, frameRecord, session] at haugmented
  · rw [documents_eq, List.map_map]
    have hids : (Record.sampleId ∘ fun entry : String × ExportRecord => recordOf entry.1 entry.2) = Prod.fst := rfl
    rw [hids, List.map_fst_zip hlength.le]
    exact drawn_nodup _

theorem frames_accepted (hstep : 1000000 ≤ stepNs) (n : Nat) (seen : Nat → Bool) :
    (∀ observation ∈ frames stepNs seen n, Accepted observation ∧ Fits observation) ∧
      ((frames stepNs seen n).map (ResearchRuntime.offsetMs (frames stepNs seen n))).Pairwise (· < ·) := by
  have hpose : pose.length = landmarkCount ∧ visible pose ∧ ∀ point ∈ pose, landmarkValid point := by decide +kernel
  constructor
  · intro observation hmem
    obtain ⟨i, -, rfl⟩ := List.mem_map.mp hmem
    unfold frame
    cases seen i with
    | false => exact ⟨⟨rfl, by simp, by simp, by simp, le_refl (0 : Rat)⟩, by simp [Fits]⟩
    | true =>
      refine ⟨⟨rfl, by simp, ?_, ?_, le_refl (0 : Rat)⟩, ?_⟩
      · simpa using hpose.1
      · simpa using hpose.2.1
      · intro listed hlisted point hpoint
        have hsame : listed = pose := by simpa using hlisted
        exact (hpose.2.2 point (hsame ▸ hpoint)).1
  · have horigin : ((frames stepNs seen n).head?.map Observation.capturedNs).getD 0 = 0 := by
      cases n with
      | zero => rfl
      | succ n => simp [frames, List.range_succ_eq_map, frame]
    unfold frames at horigin ⊢
    rw [List.map_map, List.pairwise_map]
    refine List.pairwise_lt_range.imp fun {i j} hlt => ?_
    unfold ResearchRuntime.offsetMs
    simp only [Function.comp_apply, horigin, frame, sub_zero]
    have hstride : (i : Int) * stepNs + 1000000 ≤ j * stepNs := by
      have hnext : ((i + 1 : Nat) : Int) * stepNs ≤ j * stepNs := by
        exact_mod_cast Nat.mul_le_mul_right stepNs hlt
      push_cast at hnext
      rw [add_mul, one_mul] at hnext
      omega
    omega

theorem labels_normal {archive : Archive} {phase : String} {entries : List (String × Observation)}
    (hreviews : row.reviews = session.reviews) (hn : 0 < n) (hminute : n * stepNs ≤ 60000000000)
    (h : Builds row phase (frames stepNs seen n) entries archive) :
    (∀ record ∈ archive.records, record.label = .normal) ∧ labelRuns archive.records = [archive.records] := by
  have hboundaries : boundaries row = [review] := by
    unfold boundaries listReviews
    rw [hreviews]
    decide +kernel
  have horigin : ((frames stepNs seen n).head?.map Observation.capturedNs).getD 0 = 0 := by
    obtain ⟨m, rfl⟩ : ∃ m, n = m + 1 := ⟨n - 1, by omega⟩
    simp [frames, List.range_succ_eq_map, frame]
  have hnormal : ∀ record ∈ archive.records, record.label = .normal := by
    intro record hmem
    obtain ⟨entry, -, hobservation, rfl⟩ := h.mem hmem
    obtain ⟨i, hi, hframe⟩ := List.mem_map.mp hobservation
    have hlt : i < n := List.mem_range.mp hi
    have hcaptured : entry.2.capturedNs = i * stepNs := by rw [← hframe]; rfl
    have hlow : (0 : Int) ≤ i * stepNs := by exact_mod_cast Nat.zero_le (i * stepNs)
    have hhigh : (i : Int) * stepNs < 60000000000 := by
      rcases Nat.eq_zero_or_pos stepNs with hzero | hpos
      · simp [hzero]
      · have hmul : i * stepNs < n * stepNs := Nat.mul_lt_mul_of_pos_right hlt hpos
        exact_mod_cast hmul.trans_le hminute
    have hcovers : review.covers (ResearchRuntime.offsetMs (frames stepNs seen n) entry.2) = true := by
      unfold Review.covers ResearchRuntime.offsetMs
      rw [horigin, hcaptured]
      simp only [review, sub_zero, decide_eq_true_eq]
      omega
    change exportLabel (boundaries row) (
      ResearchRuntime.offsetMs (frames stepNs seen n) entry.2) = .normal
    rw [hboundaries, exportLabel, List.find?_cons_of_pos hcovers]
    rfl
  refine ⟨hnormal, ?_⟩
  refine List.splitBy_of_isChain (fun hnil => ?_) ?_
  · have hmap := h.map_eq (f := Record.capturedNs) (g := Observation.capturedNs) fun _ => rfl
    rw [hnil] at hmap
    exact h.nonempty (List.map_eq_nil_iff.mp hmap.symm)
  · refine List.Pairwise.isChain (List.pairwise_of_forall_mem_list fun a ha b hb => ?_)
    rw [hnormal a ha, hnormal b hb]
    rfl

theorem exists_archive (hn : 0 < n) (hsmall : n ≤ 1000) : ∃ archive phase entries,
    timelineObservations ResearchRuntime.Sample.setup session (folder (frames stepNs seen n)) =
      .ok (frames stepNs seen n) ∧
    exportRecords ResearchRuntime.Sample.setup ResearchRuntime.Sample.pilot (fun _ => false) session
      (folder (frames stepNs seen n)) = .ok (exported (frames stepNs seen n)) ∧
    buildResearchExport loader.sha256 (documents (drawn n) (exported (frames stepNs seen n))) "E" = .ok archive ∧
    Builds session phase (frames stepNs seen n) entries archive ∧
    archive.records.map Record.label = (exported (frames stepNs seen n)).map ExportRecord.label := by
  have hlength : (frames stepNs seen n).length = n := by simp [frames]
  have hnonempty : frames stepNs seen n ≠ [] := List.ne_nil_of_length_pos (by omega)
  have htimeline := timeline_ok hnonempty (hlength.trans_le hsmall)
  have hexport := export_ok hnonempty (hlength.trans_le hsmall)
  obtain ⟨archive, hbuild⟩ := build_ok hnonempty
  rw [hlength] at hbuild
  obtain ⟨phase, entries, h, hlabels⟩ :=
    exists_builds rfl htimeline hexport (by simp [drawn, exported, hlength]) hbuild
  exact ⟨archive, phase, entries, htimeline, hexport, hbuild, h, hlabels⟩

def present : Nat → Bool := fun _ => true

theorem loadable {archive : Archive} {phase : String} {entries : List (String × Observation)}
    (hstep : 1000000 ≤ stepNs) (h : Builds row phase (frames stepNs present n) entries archive) :
    Loadable loader (frames stepNs present n) archive := by
  refine ⟨by simp [Packing.Bounded, loader], fun observation hmem =>
    ((frames_accepted hstep n present).1 observation hmem).2, ?_⟩
  intro run hrun _ _ record hmem
  have hrecord : record ∈ archive.records := by
    rw [← List.flatten_splitBy (fun a b : Record => decide (a.label = b.label)) archive.records]
    exact List.mem_flatten_of_mem hrun hmem
  obtain ⟨entry, -, hobservation, rfl⟩ := h.mem hrecord
  obtain ⟨i, -, hframe⟩ := List.mem_map.mp hobservation
  change some (entry.2.poseCount : Int) = some 1
  rw [← hframe]
  rfl

theorem capturedNs_frames (stepNs : Nat) (seen : Nat → Bool) (n : Nat) :
    (frames stepNs seen n).map Observation.capturedNs = (List.range n).map fun i : Nat => (i : Int) * stepNs := by
  rw [frames, List.map_map]
  rfl

theorem frameSource_valid (hstep : 1000000 ≤ stepNs) (hlong : 2 ≤ n) :
    ValidSource ((frames stepNs present n).map frameSource) ∧
      times ((frames stepNs present n).map frameSource) = (List.range n).map (fun i : Nat => (i : Int) * stepNs) ∧
      ∀ frame ∈ (frames stepNs present n).map frameSource, frame.landmarks = pose ∧
        frame.present = List.replicate pose.length true := by
  have hpose : pose.length = landmarkCount ∧ visible pose ∧
      (pose.map fun point => decide (0 < point.visibility)) = List.replicate pose.length true := by decide +kernel
  have htimes : times ((frames stepNs present n).map frameSource) = (List.range n).map fun i : Nat => (i : Int) * stepNs := by
    rw [times, List.map_map, ← capturedNs_frames stepNs present n]
    rfl
  have hstill : ∀ frame ∈ (frames stepNs present n).map frameSource, frame.landmarks = pose ∧
      frame.present = List.replicate pose.length true := by
    intro row hmem
    obtain ⟨observation, hobservation, rfl⟩ := List.mem_map.mp hmem
    obtain ⟨i, -, rfl⟩ := List.mem_map.mp hobservation
    exact ⟨rfl, hpose.2.2⟩
  refine ⟨⟨?_, fun row hmem => ?_, fun row hmem => ?_, ?_, fun row hmem => ?_⟩, htimes, hstill⟩
  · simp only [frames, List.length_map, List.length_range]
    omega
  · rw [(hstill row hmem).1]
    exact hpose.1
  · rw [(hstill row hmem).1, (hstill row hmem).2, List.length_replicate]
  · rw [htimes, List.pairwise_map]
    refine List.pairwise_lt_range.imp fun {i j} hlt => ?_
    exact_mod_cast Nat.mul_lt_mul_of_pos_right hlt (by omega : 0 < stepNs)
  · rw [(hstill row hmem).1]
    exact hpose.2.1

theorem exists_tensor (hstep : 1000000 ≤ stepNs) (hlong : 2 ≤ n)
    (hcovers : 89000000000 ≤ 15 * ((n - 1) * stepNs)) :
    ∃ tensor, resamplePoseWindow loader.arith ((frames stepNs present n).map frameSource) = .ok tensor := by
  obtain ⟨hvalid, htimes, hstill⟩ := frameSource_valid hstep hlong
  have hcoversWindow : coversWindow loader.arith.float ((frames stepNs present n).map frameSource) := by
    have hends : (times ((frames stepNs present n).map frameSource)).headD 0 = 0 ∧
        (times ((frames stepNs present n).map frameSource)).getLastD 0 = ((n - 1 : Nat) : Int) * stepNs := by
      obtain ⟨m, rfl⟩ : ∃ m, n = m + 1 := ⟨n - 1, by omega⟩
      rw [htimes]
      refine ⟨by simp [List.range_succ_eq_map], ?_⟩
      rw [List.range_succ, List.map_append, List.getLastD_eq_getLast?, List.map_singleton, List.getLast?_concat]
      rfl
    unfold coversWindow originNs
    rw [hends.1, hends.2]
    have hreach : 5933333334 ≤ ((n - 1 : Nat) : Int) * stepNs := by
      have hcast : (89000000000 : Int) ≤ 15 * (((n - 1 : Nat) : Int) * stepNs) := by exact_mod_cast hcovers
      omega
    have hlast := (@lastTarget_near 0 (by decide)).2
    rw [Int.cast_zero, zero_add] at hlast
    have hfloat : toFloat (5933333334 : Int) = (5933333334 : Int) := toFloat_intCast (by decide)
    refine hlast.trans (le_of_eq_of_le ?_ (toFloat_mono (Int.cast_le.mpr hreach)))
    rw [hfloat]
    rfl
  exact resample_still hvalid hcoversWindow hstill rfl (by decide +kernel) (by decide +kernel)
    (by decide +kernel)

theorem records_length {archive : Archive} {phase : String} {entries : List (String × Observation)}
    (h : Builds row phase (frames stepNs seen n) entries archive) : archive.records.length = n := by
  have hmap := congrArg List.length (h.map_eq (f := Record.capturedNs) (g := Observation.capturedNs) fun _ => rfl)
  simpa [frames] using hmap

theorem supervised {archive : Archive} (hnonempty : archive.records ≠ [])
    (hnormal : ∀ record ∈ archive.records, record.label = .normal) : isSupervised archive.records := by
  obtain ⟨first, rest, hrecords⟩ := List.exists_cons_of_ne_nil hnonempty
  exact ⟨first, by rw [hrecords]; rfl, by rw [hnormal first (hrecords ▸ List.mem_cons_self)]; decide⟩

theorem records_source {archive : Archive} {phase : String} {entries : List (String × Observation)}
    (h : Builds row phase (frames stepNs present n) entries archive) (hstep : 1000000 ≤ stepNs) :
    archive.records.mapM sourceFrame = .ok ((frames stepNs present n).map frameSource) := by
  have hframes := (frames_accepted hstep n present).1
  rw [h.records, mapM_sourceFrame_iff fun entry hmem => (hframes _ (h.frames ▸ List.mem_map_of_mem hmem)).1]
  refine ⟨fun entry hmem => ⟨(hframes _ (h.frames ▸ List.mem_map_of_mem hmem)).2, ?_⟩, ?_⟩
  · have hobservation : entry.2 ∈ frames stepNs present n := h.frames ▸ List.mem_map_of_mem hmem
    obtain ⟨i, -, hframe⟩ := List.mem_map.mp hobservation
    rw [← hframe]
    rfl
  · rw [← h.frames, List.map_map]
    rfl

theorem cut_at_start {archive : Archive} {phase : String} {entries : List (String × Observation)}
    (h : Builds row phase (frames stepNs present n) entries archive) (hclean : row.contaminatedFromSeq = none)
    (hstep : 1000000 ≤ stepNs) (hlong : windowFrames ≤ n) (hcovers : 89000000000 ≤ 15 * ((n - 1) * stepNs)) :
    ∃ window, windowOf loader archive.records = .ok (some window) := by
  have hframes := (frames_accepted hstep n present).1
  have hlength := records_length h
  have hsource := records_source h hstep
  obtain ⟨tensor, htensor⟩ := exists_tensor hstep (le_trans (by decide) hlong) hcovers
  have hne := windowOf_ne_none hsource htensor
  obtain ⟨cut, hcut⟩ : ∃ cut, windowOf loader archive.records = .ok cut := by
    refine windowOf_returns (List.ne_nil_of_length_pos ?_) ?_ ?_ ?_
    · unfold windowFrames at hlong
      omega
    · exact mapM_returns_iff.mp ⟨_, hsource⟩
    · intro record hmem
      obtain ⟨entry, -, hobservation, rfl⟩ := h.mem hmem
      exact ⟨_, contextRow_archiveRecord (hframes _ hobservation).1 hclean⟩
    · intro record hmem other hother
      obtain ⟨entry, -, -, rfl⟩ := h.mem hmem
      obtain ⟨otherEntry, -, -, rfl⟩ := h.mem hother
      rfl
  cases cut with
  | none => exact absurd hcut hne
  | some window => exact ⟨window, hcut⟩

theorem exists_window (hstep : 1000000 ≤ stepNs) (hlong : windowFrames ≤ n) (hsmall : n ≤ 1000)
    (hminute : n * stepNs ≤ 60000000000) (hcovers : 89000000000 ≤ 15 * ((n - 1) * stepNs)) :
    ∃ archive phase entries loaded, Builds session phase (frames stepNs present n) entries archive ∧
      timelineObservations ResearchRuntime.Sample.setup session (folder (frames stepNs present n)) =
        .ok (frames stepNs present n) ∧
      exportRecords ResearchRuntime.Sample.setup ResearchRuntime.Sample.pilot (fun _ => false) session
        (folder (frames stepNs present n)) = .ok (exported (frames stepNs present n)) ∧
      buildResearchExport loader.sha256 (documents (drawn n) (exported (frames stepNs present n))) "E" = .ok archive ∧
      loadRuntimeExport loader archive = .ok loaded ∧ ∃ window, Cuts loader archive loaded archive.records window := by
  have hpositive : 0 < n := by
    unfold windowFrames at hlong
    omega
  obtain ⟨archive, phase, entries, htimeline, hexport, hbuild, h, hlabels⟩ :=
    @exists_archive stepNs n present hpositive hsmall
  obtain ⟨hframes, hdistinct⟩ := frames_accepted hstep n present
  have haccepted := fun observation hmem => (hframes observation hmem).1
  obtain ⟨hbounded, hfits, hsingle⟩ := loadable hstep h
  obtain ⟨loaded, hload, htrains⟩ := trains_of_loadable h hlabels rfl haccepted hdistinct
    ((validate_built hbuild).mpr hbounded) hfits hsingle
  refine ⟨archive, phase, entries, loaded, h, htimeline, hexport, hbuild, hload, ?_⟩
  have hlength := records_length h
  have hlongRun : windowFrames ≤ archive.records.length := by rwa [hlength]
  -- the one run of the archive and its first window
  obtain ⟨hnormal, hruns⟩ := labels_normal rfl hpositive hminute h
  have hsupervised : isSupervised archive.records := supervised (List.ne_nil_of_length_pos (by omega)) hnormal
  obtain ⟨others, hothers⟩ := candidates_eq_cons hlongRun
  have hall := hsingle archive.records (by rw [hruns]; exact List.mem_singleton_self _) hsupervised hlongRun
  obtain ⟨window, hcut⟩ := cut_at_start h rfl hstep hlong hcovers
  refine ⟨window, ⟨archive.records, by rw [h.grouped]; exact List.mem_singleton_self _, archive.records, ?_,
    hsupervised, by rw [hothers]; exact List.mem_cons_self⟩, hcut, ?_⟩
  · rw [h.ordered hdistinct, hruns]
    exact List.mem_singleton_self _
  · rw [htrains.windows, soloWindows, hruns, List.filter_cons_of_pos (by simpa using hsupervised), List.flatMap_cons,
      hothers, slideSolo, solo_eq hall, if_neg (by omega), hcut]
    exact List.mem_append_left _ List.mem_cons_self

end Sample

end PduExamObserver.Training
