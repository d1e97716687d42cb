import PduExamObserver.Training.Evaluation

/-! # Room for the events of a session

A reviewed event ends 67 ms after its last frame and a window six seconds after its first one, but a session only lasts
for a millisecond after its last frame. -/

namespace PduExamObserver.Training
open ResearchRuntime Showcase
set_option autoImplicit false

structure Record.IsTested (confirmatory : List String) (fold : OuterFold) (record : Record) : Prop where
  participant : record.participantPseudonym ∈ confirmatory ∧ record.participantPseudonym ∈ fold.test
  cohort : record.sourceKind = .real ∧ record.timing.phase = some "CONFIRMATORY"

/-- The session of a reviewed event has a frame 66 ms after the last one of the event or later, and the session of a
window that is predicted to show an alert has one 5999 ms after the first one of the window or later. -/
structure LeavesRoom (confirmatory : List String) (archives : List Archive) (corpus : Corpus) (fold : OuterFold)
    (cameraLabels contextLabels : List Int) : Prop where
  reviewed : ∀ archive ∈ archives, ∀ grouped ∈ groupedSessions archive.records, ∀ run ∈ labelRuns (ordered grouped),
    ∀ first ∈ run.head?, ∀ last ∈ run.getLast?, first.IsTested confirmatory fold →
      first.label = .prolongedHeadDown ∨ first.label = .prolongedSideLook →
      ∃ record ∈ grouped, last.offsetMs + 66 ≤ record.offsetMs
  predicted : ∀ entry ∈ (corpus.rowsOf fold.test).zip cameraLabels ++ (corpus.rowsOf fold.test).zip contextLabels,
    entry.2 = 2 ∨ entry.2 = 3 → ∃ archive ∈ archives, ∃ record ∈ archive.records,
      record.sessionPseudonym = entry.1.session ∧ entry.1.startMs + 5999 ≤ record.offsetMs

variable {env : LoaderEnv} {uuid : String → Nat → String} {archives : List Archive} {archive : Archive}
  {confirmatory : List String} {corpus : Corpus} {fold : OuterFold} {sessions : List SessionLoad} {session : SessionLoad}
  {cameraLabels contextLabels : List Int} {grouped run : List Record} {record first last : Record} {policy : RulePolicy}
  {protocol : Native.Dict}

theorem FromArchives.mem_sessions (h : FromArchives env confirmatory archives corpus sessions)
    (hsession : session ∈ sessions) (hdescribes : Describes session record) :
    (session ∈ corpus.sessions ∧ session.participant ∈ fold.test) ↔ record.IsTested confirmatory fold := by
  have hphase : record.timing.phase.getD "None" = "CONFIRMATORY" ↔ record.timing.phase = some "CONFIRMATORY" := by
    cases record.timing.phase with
    | none => simp
    | some phase => simp
  rw [h.kept, List.mem_filter, decide_eq_true_eq]
  unfold SessionLoad.isConfirmatory
  rw [hdescribes.participant, hdescribes.sourceKind, hdescribes.phase, hphase]
  constructor
  · rintro ⟨⟨-, hconfirmatory, hreal, hcohort⟩, htested⟩
    exact ⟨⟨hconfirmatory, htested⟩, hreal, hcohort⟩
  · rintro ⟨⟨hconfirmatory, htested⟩, hreal, hcohort⟩
    exact ⟨⟨hsession, hconfirmatory, hreal, hcohort⟩, htested⟩

theorem FromArchives.reviewed_iff (h : FromArchives env confirmatory archives corpus sessions) :
    (∀ session ∈ corpus.sessions, session.participant ∈ fold.test → ∀ event ∈ session.reviewedEvents,
      event.endMs ≤ session.durationMs) ↔
    ∀ archive ∈ archives, ∀ grouped ∈ groupedSessions archive.records, ∀ run ∈ labelRuns (ordered grouped),
      ∀ first ∈ run.head?, ∀ last ∈ run.getLast?, first.IsTested confirmatory fold →
        first.label = .prolongedHeadDown ∨ first.label = .prolongedSideLook →
        ∃ record ∈ grouped, last.offsetMs + 66 ≤ record.offsetMs := by
  -- the event of a run ends in the session exactly if a later frame leaves room for it
  have hroom {grouped run : List Record} {session : SessionLoad} {last origin : Record}
      (hloads : Loads env grouped session origin) (hrun : run ∈ labelRuns (ordered grouped))
      (hlast : run.getLast? = some last) : last.offsetMs + 67 ≤ session.durationMs ↔
        ∃ record ∈ grouped, last.offsetMs + 66 ≤ record.offsetMs := by
    have hsign := hloads.offset_nonneg (mem_of_run hrun (List.mem_of_getLast? hlast))
    rw [hloads.within_iff (by omega)]
    exact exists_congr fun record => and_congr_right fun _ => by omega
  constructor
  · intro hends archive harchive grouped hgrouped run hrun first hfirst last hlast htested halert
    obtain ⟨session, hsession, origin, hloads⟩ := h.loaded archive harchive grouped hgrouped
    have hmem := mem_of_run hrun (List.mem_of_head? hfirst)
    have hdescribes := hloads.describes hgrouped (mem_ordered.mp hmem)
    obtain ⟨hin, hparticipant⟩ := (h.mem_sessions hsession hdescribes).mpr htested
    have hevent : reviewedEvent run = some ⟨first.sessionPseudonym, first.participantPseudonym, first.label,
        first.offsetMs, last.offsetMs + 67⟩ := by
      unfold reviewedEvent
      rw [Option.mem_def.mp hfirst, Option.mem_def.mp hlast]
      exact if_pos halert
    have hlisted : ReviewedEvent.mk first.sessionPseudonym first.participantPseudonym first.label first.offsetMs
        (last.offsetMs + 67) ∈ session.reviewedEvents := by
      rw [hloads.reviewedEvents]
      exact List.mem_filterMap.mpr ⟨run, hrun, hevent⟩
    exact (hroom hloads hrun hlast).mp (hends session hin hparticipant _ hlisted)
  · intro hleaves session hsession hparticipant event hevent
    have hall : session ∈ sessions := (List.mem_filter.mp (h.kept ▸ hsession)).1
    obtain ⟨archive, harchive, -, grouped, hgrouped, origin, hloads⟩ := h.source session hall
    rw [hloads.reviewedEvents] at hevent
    obtain ⟨run, hrun, hmade⟩ := List.mem_filterMap.mp hevent
    unfold reviewedEvent at hmade
    split at hmade
    · next first last hfirst hlast =>
      split at hmade
      · next halert =>
        obtain rfl := Option.some.inj hmade
        have hmem := mem_of_run hrun (List.mem_of_head? hfirst)
        have hdescribes := hloads.describes hgrouped (mem_ordered.mp hmem)
        have htested := (h.mem_sessions hall hdescribes).mp ⟨hsession, hparticipant⟩
        exact (hroom hloads hrun hlast).mpr
          (hleaves archive harchive grouped hgrouped run hrun first hfirst last hlast htested halert)
      · cases hmade
    · cases hmade

theorem FromArchives.window_iff (h : FromArchives env confirmatory archives corpus sessions) {row : Window}
    (hrow : row ∈ corpus.rows) (hsession : session ∈ corpus.sessions) (hname : session.sessionId = row.session) :
    row.endMs ≤ session.durationMs ↔ ∃ archive ∈ archives, ∃ record ∈ archive.records,
      record.sessionPseudonym = row.session ∧ row.startMs + 5999 ≤ record.offsetMs := by
  have hall : session ∈ sessions := (List.mem_filter.mp (h.kept ▸ hsession)).1
  obtain ⟨-, hstart, hend, -⟩ := h.whole.row row hrow
  have hwithin {grouped : List Record} {origin : Record} (hloads : Loads env grouped session origin) :
      row.endMs ≤ session.durationMs ↔ ∃ record ∈ grouped, row.startMs + 5999 ≤ record.offsetMs := by
    rw [hend, hloads.within_iff (by omega)]
    exact exists_congr fun record => and_congr_right fun _ => by omega
  constructor
  · intro hinside
    obtain ⟨archive, harchive, -, grouped, hgrouped, origin, hloads⟩ := h.source session hall
    obtain ⟨record, hrecord, hlate⟩ := (hwithin hloads).mp hinside
    exact ⟨archive, harchive, record, mem_groupedSessions hgrouped hrecord,
      (hloads.describes hgrouped hrecord).sessionId.symm.trans hname, hlate⟩
  · rintro ⟨archive, harchive, record, hrecord, hpseudonym, hlate⟩
    have hgrouped : archive.records.filter (fun other => other.sessionPseudonym = record.sessionPseudonym) ∈
        groupedSessions archive.records :=
      List.mem_map.mpr ⟨_, List.mem_eraseDups.mpr (List.mem_map_of_mem hrecord), rfl⟩
    have hown : record ∈ archive.records.filter fun other => other.sessionPseudonym = record.sessionPseudonym :=
      List.mem_filter.mpr ⟨hrecord, by simp⟩
    obtain ⟨other, hother, origin, hloads⟩ := h.loaded archive harchive _ hgrouped
    have hid : other.sessionId = session.sessionId :=
      (hloads.describes hgrouped hown).sessionId.trans (hpseudonym.trans hname.symm)
    obtain rfl : other = session := List.inj_on_of_nodup_map h.unique hother hall hid
    exact (hwithin hloads).mpr ⟨record, hown, hlate⟩

theorem real_of_passes (h : assertResearchFoldSources corpus fold = .ok ()) :
    ∀ row ∈ corpus.rowsOf fold.test, row.sourceKind = .real := by
  unfold assertResearchFoldSources at h
  simp only [bind_ok_iff] at h
  obtain ⟨⟨⟩, -, ⟨⟩, htest, -⟩ := h
  unfold checkPartition at htest
  split at htest
  · next hnobody =>
    intro row hrow
    have hperson := (List.mem_filter.mp hrow).2
    simp [hnobody] at hperson
  · simp only [bind_ok_iff, require_eq_ok] at htest
    obtain ⟨⟨⟩, -, ⟨⟩, hreal, -⟩ := htest
    exact hreal

theorem evaluates_iff_leavesRoom (hpolicy : RulePolicy.fromProtocolFreeze protocol = .ok policy)
    (hcorpus : loadResearchCorpus env confirmatory archives = .ok corpus)
    (hpasses : assertResearchFoldSources corpus fold = .ok ()) :
    Evaluates uuid corpus fold protocol cameraLabels contextLabels ↔
      LeavesRoom confirmatory archives corpus fold cameraLabels contextLabels := by
  obtain ⟨sessions, h⟩ := exists_fromArchives hcorpus
  have hwhole := h.whole
  have hreal := real_of_passes hpasses
  rw [hwhole.evaluates_iff hreal hpolicy]
  have hpredicted : (∀ row ∈ predictedRows (corpus.rowsOf fold.test) cameraLabels ++
      predictedRows (corpus.rowsOf fold.test) contextLabels, ∀ session ∈ corpus.sessions,
        session.sessionId = row.session → row.endMs ≤ session.durationMs) ↔
      ∀ entry ∈ (corpus.rowsOf fold.test).zip cameraLabels ++ (corpus.rowsOf fold.test).zip contextLabels,
        entry.2 = 2 ∨ entry.2 = 3 → ∃ archive ∈ archives, ∃ record ∈ archive.records,
          record.sessionPseudonym = entry.1.session ∧ entry.1.startMs + 5999 ≤ record.offsetMs := by
    have hone (labels : List Int) : (∀ row ∈ predictedRows (corpus.rowsOf fold.test) labels,
        ∀ session ∈ corpus.sessions, session.sessionId = row.session → row.endMs ≤ session.durationMs) ↔
        ∀ entry ∈ (corpus.rowsOf fold.test).zip labels, entry.2 = 2 ∨ entry.2 = 3 →
          ∃ archive ∈ archives, ∃ record ∈ archive.records,
            record.sessionPseudonym = entry.1.session ∧ entry.1.startMs + 5999 ≤ record.offsetMs := by
      constructor
      · intro hends entry hentry halert
        have hwindow := (List.of_mem_zip hentry).1
        have hrow := (List.mem_filter.mp hwindow).1
        obtain ⟨session, hsession, hname, -⟩ := (hwhole.row entry.1 hrow).2.2.2 (hreal entry.1 hwindow)
        have hlisted : PredictedRow.mk entry.1.session entry.1.participant entry.2 entry.1.startMs entry.1.endMs ∈
            predictedRows (corpus.rowsOf fold.test) labels :=
          List.mem_filterMap.mpr ⟨entry, hentry, if_pos halert⟩
        exact (h.window_iff hrow hsession hname).mp (hends _ hlisted session hsession hname)
      · intro hroom row hmem session hsession hname
        obtain ⟨entry, hentry, halert, rfl⟩ := mem_predictedRows hmem
        have hrow := (List.mem_filter.mp (List.of_mem_zip hentry).1).1
        exact (h.window_iff hrow hsession hname).mpr (hroom entry hentry halert)
    rw [List.forall_mem_append, List.forall_mem_append, hone, hone]
  constructor
  · rintro ⟨hreviewed, hends⟩
    exact ⟨h.reviewed_iff.mp hreviewed, hpredicted.mp hends⟩
  · rintro ⟨hreviewed, hroom⟩
    exact ⟨h.reviewed_iff.mpr hreviewed, hpredicted.mpr hroom⟩

/-- The events that a fold evaluates are valid and lie in their sessions exactly if the sessions go on for long enough
after the reviewed events and the windows. -/
theorem events_within_sessions (env : LoaderEnv) (uuid : String → Nat → String)
    (archives : List Archive) (confirmatory : List String) (protocol : Native.Dict) (policy : RulePolicy) (corpus : Corpus)
    (fold : OuterFold) (cameraLabels contextLabels : List Int)
    (hpolicy : RulePolicy.fromProtocolFreeze protocol = .ok policy)
    (hcorpus : loadResearchCorpus env confirmatory archives = .ok corpus)
    (hpasses : assertResearchFoldSources corpus fold = .ok ()) :
    Evaluates uuid corpus fold protocol cameraLabels contextLabels ↔
      LeavesRoom confirmatory archives corpus fold cameraLabels contextLabels :=
  evaluates_iff_leavesRoom hpolicy hcorpus hpasses

namespace Sample

def people : List String := ["P03", "P04", "P05", "P06", "P07", "P08", "P09", "P10", "P11", "P12"]

def sessionOf (person : String) : Session := { Sample.session with sessionId := person, participantPseudonym := person }

def drawnFor (person : String) (n : Nat) : List String := (drawn n).map (person ++ ·)

/-- The export of a participant who stands still for `n` frames. -/
def archiveOf (n : Nat) (person : String) : Archive :=
  let manifest : Manifest := ⟨1, "E", n, ResearchRuntime.Sample.digest⟩
  let recording := frames 66666667 present n
  { manifest
    records := ((drawnFor person n).zip recording).map (archiveRecord (sessionOf person) "CONFIRMATORY" recording manifest) }

variable {n : Nat} {person : String}

theorem drawnFor_nodup (person : String) (n : Nat) : (drawnFor person n).Nodup :=
  (drawn_nodup n).map fun a b heq => by simpa using heq

theorem sampleIds_archiveOf (n : Nat) (person : String) :
    (archiveOf n person).records.map Record.sampleId = drawnFor person n := by
  unfold archiveOf
  rw [List.map_map]
  exact List.map_fst_zip (by simp [drawnFor, drawn, frames])

theorem builds_archiveOf (hn : 0 < n) (hperson : person ≠ "") : Builds (sessionOf person) "CONFIRMATORY"
    (frames 66666667 present n) ((drawnFor person n).zip (frames 66666667 present n)) (archiveOf n person) where
  frames := List.map_snd_zip (by simp [drawnFor, drawn, frames])
  nonempty := List.ne_nil_of_length_pos (by simpa [frames] using hn)
  cohort := .inr rfl
  records := rfl
  unique := by
    rw [sampleIds_archiveOf]
    exact drawnFor_nodup person n
  manifest := ⟨rfl, by simp [archiveOf, drawnFor, drawn, frames]⟩
  valid record hmem := by
    obtain ⟨entry, hentry, rfl⟩ := List.mem_map.mp hmem
    obtain ⟨text, -, hid⟩ := List.mem_map.mp (List.of_mem_zip hentry).1
    unfold Record.validate
    simp only [bind_ok_iff, require_eq_ok]
    refine ⟨(), rfl, (), ⟨?_, hperson, hperson⟩, (), by rintro ⟨⟩, fun _ => .inr rfl⟩
    intro hempty
    have happended : (person ++ text).length = 0 := congrArg String.length (hid.trans hempty)
    rw [String.length_append] at happended
    exact hperson (String.length_eq_zero_iff.mp (by omega))

theorem windowOf_sampleId {candidate : List Record} {window : Window} {head : Record}
    (h : windowOf env candidate = .ok (some window)) (hhead : candidate.head? = some head) :
    window.sampleId = env.windowId head.sessionPseudonym head.capturedNs head.label := by
  unfold windowOf at h
  simp only [bind_ok_iff, orError_eq_ok, hhead, Option.some.injEq] at h
  obtain ⟨first, rfl, source, -, h⟩ := h
  cases htensor : resamplePoseWindow env.arith source with
  | error e =>
    rw [htensor] at h
    cases h
  | ok tensor =>
    rw [htensor] at h
    simp only [bind_ok_iff] at h
    obtain ⟨row, -, -, -, h⟩ := h
    cases h
    rfl

structure LoadedOf (person : String) (n : Nat) (loaded : LoadedRuntimeExport) : Prop where
  sessions : loaded.sessions.map SessionLoad.sessionId = [person]
  provenance : loaded.sessions.flatMap (fun session => session.recordProvenance.map Prod.fst) = drawnFor person n
  windows : loaded.windows.map (fun window => (window.sampleId, window.participant, window.session)) =
    [(person ++ "0", person, person)]
  cohort : ∀ window ∈ loaded.windows, window.sourceKind = .real ∧ window.phase = "CONFIRMATORY" ∧ window.startMs = 0

theorem load_archiveOf (hlong : windowFrames ≤ n) (hshort : n ≤ 104) (hperson : person ≠ "") :
    ∃ loaded, loadRuntimeExport loader (archiveOf n person) = .ok loaded ∧ LoadedOf person n loaded := by
  have hpositive : 0 < n := by
    unfold windowFrames at hlong
    omega
  have h := builds_archiveOf hpositive hperson
  obtain ⟨hframes, hdistinct⟩ := frames_accepted (by decide : 1000000 ≤ 66666667) n present
  have haccepted := fun observation hmem => (hframes observation hmem).1
  obtain ⟨hbounded, hfits, hsingle⟩ := loadable (by decide) h
  obtain ⟨session, hsession⟩ := (loadSession_returns_iff h rfl haccepted hdistinct).mpr ⟨hfits, hsingle⟩
  obtain ⟨first, hloads⟩ := loadSession_ok_iff.mp hsession
  have hordered := h.ordered hdistinct
  -- the one window of the one run
  have hreviews : (sessionOf person).reviews = Sample.session.reviews := rfl
  obtain ⟨hnormal, hruns⟩ := labels_normal hreviews hpositive (by omega) h
  have hlength := records_length h
  have hsupervised : isSupervised (archiveOf n person).records := supervised (List.ne_nil_of_length_pos (by omega)) hnormal
  have hcandidates : candidates (archiveOf n person).records = [(archiveOf n person).records] := by
    have hcount : ((archiveOf n person).records.length - 75) / 15 = 1 := by
      unfold windowFrames at hlong
      omega
    unfold candidates
    rw [hcount]
    rfl
  obtain ⟨window, hcut⟩ := cut_at_start h rfl (by decide) hlong (by unfold windowFrames at hlong; omega)
  have hwindows : session.windows = [window] := by
    obtain ⟨windows, hwindows, hflatten⟩ := hloads.windows
    rw [hordered, hruns, List.mapM_cons, List.mapM_nil] at hwindows
    unfold runWindows at hwindows
    rw [if_pos hsupervised, hcandidates, slide, hcut] at hwindows
    obtain rfl := Except.ok.inj hwindows
    exact hflatten
  obtain ⟨head, source, hwindow⟩ := windowOf_some hcut
  have hhead : head = archiveRecord (sessionOf person) "CONFIRMATORY" (frames 66666667 present n) (archiveOf n person).manifest
      (person ++ "s", frame 66666667 present 0) := by
    have hfirst := hwindow.head
    obtain ⟨m, rfl⟩ : ∃ m, n = m + 1 := ⟨n - 1, by omega⟩
    rw [h.records] at hfirst
    unfold drawnFor drawn frames at hfirst
    rw [List.range_succ_eq_map] at hfirst
    simp only [List.map_cons, List.zip_cons_cons, List.head?_cons, Option.some.injEq] at hfirst
    rw [← hfirst]
    unfold frames
    rw [List.range_succ_eq_map]
    rfl
  have hfirst : first = head := by
    have hheadFirst := hloads.head
    rw [hordered] at hheadFirst
    exact Option.some.inj (hheadFirst.symm.trans hwindow.head)
  have hoffset : head.offsetMs = 0 := by
    rw [hhead]
    change ResearchRuntime.offsetMs (frames 66666667 present n) (frame 66666667 present 0) = 0
    obtain ⟨m, rfl⟩ : ∃ m, n = m + 1 := ⟨n - 1, by omega⟩
    unfold ResearchRuntime.offsetMs frames
    rw [List.range_succ_eq_map]
    rfl
  have hvalidated : validateResearchExport loader.sha256 loader.packing (archiveOf n person) =
      .ok ((archiveOf n person).manifest, (archiveOf n person).records) := by
    unfold validateResearchExport
    simp only [bind_ok_iff, require_eq_ok]
    refine ⟨(), hbounded, (), h.manifest, (), forM_ok_iff.mpr fun record hmem => ?_, (), h.unique, (), rfl, rfl⟩
    rw [bind_ok_iff]
    refine ⟨(), h.valid record hmem, require_eq_ok.mpr ?_⟩
    obtain ⟨entry, -, -, rfl⟩ := h.mem hmem
    exact ⟨rfl, rfl, h.manifest.2⟩
  refine ⟨_, loadRuntimeExport_ok_iff.mpr ⟨hvalidated, fun record hmem => ?_, h.unique, [session], ?_, rfl⟩, ?_, ?_, ?_, ?_⟩
  · refine recheck_valid (h.valid record hmem) ?_
    obtain ⟨entry, -, -, rfl⟩ := h.mem hmem
    exact ⟨rfl, rfl, rfl⟩
  · rw [h.grouped, List.mapM_cons, hsession]
    rfl
  · rw [List.map_singleton, hloads.sessionId, hfirst, hhead]
    rfl
  · rw [List.flatMap_singleton, hloads.recordProvenance, List.map_map, hordered]
    exact sampleIds_archiveOf n person
  · have hall : LoadedRuntimeExport.windows ⟨(archiveOf n person).manifest.manifestSha256,
        counter ((archiveOf n person).records.map Record.label), [session]⟩ = [window] := by
      simp [LoadedRuntimeExport.windows, hwindows]
    rw [hall, List.map_singleton, hwindow.participant, hwindow.session, windowOf_sampleId hcut hwindow.head, hhead]
    rfl
  · intro other hmem
    have hall : LoadedRuntimeExport.windows ⟨(archiveOf n person).manifest.manifestSha256,
        counter ((archiveOf n person).records.map Record.label), [session]⟩ = [window] := by
      simp [LoadedRuntimeExport.windows, hwindows]
    obtain rfl := List.mem_singleton.mp (hall ▸ hmem)
    rw [hwindow.sourceKind, hwindow.phase, hwindow.startMs, hoffset, hhead]
    exact ⟨rfl, rfl, rfl⟩

theorem exists_corpus (hlong : windowFrames ≤ n) (hshort : n ≤ 104) :
    ∃ corpus, loadResearchCorpus loader people (people.map (archiveOf n)) = .ok corpus ∧
      corpus.rows.map (fun row => (row.participant, row.session)) = people.map (fun person => (person, person)) ∧
      ∀ row ∈ corpus.rows, row.sourceKind = .real ∧ row.phase = "CONFIRMATORY" ∧ row.startMs = 0 := by
  have hperson : ∀ person ∈ people, person ≠ "" ∧ person.length = 3 := by decide
  have hload : ∀ person ∈ people, ∃ loaded, loadRuntimeExport loader (archiveOf n person) = .ok loaded ∧
      LoadedOf person n loaded := fun person hmem => load_archiveOf hlong hshort (hperson person hmem).1
  obtain ⟨loaded, hloaded⟩ := mapM_returns_iff.mpr fun person hmem => (hload person hmem).imp fun _ h => h.1
  have hof (person : String) (hmem : person ∈ people) (one : LoadedRuntimeExport)
      (hone : loadRuntimeExport loader (archiveOf n person) = .ok one) : LoadedOf person n one := by
    obtain ⟨other, hother, h⟩ := hload person hmem
    rwa [← Except.ok.inj (hother.symm.trans hone)]
  have hwindows : (loaded.flatMap LoadedRuntimeExport.windows).map
      (fun window => (window.sampleId, window.participant, window.session)) =
        people.map fun person => (person ++ "0", person, person) := by
    rw [List.map_flatMap, List.flatMap_def, mapM_ok_map hloaded fun person hmem one hone => (hof person hmem one hone).windows]
    rfl
  have hcohort : ∀ window ∈ loaded.flatMap LoadedRuntimeExport.windows,
      window.sourceKind = .real ∧ window.phase = "CONFIRMATORY" ∧ window.startMs = 0 := by
    intro window hmem
    obtain ⟨one, hone, hwindow⟩ := List.mem_flatMap.mp hmem
    obtain ⟨person, hmem, hmade⟩ := (mapM_ok_mem hloaded).1 one hone
    exact (hof person hmem one hmade).cohort window hwindow
  have hsessions : (loaded.flatMap LoadedRuntimeExport.sessions).map SessionLoad.sessionId = people := by
    rw [List.map_flatMap, List.flatMap_def,
      mapM_ok_map hloaded fun person hmem one hone => (hof person hmem one hone).sessions]
    rfl
  have hprovenance : ((loaded.flatMap LoadedRuntimeExport.sessions).flatMap SessionLoad.recordProvenance).map Prod.fst =
      people.flatMap fun person => drawnFor person n := by
    rw [List.flatMap_assoc, List.map_flatMap, List.flatMap_def,
      mapM_ok_map hloaded fun person hmem one hone => by
        rw [List.map_flatMap]
        exact (hof person hmem one hone).provenance]
    rfl
  have hparticipants : ∀ window ∈ loaded.flatMap LoadedRuntimeExport.windows, window.participant ∈ people := by
    intro window hmem
    have hlisted : (window.sampleId, window.participant, window.session) ∈
        people.map fun person => (person ++ "0", person, person) := hwindows ▸ List.mem_map_of_mem hmem
    obtain ⟨person, hmem, heq⟩ := List.mem_map.mp hlisted
    have hparticipant : person = window.participant := congrArg (fun triple => triple.2.1) heq
    rwa [← hparticipant]
  have hkept : (loaded.flatMap LoadedRuntimeExport.windows).filter
      (fun window => window.participant ∈ people ∧ window.phase = "CONFIRMATORY") =
        loaded.flatMap LoadedRuntimeExport.windows := by
    rw [List.filter_eq_self]
    intro window hmem
    simpa using ⟨hparticipants window hmem, (hcohort window hmem).2.1⟩
  have hrows : ((loaded.flatMap LoadedRuntimeExport.windows).map fun row => (row.participant, row.session)) =
      people.map fun person => (person, person) := by
    have hpairs := congrArg (List.map fun triple : String × String × String => (triple.2.1, triple.2.2)) hwindows
    rwa [List.map_map, List.map_map] at hpairs
  let sessions := loaded.flatMap LoadedRuntimeExport.sessions
  refine ⟨⟨loaded.flatMap LoadedRuntimeExport.windows, sessions.flatMap SessionLoad.recordProvenance,
    sessions.filter fun session => session.isConfirmatory people⟩, ?_, hrows, hcohort⟩
  unfold loadResearchCorpus
  simp only [bind_ok_iff, require_eq_ok]
  refine ⟨(), by simp [people], loaded, by rw [List.mapM_map]; exact hloaded, (), ?_, (), ?_, (), ?_, (), ?_, (), ?_, ?_⟩
  · rw [hsessions]
    decide
  · rw [hprovenance, List.nodup_flatMap]
    refine ⟨fun person _ => drawnFor_nodup person n, ?_⟩
    have hdistinct : people.Pairwise (· ≠ ·) := by decide
    refine hdistinct.imp_of_mem fun {a b} ha hb hne => ?_
    intro id hfirst hsecond
    obtain ⟨text, -, rfl⟩ := List.mem_map.mp hfirst
    obtain ⟨other, -, heq⟩ := List.mem_map.mp hsecond
    have hlists : b.toList ++ other.toList = a.toList ++ text.toList := by
      rw [← String.toList_append, ← String.toList_append]
      exact congrArg String.toList heq
    have hlengths : b.toList.length = a.toList.length := by
      rw [String.length_toList, String.length_toList, (hperson a ha).2, (hperson b hb).2]
    exact hne (String.toList_inj.mp (List.append_inj_left hlists hlengths).symm)
  · have hids := congrArg (List.map Prod.fst) hwindows
    rw [List.map_map, List.map_map] at hids
    have hmap : (loaded.flatMap LoadedRuntimeExport.windows).map Window.sampleId = people.map (· ++ "0") := hids
    rw [hmap]
    decide
  · rw [hkept]
    intro hempty
    rw [hempty] at hrows
    exact absurd hrows (by decide)
  · rw [hkept]
    intro person hmem
    have hpeople := congrArg (List.map Prod.fst) hrows
    rw [List.map_map, List.map_map] at hpeople
    have hmap : (loaded.flatMap LoadedRuntimeExport.windows).map Window.participant = people := hpeople
    rwa [hmap]
  · rw [hkept]
    rfl

def heldOut : OuterFold := foldOf people 0

theorem fold_passes {corpus : Corpus}
    (hrows : corpus.rows.map (fun row => (row.participant, row.session)) = people.map fun person => (person, person))
    (hcohort : ∀ row ∈ corpus.rows, row.sourceKind = .real ∧ row.phase = "CONFIRMATORY" ∧ row.startMs = 0) :
    assertResearchFoldSources corpus heldOut = .ok () := by
  have hsome {held : List String} {person : String} (hperson : person ∈ people) (hheld : person ∈ held) :
      corpus.rowsOf held ≠ [] := by
    have hpair : (person, person) ∈ corpus.rows.map fun row => (row.participant, row.session) :=
      hrows ▸ List.mem_map_of_mem hperson
    obtain ⟨row, hrow, heq⟩ := List.mem_map.mp hpair
    have hparticipant : row.participant = person := congrArg Prod.fst heq
    exact List.ne_nil_of_mem (List.mem_filter.mpr ⟨hrow, by simpa [hparticipant] using hheld⟩)
  have hpartition (person : String) {name : String} {held : List String} (hperson : person ∈ people)
      (hheld : person ∈ held) : checkPartition corpus name held = .ok () := by
    unfold checkPartition
    rw [if_neg (List.ne_nil_of_mem hheld)]
    simp only [bind_ok_iff, require_eq_ok]
    exact ⟨(), hsome hperson hheld, (), fun row hrow => (hcohort row (List.mem_filter.mp hrow).1).1,
      fun row hrow => (hcohort row (List.mem_filter.mp hrow).1).2.1⟩
  unfold assertResearchFoldSources
  simp only [bind_ok_iff]
  refine ⟨(), hpartition "P05" (by decide) (by decide), (), hpartition "P03" (by decide) (by decide),
    forM_ok_iff.mpr fun row hrow => ?_⟩
  unfold checkParents
  rw [if_neg]
  rw [(hcohort row (List.mem_filter.mp hrow).1).1]
  decide

theorem offsetMs_archiveOf (hn : 0 < n) (hperson : person ≠ "") : (archiveOf n person).records.map Record.offsetMs =
    (List.range n).map fun i : Nat => (i : Int) * 66666667 / 1000000 := by
  have hmap := (builds_archiveOf hn hperson).map_eq (f := Record.offsetMs)
    (g := ResearchRuntime.offsetMs (frames 66666667 present n)) fun _ => rfl
  rw [hmap]
  unfold frames
  rw [List.map_map]
  refine List.map_congr_left fun i _ => ?_
  obtain ⟨m, rfl⟩ : ∃ m, n = m + 1 := ⟨n - 1, by omega⟩
  unfold ResearchRuntime.offsetMs
  rw [List.range_succ_eq_map]
  change ((i : Int) * (66666667 : Nat) - ((0 : Nat) : Int) * (66666667 : Nat)) / 1000000 = _
  simp

theorem exists_mapped : ∃ mapped, RulePolicy.fromProtocolFreeze (Sample.protocol 1000) = .ok mapped := by
  obtain ⟨policy, -, hfrozen, hbounded, -⟩ := @protocol_frozen 1000 (by decide)
  exact fromProtocolFreeze_ok_iff.mpr ⟨"V", "PILOT", policy, hfrozen.names, hfrozen.selects, hfrozen.holds,
    ⟨hfrozen.status, hfrozen.named, hfrozen.selected, hfrozen.fields⟩, hfrozen.hysteresis, hbounded.mpr (by decide)⟩

end Sample

/-- Recordings of a hundred frames are evaluated, whatever the windows are predicted to show. -/
theorem events_within_sessions_long : ∃ corpus,
    loadResearchCorpus Sample.loader Sample.people (Sample.people.map (Sample.archiveOf 100)) = .ok corpus ∧
      Evaluates (fun _ _ => "") corpus Sample.heldOut (Sample.protocol 1000) [2, 3] [3, 3] := by
  obtain ⟨corpus, hcorpus, hrows, hcohort⟩ := @Sample.exists_corpus 100 (by decide) (by decide)
  obtain ⟨mapped, hmapped⟩ := Sample.exists_mapped
  have hpeople : ∀ person ∈ Sample.people, person ≠ "" := by decide
  refine ⟨corpus, hcorpus, (events_within_sessions Sample.loader (fun _ _ => "") (Sample.people.map (Sample.archiveOf 100))
    Sample.people (Sample.protocol 1000) mapped corpus Sample.heldOut [2, 3] [3, 3] hmapped hcorpus
    (Sample.fold_passes hrows hcohort)).mpr ⟨?_, ?_⟩⟩
  · intro archive harchive grouped hgrouped run hrun first hfirst last hlast htested halert
    obtain ⟨person, hperson, rfl⟩ := List.mem_map.mp harchive
    have h := Sample.builds_archiveOf (n := 100) (by decide) (hpeople person hperson)
    have hreviews : (Sample.sessionOf person).reviews = Sample.session.reviews := rfl
    have hnormal := (Sample.labels_normal hreviews (by decide) (by decide) h).1 first
      (mem_groupedSessions hgrouped (mem_ordered.mp (mem_of_run hrun (List.mem_of_head? hfirst))))
    rw [hnormal] at halert
    exact absurd halert (by decide)
  · intro entry hentry halert
    have hrow : entry.1 ∈ corpus.rows := by
      rcases List.mem_append.mp hentry with hentry | hentry
      · exact (List.mem_filter.mp (List.of_mem_zip hentry).1).1
      · exact (List.mem_filter.mp (List.of_mem_zip hentry).1).1
    have hpair : (entry.1.participant, entry.1.session) ∈ Sample.people.map fun person => (person, person) :=
      hrows ▸ List.mem_map_of_mem (f := fun row : Window => (row.participant, row.session)) hrow
    obtain ⟨person, hperson, heq⟩ := List.mem_map.mp hpair
    have hsession : entry.1.session = person := (congrArg Prod.snd heq).symm
    have hlate : (6600 : Int) ∈ (Sample.archiveOf 100 person).records.map Record.offsetMs := by
      rw [Sample.offsetMs_archiveOf (by decide) (hpeople person hperson)]
      exact List.mem_map.mpr ⟨99, by decide, by decide⟩
    obtain ⟨record, hrecord, hoffset⟩ := List.mem_map.mp hlate
    refine ⟨_, List.mem_map_of_mem hperson, record, hrecord, ?_, ?_⟩
    · obtain ⟨source, -, -, rfl⟩ := (Sample.builds_archiveOf (n := 100) (by decide) (hpeople person hperson)).mem hrecord
      exact hsession.symm
    · rw [(hcohort entry.1 hrow).2.2, hoffset]
      decide

/-- Recordings of ninety frames last for less than their windows: a window that is predicted to show an alert is refused. -/
theorem events_outside_sessions : ∃ corpus,
    loadResearchCorpus Sample.loader Sample.people (Sample.people.map (Sample.archiveOf 90)) = .ok corpus ∧
      assertResearchFoldSources corpus Sample.heldOut = .ok () ∧
      ¬ Evaluates (fun _ _ => "") corpus Sample.heldOut (Sample.protocol 1000) [2, 2] [0, 0] := by
  obtain ⟨corpus, hcorpus, hrows, hcohort⟩ := @Sample.exists_corpus 90 (by decide) (by decide)
  obtain ⟨mapped, hmapped⟩ := Sample.exists_mapped
  have hpeople : ∀ person ∈ Sample.people, person ≠ "" := by decide
  have hpasses := Sample.fold_passes hrows hcohort
  refine ⟨corpus, hcorpus, hpasses, fun hevaluates => ?_⟩
  have hroom := ((evaluates_iff_leavesRoom hmapped hcorpus hpasses).mp hevaluates).predicted
  -- the window of the first participant who is tested
  obtain ⟨row, rest, htested⟩ : ∃ row rest, corpus.rowsOf Sample.heldOut.test = row :: rest := by
    have hpair : ("P03", "P03") ∈ corpus.rows.map fun row => (row.participant, row.session) := by
      rw [hrows]
      decide
    obtain ⟨row, hrow, heq⟩ := List.mem_map.mp hpair
    have hparticipant : row.participant = "P03" := congrArg Prod.fst heq
    refine List.exists_cons_of_ne_nil (List.ne_nil_of_mem (List.mem_filter.mpr ⟨hrow, ?_⟩))
    rw [hparticipant]
    decide
  have hrow : row ∈ corpus.rows :=
    (List.mem_filter.mp (show row ∈ corpus.rowsOf Sample.heldOut.test from htested ▸ List.mem_cons_self)).1
  obtain ⟨archive, harchive, record, hrecord, -, hlate⟩ := hroom (row, 2)
    (List.mem_append_left _ (by rw [htested]; exact List.mem_cons_self)) (.inl rfl)
  obtain ⟨person, hperson, rfl⟩ := List.mem_map.mp harchive
  have hoffset : record.offsetMs ∈ (Sample.archiveOf 90 person).records.map Record.offsetMs := List.mem_map_of_mem hrecord
  rw [Sample.offsetMs_archiveOf (by decide) (hpeople person hperson)] at hoffset
  obtain ⟨i, hi, hoffset⟩ := List.mem_map.mp hoffset
  have hbound := List.mem_range.mp hi
  rw [(hcohort row hrow).2.2] at hlate
  change (0 : Int) + 5999 ≤ record.offsetMs at hlate
  omega

end PduExamObserver.Training
