import PduExamObserver.Training.Corpus
import PduExamObserver.Training.RuntimeExports

/-! # The provenance of windows

A window names its first ninety records and takes its tensor from the records around its target times: which windows
name all that they are made of, and what the check of the folds then keeps out of the training. -/

namespace PduExamObserver.Training
open Brackets ResearchRuntime Rounding Showcase
set_option autoImplicit false

variable {env : LoaderEnv} {archive : Archive} {archives : List Archive} {loaded : LoadedRuntimeExport}
  {candidate : List Record} {window : Window} {record first : Record} {source : List SourceFrame} {corpus : Corpus}
  {fold : OuterFold}

/-! ## What a window says of its records -/

def Window.Names (window : Window) (record : Record) : Prop :=
  record.sampleId ∈ window.sourceRecordIds ∧ ∀ parent ∈ record.parentProvenanceId, parent ∈ window.parentProvenanceIds

structure Complete (float : Rat → Rat) (candidate : List Record) (window : Window) : Prop where
  named : ∀ source, candidate.mapM sourceFrame = .ok source → ∀ i, Influences float source i → ∀ record ∈ candidate[i]?,
    window.Names record
  averaged : ∀ record ∈ candidate.take windowFrames, window.startMs ≤ record.offsetMs ∧ record.offsetMs ≤ window.endMs

/-- The ninetieth record is the last one of the run, or not before the last target time. -/
structure Spans (float : Rat → Rat) (candidate : List Record) : Prop where
  reaches : candidate.length = windowFrames ∨ rint (targetTime float ((candidate.map Record.capturedNs).getD 0 0) 89) ≤
    (candidate.map Record.capturedNs).getD 89 0
  within : (candidate.map Record.offsetMs).getD 89 0 ≤ (candidate.map Record.offsetMs).getD 0 0 + 6000

def NoLeak (env : LoaderEnv) (archives : List Archive) (corpus : Corpus) (fold : OuterFold) : Prop :=
  ∀ archive ∈ archives, ∀ loaded, loadRuntimeExport env archive = .ok loaded → ∀ candidate window,
    Cuts env archive loaded candidate window → window ∈ corpus.rowsOf fold.train →
    ∀ source, candidate.mapM sourceFrame = .ok source → ∀ i, Influences env.arith.float source i → ∀ record ∈ candidate[i]?,
    record.sourceKind = .augmented → ∀ parent ∈ record.parentProvenanceId,
    ∀ provenance ∈ corpus.recordProvenance.lookup parent,
      provenance.participant ∉ fold.calibration ∧ provenance.participant ∉ fold.test ∧ provenance.phase ≠ "PILOT"

/-- Every window of the exports is complete, and nothing leaks through a fold that passes. -/
structure Provenanced (env : LoaderEnv) (archives : List Archive) : Prop where
  complete : ∀ archive ∈ archives, ∀ loaded, loadRuntimeExport env archive = .ok loaded → ∀ candidate window,
    Cuts env archive loaded candidate window → Complete env.arith.float candidate window
  noLeak : ∀ confirmatory corpus fold, loadResearchCorpus env confirmatory archives = .ok corpus →
    assertResearchFoldSources corpus fold = .ok () → NoLeak env archives corpus fold

/-! ## Frames and records -/

theorem sourceFrame_timestampNs {frame : SourceFrame} (h : sourceFrame record = .ok frame) :
    frame.timestampNs = record.capturedNs := by
  unfold sourceFrame at h
  rw [bind_ok_iff] at h
  obtain ⟨poses, -, h⟩ := h
  split at h
  · simp only [bind_ok_iff, orError_eq_ok] at h
    obtain ⟨capturedNs, hcaptured, h⟩ := h
    cases h
    rw [Record.capturedNs, hcaptured, Option.getD_some]
  · cases h

theorem times_source (h : candidate.mapM sourceFrame = .ok source) : times source = candidate.map Record.capturedNs :=
  mapM_ok_map h fun _ _ _ hframe => sourceFrame_timestampNs hframe

theorem targetNs_last (float : Rat → Rat) (h : candidate.mapM sourceFrame = .ok source) :
    targetNs float source 89 = rint (targetTime float ((candidate.map Record.capturedNs).getD 0 0) 89) := by
  have horigin : originNs source = (times source).getD 0 0 := by
    unfold originNs
    cases times source <;> rfl
  rw [targetNs, horigin, times_source h]

theorem influences_lt_length {float : Rat → Rat} (hvalid : ValidSource source) {i : Nat} (h : Influences float source i) : i < source.length := by
  obtain ⟨k, -, hbracket⟩ := h
  have hlength := hvalid.length
  have hnil : times source ≠ [] := List.ne_nil_of_length_pos (by rw [times_length]; omega)
  have hright := right_lt_length hnil (targetNs float source k)
  rw [times_length] at hright
  rcases hbracket with rfl | rfl
  · exact Nat.lt_of_le_of_lt (left_le_right _ _) hright
  · exact hright

/-! ## One window -/

theorem sampleId_take_iff (hunique : (candidate.map Record.sampleId).Nodup) {i : Nat} (hi : i < candidate.length) :
    (candidate[i]).sampleId ∈ (candidate.take windowFrames).map Record.sampleId ↔ i < windowFrames := by
  constructor
  · intro hmem
    obtain ⟨other, hother, hid⟩ := List.mem_map.mp hmem
    obtain ⟨j, hj, rfl⟩ := List.mem_iff_getElem.mp hother
    rw [List.length_take] at hj
    have hi' : i < (candidate.map Record.sampleId).length := by rw [List.length_map]; omega
    have hj' : j < (candidate.map Record.sampleId).length := by rw [List.length_map]; omega
    have hsame : (candidate.map Record.sampleId)[j] = (candidate.map Record.sampleId)[i] := by
      simpa using hid
    have hindex : j = i := (hunique.getElem_inj_iff).mp hsame
    omega
  · intro hlt
    refine List.mem_map_of_mem (List.mem_iff_getElem.mpr ⟨i, ?_, List.getElem_take⟩)
    rw [List.length_take]
    omega

theorem named_iff {float : Rat → Rat} (hwindow : WindowOf env candidate window first source) (hvalid : ValidSource source)
    (hunique : (candidate.map Record.sampleId).Nodup) :
    (∀ i, Influences float source i → ∀ record ∈ candidate[i]?, window.Names record) ↔
      ∀ i, Influences float source i → i < windowFrames := by
  have hlength : source.length = candidate.length := mapM_ok_length hwindow.frames
  constructor
  · intro hnames i hinfluences
    have hi : i < candidate.length := hlength ▸ influences_lt_length hvalid hinfluences
    obtain ⟨hid, -⟩ := hnames i hinfluences candidate[i] (List.getElem?_eq_getElem hi)
    rw [hwindow.sourceRecordIds] at hid
    exact (sampleId_take_iff hunique hi).mp hid
  · intro hbounded i hinfluences record hrecord
    have hmem : record ∈ candidate.take windowFrames := by
      have htake : (candidate.take windowFrames)[i]? = some record := by
        rw [List.getElem?_take_of_lt (hbounded i hinfluences)]
        exact hrecord
      exact List.mem_of_getElem? htake
    refine ⟨?_, fun parent hparent => ?_⟩
    · rw [hwindow.sourceRecordIds]
      exact List.mem_map_of_mem hmem
    · rw [hwindow.parentProvenanceIds]
      exact List.mem_filterMap.mpr ⟨record, hmem, hparent⟩

theorem averaged_iff (hwindow : WindowOf env candidate window first source) (hlong : windowFrames ≤ candidate.length)
    (hincreasing : (candidate.map Record.offsetMs).Pairwise (· < ·)) :
    (∀ record ∈ candidate.take windowFrames, window.startMs ≤ record.offsetMs ∧ record.offsetMs ≤ window.endMs) ↔
      (candidate.map Record.offsetMs).getD 89 0 ≤ (candidate.map Record.offsetMs).getD 0 0 + 6000 := by
  have hlast : 89 < (candidate.map Record.offsetMs).length := by
    rw [List.length_map]
    exact hlong
  have hstart : window.startMs = (candidate.map Record.offsetMs)[0] := by
    have hhead := hwindow.head
    rw [List.head?_eq_getElem?, List.getElem?_eq_getElem (by rw [List.length_map] at hlast; omega)] at hhead
    rw [hwindow.startMs, List.getElem_map, ← Option.some.inj hhead]
  have hend : window.endMs = (candidate.map Record.offsetMs)[0] + 6000 := by
    rw [← hstart, hwindow.endMs, hwindow.startMs]
  rw [List.getD_eq_getElem _ _ hlast, List.getD_eq_getElem _ _ (by omega), hstart, hend]
  have hordered {i j : Nat} (hij : i ≤ j) (hj : j < (candidate.map Record.offsetMs).length) :
      (candidate.map Record.offsetMs)[i] ≤ (candidate.map Record.offsetMs)[j] := by
    rcases Nat.lt_or_eq_of_le hij with hlt | rfl
    · exact (List.pairwise_iff_getElem.mp hincreasing i j (by omega) hj hlt).le
    · exact le_refl _
  have hmemTake : ∀ record ∈ candidate.take windowFrames, ∃ i, ∃ (hi : i < (candidate.map Record.offsetMs).length),
      i ≤ 89 ∧ record.offsetMs = (candidate.map Record.offsetMs)[i] := by
    intro record hmem
    obtain ⟨i, hi, rfl⟩ := List.mem_iff_getElem.mp hmem
    rw [List.length_take] at hi
    have hbound : i < 90 := lt_of_lt_of_le hi (Nat.min_le_left _ _)
    exact ⟨i, by rw [List.length_map]; omega, by omega, by simp⟩
  constructor
  · intro haveraged
    have hlast' : 89 < candidate.length := by rwa [List.length_map] at hlast
    have hmem : candidate[89] ∈ candidate.take windowFrames := by
      refine List.mem_iff_getElem.mpr ⟨89, ?_, List.getElem_take⟩
      rw [List.length_take]
      unfold windowFrames at *
      omega
    simpa using (haveraged _ hmem).2
  · intro hwithin record hmem
    obtain ⟨i, hi, hle, hoffset⟩ := hmemTake record hmem
    have hlow := hordered (Nat.zero_le i) hi
    have hhigh := hordered hle hlast
    omega

theorem complete_iff (hload : loadRuntimeExport env archive = .ok loaded)
    (hcuts : Cuts env archive loaded candidate window) : Complete env.arith.float candidate window ↔ Spans env.arith.float candidate := by
  obtain ⟨first, source, hwindow⟩ := windowOf_some hcuts.cut
  obtain ⟨hvalid, -, -⟩ := resamplePoseWindow_ok_iff.mp hwindow.tensor
  obtain ⟨hincreasing, hunique⟩ := hcuts.isCandidate.increasing hload
  have hlong := hcuts.isCandidate.infix.1
  have hlength : source.length = candidate.length := mapM_ok_length hwindow.frames
  have hreaches := @influences_lt_iff env.arith source hvalid (hlength ▸ hlong)
  rw [targetNs_last _ hwindow.frames, times_source hwindow.frames, hlength, ← named_iff hwindow hvalid hunique] at hreaches
  have hwithin := averaged_iff hwindow hlong hincreasing
  constructor
  · intro h
    exact ⟨hreaches.mp (h.named source hwindow.frames), hwithin.mp h.averaged⟩
  · intro h
    refine ⟨fun other hother => ?_, hwithin.mpr h.within⟩
    obtain rfl := Except.ok.inj (hwindow.frames.symm.trans hother)
    exact hreaches.mpr h.reaches

/-! ## Exports and folds -/

/-- The windows of the exports are complete, and nothing leaks through a fold that passes, exactly if in every window
the first ninety records are all or reach the last target time, and do not go beyond six seconds. -/
theorem window_provenance (env : LoaderEnv) (archives : List Archive) :
    Provenanced env archives ↔ ∀ archive ∈ archives, ∀ loaded, loadRuntimeExport env archive = .ok loaded →
      ∀ candidate window, Cuts env archive loaded candidate window → Spans env.arith.float candidate := by
  constructor
  · intro h archive harchive loaded hload candidate window hcuts
    exact (complete_iff hload hcuts).mp (h.complete archive harchive loaded hload candidate window hcuts)
  · intro h
    refine ⟨fun archive harchive loaded hload candidate window hcuts =>
      (complete_iff hload hcuts).mpr (h archive harchive loaded hload candidate window hcuts), ?_⟩
    intro confirmatory corpus fold hcorpus hpasses archive harchive loaded hload candidate window hcuts hrow source
      hsource i hinfluences record hrecord haugmented parent hparent provenance hprovenance
    have hcomplete := (complete_iff hload hcuts).mpr (h archive harchive loaded hload candidate window hcuts)
    have hnamed := (hcomplete.named source hsource i hinfluences record hrecord).2 parent hparent
    obtain ⟨first, source', hwindow⟩ := windowOf_some hcuts.cut
    have hkind : window.sourceKind = .augmented := by
      rw [hwindow.sourceKind, ← haugmented]
      exact hcuts.isCandidate.sameSource hload _ (List.mem_of_head? hwindow.head) _ (List.mem_of_getElem? hrecord)
    obtain ⟨hmem, htrain⟩ := List.mem_filter.mp hrow
    obtain ⟨hlookup, htrained⟩ := resolves_of_passes hpasses hmem (by simpa using htrain) hkind hnamed
    obtain rfl := Option.some.inj (hlookup.symm.trans hprovenance)
    exact ⟨(fold.disjoint _ htrained).1, (fold.disjoint _ htrained).2, by simp⟩

/-- At thirty frames a second the ninety records of a window are its first three seconds, and it is made of later ones
too. -/
theorem window_provenance_fast : ∃ archive loaded, loadRuntimeExport Sample.loader archive = .ok loaded ∧
    ¬ Provenanced Sample.loader [archive] := by
  obtain ⟨archive, phase, entries, loaded, h, -, -, -, hload, window, hcuts⟩ :=
    @Sample.exists_window 33333334 200 (by decide) (by decide) (by decide) (by decide) (by decide)
  refine ⟨archive, loaded, hload, fun hprovenanced => ?_⟩
  have hreaches := ((complete_iff hload hcuts).mp
    (hprovenanced.complete archive (List.mem_singleton_self _) loaded hload archive.records window hcuts)).reaches
  have hcaptured : archive.records.map Record.capturedNs = (List.range 200).map fun j : Nat => (j : Int) * 33333334 :=
    (h.map_eq (f := Record.capturedNs) (g := Observation.capturedNs) fun _ => rfl).trans
      (Sample.capturedNs_frames 33333334 Sample.present 200)
  have hlength : archive.records.length = 200 := by simpa using congrArg List.length hcaptured
  rw [hcaptured] at hreaches
  simp only [List.getD_eq_getElem?_getD, List.getElem?_map] at hreaches
  rw [List.getElem?_range (by decide), List.getElem?_range (by decide)] at hreaches
  simp only [Option.map_some, Option.getD_some] at hreaches
  rcases hreaches with hall | hreach
  · rw [hlength] at hall
    exact absurd hall (by decide)
  · have hlast := rint_mono (@lastTarget_near 0 (by decide)).1
    have hstart : rint ((0 : Int) + 5933333333) = 5933333333 := by exact_mod_cast rint_intCast 5933333333
    have hreach' : rint (targetTime toFloat 0 89) ≤ 89 * 33333334 := hreach
    omega

end PduExamObserver.Training
