import PduExamObserver.Training.RuntimeExports

/-! # The windows that the loader leaves out

The window loop of a run of equal labels goes on while there are ninety records, and is left at the first start whose
frames cannot be resampled. -/

namespace PduExamObserver.Training
open ResearchRuntime
set_option autoImplicit false

variable {env : LoaderEnv} {archive : Archive} {loaded : LoadedRuntimeExport} {records grouped run candidate : List Record}
  {record start : Record} {window : Window} {windows : List Window}

/-! ## The windows of a run -/

def resamples (env : LoaderEnv) (candidate : List Record) : Bool :=
  match candidate.mapM sourceFrame with
  | .error _ => false
  | .ok source => (resamplePoseWindow env.arith source).isOk

theorem windowOf_none (h : windowOf env candidate = .ok none) : resamples env candidate = false := by
  unfold windowOf at h
  simp only [bind_ok_iff, orError_eq_ok] at h
  obtain ⟨first, -, source, hsource, h⟩ := h
  unfold resamples
  rw [hsource]
  dsimp only
  cases htensor : resamplePoseWindow env.arith source with
  | error e => rfl
  | ok tensor =>
    rw [htensor] at h
    simp only [bind_ok_iff] at h
    obtain ⟨row, -, u, -, h⟩ := h
    cases h

theorem windowOf_resamples (h : windowOf env candidate = .ok (some window)) : resamples env candidate = true := by
  obtain ⟨first, source, hwindow⟩ := windowOf_some h
  unfold resamples
  rw [hwindow.frames]
  dsimp only
  rw [hwindow.tensor]
  rfl

theorem slide_takeWhile {rest : List (List Record)} (h : slide env rest = .ok windows) :
    List.Forall₂ (fun candidate window => windowOf env candidate = .ok (some window)) (rest.takeWhile (resamples env))
      windows := by
  induction rest generalizing windows with
  | nil =>
    cases h
    exact .nil
  | cons candidate rest ih =>
    rw [slide, bind_ok_iff] at h
    obtain ⟨cut, hcut, h⟩ := h
    cases cut with
    | none =>
      cases h
      rw [List.takeWhile_cons_of_neg (by rw [windowOf_none hcut]; exact Bool.false_ne_true)]
      exact .nil
    | some made =>
      rw [bind_ok_iff] at h
      obtain ⟨others, hothers, h⟩ := h
      cases h
      rw [List.takeWhile_cons_of_pos (windowOf_resamples hcut)]
      exact .cons hcut (ih hothers)

def starts (env : LoaderEnv) (run : List Record) : List Record :=
  if isSupervised run then ((candidates run).takeWhile (resamples env)).filterMap List.head? else []

def Window.startId (window : Window) : Option String := window.sourceRecordIds.head?

theorem startId_of_windowOf (h : windowOf env candidate = .ok (some window)) :
    ∃ first, candidate.head? = some first ∧ window.startId = some first.sampleId := by
  obtain ⟨first, source, hwindow⟩ := windowOf_some h
  refine ⟨first, hwindow.head, ?_⟩
  rw [Window.startId, hwindow.sourceRecordIds, List.head?_map, List.head?_take, if_neg (by decide), hwindow.head]
  rfl

theorem startIds_of_cut {cuts : List (List Record)}
    (h : List.Forall₂ (fun candidate window => windowOf env candidate = .ok (some window)) cuts windows) :
    windows.map Window.startId = (cuts.filterMap List.head?).map fun record => some record.sampleId := by
  induction h with
  | nil => rfl
  | cons hcut hrest ih =>
    obtain ⟨first, hhead, hstart⟩ := startId_of_windowOf hcut
    rw [List.map_cons, List.filterMap_cons_some hhead, List.map_cons, hstart, ih]

theorem runWindows_starts (h : runWindows env run = .ok windows) :
    windows.map Window.startId = (starts env run).map fun record => some record.sampleId := by
  unfold runWindows at h
  unfold starts
  split at h
  · rename_i hsupervised
    rw [if_pos hsupervised]
    exact startIds_of_cut (slide_takeWhile h)
  · rename_i hother
    cases h
    rw [if_neg hother]
    rfl

/-! ## The windows of an export -/

def sessionStarts (env : LoaderEnv) (grouped : List Record) : List Record := (labelRuns (ordered grouped)).flatMap (starts env)

def allStarts (env : LoaderEnv) (records : List Record) : List Record := (groupedSessions records).flatMap (sessionStarts env)

theorem session_startIds {session : SessionLoad} (h : loadSession env grouped = .ok session) :
    session.windows.map Window.startId = (sessionStarts env grouped).map fun record => some record.sampleId := by
  obtain ⟨first, hloads⟩ := loadSession_ok_iff.mp h
  obtain ⟨windows, hwindows, hflatten⟩ := hloads.windows
  have hruns : windows.map (List.map Window.startId) =
      (labelRuns (ordered grouped)).map fun run => (starts env run).map fun record => some record.sampleId :=
    mapM_ok_map hwindows fun run hrun made hmade => runWindows_starts hmade
  rw [hflatten, List.map_flatten, hruns, sessionStarts, List.map_flatMap, List.flatMap_def]

theorem loaded_startIds (h : loadRuntimeExport env archive = .ok loaded) :
    loaded.windows.map Window.startId = (allStarts env archive.records).map fun record => some record.sampleId := by
  obtain ⟨-, -, -, sessions, hsessions, rfl⟩ := loadRuntimeExport_ok_iff.mp h
  have hall : sessions.map (fun session => session.windows.map Window.startId) =
      (groupedSessions archive.records).map fun grouped =>
        (sessionStarts env grouped).map fun record => some record.sampleId :=
    mapM_ok_map hsessions fun grouped hgrouped session hsession => session_startIds hsession
  rw [LoadedRuntimeExport.windows, List.map_flatMap, allStarts, List.map_flatMap, List.flatMap_def, List.flatMap_def, hall]

/-! ## Which records windows start at -/

theorem heads_sublist (k : Nat) (run : List Record) :
    (((List.range k).map fun i => run.drop (15 * i)).filterMap List.head?).Sublist run := by
  induction k generalizing run with
  | zero => exact List.nil_sublist _
  | succ k ih =>
    have hshift : (fun i => run.drop (15 * i)) ∘ Nat.succ = fun i => (run.drop 15).drop (15 * i) := by
      funext i
      rw [Function.comp_apply, List.drop_drop]
      congr 1
      omega
    have hrest := ih (run.drop 15)
    rw [List.range_succ_eq_map, List.map_cons, List.map_map, hshift]
    cases run with
    | nil => simp
    | cons first rest =>
      have htail : ((first :: rest).drop 15).Sublist rest := List.drop_sublist 14 rest
      exact (hrest.trans htail).cons_cons first

theorem starts_sublist (env : LoaderEnv) (run : List Record) : (starts env run).Sublist run := by
  unfold starts
  split
  · exact ((List.takeWhile_sublist _).filterMap _).trans (heads_sublist _ run)
  · exact List.nil_sublist _

theorem mem_takeWhile_range {α : Type} {p : α → Bool} (k : Nat) (f : Nat → α) {a : α} :
    a ∈ ((List.range k).map f).takeWhile p ↔ ∃ i < k, f i = a ∧ ∀ j ≤ i, p (f j) = true := by
  induction k generalizing f with
  | zero => simp
  | succ k ih =>
    rw [List.range_succ_eq_map, List.map_cons, List.map_map]
    by_cases hfirst : p (f 0) = true
    · rw [List.takeWhile_cons_of_pos hfirst, List.mem_cons, ih]
      constructor
      · rintro (rfl | ⟨i, hi, rfl, hall⟩)
        · refine ⟨0, Nat.succ_pos k, rfl, fun j hj => ?_⟩
          rw [Nat.le_zero.mp hj]
          exact hfirst
        · refine ⟨i + 1, Nat.succ_lt_succ hi, rfl, fun j hj => ?_⟩
          cases j with
          | zero => exact hfirst
          | succ j => exact hall j (Nat.le_of_succ_le_succ hj)
      · rintro ⟨i, hi, rfl, hall⟩
        cases i with
        | zero => exact .inl rfl
        | succ i =>
          exact .inr ⟨i, Nat.lt_of_succ_lt_succ hi, rfl, fun j hj => hall (j + 1) (Nat.succ_le_succ hj)⟩
    · rw [List.takeWhile_cons_of_neg hfirst]
      constructor
      · intro h
        cases h
      · rintro ⟨i, -, -, hall⟩
        exact absurd (hall 0 (Nat.zero_le i)) hfirst

theorem mem_starts {i : Nat} (hnodup : run.Nodup) (hsupervised : isSupervised run) (hstart : run[15 * i]? = some start) :
    start ∈ starts env run ↔ 15 * i + windowFrames ≤ run.length ∧ ∀ j ≤ i, resamples env (run.drop (15 * j)) = true := by
  obtain ⟨hlt, hget⟩ := List.getElem?_eq_some_iff.mp hstart
  have hcount : i < (run.length - 75) / 15 ↔ 15 * i + windowFrames ≤ run.length := by
    unfold windowFrames
    omega
  unfold starts candidates
  rw [if_pos hsupervised, List.mem_filterMap, ← hcount]
  constructor
  · rintro ⟨candidate, hcandidate, hhead⟩
    obtain ⟨k, hk, rfl, hall⟩ := (mem_takeWhile_range _ _).mp hcandidate
    rw [List.head?_drop] at hhead
    obtain ⟨hklt, hkget⟩ := List.getElem?_eq_some_iff.mp hhead
    have hsame : 15 * k = 15 * i := hnodup.getElem_inj_iff.mp (hkget.trans hget.symm)
    obtain rfl : k = i := by omega
    exact ⟨hk, hall⟩
  · rintro ⟨hi, hall⟩
    refine ⟨run.drop (15 * i), (mem_takeWhile_range _ _).mpr ⟨i, hi, rfl, hall⟩, ?_⟩
    rw [List.head?_drop]
    exact hstart

theorem sessionStarts_sublist (env : LoaderEnv) (grouped : List Record) :
    (sessionStarts env grouped).Sublist (ordered grouped) := by
  have hall : ∀ runs : List (List Record), (runs.flatMap (starts env)).Sublist runs.flatten := by
    intro runs
    induction runs with
    | nil => exact List.nil_sublist _
    | cons run rest ih =>
      rw [List.flatMap_cons, List.flatten_cons]
      exact (starts_sublist env run).append ih
  have hflatten : (labelRuns (ordered grouped)).flatten = ordered grouped :=
    List.flatten_splitBy (fun a b : Record => decide (a.label = b.label)) (ordered grouped)
  rw [← hflatten, sessionStarts]
  exact hall (labelRuns (ordered grouped))

theorem ordered_nodup (h : records.Nodup) (hgrouped : grouped ∈ groupedSessions records) : (ordered grouped).Nodup := by
  obtain ⟨session, -, rfl⟩ := List.mem_map.mp hgrouped
  exact (List.mergeSort_perm _ _).nodup_iff.mpr (h.sublist List.filter_sublist)

theorem nodup_eraseDups (sessions : List String) : sessions.eraseDups.Nodup := by
  induction hlength : sessions.length using Nat.strong_induction_on generalizing sessions with
  | _ n ih =>
    cases sessions with
    | nil => simp
    | cons session rest =>
      rw [List.eraseDups_cons, List.nodup_cons]
      constructor
      · rw [List.mem_eraseDups]
        simp
      · refine ih _ ?_ _ rfl
        rw [← hlength, List.length_cons]
        exact Nat.lt_succ_of_le (List.length_filter_le _ _)

theorem mem_sessionStarts_ordered (h : record ∈ sessionStarts env grouped) : record ∈ grouped :=
  mem_ordered.mp ((sessionStarts_sublist env grouped).subset h)

theorem allStarts_nodup (h : records.Nodup) : (allStarts env records).Nodup := by
  refine List.nodup_flatMap.mpr ⟨fun grouped hgrouped => ?_, ?_⟩
  · exact (ordered_nodup h hgrouped).sublist (sessionStarts_sublist env grouped)
  · unfold groupedSessions
    rw [List.pairwise_map]
    refine (nodup_eraseDups _).imp fun {session other} hne record hrecord hother => hne ?_
    have hsession := (List.mem_filter.mp (mem_sessionStarts_ordered hrecord)).2
    have hsame := (List.mem_filter.mp (mem_sessionStarts_ordered hother)).2
    exact (of_decide_eq_true hsession).symm.trans (of_decide_eq_true hsame)

theorem mem_archive_of_mem_allStarts (h : record ∈ allStarts env records) : record ∈ records := by
  obtain ⟨grouped, hgrouped, hrecord⟩ := List.mem_flatMap.mp h
  exact mem_groupedSessions hgrouped (mem_sessionStarts_ordered hrecord)

theorem mem_allStarts (h : records.Nodup) (hgrouped : grouped ∈ groupedSessions records)
    (hrun : run ∈ labelRuns (ordered grouped)) (hrecord : record ∈ run) :
    record ∈ allStarts env records ↔ record ∈ starts env run := by
  have hflatten : (labelRuns (ordered grouped)).flatten = ordered grouped :=
    List.flatten_splitBy (fun a b : Record => decide (a.label = b.label)) (ordered grouped)
  constructor
  · intro hstart
    obtain ⟨other, hother, hsession⟩ := List.mem_flatMap.mp hstart
    -- the record is in one session, and in one of its runs
    have hsame : other = grouped := by
      have hin : record ∈ grouped := mem_ordered.mp (hflatten ▸ List.mem_flatten_of_mem hrun hrecord)
      have hinOther := mem_sessionStarts_ordered hsession
      obtain ⟨first, -, rfl⟩ := List.mem_map.mp hgrouped
      obtain ⟨second, -, rfl⟩ := List.mem_map.mp hother
      have hfirst := of_decide_eq_true (List.mem_filter.mp hin).2
      have hsecond := of_decide_eq_true (List.mem_filter.mp hinOther).2
      rw [← hfirst, ← hsecond]
    subst hsame
    obtain ⟨run', hrun', hstart'⟩ := List.mem_flatMap.mp hsession
    have hnodup : (labelRuns (ordered other)).flatten.Nodup := by
      rw [hflatten]
      exact ordered_nodup h hgrouped
    by_cases hne : run' = run
    · rw [← hne]
      exact hstart'
    · have hsymm : Std.Symm (List.Disjoint : List Record → List Record → Prop) := ⟨fun _ _ hdisjoint _ hleft hright => hdisjoint hright hleft⟩
      have hdisjoint := (List.nodup_flatten.mp hnodup).2.forall hrun' hrun hne
      exact absurd hrecord (hdisjoint ((starts_sublist env run').subset hstart'))
  · intro hstart
    exact List.mem_flatMap.mpr ⟨grouped, hgrouped, List.mem_flatMap.mpr ⟨run, hrun, hstart⟩⟩

/-! ## Lost windows -/

def LoadedRuntimeExport.windowsAt (loaded : LoadedRuntimeExport) (start : Record) : Nat :=
  loaded.windows.countP fun window => window.startId = some start.sampleId

/-- At every fifteenth record of a supervised run from which on the rest of the run can be resampled there is one
window. -/
def NoneLost (env : LoaderEnv) (archive : Archive) (loaded : LoadedRuntimeExport) : Prop :=
  ∀ grouped ∈ groupedSessions archive.records, ∀ run ∈ labelRuns (ordered grouped), isSupervised run →
    ∀ i start, run[15 * i]? = some start → resamples env (run.drop (15 * i)) = true → loaded.windowsAt start = 1

/-- Where the rest of a supervised run can be resampled there are ninety records, and so it is at all starts before. -/
def RunsResample (env : LoaderEnv) (archive : Archive) : Prop :=
  ∀ grouped ∈ groupedSessions archive.records, ∀ run ∈ labelRuns (ordered grouped), isSupervised run →
    ∀ i, 15 * i < run.length → resamples env (run.drop (15 * i)) = true →
      15 * i + windowFrames ≤ run.length ∧ ∀ j < i, resamples env (run.drop (15 * j)) = true

theorem windowsAt_eq_one (hload : loadRuntimeExport env archive = .ok loaded) (hstart : start ∈ archive.records) :
    loaded.windowsAt start = 1 ↔ start ∈ allStarts env archive.records := by
  obtain ⟨-, -, hunique, -⟩ := loadRuntimeExport_ok_iff.mp hload
  have hids : ((allStarts env archive.records).map Record.sampleId).Nodup := by
    refine (allStarts_nodup hunique.of_map).map_on fun a ha b hb hsame => ?_
    exact List.inj_on_of_nodup_map hunique (mem_archive_of_mem_allStarts ha) (mem_archive_of_mem_allStarts hb) hsame
  have hcount : loaded.windowsAt start = ((allStarts env archive.records).map Record.sampleId).count start.sampleId := by
    have hwindows : loaded.windowsAt start =
        (loaded.windows.map Window.startId).countP fun id => id = some start.sampleId := by
      rw [LoadedRuntimeExport.windowsAt, List.countP_map]
      rfl
    rw [hwindows, loaded_startIds hload, List.countP_map, List.count_eq_countP, List.countP_map]
    refine List.countP_congr fun record hrecord => ?_
    simp
  rw [hcount]
  constructor
  · intro hone
    have hmem : start.sampleId ∈ (allStarts env archive.records).map Record.sampleId :=
      List.count_pos_iff.mp (by omega)
    obtain ⟨other, hother, hsame⟩ := List.mem_map.mp hmem
    rwa [List.inj_on_of_nodup_map hunique hstart (mem_archive_of_mem_allStarts hother) hsame.symm]
  · intro hmem
    exact List.count_eq_one_of_mem hids (List.mem_map_of_mem hmem)

/-- No window is lost exactly if the starts of a run can be resampled one after the other, while ninety records are
left. -/
theorem windows_lost (hload : loadRuntimeExport env archive = .ok loaded) :
    NoneLost env archive loaded ↔ RunsResample env archive := by
  obtain ⟨-, -, hunique, -⟩ := loadRuntimeExport_ok_iff.mp hload
  have hnodup : archive.records.Nodup := hunique.of_map
  -- where a window starts, said of the run
  have hone : ∀ grouped ∈ groupedSessions archive.records, ∀ run ∈ labelRuns (ordered grouped), isSupervised run →
      ∀ i start, run[15 * i]? = some start → (loaded.windowsAt start = 1 ↔
        15 * i + windowFrames ≤ run.length ∧ ∀ j ≤ i, resamples env (run.drop (15 * j)) = true) := by
    intro grouped hgrouped run hrun hsupervised i start hstart
    have hflatten : (labelRuns (ordered grouped)).flatten = ordered grouped :=
      List.flatten_splitBy (fun a b : Record => decide (a.label = b.label)) (ordered grouped)
    have hrecord : start ∈ run := List.mem_of_getElem? hstart
    have hordered : start ∈ ordered grouped := hflatten ▸ List.mem_flatten_of_mem hrun hrecord
    have hrunNodup : run.Nodup := by
      have hall := ordered_nodup hnodup hgrouped
      rw [← hflatten] at hall
      exact (List.nodup_flatten.mp hall).1 run hrun
    rw [windowsAt_eq_one hload (mem_groupedSessions hgrouped (mem_ordered.mp hordered)),
      mem_allStarts hnodup hgrouped hrun hrecord, mem_starts hrunNodup hsupervised hstart]
  constructor
  · intro hlost grouped hgrouped run hrun hsupervised i hi hresamples
    have hstart : run[15 * i]? = some run[15 * i] := List.getElem?_eq_getElem hi
    obtain ⟨hlong, hall⟩ := (hone grouped hgrouped run hrun hsupervised i _ hstart).mp
      (hlost grouped hgrouped run hrun hsupervised i _ hstart hresamples)
    exact ⟨hlong, fun j hj => hall j hj.le⟩
  · intro hruns grouped hgrouped run hrun hsupervised i start hstart hresamples
    obtain ⟨hi, -⟩ := List.getElem?_eq_some_iff.mp hstart
    obtain ⟨hlong, hearlier⟩ := hruns grouped hgrouped run hrun hsupervised i hi hresamples
    refine (hone grouped hgrouped run hrun hsupervised i start hstart).mpr ⟨hlong, fun j hj => ?_⟩
    rcases Nat.lt_or_eq_of_le hj with hlt | rfl
    · exact hearlier j hlt
    · exact hresamples

theorem windows_lost_steady : ∃ archive loaded, loadRuntimeExport Sample.loader archive = .ok loaded ∧
    (NoneLost Sample.loader archive loaded ↔ RunsResample Sample.loader archive) := by
  obtain ⟨archive, phase, entries, loaded, -, -, -, -, hload, -⟩ :=
    @Sample.exists_window 66666667 90 (by decide) (by decide) (by decide) (by decide) (by decide)
  exact ⟨archive, loaded, hload, windows_lost hload⟩

/-- Eighty frames in six and a half seconds can be resampled from the first on, and give no window. -/
theorem windows_lost_slow : ∃ archive loaded, loadRuntimeExport Sample.loader archive = .ok loaded ∧
    ¬ NoneLost Sample.loader archive loaded := by
  obtain ⟨archive, phase, entries, htimeline, hexport, hbuild, h, hlabels⟩ :=
    @Sample.exists_archive 80000000 80 Sample.present (by decide) (by decide)
  obtain ⟨hframes, hdistinct⟩ := @Sample.frames_accepted 80000000 (by decide) 80 Sample.present
  obtain ⟨hbounded, hfits, hsingle⟩ := Sample.loadable (by decide) h
  obtain ⟨loaded, hload, -⟩ := trains_of_loadable h hlabels rfl (fun observation hmem => (hframes observation hmem).1)
    hdistinct ((validate_built hbuild).mpr hbounded) hfits hsingle
  refine ⟨archive, loaded, hload, fun hlost => ?_⟩
  obtain ⟨-, -, hunique, -⟩ := loadRuntimeExport_ok_iff.mp hload
  have hlength := Sample.records_length h
  obtain ⟨hnormal, hruns⟩ := Sample.labels_normal rfl (by decide) (by decide) h
  have hgrouped : archive.records ∈ groupedSessions archive.records := by
    rw [h.grouped]
    exact List.mem_singleton_self _
  have hrun : archive.records ∈ labelRuns (ordered archive.records) := by
    rw [h.ordered hdistinct, hruns]
    exact List.mem_singleton_self _
  have hsupervised := Sample.supervised (List.ne_nil_of_length_pos (by omega)) hnormal
  have hstart : archive.records[15 * 0]? = some archive.records[15 * 0] := List.getElem?_eq_getElem (by omega)
  have hresamples : resamples Sample.loader (archive.records.drop (15 * 0)) = true := by
    obtain ⟨tensor, htensor⟩ := @Sample.exists_tensor 80000000 80 (by decide) (by decide) (by decide)
    unfold resamples
    rw [Nat.mul_zero, List.drop_zero, Sample.records_source h (by decide)]
    dsimp only
    rw [htensor]
    rfl
  have hone := hlost archive.records hgrouped archive.records hrun hsupervised 0 _ hstart hresamples
  have hmem : archive.records[15 * 0] ∈ archive.records := List.getElem_mem _
  rw [windowsAt_eq_one hload hmem, mem_allStarts hunique.of_map hgrouped hrun hmem,
    mem_starts hunique.of_map hsupervised hstart] at hone
  have hlong := hone.1
  unfold windowFrames at hlong
  omega

end PduExamObserver.Training
