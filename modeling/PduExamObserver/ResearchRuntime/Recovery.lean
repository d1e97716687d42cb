import Mathlib.Data.Finset.Max
import PduExamObserver.ResearchRuntime.Invariants

/-! # Recovering a recording

The recovery renames what a recording has left behind. A recovery that is interrupted runs again in the next process,
over the names that the first one has left. -/

namespace PduExamObserver.ResearchRuntime
open Stateful Transition
set_option autoImplicit false

variable {setup : Setup} {w : World} {c after : Collection} {name : String} {moved : List String}

/-! ## Names of quarantines -/

theorem quarantined_toList (name : String) : (quarantined name).toList = name.toList ++ ".quarantine".toList :=
  String.toList_append

theorem quarantined_isPartial (h : isPartial name = true) : isPartial (quarantined name) = true := by
  unfold isPartial at h ⊢
  rw [decide_eq_true_iff] at h ⊢
  rw [quarantined_toList]
  exact h.trans (List.prefix_append _ _).isInfix

theorem quarantined_longer (name : String) : name.length < (quarantined name).length := by
  have hlength : (quarantined name).length = name.length + ".quarantine".length := String.length_append _ _
  have hsuffix : ".quarantine".length = 11 := by decide
  omega

theorem isPartial_of_partialNames (h : name ∈ partialNames) : isPartial name = true := by
  have hall : ∀ name ∈ partialNames, isPartial name = true := by decide +kernel
  exact hall name h

theorem isPartial_of_finalNames (h : name ∈ finalNames) : isPartial name = false := by
  have hall : ∀ name ∈ finalNames, isPartial name = false := by decide +kernel
  exact hall name h

theorem twice_not_owned (name : String) : quarantined (quarantined name) ∉ runtimeNames := by
  have hall : ∀ owned ∈ runtimeNames, ¬ (".quarantine".toList ++ ".quarantine".toList <:+ owned.toList) := by
    decide +kernel
  intro howned
  refine hall _ howned ?_
  rw [quarantined_toList, quarantined_toList, List.append_assoc]
  exact List.suffix_append _ _

theorem Collection.Quarantines.longest (h : c.Quarantines moved after) {P : String → Prop}
    (hP : ∀ name, P name → P (quarantined name)) (hsome : ∃ name ∈ moved, P name) :
    ∃ name ∈ moved, P name ∧ quarantined name ∈ after.names := by
  classical
  obtain ⟨name, hname, hPname⟩ := hsome
  have hnonempty : (moved.toFinset.filter P).Nonempty := ⟨name, by simp [hname, hPname]⟩
  obtain ⟨longest, hmem, hmax⟩ := Finset.exists_max_image _ String.length hnonempty
  rw [Finset.mem_filter, List.mem_toFinset] at hmem
  refine ⟨longest, hmem.1, hmem.2, h.renamed longest hmem.1 fun hagain => ?_⟩
  have hle := hmax (quarantined longest) (by simp [hagain, hP longest hmem.2])
  have hlt := quarantined_longer longest
  omega

/-! ## Recoveries -/

def recoverAgain (faults : List Fault) (c : Collection) : Collection :=
  recover none (faults.foldl (fun c fault => recover (some fault) c.restarted) c).restarted

/-- The interrupted recoveries come to the row and the names of one that is not, and a withdrawal accepts the names. -/
structure Recovers (faults : List Fault) (c : Collection) : Prop where
  session : (recoverAgain faults c).session = (recoverAgain [] c).session
  names : ∀ name, name ∈ (recoverAgain faults c).names ↔ name ∈ (recoverAgain [] c).names
  owned : ∀ name ∈ (recoverAgain faults c).names, name ∈ runtimeNames

structure Collection.Unrecovered (c after : Collection) : Prop where
  session : after.session = c.session
  fresh : after.fresh = c.fresh
  names : ∀ name, name ∈ after.names ↔ name ∈ c.names
  nodup : after.names.Nodup

theorem mem_partials : name ∈ c.partials ↔ name ∈ c.names ∧ isPartial name = true := List.mem_filter

theorem recover_idle {d : Collection} (h : c.Unrecovered d) (hstate : c.session.state = .recording)
    (fault : Fault) (hidle : d.partials = [] ∨ fault.steps = 0) : c.Unrecovered (recover (some fault) d.restarted) := by
  have hrecording : d.restarted.session.state = .recording := (congrArg Session.state h.session).trans hstate
  obtain ⟨moved, hmoved, hrun, hquarantines⟩ := recover_run (some fault) hrecording h.nodup
  rw [hrun]
  have hnone : d.restarted.partials.take fault.steps = [] := by
    rcases hidle with hempty | hzero
    · rw [show d.restarted.partials = [] from hempty, List.take_nil]
    · rw [hzero, List.take_zero]
  dsimp only at hquarantines
  rw [hnone] at hquarantines
  refine ⟨hmoved.session.trans h.session, hmoved.fresh.trans h.fresh, fun name => ?_, hmoved.nodup h.nodup⟩
  rw [← h.names name]
  constructor
  · intro hname
    rcases hquarantines.origin_name name hname with ⟨hold, -⟩ | ⟨old, hold, -⟩
    · exact hold
    · exact absurd hold List.not_mem_nil
  · exact fun hname => hquarantines.stays name hname List.not_mem_nil

theorem recover_names {d : Collection} (hstate : d.session.state = .recording) (hnodup : d.names.Nodup)
    (hnames : ∀ name ∈ d.names, name ∈ finalNames ∨ name ∈ partialNames) :
    name ∈ (recover none d.restarted).names ↔
      name ∈ d.names ∧ isPartial name = false ∨ ∃ old ∈ d.partials, name = quarantined old := by
  obtain ⟨moved, hmoved, hrun, hquarantines⟩ := recover_run (c := d.restarted) none hstate hnodup
  rw [hrun]
  have hrecovered : ((if (none : Option Fault).isNone then moved.recovered else moved) : Collection).names = moved.names := rfl
  rw [hrecovered]
  have hpartials : ∀ old ∈ d.partials, quarantined old ∉ d.partials := by
    intro old hold hagain
    rcases hnames _ (mem_partials.mp hagain).1 with hfinal | hpartial
    · exact absurd (isPartial_of_finalNames hfinal) (by simp [(mem_partials.mp hagain).2])
    · have hall : ∀ name ∈ partialNames, ¬ (".quarantine".toList <:+ name.toList) := by decide +kernel
      refine hall _ hpartial ?_
      rw [quarantined_toList]
      exact List.suffix_append _ _
  constructor
  · intro hname
    rcases hquarantines.origin_name name hname with ⟨hold, hnot⟩ | hnew
    · refine .inl ⟨hold, Bool.eq_false_iff.mpr fun hpartial => hnot (mem_partials.mpr ⟨hold, hpartial⟩)⟩
    · exact .inr hnew
  · rintro (⟨hold, hfinal⟩ | ⟨old, hold, rfl⟩)
    · refine hquarantines.stays name hold fun hpartial => ?_
      rw [(mem_partials.mp hpartial).2] at hfinal
      cases hfinal
    · exact hquarantines.renamed old hold (hpartials old hold)

/-! ## Renamed twice -/

def Collection.Marked (c : Collection) : Prop := ∃ name ∈ c.names, ∃ old, isPartial old = true ∧ name = quarantined old

theorem recover_marks_again (h : c.Marked) (hstate : c.session.state = .recording) (hnodup : c.names.Nodup)
    (fault : Fault) : (recover (some fault) c.restarted).Marked := by
  obtain ⟨moved, hmoved, hrun, hquarantines⟩ := recover_run (c := c.restarted) (some fault) hstate hnodup
  rw [hrun]
  obtain ⟨name, hname, old, hold, rfl⟩ := h
  by_cases hmem : quarantined old ∈ c.restarted.partials.take fault.steps
  · obtain ⟨longest, hlongest, hpartial, hput⟩ := hquarantines.longest (P := fun name => isPartial name = true)
      (fun _ => quarantined_isPartial) ⟨_, hmem, quarantined_isPartial hold⟩
    exact ⟨_, hput, longest, hpartial, rfl⟩
  · exact ⟨_, hquarantines.stays _ hname hmem, old, hold, rfl⟩

theorem recover_marks (hpartials : c.partials ≠ []) (hstate : c.session.state = .recording) (hnodup : c.names.Nodup)
    {fault : Fault} (hsteps : fault.steps ≠ 0) : (recover (some fault) c.restarted).Marked := by
  obtain ⟨moved, hmoved, hrun, hquarantines⟩ := recover_run (c := c.restarted) (some fault) hstate hnodup
  rw [hrun]
  have hsome : ∃ name ∈ c.restarted.partials.take fault.steps, isPartial name = true := by
    have htake : c.restarted.partials.take fault.steps ≠ [] := by
      rw [Ne, List.take_eq_nil_iff, not_or]
      exact ⟨hsteps, hpartials⟩
    obtain ⟨name, hname⟩ := List.exists_mem_of_ne_nil _ htake
    exact ⟨name, hname, (mem_partials.mp (List.mem_of_mem_take hname)).2⟩
  obtain ⟨longest, -, hpartial, hput⟩ := hquarantines.longest (P := fun name => isPartial name = true)
    (fun _ => quarantined_isPartial) hsome
  exact ⟨_, hput, longest, hpartial, rfl⟩

theorem recover_twice (h : c.Marked) (hstate : c.session.state = .recording) (hnodup : c.names.Nodup) :
    ∃ name ∈ (recover none c.restarted).names, name ∉ runtimeNames := by
  obtain ⟨moved, hmoved, hrun, hquarantines⟩ := recover_run (c := c.restarted) none hstate hnodup
  rw [hrun]
  obtain ⟨name, hname, old, hold, rfl⟩ := h
  have hmem : quarantined old ∈ c.restarted.partials := mem_partials.mpr ⟨hname, quarantined_isPartial hold⟩
  obtain ⟨longest, -, ⟨old, -, rfl⟩, hput⟩ := hquarantines.longest
    (P := fun name => ∃ old, isPartial old = true ∧ name = quarantined old)
    (fun name ⟨old, hold, h⟩ => ⟨name, by rw [h]; exact quarantined_isPartial hold, rfl⟩) ⟨_, hmem, old, hold, rfl⟩
  exact ⟨_, hput, twice_not_owned old⟩

theorem recover_interrupted (hstate : c.session.state = .recording) (hnodup : c.names.Nodup) (fault : Fault) :
    (recover (some fault) c.restarted).session.state = .recording ∧ (recover (some fault) c.restarted).names.Nodup := by
  obtain ⟨moved, hmoved, hrun, -⟩ := recover_run (c := c.restarted) (some fault) hstate hnodup
  rw [hrun]
  exact ⟨(congrArg Session.state hmoved.session).trans hstate, hmoved.nodup hnodup⟩

theorem recoverAgain_unowned (faults : List Fault) (hstate : c.session.state = .recording) (hnodup : c.names.Nodup)
    (h : c.Marked ∨ c.partials ≠ [] ∧ ∃ fault ∈ faults, fault.steps ≠ 0) :
    ∃ name ∈ (recoverAgain faults c).names, name ∉ runtimeNames := by
  induction faults generalizing c with
  | nil =>
    rcases h with hmarked | ⟨-, fault, hfault, -⟩
    · exact recover_twice hmarked hstate hnodup
    · exact absurd hfault List.not_mem_nil
  | cons fault rest ih =>
    obtain ⟨hstateNext, hnodupNext⟩ := recover_interrupted hstate hnodup fault
    refine ih hstateNext hnodupNext ?_
    rcases h with hmarked | ⟨hpartials, other, hother, hsteps⟩
    · exact .inl (recover_marks_again hmarked hstate hnodup fault)
    · by_cases hzero : fault.steps = 0
      · have hrest : other ∈ rest := by
          rcases List.mem_cons.mp hother with rfl | hrest
          · exact absurd hzero hsteps
          · exact hrest
        have hidle := recover_idle (c := c) ⟨rfl, rfl, fun _ => Iff.rfl, hnodup⟩ hstate fault (.inr hzero)
        refine .inr ⟨fun hempty => hpartials ?_, other, hrest, hsteps⟩
        rw [List.eq_nil_iff_forall_not_mem] at hempty ⊢
        intro name hname
        refine hempty name (mem_partials.mpr ⟨(hidle.names name).mpr (mem_partials.mp hname).1, (mem_partials.mp hname).2⟩)
      · exact .inl (recover_marks hpartials hstate hnodup hzero)

/-! ## Crash safety -/

theorem unrecovered_foldl {d : Collection} (faults : List Fault) (h : c.Unrecovered d)
    (hstate : c.session.state = .recording) (hidle : c.partials = [] ∨ ∀ fault ∈ faults, fault.steps = 0) :
    c.Unrecovered (faults.foldl (fun c fault => recover (some fault) c.restarted) d) := by
  induction faults generalizing d with
  | nil => exact h
  | cons fault rest ih =>
    refine ih (recover_idle h hstate fault ?_) (hidle.imp_right fun hall other hother => hall other (List.mem_cons_of_mem _ hother))
    rcases hidle with hempty | hall
    · left
      rw [List.eq_nil_iff_forall_not_mem] at hempty ⊢
      intro name hname
      obtain ⟨hmem, hpartial⟩ := mem_partials.mp hname
      exact hempty name (mem_partials.mpr ⟨(h.names name).mp hmem, hpartial⟩)
    · exact .inr (hall fault List.mem_cons_self)

theorem recovers_of_idle (faults : List Fault) (hstate : c.session.state = .recording) (hnodup : c.names.Nodup)
    (hnames : ∀ name ∈ c.names, name ∈ finalNames ∨ name ∈ partialNames)
    (hidle : c.partials = [] ∨ ∀ fault ∈ faults, fault.steps = 0) : Recovers faults c := by
  have hunrecovered := unrecovered_foldl faults ⟨rfl, rfl, fun _ => Iff.rfl, hnodup⟩ hstate hidle
  obtain ⟨d, hd⟩ : ∃ d, d = faults.foldl (fun c fault => recover (some fault) c.restarted) c := ⟨_, rfl⟩
  rw [← hd] at hunrecovered
  have hagain : recoverAgain faults c = recover none d.restarted := by rw [recoverAgain, ← hd]
  have hstateD : d.session.state = .recording := (congrArg Session.state hunrecovered.session).trans hstate
  have hmem : ∀ name, name ∈ (recoverAgain faults c).names ↔
      name ∈ c.names ∧ isPartial name = false ∨ ∃ old ∈ c.partials, name = quarantined old := by
    intro name
    rw [hagain, recover_names hstateD hunrecovered.nodup fun name h => hnames name ((hunrecovered.names name).mp h)]
    simp only [mem_partials, hunrecovered.names]
  refine ⟨?_, fun name => ?_, fun name hname => ?_⟩
  · obtain ⟨moved, hmoved, hrun, -⟩ := recover_run (c := d.restarted) none hstateD hunrecovered.nodup
    obtain ⟨straight, hstraight, hrunStraight, -⟩ := recover_run (c := c.restarted) none hstate hnodup
    have hrecovered : ∀ moved : Collection, moved.session = c.session → moved.fresh = c.fresh →
        moved.recovered.session = c.recovered.session := by
      intro moved hsession hfresh
      unfold Collection.recovered Collection.logged
      rw [hsession, hfresh]
    rw [hagain, hrun, show recoverAgain [] c = _ from hrunStraight]
    exact (hrecovered moved (hmoved.session.trans hunrecovered.session) (hmoved.fresh.trans hunrecovered.fresh)).trans
      (hrecovered straight hstraight.session hstraight.fresh).symm
  · rw [hmem name, show recoverAgain [] c = recover none c.restarted from rfl, recover_names hstate hnodup hnames]
  · rcases (hmem name).mp hname with ⟨hold, hfinal⟩ | ⟨old, hold, rfl⟩
    · rcases hnames name hold with hmem | hmem
      · exact List.mem_append_left _ (List.mem_append_left _ hmem)
      · rw [isPartial_of_partialNames hmem] at hfinal
        cases hfinal
    · obtain ⟨hmem, hpartial⟩ := mem_partials.mp hold
      rcases hnames old hmem with hmem | hmem
      · rw [isPartial_of_finalNames hmem] at hpartial
        cases hpartial
      · exact List.mem_append_right _ (List.mem_map_of_mem hmem)

/-- A recording that is left behind: each file has a name of its own that a recording gives. -/
structure Collection.LeftBehind (c : Collection) : Prop where
  state : c.session.state = .recording
  nodup : c.names.Nodup
  names : ∀ name ∈ c.names, name ∈ finalNames ∨ name ∈ partialNames

/-- What a process leaves behind of a recording. The recoveries of it, of which all but the last are interrupted, are
crash safe exactly if there is nothing to rename, or none of them has renamed a file before it was interrupted. -/
theorem recover_crash_safe_iff (setup : Setup) :
    (∀ w, Reachable (service setup) w → w.running = true → ∀ c ∈ w.collections, c.session.state = .recording →
      c.LeftBehind) ∧
    ∀ c : Collection, c.LeftBehind → ∀ faults : List Fault,
      (Recovers faults c ↔ c.partials = [] ∨ ∀ fault ∈ faults, fault.steps = 0) := by
  refine ⟨fun w h hrunning c hmem hstate => ⟨hstate, (reachable_sound h c hmem).nodup, ?_⟩, fun c hleft faults => ?_⟩
  · exact reachable_names h c hmem (by rw [hstate]; rfl) fun _ => hrunning
  constructor
  · intro hrecovers
    by_contra hidle
    rw [not_or, not_forall] at hidle
    obtain ⟨hpartials, fault, hfault⟩ := hidle
    obtain ⟨hfault, hsteps⟩ := Classical.not_imp.mp hfault
    obtain ⟨name, hname, hunowned⟩ :=
      recoverAgain_unowned faults hleft.state hleft.nodup (.inr ⟨hpartials, fault, hfault, hsteps⟩)
    exact hunowned (hrecovers.owned name hname)
  · exact recovers_of_idle faults hleft.state hleft.nodup hleft.names

/-- The recovery of the sample recording is interrupted after its first renaming: the next one renames that file
again, to a name that no withdrawal accepts. -/
theorem recover_renames_twice : ∃ c ∈ (Sample.run Sample.recording).collections, c.session.state = .recording ∧
    "raw_video.partial.avi.quarantine.quarantine" ∈ (recoverAgain [⟨1, true⟩] c).names ∧
    "raw_video.partial.avi.quarantine.quarantine" ∉ (recoverAgain [] c).names ∧
    "raw_video.partial.avi.quarantine.quarantine" ∉ runtimeNames := by
  decide +kernel

/-- The recovery of the sample recording is interrupted before its first renaming. -/
theorem recover_crash_safe_sample : ∃ c ∈ (Sample.run Sample.recording).collections, Recovers [⟨0, true⟩] c := by
  have hsample : (Sample.run Sample.recording).running = true ∧
      ∃ c ∈ (Sample.run Sample.recording).collections, c.session.state = .recording := by
    decide +kernel
  obtain ⟨hrunning, c, hmem, hstate⟩ := hsample
  have hleft := (recover_crash_safe_iff Sample.setup).1 _ (Sample.run_reachable _) hrunning c hmem hstate
  exact ⟨c, hmem, ((recover_crash_safe_iff Sample.setup).2 c hleft _).mpr (.inr (by simp))⟩

end PduExamObserver.ResearchRuntime
