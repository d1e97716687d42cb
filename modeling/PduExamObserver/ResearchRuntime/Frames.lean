import PduExamObserver.ResearchRuntime.Emission

/-! # Writing frames

A frame is written completely, or the stream and the files keep a part of it and the service is told. -/

namespace PduExamObserver.ResearchRuntime
open Showcase Stateful
set_option autoImplicit false

variable {c after : Collection}

/-! ## Directories -/

variable {content : Content} {file : String × Content} {name : String}

namespace Directory

variable {directory : Directory}

theorem mem_erase :
    file ∈ directory.erase name ↔ file ∈ directory ∧ file.1 ≠ name := by
  simp [erase]

theorem mem_put :
    file ∈ directory.put name content ↔ (file ∈ directory ∧ file.1 ≠ name) ∨ file = (name, content) := by
  rw [put, List.mem_append, mem_erase, List.mem_singleton]

theorem nodup_put (h : (directory.map Prod.fst).Nodup) (name : String) (content : Content) :
    ((directory.put name content).map Prod.fst).Nodup := by
  rw [put, List.map_append, List.nodup_append]
  refine ⟨(List.filter_sublist.map Prod.fst).nodup h, List.nodup_singleton _, ?_⟩
  intro old hold new hnew heq
  obtain ⟨file, hfile, rfl⟩ := List.mem_map.mp hold
  rw [List.map_singleton, List.mem_singleton] at hnew
  exact (mem_erase.mp hfile).2 (heq.trans hnew)

theorem lookup_erase (directory : Directory) (name other : String) :
    (directory.erase name).lookup other = if other = name then none else directory.lookup other := by
  induction directory with
  | nil => simp [erase]
  | cons file rest ih =>
    obtain ⟨first, content⟩ := file
    rw [erase] at ih ⊢
    by_cases hfirst : first = name
    · rw [List.filter_cons_of_neg (by simp [hfirst]), ih, hfirst, List.lookup_cons]
      by_cases hother : other = name
      · rw [if_pos hother, if_pos hother]
      · rw [if_neg hother, if_neg hother, beq_false_of_ne hother]
    · rw [List.filter_cons_of_pos (by simp [hfirst]), List.lookup_cons, List.lookup_cons, ih]
      by_cases hother : other = first
      · simp [hother, hfirst]
      · rw [beq_false_of_ne hother]

theorem lookup_put (directory : Directory) (name other : String) (content : Content) :
    (directory.put name content).lookup other = if other = name then some content else directory.lookup other := by
  rw [put, List.lookup_append, lookup_erase]
  by_cases hother : other = name
  · rw [if_pos hother, if_pos hother, hother]
    simp
  · rw [if_neg hother, if_neg hother, List.lookup_cons, beq_false_of_ne hother]
    simp

end Directory

/-! ## Opening the stream -/

def Collection.filed (c : Collection) (name : String) (content : Content) : Collection :=
  { c with directory := c.directory.map fun directory => directory.put name content }

@[simp] theorem putFile_run (name : String) (content : Content) (c : Collection) :
    (putFile name content).run c = .ok () (c.filed name content) := rfl

theorem mem_filed (h : file ∈ (c.filed name content).files) : file ∈ c.files ∨ file = (name, content) := by
  unfold Collection.files Collection.filed at h
  cases hdirectory : c.directory with
  | none => simp [hdirectory] at h
  | some directory =>
    rw [hdirectory] at h
    rcases Directory.mem_put.mp h with ⟨hmem, -⟩ | hnew
    · left
      rw [Collection.files, hdirectory]
      exact hmem
    · exact .inr hnew

theorem filed_nodup (h : c.names.Nodup) (name : String) (content : Content) : (c.filed name content).names.Nodup := by
  unfold Collection.names Collection.files Collection.filed at *
  cases hdirectory : c.directory with
  | none => simp
  | some directory =>
    rw [hdirectory] at h
    exact Directory.nodup_put h name content

theorem names_congr (h : after.directory = c.directory) : after.names = c.names := by
  unfold Collection.names Collection.files
  rw [h]

theorem filed_lookup (hdirectory : c.directory.isSome = true) (name other : String) (content : Content) :
    (c.filed name content).files.lookup other = if other = name then some content else c.files.lookup other := by
  obtain ⟨directory, hsome⟩ := Option.isSome_iff_exists.mp hdirectory
  unfold Collection.files Collection.filed
  rw [hsome]
  exact Directory.lookup_put directory name other content

theorem hasFile_directory (h : c.hasFile name = true) : c.directory.isSome = true := by
  unfold Collection.hasFile Collection.files at h
  cases hdirectory : c.directory with
  | none => simp [hdirectory] at h
  | some directory => rfl

def canOpen (env : WriteEnv) (c : Collection) : Prop :=
  env.encoder = .opened ∧ c.directory.isSome = true ∧ env.poseOpens = true ∧ c.hasFile posePartial = false

def Collection.writable (c : Collection) : Prop := c.memory.stream.isSome = true ∨ c.hasFile posePartial = false

structure Collection.Writes (observation : Observation) (c after : Collection) : Prop where
  session : after.session = c.session
  memory : after.memory = { c.memory with stream := after.memory.stream }
  directory : after.directory.isSome = c.directory.isSome
  quarantine : after.quarantine = c.quarantine
  worker : after.worker = c.worker
  fresh : after.fresh = c.fresh
  names : ∀ name ∈ after.names, name ∈ c.names ∨ name = videoPartial ∨ name = posePartial
  nodup : c.names.Nodup → after.names.Nodup
  contents : ∀ file ∈ after.files, file ∈ c.files ∨ file.2.lines = [] ∨ file.2.lines = c.partialLines ∨
    file.2.lines = c.partialLines ++ [observation] ∧ c.writable
  opened : c.memory.stream.isSome = true → after.memory.stream.isSome = true
  present : c.hasFile posePartial = true → after.hasFile posePartial = true

namespace Collection.Writes

variable {observation : Observation}

theorem refl (c : Collection) : c.Writes observation c where
  session := rfl
  memory := rfl
  directory := rfl
  quarantine := rfl
  worker := rfl
  fresh := rfl
  names _ := .inl
  nodup := id
  contents _ h := .inl h
  opened := id
  present := id

theorem trans {a b c : Collection} (hab : a.Writes observation b) (hbc : b.Writes observation c)
    (hlines : b.partialLines = a.partialLines) (hopened : b.memory.stream.isSome = true → a.writable) :
    a.Writes observation c where
  session := hbc.session.trans hab.session
  memory := by
    have h := hbc.memory
    rw [hab.memory] at h
    exact h
  directory := hbc.directory.trans hab.directory
  quarantine := hbc.quarantine.trans hab.quarantine
  worker := hbc.worker.trans hab.worker
  fresh := hbc.fresh.trans hab.fresh
  names name h := (hbc.names name h).elim (hab.names name) .inr
  nodup h := hbc.nodup (hab.nodup h)
  contents file h := by
    rcases hbc.contents file h with hold | hempty | hsame | ⟨happended, hwritable⟩
    · exact hab.contents file hold
    · exact .inr (.inl hempty)
    · exact .inr (.inr (.inl (hsame.trans hlines)))
    · refine .inr (.inr (.inr ⟨by rw [happended, hlines], ?_⟩))
      rcases hwritable with hsome | habsent
      · exact hopened hsome
      · exact .inr (Bool.eq_false_iff.mpr fun hfile => Bool.eq_false_iff.mp habsent (hab.present hfile))
  opened h := hbc.opened (hab.opened h)
  present h := hbc.present (hab.present h)

theorem put (c : Collection) (hname : name = videoPartial ∨ name = posePartial)
    (hcontent : content.lines = [] ∨ content.lines = c.partialLines ∨
      content.lines = c.partialLines ++ [observation] ∧ c.writable) :
    c.Writes observation (c.filed name content) where
  session := rfl
  memory := rfl
  directory := by simp [Collection.filed]
  quarantine := rfl
  worker := rfl
  fresh := rfl
  names other h := by
    obtain ⟨file, hfile, rfl⟩ := List.mem_map.mp h
    rcases mem_filed hfile with hold | rfl
    · exact .inl (List.mem_map_of_mem hold)
    · exact .inr hname
  nodup h := filed_nodup h name content
  contents file h := by
    rcases mem_filed h with hold | rfl
    · exact .inl hold
    · exact .inr hcontent
  opened := id
  present h := by
    rw [Collection.hasFile, filed_lookup (hasFile_directory h)]
    split
    · rfl
    · exact h

theorem stream (c : Collection) (stream : ArtifactStream) :
    c.Writes observation { c with memory := { c.memory with stream := some stream } } where
  session := rfl
  memory := rfl
  directory := rfl
  quarantine := rfl
  worker := rfl
  fresh := rfl
  names _ := .inl
  nodup := id
  contents _ h := .inl h
  opened _ := rfl
  present := id

end Collection.Writes

/-! ## Writing a frame -/

theorem partialLines_of_absent (h : c.hasFile posePartial = false) : c.partialLines = [] := by
  unfold Collection.hasFile at h
  unfold Collection.partialLines
  rw [Option.isSome_eq_false_iff, Option.isNone_iff_eq_none] at h
  rw [h]
  rfl

def Collection.streamed (c : Collection) (capturedNs : Int) : Collection :=
  let filed := (c.filed videoPartial (.video [])).filed posePartial (.timeline [] false)
  { filed with memory := { c.memory with stream := some { originNs := capturedNs } } }

theorem filed_partialLines (c : Collection) (name : String) (content : Content) :
    (c.filed name content).partialLines =
      if name = posePartial ∧ c.directory.isSome = true then content.lines else c.partialLines := by
  unfold Collection.partialLines
  cases hdirectory : c.directory with
  | none => simp [Collection.files, Collection.filed, hdirectory]
  | some directory =>
    rw [filed_lookup (by simp [hdirectory])]
    by_cases hname : name = posePartial
    · simp [hname]
    · rw [if_neg (Ne.symm hname), if_neg (by simp [hname])]

theorem streamed_partialLines (h : c.hasFile posePartial = false) (capturedNs : Int) :
    (c.streamed capturedNs).partialLines = c.partialLines := by
  have hfiled : ((c.filed videoPartial (.video [])).filed posePartial (.timeline [] false)).partialLines =
      c.partialLines := by
    rw [filed_partialLines, filed_partialLines, partialLines_of_absent h]
    simp [Content.lines]
  exact hfiled

theorem streamed_writes (observation : Observation) (h : c.hasFile posePartial = false) (capturedNs : Int) :
    c.Writes observation (c.streamed capturedNs) := by
  have hvideo : (c.filed videoPartial (.video [])).partialLines = c.partialLines := by
    rw [filed_partialLines, if_neg (by simp [videoPartial, posePartial])]
  have hopened : c.Writes observation (c.filed videoPartial (.video [])) := .put c (.inl rfl) (.inl rfl)
  have hfiles : c.Writes observation ((c.filed videoPartial (.video [])).filed posePartial (.timeline [] false)) :=
    hopened.trans (.put _ (.inr rfl) (.inl rfl)) hvideo fun _ => .inr h
  exact hfiles.trans (.stream _ { originNs := capturedNs }) (streamed_partialLines h capturedNs) fun _ => .inr h

theorem openStream_run (env : WriteEnv) (observation : Observation) (c : Collection) :
    (canOpen env c ∧
      (openStream env observation.capturedNs).run c =
        .ok { originNs := observation.capturedNs } (c.streamed observation.capturedNs)) ∨
    (¬ canOpen env c ∧ ∃ e after, (openStream env observation.capturedNs).run c = .error e after ∧
      e.isArtifactError = true ∧ c.Writes observation after ∧ after.memory = c.memory) := by
  unfold openStream
  by_cases hunavailable : env.encoder = .unavailable
  · rw [if_pos hunavailable]
    exact .inr ⟨fun h => absurd h.1 (by rw [hunavailable]; decide), _, c, rfl, rfl, .refl c, rfl⟩
  · rw [if_neg hunavailable, run_bind_ok (EStateM.run_get c)]
    by_cases hnotOpened : env.encoder = .notOpened ∨ c.directory.isNone = true
    · rw [if_pos hnotOpened]
      refine .inr ⟨fun h => ?_, _, c, rfl, rfl, .refl c, rfl⟩
      rcases hnotOpened with hencoder | hdirectory
      · exact absurd h.1 (by rw [hencoder]; decide)
      · rw [Option.isNone_iff_eq_none] at hdirectory
        exact absurd h.2.1 (by simp [hdirectory])
    · rw [if_neg hnotOpened, run_bind_ok (putFile_run _ _ _), run_bind_ok (EStateM.run_get _)]
      have hdirectory : c.directory.isSome = true := by
        cases hdirectory : c.directory with
        | none => exact absurd (.inr (by simp [hdirectory])) hnotOpened
        | some directory => rfl
      have hfile : (c.filed videoPartial (.video [])).hasFile posePartial = c.hasFile posePartial := by
        rw [Collection.hasFile, filed_lookup hdirectory, if_neg (by decide)]
        rfl
      rw [hfile]
      by_cases hpose : (!env.poseOpens) = true ∨ c.hasFile posePartial = true
      · rw [if_pos hpose]
        refine .inr ⟨fun h => ?_, _, _, rfl, rfl, .put c (.inl rfl) (.inl rfl), rfl⟩
        rcases hpose with hopens | hexists
        · simp [h.2.2.1] at hopens
        · simp [h.2.2.2] at hexists
      · rw [if_neg hpose]
        refine .inl ⟨⟨?_, hdirectory, ?_, ?_⟩, rfl⟩
        · cases hencoder : env.encoder with
          | unavailable => exact absurd hencoder hunavailable
          | notOpened => exact absurd (.inl hencoder) hnotOpened
          | opened => rfl
        · cases hopens : env.poseOpens with
          | false => exact absurd (.inl (by simp [hopens])) hpose
          | true => rfl
        · exact Bool.eq_false_iff.mpr fun h => hpose (.inr h)

def Collection.streamFor (c : Collection) (capturedNs : Int) : ArtifactStream :=
  c.memory.stream.getD { originNs := capturedNs }

def lineWritten (env : WriteEnv) (observation : Observation) (stream : ArtifactStream) : Prop :=
  stream.missing observation.capturedNs ≤ 45 ∧ env.line = .written

def frameWritten (env : WriteEnv) (c : Collection) (observation : Observation) : Prop :=
  (c.memory.stream.isSome = true ∨ canOpen env c) ∧
    lineWritten env observation (c.streamFor observation.capturedNs)

def Collection.Attached (c : Collection) : Prop := c.memory.stream.isSome = true → c.hasFile posePartial = true

structure Collection.Wrote (observation : Observation) (c after : Collection) : Prop where
  writes : c.Writes observation after
  stream : ∃ stream, (c.streamFor observation.capturedNs).write observation.capturedNs observation.frameSeq =
    some stream ∧ after.memory.stream = some stream
  attached : c.Attached → after.hasFile posePartial = true ∧ after.partialLines = c.partialLines ++ [observation]

theorem writeLine_written {env : WriteEnv} (hline : env.line = .written) (observation : Observation) (c : Collection) :
    (writeLine env observation).run c =
      .ok () (c.filed posePartial (.timeline (c.partialLines ++ [observation]) false)) := by
  unfold writeLine
  rw [run_bind_ok (EStateM.run_get c), hline]
  rfl

theorem writeLine_raised {env : WriteEnv} {line torn : Bool} (hline : env.line = .raised line torn)
    (observation : Observation) (c : Collection) :
    (writeLine env observation).run c = .error .osError (c.filed posePartial
      (.timeline (if line then c.partialLines ++ [observation] else c.partialLines) torn)) := by
  unfold writeLine
  rw [run_bind_ok (EStateM.run_get c), hline]
  rfl

theorem writeTo_run (env : WriteEnv) (observation : Observation) {stream : ArtifactStream} (c : Collection)
    (hstream : c.memory.stream = some stream) :
    (lineWritten env observation stream ∧ ∃ after,
      (writeTo env observation stream).run c = .ok (stream.missing observation.capturedNs).toNat after ∧
        c.Wrote observation after) ∨
    (¬ lineWritten env observation stream ∧ ∃ e after, (writeTo env observation stream).run c = .error e after ∧
      e.isArtifactError = true ∧ c.Writes observation after) := by
  unfold writeTo
  cases hwrite : stream.write observation.capturedNs observation.frameSeq with
  | none =>
    have hgap := ArtifactStream.write_eq_none_iff.mp hwrite
    exact .inr ⟨fun h => absurd h.1 (by omega), _, c, rfl, rfl, .refl c⟩
  | some next =>
    dsimp only
    rw [run_bind_ok (updateMemory_run _ _), run_bind_ok (putFile_run _ _ _)]
    have hmissing := (ArtifactStream.write_eq_some hwrite).1
    -- the video has the frame; the timeline is as it was
    obtain ⟨filmed, hfilmed⟩ : ∃ filmed : Collection,
        filmed = ({ c with memory := { c.memory with stream := some next } } : Collection).filed videoPartial
          (.video next.video) := ⟨_, rfl⟩
    rw [← hfilmed]
    have hlines : filmed.partialLines = c.partialLines := by
      rw [hfilmed, filed_partialLines, if_neg (by simp [videoPartial, posePartial])]
      rfl
    have hopened : c.writable := .inl (by rw [hstream]; rfl)
    have hwrites : c.Writes observation filmed := by
      rw [hfilmed]
      exact (Collection.Writes.stream c next).trans (.put _ (.inl rfl) (.inl rfl)) rfl fun _ => hopened
    have hnext : filmed.memory.stream = some next := by
      rw [hfilmed]
      rfl
    cases hline : env.line with
    | written =>
      rw [run_bind_ok (writeLine_written hline observation filmed)]
      have hput : filmed.Writes observation (filmed.filed posePartial (.timeline (filmed.partialLines ++ [observation]) false)) :=
        .put filmed (.inr rfl) (.inr (.inr ⟨rfl, .inl (by rw [hnext]; rfl)⟩))
      refine .inl ⟨⟨hmissing, hline⟩, _, rfl, hwrites.trans hput hlines fun _ => hopened, ⟨next, ?_, hnext⟩, ?_⟩
      · rw [Collection.streamFor, hstream]
        exact hwrite
      · intro hattached
        have hpose : filmed.hasFile posePartial = true := hwrites.present (hattached (by rw [hstream]; rfl))
        refine ⟨hput.present hpose, ?_⟩
        rw [filed_partialLines, if_pos ⟨rfl, hasFile_directory hpose⟩, ← hlines]
        rfl
    | raised line torn =>
      rw [run_bind_error (writeLine_raised hline observation filmed)]
      refine .inr ⟨fun h => ?_, .osError, _, rfl, rfl, hwrites.trans (.put filmed (.inr rfl) ?_) hlines fun _ => hopened⟩
      · have hwritten := h.2
        rw [hline] at hwritten
        cases hwritten
      · cases line with
        | true => exact .inr (.inr ⟨rfl, .inl (by rw [hnext]; rfl)⟩)
        | false => exact .inr (.inl rfl)

theorem streamed_hasFile (hdirectory : c.directory.isSome = true) (capturedNs : Int) :
    (c.streamed capturedNs).hasFile posePartial = true := by
  have hfiled : (c.filed videoPartial (.video [])).directory.isSome = true := by
    simpa [Collection.filed] using hdirectory
  have h : ((c.filed videoPartial (.video [])).filed posePartial (.timeline [] false)).hasFile posePartial = true := by
    rw [Collection.hasFile, filed_lookup hfiled, if_pos rfl]
    rfl
  exact h

theorem writeFrame_run (env : WriteEnv) (observation : Observation) (c : Collection) :
    (frameWritten env c observation ∧ ∃ after, (writeFrame env observation).run c =
      .ok ((c.streamFor observation.capturedNs).missing observation.capturedNs).toNat after ∧ c.Wrote observation after) ∨
    (¬ frameWritten env c observation ∧ ∃ e after, (writeFrame env observation).run c = .error e after ∧
      e.isArtifactError = true ∧ c.Writes observation after ∧ (c.Attached → after.Attached) ∧
      (after.memory.stream.isSome = true ↔ c.memory.stream.isSome = true ∨ canOpen env c)) := by
  unfold writeFrame
  rw [run_bind_ok (EStateM.run_get c)]
  unfold frameWritten Collection.streamFor
  cases hstream : c.memory.stream with
  | some stream =>
    dsimp only
    rw [run_bind_ok (EStateM.run_pure stream c)]
    rcases writeTo_run env observation c hstream with
      ⟨hline, after, hrun, hwrote⟩ | ⟨hline, e, after, hrun, herror, hwrites⟩
    · exact .inl ⟨⟨.inl rfl, hline⟩, after, hrun, hwrote⟩
    · refine .inr ⟨fun h => hline h.2, e, after, hrun, herror, hwrites, fun hattached _ => ?_, ?_⟩
      · exact hwrites.present (hattached (by rw [hstream]; rfl))
      · exact ⟨fun _ => .inl rfl, fun _ => hwrites.opened (by rw [hstream]; rfl)⟩
  | none =>
    dsimp only
    rcases openStream_run env observation c with ⟨hopen, hopenRun⟩ | ⟨hopen, e, after, hrun, herror, hwrites, hmemory⟩
    · rw [run_bind_ok hopenRun]
      have hfile := streamed_hasFile hopen.2.1 observation.capturedNs
      have hwrites := streamed_writes observation hopen.2.2.2 observation.capturedNs
      have hlines := streamed_partialLines hopen.2.2.2 observation.capturedNs
      have hwritable : c.writable := .inr hopen.2.2.2
      rcases writeTo_run env observation (c.streamed observation.capturedNs) rfl with
        ⟨hline, after, hrun, hwrote⟩ | ⟨hline, e, after, hrun, herror, hwritesTo⟩
      · refine .inl ⟨⟨.inr hopen, hline⟩, after, hrun, hwrites.trans hwrote.writes hlines fun _ => hwritable,
          ?_, fun _ => ?_⟩
        · obtain ⟨stream, hwrite, hafter⟩ := hwrote.stream
          refine ⟨stream, ?_, hafter⟩
          rw [Collection.streamFor, hstream]
          exact hwrite
        · rw [← hlines]
          exact hwrote.attached fun _ => hfile
      · refine .inr ⟨fun h => hline h.2, e, after, hrun, herror, hwrites.trans hwritesTo hlines fun _ => hwritable,
          fun _ _ => ?_, ?_⟩
        · exact hwritesTo.present hfile
        · exact ⟨fun _ => .inr hopen, fun _ => hwritesTo.opened rfl⟩
    · rw [run_bind_error hrun]
      refine .inr ⟨fun h => ?_, e, after, rfl, herror, hwrites, fun _ hsome => ?_, ?_⟩
      · rcases h.1 with hsome | h
        · cases hsome
        · exact hopen h
      · rw [hmemory, hstream] at hsome
        cases hsome
      · rw [hmemory, hstream]
        simp [hopen]

end PduExamObserver.ResearchRuntime
