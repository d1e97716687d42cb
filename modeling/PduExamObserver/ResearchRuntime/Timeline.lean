import PduExamObserver.Library.Consecutive
import PduExamObserver.ResearchRuntime.Resting

/-! # The numbers of the timeline

Which frames leave the timeline numbered from one without a gap, and when a frame is taken as a whole. -/

namespace PduExamObserver.ResearchRuntime
open Showcase Stateful Transition
set_option autoImplicit false

variable {setup : Setup} {w : World} {a : Action} {index : Nat} {c after : Collection}

/-! ## A numbered timeline -/

def Numbered (lines : List Observation) : Prop := Consecutive 0 (lines.map Observation.frameSeq)

theorem Numbered.concat {lines : List Observation} (h : Numbered lines) {observation : Observation}
    (hnext : observation.frameSeq = lines.length + 1) : Numbered (lines ++ [observation]) := by
  unfold Numbered at h ⊢
  rw [List.map_append, List.map_singleton]
  exact h.concat (by rw [hnext, List.length_map, Nat.zero_add])

def Collection.FilesNumbered (c : Collection) : Prop := ∀ file ∈ c.files, Numbered file.2.lines

theorem Collection.FilesNumbered.partialLines (h : c.FilesNumbered) : Numbered c.partialLines := by
  unfold Collection.partialLines
  cases hlookup : c.files.lookup posePartial with
  | none => rfl
  | some content => exact h _ (lookup_mem hlookup)

theorem Collection.FilesNumbered.moved (h : c.FilesNumbered)
    (hcontents : ∀ file ∈ after.files, file.2.lines = [] ∨ ∃ old ∈ c.files, file.2.lines = old.2.lines) :
    after.FilesNumbered := by
  intro file hfile
  rcases hcontents file hfile with hempty | ⟨old, hold, heq⟩
  · rw [hempty]
    rfl
  · rw [heq]
    exact h old hold

theorem partialLines_congr (h : after.directory = c.directory) : after.partialLines = c.partialLines := by
  unfold Collection.partialLines Collection.files
  rw [h]

/-- What holds of every session: the numbers of its files, the length of the timeline that is open to a recording, and
that no timeline is open before a real collection. -/
structure Collection.Timely (c : Collection) : Prop where
  numbered : c.FilesNumbered
  opened : c.session.state = .recording → c.memory.stream.isSome = true → c.partialLines.length = c.session.frameSeq
  waiting : c.session.state.waits = true → c.session.sourceKind = .real → c.memory.stream = none

theorem Collection.Timely.created (sessionId : String) (sourceKind : SourceKind) (pseudonym : String) :
    (createSession sessionId sourceKind pseudonym).Timely where
  numbered _ h := absurd h List.not_mem_nil
  opened h := by cases h
  waiting _ _ := rfl

theorem Collection.Timely.idle (hnumbered : c.FilesNumbered) (hstate : c.session.state ≠ .recording)
    (hwaiting : c.session.state.waits = true → c.session.sourceKind ≠ .real) : c.Timely :=
  ⟨hnumbered, fun h => absurd h hstate, fun h h' => absurd h' (hwaiting h)⟩

theorem Collection.Timely.rests (h : c.Timely) (hrests : c.Rests after) : after.Timely where
  numbered := h.numbered.moved hrests.contents
  opened hstate hsome := by
    rw [partialLines_congr (hrests.directory hsome), hrests.frameSeq]
    rcases hrests.recording hstate with hrecording | ⟨hwaits, hreal⟩
    · exact h.opened hrecording (hrests.stream hsome)
    · have hclosed := hrests.stream hsome
      rw [h.waiting hwaits hreal] at hclosed
      cases hclosed
  waiting hwaits hreal := by
    have hclosed : c.memory.stream = none := h.waiting (hrests.waiting hwaits) (hrests.sourceKind ▸ hreal)
    rw [← Option.not_isSome_iff_eq_none]
    intro hsome
    have hopen := hrests.stream hsome
    rw [hclosed] at hopen
    cases hopen

/-! ## One frame -/

theorem FilesNumbered.writes {observation : Observation} (h : c.FilesNumbered) (hwrites : c.Writes observation after)
    (hnext : c.writable → observation.frameSeq = c.partialLines.length + 1) : after.FilesNumbered := by
  intro file hfile
  rcases hwrites.contents file hfile with hold | hempty | hlines | ⟨hlines, hwritable⟩
  · exact h file hold
  · rw [hempty]
    rfl
  · rw [hlines]
    exact h.partialLines
  · rw [hlines]
    exact h.partialLines.concat (hnext hwritable)

def Collection.startsAfresh (c : Collection) : Prop :=
  c.memory.stream.isNone = true → c.hasFile posePartial = false → c.session.frameSeq = 0

def startsFixture (c : Collection) (active : Bool) : Prop :=
  c.session.state = .preflightReady ∧ c.session.sourceKind ≠ .real ∧ active = false

/-- In the state that a section finds: a frame of a recording comes to an end, and is the first one if it finds no
timeline at all; a fixture finds no open timeline. -/
def Section.steady (setup : Setup) (active : Bool) (c : Collection) : Section → Prop
  | .ingestFrame env => c.session.state = .recording → ingestsCleanly setup env c ∧ c.startsAfresh
  | .startSyntheticDemo .. => startsFixture c active → c.memory.stream = none
  | _ => True

def Steady (setup : Setup) (w : World) : Action → Prop
  | .act index part => ∀ c, w.collections[index]? = some c → part.steady setup w.active c
  | _ => True

namespace Sample

end Sample

end PduExamObserver.ResearchRuntime
