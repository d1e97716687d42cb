import PduExamObserver.Library.Transition
import PduExamObserver.Native.Receipts

/-! # The frame reader's two buffers

`_FrameReader` and the thread it runs, beside the loop that takes its frames and the clean-up that stops it. The two
threads take their steps in any order; `readinto` writes piecemeal, and it and the clock answer anything. -/

namespace PduExamObserver.Native
open Transition
set_option autoImplicit false

inductive ReaderDisposition where
  | frame | eof | readException | ingressClockException
  deriving DecidableEq

/-- An item of `_ready`. The `serial` is not in the source: it numbers the calls of `readinto`. -/
structure ReadyFrame where
  disposition : ReaderDisposition
  index : Int
  count : Option Int
  ingress : Option Int
  serial : Nat
  deriving DecidableEq

/-- Where `_run` is. A thread that leaves it by an exception that it does not catch may leave a frame unstamped. -/
inductive ReaderThread where
  | unstarted
  | taking
  | reading (index : Int)
  | stamping (index : Int) (serial : Nat)
  | putting (item : ReadyFrame) (returns : Bool)
  | ended (unstamped : Option Nat)
  deriving DecidableEq

/-- Where the capture loop and its clean-up are; `stopped` has what `stop` answered. -/
inductive LoopPhase where
  | starting
  | looping
  | cleaning
  | joining
  | stopped (joined : Bool)
  deriving DecidableEq

/-- The reader and the loop. `contents` and `delivered` are not in the source: they keep what every call of `readinto`
left in its buffer, and what `next` has handed over. -/
structure FrameReader (β : Type) where
  buffers : Int → β
  free : List Int := [0, 1]
  ready : List ReadyFrame := []
  thread : ReaderThread := .unstarted
  phase : LoopPhase := .starting
  held : Option ReadyFrame := none
  contents : List β := []
  delivered : List ReadyFrame := []

/-- The `maxsize` of both queues. -/
def queueSize : Nat := 2

/-- What `stop` answers after the time it waits; the join raises if the thread was never started. -/
def ReaderThread.joined : ReaderThread → Bool
  | .ended _ => true
  | _ => false

/-- What the reader does with the answer of `readinto`. -/
def afterRead (index : Int) (serial : Nat) : Except Raised (Option Int) → ReaderThread
  | .error _ => .putting ⟨.readException, index, none, none, serial⟩ true
  | .ok count =>
    if count = some 0 then .putting ⟨.eof, index, count, none, serial⟩ true
    else if count = some frameBytes then .stamping index serial
    else .putting ⟨.frame, index, count, none, serial⟩ false

def afterStamp (index : Int) (serial : Nat) : Except Raised Int → ReaderThread
  | .error _ => .putting ⟨.ingressClockException, index, some frameBytes, none, serial⟩ true
  | .ok ingress => .putting ⟨.frame, index, some frameBytes, some ingress, serial⟩ false

variable {β : Type}

/-- `put` waits while the queue is full and `get` while it is empty. The buffers are filled with `zero` at the end. -/
inductive FrameReader.Step (zero : β) : FrameReader β → FrameReader β → Prop where
  | start {s : FrameReader β} (hphase : s.phase = .starting) (hthread : s.thread = .unstarted) :
    Step zero s { s with phase := .looping, thread := .taking }
  | take {s : FrameReader β} {index : Int} {rest : List Int} (hthread : s.thread = .taking)
    (hfree : s.free = index :: rest) (hindex : 0 ≤ index) :
    Step zero s { s with free := rest, thread := .reading index }
  | takeSentinel {s : FrameReader β} {index : Int} {rest : List Int} (hthread : s.thread = .taking)
    (hfree : s.free = index :: rest) (hindex : index < 0) :
    Step zero s { s with free := rest, thread := .ended none }
  | write {s : FrameReader β} {index : Int} (content : β) (hthread : s.thread = .reading index) :
    Step zero s { s with buffers := Function.update s.buffers index content }
  | read {s : FrameReader β} {index : Int} (answer : Except Raised (Option Int)) (hthread : s.thread = .reading index) :
    Step zero s { s with
      thread := afterRead index s.contents.length answer
      contents := s.contents ++ [s.buffers index] }
  | readDies {s : FrameReader β} {index : Int} (hthread : s.thread = .reading index) :
    Step zero s { s with thread := .ended none }
  | stamp {s : FrameReader β} {index : Int} {serial : Nat} (answer : Except Raised Int)
    (hthread : s.thread = .stamping index serial) : Step zero s { s with thread := afterStamp index serial answer }
  | stampDies {s : FrameReader β} {index : Int} {serial : Nat} (hthread : s.thread = .stamping index serial) :
    Step zero s { s with thread := .ended (some serial) }
  | put {s : FrameReader β} {item : ReadyFrame} {returns : Bool} (hthread : s.thread = .putting item returns)
    (hroom : s.ready.length < queueSize) :
    Step zero s { s with ready := s.ready ++ [item], thread := if returns then .ended none else .taking }
  | next {s : FrameReader β} {item : ReadyFrame} {rest : List ReadyFrame} (hphase : s.phase = .looping)
    (hheld : s.held = none) (hready : s.ready = item :: rest) :
    Step zero s { s with ready := rest, held := some item, delivered := s.delivered ++ [item] }
  | release {s : FrameReader β} {item : ReadyFrame} (hphase : s.phase = .looping) (hheld : s.held = some item)
    (hframe : item.disposition = .frame) (hroom : s.free.length < queueSize) :
    Step zero s { s with free := s.free ++ [item.index], held := none }
  -- a break, an exception, or nothing handed over within a second
  | leave {s : FrameReader β} (hphase : s.phase = .starting ∨ s.phase = .looping) :
    Step zero s { s with phase := .cleaning }
  | stop {s : FrameReader β} (hphase : s.phase = .cleaning) :
    Step zero s { s with phase := .joining, free := if s.free.length < queueSize then s.free ++ [-1] else s.free }
  | join {s : FrameReader β} (hphase : s.phase = .joining) : Step zero s { s with phase := .stopped s.thread.joined }
  | zeroize {s : FrameReader β} (index : Int) (hphase : s.phase = .stopped true) :
    Step zero s { s with buffers := Function.update s.buffers index zero }

def FrameReader.system (zero : β) : System (FrameReader β) Unit where
  init s := s = { buffers := fun _ => zero }
  step s _ t := FrameReader.Step zero s t

/-! ## Where the indices are -/

def ReaderThread.place : ReaderThread → List Int
  | .reading index | .stamping index _ => [index]
  | .putting item _ => [item.index]
  | _ => []

variable {index : Int} {item : ReadyFrame} {returns : Bool} {s t : FrameReader β} {zero : β}

namespace FrameReader

def places (s : FrameReader β) : List Int :=
  s.free.filter (0 ≤ ·) ++ (s.thread.place ++ (s.ready.map (·.index) ++ s.held.toList.map (·.index)))

theorem place_afterRead (index : Int) (serial : Nat) (answer : Except Raised (Option Int)) :
    (afterRead index serial answer).place = [index] := by
  cases answer with
  | error e => rfl
  | ok count =>
    dsimp only [afterRead]
    split_ifs <;> rfl

theorem place_afterStamp (index : Int) (serial : Nat) (answer : Except Raised Int) :
    (afterStamp index serial answer).place = [index] := by
  cases answer <;> rfl

theorem count_places (s : FrameReader β) (i : Int) :
    s.places.count i = (s.free.filter (0 ≤ ·)).count i + s.thread.place.count i
      + (s.ready.map (·.index)).count i + (s.held.toList.map (·.index)).count i := by
  simp only [places, List.count_append]
  omega

theorem places_subperm (h : Step zero s t) : t.places.Subperm s.places := by
  refine List.subperm_ext_iff.mpr fun i _ => ?_
  rw [count_places, count_places]
  cases h with
  | start hphase hthread =>
    rw [hthread]
    exact le_refl _
  | @take index rest hthread hfree hindex =>
    have hfilter : (index :: rest).filter (0 ≤ ·) = index :: rest.filter (0 ≤ ·) :=
      List.filter_cons_of_pos (decide_eq_true hindex)
    dsimp only
    rw [hfree, hfilter, List.count_cons]
    simp only [ReaderThread.place, List.count_singleton]
    omega
  | @takeSentinel index rest hthread hfree hindex =>
    have hfilter : (index :: rest).filter (0 ≤ ·) = rest.filter (0 ≤ ·) :=
      List.filter_cons_of_neg (by simpa using hindex)
    rw [hthread, hfree, hfilter]
    exact le_refl _
  | write content hthread => exact le_refl _
  | read answer hthread =>
    rw [hthread, place_afterRead]
    exact le_refl _
  | readDies hthread =>
    simp only [ReaderThread.place, List.count_nil]
    omega
  | stamp answer hthread =>
    rw [hthread, place_afterStamp]
    exact le_refl _
  | stampDies hthread =>
    simp only [ReaderThread.place, List.count_nil]
    omega
  | @put item returns hthread hroom =>
    have hnone : (if returns then ReaderThread.ended none else .taking).place = [] := by cases returns <;> rfl
    dsimp only
    rw [hthread, hnone, List.map_append, List.count_append]
    simp only [ReaderThread.place, List.map_cons, List.map_nil, List.count_nil]
    omega
  | @next item rest hphase hheld hready =>
    dsimp only
    rw [hheld, hready, List.map_cons, List.count_cons]
    simp only [Option.toList, List.map_cons, List.map_nil, List.count_nil, List.count_singleton]
    omega
  | @release item hphase hheld hframe hroom =>
    have hle : ([item.index].filter (0 ≤ ·)).count i ≤ [item.index].count i :=
      List.Sublist.count_le i List.filter_sublist
    dsimp only
    rw [hheld, List.filter_append, List.count_append]
    simp only [Option.toList, List.map_cons, List.map_nil, List.count_nil]
    omega
  | leave hphase => exact le_refl _
  | stop hphase =>
    dsimp only
    split_ifs
    · rw [List.filter_append]
      exact le_of_eq (by simp)
    · exact le_refl _
  | join hphase => exact le_refl _
  | zeroize index hphase => exact le_refl _

theorem places_length (h : s.places.Subperm [0, 1]) :
    (s.free.filter (0 ≤ ·)).length + s.thread.place.length + s.ready.length + s.held.toList.length ≤ queueSize := by
  have hlength := h.length_le
  simp only [places, List.length_append, List.length_map, List.length_cons, List.length_nil] at hlength
  unfold queueSize
  omega

/-- The sentinel is only put by `stop`. -/
def Unstopped (s : FrameReader β) : Prop := s.phase = .starting ∨ s.phase = .looping ∨ s.phase = .cleaning

structure Custody (s : FrameReader β) : Prop where
  places : s.places.Subperm [0, 1]
  sentinel : s.Unstopped → ∀ index ∈ s.free, 0 ≤ index

theorem custody_step (hs : s.Custody) (h : Step zero s t) : t.Custody := by
  refine ⟨(places_subperm h).trans hs.places, ?_⟩
  have hsentinel := hs.sentinel
  cases h with
  | start hphase hthread => exact fun _ => hsentinel (.inl hphase)
  | take hthread hfree hindex =>
    intro hopen index hmem
    exact hsentinel hopen index (hfree ▸ List.mem_cons_of_mem _ hmem)
  | takeSentinel hthread hfree hindex =>
    intro hopen index hmem
    exact hsentinel hopen index (hfree ▸ List.mem_cons_of_mem _ hmem)
  | @release item hphase hheld hframe hroom =>
    intro hopen index hmem
    obtain hmem | hmem := List.mem_append.mp hmem
    · exact hsentinel hopen index hmem
    · rw [List.mem_singleton.mp hmem]
      have hplace : item.index ∈ s.places := by simp [FrameReader.places, hheld]
      have hknown : item.index ∈ [0, 1] := hs.places.subset hplace
      simp only [List.mem_cons, List.not_mem_nil, or_false] at hknown
      omega
  | leave hphase => exact fun _ => hsentinel (hphase.elim .inl fun h => .inr (.inl h))
  | stop hphase => exact fun hopen => by simp [Unstopped] at hopen
  | join hphase => exact fun hopen => by simp [Unstopped] at hopen
  | _ => exact hsentinel

theorem held_ne_reading (hs : s.Custody) (hheld : s.held = some item) (hthread : s.thread = .reading index) : item.index ≠ index := by
  rintro rfl
  have hcount := hs.places.count_le item.index
  rw [count_places, hheld, hthread] at hcount
  have hone : [(0 : Int), 1].count item.index ≤ 1 := List.nodup_iff_count_le_one.mp (by decide) _
  simp only [ReaderThread.place, Option.toList, List.map_cons, List.map_nil, List.count_singleton_self] at hcount
  omega

theorem put_room (hs : s.Custody) (hthread : s.thread = .putting item returns) : s.ready.length < queueSize := by
  have hlength := places_length hs.places
  rw [hthread] at hlength
  simp only [ReaderThread.place, List.length_singleton] at hlength
  omega

theorem release_room (hs : s.Custody) (hphase : s.phase = .looping)
    (hheld : s.held = some item) : s.free.length < queueSize := by
  have hlength := places_length hs.places
  have hall : s.free.filter (0 ≤ ·) = s.free :=
    List.filter_eq_self.mpr fun index hmem => decide_eq_true (hs.sentinel (.inr (.inl hphase)) index hmem)
  rw [hall, hheld] at hlength
  simp only [Option.toList, List.length_singleton] at hlength
  omega

/-! ## The order of the frames -/

end FrameReader

def ReaderThread.serials : ReaderThread → List Nat
  | .stamping _ serial => [serial]
  | .putting item _ => [item.serial]
  | .ended unstamped => unstamped.toList
  | _ => []

namespace FrameReader

theorem serials_afterRead (index : Int) (serial : Nat) (answer : Except Raised (Option Int)) :
    (afterRead index serial answer).serials = [serial] := by
  cases answer with
  | error e => rfl
  | ok count =>
    dsimp only [afterRead]
    split_ifs <;> rfl

theorem serials_afterStamp (index : Int) (serial : Nat) (answer : Except Raised Int) :
    (afterStamp index serial answer).serials = [serial] := by
  cases answer <;> rfl

structure Ordered (s : FrameReader β) : Prop where
  serials : (s.delivered ++ s.ready).map (·.serial) ++ s.thread.serials = List.range s.contents.length
  terminal : ∀ item ∈ s.delivered ++ s.ready, item.disposition ≠ .frame →
    s.thread = .ended none ∧ item.serial + 1 = s.contents.length
  returns : ∀ item returns, s.thread = .putting item returns → (returns = true ↔ item.disposition ≠ .frame)

theorem returns_afterRead {serial : Nat} {answer : Except Raised (Option Int)}
    (h : afterRead index serial answer = .putting item returns) :
    returns = true ↔ item.disposition ≠ .frame := by
  cases answer with
  | error e =>
    cases h
    simp
  | ok count =>
    dsimp only [afterRead] at h
    split_ifs at h <;> cases h <;> simp

theorem returns_afterStamp {serial : Nat} {answer : Except Raised Int}
    (h : afterStamp index serial answer = .putting item returns) :
    returns = true ↔ item.disposition ≠ .frame := by
  cases answer <;> cases h <;> simp

theorem frame_of_live (hs : s.Ordered) (hlive : s.thread ≠ .ended none)
    (hmem : item ∈ s.delivered ++ s.ready) : item.disposition = .frame := by
  by_contra hterminal
  exact hlive (hs.terminal item hmem hterminal).1

theorem ordered_of_live (hs : s.Ordered) (hlive : s.thread ≠ .ended none)
    (hdelivered : t.delivered = s.delivered) (hready : t.ready = s.ready)
    (hserials : (s.delivered ++ s.ready).map (·.serial) ++ t.thread.serials = List.range t.contents.length)
    (hreturns : ∀ item returns, t.thread = .putting item returns → (returns = true ↔ item.disposition ≠ .frame)) :
    t.Ordered := by
  refine ⟨by rw [hdelivered, hready, hserials], ?_, hreturns⟩
  intro item hmem hterminal
  rw [hdelivered, hready] at hmem
  exact absurd (frame_of_live hs hlive hmem) hterminal

theorem ordered_step (hs : s.Ordered) (h : Step zero s t) : t.Ordered := by
  have hserials := hs.serials
  cases h with
  | start hphase hthread =>
    rw [hthread] at hserials
    exact ordered_of_live hs (by simp [hthread]) rfl rfl hserials (by simp)
  | take hthread hfree hindex =>
    rw [hthread] at hserials
    exact ordered_of_live hs (by simp [hthread]) rfl rfl hserials (by simp)
  | takeSentinel hthread hfree hindex =>
    rw [hthread] at hserials
    exact ordered_of_live hs (by simp [hthread]) rfl rfl hserials (by simp)
  | read answer hthread =>
    rw [hthread] at hserials
    refine ordered_of_live hs (by simp [hthread]) rfl rfl ?_ fun _ _ => returns_afterRead
    simp only [ReaderThread.serials, List.append_nil] at hserials
    rw [serials_afterRead, hserials, List.length_append, List.length_singleton, List.range_succ]
  | readDies hthread =>
    rw [hthread] at hserials
    exact ordered_of_live hs (by simp [hthread]) rfl rfl hserials (by simp)
  | stamp answer hthread =>
    rw [hthread] at hserials
    refine ordered_of_live hs (by simp [hthread]) rfl rfl ?_ fun _ _ => returns_afterStamp
    rw [serials_afterStamp]
    exact hserials
  | stampDies hthread =>
    rw [hthread] at hserials
    exact ordered_of_live hs (by simp [hthread]) rfl rfl hserials (by simp)
  | @put item returns hthread hroom =>
    have hlive : s.thread ≠ .ended none := by simp [hthread]
    have hreturns := hs.returns item returns hthread
    rw [hthread] at hserials
    refine ⟨?_, ?_, ?_⟩
    · have hnone : (if returns then ReaderThread.ended none else .taking).serials = [] := by cases returns <;> rfl
      dsimp only
      rw [hnone, ← hserials]
      simp [ReaderThread.serials]
    · intro other hmem hterminal
      rw [← List.append_assoc] at hmem
      obtain hmem | hmem := List.mem_append.mp hmem
      · exact absurd (frame_of_live hs hlive hmem) hterminal
      · -- the item is the last that was read
        rw [List.mem_singleton.mp hmem] at hterminal ⊢
        have hlast := congrArg List.getLast? hserials
        simp only [ReaderThread.serials, List.getLast?_concat, List.getLast?_range] at hlast
        rw [hreturns.mpr hterminal]
        refine ⟨rfl, ?_⟩
        split_ifs at hlast with hempty
        have heq : item.serial = s.contents.length - 1 := Option.some.inj hlast
        dsimp only
        omega
    · intro other last hnext
      cases returns <;> cases hnext
  | @next item rest hphase hheld hready =>
    have hsame : (s.delivered ++ [item]) ++ rest = s.delivered ++ s.ready := by rw [hready, List.append_assoc]; rfl
    refine ⟨by rw [hsame]; exact hserials, ?_, hs.returns⟩
    intro other hmem hterminal
    exact hs.terminal other (hsame ▸ hmem) hterminal
  | _ => exact ⟨hserials, hs.terminal, hs.returns⟩

theorem delivered_range (hs : s.Ordered) :
    s.delivered.map (·.serial) = List.range s.delivered.length ∧ s.delivered.length ≤ s.contents.length := by
  have hserials := hs.serials
  rw [List.map_append, List.append_assoc] at hserials
  have hle : s.delivered.length ≤ s.contents.length := by
    have hlength := congrArg List.length hserials
    simp only [List.length_append, List.length_map, List.length_range] at hlength
    omega
  refine ⟨?_, hle⟩
  have htake := congrArg (List.take s.delivered.length) hserials
  rw [List.take_left' (List.length_map _), List.take_range, min_eq_left hle] at htake
  exact htake

theorem delivered_all (hs : s.Ordered) (hmem : item ∈ s.delivered)
    (hterminal : item.disposition ≠ .frame) : s.delivered.length = s.contents.length := by
  obtain ⟨hrange, hle⟩ := delivered_range hs
  have hlast := (hs.terminal item (List.mem_append_left _ hmem) hterminal).2
  have hserial : item.serial ∈ List.range s.delivered.length := hrange ▸ List.mem_map_of_mem hmem
  have hlt := List.mem_range.mp hserial
  omega

/-! ## The contents of the buffers -/

end FrameReader

def ReaderThread.cargo : ReaderThread → List (Nat × Int)
  | .stamping index serial => [(serial, index)]
  | .putting item _ => [(item.serial, item.index)]
  | _ => []

namespace FrameReader

def cargo (s : FrameReader β) : List (Nat × Int) :=
  s.thread.cargo ++ (s.ready ++ s.held.toList).map fun item => (item.serial, item.index)

def Intact (s : FrameReader β) : Prop :=
  s.phase ≠ .stopped true → ∀ cell ∈ s.cargo, s.contents[cell.1]? = some (s.buffers cell.2)

theorem cargo_afterRead (index : Int) (serial : Nat) (answer : Except Raised (Option Int)) :
    (afterRead index serial answer).cargo = [(serial, index)] := by
  cases answer with
  | error e => rfl
  | ok count =>
    dsimp only [afterRead]
    split_ifs <;> rfl

theorem cargo_afterStamp (index : Int) (serial : Nat) (answer : Except Raised Int) :
    (afterStamp index serial answer).cargo = [(serial, index)] := by
  cases answer <;> rfl

theorem cargo_ne_reading (hs : s.Custody) (hthread : s.thread = .reading index)
    {cell : Nat × Int} (hmem : cell ∈ s.cargo) : cell.2 ≠ index := by
  rintro rfl
  have hcount := hs.places.count_le cell.2
  rw [count_places, hthread] at hcount
  have hone : [(0 : Int), 1].count cell.2 ≤ 1 := List.nodup_iff_count_le_one.mp (by decide) _
  have hpos : 0 < ((s.ready ++ s.held.toList).map (·.index)).count cell.2 := by
    rw [List.count_pos_iff]
    simp only [cargo, hthread, ReaderThread.cargo, List.nil_append] at hmem
    obtain ⟨item, hitem, rfl⟩ := List.mem_map.mp hmem
    exact List.mem_map_of_mem hitem
  rw [List.map_append, List.count_append] at hpos
  simp only [ReaderThread.place, List.count_singleton_self] at hcount
  omega

theorem intact_of_subset (hs : s.Intact) (hphase : t.phase ≠ .stopped true → s.phase ≠ .stopped true)
    (hbuffers : t.buffers = s.buffers) (hcontents : t.contents = s.contents) (hcargo : t.cargo ⊆ s.cargo) : t.Intact := by
  intro hopen cell hmem
  rw [hbuffers, hcontents]
  exact hs (hphase hopen) cell (hcargo hmem)

theorem intact_step (hcustody : s.Custody) (hs : s.Intact) (h : Step zero s t) :
    t.Intact := by
  cases h with
  | start hphase hthread =>
    refine intact_of_subset hs (by simp [hphase]) rfl rfl ?_
    simp [cargo, hthread, ReaderThread.cargo]
  | take hthread hfree hindex =>
    refine intact_of_subset hs id rfl rfl ?_
    simp [cargo, hthread, ReaderThread.cargo]
  | takeSentinel hthread hfree hindex =>
    refine intact_of_subset hs id rfl rfl ?_
    simp [cargo, hthread, ReaderThread.cargo]
  | write content hthread =>
    intro hopen cell hmem
    have hother := cargo_ne_reading hcustody hthread hmem
    dsimp only
    rw [Function.update_of_ne hother]
    exact hs hopen cell hmem
  | @read index answer hthread =>
    intro hopen cell hmem
    simp only [cargo, cargo_afterRead, List.singleton_append, List.mem_cons] at hmem
    obtain rfl | hmem := hmem
    · exact List.getElem?_concat_length
    · have hold : s.contents[cell.1]? = some (s.buffers cell.2) := hs hopen cell (List.mem_append_right _ hmem)
      have hlt := (List.getElem?_eq_some_iff.mp hold).1
      rw [List.getElem?_append_left hlt]
      exact hold
  | readDies hthread =>
    refine intact_of_subset hs id rfl rfl ?_
    simp [cargo, hthread, ReaderThread.cargo]
  | stamp answer hthread =>
    refine intact_of_subset hs id rfl rfl ?_
    dsimp only [cargo]
    rw [hthread, cargo_afterStamp]
    exact fun _ => id
  | stampDies hthread =>
    refine intact_of_subset hs id rfl rfl ?_
    simp [cargo, ReaderThread.cargo]
  | @put item returns hthread hroom =>
    have hnone : (if returns then ReaderThread.ended none else .taking).cargo = [] := by cases returns <;> rfl
    refine intact_of_subset hs id rfl rfl ?_
    intro cell hmem
    dsimp only [cargo] at hmem ⊢
    rw [hnone] at hmem
    rw [hthread]
    simp only [ReaderThread.cargo, List.nil_append, List.map_append, List.mem_append, List.map_cons, List.map_nil] at hmem ⊢
    tauto
  | @next item rest hphase hheld hready =>
    refine intact_of_subset hs id rfl rfl ?_
    intro cell hmem
    simp only [cargo, hheld, hready, Option.toList] at hmem ⊢
    simp only [List.map_append, List.mem_append, List.map_cons, List.map_nil, List.mem_cons, List.not_mem_nil] at hmem ⊢
    tauto
  | release hphase hheld hframe hroom =>
    refine intact_of_subset hs id rfl rfl ?_
    intro cell hmem
    simp only [cargo, Option.toList, List.append_nil, List.map_append, List.mem_append] at hmem ⊢
    tauto
  | leave hphase =>
    refine intact_of_subset hs (fun _ => ?_) rfl rfl fun _ => id
    obtain hphase | hphase := hphase <;> simp [hphase]
  | stop hphase => exact intact_of_subset hs (by simp [hphase]) rfl rfl fun _ => id
  | join hphase => exact intact_of_subset hs (by simp [hphase]) rfl rfl fun _ => id
  | zeroize index hphase => exact fun hopen => absurd hphase hopen

/-! ## After the stop -/

/-- `stop` has answered that the thread has ended, and it has. -/
def Quiet (s : FrameReader β) : Prop := s.phase = .stopped true → s.thread.joined = true

theorem joined_step (hs : s.thread.joined = true) (h : Step zero s t) :
    t.thread = s.thread := by
  cases h with
  | start _ hthread | take hthread _ _ | takeSentinel hthread _ _ | read _ hthread | readDies hthread
  | stamp _ hthread | stampDies hthread | put hthread _ => simp [hthread, ReaderThread.joined] at hs
  | _ => rfl

theorem quiet_step (hs : s.Quiet) (h : Step zero s t) : t.Quiet := by
  intro hstopped
  cases h with
  | join hphase => exact LoopPhase.stopped.inj hstopped
  | start hphase hthread => simp at hstopped
  | leave hphase => simp at hstopped
  | stop hphase => simp at hstopped
  | next hphase hheld hready => exact hs hstopped
  | release hphase hheld hframe hroom => exact hs hstopped
  | write content hthread => exact hs hstopped
  | zeroize index hphase => exact hs hstopped
  | take hthread _ _ | takeSentinel hthread _ _ | read _ hthread | readDies hthread
  | stamp _ hthread | stampDies hthread | put hthread _ => simp [hthread, ReaderThread.joined, Quiet] at hs; exact absurd hstopped hs

theorem stopped_step (hs : s.phase = .stopped true ∧ s.thread.joined = true ∧ s.buffers index = zero) (h : Step zero s t) :
    t.phase = .stopped true ∧ t.thread.joined = true ∧ t.buffers index = zero := by
  obtain ⟨hphase, hjoined, hclear⟩ := hs
  refine ⟨?_, (joined_step hjoined h).symm ▸ hjoined, ?_⟩
  · cases h with
    | start h | stop h | join h => simp [hphase] at h
    | leave h => simp [hphase] at h
    | _ => exact hphase
  · cases h with
    | write content hthread => simp [hthread, ReaderThread.joined] at hjoined
    | zeroize other _ =>
      dsimp only
      rw [Function.update_apply]
      split_ifs
      · rfl
      · exact hclear
    | _ => exact hclear

/-! ## Every run -/

structure Sound (s : FrameReader β) : Prop where
  custody : s.Custody
  ordered : s.Ordered
  intact : s.Intact
  quiet : s.Quiet

theorem sound_of_reachable (h : Reachable (system zero) s) : s.Sound := by
  refine h.invariant ?_ ?_
  · rintro s rfl
    refine ⟨⟨?_, ?_⟩, ⟨rfl, by simp, by simp⟩, by simp [Intact, cargo, ReaderThread.cargo], by simp [Quiet]⟩
    · exact List.Subperm.refl _
    · intro _ index hmem
      simp only [List.mem_cons, List.not_mem_nil, or_false] at hmem
      omega
  · intro s _ t hs _ hstep
    exact ⟨custody_step hs.custody hstep, ordered_step hs.ordered hstep, intact_step hs.custody hs.intact hstep,
      quiet_step hs.quiet hstep⟩

/-- Whatever the threads do: a frame that is held is not written over; what is read is handed over once and in order, and
all of it before a terminal event; there is room for every put; and after a successful stop, what is clear stays clear. -/
theorem handover_sound (h : Reachable (system zero) s) :
    (∀ item index, s.held = some item → s.thread = .reading index → item.index ≠ index) ∧
    (s.phase ≠ .stopped true → ∀ item, s.held = some item → s.contents[item.serial]? = some (s.buffers item.index)) ∧
    (s.delivered ++ s.ready).map (·.serial) ++ s.thread.serials = List.range s.contents.length ∧
    s.delivered.map (·.serial) = List.range s.delivered.length ∧
    (∀ item ∈ s.delivered, item.disposition ≠ .frame → s.delivered.length = s.contents.length) ∧
    (∀ item returns, s.thread = .putting item returns → s.ready.length < queueSize) ∧
    (∀ item, s.phase = .looping → s.held = some item → s.free.length < queueSize) ∧
    (s.phase = .stopped true → ∀ t, Later (system zero) s t →
      (∀ index, t.thread ≠ .reading index) ∧ ∀ index, s.buffers index = zero → t.buffers index = zero) := by
  obtain ⟨hcustody, hordered, hintact, hquiet⟩ := sound_of_reachable h
  refine ⟨fun _ _ => held_ne_reading hcustody, ?_, hordered.serials, (delivered_range hordered).1, ?_, ?_, ?_, ?_⟩
  · intro hopen item hheld
    exact hintact hopen (item.serial, item.index) (by simp [cargo, hheld])
  · exact fun item hmem hterminal => delivered_all hordered hmem hterminal
  · exact fun item returns => put_room hcustody
  · exact fun item hphase hheld => release_room hcustody hphase hheld
  · intro hstopped t hlater
    have hjoined := hquiet hstopped
    constructor
    · intro index hreading
      have hended := hlater.preserves (P := fun s => s.thread.joined = true)
        (fun s _ t hs hstep => (joined_step hs hstep).symm ▸ hs) hjoined
      simp [hreading, ReaderThread.joined] at hended
    · intro index hclear
      have hstays := hlater.preserves
        (P := fun s => s.phase = .stopped true ∧ s.thread.joined = true ∧ s.buffers index = zero)
        (fun s _ t hs hstep => stopped_step hs hstep) ⟨hstopped, hjoined, hclear⟩
      exact hstays.2.2

/-! ## A run of two reads -/

namespace Sample

def firstFrame : ReadyFrame := ⟨.frame, 0, some frameBytes, some 5, 0⟩

/-- The loop has the first frame, and the reader is at the second buffer. -/
def overlapping : FrameReader Nat where
  buffers := Function.update (Function.update (fun _ => 0) 0 7) 1 9
  free := []
  thread := .reading 1
  phase := .looping
  held := some firstFrame
  contents := [7]
  delivered := [firstFrame]

/-- The second read has met the end, the clean-up has stopped the reader and cleared the buffers. -/
def cleared : FrameReader Nat where
  buffers := Function.update (Function.update overlapping.buffers 0 0) 1 0
  free := [-1]
  ready := [⟨.eof, 1, some 0, none, 1⟩]
  thread := .ended none
  phase := .stopped true
  held := some firstFrame
  contents := [7, 9]
  delivered := [firstFrame]

theorem overlapping_reachable : Reachable (system 0) overlapping := by
  have hstarted : Reachable (system 0) ({ buffers := fun _ => 0, phase := .looping, thread := .taking } : FrameReader Nat) :=
    Reachable.next (.init rfl) (.start rfl rfl) (a := ())
  have hwritten := (hstarted.next (a := ()) (Step.take rfl rfl (le_refl 0))).next (a := ()) (Step.write 7 rfl)
  have hstamped := (hwritten.next (a := ()) (Step.read (.ok (some frameBytes)) rfl)).next (a := ())
    (@Step.stamp _ 0 _ 0 0 (.ok 5) rfl)
  have htaken := (hstamped.next (a := ()) (@Step.put _ 0 _ firstFrame false rfl (by decide))).next (a := ())
    (Step.next rfl rfl rfl)
  exact (htaken.next (a := ()) (@Step.take _ 0 _ 1 [] rfl rfl (by decide))).next (a := ()) (Step.write 9 rfl)

theorem cleared_reachable : Reachable (system 0) cleared := by
  have hended := (overlapping_reachable.next (a := ()) (@Step.read _ 0 _ 1 (.ok (some 0)) rfl)).next (a := ())
    (@Step.put _ 0 _ ⟨.eof, 1, some 0, none, 1⟩ true rfl (by decide))
  have hstopped := ((hended.next (a := ()) (Step.leave (.inr rfl))).next (a := ()) (Step.stop rfl)).next (a := ())
    (Step.join rfl)
  exact (hstopped.next (a := ()) (Step.zeroize 0 rfl)).next (a := ()) (Step.zeroize 1 rfl)

end Sample

theorem handover_sound_overlapping :
    (Sample.firstFrame.index ≠ 1 ∧ Sample.overlapping.contents[0]? = some (Sample.overlapping.buffers 0)) ∧
    ∀ t, Later (system 0) Sample.cleared t → (∀ index, t.thread ≠ .reading index) ∧ t.buffers 0 = 0 ∧ t.buffers 1 = 0 := by
  obtain ⟨hother, hkept, -⟩ := handover_sound Sample.overlapping_reachable
  have hstays := (handover_sound Sample.cleared_reachable).2.2.2.2.2.2.2 rfl
  refine ⟨⟨hother _ 1 rfl rfl, hkept (by decide) _ rfl⟩, fun t hlater => ?_⟩
  obtain ⟨hquiet, hclear⟩ := hstays t hlater
  exact ⟨hquiet, hclear 0 rfl, hclear 1 rfl⟩

end FrameReader

end PduExamObserver.Native
