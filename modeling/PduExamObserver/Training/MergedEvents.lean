import Mathlib.Data.Prod.Lex
import Mathlib.Data.String.Basic
import PduExamObserver.Library.Spans
import PduExamObserver.Training.Evaluation

/-! # The predicted events are the components of the alert windows

`_predicted_events` sorts the alert windows and merges those of one session and label that are close. -/

namespace PduExamObserver.Training
open ResearchRuntime Showcase Spans
set_option autoImplicit false

variable {windows : List Window} {predictedLabels : List Int} {mergeGapMs : Int} {rows : List PredictedRow}
  {events merged after : List Event} {row a b : PredictedRow}

/-! ## Components -/

structure PredictedRow.Linked (mergeGapMs : Int) (a b : PredictedRow) : Prop where
  session : a.session = b.session
  label : a.label = b.label
  before : a.startMs ≤ b.endMs + mergeGapMs
  after : b.startMs ≤ a.endMs + mergeGapMs

def Connected (mergeGapMs : Int) (rows : List PredictedRow) : PredictedRow → PredictedRow → Prop :=
  Relation.ReflTransGen fun a b => a ∈ rows ∧ b ∈ rows ∧ a.Linked mergeGapMs b

structure PredictedRow.In (row : PredictedRow) (event : Event) : Prop where
  session : row.session = event.sessionId
  label : row.label = event.label
  start : event.startMs ≤ row.startMs
  finish : row.endMs ≤ event.endMs

/-- There is one event for each component of the rows, from its smallest start to its largest end. -/
structure Components (mergeGapMs : Int) (rows : List PredictedRow) (events : List Event) : Prop where
  distinct : events.Nodup
  covered : ∀ row ∈ rows, ∃ event ∈ events, row.In event ∧ ∀ other ∈ events, row.In other → other = event
  component : ∀ event ∈ events, ∀ a ∈ rows, a.In event → ∀ b ∈ rows, (b.In event ↔ Connected mergeGapMs rows a b)
  starts : ∀ event ∈ events, ∃ row ∈ rows, row.In event ∧ row.startMs = event.startMs
  ends : ∀ event ∈ events, ∃ row ∈ rows, row.In event ∧ row.endMs = event.endMs
  participant : ∀ event ∈ events, ∀ row ∈ rows, row.In event → row.participant = event.participantId
  apart : ∀ event ∈ events, ∀ other ∈ events, event ≠ other → event.sessionId = other.sessionId →
    event.label = other.label → event.endMs + mergeGapMs < other.startMs ∨ other.endMs + mergeGapMs < event.startMs

/-! ## Rows and events as spans -/

def PredictedRow.span (row : PredictedRow) : Span (String ×ₗ Int) := ⟨toLex (row.session, row.labelIndex), row.startMs, row.endMs⟩

def Event.span (event : Event) : Span (String ×ₗ Int) :=
  ⟨toLex (event.sessionId, (classOrder.idxOf event.label : Nat)), event.startMs, event.endMs⟩

def PredictedRow.Alert (row : PredictedRow) : Prop := row.labelIndex = 2 ∨ row.labelIndex = 3

theorem predictedRows_alert (h : row ∈ predictedRows windows predictedLabels) : row.Alert := by
  obtain ⟨entry, -, hentry⟩ := List.mem_filterMap.mp h
  split at hentry
  · rename_i halert
    cases hentry
    exact halert
  · cases hentry

theorem idxOf_label (h : row.Alert) : ((classOrder.idxOf row.label : Nat) : Int) = row.labelIndex := by
  rcases h with h | h
  · rw [PredictedRow.label, h]
    decide
  · rw [PredictedRow.label, h]
    decide

theorem label_injective (ha : a.Alert) (hb : b.Alert) (h : a.label = b.label) : a.labelIndex = b.labelIndex := by
  rw [← idxOf_label ha, ← idxOf_label hb, h]

variable {eligibleAtMs : Option Int} {endMs startMs : Int} {event : Event} {participantId : String}

theorem make_fields {sessionId : String} {label : Label} (h : Event.make sessionId participantId label startMs endMs eligibleAtMs = .ok event) :
    event.sessionId = sessionId ∧ event.label = label ∧ event.startMs = startMs ∧ event.endMs = endMs := by
  unfold Event.make at h
  split at h
  · cases h
    exact ⟨rfl, rfl, rfl, rfl⟩
  · cases h

theorem span_of_make (halert : row.Alert) (h : Event.make row.session participantId row.label startMs endMs eligibleAtMs = .ok event) :
    event.span = ⟨row.span.key, startMs, endMs⟩ := by
  obtain ⟨hsession, hlabel, hstart, hend⟩ := make_fields h
  rw [Event.span, hsession, hlabel, hstart, hend, idxOf_label halert]
  rfl

theorem label_eq_iff (halert : row.Alert) :
    event.sessionId = row.session ∧ event.label = row.label ↔ event.span.key = row.span.key := by
  have hkey : event.span.key = row.span.key ↔
      event.sessionId = row.session ∧ ((classOrder.idxOf event.label : Nat) : Int) = row.labelIndex := by
    rw [Event.span, PredictedRow.span]
    simp only [EmbeddingLike.apply_eq_iff_eq, Prod.mk.injEq]
  rw [hkey, ← idxOf_label halert]
  constructor
  · rintro ⟨hsession, hlabel⟩
    exact ⟨hsession, by rw [hlabel]⟩
  · rintro ⟨hsession, hindex⟩
    refine ⟨hsession, ?_⟩
    have hnat : classOrder.idxOf event.label = classOrder.idxOf row.label := by exact_mod_cast hindex
    revert hnat
    cases event.label <;> rcases halert with h | h <;> rw [PredictedRow.label, h] <;> decide

theorem mergeRow_span (halert : row.Alert) (h : mergeRow mergeGapMs merged row = .ok after) :
    after.map Event.span = mergeStep mergeGapMs (merged.map Event.span) row.span := by
  unfold mergeRow at h
  cases merged with
  | nil =>
    obtain ⟨event, hevent, h⟩ := bind_ok_iff.mp h
    cases h
    rw [List.map_singleton, span_of_make halert hevent]
    rfl
  | cons previous rest =>
    dsimp only at h
    rw [List.map_cons, mergeStep]
    by_cases hnear : previous.sessionId = row.session ∧ previous.label = row.label ∧
        row.startMs ≤ previous.endMs + mergeGapMs
    · rw [if_pos hnear] at h
      obtain ⟨event, hevent, h⟩ := bind_ok_iff.mp h
      cases h
      rw [if_pos ⟨(label_eq_iff halert).mp ⟨hnear.1, hnear.2.1⟩, hnear.2.2⟩, List.map_cons, span_of_make halert hevent]
      rfl
    · rw [if_neg hnear] at h
      obtain ⟨event, hevent, h⟩ := bind_ok_iff.mp h
      cases h
      have hfar : ¬ (previous.span.key = row.span.key ∧ row.span.first ≤ previous.span.last + mergeGapMs) := by
        rintro ⟨hkey, hle⟩
        obtain ⟨hsession, hlabel⟩ := (label_eq_iff halert).mpr hkey
        exact hnear ⟨hsession, hlabel, hle⟩
      rw [if_neg hfar, List.map_cons, List.map_cons, span_of_make halert hevent]
      rfl

theorem foldlM_span (halert : ∀ row ∈ rows, row.Alert) (h : rows.foldlM (mergeRow mergeGapMs) merged = .ok after) :
    after.map Event.span = (rows.map PredictedRow.span).foldl (mergeStep mergeGapMs) (merged.map Event.span) := by
  induction rows generalizing merged with
  | nil =>
    cases h
    rfl
  | cons row rest ih =>
    rw [List.foldlM_cons] at h
    obtain ⟨next, hnext, h⟩ := bind_ok_iff.mp h
    rw [List.map_cons, List.foldl_cons, ← mergeRow_span (halert row List.mem_cons_self) hnext]
    exact ih (fun other hother => halert other (List.mem_cons_of_mem _ hother)) h

/-! ## The order of the rows -/

def PredictedRow.tuple (row : PredictedRow) : String ×ₗ String ×ₗ Int ×ₗ Int ×ₗ Int :=
  toLex (row.session, toLex (row.participant, toLex (row.labelIndex, toLex (row.startMs, row.endMs))))

theorem le_iff_tuple : a.le b ↔ a.tuple ≤ b.tuple := by
  unfold PredictedRow.le PredictedRow.tuple
  simp only [Prod.Lex.toLex_le_toLex]

theorem tuple_injective (h : a.tuple = b.tuple) : a = b := by
  cases a
  cases b
  simpa [PredictedRow.tuple] using h

def sortedRows (rows : List PredictedRow) : List PredictedRow := rows.mergeSort fun a b => decide (a.le b)

theorem sortedRows_pairwise (rows : List PredictedRow) : (sortedRows rows).Pairwise fun a b => a.tuple ≤ b.tuple := by
  have htrans : ∀ x y z : PredictedRow, decide (x.le y) = true → decide (y.le z) = true → decide (x.le z) = true := by
    intro x y z hxy hyz
    simp only [decide_eq_true_eq, le_iff_tuple] at hxy hyz ⊢
    exact hxy.trans hyz
  have htotal : ∀ x y : PredictedRow, (decide (x.le y) || decide (y.le x)) = true := by
    intro x y
    simp only [Bool.or_eq_true, decide_eq_true_eq, le_iff_tuple]
    exact le_total _ _
  have hsorted : (sortedRows rows).Pairwise fun x y => decide (x.le y) = true :=
    List.pairwise_mergeSort htrans htotal rows
  exact hsorted.imp fun h => le_iff_tuple.mp (of_decide_eq_true h)

theorem sortedRows_perm {others : List PredictedRow} (h : rows.Perm others) : sortedRows rows = sortedRows others := by
  have hperm : (sortedRows rows).Perm (sortedRows others) :=
    ((List.mergeSort_perm rows _).trans h).trans (List.mergeSort_perm others _).symm
  have hantisymm : ∀ x y : PredictedRow, x ∈ sortedRows rows → y ∈ sortedRows others → x.tuple ≤ y.tuple →
      y.tuple ≤ x.tuple → x = y := fun x y _ _ hxy hyx => tuple_injective (le_antisymm hxy hyx)
  exact hperm.eq_of_pairwise hantisymm (sortedRows_pairwise rows) (sortedRows_pairwise others)

theorem before_of_tuple (hperson : a.session = b.session → a.participant = b.participant) (h : a.tuple ≤ b.tuple) :
    Before a.span b.span := by
  unfold PredictedRow.tuple at h
  unfold Before PredictedRow.span
  simp only [Prod.Lex.toLex_le_toLex, Prod.Lex.toLex_lt_toLex, EmbeddingLike.apply_eq_iff_eq, Prod.mk.injEq] at h ⊢
  rcases h with hsession | ⟨hsession, hparticipant | ⟨-, hlabel | ⟨hlabel, hstart | ⟨hstart, -⟩⟩⟩⟩
  · exact .inl (.inl hsession)
  · exact absurd (hperson hsession) (ne_of_lt hparticipant)
  · exact .inl (.inr ⟨hsession, hlabel⟩)
  · exact .inr ⟨⟨hsession, hlabel⟩, hstart.le⟩
  · exact .inr ⟨⟨hsession, hlabel⟩, hstart.le⟩

/-! ## Components of rows and of spans -/

theorem key_eq_iff (ha : a.Alert) (hb : b.Alert) : a.span.key = b.span.key ↔ a.session = b.session ∧ a.label = b.label := by
  have hkey : a.span.key = b.span.key ↔ a.session = b.session ∧ a.labelIndex = b.labelIndex := by
    unfold PredictedRow.span
    simp only [EmbeddingLike.apply_eq_iff_eq, Prod.mk.injEq]
  rw [hkey]
  constructor
  · rintro ⟨hsession, hindex⟩
    exact ⟨hsession, by rw [PredictedRow.label, PredictedRow.label, hindex]⟩
  · rintro ⟨hsession, hlabel⟩
    exact ⟨hsession, label_injective ha hb hlabel⟩

theorem linked_iff (ha : a.Alert) (hb : b.Alert) : a.Linked mergeGapMs b ↔ Spans.Linked mergeGapMs a.span b.span := by
  constructor
  · intro h
    exact ⟨(key_eq_iff ha hb).mpr ⟨h.session, h.label⟩, h.before, h.after⟩
  · intro h
    obtain ⟨hsession, hlabel⟩ := (key_eq_iff ha hb).mp h.key
    exact ⟨hsession, hlabel, h.before, h.after⟩

theorem in_iff_within (halert : row.Alert) : row.In event ↔ Spans.Within row.span event.span := by
  constructor
  · intro h
    exact ⟨((label_eq_iff halert).mp ⟨h.session.symm, h.label.symm⟩).symm, h.start, h.finish⟩
  · intro h
    obtain ⟨hsession, hlabel⟩ := (label_eq_iff halert).mpr h.key.symm
    exact ⟨hsession.symm, hlabel.symm, h.first, h.last⟩

theorem connected_iff (hgap : 0 ≤ mergeGapMs) (halert : ∀ row ∈ rows, row.Alert)
    (hproper : ∀ row ∈ rows, row.startMs < row.endMs) (ha : a ∈ rows) (hb : b ∈ rows) :
    Connected mergeGapMs rows a b ↔ Joined mergeGapMs (rows.map PredictedRow.span) a.span b.span := by
  constructor
  · intro h
    induction h with
    | refl => exact .refl
    | tail hconnected hlink ih =>
      obtain ⟨hx, hy, hlinked⟩ := hlink
      exact (ih hx).tail ⟨List.mem_map_of_mem hx, List.mem_map_of_mem hy,
        (linked_iff (halert _ hx) (halert _ hy)).mp hlinked⟩
  · intro h
    have hall : ∀ t, Joined mergeGapMs (rows.map PredictedRow.span) a.span t → ∀ c ∈ rows, c.span = t →
        Connected mergeGapMs rows a c := by
      intro t hjoined
      induction hjoined with
      | refl =>
        intro c hc hsame
        -- two rows with one span are linked
        have hlinked : Spans.Linked mergeGapMs a.span c.span := by
          rw [hsame]
          have hlt : a.span.first < a.span.last := hproper a ha
          exact ⟨rfl, by omega, by omega⟩
        exact .single ⟨ha, hc, (linked_iff (halert a ha) (halert c hc)).mpr hlinked⟩
      | tail hjoined hlink ih =>
        intro c hc hsame
        obtain ⟨hx, -, hlinked⟩ := hlink
        obtain ⟨x, hxrow, rfl⟩ := List.mem_map.mp hx
        subst hsame
        exact .tail (ih x hxrow rfl) ⟨hxrow, hc, (linked_iff (halert x hxrow) (halert c hc)).mpr hlinked⟩
    exact hall b.span h b hb rfl

theorem components_of_merges (hgap : 0 ≤ mergeGapMs) (halert : ∀ row ∈ rows, row.Alert)
    (hproper : ∀ row ∈ rows, row.startMs < row.endMs)
    (hperson : ∀ a ∈ rows, ∀ b ∈ rows, a.session = b.session → a.participant = b.participant)
    (hpeople : ∀ event ∈ events, ∃ row ∈ rows, row.session = event.sessionId ∧ row.participant = event.participantId)
    (h : Spans.Merges mergeGapMs (rows.map PredictedRow.span) (events.map Event.span)) :
    Components mergeGapMs rows events := by
  have hpairs : events.Pairwise fun event other => Apart mergeGapMs event.span other.span := List.pairwise_map.mp h.apart
  have hsymm : Std.Symm fun event other : Event => Apart mergeGapMs event.span other.span :=
    ⟨fun event other hapart hkey => (hapart hkey.symm).symm⟩
  have hirrefl : ∀ event : Event, ¬ Apart mergeGapMs event.span event.span := by
    intro event hapart
    have hlt : event.span.first < event.span.last := event.proper.2
    rcases hapart rfl with hafter | hafter
    · omega
    · omega
  refine ⟨?_, fun row hrow => ?_, fun event hevent x hx hxin y hy => ?_, fun event hevent => ?_, fun event hevent => ?_,
    fun event hevent row hrow hin => ?_, fun event hevent other hother hne hsession hlabel => ?_⟩
  · refine hpairs.imp ?_
    rintro event _ hapart rfl
    exact hirrefl event hapart
  · obtain ⟨m, hm, hwithin⟩ := h.covered row.span (List.mem_map_of_mem hrow)
    obtain ⟨event, hevent, rfl⟩ := List.mem_map.mp hm
    refine ⟨event, hevent, (in_iff_within (halert row hrow)).mpr hwithin, fun other hother hin => ?_⟩
    by_contra hne
    have hapart : Apart mergeGapMs other.span event.span := hpairs.forall hother hevent hne
    have hlt : row.span.first < row.span.last := hproper row hrow
    exact not_linked_of_apart hapart ((in_iff_within (halert row hrow)).mp hin) hwithin ⟨rfl, by omega, by omega⟩
  · rw [in_iff_within (halert y hy), connected_iff hgap halert hproper hx hy]
    exact h.component (List.mem_map_of_mem hevent) (List.mem_map_of_mem hx) (List.mem_map_of_mem hy)
      ((in_iff_within (halert x hx)).mp hxin)
  · obtain ⟨t, ht, hwithin, hsame⟩ := h.starts event.span (List.mem_map_of_mem hevent)
    obtain ⟨row, hrow, rfl⟩ := List.mem_map.mp ht
    exact ⟨row, hrow, (in_iff_within (halert row hrow)).mpr hwithin, hsame⟩
  · obtain ⟨t, ht, hwithin, hsame⟩ := h.ends event.span (List.mem_map_of_mem hevent)
    obtain ⟨row, hrow, rfl⟩ := List.mem_map.mp ht
    exact ⟨row, hrow, (in_iff_within (halert row hrow)).mpr hwithin, hsame⟩
  · obtain ⟨person, hmem, hsession, hparticipant⟩ := hpeople event hevent
    rw [← hparticipant]
    exact hperson row hrow person hmem (hin.session.trans hsession.symm)
  · have hapart : Apart mergeGapMs event.span other.span := hpairs.forall hevent hother hne
    have hkey : event.span.key = other.span.key := by rw [Event.span, Event.span, hsession, hlabel]
    exact hapart hkey

/-! ## The events of the windows -/

theorem predictedEvents_sorted (windows : List Window) (predictedLabels : List Int) (mergeGapMs : Int) :
    predictedEvents windows predictedLabels mergeGapMs =
      ((sortedRows (predictedRows windows predictedLabels)).foldlM (mergeRow mergeGapMs) []).map List.reverse := by
  unfold predictedEvents sortedRows
  dsimp only
  cases ((predictedRows windows predictedLabels).mergeSort fun a b => decide (a.le b)).foldlM (mergeRow mergeGapMs) [] with
  | error message => rfl
  | ok merged => rfl

theorem predictedRows_window (h : row ∈ predictedRows windows predictedLabels) :
    ∃ window ∈ windows, row.session = window.session ∧ row.participant = window.participant ∧
      row.startMs = window.startMs ∧ row.endMs = window.endMs := by
  obtain ⟨entry, hentry, hrow⟩ := List.mem_filterMap.mp h
  split at hrow
  · cases hrow
    exact ⟨entry.1, (List.of_mem_zip hentry).1, rfl, rfl, rfl, rfl⟩
  · cases hrow

theorem predictedRows_perm {others : List Window} {otherLabels : List Int}
    (h : (windows.zip predictedLabels).Perm (others.zip otherLabels)) :
    (predictedRows windows predictedLabels).Perm (predictedRows others otherLabels) := h.filterMap _

/-- The predicted events are the components of the alert windows, whatever the order of the windows. -/
theorem predictedEvents_components (hgap : 0 ≤ mergeGapMs)
    (hproper : ∀ window ∈ windows, (window.session ≠ "" ∧ window.participant ≠ "") ∧ 0 ≤ window.startMs ∧
      window.startMs < window.endMs)
    (hperson : ∀ a ∈ windows, ∀ b ∈ windows, a.session = b.session → a.participant = b.participant) :
    ∃ events, predictedEvents windows predictedLabels mergeGapMs = .ok events ∧
      Components mergeGapMs (predictedRows windows predictedLabels) events ∧
      ∀ others otherLabels, (windows.zip predictedLabels).Perm (others.zip otherLabels) →
        predictedEvents others otherLabels mergeGapMs = .ok events := by
  have halert : ∀ row ∈ predictedRows windows predictedLabels, row.Alert := fun row hrow => predictedRows_alert hrow
  have hrows : ∀ row ∈ predictedRows windows predictedLabels, row.Proper := fun row hrow => by
    obtain ⟨window, hwindow, hsession, hparticipant, hstart, hend⟩ := predictedRows_window hrow
    obtain ⟨hnamed, hinterval⟩ := hproper window hwindow
    rw [← hsession, ← hparticipant] at hnamed
    rw [← hstart, ← hend] at hinterval
    exact ⟨hnamed, hinterval⟩
  have hpersonRows : ∀ a ∈ predictedRows windows predictedLabels, ∀ b ∈ predictedRows windows predictedLabels,
      a.session = b.session → a.participant = b.participant := fun a ha b hb hsame => by
    obtain ⟨window, hwindow, hsession, hparticipant, -⟩ := predictedRows_window ha
    obtain ⟨other, hother, hsession', hparticipant', -⟩ := predictedRows_window hb
    rw [hparticipant, hparticipant']
    exact hperson window hwindow other hother (hsession.symm.trans (hsame.trans hsession'))
  obtain ⟨events, hevents, hmerges⟩ := predictedEvents_merges mergeGapMs hrows
  refine ⟨events, hevents, ?_, fun others otherLabels hperm => ?_⟩
  · rw [predictedEvents_sorted, map_ok_iff] at hevents
    obtain ⟨merged, hmerged, rfl⟩ := hevents
    have hsame : (sortedRows (predictedRows windows predictedLabels)).Perm (predictedRows windows predictedLabels) :=
      List.mergeSort_perm _ _
    have hspans : merged.map Event.span =
        ((sortedRows (predictedRows windows predictedLabels)).map PredictedRow.span).foldl (mergeStep mergeGapMs) [] :=
      foldlM_span (fun row hrow => halert row (hsame.mem_iff.mp hrow)) hmerged
    have hsorted : ((sortedRows (predictedRows windows predictedLabels)).map PredictedRow.span).Pairwise Before := by
      rw [List.pairwise_map]
      refine (sortedRows_pairwise _).imp_of_mem fun ha hb hle => before_of_tuple ?_ hle
      exact hpersonRows _ (hsame.mem_iff.mp ha) _ (hsame.mem_iff.mp hb)
    have hexact := merges_of_sorted hgap (fun t ht => ?_) hsorted
    · rw [← hspans] at hexact
      refine components_of_merges hgap halert (fun row hrow => (hrows row hrow).interval.2) hpersonRows hmerges.people ?_
      exact hexact.perm (hsame.map _) ((List.reverse_perm merged).symm.map _)
    · obtain ⟨row, hrow, rfl⟩ := List.mem_map.mp ht
      exact (hrows row (hsame.mem_iff.mp hrow)).interval.2.le
  · rw [predictedEvents_sorted, ← sortedRows_perm (predictedRows_perm hperm), ← predictedEvents_sorted]
    exact hevents

def windowFrom (startMs : Int) : Window :=
  ⟨[], .normal, ⟨0, 0, 0, 0, 0, 0⟩, "P03", "S1", .real, "CONFIRMATORY", "window", startMs, startMs + 6000, [], []⟩

theorem predictedEvents_components_two :
    ∃ events, predictedEvents [windowFrom 6500, windowFrom 0] [2, 2] 500 = .ok events ∧
      Components 500 (predictedRows [windowFrom 6500, windowFrom 0] [2, 2]) events := by
  have hproper : ∀ window ∈ [windowFrom 6500, windowFrom 0],
      (window.session ≠ "" ∧ window.participant ≠ "") ∧ 0 ≤ window.startMs ∧ window.startMs < window.endMs := by decide
  have hperson : ∀ a ∈ [windowFrom 6500, windowFrom 0], ∀ b ∈ [windowFrom 6500, windowFrom 0],
      a.session = b.session → a.participant = b.participant := by decide
  obtain ⟨events, hevents, hcomponents, -⟩ :=
    @predictedEvents_components _ [2, 2] _ (show (0 : Int) ≤ 500 by decide) hproper hperson
  exact ⟨events, hevents, hcomponents⟩

end PduExamObserver.Training
