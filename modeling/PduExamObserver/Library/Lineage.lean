import Mathlib.Data.List.Dedup
import Mathlib.Logic.Relation

/-! # Lineage in a finite graph

The meaning of `WITH RECURSIVE lineage(id) AS (seeds UNION children) SELECT DISTINCT id`: a child of a
collected node is collected unless it has been collected before, until nothing changes. Every
edge is used at most once, so the number of edges is fuel enough, whatever cycles there are. -/

namespace PduExamObserver
set_option autoImplicit false

variable {α : Type*}

/-- `b` is reached from `a` along the edges. -/
def Descends (edges : List (α × α)) : α → α → Prop :=
  Relation.ReflTransGen fun a b => (a, b) ∈ edges

section Collect

variable [DecidableEq α]

/-- The nodes collected so far, and the edges' fuel. -/
def collect (edges : List (α × α)) : Nat → List α → List α
  | 0, seen => seen
  | fuel + 1, seen =>
    match edges.find? fun e => e.1 ∈ seen ∧ e.2 ∉ seen with
    | none => seen
    | some e => collect edges fuel (seen ++ [e.2])

def lineage (edges : List (α × α)) (seeds : List α) : List α :=
  collect edges edges.length seeds.dedup

variable {edges : List (α × α)} {seen seeds : List α} {x : α}

/-- The edges that still lead to something new. -/
def pending (edges : List (α × α)) (seen : List α) : List (α × α) := edges.filter fun e => e.2 ∉ seen

theorem pending_concat {e : α × α} (he : e ∈ edges) (hnew : e.2 ∉ seen) :
    (pending edges (seen ++ [e.2])).length < (pending edges seen).length := by
  have hsub : pending edges (seen ++ [e.2]) =
      (pending edges seen).filter fun e' => e'.2 ≠ e.2 := by
    rw [pending, pending, List.filter_filter]
    apply List.filter_congr
    intro e' _
    simp [and_comm]
  rw [hsub, List.length_filter_lt_length_iff_exists]
  exact ⟨e, by simp [pending, he, hnew], by simp⟩

theorem nodup_collect (fuel : Nat) (h : seen.Nodup) : (collect edges fuel seen).Nodup := by
  induction fuel generalizing seen with
  | zero => exact h
  | succ fuel ih =>
    unfold collect
    cases hf : edges.find? fun e => e.1 ∈ seen ∧ e.2 ∉ seen with
    | none => exact h
    | some e =>
      have hnew : e.2 ∉ seen := by
        have := List.find?_some hf
        simp only [decide_eq_true_eq] at this
        exact this.2
      apply ih
      rw [List.nodup_append]
      refine ⟨h, by simp, ?_⟩
      intro a ha b hb
      rw [List.mem_singleton.mp hb]
      exact fun hab => hnew (hab ▸ ha)

theorem subset_collect (fuel : Nat) : seen ⊆ collect edges fuel seen := by
  induction fuel generalizing seen with
  | zero => exact List.Subset.refl _
  | succ fuel ih =>
    unfold collect
    split
    · exact List.Subset.refl _
    · exact fun a ha => ih (List.mem_append_left _ ha)

/-- Only descendants of what was collected are collected. -/
theorem collect_sound (fuel : Nat) (h : x ∈ collect edges fuel seen) :
    ∃ a ∈ seen, Descends edges a x := by
  induction fuel generalizing seen with
  | zero => exact ⟨x, h, .refl⟩
  | succ fuel ih =>
    unfold collect at h
    cases hf : edges.find? fun e => e.1 ∈ seen ∧ e.2 ∉ seen with
    | none =>
      rw [hf] at h
      exact ⟨x, h, .refl⟩
    | some e =>
      rw [hf] at h
      have hp := List.find?_some hf
      simp only [decide_eq_true_eq] at hp
      obtain ⟨a, ha, hax⟩ := ih h
      rcases List.mem_append.mp ha with ha | ha
      · exact ⟨a, ha, hax⟩
      · rw [List.mem_singleton] at ha
        subst ha
        exact ⟨e.1, hp.1, .head (List.mem_of_find?_eq_some hf) hax⟩

/-- With fuel for the pending edges nothing is left to collect. -/
theorem collect_closed (fuel : Nat) (hfuel : (pending edges seen).length ≤ fuel) {e : α × α}
    (he : e ∈ edges) (h : e.1 ∈ collect edges fuel seen) : e.2 ∈ collect edges fuel seen := by
  induction fuel generalizing seen with
  | zero =>
    have hnil : pending edges seen = [] := List.eq_nil_of_length_eq_zero (by omega)
    rw [pending, List.filter_eq_nil_iff] at hnil
    simpa [collect] using hnil e he
  | succ fuel ih =>
    unfold collect at h ⊢
    cases hf : edges.find? fun e => e.1 ∈ seen ∧ e.2 ∉ seen with
    | none =>
      rw [hf] at h
      rw [List.find?_eq_none] at hf
      have := hf e he
      simp only [decide_eq_true_eq, not_and, not_not] at this
      exact this h
    | some e' =>
      rw [hf] at h
      have hp := List.find?_some hf
      simp only [decide_eq_true_eq] at hp
      have hless := pending_concat (List.mem_of_find?_eq_some hf) hp.2
      exact ih (by omega) h

theorem nodup_lineage (edges : List (α × α)) (seeds : List α) : (lineage edges seeds).Nodup :=
  nodup_collect _ (List.nodup_dedup seeds)

theorem lineage_closed {a b : α} (he : (a, b) ∈ edges) (h : a ∈ lineage edges seeds) :
    b ∈ lineage edges seeds :=
  collect_closed _ (List.length_filter_le _ _) he h

/-- The lineage is the set of all descendants of the seeds. -/
theorem mem_lineage : x ∈ lineage edges seeds ↔ ∃ a ∈ seeds, Descends edges a x := by
  constructor
  · intro h
    obtain ⟨a, ha, hax⟩ := collect_sound _ h
    exact ⟨a, List.mem_dedup.mp ha, hax⟩
  · rintro ⟨a, ha, hax⟩
    induction hax with
    | refl => exact subset_collect _ (List.mem_dedup.mpr ha)
    | tail _ he ih => exact lineage_closed he ih

/-- Edges that leave no collected node, added to the graph, do not change a lineage. -/
theorem lineage_perm {edges' : List (α × α)} {seeds' : List α} (hsub : edges ⊆ edges')
    (hseeds : ∀ a, a ∈ seeds' ↔ a ∈ seeds)
    (hnew : ∀ e ∈ edges', e ∈ edges ∨ e.1 ∉ lineage edges seeds) :
    (lineage edges' seeds').Perm (lineage edges seeds) := by
  rw [List.perm_ext_iff_of_nodup (nodup_lineage _ _) (nodup_lineage _ _)]
  intro x
  constructor
  · intro h
    obtain ⟨a, ha, hax⟩ := mem_lineage.mp h
    have hstart : a ∈ lineage edges seeds := mem_lineage.mpr ⟨a, (hseeds a).mp ha, .refl⟩
    clear h
    induction hax with
    | refl => exact hstart
    | tail _ he ih =>
      rcases hnew _ he with hold | hout
      · exact lineage_closed hold ih
      · exact absurd ih hout
  · intro h
    obtain ⟨a, ha, hax⟩ := mem_lineage.mp h
    refine mem_lineage.mpr ⟨a, (hseeds a).mpr ha, hax.lift id fun _ _ he => hsub he⟩

end Collect

end PduExamObserver
