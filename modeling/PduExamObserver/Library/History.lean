import Mathlib.Data.List.Forall2

/-! # Histories

A history is the list of the events of a run, in order. Three things are said of it: that events of given
kinds occur in a given order, that they do so before every event of another kind, and that no event of one
kind comes after one of another. Each has the rules for a history that grows by one event. -/

namespace PduExamObserver.History
set_option autoImplicit false

variable {ε : Type*} {p q : ε → Prop} {kinds : List (ε → Prop)} {history : List ε} {e : ε}

/-- Events of the given kinds occur in this order, with others in between. -/
def Occurs (kinds : List (ε → Prop)) (history : List ε) : Prop :=
  ∃ events, events.Sublist history ∧ List.Forall₂ (fun kind event => kind event) kinds events

theorem Occurs.append (h : Occurs kinds history) (e : ε) : Occurs kinds (history ++ [e]) := by
  obtain ⟨events, hsub, hkinds⟩ := h
  exact ⟨events, hsub.trans (List.sublist_append_left _ _), hkinds⟩

theorem occurs_nil : Occurs [] history := ⟨[], List.nil_sublist _, .nil⟩

theorem occurs_of_mem (he : e ∈ history) (hp : p e) : Occurs [p] history :=
  ⟨[e], List.singleton_sublist.mpr he, .cons hp .nil⟩

theorem Occurs.concat (h : Occurs kinds history) (he : p e) : Occurs (kinds ++ [p]) (history ++ [e]) := by
  obtain ⟨events, hsub, hkinds⟩ := h
  exact ⟨events ++ [e], hsub.append (List.Sublist.refl _), List.rel_append hkinds (.cons he .nil)⟩

/-- No event of the second kind comes after one of the first. -/
def NeverAfter (p q : ε → Prop) (history : List ε) : Prop := history.Pairwise fun e e' => p e → ¬ q e'

/-- At most one event is of this kind. -/
abbrev AtMostOnce (p : ε → Prop) (history : List ε) : Prop := NeverAfter p p history

@[simp] theorem neverAfter_nil : NeverAfter p q [] := .nil

theorem neverAfter_concat : NeverAfter p q (history ++ [e]) ↔
    NeverAfter p q history ∧ (q e → ∀ e' ∈ history, ¬ p e') := by
  unfold NeverAfter
  rw [List.pairwise_append]
  constructor
  · rintro ⟨h, -, hlast⟩
    exact ⟨h, fun hq e' he' hp => hlast e' he' e (List.mem_singleton.mpr rfl) hp hq⟩
  · rintro ⟨h, hlast⟩
    refine ⟨h, List.pairwise_singleton _ _, fun e' he' last hmem hp hq => ?_⟩
    rw [List.mem_singleton] at hmem
    subst hmem
    exact hlast hq e' he' hp

/-- Before every event of the kind, events of the given kinds have occurred in this order. -/
def Preceded (kinds : List (ε → Prop)) (q : ε → Prop) (history : List ε) : Prop :=
  ∀ before e after, history = before ++ e :: after → q e → Occurs kinds before

theorem preceded_nil : Preceded kinds q [] := by
  intro before e after h
  simp at h

theorem concat_eq_append_cons {e' : ε} {before after : List ε} (h : history ++ [e] = before ++ e' :: after) :
    before = history ∧ e' = e ∨ ∃ rest, history = before ++ e' :: rest := by
  rcases List.eq_nil_or_concat' after with rfl | ⟨rest, last, rfl⟩
  · obtain ⟨hbefore, hsame⟩ := List.append_inj' h rfl
    exact .inl ⟨hbefore.symm, (List.singleton_inj.mp hsame).symm⟩
  · rw [← List.cons_append, ← List.append_assoc] at h
    exact .inr ⟨rest, (List.append_inj' h rfl).1⟩

theorem Preceded.concat (h : Preceded kinds q history) (he : q e → Occurs kinds history) :
    Preceded kinds q (history ++ [e]) := by
  intro before e' after heq hq
  rcases concat_eq_append_cons heq with ⟨rfl, rfl⟩ | ⟨rest, hbefore⟩
  · exact he hq
  · exact h before e' rest hbefore hq

theorem Occurs.exists_mem (h : Occurs kinds history) (hp : p ∈ kinds) : ∃ e ∈ history, p e := by
  obtain ⟨events, hsub, hkinds⟩ := h
  obtain ⟨i, hi, hget⟩ := List.getElem_of_mem hp
  obtain ⟨hlength, hall⟩ := List.forall₂_iff_get.mp hkinds
  have hi' : i < events.length := hlength ▸ hi
  refine ⟨events[i], hsub.subset (List.getElem_mem hi'), ?_⟩
  have hevent := hall i hi hi'
  rw [List.get_eq_getElem, List.get_eq_getElem, hget] at hevent
  exact hevent

end PduExamObserver.History
