import Mathlib.Data.List.Basic

/-! # Splitting a text into lines

A text that arrives in pieces: the lines that are complete, and what follows the last of them. -/

namespace PduExamObserver.Lines
set_option autoImplicit false

universe u
variable {α : Type u} [DecidableEq α] {sep : α} {a b line : List α}

/-- The lines that `sep` ends, and what follows the last of them. -/
def split (sep : α) : List α → List (List α) × List α
  | [] => ([], [])
  | c :: text =>
    if c = sep then ([] :: (split sep text).1, (split sep text).2)
    else
      match (split sep text).1 with
      | [] => ([], c :: (split sep text).2)
      | line :: lines => ((c :: line) :: lines, (split sep text).2)

theorem split_sep : split sep (sep :: a) = ([] :: (split sep a).1, (split sep a).2) := by
  rw [split, if_pos rfl]

theorem split_cons_rest {c : α} (hc : c ≠ sep) (h : (split sep a).1 = []) :
    split sep (c :: a) = ([], c :: (split sep a).2) := by
  rw [split, if_neg hc, h]

theorem split_cons_line {c : α} (hc : c ≠ sep) {lines : List (List α)} (h : (split sep a).1 = line :: lines) :
    split sep (c :: a) = ((c :: line) :: lines, (split sep a).2) := by
  rw [split, if_neg hc, h]

theorem split_append (a b : List α) : split sep (a ++ b) =
    ((split sep a).1 ++ (split sep ((split sep a).2 ++ b)).1, (split sep ((split sep a).2 ++ b)).2) := by
  induction a with
  | nil => rfl
  | cons c a ih =>
    by_cases hc : c = sep
    · rw [hc, List.cons_append, split_sep, split_sep, ih]
      rfl
    · cases hlines : (split sep a).1 with
      | nil =>
        rw [hlines, List.nil_append] at ih
        rw [split_cons_rest hc hlines, List.nil_append, List.cons_append, List.cons_append, split, split, ih]
      | cons line lines =>
        rw [hlines] at ih
        rw [split_cons_line hc hlines, List.cons_append]
        rw [split_cons_line hc (congrArg Prod.fst ih), ih]
        rfl

theorem split_of_notMem (h : sep ∉ a) : split sep a = ([], a) := by
  induction a with
  | nil => rfl
  | cons c a ih =>
    obtain ⟨hc, ha⟩ := List.ne_and_not_mem_of_not_mem_cons h
    have hrest := ih ha
    rw [split_cons_rest (Ne.symm hc) (congrArg Prod.fst hrest), hrest]

theorem rest_notMem (a : List α) : sep ∉ (split sep a).2 := by
  induction a with
  | nil => exact List.not_mem_nil
  | cons c a ih =>
    by_cases hc : c = sep
    · rw [hc, split_sep]
      exact ih
    · cases hlines : (split sep a).1 with
      | nil =>
        rw [split_cons_rest hc hlines]
        exact List.not_mem_cons_of_ne_of_not_mem (Ne.symm hc) ih
      | cons line lines =>
        rw [split_cons_line hc hlines]
        exact ih

theorem split_line (h : sep ∉ line) : split sep (line ++ sep :: a) = (line :: (split sep a).1, (split sep a).2) := by
  induction line with
  | nil => exact split_sep
  | cons c line ih =>
    obtain ⟨hc, hline⟩ := List.ne_and_not_mem_of_not_mem_cons h
    have hrest := ih hline
    rw [List.cons_append, split_cons_line (Ne.symm hc) (congrArg Prod.fst hrest), hrest]

theorem split_lines {lines : List (List α)} (h : ∀ line ∈ lines, sep ∉ line) :
    split sep (lines.flatMap (· ++ [sep])) = (lines, []) := by
  induction lines with
  | nil => rfl
  | cons line lines ih =>
    obtain ⟨hline, hlines⟩ := List.forall_mem_cons.mp h
    have hrest := ih hlines
    rw [List.flatMap_cons, List.append_assoc, List.singleton_append, split_line hline, hrest]

end PduExamObserver.Lines
