import Mathlib.Order.Defs.Unbundled
import PduExamObserver.Library.Table

/-! # Tables that keep their rows

A table to which rows are added and in which columns change, but from which none goes. `later` says what a row may
become, `fresh` what a new row is like. -/

namespace PduExamObserver.Table
set_option autoImplicit false

variable {ρ κ ε : Type*}

inductive Grows (clash later : ρ → ρ → Prop) (fresh : ρ → Prop) : List ρ → List ρ → Prop
  | refl (rows : List ρ) : Grows clash later fresh rows rows
  | insert {rows : List ρ} (row : ρ) (hfree : ∀ r ∈ rows, ¬ clash r row) (hfresh : fresh row) :
      Grows clash later fresh rows (rows ++ [row])
  | change {rows : List ρ} (f : ρ → ρ) (h : ∀ r ∈ rows, later r (f r)) : Grows clash later fresh rows (rows.map f)
  | trans {a b c : List ρ} : Grows clash later fresh a b → Grows clash later fresh b c → Grows clash later fresh a c

namespace Grows

variable {clash later : ρ → ρ → Prop} {fresh : ρ → Prop} {rows rows' : List ρ} {row r : ρ}

theorem update (hrefl : ∀ r, later r r) {p : ρ → Prop} [DecidablePred p] {f : ρ → ρ}
    (h : ∀ r ∈ rows, p r → later r (f r)) : Grows clash later fresh rows (Table.update p f rows) := by
  refine .change _ fun r hr => ?_
  split
  · next hp => exact h r hr hp
  · exact hrefl r

theorem insert_ok [DecidableRel clash] {e : ε} (h : Table.insert clash e rows row = .ok rows') (hfresh : fresh row) :
    Grows clash later fresh rows rows' := by
  obtain ⟨hfree, rfl⟩ := insert_eq_ok.mp h
  exact .insert row hfree hfresh

theorem insertOrIgnore [DecidableRel clash] (hfresh : fresh row) :
    Grows clash later fresh rows (Table.insertOrIgnore clash rows row) := by
  unfold Table.insertOrIgnore
  split
  · exact .refl rows
  · next hnone =>
    push Not at hnone
    exact .insert row hnone hfresh

theorem foldl_insertOrIgnore [DecidableRel clash] (items : List ρ) (hfresh : ∀ row ∈ items, fresh row) :
    Grows clash later fresh rows (items.foldl (Table.insertOrIgnore clash) rows) := by
  induction items generalizing rows with
  | nil => exact .refl rows
  | cons row rest ih =>
    have hhead : Grows clash later fresh rows (Table.insertOrIgnore clash rows row) :=
      insertOrIgnore (hfresh row (List.mem_cons_self ..))
    exact hhead.trans (ih fun r hr => hfresh r (List.mem_cons_of_mem _ hr))

theorem mono {later' : ρ → ρ → Prop} {fresh' : ρ → Prop} (hlater : ∀ r s, later r s → later' r s)
    (hfresh : ∀ r, fresh r → fresh' r) (h : Grows clash later fresh rows rows') : Grows clash later' fresh' rows rows' := by
  induction h with
  | refl rows => exact .refl rows
  | insert row hfree hnew => exact .insert row hfree (hfresh row hnew)
  | change f h => exact .change f fun r hr => hlater r (f r) (h r hr)
  | trans _ _ ihab ihbc => exact ihab.trans ihbc

theorem forward [IsPreorder ρ later] (h : Grows clash later fresh rows rows') (hr : r ∈ rows) :
    ∃ r' ∈ rows', later r r' := by
  induction h generalizing r with
  | refl rows => exact ⟨r, hr, Std.Refl.refl r⟩
  | insert row hfree hfresh => exact ⟨r, List.mem_append_left _ hr, Std.Refl.refl r⟩
  | change f h => exact ⟨f r, List.mem_map_of_mem hr, h r hr⟩
  | trans _ _ ihab ihbc =>
    obtain ⟨s, hs, hrs⟩ := ihab hr
    obtain ⟨t, ht, hst⟩ := ihbc hs
    exact ⟨t, ht, IsTrans.trans _ _ _ hrs hst⟩

theorem back [IsPreorder ρ later] (h : Grows clash later fresh rows rows') (hr : r ∈ rows') :
    (∃ old ∈ rows, later old r) ∨ ∃ new, fresh new ∧ later new r := by
  induction h generalizing r with
  | refl rows => exact .inl ⟨r, hr, Std.Refl.refl r⟩
  | insert row hfree hfresh =>
    rcases List.mem_append.mp hr with hr | hr
    · exact .inl ⟨r, hr, Std.Refl.refl r⟩
    · obtain rfl := List.mem_singleton.mp hr
      exact .inr ⟨r, hfresh, Std.Refl.refl r⟩
  | change f h =>
    obtain ⟨old, hold, rfl⟩ := List.mem_map.mp hr
    exact .inl ⟨old, hold, h old hold⟩
  | trans _ _ ihab ihbc =>
    rcases ihbc hr with ⟨s, hs, hsr⟩ | hnew
    · rcases ihab hs with ⟨old, hold, holds⟩ | ⟨new, hnew, hnews⟩
      · exact .inl ⟨old, hold, IsTrans.trans _ _ _ holds hsr⟩
      · exact .inr ⟨new, hnew, IsTrans.trans _ _ _ hnews hsr⟩
    · exact .inr hnew

theorem filter_eq [IsPreorder ρ later] {p : ρ → Bool} (h : Grows clash later fresh rows rows')
    (hkeep : ∀ r ∈ rows, p r = true → ∀ s, later r s → s = r) (hout : ∀ r s, later r s → p s = true → p r = true)
    (hfresh : ∀ r, fresh r → p r = false) : rows'.filter p = rows.filter p := by
  induction h with
  | refl rows => rfl
  | insert row hfree hnew => rw [List.filter_append, List.filter_singleton, hfresh row hnew, cond_false, List.append_nil]
  | @change rows f h =>
    have hsame : ∀ r ∈ rows, (p ∘ f) r = p r := by
      intro r hr
      cases hp : p r with
      | true => rw [Function.comp_apply, hkeep r hr hp _ (h r hr), hp]
      | false =>
        rw [Function.comp_apply, ← Bool.not_eq_true]
        intro hpf
        rw [hout r (f r) (h r hr) hpf] at hp
        cases hp
    rw [List.filter_map, List.filter_congr hsame]
    have hid : ∀ r ∈ rows.filter p, f r = id r := fun r hr =>
      hkeep r (List.mem_of_mem_filter hr) (List.of_mem_filter hr) _ (h r (List.mem_of_mem_filter hr))
    rw [List.map_congr_left hid, List.map_id]
  | trans _ _ ihab ihbc =>
    have hfirst := ihab hkeep
    refine (ihbc fun r hr hp => hkeep r ?_ hp).trans hfirst
    have hmem := List.mem_filter.mpr ⟨hr, hp⟩
    rw [hfirst] at hmem
    exact List.mem_of_mem_filter hmem

theorem keyed {key : ρ → κ} (hclash : ∀ r s, key r = key s → clash r s) (hlater : ∀ r s, later r s → key s = key r)
    (h : Grows clash later fresh rows rows') (hkeyed : Keyed key rows) : Keyed key rows' := by
  induction h with
  | refl rows => exact hkeyed
  | insert row hfree hfresh => exact hkeyed.concat fun r hr heq => hfree r hr (hclash r row heq)
  | @change rows f h =>
    have hkeys : (rows.map f).map key = rows.map key := by
      rw [List.map_map]
      exact List.map_congr_left fun r hr => hlater r (f r) (h r hr)
    rw [Keyed, hkeys]
    exact hkeyed
  | trans _ _ ihab ihbc => exact ihbc (ihab hkeyed)

end Grows

section Folds

variable {clash : ρ → ρ → Prop} [DecidableRel clash] {rows items : List ρ} {row r : ρ}

theorem grows_foldl_insertOrIgnore (clash : ρ → ρ → Prop) [DecidableRel clash] (rows items : List ρ) :
    Grows clash Eq (· ∈ items) rows (items.foldl (insertOrIgnore clash) rows) :=
  .foldl_insertOrIgnore items fun _ h => h

theorem of_mem_foldl_insertOrIgnore (h : r ∈ items.foldl (insertOrIgnore clash) rows) : r ∈ rows ∨ r ∈ items := by
  rcases (grows_foldl_insertOrIgnore clash rows items).back h with ⟨old, hold, rfl⟩ | ⟨new, hnew, rfl⟩
  · exact .inl hold
  · exact .inr hnew

theorem mem_foldl_insertOrIgnore (h : r ∈ rows) : r ∈ items.foldl (insertOrIgnore clash) rows := by
  obtain ⟨kept, hkept, rfl⟩ := (grows_foldl_insertOrIgnore clash rows items).forward h
  exact hkept

theorem exists_clash_of_mem_items (hrefl : ∀ r, clash r r) (h : row ∈ items) :
    ∃ r ∈ items.foldl (insertOrIgnore clash) rows, clash r row := by
  induction items generalizing rows with
  | nil => cases h
  | cons item rest ih =>
    rw [List.foldl_cons]
    rcases List.mem_cons.mp h with rfl | hrest
    · have htaken : ∃ r ∈ insertOrIgnore clash rows row, clash r row := by
        unfold insertOrIgnore
        split
        · next hclash => exact hclash
        · exact ⟨row, List.mem_append_right _ (List.mem_singleton_self _), hrefl row⟩
      obtain ⟨r, hr, hclash⟩ := htaken
      exact ⟨r, mem_foldl_insertOrIgnore hr, hclash⟩
    · exact ih hrest

end Folds

end PduExamObserver.Table
