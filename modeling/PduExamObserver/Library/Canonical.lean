import Mathlib.Data.List.Sort

/-! # Association lists in canonical order

Sorting by key is what makes the text of a dictionary canonical. Lookups, the set of keys and the absence
of duplicate keys do not depend on the order. -/

namespace PduExamObserver.Canonical
set_option autoImplicit false

variable {κ ν : Type*}

theorem lookup_eq_some [DecidableEq κ] {fields : List (κ × ν)} {key : κ} {value : ν}
    (h : (fields.map Prod.fst).Nodup) : fields.lookup key = some value ↔ (key, value) ∈ fields := by
  induction fields with
  | nil => simp
  | cons field rest ih =>
    obtain ⟨k, v⟩ := field
    rw [List.map_cons, List.nodup_cons] at h
    by_cases hk : key = k
    · subst hk
      have hnot : (key, value) ∉ rest := fun hmem => h.1 (List.mem_map.mpr ⟨(key, value), hmem, rfl⟩)
      simp [hnot, eq_comm]
    · have hne : (key == k) = false := by simpa using hk
      simp [List.lookup_cons, hne, hk, ih h.2]

theorem exists_lookup [DecidableEq κ] {fields : List (κ × ν)} {key : κ} :
    (∃ value, fields.lookup key = some value) ↔ key ∈ fields.map Prod.fst := by
  induction fields with
  | nil => simp
  | cons field rest ih =>
    rw [List.lookup_cons, List.map_cons, List.mem_cons]
    by_cases hk : key = field.1
    · have hbeq : (key == field.1) = true := by simpa using hk
      rw [hbeq]
      exact ⟨fun _ => .inl hk, fun _ => ⟨_, rfl⟩⟩
    · have hbeq : (key == field.1) = false := by simpa using hk
      rw [hbeq, ← ih]
      exact ⟨fun h => .inr h, fun h => h.resolve_left hk⟩

/-! ## Sorting by key -/

/-- The order of `sort_keys=True`. -/
def ByKey [LE κ] (a b : κ × ν) : Prop := a.1 ≤ b.1

instance [LE κ] [DecidableLE κ] : DecidableRel (ByKey (κ := κ) (ν := ν)) :=
  fun a b => inferInstanceAs (Decidable (a.1 ≤ b.1))

instance [LE κ] [Std.Total (α := κ) (· ≤ ·)] : Std.Total (ByKey (κ := κ) (ν := ν)) :=
  ⟨fun a b => Std.Total.total (r := (· ≤ ·)) a.1 b.1⟩

instance [LE κ] [IsTrans κ (· ≤ ·)] : IsTrans (κ × ν) ByKey :=
  ⟨fun _ _ _ h h' => IsTrans.trans (r := (· ≤ ·)) _ _ _ h h'⟩

def sortKeys [LE κ] [DecidableLE κ] (fields : List (κ × ν)) : List (κ × ν) := fields.insertionSort ByKey

section Sorting

variable [LE κ] [DecidableLE κ] {fields : List (κ × ν)}

theorem sortKeys_perm (fields : List (κ × ν)) : (sortKeys fields).Perm fields :=
  List.perm_insertionSort ByKey fields

theorem sortKeys_sortKeys [Std.Total (α := κ) (· ≤ ·)] [IsTrans κ (· ≤ ·)] (fields : List (κ × ν)) :
    sortKeys (sortKeys fields) = sortKeys fields :=
  (List.pairwise_insertionSort ByKey fields).insertionSort_eq

theorem mem_sortKeys {field : κ × ν} : field ∈ sortKeys fields ↔ field ∈ fields :=
  (sortKeys_perm fields).mem_iff

theorem nodup_sortKeys : ((sortKeys fields).map Prod.fst).Nodup ↔ (fields.map Prod.fst).Nodup :=
  ((sortKeys_perm fields).map Prod.fst).nodup_iff

theorem lookup_sortKeys [DecidableEq κ] (h : (fields.map Prod.fst).Nodup) (key : κ) :
    (sortKeys fields).lookup key = fields.lookup key := by
  apply Option.ext
  intro value
  rw [lookup_eq_some (nodup_sortKeys.mpr h), lookup_eq_some h, mem_sortKeys]

theorem sortKeys_congr [Std.Total (α := κ) (· ≤ ·)] [IsTrans κ (· ≤ ·)] [Std.Antisymm (α := κ) (· ≤ ·)]
    {fields' : List (κ × ν)} (h : fields.Perm fields') (hnodup : (fields.map Prod.fst).Nodup) :
    sortKeys fields = sortKeys fields' := by
  have hperm : (sortKeys fields).Perm (sortKeys fields') :=
    (sortKeys_perm fields).trans (h.trans (sortKeys_perm fields').symm)
  refine hperm.eq_of_pairwise (fun a b ha hb hab hba => ?_) (List.pairwise_insertionSort ByKey fields)
    (List.pairwise_insertionSort ByKey fields')
  have hmem : b ∈ fields := h.mem_iff.mpr (mem_sortKeys.mp hb)
  have hkeys : a.1 = b.1 := Std.Antisymm.antisymm (r := (· ≤ ·)) _ _ hab hba
  exact List.inj_on_of_nodup_map hnodup (mem_sortKeys.mp ha) hmem hkeys

theorem sortKeys_map {ν' : Type*} (f : ν → ν') (fields : List (κ × ν)) :
    sortKeys (fields.map fun field => (field.1, f field.2)) = (sortKeys fields).map fun field => (field.1, f field.2) := by
  have hinsert (entry : κ × ν) (rest : List (κ × ν)) :
      (rest.map fun field => (field.1, f field.2)).orderedInsert ByKey (entry.1, f entry.2) =
        (rest.orderedInsert ByKey entry).map fun field => (field.1, f field.2) := by
    induction rest with
    | nil => rfl
    | cons first rest ih =>
      rw [List.map_cons, List.orderedInsert, List.orderedInsert]
      by_cases h : ByKey entry first
      · have h' : ByKey (entry.1, f entry.2) (first.1, f first.2) := h
        rw [if_pos h, if_pos h']
        rfl
      · have h' : ¬ ByKey (entry.1, f entry.2) (first.1, f first.2) := h
        rw [if_neg h, if_neg h', List.map_cons, ih]
  induction fields with
  | nil => rfl
  | cons entry rest ih =>
    unfold sortKeys at ih ⊢
    rw [List.map_cons, List.insertionSort_cons, List.insertionSort_cons, ih]
    exact hinsert entry _

theorem sortKeys_ext [Std.Total (α := κ) (· ≤ ·)] [IsTrans κ (· ≤ ·)] [Std.Antisymm (α := κ) (· ≤ ·)] [DecidableEq κ]
    {fields' : List (κ × ν)} (h : (fields.map Prod.fst).Nodup) (h' : (fields'.map Prod.fst).Nodup)
    (hlookup : ∀ key, fields.lookup key = fields'.lookup key) : sortKeys fields = sortKeys fields' := by
  refine sortKeys_congr ?_ h
  refine (List.perm_ext_iff_of_nodup (List.Nodup.of_map _ h) (List.Nodup.of_map _ h')).mpr fun field => ?_
  rw [← lookup_eq_some h, ← lookup_eq_some h', hlookup]

end Sorting

end PduExamObserver.Canonical
