import Mathlib.Data.List.Nodup
import Mathlib.Data.List.Pairwise
import PduExamObserver.Library.Except

/-! # Relational tables

A table is the list of its rows. The uniqueness constraints of a table are one relation `clash`:
two rows clash when they agree on some unique key. `Keyed` is what a single key guarantees. -/

namespace PduExamObserver.Table
set_option autoImplicit false

variable {ρ κ ε : Type*}

/-- `INSERT`: an error when the row clashes with a stored one. -/
def insert (clash : ρ → ρ → Prop) [DecidableRel clash] (e : ε) (rows : List ρ) (row : ρ) :
    Except ε (List ρ) :=
  if ∃ r ∈ rows, clash r row then .error e else .ok (rows ++ [row])

/-- `INSERT OR REPLACE`: every stored row that clashes goes. -/
def insertOrReplace (clash : ρ → ρ → Prop) [DecidableRel clash] (rows : List ρ) (row : ρ) : List ρ :=
  rows.filter (fun r => ¬ clash r row) ++ [row]

/-- `INSERT OR IGNORE`: a row that clashes with a stored one is skipped. -/
def insertOrIgnore (clash : ρ → ρ → Prop) [DecidableRel clash] (rows : List ρ) (row : ρ) : List ρ :=
  if ∃ r ∈ rows, clash r row then rows else rows ++ [row]

/-- `UPDATE … SET f WHERE p`. -/
def update (p : ρ → Prop) [DecidablePred p] (f : ρ → ρ) (rows : List ρ) : List ρ :=
  rows.map fun r => if p r then f r else r

/-- No two rows share a key. -/
def Keyed (key : ρ → κ) (rows : List ρ) : Prop := (rows.map key).Nodup

section Insertion

variable {clash : ρ → ρ → Prop} [DecidableRel clash] {e : ε} {rows rows' : List ρ} {row r : ρ}

@[simp] theorem insert_eq_ok :
    insert clash e rows row = .ok rows' ↔ (∀ r ∈ rows, ¬ clash r row) ∧ rows' = rows ++ [row] := by
  unfold insert
  split
  · next h =>
    simp only [reduceCtorEq, false_iff, not_and]
    intro hall
    obtain ⟨r, hr, hc⟩ := h
    exact absurd hc (hall r hr)
  · next h =>
    simp only [Except.ok.injEq]
    constructor
    · exact fun heq => ⟨fun r hr hc => h ⟨r, hr, hc⟩, heq.symm⟩
    · exact fun heq => heq.2.symm

@[simp] theorem insert_eq_error {e' : ε} :
    insert clash e rows row = .error e' ↔ (∃ r ∈ rows, clash r row) ∧ e = e' := by
  unfold insert
  split <;> simp [*]

/-- Several rows inserted one after the other end up behind the stored ones, in order. -/
theorem foldlM_insert_eq_ok {ι : Type*} (f : ι → ρ) (items : List ι)
    (h : items.foldlM (fun rows i => insert clash e rows (f i)) rows = .ok rows') :
    rows' = rows ++ items.map f := by
  induction items generalizing rows with
  | nil =>
    cases h
    simp
  | cons i items ih =>
    rw [List.foldlM_cons, bind_ok_iff] at h
    obtain ⟨mid, hmid, h⟩ := h
    obtain ⟨-, rfl⟩ := insert_eq_ok.mp hmid
    rw [ih h, List.map_cons, List.append_assoc, List.singleton_append]

theorem mem_insertOrReplace :
    r ∈ insertOrReplace clash rows row ↔ (r ∈ rows ∧ ¬ clash r row) ∨ r = row := by
  simp [insertOrReplace]

theorem mem_insertOrIgnore (h : r ∈ rows) : r ∈ insertOrIgnore clash rows row := by
  unfold insertOrIgnore
  split
  · exact h
  · exact List.mem_append_left _ h

theorem insertOrIgnore_of_free (h : ∀ r ∈ rows, ¬ clash r row) :
    insertOrIgnore clash rows row = rows ++ [row] := by
  rw [insertOrIgnore, if_neg]
  rintro ⟨r, hr, hc⟩
  exact h r hr hc

end Insertion

section Update

variable {p : ρ → Prop} [DecidablePred p] {f : ρ → ρ} {rows : List ρ} {r : ρ}

theorem mem_update : r ∈ update p f rows ↔ ∃ r₀ ∈ rows, (if p r₀ then f r₀ else r₀) = r := by
  simp [update]

theorem mem_update_of_pos (h : r ∈ rows) (hp : p r) : f r ∈ update p f rows :=
  mem_update.mpr ⟨r, h, if_pos hp⟩

theorem mem_update_of_neg (h : r ∈ rows) (hp : ¬ p r) : r ∈ update p f rows :=
  mem_update.mpr ⟨r, h, if_neg hp⟩

/-- An update that keeps `g` keeps its column. -/
theorem map_update {γ : Type*} (g : ρ → γ) (h : ∀ r, p r → g (f r) = g r) :
    (update p f rows).map g = rows.map g := by
  rw [update, List.map_map]
  apply List.map_congr_left
  intro r _
  by_cases hp : p r
  · simp [hp, h r hp]
  · simp [hp]

end Update

section Keys

variable {key : ρ → κ} {rows : List ρ} {row r s : ρ}

theorem Keyed.concat (h : Keyed key rows) (hnew : ∀ r ∈ rows, key r ≠ key row) :
    Keyed key (rows ++ [row]) := by
  rw [Keyed, List.map_append, List.nodup_append]
  refine ⟨h, by simp, ?_⟩
  simpa using hnew

theorem Keyed.update {p : ρ → Prop} [DecidablePred p] {f : ρ → ρ} (h : Keyed key rows)
    (hf : ∀ r, p r → key (f r) = key r) : Keyed key (Table.update p f rows) := by
  rw [Keyed, map_update key hf]
  exact h

theorem Keyed.filter (h : Keyed key rows) (p : ρ → Bool) : Keyed key (rows.filter p) :=
  h.sublist (List.filter_sublist.map key)

theorem Keyed.eq (h : Keyed key rows) (hr : r ∈ rows) (hs : s ∈ rows) (hk : key r = key s) : r = s :=
  List.inj_on_of_nodup_map h hr hs hk

/-- A keyed lookup finds the row. -/
theorem Keyed.find [DecidableEq κ] (h : Keyed key rows) (hr : r ∈ rows) :
    rows.find? (fun s => key s = key r) = some r := by
  cases hf : rows.find? (fun s => key s = key r) with
  | none =>
    rw [List.find?_eq_none] at hf
    exact absurd (hf r hr) (by simp)
  | some s =>
    have hs := List.mem_of_find?_eq_some hf
    have hk : key s = key r := by simpa using List.find?_some hf
    rw [h.eq hs hr hk]

/-- Columns that only grow keep every row that a lookup found. -/
theorem find_of_prefix {rows rows' : List ρ} (h : rows.map key <+: rows'.map key) (p : κ → Bool)
    (hr : rows.find? (fun r => p (key r)) = some r) :
    ∃ r', rows'.find? (fun r => p (key r)) = some r' ∧ key r' = key r := by
  have hkeys : (rows.map key).find? p = some (key r) := by
    rw [List.find?_map]
    exact congrArg (Option.map key) hr
  obtain ⟨tail, htail⟩ := h
  have hkeys' : (rows'.map key).find? p = some (key r) := by
    rw [← htail, List.find?_append, hkeys]
    rfl
  rw [List.find?_map, Option.map_eq_some_iff] at hkeys'
  exact hkeys'

end Keys

end PduExamObserver.Table
