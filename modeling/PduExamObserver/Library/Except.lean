import Mathlib.Init

/-! # Inverting fallible computations

`require` and `orError` are the two ways a handler of the source gives up: a failed check and a
missing row. -/

namespace PduExamObserver
set_option autoImplicit false

universe u v
variable {ε : Type u} {α β : Type v}

variable {x : Except ε α} {e : ε} {l : List α}

theorem bind_ok_iff {next : α → Except ε β} {result : β} :
    (x >>= next) = .ok result ↔ ∃ a, x = .ok a ∧ next a = .ok result := by
  constructor
  · intro h
    cases x with
    | error e => cases h
    | ok a => exact ⟨a, rfl, h⟩
  · rintro ⟨a, rfl, h⟩
    exact h

theorem bind_error_iff {next : α → Except ε β} :
    (x >>= next) = .error e ↔ x = .error e ∨ ∃ a, x = .ok a ∧ next a = .error e := by
  cases x with
  | error e' =>
    change Except.error e' = _ ↔ _
    simp
  | ok a =>
    change next a = _ ↔ _
    simp

theorem map_ok_iff {f : α → β} {b : β} : x.map f = .ok b ↔ ∃ a, x = .ok a ∧ f a = b := by
  cases x <;> simp [Except.map]

theorem pure_eq_ok {a b : α} : (pure a : Except ε α) = .ok b ↔ a = b := by simp [pure, Except.pure]

theorem ok_bind (a : α) (next : α → Except ε β) : (Except.ok a >>= next) = next a := rfl

theorem error_bind (e : ε) (next : α → Except ε β) : (Except.error e >>= next) = .error e := rfl

def require (p : Prop) [Decidable p] (e : ε) : Except ε Unit := if p then .ok () else .error e

@[simp] theorem require_eq_ok {p : Prop} [Decidable p] {u : Unit} :
    require p e = .ok u ↔ p := by
  unfold require
  split <;> simp [*]

@[simp] theorem require_eq_error {p : Prop} [Decidable p] {e' : ε} :
    require p e = .error e' ↔ ¬ p ∧ e = e' := by
  unfold require
  split <;> simp [*]

def orError (e : ε) : Option α → Except ε α
  | none => .error e
  | some a => .ok a

@[simp] theorem orError_eq_ok {o : Option α} {a : α} : orError e o = .ok a ↔ o = some a := by
  cases o <;> simp [orError]

@[simp] theorem orError_eq_error {e' : ε} {o : Option α} :
    orError e o = .error e' ↔ o = none ∧ e = e' := by
  cases o <;> simp [orError]

theorem ok_of_isOk (h : x.isOk = true) : ∃ a, x = .ok a := by
  cases x with
  | error e => cases h
  | ok a => exact ⟨a, rfl⟩

theorem mapM_eq_ok_iff {f : α → Except ε β} {g : α → β} (hg : ∀ a b, f a = .ok b → b = g a)
    {result : List β} : l.mapM f = .ok result ↔ (∀ a ∈ l, f a = .ok (g a)) ∧ result = l.map g := by
  induction l generalizing result with
  | nil =>
    rw [List.mapM_nil]
    constructor
    · intro h
      cases h
      exact ⟨fun a ha => absurd ha List.not_mem_nil, rfl⟩
    · rintro ⟨-, rfl⟩
      rfl
  | cons a rest ih =>
    rw [List.mapM_cons, bind_ok_iff]
    constructor
    · rintro ⟨b, hb, h⟩
      rw [bind_ok_iff] at h
      obtain ⟨bs, hbs, h⟩ := h
      cases h
      obtain rfl := hg a b hb
      obtain ⟨hall, rfl⟩ := ih.mp hbs
      exact ⟨List.forall_mem_cons.mpr ⟨hb, hall⟩, rfl⟩
    · rintro ⟨hall, rfl⟩
      obtain ⟨ha, hrest⟩ := List.forall_mem_cons.mp hall
      refine ⟨g a, ha, ?_⟩
      rw [bind_ok_iff]
      exact ⟨rest.map g, ih.mpr ⟨hrest, rfl⟩, rfl⟩

theorem mapM_ok_mem {f : α → Except ε β} {result : List β} (h : l.mapM f = .ok result) :
    (∀ b ∈ result, ∃ a ∈ l, f a = .ok b) ∧ ∀ a ∈ l, ∃ b ∈ result, f a = .ok b := by
  induction l generalizing result with
  | nil =>
    rw [List.mapM_nil] at h
    cases h
    simp
  | cons a rest ih =>
    rw [List.mapM_cons, bind_ok_iff] at h
    obtain ⟨b, hb, h⟩ := h
    rw [bind_ok_iff] at h
    obtain ⟨bs, hbs, h⟩ := h
    cases h
    obtain ⟨hback, hforth⟩ := ih hbs
    constructor
    · intro b' hmem
      rcases List.mem_cons.mp hmem with rfl | hmem
      · exact ⟨a, List.mem_cons_self, hb⟩
      · obtain ⟨a', ha', hf⟩ := hback b' hmem
        exact ⟨a', List.mem_cons_of_mem _ ha', hf⟩
    · intro a' hmem
      rcases List.mem_cons.mp hmem with rfl | hmem
      · exact ⟨b, List.mem_cons_self, hb⟩
      · obtain ⟨b', hb', hf⟩ := hforth a' hmem
        exact ⟨b', List.mem_cons_of_mem _ hb', hf⟩

theorem mapM_returns_iff {f : α → Except ε β} :
    (∃ result, l.mapM f = .ok result) ↔ ∀ a ∈ l, ∃ b, f a = .ok b := by
  constructor
  · rintro ⟨result, h⟩ a hmem
    obtain ⟨b, -, hb⟩ := (mapM_ok_mem h).2 a hmem
    exact ⟨b, hb⟩
  · intro h
    induction l with
    | nil => exact ⟨[], List.mapM_nil⟩
    | cons a rest ih =>
      obtain ⟨b, hb⟩ := h a List.mem_cons_self
      obtain ⟨bs, hbs⟩ := ih fun a' hmem => h a' (List.mem_cons_of_mem _ hmem)
      refine ⟨b :: bs, ?_⟩
      rw [List.mapM_cons, bind_ok_iff]
      refine ⟨b, hb, ?_⟩
      rw [bind_ok_iff]
      exact ⟨bs, hbs, rfl⟩

theorem mapM_ok_map {γ : Type*} {f : α → Except ε β} {p : β → γ} {q : α → γ} {result : List β}
    (h : l.mapM f = .ok result) (hpq : ∀ a ∈ l, ∀ b, f a = .ok b → p b = q a) : result.map p = l.map q := by
  induction l generalizing result with
  | nil =>
    rw [List.mapM_nil] at h
    cases h
    rfl
  | cons a rest ih =>
    rw [List.mapM_cons, bind_ok_iff] at h
    obtain ⟨b, hb, h⟩ := h
    rw [bind_ok_iff] at h
    obtain ⟨bs, hbs, h⟩ := h
    cases h
    rw [List.map_cons, List.map_cons, hpq a List.mem_cons_self b hb,
      ih hbs fun a' hmem => hpq a' (List.mem_cons_of_mem _ hmem)]

theorem mapM_ok_length {f : α → Except ε β} {result : List β}
    (h : l.mapM f = .ok result) : result.length = l.length := by
  induction l generalizing result with
  | nil =>
    rw [List.mapM_nil] at h
    cases h
    rfl
  | cons a rest ih =>
    rw [List.mapM_cons, bind_ok_iff] at h
    obtain ⟨b, -, h⟩ := h
    rw [bind_ok_iff] at h
    obtain ⟨bs, hbs, h⟩ := h
    cases h
    rw [List.length_cons, List.length_cons, ih hbs]

theorem forM_ok_iff {f : α → Except ε PUnit} :
    l.forM f = .ok () ↔ ∀ a ∈ l, f a = .ok () := by
  induction l with
  | nil => simp [pure, Except.pure]
  | cons a rest ih =>
    have hcons : (a :: rest).forM f = f a >>= fun _ => rest.forM f := rfl
    rw [hcons, bind_ok_iff, List.forall_mem_cons, ← ih]
    constructor
    · rintro ⟨⟨⟩, ha, hrest⟩
      exact ⟨ha, hrest⟩
    · rintro ⟨ha, hrest⟩
      exact ⟨(), ha, hrest⟩

theorem of_ite_ne {p : Prop} [Decidable p] {a b c : α} (h : (if p then a else b) = c) (hne : a ≠ c) :
    ¬ p ∧ b = c := by
  by_cases hp : p
  · exact absurd ((if_pos hp).symm.trans h) hne
  · exact ⟨hp, (if_neg hp).symm.trans h⟩

/-- `a or b or …`: the first check that holds, or raises, decides. -/
def anyOf {ε : Type u} : List (Except ε Bool) → Except ε Bool
  | [] => .ok false
  | .error e :: _ => .error e
  | .ok true :: _ => .ok true
  | .ok false :: rest => anyOf rest

@[simp] theorem anyOf_eq_ok_false {ε : Type u} {checks : List (Except ε Bool)} :
    anyOf checks = .ok false ↔ ∀ check ∈ checks, check = .ok false := by
  induction checks with
  | nil => simp [anyOf]
  | cons check rest ih =>
    rw [List.forall_mem_cons, ← ih]
    cases check with
    | error e => simp [anyOf]
    | ok b => cases b <;> simp [anyOf]

end PduExamObserver
