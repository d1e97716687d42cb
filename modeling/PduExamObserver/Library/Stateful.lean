import Mathlib.Order.Defs.Unbundled

/-! # Stateful computations that may raise

`EStateM` keeps the state when it raises, as an imperative program does. `transaction` takes part of the state
back then, and `Keeps` is what every run of a computation keeps, whether it returns or raises. -/

namespace PduExamObserver.Stateful
set_option autoImplicit false

universe u
variable {ε σ α β : Type u}

/-- The state that a run ends in. -/
def final : EStateM.Result ε σ α → σ
  | .ok _ s => s
  | .error _ s => s

@[simp] theorem final_ok (a : α) (s : σ) : final (.ok a s : EStateM.Result ε σ α) = s := rfl

@[simp] theorem final_error (e : ε) (s : σ) : final (.error e s : EStateM.Result ε σ α) = s := rfl

/-- What a run returns, unless it raises. -/
def returned : EStateM.Result ε σ α → Option α
  | .ok a _ => some a
  | .error _ _ => none

theorem eq_ok_of_returned {result : EStateM.Result ε σ α} {a : α} (h : returned result = some a) :
    result = .ok a (final result) := by
  cases result with
  | ok b s =>
    cases h
    rfl
  | error e s => cases h

/-- A handler runs in the state that the exception left. -/
@[simp] theorem run_tryCatch (x : EStateM ε σ α) (handle : ε → EStateM ε σ α) (s : σ) :
    (tryCatch x handle).run s =
      match x.run s with
      | .ok a t => .ok a t
      | .error e t => (handle e).run t := by
  change EStateM.tryCatch x handle s = _
  unfold EStateM.tryCatch
  simp only [EStateM.run]
  cases x s <;> rfl

theorem run_bind_ok {x : EStateM ε σ α} {f : α → EStateM ε σ β} {s t : σ} {a : α} (h : x.run s = .ok a t) :
    (x >>= f).run s = (f a).run t := by
  rw [EStateM.run_bind, h]

theorem run_bind_error {x : EStateM ε σ α} {f : α → EStateM ε σ β} {s t : σ} {e : ε} (h : x.run s = .error e t) :
    (x >>= f).run s = .error e t := by
  rw [EStateM.run_bind, h]

/-- A run that returns has returned from its first part. -/
theorem run_bind_eq_ok {x : EStateM ε σ α} {f : α → EStateM ε σ β} {s u : σ} {b : β} (h : (x >>= f).run s = .ok b u) :
    ∃ a t, x.run s = .ok a t ∧ (f a).run t = .ok b u := by
  rw [EStateM.run_bind] at h
  cases hrun : x.run s with
  | ok a t =>
    rw [hrun] at h
    exact ⟨a, t, rfl, h⟩
  | error e t =>
    rw [hrun] at h
    cases h

/-- `with connection`: when the body raises, `restore` takes back what is not to be kept. -/
def transaction (restore : σ → σ → σ) (x : EStateM ε σ α) : EStateM ε σ α := fun s =>
  match x s with
  | .ok a t => .ok a t
  | .error e t => .error e (restore s t)

theorem run_transaction (restore : σ → σ → σ) (x : EStateM ε σ α) (s : σ) :
    (transaction restore x).run s =
      match x.run s with
      | .ok a t => .ok a t
      | .error e t => .error e (restore s t) := rfl

/-- The steps in order, up to the fault: after `k` of them `e` is raised. -/
def interrupted (fault : Option (Nat × ε)) (steps : List (EStateM ε σ PUnit)) : EStateM ε σ PUnit :=
  match fault with
  | none => forM steps id
  | some (k, e) => do
    forM (steps.take k) id
    throw e

/-! ## What every run keeps -/

/-- Every run ends in a state that is related to the one it starts in. -/
def Keeps (R : σ → σ → Prop) (x : EStateM ε σ α) : Prop := ∀ s, R s (final (x.run s))

section Keeps

variable {R : σ → σ → Prop} {x : EStateM ε σ α} {f : α → EStateM ε σ β}

theorem Keeps.ok {s t : σ} {a : α} (h : Keeps R x) (hrun : x.run s = .ok a t) : R s t := by
  have hs := h s
  rwa [hrun] at hs

theorem Keeps.error {s t : σ} {e : ε} (h : Keeps R x) (hrun : x.run s = .error e t) : R s t := by
  have hs := h s
  rwa [hrun] at hs

theorem Keeps.modify {g : σ → σ} (h : ∀ s, R s (g s)) : Keeps R (modify g : EStateM ε σ PUnit) := h

theorem Keeps.ite {p : Prop} [Decidable p] {y : EStateM ε σ α} (hx : p → Keeps R x) (hy : ¬ p → Keeps R y) :
    Keeps R (if p then x else y) := by
  split
  · exact hx ‹_›
  · exact hy ‹_›

theorem Keeps.transaction {restore : σ → σ → σ} (hrestore : ∀ s t, R s t → R s (restore s t)) (hx : Keeps R x) :
    Keeps R (transaction restore x) := by
  intro s
  have hstart := hx s
  rw [run_transaction]
  cases hrun : x.run s with
  | ok a t =>
    rw [hrun] at hstart
    exact hstart
  | error e t =>
    rw [hrun] at hstart
    exact hrestore s t hstart

variable [IsPreorder σ R]

theorem Keeps.return (a : α) : Keeps R (pure a : EStateM ε σ α) := fun s => Std.Refl.refl s

theorem Keeps.throw (e : ε) : Keeps R (throw e : EStateM ε σ α) := fun s => Std.Refl.refl s

theorem Keeps.get : Keeps R (get : EStateM ε σ σ) := fun s => Std.Refl.refl s

theorem Keeps.bind (hx : Keeps R x) (hf : ∀ a, Keeps R (f a)) :
    Keeps R (x >>= f) := by
  intro s
  have hstart := hx s
  rw [EStateM.run_bind]
  cases hrun : x.run s with
  | ok a t =>
    rw [hrun] at hstart
    exact IsTrans.trans _ _ _ hstart (hf a t)
  | error e t =>
    rw [hrun] at hstart
    exact hstart

theorem Keeps.tryCatch {handle : ε → EStateM ε σ α} (hx : Keeps R x)
    (hhandle : ∀ e, Keeps R (handle e)) : Keeps R (tryCatch x handle) := by
  intro s
  have hstart := hx s
  rw [run_tryCatch]
  cases hrun : x.run s with
  | ok a t =>
    rw [hrun] at hstart
    exact hstart
  | error e t =>
    rw [hrun] at hstart
    exact IsTrans.trans _ _ _ hstart (hhandle e t)

theorem Keeps.forM {γ : Type u} {items : List γ}
    {g : γ → EStateM ε σ PUnit} (h : ∀ item ∈ items, Keeps R (g item)) : Keeps R (forM items g) := by
  induction items with
  | nil => exact Keeps.return _
  | cons item rest ih =>
    rw [List.forM_cons]
    exact Keeps.bind (h item List.mem_cons_self) fun _ => ih fun i hi => h i (List.mem_cons_of_mem _ hi)

end Keeps

/-! ## How a run ends -/

/-- The run ends in a state, and with a value or an exception, of which `Q` holds. -/
def Ends (x : EStateM ε σ α) (s : σ) (Q : Except ε α → σ → Prop) : Prop :=
  match x.run s with
  | .ok a t => Q (.ok a) t
  | .error e t => Q (.error e) t

section Ends

variable {x : EStateM ε σ α} {f : α → EStateM ε σ β} {s : σ} {R : Except ε α → σ → Prop} {Q : Except ε β → σ → Prop}

theorem Ends.ok {a : α} {t : σ} (h : Ends x s R) (hrun : x.run s = .ok a t) : R (.ok a) t := by
  rw [Ends, hrun] at h
  exact h

theorem Ends.error {e : ε} {t : σ} (h : Ends x s R) (hrun : x.run s = .error e t) : R (.error e) t := by
  rw [Ends, hrun] at h
  exact h

/-- A run that raises skips what comes after it. -/
theorem Ends.bind (hx : Ends x s R) (hf : ∀ a t, R (.ok a) t → Ends (f a) t Q)
    (herror : ∀ e t, R (.error e) t → Q (.error e) t) : Ends (x >>= f) s Q := by
  rw [Ends, EStateM.run_bind]
  cases hrun : x.run s with
  | ok a t => exact hf a t (hx.ok hrun)
  | error e t => exact herror e t (hx.error hrun)

theorem Ends.get_bind {f : σ → EStateM ε σ β} (h : Ends (f s) s Q) : Ends (get >>= f) s Q := h

theorem Ends.modify_bind {g : σ → σ} {f : PUnit → EStateM ε σ β} (h : Ends (f ⟨⟩) (g s) Q) :
    Ends (modify g >>= f) s Q := h

theorem Ends.modify {g : σ → σ} {R : Except ε PUnit → σ → Prop} (h : R (.ok ⟨⟩) (g s)) : Ends (modify g) s R := h

theorem Ends.tryCatch {Q : Except ε α → σ → Prop} {handle : ε → EStateM ε σ α} (hx : Ends x s R)
    (hok : ∀ a t, R (.ok a) t → Q (.ok a) t) (hhandle : ∀ e t, R (.error e) t → Ends (handle e) t Q) :
    Ends (tryCatch x handle) s Q := by
  rw [Ends, run_tryCatch]
  cases hrun : x.run s with
  | ok a t => exact hok a t (hx.ok hrun)
  | error e t => exact hhandle e t (hx.error hrun)

end Ends

/-! ## Whether a run returns -/

/-- The run from `s` returns exactly if `p` holds, in a state related to `s` by `R`; if it raises, the state that it
leaves is related to `s` by `R'`. -/
def ReturnsIff (p : Prop) (R R' : σ → σ → Prop) (x : EStateM ε σ α) (s : σ) : Prop :=
  (p ∧ ∃ a t, x.run s = .ok a t ∧ R s t) ∨ (¬ p ∧ ∃ e t, x.run s = .error e t ∧ R' s t)

section ReturnsIff

variable {p q : Prop} {R R' : σ → σ → Prop} {x : EStateM ε σ α} {s t : σ} {a : α} {e : ε}

theorem ReturnsIff.congr (hpq : p ↔ q) (h : ReturnsIff p R R' x s) : ReturnsIff q R R' x s := by
  rwa [ReturnsIff, ← hpq]

/-- A run goes on as another one, from a state that it has come to. -/
theorem ReturnsIff.step {Q Q' : σ → σ → Prop} {y : EStateM ε σ α} (h : ReturnsIff p Q Q' x t)
    (hrun : y.run s = x.run t) (hR : ∀ u, Q t u → R s u) (hR' : ∀ u, Q' t u → R' s u) : ReturnsIff p R R' y s := by
  rcases h with ⟨hp, a, u, hok, hu⟩ | ⟨hp, e, u, herror, hu⟩
  · exact .inl ⟨hp, a, u, hrun.trans hok, hR u hu⟩
  · exact .inr ⟨hp, e, u, hrun.trans herror, hR' u hu⟩

theorem ReturnsIff.transaction {restore : σ → σ → σ} {Q' : σ → σ → Prop} (h : ReturnsIff p R R' x s)
    (hrestore : ∀ u, R' s u → Q' s (restore s u)) : ReturnsIff p R Q' (transaction restore x) s := by
  rw [ReturnsIff, run_transaction]
  rcases h with ⟨hp, a, u, hrun, hu⟩ | ⟨hp, e, u, hrun, hu⟩
  · rw [hrun]
    exact .inl ⟨hp, a, u, rfl, hu⟩
  · rw [hrun]
    exact .inr ⟨hp, e, _, rfl, hrestore u hu⟩

theorem ReturnsIff.returned (hp : p) (hrun : x.run s = .ok a t) (hR : R s t) : ReturnsIff p R R' x s :=
  .inl ⟨hp, a, t, hrun, hR⟩

theorem ReturnsIff.raised (hp : ¬ p) (hrun : x.run s = .error e t) (hR : R' s t) : ReturnsIff p R R' x s :=
  .inr ⟨hp, e, t, hrun, hR⟩

end ReturnsIff

end PduExamObserver.Stateful
