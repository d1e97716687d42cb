import Mathlib.Logic.Relation

/-! # Labelled transition systems with guarded runs

A system is an initial predicate and a labelled step relation. `ReachableBy S guard` collects the
states reached by runs all of whose steps meet `guard`; `Reachable S` drops the guard. The rules
below turn one step lemma into a statement about every run, and about everything that follows a
given state. -/

namespace PduExamObserver.Transition
set_option autoImplicit false

/-- A transition system whose steps carry the action that caused them. -/
structure System (σ α : Type*) where
  init : σ → Prop
  step : σ → α → σ → Prop

variable {σ α : Type*} {S : System σ α} {guard guard' : σ → α → Prop}

/-- The states of the runs in which every step meets `guard` in the state it starts from. -/
inductive ReachableBy (S : System σ α) (guard : σ → α → Prop) : σ → Prop
  | init {s : σ} : S.init s → ReachableBy S guard s
  | step {s t : σ} {a : α} : ReachableBy S guard s → guard s a → S.step s a t → ReachableBy S guard t

/-- The states of all runs. -/
abbrev Reachable (S : System σ α) : σ → Prop := ReachableBy S fun _ _ => True

/-- An inductive invariant of the guarded steps holds in every state of a guarded run. -/
theorem ReachableBy.invariant {I : σ → Prop} (h0 : ∀ s, S.init s → I s)
    (hstep : ∀ s a t, I s → guard s a → S.step s a t → I t) {s : σ} (h : ReachableBy S guard s) :
    I s := by
  induction h with
  | init hi => exact h0 _ hi
  | step _ hg hs ih => exact hstep _ _ _ ih hg hs

theorem ReachableBy.mono (hg : ∀ s a, guard s a → guard' s a) {s : σ} (h : ReachableBy S guard s) :
    ReachableBy S guard' s := by
  induction h with
  | init hi => exact .init hi
  | step _ hgs hs ih => exact .step ih (hg _ _ hgs) hs

theorem ReachableBy.reachable {s : σ} (h : ReachableBy S guard s) : Reachable S s :=
  h.mono fun _ _ _ => trivial

theorem Reachable.next {s t : σ} {a : α} (h : Reachable S s) (hs : S.step s a t) : Reachable S t :=
  .step h trivial hs

/-- `t` follows `s` in some run. -/
def Later (S : System σ α) : σ → σ → Prop := Relation.ReflTransGen fun s t => ∃ a, S.step s a t

/-- What every step preserves is preserved by everything that follows. -/
theorem Later.preserves {P : σ → Prop} (hstep : ∀ s a t, P s → S.step s a t → P t) {s t : σ}
    (h : Later S s t) (hs : P s) : P t := by
  induction h with
  | refl => exact hs
  | tail _ ht ih =>
    obtain ⟨a, ha⟩ := ht
    exact hstep _ a _ ih ha

theorem Later.reachable {s t : σ} (h : Later S s t) (hs : Reachable S s) : Reachable S t :=
  h.preserves (fun _ _ _ hs ha => Reachable.next hs ha) hs

/-- `t` follows `s` in some run, and every step in between meets `guard`. -/
def LaterBy (S : System σ α) (guard : σ → α → Prop) : σ → σ → Prop :=
  Relation.ReflTransGen fun s t => ∃ a, guard s a ∧ S.step s a t

theorem LaterBy.reachableBy {s t : σ} (h : LaterBy S guard s t) (hs : ReachableBy S guard s) : ReachableBy S guard t := by
  induction h with
  | refl => exact hs
  | tail _ ht ih =>
    obtain ⟨a, hguard, ha⟩ := ht
    exact .step ih hguard ha

/-! ## Systems given by a function -/

/-- The system of a total step function. -/
def ofFun (init : σ → Prop) (f : σ → α → σ) : System σ α where
  init := init
  step := fun s a t => f s a = t

/-- Every action of the list meets `guard` in the state it is taken in. -/
def Guarded (f : σ → α → σ) (guard : σ → α → Prop) : σ → List α → Prop
  | _, [] => True
  | s, a :: rest => guard s a ∧ Guarded f guard (f s a) rest

instance decidableGuarded (f : σ → α → σ) (guard : σ → α → Prop) [∀ s a, Decidable (guard s a)] :
    ∀ s actions, Decidable (Guarded f guard s actions)
  | _, [] => .isTrue trivial
  | s, a :: rest =>
    have := decidableGuarded f guard (f s a) rest
    inferInstanceAs (Decidable (guard s a ∧ Guarded f guard (f s a) rest))

theorem reachableBy_foldl {init : σ → Prop} {f : σ → α → σ} (actions : List α) {s : σ}
    (h : ReachableBy (ofFun init f) guard s) (hg : Guarded f guard s actions) :
    ReachableBy (ofFun init f) guard (actions.foldl f s) := by
  induction actions generalizing s with
  | nil => exact h
  | cons a rest ih => exact ih (.step h hg.1 rfl) hg.2

theorem laterBy_foldl {init : σ → Prop} {f : σ → α → σ} (actions : List α) {s : σ} (hg : Guarded f guard s actions) :
    LaterBy (ofFun init f) guard s (actions.foldl f s) := by
  induction actions generalizing s with
  | nil => exact .refl
  | cons a rest ih => exact .head ⟨a, hg.1, rfl⟩ (ih hg.2)

theorem reachable_foldl {init : σ → Prop} {f : σ → α → σ} (actions : List α) {s : σ}
    (h : Reachable (ofFun init f) s) : Reachable (ofFun init f) (actions.foldl f s) := by
  induction actions generalizing s with
  | nil => exact h
  | cons a rest ih => exact ih (h.next rfl)

/-- A property that every step keeps exactly when the guard holds is kept in a whole run exactly when the guard holds at
every step. -/
theorem always_iff_guarded {f : σ → α → σ} {inv p : σ → Prop} {guard : σ → α → Prop} (hinv : ∀ s a, inv s → inv (f s a))
    (hstep : ∀ s a, inv s → p s → (p (f s a) ↔ guard s a)) (actions : List α) {s : σ} (hs : inv s) (hp : p s) :
    (∀ taken, taken <+: actions → p (taken.foldl f s)) ↔ Guarded f guard s actions := by
  induction actions generalizing s with
  | nil =>
    refine ⟨fun _ => trivial, fun _ taken htaken => ?_⟩
    rw [List.prefix_nil.mp htaken]
    exact hp
  | cons a rest ih =>
    constructor
    · intro hall
      have hnext : p (f s a) := hall [a] (List.prefix_append [a] rest)
      refine ⟨(hstep s a hs hp).mp hnext, (ih (hinv s a hs) hnext).mp fun taken htaken => ?_⟩
      exact hall (a :: taken) ((List.prefix_cons_inj a).mpr htaken)
    · rintro ⟨hguard, hrest⟩ taken htaken
      have hnext := (hstep s a hs hp).mpr hguard
      cases taken with
      | nil => exact hp
      | cons b taken =>
        obtain ⟨rfl, htail⟩ := List.cons_prefix_cons.mp htaken
        exact (ih (hinv s b hs) hnext).mpr hrest taken htail

end PduExamObserver.Transition
