import Mathlib.Data.Rat.Floor

/-! # Shared contract values

The closed enumerations of `contracts.py`, the JSON values that event payloads and stored responses
carry, and Python's dictionary update on them. Clock readings are floats in the source; they are
read exactly, as rationals. -/

namespace PduExamObserver
set_option autoImplicit false

/-- Seconds as read from `clock` or `monotonic_clock`. -/
abbrev Seconds := ℚ

inductive SessionState where
  | draft
  | consentConfirmed
  | preflightReady
  | recording
  | sealed
  | failed
  | withdrawn
  deriving DecidableEq, Repr, Inhabited

/-- The value of the `StrEnum` member, as stored in the database and in event payloads. -/
def SessionState.value : SessionState → String
  | .draft => "DRAFT"
  | .consentConfirmed => "CONSENT_CONFIRMED"
  | .preflightReady => "PREFLIGHT_READY"
  | .recording => "RECORDING"
  | .sealed => "SEALED"
  | .failed => "FAILED"
  | .withdrawn => "WITHDRAWN"

inductive SessionKind where
  | demo
  | research
  deriving DecidableEq, Repr, Inhabited

def SessionKind.value : SessionKind → String
  | .demo => "DEMO"
  | .research => "RESEARCH"

inductive ArtifactStatus where
  | valid
  | invalidated
  deriving DecidableEq, Repr, Inhabited

inductive Json where
  | null
  | bool (b : Bool)
  | int (n : Int)
  | float (q : ℚ)
  | str (s : String)
  | arr (items : List Json)
  | obj (fields : List (String × Json))
  deriving Inhabited

abbrev Dict := List (String × Json)

namespace Dict

/-- `d[key]`, when the key is present. -/
def get : Dict → String → Option Json
  | [], _ => none
  | (k, v) :: rest, key => if k = key then some v else get rest key

/-- `d[key] = value`: an existing key keeps its place. -/
def set : Dict → String → Json → Dict
  | [], key, value => [(key, value)]
  | (k, v) :: rest, key, value => if k = key then (k, value) :: rest else (k, v) :: set rest key value

/-- `{**d, **other}`. -/
def update (d other : Dict) : Dict := other.foldl (fun acc field => set acc field.1 field.2) d

theorem get_set_of_ne {d : Dict} {key other : String} {value : Json} (h : key ≠ other) :
    get (set d key value) other = get d other := by
  induction d with
  | nil => simp [get, set, h]
  | cons field rest ih =>
    obtain ⟨k, v⟩ := field
    by_cases hk : k = key
    · simp [get, set, hk, h]
    · simp only [set, hk, if_false, get, ih]

theorem get_update_of_notMem {d other : Dict} {key : String} (h : ∀ field ∈ other, field.1 ≠ key) :
    get (update d other) key = get d key := by
  induction other generalizing d with
  | nil => rfl
  | cons field other ih =>
    have htail := ih (d := set d field.1 field.2) fun f hf => h f (List.mem_cons_of_mem _ hf)
    rw [update, List.foldl_cons]
    exact htail.trans (get_set_of_ne (h field (List.mem_cons_self ..)))

theorem key_of_mem_set {d : Dict} {key : String} {value : Json} {field : String × Json} (h : field ∈ set d key value) :
    field.1 = key ∨ ∃ old ∈ d, old.1 = field.1 := by
  induction d with
  | nil =>
    rw [set, List.mem_singleton] at h
    exact .inl (congrArg Prod.fst h)
  | cons head rest ih =>
    obtain ⟨k, v⟩ := head
    rw [set] at h
    split at h
    · next heq =>
      rcases List.mem_cons.mp h with rfl | hrest
      · exact .inl heq
      · exact .inr ⟨field, List.mem_cons_of_mem _ hrest, rfl⟩
    · rcases List.mem_cons.mp h with rfl | hrest
      · exact .inr ⟨(k, v), List.mem_cons_self .., rfl⟩
      · rcases ih hrest with hkey | ⟨old, hold, heq⟩
        · exact .inl hkey
        · exact .inr ⟨old, List.mem_cons_of_mem _ hold, heq⟩

theorem key_of_mem_update {d other : Dict} {field : String × Json} (h : field ∈ update d other) :
    (∃ old ∈ d, old.1 = field.1) ∨ ∃ new ∈ other, new.1 = field.1 := by
  induction other generalizing d with
  | nil => exact .inl ⟨field, h, rfl⟩
  | cons head rest ih =>
    rw [update, List.foldl_cons] at h
    rcases ih h with ⟨old, hold, heq⟩ | ⟨new, hnew, heq⟩
    · rcases key_of_mem_set hold with hkey | ⟨first, hfirst, hsame⟩
      · exact .inr ⟨head, List.mem_cons_self .., hkey.symm.trans heq⟩
      · exact .inl ⟨first, hfirst, hsame.trans heq⟩
    · exact .inr ⟨new, List.mem_cons_of_mem _ hnew, heq⟩

end Dict

end PduExamObserver
