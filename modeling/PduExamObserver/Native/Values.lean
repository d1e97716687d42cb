import Mathlib.Data.Rat.Floor
import PduExamObserver.Authority.Values

/-! # Python values of the native modules

What `json.loads` gives and what the receipts of the capture worker carry without a type check. Finite
floats are read exactly, as rationals. -/

namespace PduExamObserver.Native
open Authority
set_option autoImplicit false

inductive Raised where
  | typeError
  | valueError
  | osError
  | other
  deriving DecidableEq, Repr

inductive PyFloat where
  | finite (q : ℚ)
  | infinity (negative : Bool)
  | nan
  deriving DecidableEq, Repr, Inhabited

namespace PyFloat

def eq : PyFloat → PyFloat → Bool
  | finite q, finite q' => q = q'
  | infinity negative, infinity negative' => negative = negative'
  | _, _ => false

def lt (x : PyFloat) (bound : ℚ) : Bool :=
  match x with
  | finite q => q < bound
  | infinity negative => negative
  | nan => false

def gt (x : PyFloat) (bound : ℚ) : Bool :=
  match x with
  | finite q => bound < q
  | infinity negative => !negative
  | nan => false

def add : PyFloat → PyFloat → PyFloat
  | finite q, finite q' => finite (q + q')
  | finite _, infinity negative => infinity negative
  | infinity negative, finite _ => infinity negative
  | infinity negative, infinity negative' => if negative = negative' then infinity negative else nan
  | _, _ => nan

end PyFloat

inductive Value where
  | none
  | bool (b : Bool)
  | int (n : Int)
  | float (x : PyFloat)
  | str (s : String)
  | list (items : List Value)
  | dict (fields : List (String × Value))
  deriving Inhabited

abbrev Dict := List (String × Value)

/-- `d.get(key)`. -/
def Dict.get (d : Dict) (key : String) : Value := (d.lookup key).getD .none

/-- `set(d) == {*names}`. -/
def Dict.HasKeys (d : Dict) (names : List String) : Prop :=
  (∀ field ∈ d, field.1 ∈ names) ∧ ∀ name ∈ names, name ∈ d.map Prod.fst

instance (d : Dict) (names : List String) : Decidable (d.HasKeys names) :=
  inferInstanceAs (Decidable (_ ∧ _))

namespace Value

/-- `bool(value)`. -/
def truthy : Value → Bool
  | none => false
  | bool b => b
  | int n => n ≠ 0
  | float x => x ≠ .finite 0
  | str s => s ≠ ""
  | list items => !items.isEmpty
  | dict fields => !fields.isEmpty

def isNone : Value → Bool
  | none => true
  | _ => false

/-- The number that the value is: `True == 1`. -/
def number : Value → Option PyFloat
  | bool b => some (.finite (if b then 1 else 0))
  | int n => some (.finite n)
  | float x => some x
  | _ => Option.none

/-- `type(value) is int`. -/
def int? : Value → Option Int
  | int n => some n
  | _ => Option.none

/-- `type(value) is bool`. -/
def bool? : Value → Option Bool
  | bool b => some b
  | _ => Option.none

def str? : Value → Option String
  | str s => some s
  | _ => Option.none

def dict? : Value → Option Dict
  | dict fields => some fields
  | _ => Option.none

mutual

/-- `a == b`. -/
def eq : Value → Value → Bool
  | none, other => other.isNone
  | bool b, other => other.number.any (PyFloat.eq (.finite (if b then 1 else 0)))
  | int n, other => other.number.any (PyFloat.eq (.finite n))
  | float x, other => other.number.any (PyFloat.eq x)
  | str s, other => other.str? = some s
  | list items, list items' => eqItems items items'
  | dict fields, dict fields' => fields.length = fields'.length && eqFields fields fields'
  | _, _ => false

def eqItems : List Value → List Value → Bool
  | [], [] => true
  | item :: items, item' :: items' => eq item item' && eqItems items items'
  | _, _ => false

def eqFields : Dict → Dict → Bool
  | [], _ => true
  | (key, value) :: fields, fields' =>
    (match fields'.lookup key with
    | some value' => eq value value'
    | Option.none => false) && eqFields fields fields'

end

/-- `a < b` for a number `b`. -/
def lt (value : Value) (bound : ℚ) : Except Raised Bool :=
  match value.number with
  | some x => .ok (x.lt bound)
  | Option.none => .error .typeError

/-- `a > b` for a number `b`. -/
def gt (value : Value) (bound : ℚ) : Except Raised Bool :=
  match value.number with
  | some x => .ok (x.gt bound)
  | Option.none => .error .typeError

/-- `a <= b` for a number `b`. -/
def le (value : Value) (bound : ℚ) : Except Raised Bool :=
  match value.number with
  | some x => .ok (x.lt bound || x.eq (.finite bound))
  | Option.none => .error .typeError

/-- `int(value)`, for a value that counts as an integer. -/
def whole? : Value → Option Int
  | bool b => some (if b then 1 else 0)
  | int n => some n
  | _ => Option.none

/-- `a + b`. -/
def add : Value → Value → Except Raised Value
  | str s, str s' => .ok (str (s ++ s'))
  | list items, list items' => .ok (list (items ++ items'))
  | a, b =>
    match a.whole?, b.whole? with
    | some n, some n' => .ok (int (n + n'))
    | _, _ =>
      match a.number, b.number with
      | some x, some y => .ok (float (x.add y))
      | _, _ => .error .typeError

def isDigest : Value → Bool
  | str s => isHexDigest s
  | _ => false

def ofOption {α : Type} (wrap : α → Value) : Option α → Value
  | Option.none => none
  | some a => wrap a

end Value

end PduExamObserver.Native
