import PduExamObserver.Library.Canonical

/-! # Values, texts and bytes of the authority store

What the authority store, the receipts and the failure ledgers are made of. A canonical JSON text is kept
as the value it encodes, so that equal texts are equal values; SHA-256 is a parameter. -/

namespace PduExamObserver.Authority
open Canonical
set_option autoImplicit false

instance stringTotal : Std.Total (α := String) (· ≤ ·) := ⟨String.le_total⟩

instance stringTrans : IsTrans String (· ≤ ·) := ⟨fun _ _ _ => String.le_trans⟩

inductive Scalar where
  | null
  | bool (b : Bool)
  | int (n : Int)
  | str (s : String)
  deriving DecidableEq, Repr

/-- The text `json.dumps` writes, without sorting, for an object or for an array of objects. -/
inductive JsonText where
  | object (fields : List (String × Scalar))
  | array (items : List (List (String × Scalar)))
  deriving DecidableEq, Repr

/-- A field of a record. `json` is the string that is such a text, `str` any other string. -/
inductive Value where
  | null
  | bool (b : Bool)
  | int (n : Int)
  | str (s : String)
  | json (text : JsonText)
  deriving DecidableEq, Repr

abbrev Fields := List (String × Value)

inductive Bytes where
  | record (fields : Fields)
  | text (text : JsonText)
  | raw (octets : List UInt8)
  deriving DecidableEq, Repr

/-- `_canonical_bytes`, as the text of an object of scalars and strings. -/
def canonicalBytes (fields : Fields) : Bytes := .record (sortKeys fields)

/-- `_canonical_bytes(decoded) == value`, for receipts and ledgers. -/
def JsonText.isCanonical : JsonText → Bool
  | .object fields => (fields.map Prod.fst).Nodup ∧ sortKeys fields = fields
  | .array items => ∀ fields ∈ items, (fields.map Prod.fst).Nodup ∧ sortKeys fields = fields

/-- `_is_digest` of a string. -/
def isHexDigest (s : String) : Bool :=
  s.length = 64 ∧ s.toList.all fun character => "0123456789abcdef".toList.contains character

theorem isHexDigest_replicate (digit : Char) :
    isHexDigest (String.ofList (List.replicate 64 digit)) = "0123456789abcdef".toList.contains digit := by
  simp only [isHexDigest, String.length_ofList, String.toList_ofList, List.length_replicate, true_and,
    Bool.decide_eq_true]
  simp

def Value.isDigest : Value → Bool
  | .str s => isHexDigest s
  | _ => false

/-- `_digest`. -/
def Scalar.isDigest : Scalar → Bool
  | .str s => isHexDigest s
  | _ => false

def Scalar.isBool : Scalar → Bool
  | .bool _ => true
  | _ => false

/-- `hashlib.sha256(value).hexdigest()`. -/
structure Sha256 where
  hexdigest : Bytes → String
  digest : ∀ value, isHexDigest (hexdigest value) = true

end PduExamObserver.Authority
