import PduExamObserver.Native.VerifiedReceipts

/-! # Values and their JSON text

What a value is after it has been written and read: the entries of its dictionaries are sorted, and all else is as it
was. -/

namespace PduExamObserver.Native
open Canonical
set_option autoImplicit false

variable {value : Value} {d d' : Dict} {key : String}

/-! ## Encodings -/

def Dict.encoded (d : Dict) : Dict := sortKeys (d.map fun field => (field.1, field.2.encoding))

theorem encodingItems_eq (items : List Value) : encodingItems items = items.map Value.encoding := by
  induction items with
  | nil => rfl
  | cons item items ih => rw [encodingItems, ih, List.map_cons]

theorem encodingFields_eq (fields : Dict) :
    encodingFields fields = fields.map fun field => (field.1, field.2.encoding) := by
  induction fields with
  | nil => rfl
  | cons field fields ih => rw [encodingFields, ih, List.map_cons]

@[simp] theorem encoding_list (items : List Value) : (Value.list items).encoding = .list (items.map Value.encoding) := by
  rw [Value.encoding, encodingItems_eq]

@[simp] theorem encoding_dict (d : Dict) : (Value.dict d).encoding = .dict d.encoded := by
  rw [Value.encoding, encodingFields_eq]
  rfl

@[simp] theorem encoding_str (s : String) : (Value.str s).encoding = .str s := rfl

theorem mem_encoded {field : String × Value} :
    field ∈ d.encoded ↔ ∃ source ∈ d, (source.1, source.2.encoding) = field := by
  unfold Dict.encoded
  rw [mem_sortKeys, List.mem_map]

theorem encoded_keys (d : Dict) : (d.encoded.map Prod.fst).Perm (d.map Prod.fst) := by
  have hperm := (sortKeys_perm (d.map fun field => (field.1, field.2.encoding))).map Prod.fst
  rwa [List.map_map] at hperm

theorem encoded_nodup : (d.encoded.map Prod.fst).Nodup ↔ (d.map Prod.fst).Nodup := (encoded_keys d).nodup_iff

theorem encoded_hasKeys {names : List String} : d.encoded.HasKeys names ↔ d.HasKeys names := by
  have hkeys : ∀ name, name ∈ d.encoded.map Prod.fst ↔ name ∈ d.map Prod.fst := fun name => (encoded_keys d).mem_iff
  have hall (fields : Dict) : (∀ field ∈ fields, field.1 ∈ names) ↔ ∀ name ∈ fields.map Prod.fst, name ∈ names := by
    rw [List.forall_mem_map]
  unfold Dict.HasKeys
  rw [hall, hall]
  simp only [hkeys]

theorem lookup_map_encoding (d : Dict) (key : String) :
    (d.map fun field => (field.1, field.2.encoding)).lookup key = (d.lookup key).map Value.encoding := by
  induction d with
  | nil => rfl
  | cons field rest ih =>
    rw [List.map_cons, List.lookup_cons, List.lookup_cons, ih]
    cases key == field.1 <;> rfl

theorem lookup_encoded (h : (d.map Prod.fst).Nodup) (key : String) :
    d.encoded.lookup key = (d.lookup key).map Value.encoding := by
  have hnodup : ((d.map fun field => (field.1, field.2.encoding)).map Prod.fst).Nodup := by rwa [List.map_map]
  unfold Dict.encoded
  rw [lookup_sortKeys hnodup, lookup_map_encoding]

theorem get_encoded (h : (d.map Prod.fst).Nodup) (key : String) : d.encoded.get key = (d.get key).encoding := by
  unfold Dict.get
  rw [lookup_encoded h]
  cases d.lookup key <;> rfl

theorem encoded_ext (h : (d.map Prod.fst).Nodup) (h' : (d'.map Prod.fst).Nodup)
    (hkeys : ∀ key, key ∈ d.map Prod.fst ↔ key ∈ d'.map Prod.fst)
    (hget : ∀ key ∈ d.map Prod.fst, (d.get key).encoding = (d'.get key).encoding) : d.encoded = d'.encoded := by
  refine sortKeys_ext (by rwa [List.map_map]) (by rwa [List.map_map]) fun key => ?_
  rw [lookup_map_encoding, lookup_map_encoding]
  have hsome {fields : Dict} (hmem : key ∈ fields.map Prod.fst) : fields.lookup key = some (fields.get key) := by
    obtain ⟨value, hvalue⟩ := exists_lookup.mpr hmem
    rw [Dict.get, hvalue, Option.getD_some]
  have hnone {fields : Dict} (hmem : key ∉ fields.map Prod.fst) : fields.lookup key = none := by
    cases hlookup : fields.lookup key with
    | none => rfl
    | some value => exact absurd (exists_lookup.mp ⟨value, hlookup⟩) hmem
  by_cases hmem : key ∈ d.map Prod.fst
  · rw [hsome hmem, hsome ((hkeys key).mp hmem), Option.map_some, Option.map_some, hget key hmem]
  · rw [hnone hmem, hnone fun hmem' => hmem ((hkeys key).mpr hmem')]

mutual

theorem encoding_encoding : (value : Value) → value.encoding.encoding = value.encoding
  | .none => rfl
  | .bool _ => rfl
  | .int _ => rfl
  | .float _ => rfl
  | .str _ => rfl
  | .list items => by
    rw [Value.encoding, Value.encoding, encodingItems_encodingItems items]
  | .dict fields => by
    have hfields := encodingFields_encodingFields fields
    rw [encoding_dict, encoding_dict]
    congr 1
    unfold Dict.encoded
    rw [← sortKeys_map, sortKeys_sortKeys]
    congr 1
    rwa [encodingFields_eq, encodingFields_eq] at hfields

theorem encodingItems_encodingItems : (items : List Value) → encodingItems (encodingItems items) = encodingItems items
  | [] => rfl
  | item :: items => by
    rw [encodingItems, encodingItems, encoding_encoding item, encodingItems_encodingItems items]

theorem encodingFields_encodingFields : (fields : Dict) → encodingFields (encodingFields fields) = encodingFields fields
  | [] => rfl
  | (key, value) :: fields => by
    rw [encodingFields, encodingFields, encoding_encoding value, encodingFields_encodingFields fields]

end

/-! ## What an encoding keeps -/

theorem encoding_str? (value : Value) : value.encoding.str? = value.str? := by cases value <;> rfl

theorem encoding_number (value : Value) : value.encoding.number = value.number := by cases value <;> rfl

theorem encoding_eq_int {n : Int} : value.encoding = .int n ↔ value = .int n := by
  cases value <;> simp [Value.encoding]

end PduExamObserver.Native
