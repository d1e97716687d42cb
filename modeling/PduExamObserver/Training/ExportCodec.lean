import PduExamObserver.Native.Encodings
import PduExamObserver.Training.ProtocolFreeze

/-! # The export codec

`build_research_export` and `validate_research_export` over records of any JSON values. The text of a value is its
encoding: what `json.loads` gives of what `json.dumps` writes. -/

namespace PduExamObserver.Training.ExportCodec
open Native Canonical
set_option autoImplicit false

/-! ## Functions of the language -/

/-- `str`, of which only the value of a string is used. -/
structure PyStr where
  str : Value → String
  str_str : ∀ s, str (.str s) = s

/-- `len(value)`; a value that has none raises. -/
def len? : Value → Option Nat
  | .str s => some s.length
  | .list items => some items.length
  | .dict fields => some fields.length
  | _ => none

/-- `value not in {..}` raises for a value that cannot be hashed. -/
def hashed : Value → Except String Value
  | .list _ => .error "TypeError"
  | .dict _ => .error "TypeError"
  | value => .ok value

/-- `dict(record, key=value)`. -/
def put (d : Dict) (key : String) (value : Value) : Dict :=
  if key ∈ d.map Prod.fst then d.map fun field => if field.1 = key then (key, value) else field
  else d ++ [(key, value)]

def canonical (value : Value) : Except String Value :=
  if finite value then .ok value.encoding else .error "Out of range float values are not JSON compliant"

/-! ## Records -/

def recordFields : List String :=
  ["export_id", "manifest_sha256", "schema_version", "record_count", "sample_id", "participant_pseudonym",
    "session_pseudonym", "source_kind", "parent_provenance_id", "pose", "label", "quality", "focus", "timing"]

def manifestFields : List String := ["schema_version", "export_id", "record_count", "manifest_sha256"]

def isText (value : Value) : Prop := ∃ s ∈ value.str?, s ≠ ""

instance (value : Value) : Decidable (isText value) := inferInstanceAs (Decidable (∃ s ∈ value.str?, _))

def validateRecord (record : Dict) : Except String Unit := do
  require (record.HasKeys recordFields) "record does not match the exact export envelope"
  require ((record.get "schema_version").eq (.int 1) = true) "record schema is incompatible"
  require (isText (record.get "sample_id") ∧ isText (record.get "participant_pseudonym") ∧
    isText (record.get "session_pseudonym")) "record pseudonymous identifier is invalid"
  let sourceKind ← hashed (record.get "source_kind")
  require (sourceKind.str? = some "REAL" ∨ sourceKind.str? = some "AI_RENDERED" ∨ sourceKind.str? = some "AUGMENTED")
    "record source_kind is invalid"
  require (sourceKind.str? = some "AUGMENTED" → isText (record.get "parent_provenance_id"))
    "augmented record requires parent provenance"
  let timing ← orError "record timing is invalid" (record.get "timing").dict?
  if sourceKind.str? = some "REAL" then do
    let phase ← hashed (timing.get "phase")
    require (phase.str? = some "PILOT" ∨ phase.str? = some "CONFIRMATORY")
      "REAL record timing.phase must be PILOT or CONFIRMATORY"
  else return ()

/-- `str(record["sample_id"])`, of a record that is valid. -/
def sampleId (record : Dict) : String := (record.get "sample_id").str?.getD ""

def checkRecords (check : Dict → Except String Unit) : List String → List Dict → Except String Unit
  | _, [] => .ok ()
  | seen, record :: rest => do
    check record
    require (sampleId record ∉ seen) "sample_id must be unique"
    checkRecords check (sampleId record :: seen) rest

def manifestPreimage (exportId : Value) (records : List Dict) : Dict :=
  [("schema_version", .int 1), ("export_id", exportId), ("record_count", .int records.length),
    ("records", .list (records.map fun record => .dict (put record "manifest_sha256" (.str ""))))]

/-! ## The archive -/

/-- What `json.loads` gives of the two files: of the one, and of each line of the other. -/
structure Archive where
  manifest : Value
  records : List Value

def prepared (exportId : Value) (count : Nat) (record : Dict) : Dict :=
  put (put (put record "export_id" exportId) "manifest_sha256" (.str "")) "record_count" (.int count)

/-- `build_research_export`; `sha256` is the digest of the text of a value. -/
def buildResearchExport (sha256 : Value → String) (records : List Dict) (exportId : Value) :
    Except String (Archive × Dict) := do
  require (exportId.truthy = true) "export_id is required"
  let length ← orError "TypeError" (len? exportId)
  require (length ≤ 128) "export_id is required"
  require (records ≠ []) "at least one export record is required"
  checkRecords validateRecord [] records
  let prepared := records.map (prepared exportId records.length)
  let manifestSha256 := sha256 (← canonical (.dict (manifestPreimage exportId prepared)))
  let manifest : Dict :=
    [("schema_version", .int 1), ("export_id", exportId), ("record_count", .int prepared.length),
      ("manifest_sha256", .str manifestSha256)]
  let finalRecords := prepared.map fun record => put record "manifest_sha256" (.str manifestSha256)
  let manifestText ← canonical (.dict manifest)
  let recordTexts ← finalRecords.mapM fun record => canonical (.dict record)
  return (⟨manifestText, recordTexts⟩, manifest)

def boundTo (manifest : Dict) (count : Nat) (record : Dict) : Prop :=
  (record.get "export_id").eq (manifest.get "export_id") = true ∧
    (record.get "manifest_sha256").eq (manifest.get "manifest_sha256") = true ∧
    (record.get "record_count").eq (.int count) = true

instance (manifest : Dict) (count : Nat) (record : Dict) : Decidable (boundTo manifest count record) :=
  inferInstanceAs (Decidable (_ ∧ _ ∧ _))

/-- `validate_research_export`, of an archive that can be decoded. -/
def validateResearchExport (sha256 : Value → String) (py : PyStr) (archive : Archive) :
    Except String (Dict × List Dict) := do
  let manifest ← orError "export manifest is incompatible" archive.manifest.dict?
  require (manifest.HasKeys manifestFields) "export manifest is incompatible"
  let records ← archive.records.mapM fun record => orError "export records must be objects" record.dict?
  let recorded ← orError "export manifest digest/count is invalid" (manifest.get "manifest_sha256").str?
  require ((manifest.get "schema_version").eq (.int 1) = true ∧
    (manifest.get "record_count").eq (.int records.length) = true) "export manifest digest/count is invalid"
  checkRecords (fun record => do
    validateRecord record
    require (boundTo manifest records.length record) "record is not bound to its export manifest") [] records
  let text ← canonical (.dict (manifestPreimage (.str (py.str (manifest.get "export_id"))) records))
  require (sha256 text = recorded) "export manifest digest does not bind the records"
  return (manifest, records)

/-! ## Dictionaries -/

variable {d record : Dict} {key key' : String} {value exportId : Value} {records : List Dict} {sha256 : Value → String}
  {py : PyStr} {archive : Archive} {manifest : Dict} {count : Nat}

theorem keys_put : (put d key value).map Prod.fst = if key ∈ d.map Prod.fst then d.map Prod.fst else d.map Prod.fst ++ [key] := by
  unfold put
  split
  · rw [List.map_map]
    refine List.map_congr_left fun field _ => ?_
    by_cases h : field.1 = key <;> simp [h]
  · simp

theorem mem_keys_put : key' ∈ (put d key value).map Prod.fst ↔ key' = key ∨ key' ∈ d.map Prod.fst := by
  rw [keys_put]
  split
  · next hmem =>
    constructor
    · exact .inr
    · rintro (rfl | h)
      · exact hmem
      · exact h
  · rw [List.mem_append, List.mem_singleton, or_comm]

theorem nodup_put (h : (d.map Prod.fst).Nodup) : ((put d key value).map Prod.fst).Nodup := by
  rw [keys_put]
  split
  · exact h
  · next hmem =>
    refine List.Nodup.append h (List.nodup_singleton key) ?_
    intro other hother hkey
    exact hmem (List.mem_singleton.mp hkey ▸ hother)

theorem get_put : (put d key value).get key' = if key' = key then value else d.get key' := by
  have hmapped : (d.map fun field => if field.1 = key then (key, value) else field).lookup key' =
      if key' = key then (d.lookup key').map fun _ => value else d.lookup key' := by
    induction d with
    | nil => split <;> rfl
    | cons field rest ih =>
      rw [List.map_cons, List.lookup_cons, List.lookup_cons, ih]
      by_cases hfield : field.1 = key
      · rw [if_pos hfield]
        by_cases hkey : key' = key
        · simp [hkey, hfield]
        · have hne : (key' == key) = false := beq_false_of_ne hkey
          simp [hkey, hfield, hne]
      · rw [if_neg hfield]
        by_cases hkey : key' = key
        · have hne : (key' == field.1) = false := beq_false_of_ne fun heq => hfield (heq.symm.trans hkey)
          rw [hne, if_pos hkey]
        · simp only [if_neg hkey]
  unfold put Native.Dict.get
  split
  · next hmem =>
    rw [hmapped]
    split
    · next hkey =>
      obtain ⟨old, hold⟩ := exists_lookup.mpr hmem
      rw [hkey, hold]
      rfl
    · rfl
  · next hmem =>
    rw [List.lookup_append]
    split
    · next hkey =>
      have hnone : d.lookup key' = none := by
        cases hlookup : d.lookup key' with
        | none => rfl
        | some old => exact absurd (exists_lookup.mp ⟨old, hlookup⟩) (hkey ▸ hmem)
      rw [hnone, hkey]
      simp
    · next hkey =>
      have hne : (key' == key) = false := beq_false_of_ne hkey
      cases d.lookup key' <;> simp [List.lookup_cons, hne]

theorem mem_put {field : String × Value} (hmem : field ∈ put d key value) :
    field = (key, value) ∨ field ∈ d ∧ field.1 ≠ key := by
  unfold put at hmem
  split at hmem
  · obtain ⟨old, hold, rfl⟩ := List.mem_map.mp hmem
    by_cases hkey : old.1 = key
    · rw [if_pos hkey]
      exact .inl rfl
    · rw [if_neg hkey]
      exact .inr ⟨hold, hkey⟩
  · next hnew =>
    rcases List.mem_append.mp hmem with hmem | hmem
    · exact .inr ⟨hmem, fun heq => hnew (heq ▸ List.mem_map_of_mem hmem)⟩
    · exact .inl (List.mem_singleton.mp hmem)

theorem mem_put_of_ne {field : String × Value} (hmem : field ∈ d) (hne : field.1 ≠ key) : field ∈ put d key value := by
  unfold put
  split
  · exact List.mem_map.mpr ⟨field, hmem, if_neg hne⟩
  · exact List.mem_append_left _ hmem

/-! ## Finite values -/

theorem finiteItems_iff {items : List Value} : finiteItems items = true ↔ ∀ item ∈ items, finite item = true := by
  induction items with
  | nil => simp [finiteItems]
  | cons item rest ih => rw [finiteItems, Bool.and_eq_true, ih, List.forall_mem_cons]

theorem finiteFields_iff : finiteFields d = true ↔ ∀ field ∈ d, finite field.2 = true := by
  induction d with
  | nil => simp [finiteFields]
  | cons field rest ih =>
    obtain ⟨key, value⟩ := field
    rw [finiteFields, Bool.and_eq_true, ih, List.forall_mem_cons]

mutual

theorem finite_encoding : (value : Value) → finite value.encoding = finite value
  | .none => rfl
  | .bool _ => rfl
  | .int _ => rfl
  | .float _ => rfl
  | .str _ => rfl
  | .list items => by
    rw [Value.encoding, finite, finite, finiteItems_encoding items]
  | .dict fields => by
    rw [encoding_dict, finite, finite, Bool.eq_iff_iff, ← finiteFields_encoding fields, finiteFields_iff, finiteFields_iff]
    unfold Dict.encoded
    rw [encodingFields_eq]
    simp only [mem_sortKeys]

theorem finiteItems_encoding : (items : List Value) → finiteItems (encodingItems items) = finiteItems items
  | [] => rfl
  | item :: items => by
    rw [encodingItems, finiteItems, finiteItems, finite_encoding item, finiteItems_encoding items]

theorem finiteFields_encoding : (fields : Dict) → finiteFields (encodingFields fields) = finiteFields fields
  | [] => rfl
  | (key, value) :: fields => by
    rw [encodingFields, finiteFields, finiteFields, finite_encoding value, finiteFields_encoding fields]

end

theorem canonical_ok_iff {text : Value} : canonical value = .ok text ↔ finite value = true ∧ text = value.encoding := by
  unfold canonical
  split
  · next h => simp [h, eq_comm]
  · next h => simp [h]

/-! ## Distinct keys -/

mutual

def distinct : Value → Prop
  | .list items => distinctItems items
  | .dict fields => (fields.map Prod.fst).Nodup ∧ distinctFields fields
  | _ => True

def distinctItems : List Value → Prop
  | [] => True
  | item :: items => distinct item ∧ distinctItems items

def distinctFields : Dict → Prop
  | [] => True
  | (_, value) :: fields => distinct value ∧ distinctFields fields

end

theorem distinct_get (h : distinctFields d) (key : String) : distinct (d.get key) := by
  unfold Native.Dict.get
  induction d with
  | nil => exact trivial
  | cons field rest ih =>
    obtain ⟨key', value⟩ := field
    rw [distinctFields] at h
    rw [List.lookup_cons]
    cases key == key' with
    | true => exact h.1
    | false => exact ih h.2

/-! ## Valid records -/

theorem eq_int {n : Int} : value.eq (.int n) = value.number.any fun x => x.eq (.finite n) := by
  cases value <;> simp [Value.eq, Value.number, Value.isNone, Value.str?]

theorem eq_str {s : String} : value.eq (.str s) = true ↔ value = .str s := by
  cases value <;> simp [Value.eq, Value.number, Value.isNone, Value.str?, eq_comm]

theorem eq_self_int {n : Int} : (Value.int n).eq (.int n) = true := by
  rw [eq_int, Value.number, Option.any_some]
  simp [PyFloat.eq]

theorem hashed_ok_of_str {s : String} (h : value.str? = some s) : hashed value = .ok value := by
  cases value <;> first | rfl | cases h

theorem hashed_eq {other : Value} (h : hashed value = .ok other) : other = value := by
  unfold hashed at h
  split at h
  · cases h
  · cases h
  · exact (Except.ok.inj h).symm

/-- What `_validate_record` asks of a record. -/
structure ValidRecord (record : Dict) : Prop where
  fields : record.HasKeys recordFields
  schema : (record.get "schema_version").eq (.int 1) = true
  names : isText (record.get "sample_id") ∧ isText (record.get "participant_pseudonym") ∧
    isText (record.get "session_pseudonym")
  source : (record.get "source_kind").str? = some "REAL" ∨ (record.get "source_kind").str? = some "AI_RENDERED" ∨
    (record.get "source_kind").str? = some "AUGMENTED"
  parent : (record.get "source_kind").str? = some "AUGMENTED" → isText (record.get "parent_provenance_id")
  timing : ∃ timing, record.get "timing" = .dict timing ∧ ((record.get "source_kind").str? = some "REAL" →
    (Dict.get timing "phase").str? = some "PILOT" ∨ (Dict.get timing "phase").str? = some "CONFIRMATORY")

theorem validateRecord_ok_iff : validateRecord record = .ok () ↔ ValidRecord record := by
  unfold validateRecord
  simp only [bind_ok_iff, require_eq_ok, orError_eq_ok, dict?_eq_some]
  constructor
  · rintro ⟨⟨⟩, hfields, ⟨⟩, hschema, ⟨⟩, hnames, source, hsource, ⟨⟩, hkind, ⟨⟩, hparent, timing, htiming, hphase⟩
    obtain rfl := hashed_eq hsource
    refine ⟨hfields, hschema, hnames, hkind, hparent, timing, htiming, fun hreal => ?_⟩
    rw [if_pos hreal] at hphase
    simp only [bind_ok_iff, require_eq_ok] at hphase
    obtain ⟨phase, hhashed, hphase⟩ := hphase
    obtain rfl := hashed_eq hhashed
    exact hphase
  · rintro ⟨hfields, hschema, hnames, hsource, hparent, timing, htiming, hphase⟩
    obtain ⟨s, hs⟩ : ∃ s, (record.get "source_kind").str? = some s := by
      rcases hsource with h | h | h
      · exact ⟨_, h⟩
      · exact ⟨_, h⟩
      · exact ⟨_, h⟩
    refine ⟨(), hfields, (), hschema, (), hnames, _, hashed_ok_of_str hs, (), hsource, (), hparent, timing, htiming, ?_⟩
    split
    · next hreal =>
      simp only [bind_ok_iff, require_eq_ok]
      obtain ⟨s, hs⟩ : ∃ s, (Dict.get timing "phase").str? = some s := by
        rcases hphase hreal with h | h
        · exact ⟨_, h⟩
        · exact ⟨_, h⟩
      exact ⟨_, hashed_ok_of_str hs, hphase hreal⟩
    · rfl

theorem isText_encoding : isText value.encoding ↔ isText value := by
  unfold isText
  rw [encoding_str?]

def boundFields : List String := ["export_id", "manifest_sha256", "record_count"]

theorem validRecord_of_same {a b : Dict}
    (hb : ∀ timing : Dict, b.get "timing" = .dict timing → (timing.map Prod.fst).Nodup)
    (ha : ∀ timing : Dict, a.get "timing" = .dict timing → (timing.map Prod.fst).Nodup)
    (hfields : b.HasKeys recordFields → a.HasKeys recordFields)
    (hget : ∀ key, key ∉ boundFields → (a.get key).encoding = (b.get key).encoding) (h : ValidRecord b) :
    ValidRecord a := by
  have hstr (key : String) (hkey : key ∉ boundFields) : (a.get key).str? = (b.get key).str? := by
    rw [← encoding_str?, hget key hkey, encoding_str?]
  have htext (key : String) (hkey : key ∉ boundFields) : isText (a.get key) ↔ isText (b.get key) := by
    rw [← isText_encoding, hget key hkey, isText_encoding]
  obtain ⟨hkeys, hschema, hnames, hsource, hparent, timing, htiming, hphase⟩ := h
  refine ⟨hfields hkeys, ?_, ?_, ?_, ?_, ?_⟩
  · rwa [eq_int, ← encoding_number, hget "schema_version" (by decide), encoding_number, ← eq_int]
  · rwa [htext "sample_id" (by decide), htext "participant_pseudonym" (by decide), htext "session_pseudonym" (by decide)]
  · rwa [hstr "source_kind" (by decide)]
  · rwa [hstr "source_kind" (by decide), htext "parent_provenance_id" (by decide)]
  · have hsame := hget "timing" (by decide)
    rw [htiming, encoding_dict] at hsame
    obtain ⟨timing', htiming'⟩ : ∃ timing', a.get "timing" = .dict timing' := by
      cases hvalue : a.get "timing" with
      | dict timing' => exact ⟨timing', rfl⟩
      | _ => rw [hvalue] at hsame; simp [Value.encoding] at hsame
    rw [htiming', encoding_dict] at hsame
    refine ⟨timing', htiming', fun hreal => ?_⟩
    have hdistinct := hb timing htiming
    have hdistinct' := ha timing' htiming'
    have hphases : (Dict.get timing' "phase").str? = (Dict.get timing "phase").str? := by
      rw [← encoding_str?, ← get_encoded hdistinct', Value.dict.inj hsame, get_encoded hdistinct, encoding_str?]
    rw [hphases]
    rw [hstr "source_kind" (by decide)] at hreal
    exact hphase hreal

/-! ## The loop over the records -/

theorem checkRecords_ok_iff {check : Dict → Except String Unit} {seen : List String} :
    checkRecords check seen records = .ok () ↔ (∀ record ∈ records, check record = .ok ()) ∧
      (records.map sampleId).Nodup ∧ ∀ record ∈ records, sampleId record ∉ seen := by
  induction records generalizing seen with
  | nil => simp [checkRecords]
  | cons record rest ih =>
    rw [checkRecords]
    simp only [bind_ok_iff, require_eq_ok, ih, List.forall_mem_cons, List.map_cons, List.nodup_cons]
    constructor
    · rintro ⟨⟨⟩, hcheck, ⟨⟩, hnew, hrest, hnodup, hseen⟩
      refine ⟨⟨hcheck, hrest⟩, ⟨?_, hnodup⟩, hnew, fun other hother hmem => hseen other hother (List.mem_cons_of_mem _ hmem)⟩
      intro hmem
      obtain ⟨other, hother, heq⟩ := List.mem_map.mp hmem
      exact hseen other hother (heq ▸ List.mem_cons_self)
    · rintro ⟨⟨hcheck, hrest⟩, ⟨hfresh, hnodup⟩, hnew, hseen⟩
      refine ⟨(), hcheck, (), hnew, hrest, hnodup, fun other hother hmem => ?_⟩
      rcases List.mem_cons.mp hmem with heq | hmem
      · exact hfresh (heq ▸ List.mem_map_of_mem hother)
      · exact hseen other hother hmem

/-! ## Both sides, in one statement each -/

theorem get_prepared (key : String) : (prepared exportId count record).get key =
    if key = "record_count" then .int count else if key = "manifest_sha256" then .str ""
    else if key = "export_id" then exportId else record.get key := by
  unfold prepared
  rw [get_put, get_put, get_put]

theorem keys_prepared (h : record.HasKeys recordFields) : key ∈ (prepared exportId count record).map Prod.fst ↔
    key ∈ record.map Prod.fst := by
  have hmem : ∀ name ∈ boundFields, name ∈ record.map Prod.fst := fun name hname => h.2 name (by revert name; decide)
  unfold prepared
  rw [mem_keys_put, mem_keys_put, mem_keys_put]
  constructor
  · rintro (rfl | rfl | rfl | hkey)
    · exact hmem _ (by decide)
    · exact hmem _ (by decide)
    · exact hmem _ (by decide)
    · exact hkey
  · exact fun hkey => .inr (.inr (.inr hkey))

theorem nodup_prepared (h : (record.map Prod.fst).Nodup) : ((prepared exportId count record).map Prod.fst).Nodup :=
  nodup_put (nodup_put (nodup_put h))

/-- What `build_research_export` checks and returns. -/
structure Built (sha256 : Value → String) (records : List Dict) (exportId : Value) (archive : Archive) (manifest : Dict)
    (digest : String) : Prop where
  named : exportId.truthy = true ∧ ∃ length, len? exportId = some length ∧ length ≤ 128
  nonempty : records ≠ []
  valid : ∀ record ∈ records, ValidRecord record
  unique : (records.map sampleId).Nodup
  finite : finite (.dict (manifestPreimage exportId (records.map (prepared exportId records.length)))) = true
  signed : digest =
    sha256 (Value.dict (manifestPreimage exportId (records.map (prepared exportId records.length)))).encoding
  document : manifest = [("schema_version", .int 1), ("export_id", exportId), ("record_count", .int records.length),
    ("manifest_sha256", .str digest)]
  files : archive.manifest = (Value.dict manifest).encoding ∧ archive.records = records.map fun record =>
    (Value.dict (put (prepared exportId records.length record) "manifest_sha256" (.str digest))).encoding

theorem finite_preimage_iff : finite (.dict (manifestPreimage exportId records)) = true ↔ finite exportId = true ∧
    ∀ record ∈ records, ∀ field ∈ record, field.1 ≠ "manifest_sha256" → finite field.2 = true := by
  rw [finite, finiteFields_iff]
  unfold manifestPreimage
  simp only [List.forall_mem_cons, List.not_mem_nil, false_implies, implies_true, and_true, finite, true_and,
    finiteItems_iff, List.forall_mem_map, finiteFields_iff]
  refine and_congr_right fun _ => forall₂_congr fun record _ => ?_
  constructor
  · intro h field hfield hne
    exact h field (mem_put_of_ne hfield hne)
  · intro h field hfield
    rcases mem_put hfield with rfl | ⟨hmem, hne⟩
    · rfl
    · exact h field hmem hne

theorem buildResearchExport_ok_iff : buildResearchExport sha256 records exportId = .ok (archive, manifest) ↔
    ∃ digest, Built sha256 records exportId archive manifest digest := by
  unfold buildResearchExport
  simp only [bind_ok_iff, require_eq_ok, orError_eq_ok, canonical_ok_iff, List.length_map]
  -- the texts of the two files are texts of finite values
  have hfinal {digest : String} (hfinite : finite (.dict (manifestPreimage exportId
      (records.map (prepared exportId records.length)))) = true) : ∀ record ∈ records,
      finite (.dict (put (prepared exportId records.length record) "manifest_sha256" (.str digest))) = true := by
    intro record hmem
    rw [finite, finiteFields_iff]
    intro field hfield
    rcases mem_put hfield with rfl | ⟨hold, hne⟩
    · rfl
    · exact (finite_preimage_iff.mp hfinite).2 _ (List.mem_map_of_mem hmem) field hold hne
  have htexts {digest : String} {texts : List Value} (hfinite : finite (.dict (manifestPreimage exportId
      (records.map (prepared exportId records.length)))) = true) :
      ((records.map (prepared exportId records.length)).map fun record =>
        put record "manifest_sha256" (.str digest)).mapM (fun record => canonical (.dict record)) = .ok texts ↔
      texts = records.map fun record =>
        (Value.dict (put (prepared exportId records.length record) "manifest_sha256" (.str digest))).encoding := by
    rw [mapM_eq_ok_iff (g := fun record => (Value.dict record).encoding) fun record text h => (canonical_ok_iff.mp h).2,
      List.map_map, List.map_map]
    constructor
    · rintro ⟨-, rfl⟩
      rfl
    · rintro rfl
      refine ⟨fun record hmem => ?_, rfl⟩
      obtain ⟨source, hsource, rfl⟩ := List.mem_map.mp hmem
      exact canonical_ok_iff.mpr ⟨hfinal hfinite source hsource, rfl⟩
  constructor
  · rintro ⟨⟨⟩, htruthy, length, hlength, ⟨⟩, hle, ⟨⟩, hnonempty, ⟨⟩, hcheck, text, ⟨hfinite, rfl⟩,
      manifestText, ⟨-, rfl⟩, texts, hmade, h⟩
    obtain ⟨hvalid, hunique, -⟩ := checkRecords_ok_iff.mp hcheck
    obtain rfl := (htexts hfinite).mp hmade
    cases h
    exact ⟨_, ⟨htruthy, length, hlength, hle⟩, hnonempty, fun record hmem => validateRecord_ok_iff.mp (hvalid record hmem),
      hunique, hfinite, rfl, rfl, rfl, rfl⟩
  · rintro ⟨digest, ⟨htruthy, length, hlength, hle⟩, hnonempty, hvalid, hunique, hfinite, rfl, rfl, hmanifest, hrecords⟩
    have hcheck : checkRecords validateRecord [] records = .ok () := checkRecords_ok_iff.mpr
      ⟨fun record hmem => validateRecord_ok_iff.mpr (hvalid record hmem), hunique, fun _ _ => List.not_mem_nil⟩
    refine ⟨(), htruthy, length, hlength, (), hle, (), hnonempty, (), hcheck, _, ⟨hfinite, rfl⟩, _, ⟨?_, rfl⟩, _,
      (htexts hfinite).mpr rfl, ?_⟩
    · rw [finite, finiteFields_iff]
      simp [(finite_preimage_iff.mp hfinite).1, finite]
    · obtain ⟨manifestText, recordTexts⟩ := archive
      obtain rfl := hmanifest
      obtain rfl := hrecords
      rfl

/-- What `validate_research_export` checks and returns. -/
structure Validated (sha256 : Value → String) (py : PyStr) (archive : Archive) (manifest : Dict) (records : List Dict)
    (digest : String) : Prop where
  files : archive.manifest = .dict manifest ∧ archive.records = records.map .dict
  fields : manifest.HasKeys manifestFields
  recorded : manifest.get "manifest_sha256" = .str digest
  header : (manifest.get "schema_version").eq (.int 1) = true ∧
    (manifest.get "record_count").eq (.int records.length) = true
  valid : ∀ record ∈ records, ValidRecord record ∧ boundTo manifest records.length record
  unique : (records.map sampleId).Nodup
  finite : finite (.dict (manifestPreimage (.str (py.str (manifest.get "export_id"))) records)) = true
  signed : sha256 (Value.dict (manifestPreimage (.str (py.str (manifest.get "export_id"))) records)).encoding = digest

theorem validateResearchExport_ok_iff : validateResearchExport sha256 py archive = .ok (manifest, records) ↔
    ∃ digest, Validated sha256 py archive manifest records digest := by
  have hdicts {values : List Value} {dicts : List Dict} :
      (values.mapM fun record => orError "export records must be objects" record.dict?) = .ok dicts ↔
        values = dicts.map .dict := by
    induction values generalizing dicts with
    | nil =>
      rw [List.mapM_nil]
      constructor
      · intro h
        cases h
        rfl
      · intro h
        rw [List.map_eq_nil_iff.mp h.symm]
        rfl
    | cons value rest ih =>
      rw [List.mapM_cons]
      simp only [bind_ok_iff, orError_eq_ok, dict?_eq_some, ih]
      constructor
      · rintro ⟨fields, rfl, dicts, rfl, h⟩
        cases h
        rfl
      · intro h
        obtain ⟨first, others, rfl⟩ : ∃ first others, dicts = first :: others := by
          cases dicts with
          | nil => cases h
          | cons first others => exact ⟨first, others, rfl⟩
        rw [List.map_cons] at h
        obtain ⟨hfirst, hothers⟩ := List.cons.inj h
        exact ⟨first, hfirst, others, hothers, rfl⟩
  unfold validateResearchExport
  simp only [bind_ok_iff, require_eq_ok, orError_eq_ok, dict?_eq_some, str?_eq_some, hdicts, canonical_ok_iff]
  have hone {document : Dict} {dicts : List Dict} {record : Dict} :
      (validateRecord record >>= fun _ => require (boundTo document dicts.length record)
        "record is not bound to its export manifest") = .ok () ↔
        ValidRecord record ∧ boundTo document dicts.length record := by
    simp only [bind_ok_iff, require_eq_ok]
    constructor
    · rintro ⟨⟨⟩, hvalid, hbound⟩
      exact ⟨validateRecord_ok_iff.mp hvalid, hbound⟩
    · rintro ⟨hvalid, hbound⟩
      exact ⟨(), validateRecord_ok_iff.mpr hvalid, hbound⟩
  constructor
  · rintro ⟨document, hdocument, ⟨⟩, hfields, dicts, hrecords, digest, hrecorded, ⟨⟩, hheader, ⟨⟩, hcheck, text,
      ⟨hfinite, rfl⟩, ⟨⟩, hsigned, h⟩
    obtain ⟨hvalid, hunique, -⟩ := checkRecords_ok_iff.mp hcheck
    cases h
    exact ⟨digest, ⟨hdocument, hrecords⟩, hfields, hrecorded, hheader, fun record hmem => hone.mp (hvalid record hmem),
      hunique, hfinite, hsigned⟩
  · rintro ⟨digest, ⟨hdocument, hrecords⟩, hfields, hrecorded, hheader, hvalid, hunique, hfinite, hsigned⟩
    exact ⟨manifest, hdocument, (), hfields, records, hrecords, digest, hrecorded, (), hheader, (),
      checkRecords_ok_iff.mpr ⟨fun record hmem => hone.mpr (hvalid record hmem), hunique, fun _ _ => List.not_mem_nil⟩, _,
      ⟨hfinite, rfl⟩, (), hsigned, rfl⟩

end PduExamObserver.Training.ExportCodec
