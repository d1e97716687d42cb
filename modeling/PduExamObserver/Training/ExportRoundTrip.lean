import PduExamObserver.Training.ExportCodec

/-! # What the builder writes and what the validator accepts -/

namespace PduExamObserver.Training.ExportCodec
open Native Canonical
set_option autoImplicit false

variable {record a b : Dict} {key digest : String} {exportId : Value} {records : List Dict} {sha256 : Value → String}
  {py : PyStr} {archive : Archive} {manifest : Dict} {count : Nat}

/-! ## Records as they are written -/

def final (exportId : Value) (count : Nat) (digest : String) (record : Dict) : Dict :=
  put (prepared exportId count record) "manifest_sha256" (.str digest)

theorem get_final : (final exportId count digest record).get key =
    if key = "manifest_sha256" then .str digest else (prepared exportId count record).get key := get_put

theorem get_final_of_not_bound (hkey : key ∉ boundFields) :
    (final exportId count digest record).get key = record.get key := by
  simp only [boundFields, List.mem_cons, List.not_mem_nil, or_false, not_or] at hkey
  rw [get_final, if_neg hkey.2.1, get_prepared, if_neg hkey.2.2, if_neg hkey.2.1, if_neg hkey.1]

theorem nodup_final (h : (record.map Prod.fst).Nodup) : ((final exportId count digest record).map Prod.fst).Nodup :=
  nodup_put (nodup_prepared h)

theorem keys_final (h : record.HasKeys recordFields) :
    key ∈ (final exportId count digest record).map Prod.fst ↔ key ∈ record.map Prod.fst := by
  unfold final
  rw [mem_keys_put, keys_prepared h]
  constructor
  · rintro (rfl | hkey)
    · exact h.2 _ (by decide)
    · exact hkey
  · exact .inr

theorem hasKeys_of_keys {names : List String} (hkeys : ∀ key, key ∈ a.map Prod.fst ↔ key ∈ b.map Prod.fst)
    (h : b.HasKeys names) : a.HasKeys names := by
  refine ⟨fun field hfield => ?_, fun name hname => (hkeys name).mpr (h.2 name hname)⟩
  obtain ⟨other, hother, hname⟩ := List.mem_map.mp ((hkeys field.1).mp (List.mem_map_of_mem hfield))
  exact hname ▸ h.1 other hother

/-! ## The text that is signed -/

theorem blank_encoded (ha : (a.map Prod.fst).Nodup) (hb : (b.map Prod.fst).Nodup)
    (hkeys : ∀ key, key ∈ a.map Prod.fst ↔ key ∈ b.map Prod.fst)
    (hget : ∀ key, key ≠ "manifest_sha256" → (a.get key).encoding = (b.get key).encoding) :
    (put a "manifest_sha256" (.str "")).encoded = (put b "manifest_sha256" (.str "")).encoded := by
  refine encoded_ext (nodup_put ha) (nodup_put hb) (fun key => ?_) fun key _ => ?_
  · rw [mem_keys_put, mem_keys_put, hkeys]
  · rw [get_put, get_put]
    split
    · rfl
    · next hkey => exact hget key hkey

theorem preimage_encoding {first second : Dict → Dict}
    (h : ∀ record ∈ records, (put (first record) "manifest_sha256" (.str "")).encoded =
      (put (second record) "manifest_sha256" (.str "")).encoded) :
    (Value.dict (manifestPreimage exportId (records.map first))).encoding =
      (Value.dict (manifestPreimage exportId (records.map second))).encoding := by
  have hrecords : (records.map first).map (fun record => (Value.dict (put record "manifest_sha256" (.str ""))).encoding) =
      (records.map second).map fun record => (Value.dict (put record "manifest_sha256" (.str ""))).encoding := by
    rw [List.map_map, List.map_map]
    refine List.map_congr_left fun record hmem => ?_
    rw [Function.comp_apply, Function.comp_apply, encoding_dict, encoding_dict, h record hmem]
  rw [encoding_dict, encoding_dict]
  unfold manifestPreimage Dict.encoded
  simp only [List.map_cons, List.map_nil, encoding_list, List.length_map]
  rw [List.map_map, List.map_map] at hrecords ⊢
  rw [List.map_map, List.map_map]
  simp only [Function.comp_def] at hrecords ⊢
  rw [hrecords]

/-! ## From the builder to the validator -/

def Objects (records : List Dict) : Prop := ∀ record ∈ records, distinct (.dict record)

theorem Objects.nodup (h : Objects records) (hmem : record ∈ records) : (record.map Prod.fst).Nodup := (h record hmem).1

theorem Objects.timing (h : Objects records) (hmem : record ∈ records) {timing : Dict}
    (htiming : record.get "timing" = .dict timing) : (timing.map Prod.fst).Nodup := by
  have hdistinct := distinct_get (h record hmem).2 "timing"
  rw [htiming] at hdistinct
  exact hdistinct.1

theorem get_final_encoded (h : (record.map Prod.fst).Nodup) :
    (final exportId count digest record).encoded.get key = ((final exportId count digest record).get key).encoding :=
  get_encoded (nodup_final h) key

theorem validRecord_final (h : Objects records) (hmem : record ∈ records) (hvalid : ValidRecord record) :
    ValidRecord (final exportId count digest record).encoded := by
  have hnodup := h.nodup hmem
  have hget (key : String) (hkey : key ∉ boundFields) :
      (final exportId count digest record).encoded.get key = (record.get key).encoding := by
    rw [get_final_encoded hnodup, get_final_of_not_bound hkey]
  refine validRecord_of_same (fun timing => h.timing hmem) (fun timing htiming => ?_)
    (fun hkeys => encoded_hasKeys.mpr (hasKeys_of_keys (fun key => keys_final hkeys) hkeys)) (fun key hkey => ?_) hvalid
  · obtain ⟨old, hold, -⟩ := hvalid.timing
    rw [hget "timing" (by decide), hold, encoding_dict] at htiming
    rw [← Value.dict.inj htiming]
    exact encoded_nodup.mpr (h.timing hmem hold)
  · rw [hget key hkey, encoding_encoding]

theorem sampleId_final (h : (record.map Prod.fst).Nodup) :
    sampleId (final exportId count digest record).encoded = sampleId record := by
  unfold sampleId
  rw [get_final_encoded h, get_final_of_not_bound (by decide), encoding_str?]

def builtManifest (exportId : Value) (count : Nat) (digest : String) : Dict :=
  [("schema_version", .int 1), ("export_id", exportId), ("record_count", .int count), ("manifest_sha256", .str digest)]

theorem nodup_builtManifest : ((builtManifest exportId count digest).map Prod.fst).Nodup := by
  simp [builtManifest]

theorem mem_final {field : String × Value} (h : field ∈ final exportId count digest record) :
    field = ("manifest_sha256", .str digest) ∨ field ∈ prepared exportId count record ∧ field.1 ≠ "manifest_sha256" :=
  mem_put h

theorem validated_of_built {name : String} (h : Objects records)
    (hbuilt : Built sha256 records (.str name) archive manifest digest) :
    Validated sha256 py archive manifest.encoded
      (records.map fun record => (final (.str name) records.length digest record).encoded) digest := by
  obtain ⟨-, -, hvalid, hunique, hfinite, hsigned, hdocument, hmanifest, hrecords⟩ := hbuilt
  obtain rfl : manifest = builtManifest (.str name) records.length digest := hdocument
  have hget (key : String) : (builtManifest (.str name) records.length digest).encoded.get key =
      ((builtManifest (.str name) records.length digest).get key).encoding := get_encoded nodup_builtManifest key
  refine ⟨⟨?_, ?_⟩, ?_, ?_, ⟨?_, ?_⟩, ?_, ?_, ?_, ?_⟩
  · rw [hmanifest, encoding_dict]
  · rw [hrecords, List.map_map]
    refine List.map_congr_left fun record _ => ?_
    rw [encoding_dict]
    rfl
  · exact encoded_hasKeys.mpr ⟨by simp [manifestFields, builtManifest], by simp [manifestFields, builtManifest]⟩
  · rw [hget]
    rfl
  · rw [hget]
    exact eq_self_int
  · rw [hget, List.length_map]
    exact eq_self_int
  · intro written hwritten
    obtain ⟨record, hmem, rfl⟩ := List.mem_map.mp hwritten
    have hnodup := h.nodup hmem
    refine ⟨validRecord_final h hmem (hvalid record hmem), ?_, ?_, ?_⟩
    · rw [get_final_encoded hnodup, hget, get_final, get_prepared]
      exact eq_str.mpr rfl
    · rw [get_final_encoded hnodup, hget, get_final]
      exact eq_str.mpr rfl
    · rw [get_final_encoded hnodup, get_final, get_prepared, List.length_map]
      exact eq_self_int
  · have hsame : (records.map fun record => (final (.str name) records.length digest record).encoded).map sampleId =
        records.map sampleId := by
      rw [List.map_map]
      refine List.map_congr_left fun record hmem => ?_
      rw [Function.comp_apply, sampleId_final (h.nodup hmem)]
    rwa [hsame]
  · refine finite_preimage_iff.mpr ⟨rfl, ?_⟩
    intro written hwritten field hfield hne
    obtain ⟨record, hmem, rfl⟩ := List.mem_map.mp hwritten
    obtain ⟨source, hsource, rfl⟩ := mem_encoded.mp hfield
    rw [finite_encoding]
    rcases mem_final hsource with hdigest | ⟨hold, -⟩
    · exact absurd (congrArg Prod.fst hdigest) hne
    · exact (finite_preimage_iff.mp hfinite).2 _ (List.mem_map_of_mem hmem) source hold hne
  · have hname : py.str ((builtManifest (.str name) records.length digest).get "export_id").encoding = name :=
      py.str_str name
    rw [hget, hname, hsigned]
    congr 1
    refine preimage_encoding fun record hmem => ?_
    refine blank_encoded (encoded_nodup.mpr (nodup_final (h.nodup hmem))) (nodup_prepared (h.nodup hmem)) (fun key => ?_)
      fun key hkey => ?_
    · rw [(encoded_keys _).mem_iff, keys_final (hvalid record hmem).fields, keys_prepared (hvalid record hmem).fields]
    · rw [get_final_encoded (h.nodup hmem), encoding_encoding, get_final, if_neg hkey]

/-! ## From the validator to the builder -/

def Rebuilds (sha256 : Value → String) (archive : Archive) (manifest : Dict) (records : List Dict) : Prop :=
  ∃ built document, buildResearchExport sha256 records (manifest.get "export_id") = .ok (built, document) ∧
    document.get "manifest_sha256" = manifest.get "manifest_sha256" ∧
    built.records = archive.records.map Value.encoding

structure Buildable (sha256 : Value → String) (py : PyStr) (manifest : Dict) (records : List Dict) : Prop where
  nonempty : records ≠ []
  named : (manifest.get "export_id").truthy = true ∧ ∃ length, len? (manifest.get "export_id") = some length ∧ length ≤ 128
  bound : ∀ record ∈ records, (record.get "export_id").encoding = (manifest.get "export_id").encoding ∧
    record.get "record_count" = .int records.length
  text : sha256 (Value.dict (manifestPreimage (.str (py.str (manifest.get "export_id"))) records)).encoding =
    sha256 (Value.dict (manifestPreimage (manifest.get "export_id") records)).encoding

theorem preimage_prepared (h : Objects records) (hfields : ∀ record ∈ records, record.HasKeys recordFields)
    (hbound : ∀ record ∈ records, (record.get "export_id").encoding = exportId.encoding ∧
      record.get "record_count" = .int count) :
    (Value.dict (manifestPreimage exportId (records.map (prepared exportId count)))).encoding =
      (Value.dict (manifestPreimage exportId records)).encoding := by
  conv_rhs => rw [← List.map_id records]
  refine preimage_encoding fun record hmem => ?_
  refine blank_encoded (nodup_prepared (h.nodup hmem)) (h.nodup hmem) (fun key => keys_prepared (hfields record hmem))
    fun key hkey => ?_
  rw [get_prepared, if_neg hkey, id_eq]
  split
  · next hcount => rw [hcount, (hbound record hmem).2]
  · split
    · next hid => rw [hid, (hbound record hmem).1]
    · rfl

theorem finite_prepared (h : Objects records) (hfields : ∀ record ∈ records, record.HasKeys recordFields)
    (hnonempty : records ≠ []) (hbound : ∀ record ∈ records, (record.get "export_id").encoding = exportId.encoding)
    (hfinite : ∀ record ∈ records, ∀ field ∈ record, field.1 ≠ "manifest_sha256" → finite field.2 = true) :
    finite (.dict (manifestPreimage exportId (records.map (prepared exportId count)))) = true := by
  have hid : finite exportId = true := by
    obtain ⟨record, hmem⟩ := List.exists_mem_of_ne_nil records hnonempty
    obtain ⟨value, hvalue⟩ := exists_lookup.mpr ((hfields record hmem).2 "export_id" (by decide))
    have hfield := hfinite record hmem _ ((lookup_eq_some (h.nodup hmem)).mp hvalue)
      (show "export_id" ≠ "manifest_sha256" by decide)
    have hget : record.get "export_id" = value := by rw [Dict.get, hvalue, Option.getD_some]
    rwa [← finite_encoding, ← hbound record hmem, hget, finite_encoding]
  refine finite_preimage_iff.mpr ⟨hid, ?_⟩
  intro written hwritten field hfield hne
  obtain ⟨record, hmem, rfl⟩ := List.mem_map.mp hwritten
  rcases mem_put hfield with rfl | ⟨hfield, -⟩
  · rfl
  rcases mem_put hfield with rfl | ⟨hfield, -⟩
  · rfl
  rcases mem_put hfield with rfl | ⟨hfield, -⟩
  · exact hid
  · exact hfinite record hmem field hfield hne

theorem rebuilds_iff (h : Objects records) (hvalidated : Validated sha256 py archive manifest records digest) :
    Rebuilds sha256 archive manifest records ↔ Buildable sha256 py manifest records := by
  obtain ⟨⟨-, hrecords⟩, -, hrecorded, -, hvalid, hunique, hfinite, hsigned⟩ := hvalidated
  have hfields : ∀ record ∈ records, record.HasKeys recordFields := fun record hmem => (hvalid record hmem).1.fields
  have hread : archive.records.map Value.encoding = records.map fun record => .dict record.encoded := by
    rw [hrecords, List.map_map]
    refine List.map_congr_left fun record _ => ?_
    rw [Function.comp_apply, encoding_dict]
  constructor
  · rintro ⟨built, document, hbuild, hdigest, hsame⟩
    obtain ⟨digest', hnamed, hnonempty, -, -, -, hsigned', rfl, -, hwritten⟩ := buildResearchExport_ok_iff.mp hbuild
    obtain rfl : digest' = digest := Value.str.inj (hdigest.trans hrecorded)
    have hrecord : ∀ record ∈ records,
        (final (manifest.get "export_id") records.length digest' record).encoded = record.encoded := by
      intro record hmem
      rw [hwritten, hread] at hsame
      have hone := List.map_inj_left.mp hsame record hmem
      rw [encoding_dict] at hone
      exact Value.dict.inj hone
    have hbound : ∀ record ∈ records, (record.get "export_id").encoding = (manifest.get "export_id").encoding ∧
        record.get "record_count" = .int records.length := by
      intro record hmem
      have hget (key : String) := congrArg (fun fields => Dict.get fields key) (hrecord record hmem)
      simp only [get_final_encoded (h.nodup hmem), get_encoded (h.nodup hmem), get_final, get_prepared] at hget
      exact ⟨(hget "export_id").symm, encoding_eq_int.mp (hget "record_count").symm⟩
    refine ⟨hnonempty, hnamed, hbound, ?_⟩
    rw [hsigned, hsigned', preimage_prepared h hfields hbound]
  · rintro ⟨hnonempty, hnamed, hbound, htext⟩
    have hdigest : ∀ record ∈ records, record.get "manifest_sha256" = .str digest := by
      intro record hmem
      have hequal := (hvalid record hmem).2.2.1
      rw [hrecorded] at hequal
      exact eq_str.mp hequal
    have hwritten : (records.map fun record =>
        (Value.dict (final (manifest.get "export_id") records.length digest record)).encoding) =
        archive.records.map Value.encoding := by
      rw [hread]
      refine List.map_congr_left fun record hmem => ?_
      rw [encoding_dict]
      congr 1
      refine encoded_ext (nodup_final (h.nodup hmem)) (h.nodup hmem) (fun key => keys_final (hfields record hmem))
        fun key _ => ?_
      rw [get_final, get_prepared]
      split
      · next hkey => rw [hkey, hdigest record hmem]
      · split
        · next hkey => rw [hkey, (hbound record hmem).2]
        · split
          · next hkey => rw [hkey, (hbound record hmem).1]
          · rfl
    refine ⟨⟨(Value.dict (builtManifest (manifest.get "export_id") records.length digest)).encoding, _⟩,
      builtManifest (manifest.get "export_id") records.length digest, buildResearchExport_ok_iff.mpr
      ⟨digest, hnamed, hnonempty, fun record hmem => (hvalid record hmem).1, hunique, ?_, ?_, rfl, rfl, rfl⟩, ?_, hwritten⟩
    · exact finite_prepared h hfields hnonempty (fun record hmem => (hbound record hmem).1)
        (finite_preimage_iff.mp hfinite).2
    · rw [preimage_prepared h hfields hbound, ← htext, hsigned]
    · rw [hrecorded]
      rfl

/-! ## The codec -/

/-- What is built is accepted and read as it was written; what is accepted can be built exactly where the builder asks
for no more than the validator does. -/
theorem export_codec (sha256 : Value → String) (py : PyStr) :
    (∀ records name archive manifest, Objects records →
      buildResearchExport sha256 records (.str name) = .ok (archive, manifest) →
      ∃ digest, manifest.get "manifest_sha256" = .str digest ∧
        validateResearchExport sha256 py archive = .ok (manifest.encoded,
          records.map fun record => (final (.str name) records.length digest record).encoded)) ∧
    ∀ archive manifest records, Objects records → validateResearchExport sha256 py archive = .ok (manifest, records) →
      (Rebuilds sha256 archive manifest records ↔ Buildable sha256 py manifest records) := by
  constructor
  · intro records name archive manifest h hbuild
    obtain ⟨digest, hbuilt⟩ := buildResearchExport_ok_iff.mp hbuild
    refine ⟨digest, ?_, validateResearchExport_ok_iff.mpr ⟨digest, validated_of_built h hbuilt⟩⟩
    rw [hbuilt.document]
    rfl
  · intro archive manifest records h hvalidate
    obtain ⟨digest, hvalidated⟩ := validateResearchExport_ok_iff.mp hvalidate
    exact rebuilds_iff h hvalidated

namespace Sample

def digestOfOne : String := "616915e65db0778f6a46beaa8066b1418f51e04115d6d01b8f5d167ef758c32c"

def digestOfNone : String := "2e791f53c47d8f246acac100cbc6b644d13e44bf947302ad2e00ec34eeb40efc"

def hash : Value → String
  | .dict (_ :: ("record_count", .int 0) :: _) => digestOfNone
  | _ => digestOfOne

def pyStr : PyStr := ⟨fun value => value.str?.getD "", fun _ => rfl⟩

def recordOf (exportId manifestSha256 recordCount : Value) : Dict :=
  [("export_id", exportId), ("focus", .dict []), ("label", .str "NORMAL"), ("manifest_sha256", manifestSha256),
    ("parent_provenance_id", .none), ("participant_pseudonym", .str "person-1"), ("pose", .dict []),
    ("quality", .dict []), ("record_count", recordCount), ("sample_id", .str "sample-1"), ("schema_version", .int 1),
    ("session_pseudonym", .str "session-1"), ("source_kind", .str "AI_RENDERED"), ("timing", .dict [])]

def source : Dict := recordOf .none .none .none

def written : Dict := recordOf (.str "export-1") (.str digestOfOne) (.int 1)

def manifestOf (count : Nat) (digest : String) : Dict :=
  [("export_id", .str "export-1"), ("manifest_sha256", .str digest), ("record_count", .int count),
    ("schema_version", .int 1)]

theorem objects_recordOf (exportId manifestSha256 recordCount : Value) (hid : distinct exportId)
    (hdigest : distinct manifestSha256) (hcount : distinct recordCount) :
    Objects [recordOf exportId manifestSha256 recordCount] := by
  intro record hmem
  rw [List.mem_singleton.mp hmem]
  refine ⟨by simp [recordOf], ?_⟩
  simp [recordOf, distinctFields, distinct, hid, hdigest, hcount]

end Sample

theorem buildResearchExport_source : ∃ archive manifest,
    buildResearchExport Sample.hash [Sample.source] (.str "export-1") = .ok (archive, manifest) := by
  refine ⟨⟨_, _⟩, _, buildResearchExport_ok_iff.mpr ⟨Sample.digestOfOne, ⟨by decide, 8, rfl, by decide⟩, by simp, ?_, by simp, ?_, ?_, rfl,
    rfl, rfl⟩⟩
  · intro record hmem
    rw [List.mem_singleton.mp hmem]
    exact validateRecord_ok_iff.mp (by rfl)
  · decide +kernel
  · rfl

theorem validateResearchExport_written :
    validateResearchExport Sample.hash Sample.pyStr ⟨.dict (Sample.manifestOf 1 Sample.digestOfOne), [.dict Sample.written]⟩ =
      .ok (Sample.manifestOf 1 Sample.digestOfOne, [Sample.written]) := by
  refine validateResearchExport_ok_iff.mpr ⟨Sample.digestOfOne, ⟨rfl, rfl⟩, by decide +kernel, rfl, ⟨?_, ?_⟩, ?_, by simp, ?_, ?_⟩
  · decide +kernel
  · decide +kernel
  · intro record hmem
    rw [List.mem_singleton.mp hmem]
    exact ⟨validateRecord_ok_iff.mp (by rfl), by decide +kernel⟩
  · decide +kernel
  · rfl

theorem validateResearchExport_empty :
    validateResearchExport Sample.hash Sample.pyStr ⟨.dict (Sample.manifestOf 0 Sample.digestOfNone), []⟩ =
      .ok (Sample.manifestOf 0 Sample.digestOfNone, []) := by
  refine validateResearchExport_ok_iff.mpr ⟨Sample.digestOfNone, ⟨rfl, rfl⟩, by decide +kernel, rfl, ⟨?_, ?_⟩, by simp, by simp,
    ?_, ?_⟩
  · decide +kernel
  · decide +kernel
  · decide +kernel
  · rfl

/-- An export of one record is built and read, and what is read is built again. -/
theorem export_codec_source :
    (∃ archive manifest digest records,
      buildResearchExport Sample.hash [Sample.source] (.str "export-1") = .ok (archive, manifest) ∧
      manifest.get "manifest_sha256" = .str digest ∧
      validateResearchExport Sample.hash Sample.pyStr archive = .ok (manifest.encoded, records)) ∧
    Rebuilds Sample.hash ⟨.dict (Sample.manifestOf 1 Sample.digestOfOne), [.dict Sample.written]⟩
      (Sample.manifestOf 1 Sample.digestOfOne) [Sample.written] := by
  constructor
  · obtain ⟨archive, manifest, hbuild⟩ := buildResearchExport_source
    obtain ⟨digest, hdigest, hvalidate⟩ := (export_codec Sample.hash Sample.pyStr).1 [Sample.source] "export-1" archive
      manifest (Sample.objects_recordOf .none .none .none trivial trivial trivial) hbuild
    exact ⟨archive, manifest, digest, _, hbuild, hdigest, hvalidate⟩
  · refine ((export_codec Sample.hash Sample.pyStr).2 _ _ _ (Sample.objects_recordOf (.str _) (.str _) (.int _) trivial trivial trivial)
      validateResearchExport_written).mpr ⟨by simp, ⟨by decide +kernel, 8, rfl, by decide⟩, ?_, rfl⟩
    intro record hmem
    rw [List.mem_singleton.mp hmem]
    exact ⟨rfl, rfl⟩

/-- An archive of no records is accepted, and cannot be built. -/
theorem export_codec_empty : ∃ archive manifest records, Objects records ∧
    validateResearchExport Sample.hash Sample.pyStr archive = .ok (manifest, records) ∧
    ¬ Rebuilds Sample.hash archive manifest records := by
  refine ⟨_, _, [], fun record hmem => absurd hmem List.not_mem_nil, validateResearchExport_empty, ?_⟩
  rintro ⟨built, document, hbuild, -, -⟩
  obtain ⟨digest, hbuilt⟩ := buildResearchExport_ok_iff.mp hbuild
  exact hbuilt.nonempty rfl

end PduExamObserver.Training.ExportCodec
