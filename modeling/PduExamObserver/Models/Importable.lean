import PduExamObserver.Models.Fits

/-! # Which trained bundles can be imported

A bundle that a research run writes passes every check of the import but for the length of the version of its policy. -/

namespace PduExamObserver.Models
open Native Showcase Training Training.ExportCodec Scores Canonical
set_option autoImplicit false

variable {Model Bytes : Type} {files : Files Bytes} {deflated : Bytes → Nat} {payloads : List (String × Bytes)}
  {name : String} {data : Bytes} {document : Dict}

/-! ## Reading what was packed -/

theorem jsonBytes_ok_iff : files.jsonBytes document = .ok data ↔
    finite (.dict document) = true ∧ data = files.dumps (.dict document) := by
  unfold Files.jsonBytes
  split
  · next h => simp [h, eq_comm]
  · next h => simp [h]

theorem find?_name (files : Files Bytes) (deflated : Bytes → Nat) (entries : List (String × Bytes)) (name : String) :
    ((stage (entries.map fun payload =>
      (⟨payload.1, 0o100644 <<< 16, files.size payload.2, deflated payload.2, payload.2⟩ : ZipEntry Bytes))).find?
        fun file => file.name = name).map StagedFile.data = entries.lookup name := by
  induction entries with
  | nil => rfl
  | cons payload rest ih =>
    unfold stage at ih ⊢
    rw [List.map_cons, List.map_cons, List.find?_cons, List.lookup_cons]
    by_cases h : payload.1 = name
    · have hbeq : (name == payload.1) = true := beq_iff_eq.mpr h.symm
      simp [h]
    · have hbeq : (name == payload.1) = false := beq_false_of_ne fun heq => h heq.symm
      rw [hbeq]
      simpa [h] using ih

theorem readBytes_stage (hnodup : (payloads.map Prod.fst).Nodup) :
    readBytes (stage (writeZip files deflated payloads)) name = .ok data ↔ payloads.lookup name = some data := by
  unfold readBytes writeZip
  rw [← lookup_sortKeys hnodup, ← find?_name files deflated]
  simp only [bind_ok_iff, orError_eq_ok, Option.map_eq_some_iff]
  constructor
  · rintro ⟨file, hfile, h⟩
    exact ⟨file, hfile, Except.ok.inj h⟩
  · rintro ⟨file, hfile, h⟩
    exact ⟨file, hfile, congrArg Except.ok h⟩

theorem readJson_dumps (hnodup : (payloads.map Prod.fst).Nodup) (hlookup : payloads.lookup name = some data)
    (hdata : files.jsonBytes document = .ok data) :
    readJson files (stage (writeZip files deflated payloads)) name = .ok document.encoded := by
  obtain ⟨hfinite, rfl⟩ := jsonBytes_ok_iff.mp hdata
  unfold readJson
  simp only [bind_ok_iff, require_eq_ok, orError_eq_ok]
  refine ⟨_, (readBytes_stage hnodup).mpr hlookup, (), files.no_constant _ hfinite, _, files.loads_dumps _ hfinite, ?_⟩
  rw [encoding_dict]
  rfl

theorem names_writeZip (files : Files Bytes) (deflated : Bytes → Nat) (payloads : List (String × Bytes)) :
    ((writeZip files deflated payloads).map ZipEntry.filename).Perm (payloads.map Prod.fst) := by
  unfold writeZip
  rw [List.map_map]
  exact (sortKeys_perm payloads).map Prod.fst

theorem names_stage (entries : List (ZipEntry Bytes)) :
    (stage entries).map StagedFile.name = entries.map ZipEntry.filename := by
  unfold stage
  rw [List.map_map]
  rfl

theorem isAllowlist_perm {names names' : List String} (h : names.Perm names') : isAllowlist names ↔ isAllowlist names' := by
  unfold isAllowlist
  simp only [h.mem_iff]

theorem isSome_maxFileBytes (h : name ∈ bundleFiles) : ∃ maximum, maxFileBytes.lookup name = some maximum := by
  have hall : ∀ name ∈ bundleFiles, (maxFileBytes.lookup name).isSome = true := by decide +kernel
  exact Option.isSome_iff_exists.mp (hall name h)

def WithinLimits (files : Files Bytes) (deflated : Bytes → Nat) (payloads : List (String × Bytes)) : Prop :=
  ∀ payload ∈ payloads, (∀ maximum ∈ maxFileBytes.lookup payload.1, files.size payload.2 ≤ maximum) ∧
    (files.size payload.2 ≠ 0 → deflated payload.2 ≠ 0 ∧ files.size payload.2 ≤ maxCompressionRatio * deflated payload.2)

theorem mem_writeZip {entry : ZipEntry Bytes} (h : entry ∈ writeZip files deflated payloads) :
    ∃ payload ∈ payloads,
      entry = ⟨payload.1, 0o100644 <<< 16, files.size payload.2, deflated payload.2, payload.2⟩ := by
  obtain ⟨payload, hmem, heq⟩ := List.mem_map.mp h
  exact ⟨payload, mem_sortKeys.mp hmem, heq.symm⟩

theorem verifyArchive_writeZip (hlength : payloads.length = bundleFiles.length)
    (hnames : isAllowlist (payloads.map Prod.fst)) (hlimits : WithinLimits files deflated payloads) :
    verifyArchive (writeZip files deflated payloads) = .ok () := by
  have hplain : ∀ name ∈ bundleFiles, '/' ∉ name.toList ∧ '\\' ∉ name.toList ∧ ':' ∉ name.toList := by decide +kernel
  have hcount : (writeZip files deflated payloads).length = payloads.length := by
    have h := (names_writeZip files deflated payloads).length_eq
    rwa [List.length_map, List.length_map] at h
  unfold verifyArchive
  simp only [bind_ok_iff, require_eq_ok]
  refine ⟨(), ⟨hcount.trans hlength, (isAllowlist_perm (names_writeZip files deflated payloads)).mpr hnames⟩, ?_⟩
  refine forM_ok_iff.mpr fun entry hentry => ?_
  obtain ⟨payload, hmem, rfl⟩ := mem_writeZip hentry
  have hname := hnames.1 payload.1 (List.mem_map_of_mem hmem)
  obtain ⟨maximum, hmaximum⟩ := isSome_maxFileBytes hname
  obtain ⟨hslash, hback, hcolon⟩ := hplain payload.1 hname
  simp only [bind_ok_iff, require_eq_ok, orError_eq_ok]
  refine ⟨(), ?_, maximum, hmaximum, (), (hlimits payload hmem).1 maximum hmaximum, (hlimits payload hmem).2⟩
  rintro (h | h | h | h)
  · exact hslash h
  · exact hback h
  · exact hcolon h
  · exact absurd h (show ((0o100644 <<< 16) >>> 16) &&& 0xF000 ≠ 0xA000 by decide)

/-! ## The checksums -/

structure Packed (files : Files Bytes) (payloads : List (String × Bytes)) (checksums : Bytes) : Prop where
  nodup : (payloads.map Prod.fst).Nodup
  names : ∀ name, name ∈ payloads.map Prod.fst ↔ name ∈ payloadNames
  signed : files.jsonBytes (checksumsOf files payloads) = .ok checksums

def digests (files : Files Bytes) (payloads : List (String × Bytes)) : Dict :=
  (sortKeys payloads).map fun payload => (payload.1, .str (files.sha256 payload.2))

variable {checksums : Bytes}

theorem nodup_digests (h : (payloads.map Prod.fst).Nodup) : ((digests files payloads).map Prod.fst).Nodup := by
  unfold digests
  rw [List.map_map]
  exact nodup_sortKeys.mpr h

theorem keys_digests : name ∈ (digests files payloads).map Prod.fst ↔ name ∈ payloads.map Prod.fst := by
  unfold digests
  rw [List.map_map]
  exact ((sortKeys_perm payloads).map Prod.fst).mem_iff

theorem get_digests (h : (payloads.map Prod.fst).Nodup) (hlookup : payloads.lookup name = some data) :
    (digests files payloads).get name = .str (files.sha256 data) := by
  have hmem : (name, Value.str (files.sha256 data)) ∈ digests files payloads :=
    List.mem_map.mpr ⟨(name, data), mem_sortKeys.mpr ((lookup_eq_some h).mp hlookup), rfl⟩
  rw [Dict.get, (lookup_eq_some (nodup_digests h)).mpr hmem, Option.getD_some]

theorem nodup_checksumsOf : ((checksumsOf files payloads).map Prod.fst).Nodup := by simp [checksumsOf]

theorem get_checksums (key : String) :
    (checksumsOf files payloads).encoded.get key = ((checksumsOf files payloads).get key).encoding :=
  get_encoded nodup_checksumsOf key

theorem files_checksums : (checksumsOf files payloads).encoded.get "files" = .dict (digests files payloads).encoded := by
  rw [get_checksums]
  exact encoding_dict _

theorem isChecksums_checksumsOf (h : Packed files payloads checksums) :
    isChecksums (checksumsOf files payloads).encoded (digests files payloads).encoded := by
  refine ⟨?_, ?_, encoded_hasKeys.mpr ⟨fun field hfield => ?_, fun name hname => ?_⟩⟩
  · rw [get_checksums]
    exact eq_self_int
  · rw [get_checksums]
    exact eq_str.mpr rfl
  · exact (h.names field.1).mp (keys_digests.mp (List.mem_map_of_mem hfield))
  · exact keys_digests.mpr ((h.names name).mpr hname)

/-! ## All files -/

def allFiles (payloads : List (String × Bytes)) (checksums : Bytes) : List (String × Bytes) :=
  payloads ++ [("checksums.json", checksums)]

theorem Packed.not_mem (h : Packed files payloads checksums) : "checksums.json" ∉ payloads.map Prod.fst := by
  rw [h.names]
  decide

theorem Packed.nodup_all (h : Packed files payloads checksums) : ((allFiles payloads checksums).map Prod.fst).Nodup := by
  unfold allFiles
  rw [List.map_append]
  refine List.Nodup.append h.nodup (List.nodup_singleton _) fun name hname hlast => ?_
  have heq : name = "checksums.json" := List.mem_singleton.mp hlast
  exact h.not_mem (heq ▸ hname)

theorem Packed.isAllowlist (h : Packed files payloads checksums) :
    isAllowlist ((allFiles payloads checksums).map Prod.fst) := by
  have hsplit : ∀ name, name ∈ (allFiles payloads checksums).map Prod.fst ↔ name ∈ bundleFiles := by
    intro name
    unfold allFiles
    rw [List.map_append, List.mem_append, h.names, payloadNames, List.mem_filter]
    by_cases hname : name = "checksums.json"
    · simp [hname, bundleFiles]
    · simp [hname]
  exact ⟨fun name => (hsplit name).mp, fun name => (hsplit name).mpr⟩

theorem Packed.lookup (h : Packed files payloads checksums) (hlookup : payloads.lookup name = some data) :
    (allFiles payloads checksums).lookup name = some data :=
  (lookup_eq_some h.nodup_all).mpr (List.mem_append_left _ ((lookup_eq_some h.nodup).mp hlookup))

theorem Packed.lookup_checksums (h : Packed files payloads checksums) :
    (allFiles payloads checksums).lookup "checksums.json" = some checksums :=
  (lookup_eq_some h.nodup_all).mpr (List.mem_append_right _ (List.mem_singleton.mpr rfl))

theorem mem_stage {file : StagedFile Bytes} (h : file ∈ stage (writeZip files deflated payloads)) :
    ∃ payload ∈ payloads, file = ⟨payload.1, payload.2, true, false, 1⟩ := by
  obtain ⟨entry, hentry, rfl⟩ := List.mem_map.mp h
  obtain ⟨payload, hmem, rfl⟩ := mem_writeZip hentry
  exact ⟨payload, hmem, rfl⟩

theorem Packed.limits (h : Packed files payloads checksums)
    (hlimits : WithinLimits files deflated (allFiles payloads checksums)) :
    ∀ file ∈ stage (writeZip files deflated (allFiles payloads checksums)), file.regular = true ∧ file.reparse = false ∧
      file.links = 1 ∧ ∃ maximum, maxFileBytes.lookup file.name = some maximum ∧ files.size file.data ≤ maximum := by
  intro file hfile
  obtain ⟨payload, hmem, rfl⟩ := mem_stage hfile
  obtain ⟨maximum, hmaximum⟩ := isSome_maxFileBytes (h.isAllowlist.1 payload.1 (List.mem_map_of_mem hmem))
  exact ⟨rfl, rfl, rfl, maximum, hmaximum, (hlimits payload hmem).1 maximum hmaximum⟩

theorem Packed.staged_names (h : Packed files payloads checksums) :
    Models.isAllowlist ((stage (writeZip files deflated (allFiles payloads checksums))).map StagedFile.name) := by
  rw [names_stage]
  exact (isAllowlist_perm (names_writeZip files deflated _)).mpr h.isAllowlist

theorem Packed.integrity (h : Packed files payloads checksums)
    (hlimits : WithinLimits files deflated (allFiles payloads checksums)) :
    verifyIntegrity files (stage (writeZip files deflated (allFiles payloads checksums))) = .ok () := by
  unfold verifyIntegrity
  simp only [bind_ok_iff, require_eq_ok, orError_eq_ok, dict?_eq_some]
  refine ⟨(), h.staged_names, (), fun file hfile => (h.limits hlimits file hfile).1, (), ?_, _,
    readJson_dumps h.nodup_all h.lookup_checksums h.signed, _, files_checksums, (), isChecksums_checksumsOf h, ?_⟩
  · refine forM_ok_iff.mpr fun file hfile => ?_
    obtain ⟨-, -, -, maximum, hmaximum, hsize⟩ := h.limits hlimits file hfile
    simp only [bind_ok_iff, require_eq_ok, orError_eq_ok]
    exact ⟨maximum, hmaximum, hsize⟩
  · refine forM_ok_iff.mpr fun entry hentry => ?_
    obtain ⟨source, hsource, rfl⟩ := mem_encoded.mp hentry
    obtain ⟨payload, hmem, rfl⟩ := List.mem_map.mp hsource
    have hlookup : payloads.lookup payload.1 = some payload.2 := (lookup_eq_some h.nodup).mpr (mem_sortKeys.mp hmem)
    simp only [bind_ok_iff, require_eq_ok, orError_eq_ok, encoding_str]
    exact ⟨_, rfl, (), files.length_sha256 _, _, (readBytes_stage h.nodup_all).mpr (h.lookup hlookup), rfl⟩

theorem Packed.staged_iff {manifest : Dict} {manifestBytes : Bytes} (h : Packed files payloads checksums)
    (hlimits : WithinLimits files deflated (allFiles payloads checksums))
    (hlookup : payloads.lookup "manifest.json" = some manifestBytes)
    (hmanifest : files.jsonBytes manifest = .ok manifestBytes) :
    verifyStagedContract files (stage (writeZip files deflated (allFiles payloads checksums))) = .ok () ↔
      hasValues manifest.encoded requiredManifest ∧ isIdentifier manifest.encoded "model_version" ∧
        isIdentifier manifest.encoded "policy_version" := by
  obtain ⟨hfinite, rfl⟩ := jsonBytes_ok_iff.mp hmanifest
  obtain ⟨hsignedFinite, hsigned⟩ := jsonBytes_ok_iff.mp h.signed
  have hchecksums := files.loads_dumps _ hsignedFinite
  have hloads := files.loads_dumps _ hfinite
  rw [encoding_dict] at hchecksums hloads
  have hpayload : ∀ name ∈ payloadNames, ∃ data, payloads.lookup name = some data :=
    fun name hname => exists_lookup.mpr ((h.names name).mpr hname)
  unfold verifyStagedContract
  simp only [bind_ok_iff, require_eq_ok, orError_eq_ok, dict?_eq_some]
  constructor
  · rintro ⟨-, -, -, -, bytes, -, -, -, bytes', hbytes', document, hdocument, -, -, -, -, -, -, -, -, fields, rfl, -,
      hrequired, hidentifiers⟩
    obtain rfl := Option.some.inj (((readBytes_stage h.nodup_all).mp hbytes').symm.trans (h.lookup hlookup))
    obtain rfl := Value.dict.inj (Option.some.inj (hdocument.symm.trans hloads))
    exact ⟨hrequired, hidentifiers⟩
  · rintro ⟨hrequired, hidentifiers⟩
    refine ⟨(), h.staged_names, (), ?_, checksums, (readBytes_stage h.nodup_all).mpr h.lookup_checksums, _,
      hsigned ▸ hchecksums, _, (readBytes_stage h.nodup_all).mpr (h.lookup hlookup), _, hloads, _, rfl, _,
      files_checksums, (), isChecksums_checksumsOf h, (), ?_, _, rfl, (), hrequired, hidentifiers⟩
    · refine forM_ok_iff.mpr fun file hfile => ?_
      obtain ⟨hregular, hreparse, hlinks, maximum, hmaximum, hsize⟩ := h.limits hlimits file hfile
      simp only [bind_ok_iff, require_eq_ok, orError_eq_ok]
      exact ⟨maximum, hmaximum, hregular, hreparse, hlinks, hsize⟩
    · refine forM_ok_iff.mpr fun name hname => ?_
      obtain ⟨data, hdata⟩ := hpayload name hname
      simp only [bind_ok_iff, require_eq_ok]
      refine ⟨data, (readBytes_stage h.nodup_all).mpr (h.lookup hdata), ?_⟩
      rw [get_encoded (nodup_digests h.nodup), get_digests h.nodup hdata]
      exact eq_str.mpr rfl

/-! ## The contract -/

variable {numpy : Numpy} {corpus : ResearchCorpus} {trained : TrainedModel Model} {protocol : Dict} {strideMs : Int}
  {protocolVersion modelSha256 : String}

def writtenManifest (protocol : Dict) (corpus : ResearchCorpus) (strideMs : Int) (protocolVersion modelSha256 : String) :
    Dict :=
  manifestOf protocol corpus strideMs protocolVersion modelSha256 ++ [("model_sha256", .str modelSha256)]

theorem get_manifest (key : String) :
    (writtenManifest protocol corpus strideMs protocolVersion modelSha256).encoded.get key =
      ((writtenManifest protocol corpus strideMs protocolVersion modelSha256).get key).encoding := by
  refine get_encoded ?_ key
  simp [writtenManifest, manifestOf]

theorem encoding_names (strings : List String) : (names strings).encoding = names strings := by
  unfold names
  rw [encoding_list, List.map_map]
  rfl

theorem eq_names (strings : List String) : (names strings).eq (names strings) = true := by
  unfold names
  rw [Value.eq]
  induction strings with
  | nil => rfl
  | cons s rest ih =>
    rw [List.map_cons, Value.eqItems, ih, eq_str.mpr rfl]
    rfl

theorem hasValues_tensorContract :
    hasValues (writtenManifest protocol corpus strideMs protocolVersion modelSha256).encoded tensorContract := by
  unfold hasValues tensorContract
  simp only [List.forall_mem_cons, List.not_mem_nil, false_implies, implies_true, and_true, get_manifest]
  refine ⟨eq_self_int, eq_self_int, eq_self_int, eq_str.mpr rfl, eq_str.mpr rfl, eq_self_int, eq_self_int, eq_str.mpr rfl, ?_,
    eq_str.mpr rfl, ?_, ?_, ?_⟩
  · exact (by decide +kernel : (Value.list [.none, .int 5, .int 90, .int 33]).encoding.eq
      (.list [.none, .int 5, .int 90, .int 33]) = true)
  · exact (by decide +kernel : (Value.list [.none, .int 4]).encoding.eq (.list [.none, .int 4]) = true)
  · change (names classNames).encoding.eq (names classNames) = true
    rw [encoding_names]
    exact eq_names classNames
  · change (names contextNames).encoding.eq (names contextNames) = true
    rw [encoding_names]
    exact eq_names contextNames

theorem requiredManifest_subset : ∀ entry ∈ requiredManifest, entry ∈ tensorContract := by
  intro entry hmem
  simp only [requiredManifest, List.mem_cons, List.not_mem_nil, or_false] at hmem
  rcases hmem with rfl | rfl | rfl | rfl
  · simp [tensorContract]
  · simp [tensorContract]
  · simp [tensorContract]
  · simp [tensorContract]

theorem length_policyVersion : (policyVersion protocolVersion).length = protocolVersion.length + 7 := by
  unfold policyVersion
  rw [String.length_append]
  rfl

theorem isIdentifier_written {key s : String}
    (h : (writtenManifest protocol corpus strideMs protocolVersion modelSha256).get key = .str s) :
    isIdentifier (writtenManifest protocol corpus strideMs protocolVersion modelSha256).encoded key ↔
      s ≠ "" ∧ s.length ≤ 128 := by
  unfold isIdentifier
  rw [get_manifest, h, encoding_str]
  simp [Value.str?]

theorem isIdentifier_model :
    isIdentifier (writtenManifest protocol corpus strideMs protocolVersion modelSha256).encoded "model_version" := by
  rw [isIdentifier_written (s := modelVersion modelSha256) rfl]
  have hlength : (modelVersion modelSha256).length = 19 + (modelSha256.toList.take 12).length := by
    unfold modelVersion
    rw [String.length_append]
    congr 1
    exact String.length_ofList
  have htake : (modelSha256.toList.take 12).length ≤ 12 := List.length_take_le 12 _
  refine ⟨fun hempty => ?_, by omega⟩
  rw [hempty, String.length_empty] at hlength
  omega

theorem isIdentifier_policy :
    isIdentifier (writtenManifest protocol corpus strideMs protocolVersion modelSha256).encoded "policy_version" ↔
      protocolVersion.length ≤ 121 := by
  rw [isIdentifier_written (s := policyVersion protocolVersion) rfl, length_policyVersion]
  have hne : policyVersion protocolVersion ≠ "" := by
    intro hempty
    have hlength := @length_policyVersion protocolVersion
    rw [hempty, String.length_empty] at hlength
    omega
  constructor
  · rintro ⟨-, h⟩
    omega
  · intro h
    exact ⟨hne, by omega⟩

theorem isIdentifier_dataset :
    isIdentifier (writtenManifest protocol corpus strideMs protocolVersion modelSha256).encoded
      "dataset_manifest_sha256" := by
  rw [isIdentifier_written (s := corpus.datasetManifestSha256) rfl, corpus.hexdigest]
  refine ⟨fun hempty => ?_, by decide⟩
  have hlength := corpus.hexdigest
  rw [hempty, String.length_empty] at hlength
  omega

theorem verifyManifest_written {digest : String} (hdigest : protocol.get "protocol_freeze_sha256" = .str digest)
    (hlength : digest.length = 64) :
    verifyManifest (writtenManifest protocol corpus strideMs protocolVersion modelSha256).encoded modelSha256 = .ok () ↔
      protocolVersion.length ≤ 121 := by
  have hmode : (writtenManifest protocol corpus strideMs protocolVersion modelSha256).encoded.get "training_mode" =
      .str "RESEARCH" := by
    rw [get_manifest]
    rfl
  have hdemo : (writtenManifest protocol corpus strideMs protocolVersion modelSha256).encoded.get "demo_only" =
      .bool false := by
    rw [get_manifest]
    rfl
  have hready : (writtenManifest protocol corpus strideMs protocolVersion modelSha256).encoded.get "research_ready" =
      .bool true := by
    rw [get_manifest]
    rfl
  have hfreeze : (writtenManifest protocol corpus strideMs protocolVersion modelSha256).encoded.get
      "protocol_freeze_sha256" = .str digest := by
    have hget : (writtenManifest protocol corpus strideMs protocolVersion modelSha256).get "protocol_freeze_sha256" =
        protocol.get "protocol_freeze_sha256" := rfl
    rw [get_manifest, hget, hdigest, encoding_str]
  have hmodel : (writtenManifest protocol corpus strideMs protocolVersion modelSha256).encoded.get "model_sha256" =
      .str modelSha256 := by
    rw [get_manifest]
    rfl
  unfold verifyManifest
  simp only [bind_ok_iff, require_eq_ok, hmode, hdemo, hready, hfreeze, hmodel]
  constructor
  · rintro ⟨-, -, -, -, -, -, -, -, -, -, -, -, -, hpolicy, -⟩
    exact isIdentifier_policy.mp hpolicy
  · intro hshort
    refine ⟨(), hasValues_tensorContract, .str "RESEARCH", rfl, (), .inr rfl, (), fun h => ?_, (), fun _ => ?_, (),
      eq_str.mpr rfl, isIdentifier_model, isIdentifier_policy.mpr hshort, isIdentifier_dataset⟩
    · exact absurd (Option.some.inj h) (by decide)
    · exact ⟨rfl, rfl, digest, rfl, hlength⟩

theorem encoding_vectorValue (xs : List Rat) : (vectorValue xs).encoding = vectorValue xs := by
  unfold vectorValue
  rw [encoding_list, List.map_map]
  rfl

theorem encoding_matrixValue (rows : List (List Rat)) : (matrixValue rows).encoding = matrixValue rows := by
  unfold matrixValue
  rw [encoding_list, List.map_map]
  congr 1
  exact List.map_congr_left fun row _ => encoding_vectorValue row

theorem isFinite_map (xs : List Rat) : ∀ x ∈ xs.map PyFloat.finite, isFinite x = true := by
  intro x hx
  obtain ⟨q, -, rfl⟩ := List.mem_map.mp hx
  rfl

structure FusionShape (trained : TrainedModel Model) : Prop where
  coefficients : trained.fusionCoefficients.length = classCount
  weights : ∀ weights ∈ trained.fusionCoefficients, weights.length = classCount + contextCount
  intercepts : trained.fusionIntercepts.length = classCount

structure Fitted (trained : TrainedModel Model) : Prop where
  temperatures : 0 < trained.cameraTemperature ∧ 0 < trained.fusionTemperature
  shape : FusionShape trained
  threshold : 0 ≤ trained.abstentionThreshold ∧ trained.abstentionThreshold ≤ 1

theorem fitted_of_fitModel {tools : Tools Model Bytes} {corpus : Corpus} {train calibration forbidden : List String}
    {epochs seed : Nat} (h : fitModel tools corpus train calibration forbidden epochs seed = .ok trained) :
    Fitted trained := by
  unfold fitModel at h
  simp only [bind_ok_iff, require_eq_ok] at h
  obtain ⟨-, -, -, -, -, -, cameraTemperature, hcamera, fusion, -, fusionTemperature, htemperature, probabilities,
    hprobabilities, threshold, hthreshold, h⟩ := h
  obtain rfl := Except.ok.inj h
  obtain ⟨-, hshape, hprobabilities⟩ := applyFusion_ok_iff.mp hprobabilities
  obtain ⟨-, hrows, rfl⟩ := applyTemperature_ok_iff.mp hprobabilities
  refine ⟨⟨fitTemperature_positive hcamera, fitTemperature_positive htemperature⟩, ⟨hshape.1, hshape.2.1, hshape.2.2⟩, ?_⟩
  rw [← Function.comp_def (softmax tools.math.exp), ← List.map_map] at hthreshold
  refine selectAbstentionThreshold_mem_unit (fun row hrow => ?_) hthreshold
  obtain ⟨logits, hlogits, rfl⟩ := List.mem_map.mp hrow
  have hlength := hrows logits hlogits
  rintro hnil
  rw [List.map_eq_nil_iff] at hnil
  rw [hnil] at hlength
  cases hlength

theorem hasFusionShape_of_fitted (h : Fitted trained) :
    hasFusionShape (.matrix (trained.fusionCoefficients.map fun row => row.map .finite))
      (.vector (trained.fusionIntercepts.map .finite)) := by
  refine ⟨⟨by rw [List.length_map, h.shape.coefficients], fun row hrow => ?_⟩, by rw [List.length_map, h.shape.intercepts], fun row hrow => ?_,
    isFinite_map _⟩
  · obtain ⟨weights, hmem, rfl⟩ := List.mem_map.mp hrow
    rw [List.length_map, h.shape.weights weights hmem]
  · obtain ⟨weights, -, rfl⟩ := List.mem_map.mp hrow
    exact isFinite_map weights

theorem asarray_coefficients (numpy : Numpy) (h : FusionShape trained) :
    numpy.asarray (matrixValue trained.fusionCoefficients) =
      .ok (.matrix (trained.fusionCoefficients.map fun row => row.map .finite)) := by
  refine numpy.asarray_matrix _ (classCount + contextCount) ?_ (by decide) h.weights
  intro hnil
  have hlength := h.coefficients
  rw [hnil] at hlength
  cases hlength

theorem asarray_intercepts (numpy : Numpy) (h : FusionShape trained) :
    numpy.asarray (vectorValue trained.fusionIntercepts) = .ok (.vector (trained.fusionIntercepts.map .finite)) := by
  refine numpy.asarray_vector _ ?_
  intro hnil
  have hlength := h.intercepts
  rw [hnil] at hlength
  cases hlength

theorem get_calibration (corpus : Corpus) (trained : TrainedModel Model) (key : String) :
    (calibrationOf corpus trained).encoded.get key = ((calibrationOf corpus trained).get key).encoding := by
  refine get_encoded ?_ key
  simp [calibrationOf]

theorem get_policy (protocol : Dict) (protocolVersion : String) (trained : TrainedModel Model) (key : String) :
    (policyOf protocol protocolVersion trained).encoded.get key =
      ((policyOf protocol protocolVersion trained).get key).encoding := by
  refine get_encoded ?_ key
  simp [policyOf]

theorem coefficients_calibration (corpus : Corpus) (trained : TrainedModel Model) :
    (calibrationOf corpus trained).encoded.get "fusion_coefficients" = matrixValue trained.fusionCoefficients := by
  rw [get_calibration]
  exact encoding_matrixValue _

theorem intercepts_calibration (corpus : Corpus) (trained : TrainedModel Model) :
    (calibrationOf corpus trained).encoded.get "fusion_intercepts" = vectorValue trained.fusionIntercepts := by
  rw [get_calibration]
  exact encoding_vectorValue _

theorem cameraTemperature_calibration (corpus : Corpus) (trained : TrainedModel Model) :
    finiteFloat ((calibrationOf corpus trained).encoded.get "camera_temperature") = .ok trained.cameraTemperature := by
  rw [get_calibration]
  rfl

theorem fusionTemperature_calibration (corpus : Corpus) (trained : TrainedModel Model) :
    finiteFloat ((calibrationOf corpus trained).encoded.get "fusion_temperature") = .ok trained.fusionTemperature := by
  rw [get_calibration]
  rfl

theorem threshold_policy (protocol : Dict) (protocolVersion : String) (trained : TrainedModel Model) :
    finiteFloat ((policyOf protocol protocolVersion trained).encoded.get "abstention_threshold") =
      .ok trained.abstentionThreshold := by
  rw [get_policy]
  rfl

theorem verifyCalibration_written (numpy : Numpy) (corpus : Corpus) (h : Fitted trained) :
    verifyCalibration numpy (calibrationOf corpus trained).encoded = .ok () := by
  have hschema : ((calibrationOf corpus trained).encoded.get "schema_version").eq (.int 1) = true := by
    rw [get_calibration]
    exact eq_self_int
  have hpartition : (calibrationOf corpus trained).encoded.get "fit_partition" = .str "CALIBRATION_PARTICIPANT_DISJOINT" := by
    rw [get_calibration]
    rfl
  have hfeatures : ((calibrationOf corpus trained).encoded.get "feature_order").eq (names fusionFeatureNames) = true := by
    rw [get_calibration]
    change (names fusionFeatureNames).encoding.eq (names fusionFeatureNames) = true
    rw [encoding_names]
    exact eq_names fusionFeatureNames
  have hclasses : ((calibrationOf corpus trained).encoded.get "class_order").eq (names classNames) = true := by
    rw [get_calibration]
    change (names classNames).encoding.eq (names classNames) = true
    rw [encoding_names]
    exact eq_names classNames
  unfold verifyCalibration
  simp only [bind_ok_iff, require_eq_ok]
  refine ⟨(), hschema, _, hashed_ok_of_str (by rw [hpartition]; rfl), (), ⟨?_, hfeatures, hclasses⟩, _,
    cameraTemperature_calibration corpus trained, _, fusionTemperature_calibration corpus trained, _, ?_, _, ?_,
    h.temperatures.1, h.temperatures.2, hasFusionShape_of_fitted h⟩
  · rw [hpartition]
    exact .inl rfl
  · rw [coefficients_calibration]
    exact asarray_coefficients numpy h.shape
  · rw [intercepts_calibration]
    exact asarray_intercepts numpy h.shape

theorem verifyPolicy_written (h : Fitted trained) :
    verifyPolicy (writtenManifest protocol corpus strideMs protocolVersion modelSha256).encoded
      (policyOf protocol protocolVersion trained).encoded = .ok () := by
  have hpartition : (policyOf protocol protocolVersion trained).encoded.get "selection_partition" =
      .str "CALIBRATION_PARTICIPANT_DISJOINT" := by
    rw [get_policy]
    rfl
  unfold verifyPolicy
  simp only [bind_ok_iff, require_eq_ok]
  refine ⟨_, threshold_policy protocol protocolVersion trained, (), ⟨?_, ?_⟩, _,
    hashed_ok_of_str (by rw [hpartition]; rfl), ?_, ?_, h.threshold.1, h.threshold.2⟩
  · rw [get_policy]
    exact eq_self_int
  · rw [get_policy, get_manifest]
    exact eq_str.mpr rfl
  · rw [hpartition]
    exact .inl rfl
  · rw [get_policy]
    exact eq_str.mpr rfl

/-! ## The whole bundle -/

def verifyBundle (files : Files Bytes) (numpy : Numpy) (zip : List (ZipEntry Bytes)) : Except String Unit := do
  verifyArchive zip
  let staged := stage zip
  verifyStagedContract files staged
  verifyIntegrity files staged
  let manifest ← readJson files staged "manifest.json"
  let calibration ← readJson files staged "calibration.json"
  let policy ← readJson files staged "policy.json"
  let modelBytes ← readBytes staged "model.onnx"
  verifyContract numpy manifest calibration policy (files.sha256 modelBytes)

def payloadsOf (modelBytes manifest calibration policy inputs outputs card : Bytes) : List (String × Bytes) :=
  [("model.onnx", modelBytes), ("manifest.json", manifest), ("calibration.json", calibration), ("policy.json", policy),
    ("golden_inputs.npz", inputs), ("golden_outputs.npz", outputs), ("MODEL_CARD.md", card)]

variable {modelBytes : Bytes} {zip : List (ZipEntry Bytes)} {fold : OuterFold}

theorem packed_payloadsOf {manifest calibration policy inputs outputs card : Bytes}
    (h : files.jsonBytes (checksumsOf files (payloadsOf modelBytes manifest calibration policy inputs outputs card)) =
      .ok checksums) : Packed files (payloadsOf modelBytes manifest calibration policy inputs outputs card) checksums := by
  have hnames : (payloadsOf modelBytes manifest calibration policy inputs outputs card).map Prod.fst = payloadNames := by
    simp [payloadsOf, payloadNames, bundleFiles]
  refine ⟨?_, fun name => by rw [hnames], h⟩
  rw [hnames]
  decide +kernel

structure Exported (tools : Tools Model Bytes) (modelBytes : Bytes) (manifest calibration policy : Dict)
    (goldenInputs : List Tensor) (goldenOutputs : List (List Rat)) (payloads : List (String × Bytes)) (checksums : Bytes)
    (zip : List (ZipEntry Bytes)) : Prop where
  packed : Packed tools.files payloads checksums
  zips : zip = writeZip tools.files tools.deflated (allFiles payloads checksums)
  counts : (allFiles payloads checksums).length = bundleFiles.length
  model : payloads.lookup "model.onnx" = some modelBytes
  manifest : ∃ data, payloads.lookup "manifest.json" = some data ∧
    tools.files.jsonBytes (manifest ++ [("model_sha256", .str (tools.files.sha256 modelBytes))]) = .ok data
  calibration : ∃ data, payloads.lookup "calibration.json" = some data ∧ tools.files.jsonBytes calibration = .ok data
  policy : ∃ data, payloads.lookup "policy.json" = some data ∧ tools.files.jsonBytes policy = .ok data

theorem exported_of_ok {tools : Tools Model Bytes} {manifest calibration policy : Dict}
    {goldenInputs : List Tensor} {goldenOutputs : List (List Rat)}
    (h : exportModelBundle tools modelBytes manifest calibration policy goldenInputs goldenOutputs = .ok zip) :
    ∃ payloads checksums, Exported tools modelBytes manifest calibration policy goldenInputs goldenOutputs payloads
      checksums zip := by
  unfold exportModelBundle at h
  simp only [bind_ok_iff, require_eq_ok] at h
  obtain ⟨manifestBytes, hmanifest, calibrationBytes, hcalibration, policyBytes, hpolicy, checksums, hchecksums, -, -, h⟩ := h
  refine ⟨payloadsOf modelBytes manifestBytes calibrationBytes policyBytes (tools.savezInputs goldenInputs)
    (tools.savezOutputs goldenOutputs) (tools.encode modelCard), checksums, packed_payloadsOf hchecksums,
    (Except.ok.inj h).symm, rfl, rfl, ⟨manifestBytes, rfl, hmanifest⟩, ⟨calibrationBytes, rfl, hcalibration⟩,
    ⟨policyBytes, rfl, hpolicy⟩⟩

def versionOf (protocol : Dict) : String := (protocol.get "protocol_version").str?.getD ""

theorem validateProtocolFreeze_identity {hash : DocumentHash} {document result : Dict}
    (h : validateProtocolFreeze hash document = .ok result) : result = document ∧
      ∃ digest, document.get "protocol_freeze_sha256" = .str digest ∧ digest.length = 64 := by
  unfold validateProtocolFreeze at h
  simp only [bind_ok_iff, require_eq_ok, str?_eq_some] at h
  obtain ⟨-, -, -, hsigned, -, -, version, -, -, -, policy, -, -, -, -, -, headDown, -, sideLook, -, -, -, h⟩ := h
  have hdigest := hash.digest (unsigned document)
  simp only [Authority.isHexDigest, Bool.decide_and, Bool.and_eq_true, decide_eq_true_eq] at hdigest
  exact ⟨(Except.ok.inj h).symm, _, hsigned, hdigest.1⟩

def ZipWithinLimits (zip : List (ZipEntry Bytes)) : Prop :=
  ∀ entry ∈ zip, (∀ maximum ∈ maxFileBytes.lookup entry.filename, entry.fileSize ≤ maximum) ∧
    (entry.fileSize ≠ 0 → entry.compressSize ≠ 0 ∧ entry.fileSize ≤ maxCompressionRatio * entry.compressSize)

theorem withinLimits_of_zip (h : ZipWithinLimits (writeZip files deflated payloads)) :
    WithinLimits files deflated payloads := by
  intro payload hmem
  exact h ⟨payload.1, 0o100644 <<< 16, files.size payload.2, deflated payload.2, payload.2⟩
    (List.mem_map_of_mem (mem_sortKeys.mpr hmem))

theorem verifyBundle_exported {tools : Tools Model Bytes} {goldenInputs : List Tensor}
    {goldenOutputs : List (List Rat)} {digest : String} (hfitted : Fitted trained)
    (hdigest : protocol.get "protocol_freeze_sha256" = .str digest) (hlength : digest.length = 64)
    (hexport : exportModelBundle tools modelBytes
      (manifestOf protocol corpus strideMs protocolVersion (tools.files.sha256 modelBytes))
      (calibrationOf corpus.toCorpus trained) (policyOf protocol protocolVersion trained) goldenInputs goldenOutputs =
        .ok zip)
    (hlimits : ZipWithinLimits zip) : verifyBundle tools.files numpy zip = .ok () ↔ protocolVersion.length ≤ 121 := by
  obtain ⟨payloads, checksums, hpacked, rfl, hcounts, hmodel, ⟨manifestBytes, hmanifestAt, hmanifest⟩,
    ⟨calibrationBytes, hcalibrationAt, hcalibration⟩, ⟨policyBytes, hpolicyAt, hpolicy⟩⟩ := exported_of_ok hexport
  have hwithin := withinLimits_of_zip hlimits
  have hread {name : String} {data : Bytes} {document : Dict} (hat : payloads.lookup name = some data)
      (hdata : tools.files.jsonBytes document = .ok data) :=
    @readJson_dumps _ _ tools.deflated _ _ _ _ hpacked.nodup_all (hpacked.lookup hat) hdata
  have hread_iff {name : String} {data : Bytes} {document result : Dict} (hat : payloads.lookup name = some data)
      (hdata : tools.files.jsonBytes document = .ok data) :
      readJson tools.files (stage (writeZip tools.files tools.deflated (allFiles payloads checksums))) name = .ok result ↔
        result = document.encoded := by
    rw [hread hat hdata, Except.ok.injEq, eq_comm]
  have hcontract : verifyManifest (writtenManifest protocol corpus strideMs protocolVersion
      (tools.files.sha256 modelBytes)).encoded (tools.files.sha256 modelBytes) = .ok () ↔ protocolVersion.length ≤ 121 :=
    verifyManifest_written hdigest hlength
  unfold verifyBundle verifyContract
  simp only [bind_ok_iff]
  constructor
  · rintro ⟨⟨⟩, -, ⟨⟩, hstaged, -⟩
    exact isIdentifier_policy.mp ((hpacked.staged_iff hwithin hmanifestAt hmanifest).mp hstaged).2.2
  · intro hshort
    refine ⟨(), verifyArchive_writeZip hcounts hpacked.isAllowlist hwithin, (), ?_, (), hpacked.integrity hwithin, _,
      (hread_iff hmanifestAt hmanifest).mpr rfl, _, (hread_iff hcalibrationAt hcalibration).mpr rfl, _,
      (hread_iff hpolicyAt hpolicy).mpr rfl, modelBytes, (readBytes_stage hpacked.nodup_all).mpr (hpacked.lookup hmodel),
      (), hcontract.mpr hshort, (), verifyCalibration_written numpy corpus.toCorpus hfitted, verifyPolicy_written hfitted⟩
    refine (hpacked.staged_iff hwithin hmanifestAt hmanifest).mpr ⟨fun entry hmem => ?_, isIdentifier_model,
      isIdentifier_policy.mpr hshort⟩
    exact hasValues_tensorContract entry (requiredManifest_subset entry hmem)

/-! ## Research runs -/

theorem exported_of_run {tools : Tools Model Bytes} {hash : DocumentHash} {load : Dict → Except String ResearchCorpus}
    {epochs : Nat} (hrun : runResearchTraining tools hash load document epochs = .ok zip) :
    ∃ (corpus : ResearchCorpus) (trained : TrainedModel Model) (modelBytes : Bytes) (strideMs : Int) (digest : String)
      (goldenInputs : List Tensor) (goldenOutputs : List (List Rat)), Fitted trained ∧
      document.get "protocol_freeze_sha256" = .str digest ∧ digest.length = 64 ∧
      exportModelBundle tools modelBytes
        (manifestOf document corpus strideMs (versionOf document) (tools.files.sha256 modelBytes))
        (calibrationOf corpus.toCorpus trained) (policyOf document (versionOf document) trained) goldenInputs goldenOutputs =
          .ok zip := by
  unfold runResearchTraining at hrun
  simp only [bind_ok_iff, orError_eq_ok, require_eq_ok, str?_eq_some] at hrun
  obtain ⟨protocol, hprotocol, corpus, -, folds, -, -, -, -, -, trained, hfit, modelBytes, -, -, -, version, hversion, policy,
    -, strideMs, -, hexport⟩ := hrun
  obtain ⟨rfl, digest, hdigest, hlength⟩ := validateProtocolFreeze_identity hprotocol
  have hsame : versionOf protocol = version := by
    unfold versionOf
    rw [hversion]
    rfl
  rw [hsame]
  exact ⟨corpus, trained, modelBytes, strideMs, digest, _, _, fitted_of_fitModel hfit, hdigest, hlength, hexport⟩

/-- The bundle of a research run can be imported exactly if the version of the protocol has at most 121 characters. -/
theorem research_bundle_importable (tools : Tools Model Bytes) (numpy : Numpy) (hash : DocumentHash)
    (load : Dict → Except String ResearchCorpus) (document : Dict) (epochs : Nat) (zip : List (ZipEntry Bytes))
    (hrun : runResearchTraining tools hash load document epochs = .ok zip) (hlimits : ZipWithinLimits zip) :
    verifyBundle tools.files numpy zip = .ok () ↔ (versionOf document).length ≤ 121 := by
  obtain ⟨corpus, trained, modelBytes, strideMs, digest, goldenInputs, goldenOutputs, hfitted, hdigest, hlength, hexport⟩ :=
    exported_of_run hrun
  exact verifyBundle_exported hfitted hdigest hlength hexport hlimits

namespace Sample

def exp (x : Rat) : Rat := if x ≤ -1000 then 1 / 2 ^ 1400 else (1 + x / 1024) ^ 1024

theorem exp_pos (x : Rat) : 0 < exp x := by
  unfold exp
  split
  · positivity
  · next h =>
    have hbase : 0 < 1 + x / 1024 := by linarith
    positivity

def math : Elementary where
  exp := exp
  log x := x - 1
  exp_nonneg x := (exp_pos x).le
  exp_zero := by norm_num [exp]

def jsonFiles : Files Value where
  size _ := 1
  sha256 _ := ResearchRuntime.Sample.digest
  dumps value := value.encoding
  loads := some
  hasConstant _ := false
  length_sha256 _ := by decide +kernel
  loads_dumps _ _ := rfl
  no_constant _ _ := rfl

def zeros (n : Nat) : List Rat := List.replicate n 0

def tools : Tools Unit Value where
  math := math
  files := jsonFiles
  orderKey _ participant := participant
  uuid session _ := session
  train _ _ _ _ := ()
  logits _ tensors := tensors.map fun _ => zeros classCount
  regression _ _ _ :=
    { coefficients := List.replicate classCount (zeros (classCount + contextCount)), intercepts := zeros classCount,
      classes := List.range classCount }
  exportOnnx _ := .ok (.str "onnx")
  onnxLogits _ tensors := tensors.map fun _ => zeros classCount
  allclose _ _ := true
  savezInputs _ := .str "inputs"
  savezOutputs _ := .str "outputs"
  encode := .str
  deflated _ := 1

theorem wellShaped : WellShaped tools where
  exp_pos := exp_pos
  logits_length _ tensors := by simp [tools]
  logits_shape _ tensors row hrow := by
    obtain ⟨tensor, -, rfl⟩ := List.mem_map.mp hrow
    simp [zeros]
  classes _ _ _ := rfl
  coefficients _ _ _ := by
    refine ⟨by simp [tools], fun weights hmem => ?_, by simp [tools, zeros]⟩
    rw [List.eq_of_mem_replicate hmem]
    simp [zeros]

def people : List String := ["P03", "P04", "P05", "P06", "P07", "P08", "P09", "P10", "P11", "P12"]

def context : ContextRow where
  visibilityMean := 9 / 10
  blurScore := 1 / 2
  exposureScore := 1 / 2
  frameGapRatio := 0
  focusFraction := 1
  scaledFocusSignalAge := 0

def window (person : String) (label : Label) : Window where
  tensor := List.replicate 90 (List.replicate 33 ⟨0, 0, 0, 1, 1⟩)
  label
  context
  participant := person
  session := person
  sourceKind := .real
  phase := "CONFIRMATORY"
  sampleId := person
  startMs := 0
  endMs := 6000
  parentProvenanceIds := []
  sourceRecordIds := []

def session (person : String) : SessionLoad where
  sessionId := person
  participant := person
  sourceKind := .real
  phase := "CONFIRMATORY"
  durationMs := 60000
  recordProvenance := []
  rawRuleFrames := []
  reviewedEvents := []
  windows := classOrder.map (window person)

def corpusOf (version : String) : ResearchCorpus where
  rows := people.flatMap fun person => classOrder.map (window person)
  recordProvenance := []
  sessions := people.map session
  datasetManifestSha256 := ResearchRuntime.Sample.digest
  protocolVersion := version
  hexdigest := by decide +kernel

def protocolOf (version : String) : Dict := put (Training.Sample.protocol 1000) "protocol_version" (.str version)

open ResearchRuntime

variable {version : String}

theorem protocolOf_get (key : String) (hkey : key ≠ "protocol_version") :
    (protocolOf version).get key = (Training.Sample.protocol 1000).get key := by
  unfold protocolOf
  rw [get_put, if_neg hkey]

theorem protocolOf_version : (protocolOf version).get "protocol_version" = .str version := by
  unfold protocolOf
  rw [get_put, if_pos rfl]

theorem protocol_valid (hversion : version ≠ "") (hshort : version.length ≤ 128) :
    validateProtocolFreeze Training.Sample.documentHash (protocolOf version) = .ok (protocolOf version) ∧
      ∃ mapped, Showcase.RulePolicy.fromProtocolFreeze (protocolOf version) = .ok mapped := by
  obtain ⟨policy, hothers, hfrozen, hbounded, hstrict⟩ := @Training.Sample.protocol_frozen 1000 (by decide)
  have hvalid : OtherFields (protocolOf version) :=
    ⟨by rw [protocolOf_get _ (by decide)]; exact hothers.schemaVersion, by rw [protocolOf_get _ (by decide)]; exact hothers.frozenBefore,
      by rw [protocolOf_get _ (by decide)]; exact hothers.pilot, by rw [protocolOf_get _ (by decide)]; exact hothers.confirmatory,
      by rw [protocolOf_get _ (by decide)]; exact hothers.primaryTiou⟩
  have hholds : (protocolOf version).get "event_policy" = .dict policy := by
    rw [protocolOf_get _ (by decide)]
    exact hfrozen.holds
  have hselects : (protocolOf version).get "policy_selection_source" = .str "PILOT" := by
    rw [protocolOf_get _ (by decide)]
    exact hfrozen.selects
  have hstatus : (protocolOf version).get "status" = .str "FROZEN" := by
    rw [protocolOf_get _ (by decide)]
    exact hfrozen.status
  have hfits : Strict (Training.Sample.protocol 1000) policy := hstrict.mpr (by rw [floatOfInt_small (by decide)]; rfl)
  constructor
  · refine (validateProtocolFreeze_ok_iff fun other hother => ?_).mpr ⟨hvalid, version, "PILOT", policy,
      ⟨?_, hstatus, protocolOf_version, hversion, hselects, .inl rfl, hholds, hfrozen.fields, hfrozen.hysteresis⟩, hshort,
      hfits.stride, hfits.durations, rfl⟩
    · rw [protocolOf_get _ (by decide)] at hother
      exact Training.Sample.policy_distinct 1000 other hother
    · rw [protocolOf_get _ (by decide)]
      exact hfrozen.signed
  · exact fromProtocolFreeze_ok_iff.mpr ⟨version, "PILOT", policy, protocolOf_version, hselects, hholds,
      ⟨hstatus, hversion, hfrozen.selected, hfrozen.fields⟩, hfrozen.hysteresis, hbounded.mpr (by decide)⟩

/-! ### Folds of the sample -/

variable {chosen : List String}

theorem mem_rowsOf {row : Window} : row ∈ (corpusOf version).rowsOf chosen ↔
    ∃ person ∈ people, person ∈ chosen ∧ ∃ label ∈ classOrder, row = window person label := by
  unfold Corpus.rowsOf corpusOf
  simp only [List.mem_filter, List.mem_flatMap, List.mem_map, decide_eq_true_eq]
  constructor
  · rintro ⟨⟨person, hperson, label, hlabel, rfl⟩, hchosen⟩
    exact ⟨person, hperson, hchosen, label, hlabel, rfl⟩
  · rintro ⟨person, hperson, hchosen, label, hlabel, rfl⟩
    exact ⟨⟨person, hperson, label, hlabel, rfl⟩, hchosen⟩

theorem rowsOf_ne_nil (h : ∃ person ∈ chosen, person ∈ people) :
    (corpusOf version).rowsOf chosen ≠ [] := by
  obtain ⟨person, hchosen, hperson⟩ := h
  exact List.ne_nil_of_mem (mem_rowsOf.mpr ⟨person, hperson, hchosen, .normal, by decide, rfl⟩)

theorem checkPartition_ok {name : String} (h : chosen = [] ∨ ∃ person ∈ chosen, person ∈ people) :
    checkPartition (corpusOf version).toCorpus name chosen = .ok () := by
  unfold checkPartition
  split
  · rfl
  · next hne =>
    simp only [bind_ok_iff, require_eq_ok]
    refine ⟨(), rowsOf_ne_nil (h.resolve_left hne), (), fun row hrow => ?_, fun row hrow => ?_⟩
    · obtain ⟨person, -, -, label, -, rfl⟩ := mem_rowsOf.mp hrow
      rfl
    · obtain ⟨person, -, -, label, -, rfl⟩ := mem_rowsOf.mp hrow
      rfl

theorem sources_ok (hcalibration : ∃ person ∈ fold.calibration, person ∈ people)
    (htest : fold.test = [] ∨ ∃ person ∈ fold.test, person ∈ people) :
    assertResearchFoldSources (corpusOf version).toCorpus fold = .ok () := by
  unfold assertResearchFoldSources
  simp only [bind_ok_iff]
  refine ⟨(), checkPartition_ok (.inr hcalibration), (), checkPartition_ok htest, forM_ok_iff.mpr fun row hrow => ?_⟩
  obtain ⟨person, -, -, label, -, rfl⟩ := mem_rowsOf.mp hrow
  rfl

theorem fit_ok (version : String) (train calibration forbidden : List String) (epochs seed : Nat)
    (hdisjoint : ∀ person ∈ train, person ∉ calibration) (hforbidden : ∀ person ∈ train ++ calibration, person ∉ forbidden)
    (htrain : ∃ person ∈ train, person ∈ people) (hcalibration : ∃ person ∈ calibration, person ∈ people) :
    ∃ trained, fitModel tools (corpusOf version).toCorpus train calibration forbidden epochs seed = .ok trained := by
  refine fitModel_returns wellShaped epochs seed hdisjoint hforbidden (rowsOf_ne_nil htrain) (fun row hrow => ?_)
    fun k hk => ?_
  · obtain ⟨person, -, -, label, hlabel, rfl⟩ := mem_rowsOf.mp hrow
    exact List.idxOf_lt_length_of_mem hlabel
  · obtain ⟨person, hchosen, hperson⟩ := hcalibration
    have hlabels : ∀ k < classCount, ∃ label ∈ classOrder, classOrder.idxOf label = k := by decide
    obtain ⟨label, hlabel, rfl⟩ := hlabels k hk
    exact List.mem_map.mpr ⟨window person label, mem_rowsOf.mpr ⟨person, hperson, hchosen, label, hlabel, rfl⟩, rfl⟩

/-! ### The evaluation of the sample -/

theorem rowMax_zeros {n : Nat} : rowMax (zeros n) = 0 := by
  cases n with
  | zero => rfl
  | succ n =>
    have hmem : rowMax (zeros (n + 1)) ∈ zeros (n + 1) := rowMax_mem (by simp [zeros])
    exact List.eq_of_mem_replicate hmem

theorem argmax_softmax_zeros : argmax (softmax math.exp (zeros classCount)) = 0 := by
  have hshifted : (zeros classCount).map (fun x => x - rowMax (zeros classCount)) = zeros classCount := by
    rw [rowMax_zeros]
    simp [zeros]
  have hones : exponentials math.exp (zeros classCount) = [1, 1, 1, 1] := by
    unfold exponentials
    rw [hshifted]
    simp [zeros, classCount, math.exp_zero]
  have hquarters : softmax math.exp (zeros classCount) = [1 / 4, 1 / 4, 1 / 4, 1 / 4] := by
    unfold softmax
    rw [hones]
    norm_num
  rw [hquarters]
  simp [argmax, rowMax]

theorem zeros_div (n : Nat) (temperature : Rat) : (zeros n).map (fun x => x / temperature) = zeros n := by
  simp [zeros]

theorem dot_zeros (row : List Rat) (n : Nat) : dot row (zeros n) = 0 := by
  unfold dot zeros
  induction row generalizing n with
  | nil => rfl
  | cons x rest ih =>
    cases n with
    | zero => rfl
    | succ n =>
      rw [List.replicate_succ, List.zipWith_cons_cons, List.sum_cons, ih, mul_zero, zero_add]

theorem fused_zeros (row : List Rat) :
    fused (List.replicate classCount (zeros (classCount + contextCount))) (zeros classCount) row = zeros classCount := by
  have hrow : List.zipWith (fun weights bias => dot row weights + bias)
      (List.replicate classCount (zeros (classCount + contextCount))) (List.replicate classCount 0) =
      List.replicate classCount (dot row (zeros (classCount + contextCount)) + 0) := by simp
  unfold fused
  rw [← zeros.eq_def] at hrow
  rw [hrow, dot_zeros, add_zero]
  rfl

theorem predictedEvents_quiet {windows : List Window} {labels : List Int} {mergeGapMs : Int}
    (h : ∀ label ∈ labels, label ≠ 2 ∧ label ≠ 3) : predictedEvents windows labels mergeGapMs = .ok [] := by
  have hrows : predictedRows windows labels = [] := by
    unfold predictedRows
    refine List.filterMap_eq_nil_iff.mpr fun entry hentry => ?_
    obtain ⟨htwo, hthree⟩ := h entry.2 (List.of_mem_zip hentry).2
    rw [if_neg (by rintro (heq | heq); exacts [htwo heq, hthree heq])]
  unfold predictedEvents
  rw [hrows, List.mergeSort_nil]
  rfl

theorem cameraLabels_quiet {trained : TrainedModel Unit} (hpos : 0 < trained.cameraTemperature) (tensors : List Tensor) :
    ∃ probabilities, applyTemperature math (tools.logits trained.model tensors) trained.cameraTemperature =
      .ok probabilities ∧ ∀ label ∈ cameraLabels probabilities, label ≠ 2 ∧ label ≠ 3 := by
  refine ⟨_, applyTemperature_ok_iff.mpr ⟨hpos, wellShaped.logits_shape _ _, rfl⟩, fun label hlabel => ?_⟩
  obtain ⟨row, hrow, rfl⟩ := List.mem_map.mp hlabel
  obtain ⟨logits, hlogits, rfl⟩ := List.mem_map.mp hrow
  obtain ⟨tensor, -, rfl⟩ := List.mem_map.mp hlogits
  rw [zeros_div, argmax_softmax_zeros]
  decide

theorem contextLabels_quiet {trained : TrainedModel Unit} (hpos : 0 < trained.fusionTemperature)
    (hcoefficients : trained.fusionCoefficients = List.replicate classCount (zeros (classCount + contextCount)))
    (hintercepts : trained.fusionIntercepts = zeros classCount) (windows : List Window) :
    ∃ labels, evaluatedLabels math trained (tools.logits trained.model (windows.map Window.tensor))
      (windows.map fun window => contextRow window.context) = .ok labels ∧ ∀ label ∈ labels, label ≠ 2 ∧ label ≠ 3 := by
  have hfused := applyFusion_returns math (tools.logits trained.model (windows.map Window.tensor))
    (windows.map fun window => contextRow window.context) trained.fusionCoefficients trained.fusionIntercepts hpos
    (wellShaped.logits_shape trained.model (windows.map Window.tensor)) (fun row hrow => by
      obtain ⟨window, -, rfl⟩ := List.mem_map.mp hrow
      rfl) (by rw [wellShaped.logits_length, List.length_map, List.length_map]) (by
      rw [hcoefficients, hintercepts]
      exact wellShaped.coefficients [] [] 0)
  unfold evaluatedLabels
  rw [hfused]
  refine ⟨_, rfl, fun label hlabel => ?_⟩
  obtain ⟨row, hrow, rfl⟩ := List.mem_map.mp hlabel
  obtain ⟨logits, hlogits, rfl⟩ := List.mem_map.mp hrow
  obtain ⟨source, -, rfl⟩ := List.mem_map.mp hlogits
  rw [hcoefficients, hintercepts, fused_zeros, zeros_div, argmax_softmax_zeros]
  split
  · decide
  · decide

theorem evaluation_ok {trained : TrainedModel Unit} (hfitted : Fitted trained)
    (hcoefficients : trained.fusionCoefficients = List.replicate classCount (zeros (classCount + contextCount)))
    (hintercepts : trained.fusionIntercepts = zeros classCount) (hversion : version ≠ "") (hshort : version.length ≤ 128)
    (htest : ∃ person ∈ fold.test, person ∈ people) :
    researchFoldEvaluation tools (corpusOf version).toCorpus fold trained (protocolOf version) = .ok () := by
  obtain ⟨probabilities, hprobabilities, hcamera⟩ := cameraLabels_quiet hfitted.temperatures.1
    (((corpusOf version).rowsOf fold.test).map Window.tensor)
  obtain ⟨labels, hlabels, hcontext⟩ := contextLabels_quiet hfitted.temperatures.2 hcoefficients hintercepts
    ((corpusOf version).rowsOf fold.test)
  obtain ⟨mapped, hmapped⟩ := (protocol_valid hversion hshort).2
  have hframes : (corpusOf version).sessions.flatMap SessionLoad.rawRuleFrames = [] := by
    refine List.flatMap_eq_nil_iff.mpr fun load hload => ?_
    obtain ⟨person, -, rfl⟩ := List.mem_map.mp hload
    rfl
  have hreviews : (corpusOf version).sessions.flatMap SessionLoad.reviewedEvents = [] := by
    refine List.flatMap_eq_nil_iff.mpr fun load hload => ?_
    obtain ⟨person, -, rfl⟩ := List.mem_map.mp hload
    rfl
  have hrules : ruleEventsFromRaw tools.uuid (corpusOf version).toCorpus fold (protocolOf version) = .ok [] := by
    unfold ruleEventsFromRaw
    rw [hframes, hmapped]
    simp only [List.filter_nil, List.map_nil, List.eraseDups_nil, List.mergeSort_nil, List.mapM_nil]
    rfl
  have hsessions : ∃ sessions, (((corpusOf version).sessions.filter fun load => load.participant ∈ fold.test).mergeSort
      fun a b => decide (a.sessionId ≤ b.sessionId)).mapM (fun load =>
        EvaluationSession.make load.sessionId load.participant load.durationMs) = .ok sessions := by
    refine mapM_returns_iff.mpr fun load hload => ?_
    obtain ⟨person, hperson, rfl⟩ := List.mem_map.mp (List.mem_filter.mp (List.mem_mergeSort.mp hload)).1
    have hnamed : ∀ person ∈ people, person ≠ "" := by decide
    unfold EvaluationSession.make
    rw [dif_pos ⟨⟨hnamed person hperson, hnamed person hperson⟩, show (0 : Int) < 60000 by decide⟩]
    exact ⟨_, rfl⟩
  obtain ⟨sessions, hsessions⟩ := hsessions
  have hids : sessions.map EvaluationSession.sessionId =
      (((corpusOf version).sessions.filter fun load => load.participant ∈ fold.test).mergeSort
        fun a b => decide (a.sessionId ≤ b.sessionId)).map SessionLoad.sessionId := by
    refine mapM_ok_map hsessions fun load _ made hmade => ?_
    unfold EvaluationSession.make at hmade
    split at hmade
    · rw [← Except.ok.inj hmade]
    · cases hmade
  obtain ⟨policy, hpolicy, merge, hmerge, persistence, hpersistence⟩ : ∃ policy : Dict,
      (protocolOf version).get "event_policy" = .dict policy ∧ ∃ merge, (policy.get "merge_gap_ms").int? = some merge ∧
        ∃ persistence, (policy.get "persistence_ms").int? = some persistence := by
    unfold protocolOf
    rw [get_put, if_neg (by decide)]
    exact ⟨_, rfl, _, rfl, _, rfl⟩
  have hevents : researchFoldEvents tools.uuid (corpusOf version).toCorpus fold (protocolOf version)
      (cameraLabels probabilities) labels = .ok ⟨sessions, [], [], [], []⟩ := by
    unfold researchFoldEvents
    rw [hreviews]
    simp only [bind_ok_iff, orError_eq_ok, dict?_eq_some]
    exact ⟨policy, hpolicy, [], hrules, merge, hmerge, [], predictedEvents_quiet hcamera, [],
      predictedEvents_quiet hcontext, sessions, hsessions, persistence, hpersistence, [], rfl, rfl⟩
  unfold researchFoldEvaluation
  simp only [bind_ok_iff]
  refine ⟨probabilities, hprobabilities, labels, hlabels, _, hevents, ?_⟩
  unfold evaluateConfigurations
  simp only [bind_ok_iff, require_eq_ok]
  refine ⟨(), ?_, (), ?_, rfl⟩
  · obtain ⟨person, hchosen, hperson⟩ := htest
    intro hnil
    rw [hnil, List.map_nil] at hids
    have hmem : session person ∈ ((corpusOf version).sessions.filter fun load => load.participant ∈ fold.test).mergeSort
        fun a b => decide (a.sessionId ≤ b.sessionId) :=
      List.mem_mergeSort.mpr (List.mem_filter.mpr ⟨List.mem_map_of_mem hperson, decide_eq_true hchosen⟩)
    have hlisted := List.mem_map_of_mem (f := SessionLoad.sessionId) hmem
    rw [← hids] at hlisted
    cases hlisted
  · rw [hids]
    refine (((List.mergeSort_perm _ _).map SessionLoad.sessionId).nodup_iff).mpr ?_
    refine List.Nodup.sublist (List.filter_sublist.map SessionLoad.sessionId) ?_
    have hall : (corpusOf version).sessions.map SessionLoad.sessionId = people := by
      unfold corpusOf
      rw [List.map_map]
      exact List.map_id people
    rw [hall]
    decide

end Sample

theorem finite_list {α : Type} {value : α → Value} (h : ∀ a, finite (value a) = true) (items : List α) :
    finite (.list (items.map value)) = true := by
  rw [finite, finiteItems_iff]
  intro item hitem
  obtain ⟨a, -, rfl⟩ := List.mem_map.mp hitem
  exact h a

theorem finite_names (strings : List String) : finite (names strings) = true := finite_list (fun _ => rfl) strings

theorem finite_vectorValue (xs : List Rat) : finite (vectorValue xs) = true := finite_list (fun _ => rfl) xs

theorem finite_matrixValue (rows : List (List Rat)) : finite (matrixValue rows) = true :=
  finite_list finite_vectorValue rows

theorem exportModelBundle_returns (protocol : Dict) (corpus : ResearchCorpus) (trained : TrainedModel Model)
    (strideMs : Int) (protocolVersion modelSha256 : String) (tools : Tools Model Bytes) (modelBytes : Bytes)
    (goldenInputs : List Tensor) (goldenOutputs : List (List Rat))
    (hdigest : finite (protocol.get "protocol_freeze_sha256") = true)
    (htiou : finite (protocol.get "primary_tiou") = true) (hpolicy : finite (protocol.get "event_policy") = true) :
    ∃ zip, exportModelBundle tools modelBytes (manifestOf protocol corpus strideMs protocolVersion modelSha256)
      (calibrationOf corpus.toCorpus trained) (policyOf protocol protocolVersion trained) goldenInputs goldenOutputs =
        .ok zip := by
  have hmanifest : finite (.dict (manifestOf protocol corpus strideMs protocolVersion modelSha256 ++
      [("model_sha256", .str (tools.files.sha256 modelBytes))])) = true := by
    rw [finite, finiteFields_iff]
    simp [manifestOf, sourceCounts, finite_names, hdigest, finite, finiteItems, finiteFields]
  have hcalibration : finite (.dict (calibrationOf corpus.toCorpus trained)) = true := by
    rw [finite, finiteFields_iff]
    simp [calibrationOf, finite_names, finite_vectorValue, finite_matrixValue, finite, finiteFields]
  have hpolicyDocument : finite (.dict (policyOf protocol protocolVersion trained)) = true := by
    rw [finite, finiteFields_iff]
    simp [policyOf, htiou, hpolicy, finite]
  have hchecksums (payloads : List (String × Bytes)) : finite (.dict (checksumsOf tools.files payloads)) = true := by
    have hdigests : finiteFields ((sortKeys payloads).map fun payload => (payload.1, .str (tools.files.sha256 payload.2))) =
        true := by
      rw [finiteFields_iff]
      intro field hfield
      obtain ⟨payload, -, rfl⟩ := List.mem_map.mp hfield
      rfl
    rw [finite, finiteFields_iff]
    simp [checksumsOf, finite, hdigests]
  unfold exportModelBundle
  simp only [bind_ok_iff, require_eq_ok]
  refine ⟨_, _, jsonBytes_ok_iff.mpr ⟨hmanifest, rfl⟩, _, jsonBytes_ok_iff.mpr ⟨hcalibration, rfl⟩, _,
    jsonBytes_ok_iff.mpr ⟨hpolicyDocument, rfl⟩, _, jsonBytes_ok_iff.mpr ⟨hchecksums _, rfl⟩, (), ?_, rfl⟩
  simp [isAllowlist, bundleFiles]

namespace Sample
open ResearchRuntime

variable {version : String}

theorem folds_sample (hversion : version ≠ "") (hshort : version.length ≤ 128) :
    buildOuterFolds tools.orderKey participantIds version = .ok ((List.range 5).map (foldOf people)) := by
  have hconfirmatory : participantIds.filter (fun person => person ∉ pilotIds) = people := by decide
  have hsorted : people.mergeSort (fun a b => decide (a ≤ b)) = people := by
    refine List.mergeSort_of_pairwise ?_
    decide
  unfold buildOuterFolds
  simp only [bind_ok_iff, require_eq_ok]
  refine ⟨(), ⟨hversion, hshort⟩, (), by decide, (), fun person hperson => hperson, (), ?_, ?_⟩
  · rw [hconfirmatory]
    decide
  · rw [hconfirmatory]
    change Except.ok ((List.range 5).map (foldOf (people.mergeSort fun a b => decide (a ≤ b)))) = _
    rw [hsorted]

theorem folds_split : ∀ index ∈ List.range 5,
    (∀ person ∈ (foldOf people index).train ++ (foldOf people index).calibration, person ∉ (foldOf people index).test) ∧
      (∃ person ∈ (foldOf people index).train, person ∈ people) ∧
      (∃ person ∈ (foldOf people index).calibration, person ∈ people) ∧
      ∃ person ∈ (foldOf people index).test, person ∈ people := by
  decide

theorem runFold_ok (hversion : version ≠ "") (hshort : version.length ≤ 128)
    (hforbidden : ∀ person ∈ fold.train ++ fold.calibration, person ∉ fold.test)
    (htrain : ∃ person ∈ fold.train, person ∈ people) (hcalibration : ∃ person ∈ fold.calibration, person ∈ people)
    (htest : ∃ person ∈ fold.test, person ∈ people) :
    runFold tools (corpusOf version).toCorpus (protocolOf version) 1 fold = .ok () := by
  obtain ⟨trained, hfit⟩ := fit_ok version fold.train fold.calibration fold.test 1 (seed + fold.index)
    (fun person hperson => (fold.disjoint person hperson).1) hforbidden htrain hcalibration
  obtain ⟨rows, targets, hcoefficients, hintercepts⟩ := fusion_of_fitModel hfit
  unfold runFold
  simp only [bind_ok_iff]
  exact ⟨(), sources_ok hcalibration (.inr htest), trained, hfit,
    evaluation_ok (fitted_of_fitModel hfit) hcoefficients hintercepts hversion hshort htest⟩

theorem run_ok (hversion : version ≠ "") (hshort : version.length ≤ 128) : ∃ zip,
    runResearchTraining tools Training.Sample.documentHash (fun _ => .ok (corpusOf version)) (protocolOf version) 1 =
      .ok zip ∧ ZipWithinLimits zip := by
  have hfolds : ((List.range 5).map (foldOf people)).forM
      (runFold tools (corpusOf version).toCorpus (protocolOf version) 1) = .ok () := by
    refine forM_ok_iff.mpr fun fold hfold => ?_
    obtain ⟨index, hindex, rfl⟩ := List.mem_map.mp hfold
    obtain ⟨hforbidden, htrain, hcalibration, htest⟩ := folds_split index hindex
    exact runFold_ok hversion hshort hforbidden htrain hcalibration htest
  obtain ⟨final, hfinal⟩ := fit_ok version finalTrain finalCalibration [] 1 (seed + 100)
    (by decide) (by simp) ⟨"P03", by decide, by decide⟩ ⟨"P11", by decide, by decide⟩
  obtain ⟨policy, hpolicy, strideMs, hstride⟩ : ∃ policy : Dict, (protocolOf version).get "event_policy" = .dict policy ∧
      ∃ strideMs, (policy.get "stride_ms").int? = some strideMs := by
    rw [protocolOf_get _ (by decide)]
    exact ⟨_, rfl, _, rfl⟩
  obtain ⟨zip, hzip⟩ := exportModelBundle_returns (protocolOf version) (corpusOf version) final strideMs version
    (tools.files.sha256 (.str "onnx")) tools (.str "onnx")
    ((((corpusOf version).rowsOf ["P03"]).map Window.tensor).take 2)
    (tools.onnxLogits (.str "onnx") ((((corpusOf version).rowsOf ["P03"]).map Window.tensor).take 2))
    (by rw [protocolOf_get _ (by decide)]; rfl) (by rw [protocolOf_get _ (by decide)]; rfl) (by rw [protocolOf_get _ (by decide)]; rfl)
  refine ⟨zip, ?_, ?_⟩
  · unfold runResearchTraining
    simp only [bind_ok_iff, orError_eq_ok, require_eq_ok, str?_eq_some, dict?_eq_some]
    exact ⟨_, (protocol_valid hversion hshort).1, _, rfl, _, folds_sample hversion hshort, (), hfolds, (),
      sources_ok ⟨"P11", by decide, by decide⟩ (.inl rfl), final, hfinal, .str "onnx", rfl, (), rfl, version,
      protocolOf_version, policy, hpolicy, strideMs, hstride, hzip⟩
  · obtain ⟨payloads, checksums, hexported⟩ := exported_of_ok hzip
    intro entry hentry
    rw [hexported.zips] at hentry
    obtain ⟨payload, -, rfl⟩ := mem_writeZip hentry
    have hsmall : ∀ entry ∈ maxFileBytes, 1 ≤ entry.2 := by decide
    refine ⟨fun maximum hmaximum => ?_, fun _ => ⟨show 1 ≠ 0 by decide, show 1 ≤ 200 * 1 by decide⟩⟩
    exact hsmall (payload.1, maximum) ((lookup_eq_some (by decide)).mp hmaximum)

end Sample

namespace Sample

/-- `np.asarray` on lists of floats. -/
def floatsOf : Value → Option (List PyFloat)
  | .list items => items.mapM fun item => match item with
    | .float x => some x
    | _ => none
  | _ => none

theorem floatsOf_vectorValue (xs : List Rat) : floatsOf (vectorValue xs) = some (xs.map .finite) := by
  unfold floatsOf vectorValue
  simp only
  induction xs with
  | nil => rfl
  | cons x rest ih =>
    rw [List.map_cons, List.mapM_cons, ih]
    rfl

def asarray : Value → Except String NdArray
  | .list items =>
    match floatsOf (.list items), items.mapM floatsOf with
    | some xs, _ => .ok (.vector xs)
    | none, some rows => .ok (.matrix rows)
    | none, none => .ok .other
  | _ => .ok .other

theorem mapM_floatsOf (rows : List (List Rat)) :
    (rows.map vectorValue).mapM floatsOf = some (rows.map fun row => row.map .finite) := by
  induction rows with
  | nil => rfl
  | cons row rest ih =>
    rw [List.map_cons, List.mapM_cons, ih, floatsOf_vectorValue]
    rfl

def arrays : Numpy where
  asarray := asarray
  asarray_vector xs _ := by
    have h := floatsOf_vectorValue xs
    unfold vectorValue at h ⊢
    unfold asarray
    simp only [h]
  asarray_matrix rows width hne _ _ := by
    obtain ⟨row, rest, rfl⟩ := List.exists_cons_of_ne_nil hne
    have h := mapM_floatsOf (row :: rest)
    have hnone : floatsOf (.list ((row :: rest).map vectorValue)) = none := rfl
    unfold matrixValue asarray
    simp only [h, hnone]

end Sample

/-- The bundle of a protocol with a short version is imported. -/
theorem research_bundle_importable_short : ∃ zip,
    runResearchTraining Sample.tools Training.Sample.documentHash (fun _ => .ok (Sample.corpusOf "V1"))
      (Sample.protocolOf "V1") 1 = .ok zip ∧ verifyBundle Sample.tools.files Sample.arrays zip = .ok () := by
  obtain ⟨zip, hrun, hlimits⟩ := @Sample.run_ok "V1" (by decide) (by decide)
  refine ⟨zip, hrun, (research_bundle_importable Sample.tools Sample.arrays Training.Sample.documentHash
    (fun _ => .ok (Sample.corpusOf "V1")) (Sample.protocolOf "V1") 1 zip hrun hlimits).mpr ?_⟩
  decide +kernel

def longVersion : String := String.ofList (List.replicate 122 'v')

/-- The bundle of a protocol with a long version is refused. -/
theorem research_bundle_refused : ∃ zip,
    validateProtocolFreeze Training.Sample.documentHash (Sample.protocolOf longVersion) =
      .ok (Sample.protocolOf longVersion) ∧
    runResearchTraining Sample.tools Training.Sample.documentHash (fun _ => .ok (Sample.corpusOf longVersion))
      (Sample.protocolOf longVersion) 1 = .ok zip ∧ ZipWithinLimits zip ∧
    verifyBundle Sample.tools.files Sample.arrays zip ≠ .ok () := by
  have hlength : longVersion.length = 122 := by
    unfold longVersion
    rw [String.length_ofList, List.length_replicate]
  have hne : longVersion ≠ "" := by
    intro hempty
    rw [hempty, String.length_empty] at hlength
    cases hlength
  obtain ⟨zip, hrun, hlimits⟩ := @Sample.run_ok longVersion hne (by omega)
  refine ⟨zip, (Sample.protocol_valid hne (by omega)).1, hrun, hlimits, fun hpasses => ?_⟩
  obtain ⟨corpus, trained, modelBytes, strideMs, digest, goldenInputs, goldenOutputs, hfitted, hdigest, hdigestLength,
    hexport⟩ := exported_of_run hrun
  have hversion : versionOf (Sample.protocolOf longVersion) = longVersion := by
    rw [versionOf, Sample.protocolOf_version]
    rfl
  have hfits := (verifyBundle_exported hfitted hdigest hdigestLength hexport hlimits).mp hpasses
  rw [hversion] at hfits
  omega

end PduExamObserver.Models
