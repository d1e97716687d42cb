import PduExamObserver.Authority.Records

/-! # What is written can be read back

Every record that an operation writes passes `_validated_record` and yields the fields it was written
with. -/

namespace PduExamObserver.Authority
open Canonical
set_option autoImplicit false

variable {hash : Sha256}

/-- The bytes are a valid record of the domain, and `get` looks its fields up. -/
def Reads (hash : Sha256) (value : Bytes) (domain : Domain) (get : Getter) : Prop :=
  ∃ decoded, validatedRecord hash (some value) = some (domain, decoded) ∧ getter decoded = get

theorem sameKeys_sortKeys (fields : Fields) (keys : List String) :
    sameKeys ((sortKeys fields).map Prod.fst) keys = sameKeys (fields.map Prod.fst) keys :=
  sameKeys_perm ((sortKeys_perm fields).map Prod.fst) keys

theorem getter_sortKeys {fields : Fields} (h : (fields.map Prod.fst).Nodup) :
    getter (sortKeys fields) = getter fields := by
  funext name
  exact lookup_sortKeys h name

theorem validFields_sortKeys {domain : Domain} {fields : Fields} (h : (fields.map Prod.fst).Nodup) :
    validFields hash domain (sortKeys fields) = validFields hash domain fields := by
  unfold validFields
  rw [sameKeys_sortKeys, lookup_sortKeys h, lookup_sortKeys h, (sortKeys_perm fields).all_eq, getter_sortKeys h]

theorem domain_find (domain : Domain) (named : Option Value) (h : named = some (.str domain.value)) :
    Domain.all.find? (fun d => named = some (.str d.value)) = some domain := by
  subst h
  cases domain <;> decide

def keysOfRecord (keys : List String) : List String :=
  ["domain", "schema_version"].filter (fun key => !keys.contains key) ++ keys

theorem recordFields_keys (domain : Domain) (values : Fields) :
    (recordFields domain values).map Prod.fst = keysOfRecord (values.map Prod.fst) := by
  unfold recordFields mergeFields keysOfRecord
  rw [List.map_append]
  exact congrArg (· ++ values.map Prod.fst) (List.filter_map (f := Prod.fst)
    (p := fun key => !(values.map Prod.fst).contains key)
    (l := [("domain", Value.str domain.value), ("schema_version", .int 3)])).symm

theorem decodeRecord_record {domain : Domain} {values : Fields}
    (hkeys : ((recordFields domain values).map Prod.fst).Nodup) :
    decodeRecord (some (record domain values)) = some (sortKeys (recordFields domain values)) := by
  have hcanonical : canonicalBytes (sortKeys (recordFields domain values)) =
      .record (sortKeys (recordFields domain values)) := by
    rw [canonicalBytes, sortKeys_sortKeys]
  exact if_pos ⟨nodup_sortKeys.mpr hkeys, hcanonical⟩

theorem record_reads {domain : Domain} {values : Fields} (keys : List String)
    (hvalues : values.map Prod.fst = keys)
    (hkeys : (keysOfRecord keys).Nodup ∧ sameKeys (keysOfRecord keys) domain.recordKeys = true)
    (hdomain : (recordFields domain values).lookup "domain" = some (.str domain.value))
    (hschema : (recordFields domain values).lookup "schema_version" = some (.int 3))
    (hstate : (recordFields domain values).lookup "state" = some (.str domain.recordState))
    (hdigests : ∀ field ∈ recordFields domain values, isDigestKey field.1 = true → field.2.isDigest = true)
    (hcontent : validContent hash (getter (recordFields domain values)) domain = true) :
    Reads hash (record domain values) domain (getter (recordFields domain values)) := by
  have heq : (recordFields domain values).map Prod.fst = keysOfRecord keys := by
    rw [recordFields_keys, hvalues]
  have hnodup : ((recordFields domain values).map Prod.fst).Nodup := heq ▸ hkeys.1
  have hvalid : validFields hash domain (recordFields domain values) = true := by
    have hall : (recordFields domain values).all (fun field => !isDigestKey field.1 || field.2.isDigest) = true := by
      rw [List.all_eq_true]
      intro field hfield
      cases hkey : isDigestKey field.1 with
      | false => rfl
      | true => exact hdigests field hfield hkey
    simp only [validFields, heq, hkeys.2, hschema, hstate, hall, hcontent, decide_true, Bool.and_self]
  refine ⟨sortKeys (recordFields domain values), ?_, getter_sortKeys hnodup⟩
  simp only [validatedRecord, decodeRecord_record hnodup]
  rw [domain_find domain _ (by rw [lookup_sortKeys hnodup, hdomain])]
  simp only [validFields_sortKeys hnodup, hvalid, if_true]

/-! ## The six records -/

variable {epochDigest : String} {consumed : Bytes}

theorem pending_reads {approved : ApprovedRP2Triple}
    (happroved : approved.valid = true) (hepoch : isHexDigest epochDigest = true) :
    Reads hash (record .pending (pendingValues approved epochDigest)) .pending
      (getter (recordFields .pending (pendingValues approved epochDigest))) := by
  apply record_reads ["a0_approval_digest", "approval_id_digest", "binding_schema_canonical_sha256",
    "candidate_exact_bytes_sha256", "expires_unix_ns", "issued_unix_ns", "static_bindings_digest",
    "epoch_digest", "state"] rfl (by decide) rfl rfl rfl
  · simp only [ApprovedRP2Triple.valid, Bool.and_eq_true] at happroved
    simp +decide [recordFields, mergeFields, pendingValues, ApprovedRP2Triple.pendingFields, Value.isDigest,
      happroved, hepoch]
  · simp +decide [validContent, ApprovedRP2Triple.ofDecoded, Getter.pyStr, Getter.int, getter, recordFields,
      mergeFields, pendingValues, ApprovedRP2Triple.pendingFields, List.lookup_cons]
    exact happroved

theorem prepared_reads {attestation : PreparedBindingAttestation} {pending : Bytes}
    (hattestation : attestation.valid = true) (hepoch : isHexDigest epochDigest = true) :
    Reads hash (record .prepared (preparedValues hash attestation epochDigest pending)) .prepared
      (getter (recordFields .prepared (preparedValues hash attestation epochDigest pending))) := by
  have hvalid := hattestation
  simp only [PreparedBindingAttestation.valid, Bool.and_eq_true, List.all_cons, List.all_nil,
    decide_eq_true_eq] at hvalid
  apply record_reads (PreparedBindingAttestation.fieldNames ++ ["epoch_digest", "pending_digest", "state"])
    rfl (by decide) rfl ?_ rfl
  · simp +decide [recordFields, mergeFields, preparedValues, PreparedBindingAttestation.recordFields,
      Value.isDigest, hvalid, hepoch, hash.digest]
  · simp +decide [validContent, PreparedBindingAttestation.ofDecoded, Getter.str, Getter.int, getter,
      recordFields, mergeFields, preparedValues, PreparedBindingAttestation.recordFields, List.lookup_cons]
    exact hattestation
  · simp +decide [recordFields, mergeFields, preparedValues, PreparedBindingAttestation.recordFields,
      List.lookup_cons, hvalid]

theorem consumed_reads {preparedGet : Getter} {prepared : Bytes}
    (hdependency : ((preparedGet "dependency_observation_digest").getD .null).isDigest = true)
    (hbindings : ((preparedGet "static_bindings_digest").getD .null).isDigest = true)
    (hepoch : isHexDigest epochDigest = true) :
    Reads hash (record .consumed (consumedValues hash preparedGet epochDigest prepared)) .consumed
      (getter (recordFields .consumed (consumedValues hash preparedGet epochDigest prepared))) := by
  apply record_reads ["dependency_observation_digest", "epoch_digest", "face_model_sha256", "pose_model_sha256",
    "prepared_digest", "state", "static_bindings_digest"] rfl (by decide) rfl rfl rfl
  · simp +decide [recordFields, mergeFields, consumedValues, hdependency, hbindings]
    simp [Value.isDigest, hepoch, hash.digest]
  · rfl

theorem issued_reads {binding : WorkerGrantBindingAttestation}
    {grantDigest : String} {issuedMonotonicNs : Int} (hbinding : binding.valid = true)
    (hepoch : isHexDigest epochDigest = true) (hgrant : isHexDigest grantDigest = true)
    (hissued : 0 ≤ issuedMonotonicNs) (hexpires : issuedMonotonicNs ≤ maxSignedNs - workerGrantTtlNs) :
    Reads hash (record .grantIssued (issuedValues hash binding consumed epochDigest grantDigest issuedMonotonicNs))
      .grantIssued (getter (recordFields .grantIssued
        (issuedValues hash binding consumed epochDigest grantDigest issuedMonotonicNs))) := by
  have hvalid := hbinding
  simp only [WorkerGrantBindingAttestation.valid, Bool.and_eq_true, List.all_cons, List.all_nil,
    decide_eq_true_eq] at hvalid
  apply record_reads (WorkerGrantBindingAttestation.fieldNames ++ ["consumed_digest", "epoch_digest",
    "expires_monotonic_ns", "grant_digest", "grant_size", "issued_monotonic_ns", "state"])
    rfl (by decide) rfl rfl rfl
  · simp +decide [recordFields, mergeFields, issuedValues, WorkerGrantBindingAttestation.recordFields,
      Value.isDigest, hvalid, hepoch, hgrant, hash.digest]
  · have hend : issuedMonotonicNs + workerGrantTtlNs ≤ maxSignedNs := by omega
    have hwindow : issuedMonotonicNs + workerGrantTtlNs - issuedMonotonicNs = workerGrantTtlNs := by omega
    simp +decide [validContent, WorkerGrantBindingAttestation.ofDecoded, validGrantWindow, Getter.str, Getter.int,
      Getter.bool, getter, recordFields, mergeFields, issuedValues, WorkerGrantBindingAttestation.recordFields,
      List.lookup_cons, hissued, hend, hwindow]
    exact hbinding

theorem revoked_reads {issuedGet : Getter} {grantRecord : Bytes}
    {grant : CanonicalGrantInspection}
    (hchallenge : ((issuedGet "challenge_digest").getD .null).isDigest = true)
    (hjob : ((issuedGet "job_name_digest").getD .null).isDigest = true)
    (hepoch : isHexDigest epochDigest = true) (hgrant : isHexDigest grant.digest = true)
    (hissued : 0 ≤ grant.issuedMonotonicNs) (hexpires : grant.expiresMonotonicNs ≤ maxSignedNs)
    (hwindow : grant.expiresMonotonicNs - grant.issuedMonotonicNs = workerGrantTtlNs) :
    Reads hash (record .grantRevoked (revokedValues hash issuedGet consumed epochDigest grant grantRecord))
      .grantRevoked (getter (recordFields .grantRevoked
        (revokedValues hash issuedGet consumed epochDigest grant grantRecord))) := by
  apply record_reads ["challenge_digest", "consumed_digest", "epoch_digest", "expires_monotonic_ns",
    "grant_digest", "issued_monotonic_ns", "issued_record_digest", "job_name_digest", "state"]
    rfl (by decide) rfl rfl rfl
  · simp +decide [recordFields, mergeFields, revokedValues, hchallenge, hjob]
    simp [Value.isDigest, hepoch, hgrant, hash.digest]
  · simp +decide [validContent, validGrantWindow, Getter.int, getter, recordFields, mergeFields, revokedValues,
      List.lookup_cons, hissued, hexpires, hwindow]

theorem terminal_reads {binding : TerminalBindingAttestation}
    {disposition : GrantDisposition} {grantRecord : Option Bytes} (hbinding : binding.valid hash = true)
    (hgrant : disposition = .notIssued ↔ grantRecord = none) :
    Reads hash (record .terminal (terminalValues hash binding consumed disposition grantRecord)) .terminal
      (getter (recordFields .terminal (terminalValues hash binding consumed disposition grantRecord))) := by
  obtain ⟨hreceipt, hledger⟩ := TerminalBindingAttestation.valid_digests hbinding
  apply record_reads (TerminalBindingAttestation.fieldNames ++ ["consumed_digest", "durability_policy",
    "grant_disposition", "grant_record_digest", "state"]) rfl (by decide) rfl rfl rfl
  · simp +decide [recordFields, mergeFields, terminalValues, TerminalBindingAttestation.recordFields,
      Value.isDigest, hreceipt, hledger, hash.digest]
  · have hdisposition : validDisposition
        (getter (recordFields .terminal (terminalValues hash binding consumed disposition grantRecord))) = true := by
      cases disposition with
      | notIssued =>
        rw [hgrant.mp rfl]
        rfl
      | revoked =>
        cases grantRecord with
        | none => exact absurd (hgrant.mpr rfl) (by decide)
        | some grantRecord => exact hash.digest grantRecord
    simp +decide [validContent, TerminalBindingAttestation.ofDecoded, Getter.str, Getter.int, Getter.bool,
      hdisposition]
    simp +decide [getter, recordFields, mergeFields, terminalValues, TerminalBindingAttestation.recordFields,
      List.lookup_cons]
    exact hbinding

/-! ## What a valid record guarantees -/

section Reads

variable {value : Bytes} {domain : Domain} {get : Getter} {key : String}

theorem Reads.fields (h : Reads hash value domain get) :
    ∃ decoded : Fields, getter decoded = get ∧ (decoded.map Prod.fst).Nodup ∧
      validFields hash domain decoded = true := by
  obtain ⟨decoded, hvalidated, hget⟩ := h
  unfold validatedRecord at hvalidated
  split at hvalidated
  · cases hvalidated
  · next fields hfields =>
    have hnodup : (fields.map Prod.fst).Nodup := by
      unfold decodeRecord at hfields
      split at hfields
      · split at hfields
        · next hcanonical =>
          cases hfields
          exact hcanonical.1
        · cases hfields
      · cases hfields
    split at hvalidated
    · cases hvalidated
    · split at hvalidated
      · next hvalid =>
        cases hvalidated
        exact ⟨decoded, hget, hnodup, hvalid⟩
      · cases hvalidated

theorem Reads.validContent (h : Reads hash value domain get) : validContent hash get domain = true := by
  obtain ⟨decoded, rfl, -, hvalid⟩ := h.fields
  simp only [validFields, Bool.and_eq_true] at hvalid
  exact hvalid.2

theorem Reads.isDigest (h : Reads hash value domain get) (hkey : key ∈ domain.recordKeys)
    (hdigest : isDigestKey key = true) : ((get key).getD .null).isDigest = true := by
  obtain ⟨decoded, rfl, hnodup, hvalid⟩ := h.fields
  simp only [validFields, Bool.and_eq_true, sameKeys, List.all_eq_true] at hvalid
  obtain ⟨⟨⟨⟨⟨-, hkeys⟩, -⟩, -⟩, hall⟩, -⟩ := hvalid
  have hmem : key ∈ decoded.map Prod.fst := by simpa using hkeys key hkey
  obtain ⟨⟨k, v⟩, hfield, rfl⟩ := List.mem_map.mp hmem
  have hfound : getter decoded k = some v := (lookup_eq_some hnodup).mpr hfield
  have hv := hall (k, v) hfield
  rw [hfound]
  simpa [hdigest] using hv

theorem Reads.absent (h : Reads hash value domain get) (hkey : key ∉ domain.recordKeys) : get key = none := by
  obtain ⟨decoded, rfl, -, hvalid⟩ := h.fields
  simp only [validFields, Bool.and_eq_true, sameKeys, List.all_eq_true] at hvalid
  obtain ⟨⟨⟨⟨⟨hkeys, -⟩, -⟩, -⟩, -⟩, -⟩ := hvalid
  refine List.lookup_eq_none_iff.mpr fun field hfield => ?_
  have hmem : field.1 ∈ domain.recordKeys := by
    simpa using hkeys field.1 (List.mem_map.mpr ⟨field, hfield, rfl⟩)
  have hne : key ≠ field.1 := fun heq => hkey (heq ▸ hmem)
  simpa using hne

theorem Reads.unique {domain' : Domain} {get' : Getter} (h : Reads hash value domain get)
    (h' : Reads hash value domain' get') : domain = domain' ∧ get = get' := by
  obtain ⟨decoded, hd, rfl⟩ := h
  obtain ⟨decoded', hd', rfl⟩ := h'
  cases hd.symm.trans hd'
  exact ⟨rfl, rfl⟩

theorem validatedRecordOf_eq_some {fields : Fields} :
    validatedRecordOf hash domain (some value) = some fields ↔
      validatedRecord hash (some value) = some (domain, fields) := by
  unfold validatedRecordOf
  constructor
  · intro h
    split at h
    · next found decoded hfound =>
      split at h
      · next heq =>
        cases h
        rw [hfound, heq]
      · cases h
    · cases h
  · intro h
    simp only [h, if_true]

theorem Reads.validatedRecordOf (h : Reads hash value domain get) :
    ∃ fields, validatedRecordOf hash domain (some value) = some fields ∧ getter fields = get := by
  obtain ⟨fields, hfields, hget⟩ := h
  exact ⟨fields, validatedRecordOf_eq_some.mpr hfields, hget⟩

theorem reads_of_validatedRecordOf {fields : Fields}
    (h : Authority.validatedRecordOf hash domain (some value) = some fields) :
    Reads hash value domain (getter fields) :=
  ⟨fields, validatedRecordOf_eq_some.mp h, rfl⟩

end Reads

end PduExamObserver.Authority
