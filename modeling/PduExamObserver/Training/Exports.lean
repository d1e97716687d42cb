import PduExamObserver.ResearchRuntime.Schema

/-! # Research exports

The archive that the runtime builds and the training package reads: a manifest and records that are bound to each other
by a digest. A field of a record that may be absent is optional; the sizes of the packed archive and the digest are
parameters. -/

namespace PduExamObserver.Training
open ResearchRuntime Showcase
set_option autoImplicit false

/-! ## Records -/

structure RecordPose where
  topology : String
  poseCount : Option Int
  landmarks : Option (List (List Landmark))
  deriving DecidableEq

structure RecordQuality where
  state : QualityState
  blur : Option Rat
  exposure : Option Rat
  visibilityMean : Option Rat
  frameGapRatio : Option Rat
  deriving DecidableEq

structure RecordFocus where
  state : Focus
  signalAgeMs : Option Rat
  contaminatedByOperator : Bool
  deriving DecidableEq

structure RecordTiming where
  capturedNs : Option Int
  offsetMs : Option Int
  phase : Option String
  deriving DecidableEq

/-- `RECORD_FIELDS`. -/
structure Record where
  exportId : String
  manifestSha256 : String
  schemaVersion : Int
  recordCount : Nat
  sampleId : String
  participantPseudonym : String
  sessionPseudonym : String
  sourceKind : SourceKind
  parentProvenanceId : Option String
  pose : RecordPose
  label : Label
  quality : RecordQuality
  focus : RecordFocus
  timing : RecordTiming
  deriving DecidableEq

/-- `MANIFEST_FIELDS`. -/
structure Manifest where
  schemaVersion : Int
  exportId : String
  recordCount : Nat
  manifestSha256 : String
  deriving DecidableEq

structure Archive where
  manifest : Manifest
  records : List Record
  deriving DecidableEq

structure Packing where
  size : Archive → Nat
  entries : Archive → List (Nat × Nat)

/-- `_manifest_preimage`: the identifier and the records with an empty digest. -/
abbrev Preimage := String × List Record

def Record.unsigned (record : Record) : Record := { record with manifestSha256 := "" }

def manifestPreimage (exportId : String) (records : List Record) : Preimage := (exportId, records.map Record.unsigned)

/-- `_validate_record` of the export contract. -/
def Record.validate (record : Record) : Except String Unit := do
  require (record.schemaVersion = 1) "record schema is incompatible"
  require (record.sampleId ≠ "" ∧ record.participantPseudonym ≠ "" ∧ record.sessionPseudonym ≠ "")
    "record pseudonymous identifier is invalid"
  require (record.sourceKind = .augmented → record.parentProvenanceId.getD "" ≠ "")
    "augmented record requires parent provenance"
  require (record.sourceKind = .real → record.timing.phase = some "PILOT" ∨ record.timing.phase = some "CONFIRMATORY")
    "REAL record timing.phase must be PILOT or CONFIRMATORY"

/-! ## Building -/

def Record.prepared (exportId : String) (count : Nat) (record : Record) : Record :=
  { record with exportId, manifestSha256 := "", recordCount := count }

def buildResearchExport (sha256 : Preimage → String) (records : List Record) (exportId : String) :
    Except String Archive := do
  require (exportId ≠ "" ∧ exportId.length ≤ 128) "export_id is required"
  require (records ≠ []) "at least one export record is required"
  records.forM Record.validate
  require (records.map Record.sampleId).Nodup "sample_id must be unique"
  let prepared := records.map (Record.prepared exportId records.length)
  let manifestSha256 := sha256 (manifestPreimage exportId prepared)
  return {
    manifest := { schemaVersion := 1, exportId, recordCount := prepared.length, manifestSha256 }
    records := prepared.map fun record => { record with manifestSha256 } }

/-! ## Validation -/

def Packing.Bounded (packing : Packing) (archive : Archive) : Prop :=
  packing.size archive ≤ 512 * 1024 * 1024 ∧
    ∀ entry ∈ packing.entries archive, entry.1 ≤ 500 * 1024 * 1024 ∧ (0 < entry.1 → entry.1 ≤ 200 * entry.2)

instance (packing : Packing) (archive : Archive) : Decidable (packing.Bounded archive) :=
  inferInstanceAs (Decidable (_ ∧ ∀ entry ∈ packing.entries archive, _))

def Record.boundTo (manifest : Manifest) (count : Nat) (record : Record) : Prop :=
  record.exportId = manifest.exportId ∧ record.manifestSha256 = manifest.manifestSha256 ∧ record.recordCount = count

instance (manifest : Manifest) (count : Nat) (record : Record) : Decidable (record.boundTo manifest count) :=
  inferInstanceAs (Decidable (_ ∧ _ ∧ _))

def validateResearchExport (sha256 : Preimage → String) (packing : Packing) (archive : Archive) :
    Except String (Manifest × List Record) := do
  require (packing.Bounded archive) "export ZIP contains an unsafe entry"
  let manifest := archive.manifest
  let records := archive.records
  require (manifest.schemaVersion = 1 ∧ manifest.recordCount = records.length) "export manifest digest/count is invalid"
  records.forM fun record => do
    record.validate
    require (record.boundTo manifest records.length) "record is not bound to its export manifest"
  require (records.map Record.sampleId).Nodup "sample_id must be unique"
  require (sha256 (manifestPreimage manifest.exportId records) = manifest.manifestSha256)
    "export manifest digest does not bind the records"
  return (manifest, records)

/-! ## What is built is valid -/

variable {sha256 : Preimage → String} {packing : Packing} {archive : Archive} {records : List Record} {exportId : String}

def Record.bound (exportId : String) (count : Nat) (manifestSha256 : String) (record : Record) : Record :=
  { record with exportId, manifestSha256, recordCount := count }

theorem buildResearchExport_ok_iff : buildResearchExport sha256 records exportId = .ok archive ↔
    (exportId ≠ "" ∧ exportId.length ≤ 128) ∧ records ≠ [] ∧ (∀ record ∈ records, record.validate = .ok ()) ∧
      (records.map Record.sampleId).Nodup ∧
      ∃ digest, digest = sha256 (manifestPreimage exportId (records.map (Record.prepared exportId records.length))) ∧
        archive = ⟨⟨1, exportId, records.length, digest⟩, records.map (Record.bound exportId records.length digest)⟩ := by
  unfold buildResearchExport
  simp only [bind_ok_iff, require_eq_ok]
  constructor
  · rintro ⟨⟨⟩, hid, ⟨⟩, hnonempty, ⟨⟩, hvalid, ⟨⟩, hunique, harchive⟩
    refine ⟨hid, hnonempty, forM_ok_iff.mp hvalid, hunique, _, rfl, ?_⟩
    cases harchive
    simp [Record.bound, Record.prepared, Function.comp_def]
  · rintro ⟨hid, hnonempty, hvalid, hunique, digest, hdigest, harchive⟩
    refine ⟨(), hid, (), hnonempty, (), forM_ok_iff.mpr hvalid, (), hunique, ?_⟩
    subst hdigest harchive
    simp [Record.bound, Record.prepared, Function.comp_def, pure, Except.pure]

theorem validate_bound {record : Record} {count : Nat} {digest : String} :
    (record.bound exportId count digest).validate = record.validate := rfl

theorem validate_built (h : buildResearchExport sha256 records exportId = .ok archive) :
    validateResearchExport sha256 packing archive = .ok (archive.manifest, archive.records) ↔
      packing.Bounded archive := by
  obtain ⟨-, -, hvalid, hunique, digest, hdigest, rfl⟩ := buildResearchExport_ok_iff.mp h
  unfold validateResearchExport
  simp only [bind_ok_iff, require_eq_ok]
  constructor
  · rintro ⟨⟨⟩, hbounded, -⟩
    exact hbounded
  · intro hbounded
    refine ⟨(), hbounded, (), ⟨trivial, (List.length_map _).symm⟩, (), ?_, (), ?_, (), ?_, rfl⟩
    · rw [forM_ok_iff]
      intro record hmem
      obtain ⟨source, hsource, rfl⟩ := List.mem_map.mp hmem
      rw [bind_ok_iff]
      refine ⟨(), validate_bound.trans (hvalid source hsource), ?_⟩
      rw [require_eq_ok, List.length_map]
      exact ⟨rfl, rfl, rfl⟩
    · rwa [List.map_map, show Record.sampleId ∘ Record.bound exportId records.length digest = Record.sampleId from rfl]
    · rw [hdigest]
      unfold manifestPreimage
      rw [List.map_map, List.map_map]
      rfl

end PduExamObserver.Training
