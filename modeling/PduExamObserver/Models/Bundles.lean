import PduExamObserver.Training.ExportCodec

/-! # Model bundles

The eight files of a model bundle, how the training package packs them, and what the import checks before a bundle
becomes active. -/

namespace PduExamObserver.Models
open Native Training Training.ExportCodec
set_option autoImplicit false

/-! ## Bytes -/

/-- `json` and `hashlib` on the bytes of a file; `json.loads` gives nothing where it raises. -/
structure Files (Bytes : Type) where
  size : Bytes → Nat
  sha256 : Bytes → String
  dumps : Value → Bytes
  loads : Bytes → Option Value
  hasConstant : Bytes → Bool
  length_sha256 : ∀ bytes, (sha256 bytes).length = 64
  loads_dumps : ∀ value, finite value = true → loads (dumps value) = some value.encoding
  no_constant : ∀ value, finite value = true → hasConstant (dumps value) = false

variable {Bytes : Type}

def Files.jsonBytes (files : Files Bytes) (document : Dict) : Except String Bytes :=
  if finite (.dict document) then .ok (files.dumps (.dict document))
  else .error "Out of range float values are not JSON compliant"

/-! ## The archive -/

def bundleFiles : List String :=
  ["model.onnx", "manifest.json", "calibration.json", "policy.json", "checksums.json", "golden_inputs.npz",
    "golden_outputs.npz", "MODEL_CARD.md"]

def maxFileBytes : List (String × Nat) :=
  [("model.onnx", 64 * 1024 * 1024), ("manifest.json", 256 * 1024), ("calibration.json", 256 * 1024),
    ("policy.json", 256 * 1024), ("checksums.json", 256 * 1024), ("golden_inputs.npz", 16 * 1024 * 1024),
    ("golden_outputs.npz", 1024 * 1024), ("MODEL_CARD.md", 512 * 1024)]

def maxCompressionRatio : Nat := 200

/-- `BUNDLE_FILES - {"checksums.json"}`. -/
def payloadNames : List String := bundleFiles.filter fun name => name ≠ "checksums.json"

structure ZipEntry (Bytes : Type) where
  filename : String
  externalAttr : Nat
  fileSize : Nat
  compressSize : Nat
  data : Bytes

/-- `entry.is_dir()`, a name with a path in it, a backslash or a colon, or a link. -/
def ZipEntry.unsafeName (entry : ZipEntry Bytes) : Prop :=
  '/' ∈ entry.filename.toList ∨ '\\' ∈ entry.filename.toList ∨ ':' ∈ entry.filename.toList ∨
    (entry.externalAttr >>> 16) &&& 0xF000 = 0xA000

instance (entry : ZipEntry Bytes) : Decidable entry.unsafeName := inferInstanceAs (Decidable (_ ∨ _ ∨ _ ∨ _))

def isAllowlist (names : List String) : Prop := (∀ name ∈ names, name ∈ bundleFiles) ∧ ∀ name ∈ bundleFiles, name ∈ names

instance (names : List String) : Decidable (isAllowlist names) := inferInstanceAs (Decidable (_ ∧ _))

def verifyArchive (entries : List (ZipEntry Bytes)) : Except String Unit := do
  require (entries.length = bundleFiles.length ∧ isAllowlist (entries.map ZipEntry.filename))
    "bundle archive does not match the exact allowlist"
  entries.forM fun entry => do
    require (¬ entry.unsafeName) "bundle archive contains an unsafe entry"
    let maximum ← orError "KeyError" (maxFileBytes.lookup entry.filename)
    require (entry.fileSize ≤ maximum) "bundle archive entry exceeds its size ceiling"
    require (entry.fileSize ≠ 0 → entry.compressSize ≠ 0 ∧ entry.fileSize ≤ maxCompressionRatio * entry.compressSize)
      "bundle archive compression ratio is unsafe"

/-! ## The staged directory -/

structure StagedFile (Bytes : Type) where
  name : String
  data : Bytes
  regular : Bool
  reparse : Bool
  links : Nat

def stage (entries : List (ZipEntry Bytes)) : List (StagedFile Bytes) :=
  entries.map fun entry => { name := entry.filename, data := entry.data, regular := true, reparse := false, links := 1 }

def readBytes (staged : List (StagedFile Bytes)) (name : String) : Except String Bytes := do
  let file ← orError "OSError" (staged.find? fun file => file.name = name)
  return file.data

def isIdentifier (manifest : Dict) (key : String) : Prop :=
  ∃ s ∈ (manifest.get key).str?, s ≠ "" ∧ s.length ≤ 128

instance (manifest : Dict) (key : String) : Decidable (isIdentifier manifest key) :=
  inferInstanceAs (Decidable (∃ s ∈ _, _))

def requiredManifest : Dict :=
  [("schema_version", .int 1), ("runtime_schema_min", .int 1), ("runtime_schema_max", .int 1),
    ("preprocessing_id", .str "mediapipe33-bodycenter-resample90-v1")]

def hasValues (document expected : Dict) : Prop := ∀ entry ∈ expected, (document.get entry.1).eq entry.2 = true

instance (document expected : Dict) : Decidable (hasValues document expected) :=
  inferInstanceAs (Decidable (∀ entry ∈ expected, _))

def isChecksums (checksums expected : Dict) : Prop :=
  (checksums.get "schema_version").eq (.int 1) = true ∧ (checksums.get "algorithm").eq (.str "SHA-256") = true ∧
    expected.HasKeys payloadNames

instance (checksums expected : Dict) : Decidable (isChecksums checksums expected) :=
  inferInstanceAs (Decidable (_ ∧ _ ∧ _))

/-- `_verify_staged_contract`, of a directory that can be inspected. -/
def verifyStagedContract (files : Files Bytes) (staged : List (StagedFile Bytes)) : Except String Unit := do
  require (isAllowlist (staged.map StagedFile.name)) "bundle directory does not match the exact allowlist"
  staged.forM fun file => do
    let maximum ← orError "KeyError" (maxFileBytes.lookup file.name)
    require (file.regular = true ∧ file.reparse = false ∧ file.links = 1 ∧ files.size file.data ≤ maximum)
      "bundle contains an unsafe file"
  let checksums ← orError "bundle JSON contract is invalid" (files.loads (← readBytes staged "checksums.json"))
  let manifest ← orError "bundle JSON contract is invalid" (files.loads (← readBytes staged "manifest.json"))
  let checksums ← orError "bundle checksums contract is invalid" checksums.dict?
  let expected ← orError "bundle checksums contract is invalid" (checksums.get "files").dict?
  require (isChecksums checksums expected) "bundle checksums contract is invalid"
  payloadNames.forM fun name => do
    let data ← readBytes staged name
    require ((expected.get name).eq (.str (files.sha256 data)) = true) "bundle checksum mismatch"
  let manifest ← orError "bundle manifest is incompatible" manifest.dict?
  require (hasValues manifest requiredManifest) "bundle manifest is incompatible"
  require (isIdentifier manifest "model_version" ∧ isIdentifier manifest "policy_version")
    "bundle manifest version is invalid"

end PduExamObserver.Models
