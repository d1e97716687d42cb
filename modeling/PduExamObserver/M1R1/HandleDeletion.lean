import Mathlib.Data.List.Basic
import Mathlib.Data.List.Count
import Mathlib.Tactic.SplitIfs

/-! # Deletion by retained handles

`WindowsHandleDeletionPrimitive.delete`. What every system call and both callbacks answer is an input, and so is the hash
of what is read; a run gives its result and what it has done. -/

namespace PduExamObserver.M1R1.HandleDeletion
set_option autoImplicit false

inductive CallError where
  | osError
  | other

/-- `DeletionBlocked` with its flag, or what a call of the system raises. -/
inductive Raised where
  | deletionBlocked (code : String) (dispositionMayHaveOccurred : Bool)
  | call (error : CallError)

inductive Handle where
  | directory (index : Nat)
  | target
  deriving DecidableEq

structure LocalDeletionTarget where
  rootScope : String
  relativePath : String
  expectedByteSize : Int
  expectedSha256 : String
  requiredVolumeIdentityDigest : Option String
  requiredFileIdentityDigest : Option String

/-- `_relative_parts`; `PurePosixPath` leaves empty parts and single dots out. -/
def relativeParts (value : String) : Option (List String) :=
  if value = "" ∨ value.toList.head? = some '/' ∨ '\\' ∈ value.toList ∨ ':' ∈ value.toList then none
  else
    let parts := ((value.toList.splitOn '/').map String.ofList).filter fun part => part ≠ "" ∧ part ≠ "."
    if parts = [] ∨ ".." ∈ parts then none
    else if parts.any fun part => part.toList.getLast? = some ' ' ∨ part.toList.getLast? = some '.' then none
    else some parts

def LocalDeletionTarget.parts (target : LocalDeletionTarget) : Option (List String) := relativeParts target.relativePath

structure PredeleteSnapshot where
  byteSize : Nat
  sha256 : String
  volumeIdentityDigest : String
  fileIdentityDigest : String
  deriving DecidableEq

inductive Effect where
  | opened (handle : Handle)
  | closed (handle : Handle)
  | verified (snapshot : PredeleteSnapshot)
  | disposed
  deriving DecidableEq

/-- `_ByHandleFileInformation`, of which the times are not read. -/
structure Information where
  reparse : Bool
  directory : Bool
  volumeSerialNumber : Nat
  fileIndexHigh : Nat
  fileIndexLow : Nat
  numberOfLinks : Nat
  fileSizeHigh : Nat
  fileSizeLow : Nat

/-- The calls of `_open` and the check of the path after it; none is a call that fails. The first call raises when the
path cannot be passed to it, as one with a null character. -/
structure OpenAnswers where
  attributes : Except CallError Bool
  created : Bool
  information : Option Information
  finalPath : Bool
  samePath : Except CallError Bool

/-- The calls of `_verify_target`: the reads up to the first empty one. -/
structure VerifyAnswers where
  information : Option Information
  seek : Bool
  reads : List (Option (List UInt8))

inductive LstatAnswer where
  | fileNotFound
  | osError
  | metadata (regular : Bool)

/-- Everything that a call of `delete` is answered; the hook may be absent, and both callbacks may raise. The root is
the first directory. -/
structure Answers where
  directory : Nat → OpenAnswers
  opened : OpenAnswers
  first : VerifyAnswers
  onVerified : Bool
  second : VerifyAnswers
  disposition : Bool
  beforeAbsenceCheck : Option Bool
  lstat : LstatAnswer

def blocked (code : String) : Raised := .deletionBlocked code false

/-- `_open`. -/
def openHandle (directory : Bool) (handle : Handle) (answers : OpenAnswers) : Except Raised Unit × List Effect :=
  match answers.attributes with
  | .error error => (.error (.call error), [])
  | .ok available =>
    if ¬ available then (.error (blocked "TARGET_REPARSE_OR_UNAVAILABLE"), [])
    else if ¬ answers.created then (.error (blocked "TARGET_HANDLE_ACQUISITION_FAILED"), [])
    else
      match answers.information with
      | none => (.error (blocked "TARGET_IDENTITY_UNAVAILABLE"), [.opened handle])
      | some information =>
        if information.reparse then (.error (blocked "TARGET_REPARSE_OR_UNAVAILABLE"), [.opened handle, .closed handle])
        else if information.directory ≠ directory then
          (.error (blocked "TARGET_FILESYSTEM_TYPE_INVALID"), [.opened handle, .closed handle])
        else (.ok (), [.opened handle])

/-- `_final_path` and `_same_path`. -/
def checkPath (code : String) (answers : OpenAnswers) : Except Raised Unit :=
  if ¬ answers.finalPath then .error (blocked "TARGET_FINAL_PATH_UNAVAILABLE")
  else
    match answers.samePath with
    | .error error => .error (.call error)
    | .ok same => if same then .ok () else .error (blocked code)

def openDirectories : Nat → List OpenAnswers → Except Raised Unit × List Effect × Nat
  | index, [] => (.ok (), [], index)
  | index, answers :: rest =>
    match openHandle true (.directory index) answers with
    | (.error raised, effects) => (.error raised, effects, index)
    | (.ok (), effects) =>
      match checkPath "TARGET_PARENT_IDENTITY_CHANGED" answers with
      | .error raised => (.error raised, effects, index)
      | .ok () =>
        ((openDirectories (index + 1) rest).1, effects ++ (openDirectories (index + 1) rest).2.1,
          (openDirectories (index + 1) rest).2.2)

/-- `_hash_handle`, of all that it has read before. -/
def hashHandle (sha256 : List UInt8 → String) : List UInt8 → List (Option (List UInt8)) → Option (Nat × String)
  | content, [] | content, some [] :: _ => some (content.length, sha256 content)
  | _, none :: _ => none
  | content, some chunk :: rest => hashHandle sha256 (content ++ chunk) rest

variable (sha256 : List UInt8 → String) (digest : List Nat → String)

/-- `_identity_snapshot`; `digest` hashes the decimal numbers between colons. -/
def identitySnapshot (information : Information) (byteSize : Nat) (sha256 : String) : PredeleteSnapshot :=
  ⟨byteSize, sha256, digest [information.volumeSerialNumber],
    digest [information.volumeSerialNumber, information.fileIndexHigh, information.fileIndexLow]⟩

/-- `_verify_target`. -/
def verifyTarget (target : LocalDeletionTarget) (answers : VerifyAnswers) :
    Except Raised (Information × PredeleteSnapshot) :=
  match answers.information with
  | none => .error (blocked "TARGET_IDENTITY_UNAVAILABLE")
  | some information =>
    if information.reparse ∨ information.directory then .error (blocked "TARGET_FILESYSTEM_TYPE_INVALID")
    else if information.numberOfLinks ≠ 1 then .error (blocked "TARGET_MULTIPLE_LINKS")
    else
      match if answers.seek then hashHandle sha256 [] answers.reads else none with
      | none => .error (blocked "TARGET_READ_FAILED")
      | some (byteSize, contentDigest) =>
        if byteSize ≠ target.expectedByteSize then .error (blocked "TARGET_SIZE_MISMATCH")
        else if contentDigest ≠ target.expectedSha256 then .error (blocked "TARGET_HASH_MISMATCH")
        else .ok (information, identitySnapshot digest information byteSize contentDigest)

/-- `_same_identity`. -/
def SameIdentity (a b : Information) : Prop :=
  (a.volumeSerialNumber, a.fileIndexHigh, a.fileIndexLow, a.numberOfLinks, a.fileSizeHigh, a.fileSizeLow) =
    (b.volumeSerialNumber, b.fileIndexHigh, b.fileIndexLow, b.numberOfLinks, b.fileSizeHigh, b.fileSizeLow)

instance (a b : Information) : Decidable (SameIdentity a b) := inferInstanceAs (Decidable (_ = _))

def identityChanged (target : LocalDeletionTarget) (snapshot : PredeleteSnapshot) : Bool :=
  (target.requiredVolumeIdentityDigest ≠ none ∨ target.requiredFileIdentityDigest ≠ none) ∧
    (some snapshot.volumeIdentityDigest ≠ target.requiredVolumeIdentityDigest ∨
      some snapshot.fileIdentityDigest ≠ target.requiredFileIdentityDigest)

def dispose (target : LocalDeletionTarget) (answers : Answers) : Except Raised Unit × List Effect :=
  match checkPath "TARGET_FINAL_PATH_MISMATCH" answers.opened with
  | .error raised => (.error raised, [])
  | .ok () =>
    match verifyTarget sha256 digest target answers.first with
    | .error raised => (.error raised, [])
    | .ok (first, snapshot) =>
      if identityChanged target snapshot then (.error (blocked "RECOVERY_TARGET_IDENTITY_CHANGED"), [])
      else if ¬ answers.onVerified then (.error (blocked "VERIFIED_CALLBACK_FAILED"), [])
      else
        match verifyTarget sha256 digest target answers.second with
        | .error raised => (.error raised, [.verified snapshot])
        | .ok (second, secondSnapshot) =>
          if ¬ SameIdentity first second ∨ secondSnapshot ≠ snapshot then
            (.error (blocked "TARGET_IDENTITY_CHANGED"), [.verified snapshot])
          else if ¬ answers.disposition then (.error (blocked "TARGET_DISPOSITION_FAILED"), [.verified snapshot])
          else (.ok (), [.verified snapshot, .disposed])

/-- The opening of the target, the steps on it, and the part of the `finally` that closes it. -/
def disposeTarget (target : LocalDeletionTarget) (answers : Answers) : Except Raised Unit × List Effect :=
  match openHandle false .target answers.opened with
  | (.error raised, effects) => (.error raised, effects)
  | (.ok (), effects) => ((dispose sha256 digest target answers).1,
      effects ++ (dispose sha256 digest target answers).2 ++ [.closed .target])

def closeDirectories (count : Nat) : List Effect := (List.range count).reverse.map fun i => .closed (.directory i)

/-- The `except` clauses of the first block; there the disposition has not been requested. -/
def reraised : Raised → Raised
  | .call .osError => blocked "TARGET_FILESYSTEM_OPERATION_FAILED"
  | raised => raised

def verifyAbsence (answers : Answers) : Except Raised Unit :=
  if answers.beforeAbsenceCheck = some false then .error (.deletionBlocked "ABSENCE_VERIFICATION_HOOK_FAILED" true)
  else
    match answers.lstat with
    | .fileNotFound => .ok ()
    | .osError => .error (.call .osError)
    | .metadata true => .error (.deletionBlocked "TARGET_REPLACED_OR_STILL_PRESENT" true)
    | .metadata false => .error (.deletionBlocked "TARGET_ABSENCE_UNVERIFIED" true)

/-- The root and the directories below it that lead to the target. -/
def Answers.directories (answers : Answers) (parts : List String) : List OpenAnswers :=
  (List.range parts.length).map answers.directory

/-- `delete`. -/
def delete (target : LocalDeletionTarget) (answers : Answers) : Except Raised Unit × List Effect :=
  if target.rootScope ≠ "RESEARCH_ROOT" ∧ target.rootScope ≠ "EXPORT_STAGING" then
    (.error (blocked "TARGET_ROOT_SCOPE_INVALID"), [])
  else if target.expectedByteSize < 0 ∨ target.expectedSha256.length ≠ 64 then
    (.error (blocked "TARGET_MANIFEST_INVALID"), [])
  else
    match target.parts with
    | none => (.error (blocked "TARGET_RELATIVE_PATH_INVALID"), [])
    | some parts =>
      match openDirectories 0 (answers.directories parts) with
      | (.error raised, effects, count) => (.error (reraised raised), effects ++ closeDirectories count)
      | (.ok (), effects, count) =>
        match disposeTarget sha256 digest target answers with
        | (.error raised, effects') => (.error (reraised raised), effects ++ effects' ++ closeDirectories count)
        | (.ok (), effects') => (verifyAbsence answers, effects ++ effects' ++ closeDirectories count)

/-! ## What a deletion promises -/

def OpenAnswers.Lost (answers : OpenAnswers) : Prop :=
  answers.attributes = .ok true ∧ answers.created ∧ answers.information = none

def OpenAnswers.Returns (answers : OpenAnswers) (directory : Bool) : Prop :=
  answers.attributes = .ok true ∧ answers.created ∧ ∃ information, answers.information = some information ∧
    information.reparse = false ∧ information.directory = directory

def OpenAnswers.Located (answers : OpenAnswers) : Prop := answers.finalPath ∧ answers.samePath = .ok true

/-- The path cannot be passed to the first call. -/
def OpenAnswers.Rejects (answers : OpenAnswers) : Prop := answers.attributes = .error .other

def OpenAnswers.Escapes (answers : OpenAnswers) : Prop := answers.finalPath ∧ answers.samePath = .error .other

def LosesDirectory : List OpenAnswers → Prop
  | [] => False
  | answers :: rest => answers.Lost ∨ answers.Returns true ∧ (¬ answers.Located ∨ LosesDirectory rest)

def RejectsDirectory : List OpenAnswers → Prop
  | [] => False
  | answers :: rest => answers.Rejects ∨ answers.Returns true ∧ answers.Located ∧ RejectsDirectory rest

/-- The target passes the first checks, and these are the parts of its path. -/
def LocalDeletionTarget.Valid (target : LocalDeletionTarget) (parts : List String) : Prop :=
  (target.rootScope = "RESEARCH_ROOT" ∨ target.rootScope = "EXPORT_STAGING") ∧ 0 ≤ target.expectedByteSize ∧
    target.expectedSha256.length = 64 ∧ target.parts = some parts

def Answers.Entered (answers : Answers) (parts : List String) : Prop :=
  ∀ a ∈ answers.directories parts, a.Returns true ∧ a.Located

def Answers.VerifiedTwice (target : LocalDeletionTarget) (answers : Answers) (snapshot : PredeleteSnapshot) : Prop :=
  answers.onVerified ∧ identityChanged target snapshot = false ∧ ∃ first second,
    verifyTarget sha256 digest target answers.first = .ok (first, snapshot) ∧
      verifyTarget sha256 digest target answers.second = .ok (second, snapshot) ∧ SameIdentity first second

def Answers.Disposes (target : LocalDeletionTarget) (answers : Answers) : Prop :=
  ∃ parts, target.Valid parts ∧ answers.Entered parts ∧ answers.opened.Returns false ∧ answers.opened.Located ∧
    answers.disposition ∧ ∃ snapshot, answers.VerifiedTwice sha256 digest target snapshot

def LosesHandle (target : LocalDeletionTarget) (answers : Answers) : Prop :=
  ∃ parts, target.Valid parts ∧
    (LosesDirectory (answers.directories parts) ∨ answers.Entered parts ∧ answers.opened.Lost)

def Escapes (target : LocalDeletionTarget) (answers : Answers) : Prop :=
  ∃ parts, target.Valid parts ∧ (RejectsDirectory (answers.directories parts) ∨
    answers.Entered parts ∧ (answers.opened.Rejects ∨ answers.opened.Returns false ∧ answers.opened.Escapes))

structure Truthful (target : LocalDeletionTarget) (answers : Answers) : Prop where
  disposed : ∀ before after, (delete sha256 digest target answers).2 = before ++ .disposed :: after →
    ∃ snapshot, .verified snapshot ∈ before ∧ snapshot.byteSize = target.expectedByteSize ∧
      snapshot.sha256 = target.expectedSha256 ∧
      (∀ digest, target.requiredVolumeIdentityDigest = some digest → snapshot.volumeIdentityDigest = digest) ∧
      (∀ digest, target.requiredFileIdentityDigest = some digest → snapshot.fileIdentityDigest = digest) ∧
      answers.VerifiedTwice sha256 digest target snapshot
  flagged : ∀ raised, (delete sha256 digest target answers).1 = .error raised →
    (.disposed ∈ (delete sha256 digest target answers).2 → ∃ code, raised = .deletionBlocked code true) ∧
      (.disposed ∉ (delete sha256 digest target answers).2 → ∃ code, raised = .deletionBlocked code false)
  closed : ∀ handle, (delete sha256 digest target answers).2.count (.closed handle) =
      (delete sha256 digest target answers).2.count (.opened handle) ∧
    (delete sha256 digest target answers).2.count (.opened handle) ≤ 1

variable {sha256 : List UInt8 → String} {digest : List Nat → String} {target : LocalDeletionTarget} {answers : Answers}
  {raised : Raised}

/-! ## The steps -/

/-- What the first block makes of the exception: one without the flag, unless it `escapes`. -/
def Reraised (raised : Raised) (escapes : Prop) : Prop :=
  raised = .call .other ∧ escapes ∨ (∃ code, reraised raised = blocked code) ∧ ¬ escapes

theorem reraised_blocked (code : String) {escapes : Prop} (h : ¬ escapes) : Reraised (blocked code) escapes :=
  .inr ⟨⟨code, rfl⟩, h⟩

theorem OpenAnswers.Located.not_escapes {a : OpenAnswers} (h : a.Located) : ¬ a.Escapes := by
  rintro ⟨-, hother⟩
  rw [h.2] at hother
  cases hother

theorem OpenAnswers.not_rejects {a : OpenAnswers} (h : a.attributes = .ok true) : ¬ a.Rejects := by
  intro hrejects
  rw [OpenAnswers.Rejects, h] at hrejects
  cases hrejects

theorem openHandle_cases (directory : Bool) (handle : Handle) (a : OpenAnswers) :
    (a.Returns directory ∧ ¬ a.Lost ∧ ¬ a.Rejects ∧ openHandle directory handle a = (.ok (), [.opened handle])) ∨
    ∃ raised effects, ¬ a.Returns directory ∧ openHandle directory handle a = (.error raised, effects) ∧
      (a.Lost ∧ effects = [.opened handle] ∨ ¬ a.Lost ∧ (effects = [] ∨ effects = [.opened handle, .closed handle])) ∧
      Reraised raised a.Rejects := by
  unfold openHandle OpenAnswers.Returns OpenAnswers.Lost OpenAnswers.Rejects
  cases hattributes : a.attributes with
  | error error => cases error <;> simp [Reraised, reraised, blocked]
  | ok available =>
    cases available with
    | false => simp [Reraised, reraised, blocked]
    | true =>
      by_cases hcreated : a.created = true
      · cases hinformation : a.information with
        | none => simp [hcreated, Reraised, reraised, blocked]
        | some information =>
          by_cases hreparse : information.reparse = true
          · simp [hcreated, hreparse, Reraised, reraised, blocked]
          · by_cases hdirectory : information.directory = directory
            · simp [hcreated, hreparse, hdirectory]
            · simp [hcreated, hreparse, hdirectory, Reraised, reraised, blocked]
      · simp [hcreated, Reraised, reraised, blocked]

theorem checkPath_cases (code : String) (a : OpenAnswers) : (a.Located ∧ checkPath code a = .ok ()) ∨
    ∃ raised, ¬ a.Located ∧ checkPath code a = .error raised ∧ Reraised raised a.Escapes := by
  unfold checkPath OpenAnswers.Located OpenAnswers.Escapes
  by_cases hfinal : a.finalPath = true
  · cases hsame : a.samePath with
    | error error => cases error <;> simp [hfinal, Reraised, reraised, blocked]
    | ok same => cases same <;> simp [hfinal, Reraised, reraised, blocked]
  · simp [hfinal, Reraised, reraised, blocked]

def opens (first count : Nat) : List Effect := (List.range' first count).map fun i => .opened (.directory i)

theorem openDirectories_cases (first : Nat) (directories : List OpenAnswers) :
    ∃ count rest, (openDirectories first directories).2 = (opens first count ++ rest, first + count) ∧
      ((openDirectories first directories).1 = .ok () ∧ rest = [] ∧ ¬ LosesDirectory directories ∧
          ¬ RejectsDirectory directories ∧ (∀ a ∈ directories, a.Returns true ∧ a.Located) ∨
        ∃ raised, (openDirectories first directories).1 = .error raised ∧
          ¬ (∀ a ∈ directories, a.Returns true ∧ a.Located) ∧
          (LosesDirectory directories ∧ ¬ RejectsDirectory directories ∧ rest = [.opened (.directory (first + count))] ∧
              (raised = .call .other ∨ ∃ code, reraised raised = blocked code) ∨
            ¬ LosesDirectory directories ∧ Reraised raised (RejectsDirectory directories) ∧
              (rest = [] ∨ rest = [.opened (.directory (first + count)), .closed (.directory (first + count))]))) := by
  induction directories generalizing first with
  | nil => exact ⟨0, [], rfl, .inl ⟨rfl, rfl, id, id, by simp⟩⟩
  | cons a directories ih =>
    unfold LosesDirectory RejectsDirectory openDirectories
    obtain ⟨hreturns, hlost, hrejects, heq⟩ | ⟨raised, effects, hreturns, heq, hrest, hraised⟩ :=
      openHandle_cases true (.directory first) a
    · rw [heq]
      obtain ⟨hlocated, hpath⟩ | ⟨raised, hlocated, hpath, hraised⟩ := checkPath_cases "TARGET_PARENT_IDENTITY_CHANGED" a
      · dsimp only
        rw [hpath]
        obtain ⟨count, rest, hleft, hcases⟩ := ih (first + 1)
        refine ⟨count + 1, rest, ?_, ?_⟩
        · dsimp only
          rw [hleft]
          simp only [opens, List.range'_succ, List.map_cons, List.cons_append, List.nil_append]
          rw [show first + (count + 1) = first + 1 + count by omega]
        · rw [show first + (count + 1) = first + 1 + count by omega]
          simpa [hreturns, hlost, hlocated, hrejects] using hcases
      · dsimp only
        rw [hpath]
        refine ⟨0, [.opened (.directory first)], rfl, .inr ⟨raised, rfl, ?_, .inl ⟨?_, ?_, rfl, ?_⟩⟩⟩
        · exact fun hall => hlocated (hall a List.mem_cons_self).2
        · exact .inr ⟨hreturns, .inl hlocated⟩
        · simp [hrejects, hlocated]
        · exact hraised.imp And.left And.left
    · rw [heq]
      refine ⟨0, effects, rfl, .inr ⟨raised, rfl, fun hall => hreturns (hall a List.mem_cons_self).1, ?_⟩⟩
      obtain ⟨hlost, rfl⟩ | ⟨hlost, heffects⟩ := hrest
      · have hrejects := OpenAnswers.not_rejects hlost.1
        exact .inl ⟨.inl hlost, by simp [hrejects, hreturns], rfl, hraised.imp And.left And.left⟩
      · exact .inr ⟨by simp [hlost, hreturns], by simpa [hreturns] using hraised, heffects⟩

theorem verifyTarget_cases (target : LocalDeletionTarget) (a : VerifyAnswers) :
    (∃ information snapshot, verifyTarget sha256 digest target a = .ok (information, snapshot) ∧
      snapshot.byteSize = target.expectedByteSize ∧ snapshot.sha256 = target.expectedSha256) ∨
    ∃ code, verifyTarget sha256 digest target a = .error (blocked code) := by
  unfold verifyTarget
  cases a.information with
  | none => exact .inr ⟨_, rfl⟩
  | some information =>
    dsimp only
    split
    · exact .inr ⟨_, rfl⟩
    · split
      · exact .inr ⟨_, rfl⟩
      · split
        · exact .inr ⟨_, rfl⟩
        · split
          · exact .inr ⟨_, rfl⟩
          · split
            · exact .inr ⟨_, rfl⟩
            · next hsize hsha => exact .inl ⟨_, _, rfl, not_not.mp hsize, not_not.mp hsha⟩

theorem dispose_cases : (∃ snapshot, answers.opened.Located ∧ answers.disposition ∧
      answers.VerifiedTwice sha256 digest target snapshot ∧
      dispose sha256 digest target answers = (.ok (), [.verified snapshot, .disposed])) ∨
    ∃ raised effects, dispose sha256 digest target answers = (.error raised, effects) ∧
      Reraised raised answers.opened.Escapes ∧ (effects = [] ∨ ∃ snapshot, effects = [.verified snapshot]) ∧
      ¬ (answers.opened.Located ∧ answers.disposition ∧ ∃ snapshot, answers.VerifiedTwice sha256 digest target snapshot) := by
  unfold dispose Answers.VerifiedTwice
  obtain ⟨hlocated, hpath⟩ | ⟨raised, hlocated, hpath, hraised⟩ :=
    checkPath_cases "TARGET_FINAL_PATH_MISMATCH" answers.opened
  · have hescapes := hlocated.not_escapes
    rw [hpath]
    dsimp only
    obtain ⟨first, snapshot, hfirst, -⟩ | ⟨code, hfirst⟩ := @verifyTarget_cases sha256 digest target answers.first
    · rw [hfirst]
      dsimp only
      by_cases hidentity : identityChanged target snapshot = true
      · rw [if_pos hidentity]
        refine .inr ⟨_, _, rfl, reraised_blocked _ hescapes, .inl rfl, ?_⟩
        rintro ⟨-, -, other, -, hsame, first', second, heq, -⟩
        cases heq
        rw [hidentity] at hsame
        cases hsame
      · rw [if_neg hidentity]
        by_cases hcallback : answers.onVerified = true
        · rw [if_neg (not_not.mpr hcallback)]
          obtain ⟨second, snapshot', hsecond, -⟩ | ⟨code, hsecond⟩ :=
            @verifyTarget_cases sha256 digest target answers.second
          · rw [hsecond]
            dsimp only
            by_cases hsame : SameIdentity first second ∧ snapshot' = snapshot
            · obtain ⟨hsame, rfl⟩ := hsame
              rw [if_neg (by simp [hsame])]
              by_cases hdisposition : answers.disposition = true
              · rw [if_neg (not_not.mpr hdisposition)]
                exact .inl ⟨snapshot', hlocated, hdisposition,
                  ⟨hcallback, by simpa using hidentity, first, second, rfl, rfl, hsame⟩, rfl⟩
              · rw [if_pos hdisposition]
                exact .inr ⟨_, _, rfl, reraised_blocked _ hescapes, .inr ⟨_, rfl⟩, fun h => hdisposition h.2.1⟩
            · rw [if_pos (by tauto)]
              refine .inr ⟨_, _, rfl, reraised_blocked _ hescapes, .inr ⟨_, rfl⟩, ?_⟩
              rintro ⟨-, -, other, -, -, first', second', heq, heq', hboth⟩
              cases heq
              cases heq'
              exact hsame ⟨hboth, rfl⟩
          · rw [hsecond]
            exact .inr ⟨_, _, rfl, reraised_blocked _ hescapes, .inr ⟨_, rfl⟩, by simp⟩
        · rw [if_pos hcallback]
          exact .inr ⟨_, _, rfl, reraised_blocked _ hescapes, .inl rfl, by simp [hcallback]⟩
    · rw [hfirst]
      exact .inr ⟨_, _, rfl, reraised_blocked _ hescapes, .inl rfl, by simp⟩
  · rw [hpath]
    exact .inr ⟨_, _, rfl, hraised, .inl rfl, fun h => hlocated h.1⟩

/-! ## The handles -/

def Balanced (effects : List Effect) : Prop :=
  ∀ handle, effects.count (.closed handle) = effects.count (.opened handle) ∧ effects.count (.opened handle) ≤ 1

theorem count_range_map {effect : Nat → Effect} (heffect : Function.Injective effect) (n i : Nat) :
    ((List.range n).map effect).count (effect i) = if i < n then 1 else 0 := by
  rw [List.count_map_of_injective _ effect heffect, List.nodup_range.count]
  simp

theorem count_opens (n : Nat) (handle : Handle) :
    (opens 0 n).count (.closed handle) = 0 ∧ (closeDirectories n).count (.opened handle) = 0 ∧
      ((∃ i < n, handle = .directory i ∧ (opens 0 n).count (.opened handle) = 1 ∧
          (closeDirectories n).count (.closed handle) = 1) ∨
        (opens 0 n).count (.opened handle) = 0 ∧ (closeDirectories n).count (.closed handle) = 0) := by
  refine ⟨List.count_eq_zero.mpr (by simp [opens]), List.count_eq_zero.mpr (by simp [closeDirectories]), ?_⟩
  cases handle with
  | target => exact .inr ⟨List.count_eq_zero.mpr (by simp [opens]), List.count_eq_zero.mpr (by simp [closeDirectories])⟩
  | directory i =>
    have hopened := @count_range_map (fun i => .opened (.directory i)) (fun a b h => by simpa using h) n i
    have hclosed := @count_range_map (fun i => .closed (.directory i)) (fun a b h => by simpa using h) n i
    rw [opens, ← List.range_eq_range', closeDirectories, List.map_reverse, List.count_reverse, hopened, hclosed]
    by_cases hi : i < n
    · rw [if_pos hi]
      exact .inl ⟨i, hi, rfl, rfl, rfl⟩
    · rw [if_neg hi]
      exact .inr ⟨rfl, rfl⟩

theorem balanced_iff {n : Nat} {middle : List Effect}
    (hmiddle : ∀ i < n, .opened (.directory i) ∉ middle ∧ .closed (.directory i) ∉ middle) :
    Balanced (opens 0 n ++ middle ++ closeDirectories n) ↔ Balanced middle := by
  refine forall_congr' fun handle => ?_
  obtain ⟨hopens, hcloses, ⟨i, hi, rfl, hone⟩ | hzero⟩ := count_opens n handle
  · have hopened := List.count_eq_zero.mpr (hmiddle i hi).1
    have hnot := List.count_eq_zero.mpr (hmiddle i hi).2
    simp only [List.count_append]
    omega
  · simp only [List.count_append]
    omega

theorem not_balanced_opened (handle : Handle) : ¬ Balanced [.opened handle] := by
  intro h
  simpa using (h handle).1

theorem balanced_nil : Balanced [] := fun _ => by simp

theorem balanced_used (handle : Handle) {effects : List Effect}
    (heffects : ∀ h, .opened h ∉ effects ∧ .closed h ∉ effects) :
    Balanced ([.opened handle] ++ effects ++ [.closed handle]) := by
  intro h
  have hopened := List.count_eq_zero.mpr (heffects h).1
  have hclosed := List.count_eq_zero.mpr (heffects h).2
  rw [List.count_append, List.count_append, List.count_append, List.count_append, hopened, hclosed]
  by_cases hh : handle = h
  · simp [hh]
  · simp [hh]

theorem disposeTarget_cases : (answers.opened.Returns false ∧ answers.opened.Located ∧ answers.disposition ∧
      ∃ snapshot, answers.VerifiedTwice sha256 digest target snapshot ∧ disposeTarget sha256 digest target answers =
        (.ok (), [.opened .target] ++ [.verified snapshot, .disposed] ++ [.closed .target])) ∨
    ∃ raised effects, disposeTarget sha256 digest target answers = (.error raised, effects) ∧ .disposed ∉ effects ∧
      Reraised raised (answers.opened.Rejects ∨ answers.opened.Returns false ∧ answers.opened.Escapes) ∧
      (∀ i, .opened (.directory i) ∉ effects ∧ .closed (.directory i) ∉ effects) ∧
      (Balanced effects ↔ ¬ answers.opened.Lost) ∧ ¬ (answers.opened.Returns false ∧ answers.opened.Located ∧
        answers.disposition ∧ ∃ snapshot, answers.VerifiedTwice sha256 digest target snapshot) := by
  unfold disposeTarget
  obtain ⟨hreturns, hlost, hrejects, heq⟩ | ⟨raised, effects, hreturns, heq, hrest, hraised⟩ :=
    openHandle_cases false .target answers.opened
  · rw [heq]
    dsimp only
    obtain ⟨snapshot, hlocated, hdisposition, htwice, heq'⟩ | ⟨raised, effects, heq', hraised, heffects, hnot⟩ :=
      @dispose_cases sha256 digest target answers
    · rw [heq']
      exact .inl ⟨hreturns, hlocated, hdisposition, snapshot, htwice, rfl⟩
    · rw [heq']
      have hno : (∀ h, .opened h ∉ effects ∧ .closed h ∉ effects) ∧ .disposed ∉ effects := by
        obtain rfl | ⟨snapshot, rfl⟩ := heffects <;> simp
      refine .inr ⟨raised, _, rfl, by simp [hno.2], by simpa [hreturns, hrejects] using hraised, fun i => ?_, ?_, ?_⟩
      · simp [(hno.1 (.directory i)).1, (hno.1 (.directory i)).2]
      · exact iff_of_true (balanced_used .target hno.1) hlost
      · exact fun h => hnot h.2
  · rw [heq]
    refine .inr ⟨_, _, rfl, ?_, by simpa [hreturns] using hraised, ?_⟩
    · obtain ⟨-, rfl⟩ | ⟨-, rfl | rfl⟩ := hrest <;> simp
    · refine ⟨?_, ?_, fun h => hreturns h.1⟩
      · obtain ⟨-, rfl⟩ | ⟨-, rfl | rfl⟩ := hrest <;> simp
      · obtain ⟨hlost, rfl⟩ | ⟨hlost, rfl | rfl⟩ := hrest
        · exact iff_of_false (not_balanced_opened _) (not_not.mpr hlost)
        · exact iff_of_true balanced_nil hlost
        · exact iff_of_true (@balanced_used .target [] (by simp)) hlost

/-- With the parts of the path at hand, what a deletion disposes of, loses and lets through needs no search for them. -/
theorem parts_iff {parts : List String} (hvalid : target.Valid parts) {p : List String → Prop} :
    (∃ parts, target.Valid parts ∧ p parts) ↔ p parts := by
  constructor
  · rintro ⟨other, hother, h⟩
    obtain rfl := Option.some.inj (hother.2.2.2.symm.trans hvalid.2.2.2)
    exact h
  · exact fun h => ⟨parts, hvalid, h⟩

theorem delete_cases (target : LocalDeletionTarget) (answers : Answers) :
    ∃ n middle, (delete sha256 digest target answers).2 = opens 0 n ++ middle ++ closeDirectories n ∧
      (∀ i < n, .opened (.directory i) ∉ middle ∧ .closed (.directory i) ∉ middle) ∧
      (Balanced middle ↔ ¬ LosesHandle target answers) ∧
      ((∃ snapshot, middle = [.opened .target] ++ [.verified snapshot, .disposed] ++ [.closed .target] ∧
          answers.Disposes sha256 digest target ∧ answers.VerifiedTwice sha256 digest target snapshot ∧
          (delete sha256 digest target answers).1 = verifyAbsence answers ∧ ¬ Escapes target answers) ∨
        ∃ raised, (delete sha256 digest target answers).1 = .error raised ∧ .disposed ∉ middle ∧
          ¬ answers.Disposes sha256 digest target ∧
          (raised = .call .other ∧ (LosesHandle target answers ∨ Escapes target answers) ∨
            (∃ code, raised = blocked code) ∧ ¬ Escapes target answers)) := by
  unfold delete
  by_cases hvalid : ∃ parts, target.Valid parts
  · obtain ⟨parts, hvalid⟩ := hvalid
    obtain ⟨hscope, hsize, hsha, hparts⟩ := id hvalid
    rw [if_neg (by tauto), if_neg (by omega), hparts]
    dsimp only
    rw [Answers.Disposes, LosesHandle, Escapes, parts_iff hvalid, parts_iff hvalid, parts_iff hvalid]
    obtain ⟨n, rest, hleft, ⟨hok, rfl, hlost, hrejects, hentered⟩ | ⟨raised, herror, hentered, hcases⟩⟩ :=
      openDirectories_cases 0 (answers.directories parts)
    · rw [show openDirectories 0 (answers.directories parts) = (.ok (), opens 0 n ++ [], 0 + n) from Prod.ext hok hleft]
      rw [List.append_nil, Nat.zero_add]
      dsimp only
      obtain ⟨hreturns, hlocated, hdisposition, snapshot, htwice, heq⟩ |
          ⟨raised, effects, heq, hno, hraised, hothers, hbalanced, hnot⟩ :=
        @disposeTarget_cases sha256 digest target answers
      · rw [heq]
        have hkept : ¬ answers.opened.Lost := by
          rintro ⟨-, -, hnone⟩
          obtain ⟨-, -, information, hsome, -⟩ := hreturns
          rw [hnone] at hsome
          cases hsome
        refine ⟨n, _, rfl, by simp, iff_of_true (balanced_used .target (by simp)) ?_, .inl ⟨snapshot, rfl, ?_⟩⟩
        · rintro (hdirectory | ⟨-, htarget⟩)
          · exact hlost hdirectory
          · exact hkept htarget
        · refine ⟨⟨hentered, hreturns, hlocated, hdisposition, snapshot, htwice⟩, htwice, rfl, ?_⟩
          rintro (hdirectory | ⟨-, htarget | ⟨-, hescapes⟩⟩)
          · exact hrejects hdirectory
          · exact OpenAnswers.not_rejects hreturns.1 htarget
          · exact hlocated.not_escapes hescapes
      · rw [heq]
        refine ⟨n, effects, rfl, fun i _ => hothers i, hbalanced.trans (not_congr ⟨?_, ?_⟩), .inr ⟨_, rfl, hno, ?_, ?_⟩⟩
        · exact fun h => .inr ⟨hentered, h⟩
        · exact fun h => h.elim (absurd · hlost) And.right
        · exact fun h => hnot h.2
        · obtain ⟨rfl, hescapes⟩ | ⟨⟨code, hcode⟩, hescapes⟩ := hraised
          · exact .inl ⟨rfl, .inr (.inr ⟨hentered, hescapes⟩)⟩
          · exact .inr ⟨⟨code, hcode⟩, fun h => h.elim hrejects fun htarget => hescapes htarget.2⟩
    · rw [show openDirectories 0 (answers.directories parts) = (.error raised, opens 0 n ++ rest, 0 + n) from
        Prod.ext herror hleft]
      rw [Nat.zero_add] at hcases ⊢
      have hnot : ¬ answers.Entered parts := hentered
      obtain ⟨hlost, hrejects, rfl, hraised⟩ | ⟨hlost, hraised, hrest⟩ := hcases
      · have hkept : ¬ (RejectsDirectory (answers.directories parts) ∨ answers.Entered parts ∧
            (answers.opened.Rejects ∨ answers.opened.Returns false ∧ answers.opened.Escapes)) :=
          not_or.mpr ⟨hrejects, fun h => hnot h.1⟩
        refine ⟨n, _, rfl, fun i hi => by simp; omega, ?_, .inr ⟨_, rfl, by simp, fun h => hnot h.1, ?_⟩⟩
        · exact iff_of_false (not_balanced_opened _) (not_not.mpr (.inl hlost))
        · obtain rfl | hcode := hraised
          · exact .inl ⟨rfl, .inl (.inl hlost)⟩
          · exact .inr ⟨hcode, hkept⟩
      · refine ⟨n, rest, rfl, ?_, iff_of_true ?_ ?_, .inr ⟨_, rfl, ?_, fun h => hnot h.1, ?_⟩⟩
        · intro i hi
          obtain rfl | rfl := hrest
          · simp
          · simp
            omega
        · obtain rfl | rfl := hrest
          · exact balanced_nil
          · exact @balanced_used (.directory n) [] (by simp)
        · rintro (hdirectory | ⟨hentered, -⟩)
          · exact hlost hdirectory
          · exact hnot hentered
        · obtain rfl | rfl := hrest <;> simp
        · obtain ⟨rfl, hdirectory⟩ | ⟨⟨code, hcode⟩, hdirectory⟩ := hraised
          · exact .inl ⟨rfl, .inr (.inl hdirectory)⟩
          · exact .inr ⟨⟨code, hcode⟩, not_or.mpr ⟨hdirectory, fun h => hnot h.1⟩⟩
  · have hnone : ∀ p : List String → Prop, ¬ ∃ parts, target.Valid parts ∧ p parts :=
      fun p h => hvalid (h.imp fun _ => And.left)
    suffices h : ∃ code, delete sha256 digest target answers = (.error (blocked code), []) by
      obtain ⟨code, hcode⟩ := h
      rw [← delete, hcode]
      refine ⟨0, [], rfl, by simp, iff_of_true balanced_nil (hnone _), .inr ⟨_, rfl, by simp, hnone _, ?_⟩⟩
      exact .inr ⟨⟨code, rfl⟩, hnone _⟩
    unfold delete
    split
    · exact ⟨_, rfl⟩
    · split
      · exact ⟨_, rfl⟩
      · split
        · exact ⟨_, rfl⟩
        · next hscope hmanifest parts hparts =>
          exact absurd ⟨parts, by tauto, by omega, by omega, hparts⟩ hvalid

theorem verifyAbsence_cases (answers : Answers) :
    (verifyAbsence answers = .error (.call .osError) ∧ answers.beforeAbsenceCheck ≠ some false ∧
        answers.lstat = .osError) ∨
      ¬ (answers.beforeAbsenceCheck ≠ some false ∧ answers.lstat = .osError) ∧
        ∀ raised, verifyAbsence answers = .error raised → ∃ code, raised = .deletionBlocked code true := by
  unfold verifyAbsence
  by_cases hhook : answers.beforeAbsenceCheck = some false
  · rw [if_pos hhook]
    exact .inr ⟨fun h => h.1 hhook, by rintro _ ⟨⟩; exact ⟨_, rfl⟩⟩
  · rw [if_neg hhook]
    cases hlstat : answers.lstat with
    | fileNotFound => exact .inr ⟨by simp, by rintro _ ⟨⟩⟩
    | osError => exact .inl ⟨rfl, hhook, rfl⟩
    | metadata regular => cases regular <;> exact .inr ⟨by simp, by rintro _ ⟨⟩; exact ⟨_, rfl⟩⟩

theorem Answers.VerifiedTwice.expected {snapshot : PredeleteSnapshot}
    (h : answers.VerifiedTwice sha256 digest target snapshot) :
    snapshot.byteSize = target.expectedByteSize ∧ snapshot.sha256 = target.expectedSha256 ∧
      (∀ digest, target.requiredVolumeIdentityDigest = some digest → snapshot.volumeIdentityDigest = digest) ∧
      ∀ digest, target.requiredFileIdentityDigest = some digest → snapshot.fileIdentityDigest = digest := by
  obtain ⟨-, hidentity, first, second, hfirst, -⟩ := h
  have hsame : (target.requiredVolumeIdentityDigest ≠ none ∨ target.requiredFileIdentityDigest ≠ none) →
      some snapshot.volumeIdentityDigest = target.requiredVolumeIdentityDigest ∧
        some snapshot.fileIdentityDigest = target.requiredFileIdentityDigest := by
    simpa [identityChanged] using hidentity
  obtain ⟨information, snapshot', heq, hsize, hsha⟩ | ⟨code, heq⟩ := @verifyTarget_cases sha256 digest target answers.first
  · rw [hfirst] at heq
    cases heq
    refine ⟨hsize, hsha, fun digest hdigest => ?_, fun digest hdigest => ?_⟩
    · exact Option.some.inj ((hsame (.inl (by simp [hdigest]))).1.trans hdigest)
    · exact Option.some.inj ((hsame (.inr (by simp [hdigest]))).2.trans hdigest)
  · rw [hfirst] at heq
    cases heq

/-- A deletion keeps its promises unless it loses a handle, lets what is no error of the system through, or cannot look
for the target that it has disposed of. -/
theorem deletion_truthful_iff (sha256 : List UInt8 → String) (digest : List Nat → String) (target : LocalDeletionTarget)
    (answers : Answers) : Truthful sha256 digest target answers ↔
      ¬ LosesHandle target answers ∧ ¬ Escapes target answers ∧
        ¬ (answers.Disposes sha256 digest target ∧ answers.beforeAbsenceCheck ≠ some false ∧ answers.lstat = .osError) := by
  obtain ⟨n, middle, heffects, hmiddle, hbalanced, hcases⟩ := @delete_cases sha256 digest target answers
  have hclosed : Balanced (delete sha256 digest target answers).2 ↔ ¬ LosesHandle target answers := by
    rw [heffects, balanced_iff hmiddle, hbalanced]
  have hdisposed : .disposed ∈ (delete sha256 digest target answers).2 ↔ .disposed ∈ middle := by
    rw [heffects]
    simp [opens, closeDirectories]
  obtain ⟨snapshot, hmid, hdisposes, htwice, hresult, hescapes⟩ | ⟨raised, hresult, hno, hdisposes, hraised⟩ := hcases
  · have hin : .disposed ∈ (delete sha256 digest target answers).2 := hdisposed.mpr (by simp [hmid])
    constructor
    · intro h
      refine ⟨hclosed.mp h.closed, hescapes, ?_⟩
      rintro ⟨-, hhook, hlstat⟩
      obtain ⟨herror, -⟩ | ⟨hnot, -⟩ := verifyAbsence_cases answers
      · obtain ⟨code, hcode⟩ := (h.flagged _ (hresult.trans herror)).1 hin
        cases hcode
      · exact hnot ⟨hhook, hlstat⟩
    · rintro ⟨hloses, -, hlstat⟩
      refine ⟨fun before after hsplit => ?_, fun raised hraised => ⟨fun _ => ?_, absurd hin⟩, hclosed.mpr hloses⟩
      · have hbefore : (opens 0 n ++ [.opened .target, .verified snapshot]) ++
            .disposed :: (.closed .target :: closeDirectories n) = before ++ .disposed :: after := by
          rw [← hsplit, heffects, hmid]
          simp
        obtain ⟨rfl, -⟩ := (List.append_cons_inj_of_notMem (by simp [opens]) (by simp [closeDirectories])).mp hbefore
        obtain ⟨hsize, hsha, hvolume, hfile⟩ := htwice.expected
        exact ⟨snapshot, by simp, hsize, hsha, hvolume, hfile, htwice⟩
      · obtain ⟨-, hhook, herror⟩ | ⟨-, hall⟩ := verifyAbsence_cases answers
        · exact absurd ⟨hdisposes, hhook, herror⟩ hlstat
        · exact hall raised (hresult.symm.trans hraised)
  · have hout : .disposed ∉ (delete sha256 digest target answers).2 := mt hdisposed.mp hno
    constructor
    · intro h
      refine ⟨hclosed.mp h.closed, ?_, fun h => hdisposes h.1⟩
      obtain ⟨rfl, hlost⟩ | ⟨-, hescapes⟩ := hraised
      · obtain ⟨code, hcode⟩ := (h.flagged _ hresult).2 hout
        cases hcode
      · exact hescapes
    · rintro ⟨hloses, hescapes, -⟩
      refine ⟨fun before after hsplit => absurd (by simp [hsplit]) hout, fun raised' hraised' => ⟨(absurd · hout), ?_⟩,
        hclosed.mpr hloses⟩
      intro _
      cases hresult.symm.trans hraised'
      obtain ⟨-, hlost⟩ | ⟨⟨code, rfl⟩, -⟩ := hraised
      · exact absurd hlost (not_or.mpr ⟨hloses, hescapes⟩)
      · exact ⟨code, rfl⟩

/-- The root's handle stays open when it cannot be identified. -/
theorem deletion_not_truthful : ¬ ∀ sha256 digest target answers, Truthful sha256 digest target answers := by
  intro h
  have hclosed := ((h (fun _ => "") (fun _ => "")
    ⟨"RESEARCH_ROOT", "timeline.jsonl", 0, "0000000000000000000000000000000000000000000000000000000000000000", none, none⟩
    ⟨fun _ => ⟨.ok true, true, none, true, .ok true⟩, ⟨.ok true, true, none, true, .ok true⟩, ⟨none, true, []⟩, true,
      ⟨none, true, []⟩, true, none, .fileNotFound⟩).closed (.directory 0)).1
  revert hclosed
  decide

end PduExamObserver.M1R1.HandleDeletion
