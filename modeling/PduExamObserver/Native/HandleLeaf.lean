import Mathlib.Data.List.Basic
import PduExamObserver.Library.Stateful

/-! # The leaf behind one handle

`SameHandleLeaf` opens its file, checks it, replaces its contents and reads them back through one handle. The
operations of the handle are a parameter: each may raise, and may answer anything that the contents allow. -/

namespace PduExamObserver.HandleLeaf
open Stateful
set_option autoImplicit false

abbrev Bytes := List UInt8

def maxAuthorityRecordBytes : Nat := 32768

/-- What is raised: an `Exception`, another `BaseException`, or a group that is no `Exception`. -/
inductive Raised where
  | exception (text : String)
  | baseException (text : String)
  | group (text : String) (escaped cleanup : Raised)

def Raised.isException : Raised → Bool
  | .exception _ => true
  | _ => false

inductive LeafFailure where
  | absent
  | openFailed
  | createConflict
  | handleValidationFailed
  | readFailed
  | codecInvalid
  | staleCas
  | writeFailed
  | truncateFailed
  | flushFailed
  | readbackFailed
  | identityChanged
  | closeFailed
deriving DecidableEq

structure HandleInfo where
  disk : Bool
  reparse : Bool
  directory : Bool
  deletePending : Bool
  links : Int
  finalPath : String
  identity : String
  size : Int
deriving DecidableEq

structure LeafResult where
  payload : Option Bytes
  failure : Option LeafFailure
deriving DecidableEq

/-- The operations on the file of a leaf. Its contents change only by a creation, a write and a truncation, which
may do anything; a read that answers gives the contents from the position of the handle on, up to the limit. -/
structure HandleOps (World : Type) where
  file : World → Option Bytes
  position : World → Int → Nat
  createNew : World → Except Raised (Option Int) × World
  openExisting : World → Except Raised (Option Int) × World
  openInspection : World → Except Raised (Option Int) × World
  info : Int → World → Except Raised HandleInfo × World
  read : Int → Nat → World → Except Raised (Option Bytes) × World
  seekStart : Int → World → Except Raised Bool × World
  write : Int → Bytes → World → Except Raised Int × World
  truncate : Int → World → Except Raised Bool × World
  flush : Int → World → Except Raised Bool × World
  close : Int → World → Except Raised Bool × World
  createNew_file : ∀ {world next handle}, createNew world = (.ok (some handle), next) →
    file world = none ∧ file next = some []
  openExisting_file : ∀ {world next handle}, openExisting world = (.ok (some handle), next) →
    file next = file world ∧ position next handle = 0
  info_file : ∀ handle world, file (info handle world).2 = file world ∧
    position (info handle world).2 handle = position world handle
  read_file : ∀ handle limit world, file (read handle limit world).2 = file world
  read_bytes : ∀ {handle limit world bytes}, (read handle limit world).1 = .ok (some bytes) →
    ∃ contents, file world = some contents ∧ bytes = (contents.drop (position world handle)).take limit
  seekStart_file : ∀ handle world, file (seekStart handle world).2 = file world
  seekStart_position : ∀ {handle world}, (seekStart handle world).1 = .ok true →
    position (seekStart handle world).2 handle = 0
  flush_file : ∀ handle world, file (flush handle world).2 = file world
  close_file : ∀ handle world, file (close handle world).2 = file world

/-! ## The calls of a run -/

inductive Entry where
  | createNew (answer : Except Raised (Option Int))
  | openExisting (answer : Except Raised (Option Int))
  | openInspection (answer : Except Raised (Option Int))
  | info (handle : Int) (answer : Except Raised HandleInfo)
  | read (handle : Int) (limit : Nat) (answer : Except Raised (Option Bytes))
  | seekStart (handle : Int) (answer : Except Raised Bool)
  | write (handle : Int) (data : Bytes) (answer : Except Raised Int)
  | truncate (handle : Int) (answer : Except Raised Bool)
  | flush (handle : Int) (answer : Except Raised Bool)
  | close (handle : Int) (answer : Except Raised Bool)

def Entry.Mutates : Entry → Prop
  | .write _ _ _ => True
  | .truncate _ _ => True
  | _ => False

def Entry.Uses (handle : Int) : Entry → Prop
  | .info used _ => used = handle
  | .read used _ _ => used = handle
  | .seekStart used _ => used = handle
  | .write used _ _ => used = handle
  | .truncate used _ => used = handle
  | .flush used _ => used = handle
  | _ => False

structure Drive (World : Type) where
  world : World
  calls : List Entry

abbrev Leaf (World : Type) := EStateM Raised (Drive World)

variable {World α : Type}

def perform (call : World → Except Raised α × World) (entry : Except Raised α → Entry) : Leaf World α := fun drive =>
  let after : Drive World := { world := (call drive.world).2, calls := drive.calls ++ [entry (call drive.world).1] }
  match (call drive.world).1 with
  | .ok answer => .ok answer after
  | .error e => .error e after

def ofExcept (answer : Except Raised α) : Leaf World α := fun drive =>
  match answer with
  | .ok a => .ok a drive
  | .error e => .error e drive

/-- A leaf: its path and the operations on it; `lower` is `str.lower`. -/
structure SameHandleLeaf (World : Type) where
  ops : HandleOps World
  path : String
  lower : String → String

abbrev Codec := Bytes → Except Raised Bool

def normalize (lower : String → String) (path : String) : String :=
  let lowered := lower (path.map fun c => if c = '/' then '\\' else c)
  if lowered.startsWith "\\\\?\\" then (lowered.drop 4).toString else lowered

namespace SameHandleLeaf

variable (leaf : SameHandleLeaf World)

def info (handle : Int) : Leaf World HandleInfo := perform (leaf.ops.info handle) (.info handle)
def read (handle : Int) (limit : Nat) : Leaf World (Option Bytes) :=
  perform (leaf.ops.read handle limit) (.read handle limit)
def seekStart (handle : Int) : Leaf World Bool := perform (leaf.ops.seekStart handle) (.seekStart handle)
def write (handle : Int) (data : Bytes) : Leaf World Int := perform (leaf.ops.write handle data) (.write handle data)
def truncate (handle : Int) : Leaf World Bool := perform (leaf.ops.truncate handle) (.truncate handle)
def flush (handle : Int) : Leaf World Bool := perform (leaf.ops.flush handle) (.flush handle)
def close (handle : Int) : Leaf World Bool := perform (leaf.ops.close handle) (.close handle)

/-! ## The methods -/

def failed (failure : LeafFailure) : LeafResult := { payload := none, failure := some failure }

def valid (info : HandleInfo) : Bool :=
  info.disk && !info.reparse && !info.directory && !info.deletePending && info.links == 1 &&
    normalize leaf.lower info.finalPath == normalize leaf.lower leaf.path

def validPayload (payload : Bytes) (codec : Codec) : Leaf World Bool :=
  if 0 < payload.length ∧ payload.length ≤ maxAuthorityRecordBytes then ofExcept (codec payload) else pure false

/-- The part of `_commit_open` under `if expected is not None`: why it gives up. -/
def checkExpected (handle : Int) (expected : Option Bytes) (codec : Codec) : Leaf World (Option LeafFailure) :=
  match expected with
  | none => pure none
  | some expected => do
    match ← leaf.read handle (maxAuthorityRecordBytes + 1) with
    | none => pure (some .readFailed)
    | some current => do
      if ¬ (← validPayload current codec) then return some .readFailed
      if current ≠ expected then return some .staleCas
      return none

/-- The `while` loop: `rest` is `payload[offset:]`. -/
def writeFrom (handle : Int) (rest : Bytes) : Leaf World Bool :=
  if rest = [] then pure true
  else do
    let written ← leaf.write handle rest
    if h : 0 < written ∧ written ≤ rest.length then writeFrom handle (rest.drop written.toNat) else pure false
termination_by rest.length
decreasing_by
  rw [List.length_drop]
  omega

/-- The part of `_commit_open` from the first seek to the readback: why it gives up. -/
def replaceContents (handle : Int) (payload : Bytes) : Leaf World (Option LeafFailure) := do
  if ¬ (← leaf.seekStart handle) then return some .writeFailed
  if ¬ (← leaf.writeFrom handle payload) then return some .writeFailed
  if ¬ (← leaf.truncate handle) then return some .truncateFailed
  if ¬ (← leaf.flush handle) then return some .flushFailed
  if ¬ (← leaf.seekStart handle) then return some .readbackFailed
  if (← leaf.read handle (maxAuthorityRecordBytes + 1)) ≠ some payload then return some .readbackFailed
  return none

/-- The part of `_commit_open` that changes the file and looks at it again. -/
def overwrite (handle : Int) (initial : HandleInfo) (payload : Bytes) : Leaf World LeafResult := do
  match ← leaf.replaceContents handle payload with
  | some failure => return failed failure
  | none =>
    let final ← leaf.info handle
    if ¬ leaf.valid final then return failed .handleValidationFailed
    if final.identity ≠ initial.identity then return failed .identityChanged
    return { payload := some payload, failure := none }

def commitOpen (handle : Int) (expected : Option Bytes) (payload : Bytes) (codec : Codec) : Leaf World LeafResult := do
  let initial ← leaf.info handle
  if ¬ leaf.valid initial then return failed .handleValidationFailed
  if ¬ (← validPayload payload codec) then return failed .handleValidationFailed
  match ← leaf.checkExpected handle expected codec with
  | some failure => return failed failure
  | none => leaf.overwrite handle initial payload

/-- `try: … except Exception: return caught`. -/
def exceptException (body : Leaf World α) (caught : α) : Leaf World α :=
  tryCatch body fun e => if e.isException then pure caught else throw e

def inspectOpen (handle : Int) (codec : Codec) : Leaf World LeafResult := do
  match ← exceptException (some <$> leaf.info handle) none with
  | none => return failed .handleValidationFailed
  | some initial =>
    if ¬ leaf.valid initial then return failed .handleValidationFailed
    if ¬ (← exceptException (leaf.seekStart handle) false) then return failed .readFailed
    match ← exceptException (leaf.read handle (maxAuthorityRecordBytes + 1)) none with
    | none => return failed .readFailed
    | some payload =>
      if ¬ (0 < payload.length ∧ payload.length ≤ maxAuthorityRecordBytes) then return failed .readFailed
      if ¬ (← exceptException (ofExcept (codec payload)) false) then return failed .codecInvalid
      match ← exceptException (some <$> leaf.info handle) none with
      | none => return failed .handleValidationFailed
      | some final =>
        if ¬ leaf.valid final then return failed .handleValidationFailed
        if final.identity ≠ initial.identity then return failed .identityChanged
        return { payload := some payload, failure := none }

/-- The frame of `_commit` and `_inspect_commit`: run the body, close the handle, then raise or answer. -/
def closing (handle : Int) (message : String) (body : Leaf World LeafResult) : Leaf World LeafResult := do
  let (result, escaped) ← tryCatch (do return (← body, none)) fun e =>
    return (failed .handleValidationFailed, if e.isException then none else some e)
  let (closed, closeError) ← tryCatch (do return (← leaf.close handle, none)) fun e => return (false, some e)
  match escaped with
  | some e =>
    if closed then throw e
    else throw (.group message e (closeError.getD (.exception "CLOSE_FAILED")))
  | none => return if closed then result else failed .closeFailed

def commit (handle : Int) (expected : Option Bytes) (payload : Bytes) (codec : Codec) : Leaf World LeafResult :=
  leaf.closing handle "authority operation and handle cleanup failed" (leaf.commitOpen handle expected payload codec)

def inspectCommit (handle : Int) (codec : Codec) : Leaf World LeafResult :=
  leaf.closing handle "authority inspection and handle cleanup failed" (leaf.inspectOpen handle codec)

def create (payload : Bytes) (codec : Codec) : Leaf World LeafResult := do
  match ← perform leaf.ops.createNew .createNew with
  | none => return failed .createConflict
  | some handle => leaf.commit handle none payload codec

/-- `try: handle = open(…) except Exception: …` gives up before the rest of the method. -/
def opening (attempt : Leaf World (Option Int)) (missing : LeafFailure) (body : Int → Leaf World LeafResult) :
    Leaf World LeafResult := do
  match ← exceptException (some <$> attempt) none with
  | none => return failed .openFailed
  | some none => return failed missing
  | some (some handle) => body handle

def transition (expected payload : Bytes) (codec : Codec) : Leaf World LeafResult :=
  opening (perform leaf.ops.openExisting .openExisting) .handleValidationFailed fun handle =>
    leaf.commit handle (some expected) payload codec

def inspect (codec : Codec) : Leaf World LeafResult :=
  opening (perform leaf.ops.openInspection .openInspection) .absent fun handle => leaf.inspectCommit handle codec

end SameHandleLeaf

end PduExamObserver.HandleLeaf
