import PduExamObserver.Native.Receipts

/-! # The authority store

The records of `FixedLocalAuthorityStore` and its guarded sections. A section works on the files that the
store keeps; its faults say which of its calls fail, and where its process ends. -/

namespace PduExamObserver.Native
open Authority
set_option autoImplicit false

structure TerminalAuthority where
  schemaVersion : Int
  authorityRevision : String
  preparedConfigDigest : String
  runNonce : String
  receiptCoreDigest : String
  outcome : String
  failureCode : String
  recordDigest : String
  deriving DecidableEq, Repr

structure Files where
  legacy : Bool := false
  prepared : Option PreparedAuthority := none
  terminal : Option TerminalAuthority := none
  deriving DecidableEq, Repr

inductive Stop where
  | raised
  | crashed
  deriving DecidableEq, Repr

inductive WriteFault where
  | none
  | failsBefore
  | failsAfter
  | crashesBefore
  | crashesAfter
  deriving DecidableEq, Repr

/-- The faults of a guarded section: the guard, the first read, the write, the read after it, and the release
of the guard. -/
structure Faults where
  acquired : Bool := true
  readable : Bool := true
  write : WriteFault := .none
  readBack : Bool := true
  released : Bool := true
  deriving DecidableEq, Repr

abbrev Outcome (α : Type) := Files × Except Stop α

/-- `_authority_write_guard` around a section. -/
def guarded {α : Type} (faults : Faults) (files : Files) (body : Outcome α) : Outcome α :=
  if faults.acquired then
    match body.2 with
    | .error .crashed => body
    | _ => if faults.released then body else (body.1, .error .raised)
  else (files, .error .raised)

/-- `_atomic_json_write`, which turns `files` into `written`. -/
def atomicJsonWrite (fault : WriteFault) (files written : Files) : Outcome Unit :=
  match fault with
  | .none => (written, .ok ())
  | .failsBefore => (files, .error .raised)
  | .failsAfter => (written, .error .raised)
  | .crashesBefore => (files, .error .crashed)
  | .crashesAfter => (written, .error .crashed)

/-! ## Reading -/

def readRecord {α : Type} (readable : Bool) (valid : α → Bool) : Option α → Except Stop (Option α)
  | none => .ok none
  | some value => if readable && valid value then .ok (some value) else .error .raised

namespace TerminalAuthority

variable (rt : Runtime)

def core (terminal : TerminalAuthority) : Value :=
  .dict
    [("schema_version", .int terminal.schemaVersion),
      ("authority_revision", .str terminal.authorityRevision),
      ("prepared_config_digest", .str terminal.preparedConfigDigest),
      ("run_nonce", .str terminal.runNonce),
      ("receipt_core_digest", .str terminal.receiptCoreDigest),
      ("outcome", .str terminal.outcome),
      ("failure_code", .str terminal.failureCode)]

/-- The checks of `load_terminal`. -/
def IsValid (terminal : TerminalAuthority) : Prop :=
  terminal.schemaVersion = 2
    ∧ terminal.authorityRevision = Native.authorityRevision
    ∧ isHexDigest terminal.preparedConfigDigest
    ∧ isHexDigest terminal.runNonce
    ∧ isHexDigest terminal.receiptCoreDigest
    ∧ (terminal.outcome = NativeOutcome.preflightPass.value ∧ terminal.failureCode = "NONE"
      ∨ terminal.outcome = NativeOutcome.noGo.value
        ∧ terminal.failureCode ∈ NativeFailure.all.map NativeFailure.value)
    ∧ terminal.recordDigest = rt.digest terminal.core

instance (terminal : TerminalAuthority) : Decidable (terminal.IsValid rt) := inferInstanceAs (Decidable (_ ∧ _))

end TerminalAuthority

namespace Files

variable (rt : Runtime)

def load (files : Files) (readable : Bool) : Except Stop (Option PreparedAuthority) :=
  if files.legacy then .error .raised
  else readRecord readable (fun value => decide value.IsValid) files.prepared

def loadTerminal (files : Files) (readable : Bool) : Except Stop (Option TerminalAuthority) :=
  readRecord readable (fun terminal => decide (terminal.IsValid rt)) files.terminal

end Files

/-! ## The guarded sections -/

variable (rt : Runtime)

def PreparedAuthority.withState (value : PreparedAuthority) (state : AuthorizationState) : PreparedAuthority :=
  { value with state }

/-- The stored record goes from one state to the next. -/
def advance (source target : AuthorizationState) (value : PreparedAuthority) (faults : Faults) (files : Files) :
    Outcome Bool :=
  guarded faults files <|
    match files.load faults.readable with
    | .error stop => (files, .error stop)
    | .ok current =>
      if current ≠ some value ∨ value.state ≠ source ∨ files.terminal.isSome then (files, .ok false)
      else
        let (files, written) :=
          atomicJsonWrite faults.write files { files with prepared := some (value.withState target) }
        (files, written.map fun _ => true)

def consume : PreparedAuthority → Faults → Files → Outcome Bool := advance .prepared .consumed

/-- The arguments of `finalize_terminal`. -/
structure TerminalRequest where
  prepared : PreparedAuthority
  runNonce : String
  receiptCoreDigest : String
  outcome : NativeOutcome
  failure : Option NativeFailure

namespace TerminalRequest

def draft (request : TerminalRequest) : TerminalAuthority where
  schemaVersion := 2
  authorityRevision := Native.authorityRevision
  preparedConfigDigest := rt.digest request.prepared.toValue
  runNonce := request.runNonce
  receiptCoreDigest := request.receiptCoreDigest
  outcome := request.outcome.value
  failureCode := (request.failure.map NativeFailure.value).getD "NONE"
  recordDigest := ""

def terminal (request : TerminalRequest) : TerminalAuthority :=
  { request.draft rt with recordDigest := rt.digest (request.draft rt).core }

def Rejected (request : TerminalRequest) : Prop :=
  isHexDigest request.runNonce = false
    ∨ isHexDigest request.receiptCoreDigest = false
    ∨ request.outcome = .prepared
    ∨ request.outcome = .preflightPass ∧ request.failure.isSome
    ∨ request.outcome = .noGo ∧ request.failure.isNone

instance (request : TerminalRequest) : Decidable request.Rejected := inferInstanceAs (Decidable (_ ∨ _))

end TerminalRequest

def finalizeTerminal (request : TerminalRequest) (faults : Faults) (files : Files) :
    Outcome (Option TerminalAuthority) :=
  guarded faults files <|
    match files.load faults.readable with
    | .error stop => (files, .error stop)
    | .ok current =>
      if current ≠ some (request.prepared.withState .consumed) ∨ files.terminal.isSome then (files, .ok none)
      else if request.Rejected then (files, .ok none)
      else
        let terminal := request.terminal rt
        match atomicJsonWrite faults.write files { files with terminal := some terminal } with
        | (files, .ok ()) => (files, .ok (some terminal))
        | (files, .error .raised) =>
          (files, (files.loadTerminal rt faults.readBack).map fun observed =>
            if observed = some terminal then some terminal else none)
        | (files, .error .crashed) => (files, .error .crashed)

end PduExamObserver.Native
