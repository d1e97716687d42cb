import Mathlib.Data.List.Infix
import PduExamObserver.ResearchRuntime.Annotation

/-! # Withdrawal and recovery

What takes the artifacts of a session away again: the governed withdrawal in its two sections, the deletion
rehearsal for test artifacts, and the recovery of a recording that was interrupted. Files that are removed or
renamed stay so when the transaction around them is taken back. -/

namespace PduExamObserver.ResearchRuntime
open Authority Stateful
set_option autoImplicit false

/-! ## The inventory -/

def partialNames : List String := [videoPartial, videoTranscoding, posePartial]

/-- The name that `recover` gives to a partial file. -/
def quarantined (name : String) : String := name ++ ".quarantine"

def runtimeNames : List String := finalNames ++ partialNames ++ partialNames.map quarantined

/-- One turn of the loop of `_withdrawal_artifact_inventory_locked`. -/
def inventoryItem (setup : Setup) (row : Session) (allowed : List String) (file : String × Content) :
    Except RuntimeError InventoryItem :=
  let item : InventoryItem := ⟨file.1, setup.digests.sha256 file.2, setup.digests.size file.2⟩
  if file.1 ∉ allowed then .error (.invalidTransition "UNOWNED_ARTIFACT_PRESENT")
  else
    match row.artifacts.find? fun record => record.name = file.1 with
    | none => .ok item
    | some expected =>
      if expected.sha256 ≠ item.sha256 ∨ expected.sizeBytes ≠ item.sizeBytes then
        .error (.invalidTransition "ARTIFACT_INTEGRITY_FAILED")
      else .ok item

/-- `_withdrawal_artifact_inventory_locked`. -/
def withdrawalInventory (setup : Setup) (row : Session) (directory : Option Directory) :
    Except RuntimeError (List InventoryItem) :=
  match directory with
  | none => .ok []
  | some files => do
    if row.state = .sealed then verifyArtifacts setup row directory
    let allowed := if row.state = .sealed then row.artifacts.map ArtifactRecord.name else runtimeNames
    (files.insertionSort fun a b => a.1 ≤ b.1).mapM (inventoryItem setup row allowed)

/-! ## `withdraw` -/

/-- What the second section of a withdrawal is given by the first one; `joined` says that there was a worker. -/
structure WithdrawCall where
  authorityReference : String
  withdrawalAuthoritySha256 : String
  decision : WithdrawalDecision
  joined : Bool
  deriving DecidableEq

def withdrawalDecision : Option RecordValue → Except RuntimeError WithdrawalDecision
  | some (.str "DELETE_OWNED_RUNTIME_ARTIFACTS") => .ok .deleteOwnedRuntimeArtifacts
  | some (.str "QUARANTINE_RUNTIME_ARTIFACTS") => .ok .quarantineRuntimeArtifacts
  | some .unhashable => .error .typeError
  | _ => .error (.authorityDenied "WITHDRAWAL_DECISION_REQUIRED")

/-- The checks of the first section of `withdraw`. -/
def withdrawalCall (setup : Setup) (row : Session) (joined : Bool) (authorityReference : String)
    (answer : AuthorityAnswer) : Except RuntimeError WithdrawCall :=
  if row.sourceKind ≠ .real then .error (.authorityDenied "synthetic sessions use withdraw_test_artifacts")
  else if row.state = .withdrawn ∨ row.state = .draft then .error (.invalidTransition "WITHDRAWAL_NOT_AVAILABLE")
  else do
    let authority ← validateAuthority setup answer authorityReference true
    if authority "session_pseudonym" ≠ some (.str row.sessionId) ∨
        authority "participant_pseudonym" ≠ some (.str row.participantPseudonym) then
      throw (.authorityDenied "AUTHORITY_SESSION_MISMATCH")
    else
      let decision ← withdrawalDecision (authority "withdrawal_decision")
      if !isDigest (authority "withdrawal_authority_sha256") then
        throw (.authorityDenied "WITHDRAWAL_AUTHORITY_REQUIRED")
      else
        return ⟨authorityReference, authority.text "withdrawal_authority_sha256", decision, joined⟩

/-- The first section of `withdraw`. -/
def beginWithdraw (setup : Setup) (authorityReference : String) (answer : AuthorityAnswer) : Op WithdrawCall := do
  let c ← get
  liftExcept (withdrawalCall setup c.session c.memory.captureThread authorityReference answer)

/-- `unlink`. -/
def unlinkFile (name : String) : Op Unit := do
  if (← get).hasFile name then removeFile name else throw .osError

/-- `rmdir`. -/
def removeDirectory : Op Unit := do
  if (← get).directory = some [] then modify fun c => { c with directory := none } else throw .osError

def quarantineDirectory : Op Unit := modify fun c => { c with directory := none, quarantine := c.directory }

def deletionSteps (inventory : List InventoryItem) : List (Op Unit) :=
  inventory.map (fun item => unlinkFile item.name) ++ [removeDirectory]

def removalSteps (decision : WithdrawalDecision) (inventory : List InventoryItem) (present : Bool) : List (Op Unit) :=
  if !present then []
  else
    match decision with
    | .deleteOwnedRuntimeArtifacts => deletionSteps inventory
    | .quarantineRuntimeArtifacts => [quarantineDirectory]

/-- The end of `withdraw`: the follow-up of the exports, the receipt and the final state. -/
def recordWithdrawal (call : WithdrawCall) (inventory : List InventoryItem) : Op Unit := do
  let row ← sessionRow
  let receipt : WithdrawalReceipt :=
    { authorityReference := call.authorityReference
      withdrawalAuthoritySha256 := call.withdrawalAuthoritySha256
      decision := call.decision
      exportCount := row.exports.length
      artifacts := inventory }
  updateSession fun row => { row with
    withdrawalTasks := row.withdrawalTasks ++ row.exports.filter (· ∉ row.withdrawalTasks)
    state := .withdrawn }
  let _ ← appendEvent (.withdrawalRecorded receipt)

structure RemovalEnv where
  closeRaises : Bool := false
  fault : Option Fault := none

/-- The second section of `withdraw`. -/
def finishWithdraw (setup : Setup) (call : WithdrawCall) (env : RemovalEnv) : Op Unit := locked do
  if call.joined ∧ (← get).worker then failLocked env.closeRaises "CAMERA_STOP_TIMEOUT"
  else
    updateMemory fun memory => { memory with captureThread := false }
    closeStream env.closeRaises
    let c ← get
    let inventory ← liftExcept (withdrawalInventory setup c.session c.directory)
    stepwise env.fault (removalSteps call.decision inventory c.directory.isSome)
    recordWithdrawal call inventory

/-! ## `withdraw_test_artifacts` -/

def withdrawTestArtifacts (setup : Setup) (fault : Option Fault) : Op Unit := locked do
  let c ← get
  if c.session.sourceKind = .real then
    throw (.authorityDenied "real participant withdrawal uses governed reconciliation")
  else if c.session.state ≠ .sealed ∧ c.session.state ≠ .failed then
    throw (.invalidTransition "only terminal test artifacts can be withdrawn")
  else
    let inventory ← liftExcept (withdrawalInventory setup c.session c.directory)
    stepwise fault (if c.directory.isSome then deletionSteps inventory else [])
    updateSession fun row => { row with state := .withdrawn }
    let _ ← appendEvent .testArtifactsWithdrawn

/-! ## `recover` -/

/-- The pattern `*.partial*`. -/
def isPartial (name : String) : Bool := ".partial".toList <:+: name.toList

def Collection.partials (c : Collection) : List String := c.names.filter isPartial

/-- One turn of the loop of `recover`. -/
def recoverSession (fault : Option Fault) : Op Unit := locked do
  let names := (← get).partials
  stepwise fault (names.map fun name => renameFile name (quarantined name))
  updateSession fun row => { row with state := .failed, failureCode := some "RECOVERY_REQUIRED" }
  let _ ← appendEvent (.technicalFailure "RECOVERY_REQUIRED")

def Collection.restarted (c : Collection) : Collection := { c with memory := {}, worker := false }

/-- `recover` of one session; only a recording is recovered. -/
def recover (fault : Option Fault) (c : Collection) : Collection :=
  if c.session.state = .recording then final ((recoverSession fault).run c) else c

end PduExamObserver.ResearchRuntime
