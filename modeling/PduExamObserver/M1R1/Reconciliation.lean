import PduExamObserver.M1R1.Execution

/-! # Runs of the reconciliation

The store with everything that works on it. `run_local` holds the root's lock from its first transaction to its end:
while one is active only the operations that do not take that lock go on. -/

namespace PduExamObserver.M1R1
open M1 Table Transition
set_option autoImplicit false

structure Issuance where
  request : CreateRequest
  plan : ReconciliationPlan
  issued : IssuedChallenge

structure Consumption where
  request : ConsumeRequest
  reviewer : Option String
  plan : ReconciliationPlan
  result : ConsumedChallenge

/-- The store and the service, the call of `run_local` that is active, and what has been issued and consumed. -/
structure World extends Desk where
  progress : Option Progress := none
  issuances : List Issuance := []
  consumptions : List Consumption := []

inductive Action where
  | store (action : StoreAction)
  | importProcedureAuthority (authorityId authorityReference sourceDocumentSha256 : String) (permits : Bool)
      (now : Seconds)
  /-- the two halves of `_invalidate_reviewer_session`, and a login -/
  | revokeReviewer
  | clearReviewer
  | login (digest : String)
  | createChallenge (request : CreateRequest)
  | consume (request : ConsumeRequest)
  | startRun (consumed : ConsumedChallenge) (authority : Option (ExecutionAuthorityBinding → Bool)) (runId : String)
  | beginTarget (attemptId : String)
  /-- `on_verified`, for a file that passes `verifyTarget` -/
  | verified (observed : PredeleteSnapshot)
  /-- the second verification has seen the same, and the file goes -/
  | dispose
  | absenceVerified
  /-- `primitive.delete` raises `DeletionBlocked` -/
  | deletionBlocked (code : String) (dispositionMayHaveOccurred : Bool)
  /-- any other exception in `run_local`, or an outcome without verified absence -/
  | raised
  | completeRun
  | recover
  /-- the process ends, and another one opens the store and starts the service -/
  | restart
  | finalize (sessionId : String) (now : Seconds)

def StoreAction.locks : StoreAction → Bool
  | .persist _ _ _ _ => true
  | .recoverIntent _ _ _ => true
  | .sweepOrphan _ => true
  | .backend _ _ => false
  | .registerExternalTarget _ _ _ => false

def World.withStore (world : World) (store : Store) : World := { world with store }

def World.withDesk (world : World) (desk : Desk) : World := { world with toDesk := desk }

def World.apply {ε : Type} (world : World) : Except ε Store → World
  | .ok store => world.withStore store
  | .error _ => world

def World.create (rt : Runtime) (world : World) (request : CreateRequest) : World :=
  match M1R1.createChallenge rt world.toDesk request, planForSession rt world.store request.sessionId with
  | (desk, .ok issued), .ok plan =>
    { world.withDesk desk with issuances := world.issuances ++ [{ request, plan, issued }] }
  | (desk, _), _ => world.withDesk desk

def World.consume (rt : Runtime) (world : World) (request : ConsumeRequest) : World :=
  match M1R1.consume rt world.toDesk request, planForSession rt world.store request.sessionId with
  | (desk, .ok result), .ok plan =>
    { world.withDesk desk with
      consumptions := world.consumptions ++ [{ request, reviewer := world.reviewer, plan, result }] }
  | (desk, _), _ => world.withDesk desk

def World.runStep (world : World) (progress : Progress) : Action → World
  | .beginTarget attemptId =>
    match progress.current, progress.remaining with
    | none, targetId :: _ =>
      match M1R1.beginTarget world.store progress targetId attemptId with
      | .ok (store, progress) => { world.withStore store with progress := some progress }
      | .error _ => { world with progress := none }
    | _, _ => world
  | .verified observed =>
    match progress.current with
    | some current =>
      if current.phase = .pending ∧
          ((deletionTarget world.store current.targetId).any fun target => (verifyTarget target observed).isOk) then
        { world.withStore (recordVerified world.store current.attemptId observed) with
          progress := some { progress with current := some { current with phase := .verified } } }
      else world
    | none => world
  | .dispose =>
    match progress.current with
    | some current =>
      if current.phase = .verified then
        match deletionTarget world.store current.targetId with
        | some target =>
          { world.withStore { world.store with files := disposeFile world.store.files target.relativePath } with
            progress := some { progress with current := some { current with phase := .disposed } } }
        | none => world
      else world
    | none => world
  | .absenceVerified =>
    match progress.current with
    | some current =>
      if current.phase = .disposed then
        { world.withStore (recordAbsence world.store current.targetId current.attemptId) with
          progress := some { progress with current := none } }
      else world
    | none => world
  | .deletionBlocked code dispositionMayHaveOccurred =>
    match progress.current with
    | some current =>
      { world.withStore (recordBlocked world.store progress.runId current.targetId current.attemptId code
          dispositionMayHaveOccurred) with progress := none }
    | none => world
  | .raised => { world with progress := none }
  | .completeRun =>
    if progress.current = none ∧ progress.remaining = [] then
      { world.withStore (M1R1.completeRun world.store progress.runId) with progress := none }
    else world
  | _ => world

/-- A step while no call of `run_local` is active. -/
def World.idleStep (rt : Runtime) (world : World) : Action → World
  | .store action => world.apply (action.run rt world.store)
  | .importProcedureAuthority authorityId authorityReference sourceDocumentSha256 permits now =>
    world.apply (M1R1.importProcedureAuthority world.store authorityId authorityReference sourceDocumentSha256 permits now)
  | .revokeReviewer =>
    match world.reviewer with
    | some digest => world.withDesk (revokeIssued world.toDesk digest)
    | none => world
  | .clearReviewer => world.withDesk { world.toDesk with reviewer := none }
  | .login digest => world.withDesk { world.toDesk with reviewer := some digest }
  | .createChallenge request => world.create rt request
  | .consume request => world.consume rt request
  | .startRun consumed authority runId =>
    -- callers have the value from a consumption
    if consumed ∈ world.consumptions.map Consumption.result then
      match M1R1.startRun rt world.store consumed authority runId with
      | .ok (.started store progress) => { world.withStore store with progress := some progress }
      | .ok (.replay _ _) => world
      | .error _ => world
    else world
  | .recover => world.withStore (recoverRuns world.store)
  | .finalize sessionId now =>
    match M1R1.finalize rt world.store sessionId now with
    | .ok (store, _) => world.withStore store
    | .error _ => world
  | _ => world

def World.besideStep (rt : Runtime) (world : World) : Action → World
  | .store action => if action.locks then world else world.apply (action.run rt world.store)
  | .importProcedureAuthority authorityId authorityReference sourceDocumentSha256 permits now =>
    world.apply (M1R1.importProcedureAuthority world.store authorityId authorityReference sourceDocumentSha256 permits now)
  | .clearReviewer => world.withDesk { world.toDesk with reviewer := none }
  | .login digest => world.withDesk { world.toDesk with reviewer := some digest }
  | _ => world

def Action.ofRun : Action → Bool
  | .beginTarget _ => true
  | .verified _ => true
  | .dispose => true
  | .absenceVerified => true
  | .deletionBlocked _ _ => true
  | .raised => true
  | .completeRun => true
  | _ => false

def World.restart (world : World) : World :=
  { world with
    store := expireIssued (recoverRuns world.store)
    deadlines := []
    reviewer := none
    progress := none }

def World.step (rt : Runtime) (world : World) (action : Action) : World :=
  match action with
  | .restart => world.restart
  | action =>
    match world.progress with
    | none => world.idleStep rt action
    | some progress => if action.ofRun then world.runStep progress action else world.besideStep rt action

def system (rt : Runtime) : System World Action := ofFun (fun world => world = {}) (World.step rt)

/-! ## Runs to evaluate -/

namespace Sample

def unary (n : Nat) : List Char := List.replicate n '1' ++ ['0']

def targetText : Json → List Char
  | .obj fields =>
    match fields.lookup "target_id", fields.lookup "state_version" with
    | some (.str targetId), some (.int stateVersion) =>
      unary targetId.length ++ targetId.toList ++ unary stateVersion.toNat
    | _, _ => []
  | _ => []

def planRuntime : Runtime where
  toRuntime := { runtime.toRuntime with
    sha256 := fun json =>
      match json with
      | .obj fields =>
        match fields.lookup "targets" with
        | some (.arr targets) => String.ofList (targets.flatMap targetText)
        | _ => M1.sampleRuntime.sha256 json
      | _ => "" }
  sha256Bytes := runtime.sha256Bytes
  sha256Text := runtime.sha256Text
  rootIdentityDigest := "root"

def reviewer : String := String.ofList (List.replicate 64 'r')

def withdrawn (artifactIds : List String) : List Action :=
  (sessions ++ artifactIds.map (fun artifactId => persist artifactId artifactId) ++
    [StoreAction.backend noon (.mutate (.withdraw "research-aaa" (some "w")))]).map .store ++ [.login reviewer]

def createRequest (suffix : String) : CreateRequest where
  sessionId := "research-aaa"
  action := some .executeLocalReconciliation
  targetId := none
  reviewerDigest := some reviewer
  now := some 0
  monotonicNow := some 0
  rejectedLogin := none
  reviewerAlive := true
  currentNow := some 0
  currentMonotonicNow := some 0
  challengeId := "challenge-" ++ suffix
  challengeToken := "token-" ++ suffix
  stepUpId := "step-up-" ++ suffix

def consumeRequest (suffix : String) : ConsumeRequest where
  sessionId := "research-aaa"
  challengeToken := "token-" ++ suffix
  confirmationPhrase := "DOI_SOAT p-aa"
  procedureAuthorityId := none
  externalAuthority := none
  reviewerDigest := some reviewer
  reviewerAlive := true
  now := some 119
  monotonicNow := some 119
  executionId := "execution-" ++ suffix
  attestationId := "attestation-" ++ suffix

def confirmed (suffix : String) : List Action :=
  [.createChallenge (createRequest suffix), .consume (consumeRequest suffix)]

def runActions (actions : List Action) : World := actions.foldl (World.step planRuntime) {}

def started (runId : String) (actions : List Action) : List Action :=
  actions ++ ((runActions actions).consumptions.getLast?.map Consumption.result).toList.map fun consumed =>
    .startRun consumed (some fun _ => true) runId

def deleted (attemptId : String) : List Action :=
  [.beginTarget attemptId, .verified { byteSize := 1, sha256 := "x", volumeIdentityDigest := "v", fileIdentityDigest := "f" },
    .dispose, .absenceVerified]

theorem runActions_reachable (actions : List Action) : Reachable (system planRuntime) (runActions actions) :=
  reachable_foldl actions (.init rfl)

end Sample

end PduExamObserver.M1R1
