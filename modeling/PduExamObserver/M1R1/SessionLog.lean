import PduExamObserver.M1.Writes
import PduExamObserver.M1R1.StoreEffects

/-! # The session log of the operational database

The transactions of every writer over one database: the ledger's backend with and without the reconciliation of version
3, the workspace's backend, and persisting and recovery, whose transactions may be apart. -/

namespace PduExamObserver.M1R1
open M1 Table Transition
set_option autoImplicit false

variable {rt : Runtime} {store store' : Store}

/-! ## The backend of the workspace -/

def reconciledState : Option String → Option SessionState
  | some "FAILED" => some .failed
  | some "WITHDRAWN" => some .withdrawn
  | some "STOPPED" => some .sealed
  | some "SEALED" => some .sealed
  | _ => none

/-- `_reconcile_runtime`; `state` is what `runtime_state` has answered. -/
def reconcileRuntime (db : Database) (sessionId : String) (state : Option String) : Except M1Error Database :=
  match reconciledState state with
  | none => .ok db
  | some target =>
    if db.sessions.any fun s => s.id = sessionId ∧ s.state = .recording then do
      let sessions := update (fun s => s.id = sessionId ∧ s.state = .recording) (fun s => { s with state := target })
        db.sessions
      let (db, _) ← M1Backend.event { db with sessions } sessionId "SessionStateChanged" [("state", .str target.value)]
      return db
    else .ok db

/-! ## Transactions -/

/-- The transaction of `_persist_locked`, with the hook `_after_manifest_insert` of the store's version. -/
def sealTransaction
    (afterManifestInsert : List ReconciliationTarget → ArtifactManifest → Except StoreError (List ReconciliationTarget))
    (store : Store) (intent : ArtifactIntent) (manifest : ArtifactManifest) : Except StoreError Store := do
  requireMutableRetained store.ledger intent.sessionId
  requireValidParents store.ledger intent.sessionId intent.parentIds
  let artifactRegistry ← insert Artifact.Clash .integrityError store.ledger.artifactRegistry
    { id := intent.artifactId, sessionId := intent.sessionId, status := .valid }
  let manifests ← insert ArtifactManifest.Clash .integrityError store.manifests manifest
  let targets ← afterManifestInsert store.targets manifest
  let artifactDependencies ← intent.parentIds.foldlM
    (fun dependencies parent => insert ArtifactDependency.Clash .integrityError dependencies (parent, intent.artifactId))
    store.ledger.artifactDependencies
  let payload : Dict := [("artifact_id", .str intent.artifactId), ("schema_version", .int 2)]
  let (ledger, _) ← (M1Backend.event { store.ledger with artifactRegistry, artifactDependencies } intent.sessionId
    "M2ArtifactSealed" payload).mapError .ledger
  let auditEvents ← insert AuditEvent.Clash .integrityError ledger.auditEvents
    { id := s!"m2-audit-{intent.intentId}", eventType := "M2_ARTIFACT_SEALED", sessionId := some intent.sessionId
      payload }
  let writeIntents := update (fun row => row.id = intent.intentId) (fun row => { row with status := .sealed })
    store.writeIntents
  return { store with ledger := { ledger with auditEvents }, manifests, targets, writeIntents }

inductive StoreVersion where
  | v2
  | v3
  deriving DecidableEq

def StoreVersion.afterManifestInsert (rt : Runtime) :
    StoreVersion → List ReconciliationTarget → ArtifactManifest → Except StoreError (List ReconciliationTarget)
  | .v2 => fun targets _ => .ok targets
  | .v3 => registerLocalTarget rt

inductive LogTransaction where
  /-- an operation of `M1Backend` -/
  | ledger (clock : Clock) (action : M1Action)
  /-- an operation of `M1R1Backend` -/
  | backend (clock : Clock) (action : M1Action)
  | reconcileRuntime (sessionId : String) (state : Option String)
  | registerExternalTarget (artifactId exportId manifestSha256 : String)
  | createIntent (intent : ArtifactIntent) (payload : List UInt8)
  | sealArtifact (version : StoreVersion) (intent : ArtifactIntent) (manifest : ArtifactManifest)
  /-- the update at the end of `_mark_failed` -/
  | recordFailure (intentId : String) (status : IntentStatus)
  | terminalizeRecovery (intentId sessionId : String)

def LogTransaction.run (rt : Runtime) (store : Store) : LogTransaction → Except StoreError Store
  | .ledger clock action => do
    let ledger ← (action.run rt.toRuntime clock store.ledger).mapError .ledger
    return { store with ledger }
  | .backend clock action => M1R1.backend rt clock store action
  | .reconcileRuntime sessionId state => do
    let ledger ← (M1R1.reconcileRuntime store.ledger sessionId state).mapError .ledger
    return { store with ledger }
  | .registerExternalTarget artifactId exportId manifestSha256 =>
    M1R1.registerExternalTarget rt store artifactId exportId manifestSha256
  | .createIntent intent payload => do
    let created ← M1R1.createIntent rt store intent payload
    return created.getD store
  | .sealArtifact version intent manifest => sealTransaction (version.afterManifestInsert rt) store intent manifest
  | .recordFailure intentId status => .ok (M1R1.recordFailure store intentId status)
  | .terminalizeRecovery intentId sessionId => M1R1.terminalizeRecovery store intentId sessionId

def logStep (rt : Runtime) (store : Store) (transaction : LogTransaction) : Store :=
  match transaction.run rt store with
  | .ok store => store
  | .error _ => store

def logSystem (rt : Runtime) : System Store LogTransaction := ofFun (fun store => store = {}) (logStep rt)

/-! ## What the transactions keep -/

theorem reconcileRuntime_gapless {db db' : Database} {sessionId : String} {state : Option String} (h : Gapless db)
    (hrun : reconcileRuntime db sessionId state = .ok db') : Gapless db' := by
  unfold reconcileRuntime at hrun
  split at hrun
  · cases hrun
    exact h
  · next target htarget =>
    split at hrun
    · simp only [bind_ok_iff, pure_eq_ok] at hrun
      obtain ⟨⟨moved, published⟩, hevent, rfl⟩ := hrun
      refine h.sameEvent hevent ?_ rfl
      apply counter_update
      intro s
      rfl
    · cases hrun
      exact h

theorem backend_gapless {clock : Clock} {action : M1Action} (h : Gapless store.ledger)
    (hrun : backend rt clock store action = .ok store') : Gapless store'.ledger := by
  unfold backend at hrun
  split at hrun
  · cases hrun
  · cases hrun
  · simp only [bind_ok_iff, pure_eq_ok] at hrun
    obtain ⟨ledger, hledger, taskTargets, -, rfl⟩ := hrun
    exact h.action (mapError_ok hledger)

theorem registerExternalTarget_ledger {artifactId exportId manifestSha256 : String}
    (hrun : registerExternalTarget rt store artifactId exportId manifestSha256 = .ok store') :
    store'.ledger = store.ledger := by
  simp only [registerExternalTarget, bind_ok_iff, pure_eq_ok] at hrun
  obtain ⟨_, -, _, -, manifest, -, artifact, -, actual, -, _, -, persisted, -, _, -, rfl⟩ := hrun
  rfl

theorem createIntent_ledger {intent : ArtifactIntent} {payload : List UInt8} {created : Option Store}
    (hrun : createIntent rt store intent payload = .ok created) : (created.getD store).ledger = store.ledger := by
  unfold createIntent at hrun
  dsimp only at hrun
  split at hrun
  · split at hrun
    · cases hrun
    · split at hrun
      · cases hrun
        rfl
      · cases hrun
  · simp only [bind_ok_iff, pure_eq_ok] at hrun
    obtain ⟨_, -, _, -, _, -, writeIntents, -, rfl⟩ := hrun
    rfl

theorem sealTransaction_gapless
    {afterManifestInsert : List ReconciliationTarget → ArtifactManifest → Except StoreError (List ReconciliationTarget)}
    {intent : ArtifactIntent} {manifest : ArtifactManifest} (h : Gapless store.ledger)
    (hrun : sealTransaction afterManifestInsert store intent manifest = .ok store') : Gapless store'.ledger := by
  simp only [sealTransaction, bind_ok_iff, pure_eq_ok] at hrun
  obtain ⟨_, -, _, -, registry, -, manifests, -, targets, -, dependencies, -, ⟨ledger, published⟩, hevent, audits, -,
    rfl⟩ := hrun
  have hlogged : Gapless ledger := h.sameEvent (mapError_ok hevent) rfl rfl
  exact hlogged.same rfl rfl

theorem terminalizeRecovery_gapless {intentId sessionId : String} (h : Gapless store.ledger)
    (hrun : terminalizeRecovery store intentId sessionId = .ok store') : Gapless store'.ledger := by
  unfold terminalizeRecovery at hrun
  dsimp only at hrun
  split at hrun
  · cases hrun
    exact h
  · split at hrun
    · cases hrun
      exact h
    · simp only [bind_ok_iff, pure_eq_ok] at hrun
      obtain ⟨⟨ledger, published⟩, hevent, audits, -, rfl⟩ := hrun
      have hlogged : Gapless ledger := by
        refine h.sameEvent (mapError_ok hevent) ?_ rfl
        apply counter_update
        intro s
        rfl
      exact hlogged.same rfl rfl

theorem LogTransaction.run_gapless {transaction : LogTransaction} (h : Gapless store.ledger)
    (hrun : transaction.run rt store = .ok store') : Gapless store'.ledger := by
  cases transaction with
  | ledger clock action =>
    simp only [LogTransaction.run, bind_ok_iff, pure_eq_ok] at hrun
    obtain ⟨ledger, hledger, rfl⟩ := hrun
    exact h.action (mapError_ok hledger)
  | backend clock action => exact backend_gapless h hrun
  | reconcileRuntime sessionId state =>
    simp only [LogTransaction.run, bind_ok_iff, pure_eq_ok] at hrun
    obtain ⟨ledger, hledger, rfl⟩ := hrun
    exact reconcileRuntime_gapless h (mapError_ok hledger)
  | registerExternalTarget artifactId exportId manifestSha256 =>
    rw [registerExternalTarget_ledger hrun]
    exact h
  | createIntent intent payload =>
    simp only [LogTransaction.run, bind_ok_iff, pure_eq_ok] at hrun
    obtain ⟨created, hcreated, rfl⟩ := hrun
    rw [createIntent_ledger hcreated]
    exact h
  | sealArtifact version intent manifest => exact sealTransaction_gapless h hrun
  | recordFailure intentId status =>
    cases hrun
    exact h
  | terminalizeRecovery intentId sessionId => exact terminalizeRecovery_gapless h hrun

/-- In every state of every interleaving the events of a session have the numbers from 1 up to its counter, in the
order in which they were inserted, and there is no event without a session. -/
theorem session_log_gapless (rt : Runtime) (store : Store) (h : Reachable (logSystem rt) store) :
    (∀ session ∈ store.ledger.sessions,
      store.ledger.eventSeqs session.id = List.range' 1 session.eventSeq) ∧
    ∀ e ∈ store.ledger.sessionEvents, ∃ session ∈ store.ledger.sessions, session.id = e.sessionId := by
  have hgapless : Gapless store.ledger := by
    refine h.invariant (I := fun store => Gapless store.ledger) ?_ ?_
    · rintro _ rfl
      exact .empty
    · rintro store transaction _ hstore - rfl
      unfold logStep
      split
      · next hrun => exact transaction.run_gapless hstore hrun
      · exact hstore
  exact ⟨hgapless.numbered, hgapless.referred⟩

namespace Sample

def logged : List LogTransaction :=
  M1.twoSessionsRun.map (fun (clock, action) => .backend clock action) ++
    [.ledger M1.noon (.appendEvent "research-aaa" "DemoEvent" []),
      .createIntent (fixture "intent" "artifact") [120],
      .sealArtifact .v3 (fixture "intent" "artifact") ((fixture "intent" "artifact").manifest 1 "x"),
      .sealArtifact .v2 (fixture "intent" "artifact") ((fixture "intent" "artifact").manifest 1 "x"),
      .terminalizeRecovery "intent" "research-aaa"]

end Sample

theorem session_log_gapless_sample :
    ∃ session ∈ (Sample.logged.foldl (logStep Sample.runtime) {}).ledger.sessions, session.eventSeq = 3 ∧
      (Sample.logged.foldl (logStep Sample.runtime) {}).ledger.eventSeqs session.id =
        List.range' 1 session.eventSeq := by
  have hsample : ∃ session ∈ (Sample.logged.foldl (logStep Sample.runtime) {}).ledger.sessions,
      session.eventSeq = 3 := by decide +kernel
  obtain ⟨session, hmem, hseq⟩ := hsample
  have hreach : Reachable (logSystem Sample.runtime) (Sample.logged.foldl (logStep Sample.runtime) {}) :=
    reachable_foldl Sample.logged (.init rfl)
  exact ⟨session, hmem, hseq, (session_log_gapless Sample.runtime _ hreach).1 session hmem⟩

end PduExamObserver.M1R1
