import PduExamObserver.Library.Growth
import PduExamObserver.M1R1.Ledger
import PduExamObserver.M1R1.Sealed

/-! # What the operations of the store leave alone

The operations that are not part of the reconciliation add targets and rows for new withdrawals, and touch none of
the reconciliation's own tables. -/

namespace PduExamObserver.M1R1
open M1 Table Transition M1Backend
set_option autoImplicit false

variable {rt : Runtime} {store store' : Store} {intent : ArtifactIntent} {payload : List UInt8}

def AllSealed (store : Store) (participantId : String) : Prop :=
  ∀ row ∈ store.writeIntents, row.sessionId ∈ store.ledger.sessionIdsOf participantId → row.status = .sealed

structure FreshTarget (before after : Database) (targets : List ReconciliationTarget) (row : TaskTarget) : Prop where
  state : row.state = .pendingConfirmation
  stateVersion : row.stateVersion = 0
  opened : ¬ Withdrawn before row.participantId
  receipt : ∃ receipt ∈ after.withdrawalReceipts, receipt.id = row.withdrawalReceiptId ∧
    receipt.participantId = row.participantId
  target : ∃ target ∈ targets, target.id = row.targetId ∧ target.targetKind = row.targetKind
  artifact : ∃ artifact ∈ after.artifactRegistry, artifact.id = row.artifactId

structure StoreEffect (rt : Runtime) (store store' : Store) : Prop where
  ledgerOk : LedgerOk rt.toRuntime store'.ledger
  ledger : LedgerStep store.ledger store'.ledger
  others : store' = { store with
    ledger := store'.ledger, manifests := store'.manifests, writeIntents := store'.writeIntents
    targets := store'.targets, taskTargets := store'.taskTargets, files := store'.files }
  manifests : Grows ArtifactManifest.Clash Eq (fun _ => True) store.manifests store'.manifests
  targets : Grows ReconciliationTarget.Clash Eq (fun _ => True) store.targets store'.targets
  taskTargets : Grows TaskTarget.Clash Eq (FreshTarget store.ledger store'.ledger store.targets) store.taskTargets
    store'.taskTargets
  sealed : ∀ id, Withdrawn store.ledger id → AllSealed store id → AllSealed store' id

theorem StoreEffect.refl (h : LedgerOk rt.toRuntime store.ledger) : StoreEffect rt store store where
  ledgerOk := h
  ledger := LedgerStep.refl _
  others := rfl
  manifests := .refl _
  targets := .refl _
  taskTargets := .refl _
  sealed _ _ hsealed := hsealed

/-! ## Withdrawals -/

variable {ledger before : Database} {targets : List ReconciliationTarget} {sessionId id intentId : String}
  {files : Files}

theorem mem_withdrawalTargets {participantId receiptId : String}
    {row : TaskTarget} (h : row ∈ withdrawalTargets ledger targets participantId receiptId) :
    row.state = .pendingConfirmation ∧ row.stateVersion = 0 ∧ row.participantId = participantId ∧
      row.withdrawalReceiptId = receiptId ∧
      (∃ target ∈ targets, target.id = row.targetId ∧ target.targetKind = row.targetKind) ∧
      ∃ artifact ∈ ledger.artifactRegistry, artifact.id = row.artifactId := by
  obtain ⟨task, -, htask⟩ := List.mem_flatMap.mp h
  split at htask
  · next subject artifact hsubject hartifact =>
    split at htask
    · obtain ⟨target, htarget, rfl⟩ := List.mem_map.mp htask
      have hmem := List.mem_of_mem_filter htarget
      have hid : artifact.id = task.artifactId := by simpa using List.find?_some hartifact
      exact ⟨rfl, rfl, rfl, rfl, ⟨target, hmem, rfl, rfl⟩, ⟨artifact, List.mem_of_find?_eq_some hartifact, hid⟩⟩
    · cases htask
  · cases htask

theorem foldlM_afterWithdrawalReceipt {receipts : List WithdrawalReceipt} {rows rows' : List TaskTarget}
    (hreceipts : ∀ receipt ∈ receipts, receipt ∈ ledger.withdrawalReceipts ∧ ¬ Withdrawn before receipt.participantId)
    (h : receipts.foldlM (afterWithdrawalReceipt ledger targets) rows = .ok rows') :
    Grows TaskTarget.Clash Eq (FreshTarget before ledger targets) rows rows' := by
  induction receipts generalizing rows with
  | nil =>
    cases h
    exact .refl _
  | cons receipt rest ih =>
    rw [List.foldlM_cons, bind_ok_iff] at h
    obtain ⟨mid, hmid, h⟩ := h
    simp only [afterWithdrawalReceipt, bind_ok_iff, require_eq_ok] at hmid
    obtain ⟨-, -, hmid⟩ := hmid
    cases hmid
    obtain ⟨hmem, hopen⟩ := hreceipts receipt (List.mem_cons_self ..)
    have hgrows : Grows TaskTarget.Clash Eq (FreshTarget before ledger targets) rows
        ((withdrawalTargets ledger targets receipt.participantId receipt.id).foldl
          (insertOrIgnore TaskTarget.Clash) rows) := by
      refine Grows.foldl_insertOrIgnore _ fun row hrow => ?_
      obtain ⟨hstate, hversion, hparticipant, hreceipt, htarget, hartifact⟩ := mem_withdrawalTargets hrow
      refine ⟨hstate, hversion, ?_, ⟨receipt, hmem, hreceipt.symm, hparticipant.symm⟩, htarget, hartifact⟩
      rw [hparticipant]
      exact hopen
    exact hgrows.trans (ih (fun other hother => hreceipts other (List.mem_cons_of_mem _ hother)) h)

theorem mapError_ok {ε ε' α : Type} {x : Except ε α} {f : ε → ε'} {a : α} (h : x.mapError f = .ok a) : x = .ok a := by
  cases x with
  | error e => cases h
  | ok b =>
    cases h
    rfl

theorem LedgerStep.written {after : Database} (hok : LedgerOk rt.toRuntime after)
    (h : LedgerStep before after) :
    ∀ receipt ∈ after.withdrawalReceipts.drop before.withdrawalReceipts.length,
      receipt ∈ after.withdrawalReceipts ∧ ¬ Withdrawn before receipt.participantId := by
  intro receipt hmem
  have hafter := List.mem_of_mem_drop hmem
  refine ⟨hafter, ?_⟩
  rcases h.newReceipts receipt hafter with hold | hnew
  · obtain ⟨new, hnew⟩ := h.receipts
    have hdrop : after.withdrawalReceipts.drop before.withdrawalReceipts.length = new := by
      rw [← hnew, List.drop_left]
    rw [hdrop] at hmem
    have hkeyed := hok.receipts
    rw [Keyed, ← hnew, List.map_append, List.nodup_append] at hkeyed
    exact absurd rfl (hkeyed.2.2 _ (List.mem_map_of_mem hold) _ (List.mem_map_of_mem hmem))
  · exact hnew

theorem backend_effect {clock : Clock} {action : M1Action} (hok : LedgerOk rt.toRuntime store.ledger)
    (h : backend rt clock store action = .ok store') : StoreEffect rt store store' := by
  unfold backend at h
  split at h
  · cases h
  · cases h
  · simp only [bind_ok_iff] at h
    obtain ⟨ledger, hledger, taskTargets, hrows, h⟩ := h
    cases h
    have hcommits : Commits rt.toRuntime anyConsent store.ledger ledger :=
      M1Action.run_commits (confirms_anyConsent _ _) (mapError_ok hledger)
    obtain ⟨hok', hstep⟩ := hok.commits hcommits
    refine ⟨hok', hstep, rfl, .refl _, .refl _, foldlM_afterWithdrawalReceipt (hstep.written hok') hrows, ?_⟩
    intro id hw hsealed row hrow howned
    rw [hstep.sessionIds id hw] at howned
    exact hsealed row hrow howned

/-! ## Artifacts -/

theorem registerExternalTarget_effect {artifactId exportId manifestSha256 : String}
    (hok : LedgerOk rt.toRuntime store.ledger)
    (h : registerExternalTarget rt store artifactId exportId manifestSha256 = .ok store') :
    StoreEffect rt store store' := by
  simp only [registerExternalTarget, bind_ok_iff] at h
  obtain ⟨-, -, -, -, manifest, -, -, -, actual, -, -, -, persisted, -, -, -, h⟩ := h
  cases h
  refine ⟨hok, LedgerStep.refl _, rfl, .refl _, ?_, .refl _, fun _ _ hsealed => hsealed⟩
  dsimp only
  exact Grows.insertOrIgnore trivial

theorem requireMutableRetained_research {db : Database}
    (h : requireMutableRetained db sessionId = .ok ()) : requireMutableResearch db sessionId = .ok () := by
  simp only [requireMutableRetained, bind_ok_iff, orError_eq_ok, require_eq_ok] at h
  obtain ⟨session, hsession, participant, hparticipant, -, hopen, -⟩ := h
  simp only [requireMutableResearch, bind_ok_iff, orError_eq_ok, require_eq_ok]
  exact ⟨session, hsession, participant, hparticipant, hopen⟩

theorem quiet_auditEvents (db : Database) (auditEvents : List AuditEvent) : Quiet db { db with auditEvents } :=
  { Quiet.refl db with }

theorem commitSeal_effect {manifest : ArtifactManifest} (hok : LedgerOk rt.toRuntime store.ledger)
    (h : commitSeal rt store intent manifest = .ok store') :
    LedgerOk rt.toRuntime store'.ledger ∧ LedgerStep store.ledger store'.ledger ∧
      store' = { store with
        ledger := store'.ledger, manifests := store'.manifests, targets := store'.targets
        writeIntents := update (fun row => row.id = intent.intentId) (fun row => { row with status := .sealed })
          store.writeIntents } ∧
      Grows ArtifactManifest.Clash Eq (fun _ => True) store.manifests store'.manifests ∧
      Grows ReconciliationTarget.Clash Eq (fun _ => True) store.targets store'.targets := by
  simp only [commitSeal, requireValidParents, bind_ok_iff, require_eq_ok] at h
  obtain ⟨⟨⟩, hmutable, -, ⟨-, hparents, -⟩, artifactRegistry, hregistry, manifests, hmanifests, targets, htargets,
    dependencies, hdependencies, ⟨ledger, published⟩, hevent, auditEvents, -, h⟩ := h
  cases h
  obtain ⟨hfree, rfl⟩ := insert_eq_ok.mp hregistry
  rw [foldlM_insert_eq_ok (fun parent => (parent, intent.artifactId)) _ hdependencies] at hevent
  have hchange : Change rt.toRuntime anyConsent store.ledger _ :=
    .artifact intent.artifactId intent.sessionId intent.parentIds (requireMutableRetained_research hmutable) hparents
      hfree
  have hquiet : Quiet _ ledger := event_quiet (mapError_ok hevent)
  obtain ⟨hok', hstep⟩ := hok.commits ⟨_, hchange, hquiet.trans (quiet_auditEvents ledger auditEvents)⟩
  refine ⟨hok', hstep, rfl, Grows.insert_ok hmanifests trivial, ?_⟩
  simp only [registerLocalTarget, bind_ok_iff] at htargets
  obtain ⟨path, -, binding, -, htargets⟩ := htargets
  exact Grows.insert_ok htargets trivial

/-! ## Intents -/

def IntentsKept (store store' : Store) : Prop :=
  ∀ row ∈ store'.writeIntents, ∃ old ∈ store.writeIntents, old.sessionId = row.sessionId ∧
    (old.status = .sealed → row.status = .sealed)

theorem AllSealed.kept (hintents : IntentsKept store store')
    (hids : store'.ledger.sessionIdsOf id = store.ledger.sessionIdsOf id) (h : AllSealed store id) :
    AllSealed store' id := by
  intro row hrow howned
  obtain ⟨old, hold, hsession, hstatus⟩ := hintents row hrow
  rw [hids, ← hsession] at howned
  exact hstatus (h old hold howned)

theorem intentsKept_update {p : WriteIntent → Prop} [DecidablePred p] {f : WriteIntent → WriteIntent}
    (hsession : ∀ row, (f row).sessionId = row.sessionId)
    (hstatus : ∀ row, p row → row.status = .sealed → (f row).status = .sealed)
    (h : store'.writeIntents = update p f store.writeIntents) : IntentsKept store store' := by
  intro row hrow
  rw [h] at hrow
  obtain ⟨old, hold, rfl⟩ := mem_update.mp hrow
  refine ⟨old, hold, ?_⟩
  split
  · next hp => exact ⟨(hsession old).symm, hstatus old hp⟩
  · exact ⟨rfl, id⟩

theorem IntentsKept.refl (h : store'.writeIntents = store.writeIntents) : IntentsKept store store' := by
  intro row hrow
  rw [h] at hrow
  exact ⟨row, hrow, rfl, id⟩

theorem recordFailure_kept {status : IntentStatus}
    (h : store'.writeIntents = (recordFailure store intentId status).writeIntents) : IntentsKept store store' := by
  refine intentsKept_update (f := fun row => { row with status }) (fun _ => rfl) (fun row hrow hsealed => ?_) h
  rw [hrow.2] at hsealed
  cases hsealed

theorem markFailed_others (store : Store) (intentId artifactId : String) (cleanup : Cleanup) :
    ∃ writeIntents files, markFailed store intentId artifactId cleanup = { store with writeIntents, files } ∧
      IntentsKept store (markFailed store intentId artifactId cleanup) := by
  cases cleanup with
  | done => exact ⟨_, _, rfl, recordFailure_kept rfl⟩
  | firstFails => exact ⟨_, _, rfl, recordFailure_kept rfl⟩
  | secondFails => exact ⟨_, _, rfl, recordFailure_kept rfl⟩
  | dies moves => exact ⟨_, _, rfl, IntentsKept.refl rfl⟩

theorem storeEffect_of_files {writeIntents : List WriteIntent} (hok : LedgerOk rt.toRuntime store.ledger)
    (hsealed : ∀ id, Withdrawn store.ledger id → AllSealed store id → AllSealed { store with writeIntents, files } id) :
    StoreEffect rt store { store with writeIntents, files } :=
  ⟨hok, LedgerStep.refl _, rfl, .refl _, .refl _, .refl _, hsealed⟩

theorem sealArtifact_others (rt : Runtime) (store : Store) (intent : ArtifactIntent) (payload : List UInt8)
    (fault : Fault) (cleanup : Cleanup) :
    (∃ writeIntents files, sealArtifact rt store intent payload fault cleanup = { store with writeIntents, files } ∧
      IntentsKept store (sealArtifact rt store intent payload fault cleanup)) ∨
    commitSeal rt (renamedStore store intent payload) intent (sealedManifest rt intent payload) =
      .ok (sealArtifact rt store intent payload fault cleanup) := by
  refine @sealArtifact_rule rt store intent payload
    (fun after => ∃ writeIntents files, after = { store with writeIntents, files } ∧ IntentsKept store after)
    (fun stage cleanup => ?_) fault cleanup
  obtain ⟨writeIntents, files, heq, hkept⟩ := markFailed_others
    { store with files := filesAt store.files intent.artifactId payload stage } intent.intentId intent.artifactId cleanup
  exact ⟨writeIntents, files, heq, hkept⟩

theorem AllSealed.withIntent (hwf : Wellformed store.ledger)
    (hmutable : requireMutableRetained store.ledger intent.sessionId = .ok ()) (hw : Withdrawn store.ledger id)
    (h : AllSealed store id) : AllSealed (withIntent rt store intent payload) id := by
  intro row hrow howned
  rcases List.mem_append.mp hrow with hrow | hrow
  · exact h row hrow howned
  · obtain rfl := List.mem_singleton.mp hrow
    exact absurd howned (mutable_not_withdrawn hwf (requireMutableRetained_research hmutable) hw)

theorem persist_effect {source : Option (List UInt8)} {fault : Fault} {cleanup : Cleanup}
    (hok : LedgerOk rt.toRuntime store.ledger) (h : persist rt store intent source fault cleanup = .ok store') :
    StoreEffect rt store store' := by
  rcases persist_cases h with rfl | ⟨payload, hmutable, -, -, rfl⟩
  · exact StoreEffect.refl hok
  · have hcreated {id : String} (hw : Withdrawn store.ledger id) (hsealed : AllSealed store id) :
        AllSealed (withIntent rt store intent payload) id := hsealed.withIntent hok.wellformed hmutable hw
    rcases sealArtifact_others rt (withIntent rt store intent payload) intent payload fault cleanup with
      ⟨writeIntents, files, heq, hkept⟩ | hcommit
    · rw [heq] at hkept ⊢
      refine storeEffect_of_files hok fun id hw hsealed => ?_
      exact (hcreated hw hsealed).kept hkept rfl
    · have hledger : LedgerOk rt.toRuntime (renamedStore (withIntent rt store intent payload) intent payload).ledger :=
        hok
      obtain ⟨hok', hstep, heq, hmanifests, htargets⟩ := commitSeal_effect hledger hcommit
      refine ⟨hok', hstep, ?_, hmanifests, htargets, ?_, ?_⟩
      · rw [heq]
        rfl
      · rw [heq]
        exact .refl _
      · intro id hw hsealed
        refine (hcreated hw hsealed).kept ?_ (hstep.sessionIds id hw)
        rw [heq]
        exact intentsKept_update (f := fun row => { row with status := .sealed }) (fun _ => rfl) (fun _ _ _ => rfl) rfl

/-! ## Recovery -/

theorem terminalizeRecovery_effect (hok : LedgerOk rt.toRuntime store.ledger)
    (h : terminalizeRecovery store intentId sessionId = .ok store') : StoreEffect rt store store' := by
  have hkept : ∀ other : Store, other.writeIntents =
      update (fun row : WriteIntent => row.id = intentId ∧ (row.status = .pending ∨ row.status = .failed))
        (fun row => { row with status := .quarantined }) store.writeIntents → IntentsKept store other := by
    intro other hother
    refine intentsKept_update (f := fun row => { row with status := .quarantined }) (fun _ => rfl) ?_ hother
    rintro row ⟨-, hpending | hfailed⟩ hsealed
    · rw [hpending] at hsealed
      cases hsealed
    · rw [hfailed] at hsealed
      cases hsealed
  unfold terminalizeRecovery at h
  simp only at h
  split at h
  · cases h
    exact storeEffect_of_files hok fun id _ hsealed => hsealed.kept (hkept _ rfl) rfl
  · next session hsession =>
    split at h
    · cases h
      exact storeEffect_of_files hok fun id _ hsealed => hsealed.kept (hkept _ rfl) rfl
    · next hopen =>
      simp only [bind_ok_iff] at h
      obtain ⟨⟨ledger, published⟩, hevent, auditEvents, -, h⟩ := h
      cases h
      have hstate : ∀ s ∈ store.ledger.sessions, s.id = sessionId → s.state ≠ .withdrawn := by
        intro s hs hid
        have hfound := hok.wellformed.session_of_mem hs
        rw [hid] at hfound
        obtain rfl : session = s := Option.some.inj (hsession.symm.trans hfound)
        exact hopen
      obtain ⟨hfailed, hstep⟩ := hok.failSession hstate
      have hquiet : Quiet (failSession store.ledger sessionId) ledger := event_quiet (mapError_ok hevent)
      obtain ⟨hok', hstep'⟩ := hfailed.quiet (hquiet.trans (quiet_auditEvents ledger auditEvents))
      refine ⟨hok', hstep.trans hstep', rfl, .refl _, .refl _, .refl _, fun id hw hsealed => ?_⟩
      exact hsealed.kept (hkept _ rfl) ((hstep.trans hstep').sessionIds id hw)

theorem StoreEffect.of_files (h : StoreEffect rt { store with files } store') :
    StoreEffect rt store store' :=
  ⟨h.ledgerOk, h.ledger, h.others, h.manifests, h.targets, h.taskTargets, h.sealed⟩

theorem recoverIntent_effect (hok : LedgerOk rt.toRuntime store.ledger) (intentId : String) (moves : Nat)
    (commits : Bool) : StoreEffect rt store (recoverIntent store intentId moves commits) := by
  unfold recoverIntent
  split
  · exact StoreEffect.refl hok
  · next row hrow =>
    have hmoved : StoreEffect rt store { store with files := quarantineFiles store.files row.artifactId moves } :=
      storeEffect_of_files hok fun _ _ hsealed => hsealed
    simp only
    split
    · split
      · next hterminal =>
        have heffect : StoreEffect rt { store with files := quarantineFiles store.files row.artifactId moves } _ :=
          terminalizeRecovery_effect hok hterminal
        exact heffect.of_files
      · exact hmoved
    · exact hmoved

theorem sweepOrphan_effect (hok : LedgerOk rt.toRuntime store.ledger) (artifactId : String) :
    StoreEffect rt store (sweepOrphan store artifactId) := by
  unfold sweepOrphan
  split
  · exact storeEffect_of_files hok fun _ _ hsealed => hsealed
  · exact StoreEffect.refl hok

theorem StoreAction.run_effect {action : StoreAction} (hok : LedgerOk rt.toRuntime store.ledger)
    (h : action.run rt store = .ok store') : StoreEffect rt store store' := by
  cases action with
  | backend clock action => exact backend_effect hok h
  | registerExternalTarget artifactId exportId manifestSha256 => exact registerExternalTarget_effect hok h
  | persist intent source fault cleanup => exact persist_effect hok h
  | recoverIntent intentId moves commits =>
    cases h
    exact recoverIntent_effect hok intentId moves commits
  | sweepOrphan artifactId =>
    cases h
    exact sweepOrphan_effect hok artifactId

end PduExamObserver.M1R1
