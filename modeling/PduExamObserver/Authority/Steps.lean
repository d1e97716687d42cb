import PduExamObserver.Authority.Leaves

/-! # What each operation can do

One statement for each operation: the fields it may change, the leaf it may write, and what it takes for
the changes that matter. -/

namespace PduExamObserver.Authority
set_option autoImplicit false

variable {hash : Sha256} {env : Environment} {persistence : CanonicalAuthorityPersistence}
  {session : MutationSession} {lifecycle : Lifecycle} {store : Store}

theorem epochDigest_isHex (hash : Sha256) (lifecycle : Lifecycle) : isHexDigest (lifecycle.epochDigest hash) = true :=
  hash.digest _

theorem update_other {leaf other : AuthorityLeaf} {value : Option Bytes} (h : other ≠ leaf) :
    Function.update store leaf value other = store other :=
  Function.update_of_ne h _ _

theorem update_same {leaf : AuthorityLeaf} {value : Option Bytes} :
    Function.update store leaf value leaf = value :=
  Function.update_self _ _ _

/-! ## `prepare` -/

/-- What `prepare` may do, or one of its stages from `prior` on. -/
structure Prepares (hash : Sha256) (lifecycle : Lifecycle) (store : Store) (prior : Option Bytes)
    (ran : Ran PersistenceOutcome) : Prop where
  lifecycle : ∃ approved pending prepared state live, ran.lifecycle = { lifecycle with
    approvedRp2 := approved, pending, prepared, state, livePrepared := live } ∧
      (live = true → lifecycle.livePrepared = true)
  others : ∀ leaf, leaf ≠ .prepared → ran.store leaf = store leaf
  moves : Moves hash .prepared prior (ran.store .prepared)

theorem Prepares.same (hash : Sha256) (lifecycle : Lifecycle) (store : Store) (state : CanonicalLifecycleState)
    (approved : Option ApprovedRP2Triple) (result : Call PersistenceOutcome) :
    Prepares hash lifecycle store (store .prepared)
      ⟨{ lifecycle with state, approvedRp2 := approved }, store, result⟩ :=
  ⟨⟨_, _, _, _, _, rfl, id⟩, fun _ _ => rfl, .refl⟩

theorem Prepares.trans {prior : Option Bytes} {first second : Ran PersistenceOutcome}
    (h : Prepares hash lifecycle store prior first)
    (h' : Prepares hash first.lifecycle first.store (first.store .prepared) second) :
    Prepares hash lifecycle store prior second := by
  obtain ⟨_, _, _, _, live, hl, hlive⟩ := h.lifecycle
  obtain ⟨approved, pending, prepared, state, live', hl', hlive'⟩ := h'.lifecycle
  refine ⟨⟨approved, pending, prepared, state, live', by rw [hl', hl], fun hlive'' => hlive ?_⟩, ?_, ?_⟩
  · simpa only [hl] using hlive' hlive''
  · intro leaf hleaf
    rw [h'.others leaf hleaf, h.others leaf hleaf]
  · exact h.moves.trans h'.moves

theorem prepareReplace_spec (lifecycle : Lifecycle) (store : Store) {pending : Bytes}
    {attestation : PreparedBindingAttestation} (hcontract : WriteContract hash persistence)
    (hpending : IsRecord hash pending .pending) (hattestation : attestation.valid = true) :
    Prepares hash lifecycle store (store .prepared)
        (prepareReplace hash session persistence lifecycle store pending attestation) ∧
      ((prepareReplace hash session persistence lifecycle store pending attestation).result = .ok .ok →
        session.parentDurable 1 = .ok .verified) := by
  refine ⟨⟨?_, ?_, ?_⟩, fun h => postWrite_durable (afterWrite_ok h).2.1⟩
  · refine afterWrite_rule (P := fun after => ∃ approved pending prepared state live, after = { lifecycle with
      approvedRp2 := approved, pending, prepared, state, livePrepared := live } ∧
        (live = true → lifecycle.livePrepared = true)) ?_ ?_ ?_ ?_ ?_
    · exact ⟨_, _, _, _, _, rfl, id⟩
    · exact ⟨_, _, _, _, _, rfl, id⟩
    · exact ⟨_, _, _, _, _, rfl, id⟩
    · exact ⟨_, _, _, _, _, rfl, id⟩
    · intro outcome
      simp only
      split
      · exact ⟨_, _, _, _, _, rfl, id⟩
      · exact ⟨_, _, _, _, _, rfl, by simp⟩
  · intro leaf hleaf
    simp only [prepareReplace, afterWrite_store]
    exact update_other hleaf
  · simp only [prepareReplace, afterWrite_store, update_same]
    exact (hcontract.casExact _ _ _ _).moves
      (.prepared hpending ⟨_, prepared_reads hattestation (epochDigest_isHex hash lifecycle)⟩)

theorem prepareAttest_spec (lifecycle : Lifecycle) (store : Store) {pending : Bytes}
    {approved : ApprovedRP2Triple} (hcontract : WriteContract hash persistence)
    (hpending : IsRecord hash pending .pending) :
    Prepares hash lifecycle store (store .prepared)
        (prepareAttest hash session persistence lifecycle store pending approved) ∧
      ((prepareAttest hash session persistence lifecycle store pending approved).result = .ok .ok →
        session.parentDurable 1 = .ok .verified) := by
  have hstays : ∀ result : Call PersistenceOutcome, Prepares hash lifecycle store (store .prepared)
      ⟨lifecycle, store, result⟩ := Prepares.same hash lifecycle store lifecycle.state lifecycle.approvedRp2
  unfold prepareAttest
  split
  · exact ⟨hstays _, by simp⟩
  · exact ⟨hstays _, by simp⟩
  · next attestation _ =>
    split
    · next hvalid =>
      simp only [Bool.and_eq_true] at hvalid
      split
      · exact ⟨hstays _, by simp⟩
      · exact prepareReplace_spec lifecycle store hcontract hpending hvalid.1.1.1
      · exact ⟨hstays _, by simp⟩
    · exact ⟨hstays _, by simp⟩

/-- What it takes for `prepare` to succeed. -/
def CanPrepare (session : MutationSession) (store : Store) : Prop :=
  store .prepared = none ∧ ∀ j ≤ 1, session.parentDurable j = .ok .verified

theorem prepareCreate_spec (lifecycle : Lifecycle) (store : Store) {approved : ApprovedRP2Triple}
    (hcontract : WriteContract hash persistence) (happroved : approved.valid = true) :
    Prepares hash lifecycle store (store .prepared)
        (prepareCreate hash session persistence lifecycle store approved) ∧
      ((prepareCreate hash session persistence lifecycle store approved).result = .ok .ok →
        CanPrepare session store) := by
  have hpending : IsRecord hash (record .pending (pendingValues approved (lifecycle.epochDigest hash))) .pending :=
    ⟨_, pending_reads happroved (epochDigest_isHex hash lifecycle)⟩
  unfold prepareCreate
  simp only
  generalize record .pending (pendingValues approved (lifecycle.epochDigest hash)) = pending at hpending ⊢
  have hwritten := hcontract.createExact .prepared (store .prepared) pending
  generalize persistence.createExact .prepared (store .prepared) pending = written at hwritten ⊢
  generalize hran : afterWrite session 0 lifecycle _ _ _ _ pending _ = ran
  have hfirst : Prepares hash lifecycle store (store .prepared) ran := by
    rw [← hran]
    refine ⟨?_, ?_, ?_⟩
    · refine afterWrite_rule (P := fun after => ∃ approved pending prepared state live, after = { lifecycle with
        approvedRp2 := approved, pending, prepared, state, livePrepared := live } ∧
          (live = true → lifecycle.livePrepared = true)) ?_ ?_ ?_ ?_ fun _ => ?_
      all_goals exact ⟨_, _, _, _, _, rfl, id⟩
    · intro leaf hleaf
      rw [afterWrite_store]
      exact update_other hleaf
    · rw [afterWrite_store, update_same]
      exact hwritten.moves (.pending hpending)
  split
  · next hok =>
    rw [← hran] at hok
    obtain ⟨haccepted, hpost, -⟩ := afterWrite_ok hok
    obtain ⟨hsecond, hdurable⟩ : _ ∧ ((prepareAttest hash session persistence ran.lifecycle ran.store pending
        approved).result = .ok .ok → _) := prepareAttest_spec ran.lifecycle ran.store hcontract hpending
    refine ⟨hfirst.trans hsecond, fun h => ⟨(hwritten.accepted haccepted).1, fun j hj => ?_⟩⟩
    obtain rfl | rfl : j = 0 ∨ j = 1 := by omega
    · exact postWrite_durable hpost
    · exact hdurable h
  · next hne => exact ⟨hfirst, fun h => absurd h hne⟩

theorem prepareBody_spec (lifecycle : Lifecycle) (store : Store) (session : MutationSession)
    (hcontract : WriteContract hash persistence) :
    Prepares hash lifecycle store (store .prepared) (prepareBody hash persistence lifecycle store session) ∧
      ((prepareBody hash persistence lifecycle store session).result = .ok .ok → CanPrepare session store) := by
  have hstays : ∀ state (outcome : Call PersistenceOutcome), Prepares hash lifecycle store (store .prepared)
      ⟨{ lifecycle with state }, store, outcome⟩ := fun state =>
    Prepares.same hash lifecycle store state lifecycle.approvedRp2
  unfold prepareBody
  split
  · exact ⟨hstays lifecycle.state _, by simp⟩
  · split
    · exact ⟨hstays _ _, by simp⟩
    · split
      · exact ⟨hstays _ _, by simp⟩
      · split
        · exact ⟨hstays lifecycle.state _, by simp⟩
        · exact ⟨hstays lifecycle.state _, by simp⟩
        · next approved _ =>
          split
          · next hvalid =>
            obtain ⟨hcreate, hcan⟩ : _ ∧ ((prepareCreate hash session persistence { lifecycle with
                approvedRp2 := some approved } store approved).result = .ok .ok → _) :=
              prepareCreate_spec _ store hcontract hvalid
            exact ⟨(Prepares.same hash lifecycle store lifecycle.state (some approved) (.ok .ok)).trans hcreate,
              hcan⟩
          · exact ⟨hstays lifecycle.state _, by simp⟩

/-- `prepare` acts only on an absent state, and the instance is live only after a successful one. -/
structure PrepareSpec (hash : Sha256) (env : Environment) (lifecycle : Lifecycle) (store : Store)
    (ran : Ran PersistenceOutcome) : Prop where
  lifecycle : ∃ approved pending prepared state live, ran.lifecycle = { lifecycle with
    approvedRp2 := approved, pending, prepared, state, livePrepared := live } ∧
      (live = true → lifecycle.livePrepared = true ∨
        ran.result = .ok .ok ∧ state = .prepared ∧ store .prepared = none ∧ Durable env 1)
  others : ∀ leaf, leaf ≠ .prepared → ran.store leaf = store leaf
  moves : Moves hash .prepared (store .prepared) (ran.store .prepared)

theorem Prepares.spec {ran : Ran PersistenceOutcome} (h : Prepares hash lifecycle store (store .prepared) ran) :
    PrepareSpec hash env lifecycle store ran := by
  obtain ⟨_, _, _, _, _, hl, hlive⟩ := h.lifecycle
  exact ⟨⟨_, _, _, _, _, hl, fun h => .inl (hlive h)⟩, h.others, h.moves⟩

theorem prepare_spec (lifecycle : Lifecycle) (store : Store) (hcontract : WriteContract hash env.persistence) :
    prepare hash env lifecycle store = ⟨lifecycle, store, .ok .inputInvalid⟩ ∨
      lifecycle.state = .absent ∧ PrepareSpec hash env lifecycle store (prepare hash env lifecycle store) := by
  unfold prepare
  split
  · exact .inl rfl
  · next hstate =>
    refine .inr ⟨not_not.mp hstate, ?_⟩
    have hbody := fun session => prepareBody_spec lifecycle store session hcontract
    have hend := mutation_end env lifecycle store (prepareBody hash env.persistence lifecycle store) prepareSettle
    generalize mutation env lifecycle store _ prepareSettle = ran at hend ⊢
    cases hend with
    | refused result => exact (Prepares.same hash lifecycle store _ _ result).spec
    | raised session _ e =>
      have hraised : Prepares hash lifecycle store (store .prepared) ⟨_, _, .error e⟩ :=
        ⟨(hbody session).1.lifecycle, (hbody session).1.others, (hbody session).1.moves⟩
      exact hraised.spec
    | settled session hbegin a hresult report hfinish =>
      obtain ⟨hprepares, hcan⟩ := hbody session
      obtain ⟨approved, pending, prepared, state, live, hl, hlive⟩ := hprepares.lifecycle
      refine ⟨?_, hprepares.others, hprepares.moves⟩
      simp only [hl, prepareSettle]
      split
      · split
        · exact ⟨_, _, _, _, _, rfl, fun h => .inl (hlive h)⟩
        · exact ⟨_, _, _, _, _, rfl, fun h => .inl (hlive h)⟩
      · next hclean =>
        split
        · next hok =>
          obtain ⟨rfl, rfl⟩ := hok
          obtain ⟨hnone, hdurable⟩ := hcan hresult
          exact ⟨_, _, _, _, _, rfl, fun _ => .inr ⟨rfl, rfl, hnone,
            session, report, hbegin, hfinish, by simpa using hclean, hdurable⟩⟩
        · exact ⟨_, _, _, _, _, rfl, fun h => .inl (hlive h)⟩

/-! ## `consume` -/

/-- What `consume` may do: it ends in a state in which it does nothing more, or where it was. -/
structure Consumes (hash : Sha256) (lifecycle : Lifecycle) (store : Store) (ran : Ran PersistenceOutcome) :
    Prop where
  lifecycle : ∃ consumed state, ran.lifecycle = { lifecycle with consumed, state } ∧
    (state = .prepared ∨ state = .consumedNoGrant ∨ state = .stalePreparedNonlaunchable ∨ state = .presentInvalid)
  others : ∀ leaf, leaf ≠ .prepared → ran.store leaf = store leaf
  moves : Moves hash .prepared (store .prepared) (ran.store .prepared)

theorem consumeBody_spec (store : Store) (session : MutationSession) {prepared : Bytes} {get : Getter}
    (hstate : lifecycle.state = .prepared) (hcontract : WriteContract hash persistence)
    (hprepared : Reads hash prepared .prepared get) :
    Consumes hash lifecycle store (consumeBody hash persistence lifecycle store prepared get session) ∧
      ((consumeBody hash persistence lifecycle store prepared get session).result = .ok .ok →
        session.parentDurable 0 = .ok .verified) := by
  unfold consumeBody
  split
  · exact ⟨⟨⟨_, _, rfl, .inl hstate⟩, fun _ _ => rfl, .refl⟩, by simp⟩
  · split
    · exact ⟨⟨⟨_, _, rfl, by simp⟩, fun _ _ => rfl, .refl⟩, by simp⟩
    · split
      · exact ⟨⟨⟨_, _, rfl, by simp⟩, fun _ _ => rfl, .refl⟩, by simp⟩
      · have hconsumed : IsRecord hash
            (record .consumed (consumedValues hash get (lifecycle.epochDigest hash) prepared)) .consumed :=
          ⟨_, consumed_reads (hprepared.isDigest (by decide) (by decide))
            (hprepared.isDigest (by decide) (by decide)) (epochDigest_isHex hash lifecycle)⟩
        refine ⟨⟨?_, ?_, ?_⟩, fun h => postWrite_durable (afterWrite_ok h).2.1⟩
        · refine afterWrite_rule (P := fun after => ∃ consumed state, after = { lifecycle with consumed, state } ∧
            (state = .prepared ∨ state = .consumedNoGrant ∨ state = .stalePreparedNonlaunchable ∨
              state = .presentInvalid)) ⟨_, _, rfl, .inl hstate⟩ ?_ ?_ ?_ fun _ => ?_
          all_goals exact ⟨_, _, rfl, by simp⟩
        · intro leaf hleaf
          simp only [afterWrite_store]
          exact update_other hleaf
        · simp only [afterWrite_store, update_same]
          exact (hcontract.casExact _ _ _ _).moves (.consumed ⟨_, hprepared⟩ hconsumed)

def InWindow (hash : Sha256) (lifecycle : Lifecycle) (now : Int) : Prop :=
  ∃ prepared get, lifecycle.prepared = some prepared ∧ Reads hash prepared .prepared get ∧
    withinPreparedWindow get now = true

/-- `consume` acts only on a live prepared instance; the instance is live after it only if it succeeded
within the window. -/
structure ConsumeSpec (hash : Sha256) (env : Environment) (lifecycle : Lifecycle) (store : Store)
    (ran : Ran PersistenceOutcome) : Prop where
  state : lifecycle.state = .prepared
  live : lifecycle.livePrepared = true
  lifecycle : ∃ consumed state livePrepared liveConsumed, ran.lifecycle = { lifecycle with
    consumed, state, livePrepared, liveConsumed } ∧
      (state = .prepared ∨ state = .consumedNoGrant ∨ state = .stalePreparedNonlaunchable ∨
        state = .presentInvalid) ∧
      (liveConsumed = true → lifecycle.liveConsumed = true ∨
        ran.result = .ok .ok ∧ state = .consumedNoGrant ∧ InWindow hash lifecycle env.nowUnixNs ∧ Durable env 0)
  others : ∀ leaf, leaf ≠ .prepared → ran.store leaf = store leaf
  moves : Moves hash .prepared (store .prepared) (ran.store .prepared)

theorem consume_spec (lifecycle : Lifecycle) (store : Store) (hcontract : WriteContract hash env.persistence) :
    consume hash env lifecycle store = ⟨lifecycle, store, .ok .casMismatch⟩ ∨
      ConsumeSpec hash env lifecycle store (consume hash env lifecycle store) := by
  unfold consume
  split
  · exact .inl rfl
  · next prepared hprepared =>
    split
    · exact .inl rfl
    · next hactive =>
      obtain ⟨hstate, hlive⟩ : lifecycle.state = .prepared ∧ lifecycle.livePrepared = true := by
        simpa using hactive
      right
      split
      · exact ⟨hstate, hlive, ⟨_, _, _, _, rfl, by simp, .inl⟩, fun _ _ => rfl, .refl⟩
      · next fields hfields =>
        have hreads := reads_of_validatedRecordOf hfields
        split
        · next hwindow =>
          have hbody := fun session => consumeBody_spec store session hstate hcontract hreads
          have hend := mutation_end env lifecycle store
            (consumeBody hash env.persistence lifecycle store prepared (getter fields)) consumeSettle
          generalize mutation env lifecycle store _ consumeSettle = ran at hend ⊢
          cases hend with
          | refused => exact ⟨hstate, hlive, ⟨_, _, _, _, rfl, .inl hstate, .inl⟩, fun _ _ => rfl, .refl⟩
          | raised session =>
            obtain ⟨⟨⟨consumed, state, hl, hends⟩, hothers, hmoves⟩, -⟩ := hbody session
            exact ⟨hstate, hlive, ⟨_, _, _, _, hl, hends, .inl⟩, hothers, hmoves⟩
          | settled session hbegin a hresult report hfinish =>
            obtain ⟨⟨⟨consumed, state, hl, hends⟩, hothers, hmoves⟩, hdurable⟩ := hbody session
            refine ⟨hstate, hlive, ?_, hothers, hmoves⟩
            simp only [hl, consumeSettle]
            split
            · exact ⟨_, _, _, _, rfl, hends, .inl⟩
            · next hclean =>
              split
              · next hok =>
                obtain ⟨rfl, rfl⟩ := hok
                refine ⟨_, _, _, _, rfl, hends, fun _ => .inr ⟨rfl, rfl, ⟨_, _, hprepared, hreads, hwindow⟩,
                  session, report, hbegin, hfinish, by simpa using hclean, fun j hj => ?_⟩⟩
                obtain rfl : j = 0 := by omega
                exact hdurable hresult
              · exact ⟨_, _, _, _, rfl, hends, .inl⟩
        · exact ⟨hstate, hlive, ⟨_, _, _, _, rfl, by simp, .inl⟩, fun _ _ => rfl, .refl⟩

/-! ## Grants -/

structure CanonicalGrantInspection.WellFormed (grant : CanonicalGrantInspection) : Prop where
  digest : isHexDigest grant.digest = true
  issued : 0 ≤ grant.issuedMonotonicNs
  expires : grant.expiresMonotonicNs ≤ maxSignedNs
  window : grant.expiresMonotonicNs - grant.issuedMonotonicNs = workerGrantTtlNs

/-- The grant and the state that `issue_grant` leaves behind. -/
def Granted (lifecycle : Lifecycle) (grant : Option CanonicalGrantInspection) (state : CanonicalLifecycleState) :
    Prop :=
  grant = lifecycle.grant ∧ (state = lifecycle.state ∨ state = .issued ∨ state = .presentInvalid) ∨
    state = .issued ∧ ∃ issued, grant = some issued ∧ issued.WellFormed ∧ issued.used = false

/-- What the body of `issue_grant` may do. -/
structure Issues (hash : Sha256) (lifecycle : Lifecycle) (store : Store) {α : Type} (ran : Ran α) : Prop where
  lifecycle : ∃ grantRecord grant state, ran.lifecycle = { lifecycle with grantRecord, grant, state } ∧
    Granted lifecycle grant state
  others : ∀ leaf, leaf ≠ .grant → ran.store leaf = store leaf
  moves : Moves hash .grant (store .grant) (ran.store .grant)

/-- What it takes for `issue_grant` to succeed. -/
structure CanIssue (session : MutationSession) (store : Store) {α : Type} (ran : Ran α) : Prop where
  issued : ran.lifecycle.state = .issued
  absent : store .grant = none
  present : ran.store .grant ≠ none
  durable : session.parentDurable 0 = .ok .verified

theorem issueCreate_spec (lifecycle : Lifecycle) (store : Store) (session : MutationSession) (consumed : Bytes)
    (raw : List UInt8) {binding : WorkerGrantBindingAttestation} {issuedMonotonicNs : Int}
    (hcontract : WriteContract hash persistence) (hbinding : binding.valid = true)
    (hissued : 0 ≤ issuedMonotonicNs) (hexpires : issuedMonotonicNs ≤ maxSignedNs - workerGrantTtlNs) :
    Issues hash lifecycle store
        (issueCreate hash session persistence lifecycle store binding consumed issuedMonotonicNs raw) ∧
      ((issueCreate hash session persistence lifecycle store binding consumed issuedMonotonicNs raw).result =
          .ok .ok →
        CanIssue session store
          (issueCreate hash session persistence lifecycle store binding consumed issuedMonotonicNs raw)) := by
  have hdigest : isHexDigest (hash.hexdigest (.raw raw)) = true := hash.digest _
  have hrecord : IsRecord hash (record .grantIssued (issuedValues hash binding consumed
      (lifecycle.epochDigest hash) (hash.hexdigest (.raw raw)) issuedMonotonicNs)) .grantIssued :=
    ⟨_, issued_reads hbinding (epochDigest_isHex hash lifecycle) hdigest hissued hexpires⟩
  have hgrant : (⟨hash.hexdigest (.raw raw), issuedMonotonicNs, issuedMonotonicNs + workerGrantTtlNs,
      false⟩ : CanonicalGrantInspection).WellFormed :=
    ⟨hdigest, hissued, by simp only; omega, by simp only; omega⟩
  unfold issueCreate
  simp only
  generalize record .grantIssued _ = grantRecord at hrecord ⊢
  have hwritten := hcontract.createExact .grant (store .grant) grantRecord
  generalize persistence.createExact .grant (store .grant) grantRecord = written at hwritten ⊢
  refine ⟨⟨?_, ?_, ?_⟩, fun h => ?_⟩
  · refine afterWrite_rule (P := fun after => ∃ grantRecord grant state, after = { lifecycle with
      grantRecord, grant, state } ∧ Granted lifecycle grant state) ?_ ?_ ?_ ?_ fun _ => ?_
    · exact ⟨_, _, _, rfl, .inl ⟨rfl, .inl rfl⟩⟩
    · exact ⟨_, _, _, rfl, .inl ⟨rfl, .inr (.inr rfl)⟩⟩
    · exact ⟨_, _, _, rfl, .inl ⟨rfl, .inr (.inl rfl)⟩⟩
    · exact ⟨_, _, _, rfl, .inr ⟨rfl, _, rfl, hgrant, rfl⟩⟩
    · exact ⟨_, _, _, rfl, .inr ⟨rfl, _, rfl, hgrant, rfl⟩⟩
  · intro leaf hleaf
    rw [afterWrite_store]
    exact update_other hleaf
  · rw [afterWrite_store, update_same]
    exact hwritten.moves (.issued hrecord)
  · obtain ⟨haccepted, hpost, hafter⟩ := afterWrite_ok h
    obtain ⟨habsent, hleft⟩ := hwritten.accepted haccepted
    refine ⟨by rw [hafter], habsent, ?_, postWrite_durable hpost⟩
    rw [afterWrite_store, update_same, hleft]
    simp

theorem issueBody_spec (lifecycle : Lifecycle) (store : Store) (session : MutationSession) (consumed : Bytes)
    {binding : WorkerGrantBindingAttestation} (hcontract : WriteContract hash env.persistence)
    (hbinding : binding.valid = true) :
    Issues hash lifecycle store (issueBody hash env lifecycle store binding consumed session) ∧
      ∀ raw, (issueBody hash env lifecycle store binding consumed session).result = .ok (.ok, raw) →
        CanIssue session store (issueBody hash env lifecycle store binding consumed session) := by
  have hstays : ∀ result : Call (PersistenceOutcome × Option (List UInt8)),
      Issues hash lifecycle store ⟨lifecycle, store, result⟩ := fun _ =>
    ⟨⟨_, _, _, rfl, .inl ⟨rfl, .inl rfl⟩⟩, fun _ _ => rfl, .refl⟩
  unfold issueBody
  split
  · split
    · exact ⟨hstays _, by simp⟩
    · split
      · exact ⟨hstays _, by simp⟩
      · next issuedMonotonicNs _ =>
        split
        · exact ⟨hstays _, by simp⟩
        · next hclock =>
          split
          · exact ⟨hstays _, by simp⟩
          · next raw _ =>
            split
            · exact ⟨hstays _, by simp⟩
            · obtain ⟨hissues, hcan⟩ := issueCreate_spec lifecycle store session consumed raw hcontract hbinding
                (by omega : 0 ≤ issuedMonotonicNs) (by omega)
              refine ⟨⟨hissues.lifecycle, hissues.others, hissues.moves⟩, fun raw' h => ?_⟩
              obtain ⟨outcome, hresult, hok⟩ := map_ok_iff.mp h
              cases hok
              have hcan := hcan hresult
              exact ⟨hcan.issued, hcan.absent, hcan.present, hcan.durable⟩
  · exact ⟨hstays _, by simp⟩

/-- `issue_grant` acts only for a live consumed instance; the raw capability is kept only if it succeeded,
over an absent leaf. -/
structure IssueSpec (hash : Sha256) (env : Environment) (lifecycle : Lifecycle) (store : Store)
    (ran : Ran PersistenceOutcome) : Prop where
  state : lifecycle.state = .consumedNoGrant
  live : lifecycle.liveConsumed = true
  lifecycle : ∃ grantRecord grant state grantRaw, ran.lifecycle = { lifecycle with
    grantRecord, grant, state, grantRaw } ∧ Granted lifecycle grant state ∧
      (grantRaw = lifecycle.grantRaw ∨ grantRaw = none ∨ ran.result = .ok .ok ∧ state = .issued ∧
        store .grant = none ∧ ran.store .grant ≠ none ∧ Durable env 0)
  others : ∀ leaf, leaf ≠ .grant → ran.store leaf = store leaf
  moves : Moves hash .grant (store .grant) (ran.store .grant)

theorem issueAuthorized_some {binding : WorkerGrantBindingAttestation} {consumed : Bytes}
    (h : issueAuthorized hash lifecycle binding = some consumed) :
    lifecycle.consumed = some consumed ∧ binding.valid = true ∧ lifecycle.state = .consumedNoGrant ∧
      lifecycle.liveConsumed = true := by
  unfold issueAuthorized at h
  split at h
  · next hconsumed =>
    split at h
    · next hguard =>
      cases h
      exact ⟨hconsumed, hguard.1, hguard.2.2⟩
    · cases h
  · cases h

theorem issueGrant_spec (lifecycle : Lifecycle) (store : Store) (binding : WorkerGrantBindingAttestation)
    (hcontract : WriteContract hash env.persistence) :
    issueGrant hash env lifecycle store binding = ⟨lifecycle, store, .ok .grantNotAuthorized⟩ ∨
      IssueSpec hash env lifecycle store (issueGrant hash env lifecycle store binding) := by
  unfold issueGrant
  split
  · exact .inl rfl
  · next consumed hauthorized =>
    right
    obtain ⟨-, hbinding, hstate, hlive⟩ := issueAuthorized_some hauthorized
    have hbody := fun session => issueBody_spec lifecycle store session consumed hcontract hbinding
    have hend := mutation_end env lifecycle store (issueBody hash env lifecycle store binding consumed) issueSettle
    generalize mutation env lifecycle store _ issueSettle = ran at hend ⊢
    cases hend with
    | refused =>
      exact ⟨hstate, hlive, ⟨_, _, _, _, rfl, .inl ⟨rfl, .inl rfl⟩, .inl rfl⟩, fun _ _ => rfl, .refl⟩
    | raised session =>
      obtain ⟨⟨⟨grantRecord, grant, state, hl, hgranted⟩, hothers, hmoves⟩, -⟩ := hbody session
      exact ⟨hstate, hlive, ⟨_, _, _, _, hl, hgranted, .inl rfl⟩, hothers, hmoves⟩
    | settled session hbegin a hresult report hfinish =>
      obtain ⟨⟨⟨grantRecord, grant, state, hl, hgranted⟩, hothers, hmoves⟩, hcan⟩ := hbody session
      refine ⟨hstate, hlive, ?_, hothers, hmoves⟩
      simp only [issueSettle]
      split
      · exact ⟨_, _, _, _, by rw [hl], hgranted, .inr (.inl rfl)⟩
      · next hclean =>
        split
        · next hok =>
          obtain ⟨outcome, raw⟩ := a
          obtain rfl : outcome = .ok := hok
          have hissue := hcan raw hresult
          have hissued := hissue.issued
          rw [hl] at hissued
          refine ⟨_, _, _, _, by rw [hl], hgranted, .inr (.inr ⟨rfl, hissued, hissue.absent, hissue.present,
            session, report, hbegin, hfinish, by simpa using hclean, fun j hj => ?_⟩)⟩
          obtain rfl : j = 0 := by omega
          exact hissue.durable
        · exact ⟨_, _, _, _, by rw [hl], hgranted, .inr (.inl rfl)⟩

theorem takeGrantCapability_spec (lifecycle : Lifecycle) :
    takeGrantCapability lifecycle = (lifecycle, none) ∨
      ∃ raw, lifecycle.grantRaw = some raw ∧ lifecycle.state = .issued ∧ lifecycle.grantHandedOff = false ∧
        takeGrantCapability lifecycle = ({ lifecycle with grantHandedOff := true }, some raw) := by
  unfold takeGrantCapability
  split
  · exact .inl rfl
  · next raw hraw =>
    split
    · exact .inl rfl
    · next hguard =>
      right
      refine ⟨raw, hraw, ?_, ?_, rfl⟩
      · by_contra hstate
        exact hguard (.inl hstate)
      · simpa using fun h => hguard (.inr h)

/-- An instance that `authorize_grant` can still succeed on. -/
structure Authorizable (lifecycle : Lifecycle) : Prop where
  issued : lifecycle.state = .issued
  handedOff : lifecycle.grantHandedOff = true
  grant : ∃ grant, lifecycle.grant = some grant ∧ grant.used = false

theorem authorizeGrant_spec (hash : Sha256) (env : Environment) (lifecycle : Lifecycle) (presentedRaw : List UInt8) :
    (∃ result, result ≠ .ok .ok ∧ authorizeGrant hash env lifecycle presentedRaw = (lifecycle, result)) ∨
      Authorizable lifecycle ∧ ∃ grant, lifecycle.grant = some grant ∧
        authorizeGrant hash env lifecycle presentedRaw =
          ({ lifecycle with grant := some { grant with used := true } }, .ok .ok) := by
  unfold authorizeGrant
  split
  · exact .inl ⟨_, by simp, rfl⟩
  · exact .inl ⟨_, by simp, rfl⟩
  · next grant _ hgrant =>
    split
    · exact .inl ⟨_, by simp, rfl⟩
    · next hguard =>
      simp only [not_or, not_not, Bool.not_eq_false, Bool.not_eq_true] at hguard
      exact .inr ⟨⟨hguard.1, hguard.2.1, grant, hgrant, hguard.2.2.1⟩, grant, hgrant, rfl⟩

/-- What the body of `revoke_grant` may do. -/
structure Revokes (hash : Sha256) (lifecycle : Lifecycle) (store : Store) (ran : Ran PersistenceOutcome) :
    Prop where
  lifecycle : ∃ grantRecord state, ran.lifecycle = { lifecycle with grantRecord, state } ∧
    (state = .issued ∨ state = .presentInvalid ∨ state = .revokedTerminalPending ∧ grantRecord ≠ none)
  others : ∀ leaf, leaf ≠ .grant → ran.store leaf = store leaf
  moves : Moves hash .grant (store .grant) (ran.store .grant)

theorem revokeBody_spec (lifecycle : Lifecycle) (store : Store) (session : MutationSession)
    (grantRecord consumed : Bytes) {grant : CanonicalGrantInspection} (hstate : lifecycle.state = .issued)
    (hcontract : WriteContract hash persistence) (hgrant : grant.WellFormed) :
    Revokes hash lifecycle store
      (revokeBody hash persistence lifecycle store grant grantRecord consumed session) := by
  have hstays : ∀ result : Call PersistenceOutcome, Revokes hash lifecycle store ⟨lifecycle, store, result⟩ :=
    fun _ => ⟨⟨_, _, rfl, .inl hstate⟩, fun _ _ => rfl, .refl⟩
  unfold revokeBody
  split
  · exact hstays _
  · split
    · exact hstays _
    · split
      · exact hstays _
      · next issuedFields hfields =>
        have hissued := reads_of_validatedRecordOf hfields
        have hrevoked : IsRecord hash (record .grantRevoked (revokedValues hash (getter issuedFields) consumed
            (lifecycle.epochDigest hash) grant grantRecord)) .grantRevoked :=
          ⟨_, revoked_reads (hissued.isDigest (by decide) (by decide)) (hissued.isDigest (by decide) (by decide))
            (epochDigest_isHex hash lifecycle) hgrant.digest hgrant.issued hgrant.expires hgrant.window⟩
        refine ⟨?_, ?_, ?_⟩
        · refine afterWrite_rule (P := fun after => ∃ grantRecord state, after = { lifecycle with
            grantRecord, state } ∧ (state = .issued ∨ state = .presentInvalid ∨
              state = .revokedTerminalPending ∧ grantRecord ≠ none)) ⟨_, _, rfl, .inl hstate⟩ ?_ ?_ ?_ fun _ => ?_
          all_goals exact ⟨_, _, rfl, by simp⟩
        · intro leaf hleaf
          simp only [afterWrite_store]
          exact update_other hleaf
        · simp only [afterWrite_store, update_same]
          exact (hcontract.casExact _ _ _ _).moves (.revoked ⟨_, hissued⟩ hrevoked)

/-- `revoke_grant` acts only on an issued grant, and it takes the capability back whatever comes of it. -/
structure RevokeSpec (hash : Sha256) (lifecycle : Lifecycle) (store : Store) (ran : Ran PersistenceOutcome) :
    Prop where
  state : lifecycle.state = .issued
  lifecycle : ∃ grantRecord state, ran.lifecycle = { lifecycle with
    grantRaw := none, grantHandedOff := true, grantRecord, state } ∧
      (state = .issued ∨ state = .presentInvalid ∨ state = .revokedTerminalPending ∧ grantRecord ≠ none)
  others : ∀ leaf, leaf ≠ .grant → ran.store leaf = store leaf
  moves : Moves hash .grant (store .grant) (ran.store .grant)

theorem revokeGrant_spec (lifecycle : Lifecycle) (store : Store)
    (hgrant : ∀ grant, lifecycle.grant = some grant → grant.WellFormed)
    (hcontract : WriteContract hash env.persistence) :
    revokeGrant hash env lifecycle store = ⟨lifecycle, store, .ok .grantNotAuthorized⟩ ∨
      RevokeSpec hash lifecycle store (revokeGrant hash env lifecycle store) := by
  unfold revokeGrant
  split
  · next grant grantRecord consumed hgrant' _ _ =>
    split
    · exact .inl rfl
    · next hstate =>
      right
      replace hstate := not_not.mp hstate
      simp only
      generalize hcalled : ({ lifecycle with grantRaw := none, grantHandedOff := true } : Lifecycle) = called
      have hbody := fun session => revokeBody_spec called store session grantRecord consumed
        (by rw [← hcalled]; exact hstate) hcontract (hgrant grant hgrant')
      have hend := mutation_end env called store
        (revokeBody hash env.persistence called store grant grantRecord consumed) revokeSettle
      generalize mutation env called store _ revokeSettle = ran at hend ⊢
      cases hend with
      | refused =>
        rw [← hcalled]
        exact ⟨hstate, ⟨_, _, rfl, .inl hstate⟩, fun _ _ => rfl, .refl⟩
      | raised session =>
        obtain ⟨⟨grantRecord', state, hl, hends⟩, hothers, hmoves⟩ := hbody session
        exact ⟨hstate, ⟨_, _, by rw [hl, ← hcalled], hends⟩, hothers, hmoves⟩
      | settled session =>
        obtain ⟨⟨grantRecord', state, hl, hends⟩, hothers, hmoves⟩ := hbody session
        exact ⟨hstate, ⟨_, _, by rw [revokeSettle, hl, ← hcalled], hends⟩, hothers, hmoves⟩
  · exact .inl rfl

/-! ## `terminalize` -/

theorem terminalAuthorized_ok {binding : TerminalBindingAttestation} {disposition : GrantDisposition}
    {consumed : Bytes} (h : terminalAuthorized hash lifecycle binding = .ok (disposition, consumed)) :
    binding.valid hash = true ∧ lifecycle.consumed = some consumed ∧
      (disposition = .notIssued ∧ lifecycle.state = .consumedNoGrant ∨
        disposition = .revoked ∧ lifecycle.state = .revokedTerminalPending) ∧
      ∃ consumedFields, validatedRecordOf hash .consumed (some consumed) = some consumedFields ∧
        terminalReceiptMatchesLifecycle hash (getter binding.recordFields) (getter consumedFields)
          (if disposition = .revoked then lifecycle.grantRecord else none) = true := by
  unfold terminalAuthorized at h
  split at h
  · cases h
  · next hbinding =>
    split at h
    · cases h
    · simp only [bind_ok_iff, orError_eq_ok, require_eq_ok, pure_eq_ok, Prod.mk.injEq] at h
      obtain ⟨disposition, hdisposition, consumed, hconsumed, fields, hfields, -, hmatches, rfl, rfl⟩ := h
      refine ⟨by simpa using hbinding, hconsumed, ?_, fields, hfields, hmatches⟩
      split at hdisposition
      · next hstate =>
        cases hdisposition
        exact .inl ⟨rfl, hstate⟩
      · next hstate =>
        cases hdisposition
        exact .inr ⟨rfl, hstate⟩
      · cases hdisposition

theorem terminalAuthorized_error {binding : TerminalBindingAttestation} {outcome : PersistenceOutcome}
    (h : terminalAuthorized hash lifecycle binding = .error outcome) : outcome ≠ .ok := by
  rintro rfl
  unfold terminalAuthorized at h
  split at h
  · cases h
  · split at h
    · cases h
    · simp [bind_error_iff, pure, Except.pure] at h

/-- What `terminalize` may do: only the state of the instance changes. -/
structure Terminalizes (hash : Sha256) (lifecycle : Lifecycle) (store : Store) (ran : Ran PersistenceOutcome) :
    Prop where
  lifecycle : ∃ state, ran.lifecycle = { lifecycle with state } ∧
    (state = lifecycle.state ∨ state = .terminal ∨ state = .terminalDurabilityUnverified ∨ state = .presentInvalid)
  others : ∀ leaf, leaf ≠ .terminal → ran.store leaf = store leaf
  moves : Moves hash .terminal (store .terminal) (ran.store .terminal)

theorem terminalCreate_spec (lifecycle : Lifecycle) (store : Store) (session : MutationSession) (consumed : Bytes)
    {binding : TerminalBindingAttestation} {disposition : GrantDisposition} {grantRecord : Option Bytes}
    (hcontract : WriteContract hash persistence) (hbinding : binding.valid hash = true)
    (hgrant : disposition = .notIssued ↔ grantRecord = none) :
    Terminalizes hash lifecycle store
      (terminalCreate hash session persistence lifecycle store binding disposition consumed grantRecord) := by
  have hterminal : IsRecord hash (record .terminal (terminalValues hash binding consumed disposition grantRecord))
      .terminal := ⟨_, terminal_reads hbinding hgrant⟩
  unfold terminalCreate
  refine ⟨?_, ?_, ?_⟩
  · refine afterWrite_rule (P := fun after => ∃ state, after = { lifecycle with state } ∧
      (state = lifecycle.state ∨ state = .terminal ∨ state = .terminalDurabilityUnverified ∨
        state = .presentInvalid)) ⟨_, rfl, .inl rfl⟩ ?_ ?_ ?_ fun _ => ?_
    · exact ⟨_, rfl, by simp⟩
    · exact ⟨_, rfl, by simp⟩
    · exact ⟨_, rfl, by simp⟩
    · split <;> exact ⟨_, rfl, by simp⟩
  · intro leaf hleaf
    simp only [afterWrite_store]
    exact update_other hleaf
  · simp only [afterWrite_store, update_same]
    exact (hcontract.createExact _ _ _).moves (.terminal hterminal)

theorem terminalizeBody_spec (lifecycle : Lifecycle) (store : Store) (session : MutationSession)
    (disposition : GrantDisposition) (consumed : Bytes) {binding : TerminalBindingAttestation}
    (hcontract : WriteContract hash persistence) (hbinding : binding.valid hash = true)
    (hrevoked : disposition = .revoked → lifecycle.grantRecord ≠ none) :
    Terminalizes hash lifecycle store
      (terminalizeBody hash persistence lifecycle store binding disposition consumed session) := by
  have hstays : ∀ result : Call PersistenceOutcome, Terminalizes hash lifecycle store ⟨lifecycle, store, result⟩ :=
    fun _ => ⟨⟨_, rfl, .inl rfl⟩, fun _ _ => rfl, .refl⟩
  unfold terminalizeBody
  split
  · split
    · exact hstays _
    · split
      · exact hstays _
      · cases disposition with
        | notIssued => exact terminalCreate_spec lifecycle store session consumed hcontract hbinding (by simp)
        | revoked =>
          simp only
          split
          · exact hstays _
          · split
            · exact hstays _
            · exact terminalCreate_spec lifecycle store session consumed hcontract hbinding
                (by simp [hrevoked rfl])
  · exact hstays _

theorem terminalize_spec (lifecycle : Lifecycle) (store : Store) (binding : TerminalBindingAttestation)
    (hcontract : WriteContract hash env.persistence)
    (hrevoked : lifecycle.state = .revokedTerminalPending → lifecycle.consumed ≠ none →
      lifecycle.grantRecord ≠ none) :
    (∃ outcome, outcome ≠ .ok ∧ terminalize hash env lifecycle store binding = ⟨lifecycle, store, .ok outcome⟩) ∨
      Terminalizes hash lifecycle store (terminalize hash env lifecycle store binding) ∧
        (lifecycle.state = .consumedNoGrant ∨ lifecycle.state = .revokedTerminalPending) := by
  unfold terminalize
  split
  · next outcome houtcome => exact .inl ⟨outcome, terminalAuthorized_error houtcome, rfl⟩
  · next disposition consumed hauthorized =>
    obtain ⟨hbinding, hconsumed, hstate, -⟩ := terminalAuthorized_ok hauthorized
    refine .inr ⟨?_, hstate.imp And.right And.right⟩
    have hbody := fun session => terminalizeBody_spec lifecycle store session disposition consumed hcontract
      hbinding (by
        rintro rfl
        exact hrevoked (by simpa using hstate) (by simp [hconsumed]))
    have hend := mutation_end env lifecycle store
      (terminalizeBody hash env.persistence lifecycle store binding disposition consumed) terminalizeSettle
    generalize mutation env lifecycle store _ terminalizeSettle = ran at hend ⊢
    cases hend with
    | refused => exact ⟨⟨_, rfl, .inl rfl⟩, fun _ _ => rfl, .refl⟩
    | raised session =>
      obtain ⟨hl, hothers, hmoves⟩ := hbody session
      exact ⟨hl, hothers, hmoves⟩
    | settled session =>
      obtain ⟨⟨state, hl, hends⟩, hothers, hmoves⟩ := hbody session
      refine ⟨?_, hothers, hmoves⟩
      unfold terminalizeSettle
      rw [hl]
      simp only
      split
      · split
        · exact ⟨_, rfl, by simp⟩
        · exact ⟨_, rfl, hends⟩
      · exact ⟨_, rfl, hends⟩

end PduExamObserver.Authority
