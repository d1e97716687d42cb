import PduExamObserver.Authority.Steps

/-! # What one operation preserves

`Lifecycle.Sound` is what every instance satisfies, whatever it was told. `Effect` says of one operation what
it does to the leaves, to the liveness flags and to the raw capability. -/

namespace PduExamObserver.Authority
set_option autoImplicit false

variable {hash : Sha256} {env : Environment} {lifecycle : Lifecycle} {store : Store}

structure Lifecycle.Sound (lifecycle : Lifecycle) : Prop where
  absent : lifecycle.state = .absent → lifecycle.livePrepared = false ∧ lifecycle.consumed = none
  unconsumed : lifecycle.state = .absent ∨ lifecycle.state = .prepared → lifecycle.liveConsumed = false
  ungranted : lifecycle.state = .absent ∨ lifecycle.state = .prepared ∨ lifecycle.state = .consumedNoGrant →
    lifecycle.grantRaw = none ∧ lifecycle.grantHandedOff = false ∧ lifecycle.grant = none
  grant : ∀ grant, lifecycle.grant = some grant → grant.WellFormed
  revoked : lifecycle.state = .revokedTerminalPending → lifecycle.consumed ≠ none → lifecycle.grantRecord ≠ none

/-! ## A new instance -/

theorem loadGrantInspection_wellFormed {consumed grantRecord : Bytes} {consumedGet get : Getter} {domain : Domain}
    {inspection : CanonicalGrantInspection} (hreads : Reads hash grantRecord domain get)
    (h : loadGrantInspection hash consumed consumedGet get = some inspection) : inspection.WellFormed := by
  unfold loadGrantInspection at h
  split at h
  · next digest issued expires _ hissued hexpires =>
    split at h
    · next hguard =>
      cases h
      simp only [Bool.and_eq_true] at hguard
      have hcontent := hreads.validContent
      have hwindow : validGrantWindow get = true := by
        cases domain with
        | grantIssued =>
          simp only [validContent, Bool.and_eq_true] at hcontent
          exact hcontent.1.2
        | grantRevoked => exact hcontent
        -- the records of the other domains have no such key
        | pending | prepared | consumed | terminal =>
          have habsent : get "issued_monotonic_ns" = none := hreads.absent (by decide)
          simp [Getter.int, habsent] at hissued
      simp only [validGrantWindow, hissued, hexpires, Bool.and_eq_true, decide_eq_true_eq] at hwindow
      exact ⟨hguard.1.1, hwindow.1.1, hwindow.1.2, hwindow.2⟩
    · cases h
  · cases h

/-- The state found in the store is never `PREPARED`, and nothing is live in a new instance. -/
structure Fresh (lifecycle : Lifecycle) : Prop where
  sound : lifecycle.Sound
  prepared : lifecycle.state ≠ .prepared
  livePrepared : lifecycle.livePrepared = false
  liveConsumed : lifecycle.liveConsumed = false
  grantRaw : lifecycle.grantRaw = none
  grantHandedOff : lifecycle.grantHandedOff = false

theorem loadTerminal_cases (hash : Sha256) (prepared grant : Option Bytes) (terminal : CanonicalInspection) :
    loadTerminal hash prepared grant terminal = .terminal ∨
      loadTerminal hash prepared grant terminal = .terminalDurabilityUnverified ∨
      loadTerminal hash prepared grant terminal = .presentInvalid := by
  unfold loadTerminal
  split
  · split
    · split <;> simp
    · simp
  · simp

theorem loadConsumed_fresh {epoch : List UInt8} (consumed : Bytes) (consumedGet : Getter) (grant : Option Bytes) :
    Fresh (loadConsumed hash { epoch } consumed consumedGet grant) := by
  have hinvalid : Fresh { epoch, consumed := some consumed, state := .presentInvalid } :=
    ⟨⟨by simp, by simp, by simp, by simp, by simp⟩, by simp, rfl, rfl, rfl, rfl⟩
  unfold loadConsumed
  simp only
  split
  · exact ⟨⟨by simp, by simp, by simp, by simp, by simp⟩, by simp, rfl, rfl, rfl, rfl⟩
  · split
    · exact hinvalid
    · next domain fields hvalidated =>
      split
      · exact hinvalid
      · next inspection hinspection =>
        have hgrant := loadGrantInspection_wellFormed ⟨fields, hvalidated, rfl⟩ hinspection
        cases domain <;> exact ⟨⟨by simp, by simp, by simp, by simpa using hgrant, by simp⟩, by simp, rfl, rfl,
          rfl, rfl⟩

theorem loadInspections_fresh {epoch : List UInt8} (prepared grant terminal : CanonicalInspection) :
    Fresh (loadInspections hash { epoch } prepared grant terminal) := by
  have hstate : ∀ state, state ≠ .prepared → Fresh { epoch, state } := fun state hstate =>
    ⟨⟨by simp, by simp, by simp, by simp, by simp⟩, hstate, rfl, rfl, rfl, rfl⟩
  unfold loadInspections
  split
  · apply hstate
    split <;> simp
  · split
    · apply hstate
      rcases loadTerminal_cases hash prepared.record grant.record terminal with h | h | h <;> simp [h]
    · split
      · apply hstate
        split <;> simp
      · next preparedRecord _ =>
        split
        · exact ⟨⟨by simp, by simp, by simp, by simp, by simp⟩, by simp, rfl, rfl, rfl, rfl⟩
        · exact ⟨⟨by simp, by simp, by simp, by simp, by simp⟩, by simp, rfl, rfl, rfl, rfl⟩
        · exact loadConsumed_fresh _ _ _
        · exact hstate _ (by simp)

theorem construct_fresh {epoch : List UInt8} (h : construct hash env epoch store = .ok lifecycle) :
    Fresh lifecycle := by
  have hempty : Fresh { epoch } := ⟨⟨by simp, by simp, by simp, by simp, by simp⟩, by simp, rfl, rfl, rfl, rfl⟩
  unfold construct at h
  split at h
  · cases h
  · simp only [loadExistingState, bind_ok_iff] at h
    obtain ⟨begun, -, h⟩ := h
    split at h
    · cases h
      exact hempty
    · simp only [bind_ok_iff] at h
      obtain ⟨inspections, -, report, -, h⟩ := h
      split at h
      · cases h
        exact hempty
      · split at h
        · cases h
          exact hempty
        · cases h
          exact loadInspections_fresh _ _ _

/-! ## An operation -/

def Operation.leaf : Operation → Option AuthorityLeaf
  | .prepare | .consume => some .prepared
  | .issueGrant _ | .revokeGrant => some .grant
  | .terminalize _ => some .terminal
  | .takeGrantCapability | .authorizeGrant _ => none

def MayIssue (lifecycle : Lifecycle) (store : Store) : Prop :=
  store .grant = none ∧ (lifecycle.state = .absent ∧ store .prepared = none ∨
    lifecycle.state = .prepared ∧ lifecycle.livePrepared = true ∨
    lifecycle.state = .consumedNoGrant ∧ lifecycle.liveConsumed = true)

structure Effect (hash : Sha256) (operation : Operation) (env : Environment) (caller : Lifecycle)
    (store : Store) (done : Done) : Prop where
  sound : done.lifecycle.Sound
  others : ∀ leaf, operation.leaf ≠ some leaf → done.store leaf = store leaf
  moves : ∀ leaf, Moves hash leaf (store leaf) (done.store leaf)
  mayIssue : MayIssue done.lifecycle done.store → MayIssue caller store
  livePrepared : done.lifecycle.livePrepared = true → caller.livePrepared = true ∨
    operation = .prepare ∧ done.reply = .ok ∧ Durable env 1
  liveConsumed : done.lifecycle.liveConsumed = true → caller.liveConsumed = true ∨
    operation = .consume ∧ done.reply = .ok ∧ caller.livePrepared = true ∧
      InWindow hash caller env.nowUnixNs ∧ Durable env 0
  grantRaw : done.lifecycle.grantRaw ≠ none → caller.grantRaw ≠ none ∨
    (∃ binding, operation = .issueGrant binding) ∧ done.reply = .ok ∧ caller.liveConsumed = true ∧
      caller.state = .consumedNoGrant ∧ store .grant = none ∧ done.store .grant ≠ none ∧ Durable env 0
  handedOff : caller.grantHandedOff = true → done.lifecycle.grantHandedOff = true
  taken : ∀ raw, done.reply = .capability (some raw) → operation = .takeGrantCapability ∧
    caller.grantRaw = some raw ∧ caller.grantHandedOff = false ∧ done.lifecycle.grantHandedOff = true

theorem Effect.idle {operation : Operation} {caller : Lifecycle} (hsound : caller.Sound) {reply : Reply}
    (hreply : ∀ raw, reply ≠ .capability (some raw)) : Effect hash operation env caller store ⟨caller, store, reply⟩ :=
  ⟨hsound, fun _ _ => rfl, fun _ => .refl, id, .inl, .inl, .inl, id, fun raw h => absurd h (hreply raw)⟩

theorem moves_of_leaf {after : Store} {leaf : AuthorityLeaf} (hothers : ∀ other, other ≠ leaf → after other = store other)
    (hmoves : Moves hash leaf (store leaf) (after leaf)) (other : AuthorityLeaf) :
    Moves hash other (store other) (after other) := by
  by_cases h : other = leaf
  · rw [h]
    exact hmoves
  · rw [hothers other h]
    exact .refl

variable {caller : Lifecycle}

theorem prepare_effect (hcontract : WriteContract hash env.persistence) (hsound : caller.Sound) (store : Store) :
    Effect hash .prepare env caller store (prepare hash env caller store).done := by
  rcases prepare_spec caller store hcontract with hidle | ⟨habsent, hspec⟩
  · rw [hidle]
    exact .idle hsound (by simp)
  · generalize prepare hash env caller store = ran at hspec
    obtain ⟨after, store', result⟩ := ran
    obtain ⟨⟨approved, pending, prepared, state, live, hl, hlive⟩, hothers, hmoves⟩ := hspec
    simp only at hl hlive hothers hmoves
    subst hl
    obtain ⟨hdead, hconsumed⟩ := hsound.absent habsent
    have hunconsumed := hsound.unconsumed (.inl habsent)
    have hstarted : live = true → result = .ok .ok ∧ state = .prepared ∧ store .prepared = none ∧ Durable env 1 :=
      fun h => (hlive h).resolve_left (by simp [hdead])
    refine {
      sound := ⟨fun h => ⟨?_, hconsumed⟩, fun _ => hunconsumed, fun _ => hsound.ungranted (.inl habsent),
        hsound.grant, fun _ h => absurd hconsumed h⟩
      others := fun leaf hleaf => hothers leaf fun h => hleaf (congrArg some h.symm)
      moves := moves_of_leaf hothers hmoves
      mayIssue := ?_
      livePrepared := fun h => .inr ⟨rfl, congrArg Reply.outcome (hstarted h).1, (hstarted h).2.2.2⟩
      liveConsumed := .inl
      grantRaw := .inl
      handedOff := id
      taken := by simp }
    · by_contra hnot
      rw [(hstarted (by simpa using hnot)).2.1] at h
      cases h
    · rintro ⟨hgrant, hstate⟩
      refine ⟨(hothers .grant (by decide)).symm.trans hgrant, .inl ⟨habsent, ?_⟩⟩
      rcases hstate with ⟨-, hnone⟩ | ⟨-, hlive⟩ | ⟨-, hconsumed⟩
      · by_contra hpresent
        exact hmoves.present hpresent hnone
      · exact (hstarted hlive).2.2.1
      · exact absurd hconsumed (by simp [hunconsumed])

theorem consume_effect (hcontract : WriteContract hash env.persistence) (hsound : caller.Sound) (store : Store) :
    Effect hash .consume env caller store (consume hash env caller store).done := by
  rcases consume_spec caller store hcontract with hidle | hspec
  · rw [hidle]
    exact .idle hsound (by simp)
  · generalize consume hash env caller store = ran at hspec
    obtain ⟨after, store', result⟩ := ran
    obtain ⟨hprepared, hlive, ⟨consumed, state, livePrepared, liveConsumed, hl, hends, hstarted⟩, hothers,
      hmoves⟩ := hspec
    simp only at hl hends hstarted hothers hmoves
    subst hl
    have hunconsumed := hsound.unconsumed (.inr hprepared)
    have hconsumes : liveConsumed = true → result = .ok .ok ∧ state = .consumedNoGrant ∧
        InWindow hash caller env.nowUnixNs ∧ Durable env 0 :=
      fun h => (hstarted h).resolve_left (by simp [hunconsumed])
    refine {
      sound := ⟨?_, ?_, fun _ => hsound.ungranted (.inr (.inl hprepared)), hsound.grant, ?_⟩
      others := fun leaf hleaf => hothers leaf fun h => hleaf (congrArg some h.symm)
      moves := moves_of_leaf hothers hmoves
      mayIssue := fun h => ⟨(hothers .grant (by decide)).symm.trans h.1, .inr (.inl ⟨hprepared, hlive⟩)⟩
      livePrepared := fun _ => .inl hlive
      liveConsumed := fun h => .inr ⟨rfl, congrArg Reply.outcome (hconsumes h).1, hlive, (hconsumes h).2.2⟩
      grantRaw := .inl
      handedOff := id
      taken := by simp }
    · rintro rfl
      simp at hends
    · rintro (rfl | rfl)
      · simp at hends
      · by_contra hconsumed
        cases (hconsumes (by simpa using hconsumed)).2.1
    · rintro rfl
      simp at hends

theorem issueGrant_effect (hcontract : WriteContract hash env.persistence) (hsound : caller.Sound) (store : Store)
    (binding : WorkerGrantBindingAttestation) :
    Effect hash (.issueGrant binding) env caller store (issueGrant hash env caller store binding).done := by
  rcases issueGrant_spec caller store binding hcontract with hidle | hspec
  · rw [hidle]
    exact .idle hsound (by simp)
  · generalize issueGrant hash env caller store binding = ran at hspec
    obtain ⟨after, store', result⟩ := ran
    obtain ⟨hstate, hlive, ⟨grantRecord, grant, state, grantRaw, hl, hgranted, hraw⟩, hothers, hmoves⟩ := hspec
    simp only at hl hraw hothers hmoves
    subst hl
    obtain ⟨hnoraw, hnohand, hnogrant⟩ := hsound.ungranted (.inr (.inr hstate))
    -- the instance stays where it was, or it is issued, or its state is invalid
    have hends : (state = .consumedNoGrant ∧ grant = none) ∨ state = .issued ∨ state = .presentInvalid := by
      rcases hgranted with ⟨hgrant, hsame | hissued | hinvalid⟩ | ⟨hissued, -⟩
      · exact .inl ⟨hsame.trans hstate, hgrant.trans hnogrant⟩
      · exact .inr (.inl hissued)
      · exact .inr (.inr hinvalid)
      · exact .inr (.inl hissued)
    have hissues : grantRaw ≠ none → result = .ok .ok ∧ state = .issued ∧ store .grant = none ∧
        store' .grant ≠ none ∧ Durable env 0 := by
      rcases hraw with hsame | hnone | h
      · rw [hsame, hnoraw]
        simp
      · rw [hnone]
        simp
      · exact fun _ => h
    refine {
      sound := ⟨?_, ?_, ?_, ?_, ?_⟩
      others := fun leaf hleaf => hothers leaf fun h => hleaf (congrArg some h.symm)
      moves := moves_of_leaf hothers hmoves
      mayIssue := fun h => ⟨?_, .inr (.inr ⟨hstate, hlive⟩)⟩
      livePrepared := .inl
      liveConsumed := .inl
      grantRaw := fun h => .inr ⟨⟨binding, rfl⟩, congrArg Reply.outcome (hissues h).1, hlive, hstate,
        (hissues h).2.2⟩
      handedOff := id
      taken := by simp }
    · rintro rfl
      simp at hends
    · rintro (rfl | rfl) <;> simp at hends
    · intro hnot
      have hsame : state = .consumedNoGrant ∧ grant = none := by
        refine hends.resolve_right ?_
        rintro (rfl | rfl) <;> simp at hnot
      refine ⟨?_, hnohand, hsame.2⟩
      by_contra hsome
      rw [(hissues hsome).2.1] at hsame
      cases hsame.1
    · intro issued hissued
      rcases hgranted with ⟨hgrant, -⟩ | ⟨-, issued', hgrant, hwell, -⟩
      · exact hsound.grant issued (hgrant ▸ hissued)
      · obtain rfl : issued' = issued := Option.some.inj (hgrant.symm.trans hissued)
        exact hwell
    · rintro rfl
      simp at hends
    · by_contra hpresent
      exact hmoves.present hpresent h.1

theorem takeGrantCapability_effect (hsound : caller.Sound) (store : Store) :
    Effect hash .takeGrantCapability env caller store
      ⟨(takeGrantCapability caller).1, store, .capability (takeGrantCapability caller).2⟩ := by
  rcases takeGrantCapability_spec caller with hidle | ⟨raw, hraw, hissued, hnohand, htake⟩
  · rw [hidle]
    exact .idle hsound (by simp)
  · rw [htake]
    refine {
      sound := ⟨hsound.absent, hsound.unconsumed, fun h => ?_, hsound.grant, hsound.revoked⟩
      others := fun _ _ => rfl
      moves := fun _ => .refl
      mayIssue := id
      livePrepared := .inl
      liveConsumed := .inl
      grantRaw := .inl
      handedOff := fun _ => rfl
      taken := fun raw' h => ⟨rfl, ?_, hnohand, rfl⟩ }
    · simp [hissued] at h
    · simpa [hraw] using h

theorem authorizeGrant_effect (hsound : caller.Sound) (store : Store) (presentedRaw : List UInt8) :
    Effect hash (.authorizeGrant presentedRaw) env caller store
      ⟨(authorizeGrant hash env caller presentedRaw).1, store,
        .outcome (authorizeGrant hash env caller presentedRaw).2⟩ := by
  rcases authorizeGrant_spec hash env caller presentedRaw with
    ⟨result, -, hidle⟩ | ⟨⟨hissued, -, -⟩, grant, hgrant, hused⟩
  · rw [hidle]
    exact .idle hsound (by simp)
  · rw [hused]
    refine {
      sound := ⟨hsound.absent, hsound.unconsumed, fun h => ?_, fun used h => ?_, hsound.revoked⟩
      others := fun _ _ => rfl
      moves := fun _ => .refl
      mayIssue := id
      livePrepared := .inl
      liveConsumed := .inl
      grantRaw := .inl
      handedOff := id
      taken := by simp }
    · simp [hissued] at h
    · obtain rfl : { grant with used := true } = used := Option.some.inj h
      obtain ⟨hdigest, hfrom, hexpires, hwindow⟩ := hsound.grant grant hgrant
      exact ⟨hdigest, hfrom, hexpires, hwindow⟩

theorem revokeGrant_effect (hcontract : WriteContract hash env.persistence) (hsound : caller.Sound)
    (store : Store) : Effect hash .revokeGrant env caller store (revokeGrant hash env caller store).done := by
  rcases revokeGrant_spec caller store hsound.grant hcontract with hidle | hspec
  · rw [hidle]
    exact .idle hsound (by simp)
  · generalize revokeGrant hash env caller store = ran at hspec
    obtain ⟨after, store', result⟩ := ran
    obtain ⟨hstate, ⟨grantRecord, state, hl, hends⟩, hothers, hmoves⟩ := hspec
    simp only at hl hothers hmoves
    subst hl
    refine {
      sound := ⟨?_, ?_, ?_, hsound.grant, ?_⟩
      others := fun leaf hleaf => hothers leaf fun h => hleaf (congrArg some h.symm)
      moves := moves_of_leaf hothers hmoves
      mayIssue := ?_
      livePrepared := .inl
      liveConsumed := .inl
      grantRaw := fun h => absurd rfl h
      handedOff := fun _ => rfl
      taken := by simp }
    · rintro rfl
      simp at hends
    · rintro (rfl | rfl) <;> simp at hends
    · rintro (rfl | rfl | rfl) <;> simp at hends
    · rintro rfl -
      simpa using hends
    · rintro ⟨-, ⟨rfl, -⟩ | ⟨rfl, -⟩ | ⟨rfl, -⟩⟩ <;> simp at hends

theorem terminalize_effect (hcontract : WriteContract hash env.persistence) (hsound : caller.Sound) (store : Store)
    (binding : TerminalBindingAttestation) :
    Effect hash (.terminalize binding) env caller store (terminalize hash env caller store binding).done := by
  rcases terminalize_spec caller store binding hcontract hsound.revoked with ⟨outcome, -, hidle⟩ | ⟨hspec, hstate⟩
  · rw [hidle]
    exact .idle hsound (by simp)
  · generalize terminalize hash env caller store binding = ran at hspec
    obtain ⟨after, store', result⟩ := ran
    obtain ⟨⟨state, hl, hends⟩, hothers, hmoves⟩ := hspec
    simp only at hl hothers hmoves
    subst hl
    have hkept : ∀ kept, state = kept → kept ≠ .terminal → kept ≠ .terminalDurabilityUnverified →
        kept ≠ .presentInvalid → caller.state = kept := by
      rintro kept rfl hterminal hunverified hinvalid
      exact (by simpa [hterminal, hunverified, hinvalid] using hends : state = caller.state).symm
    refine {
      sound := ⟨fun h => ?_, fun h => ?_, fun h => ?_, hsound.grant, fun h => ?_⟩
      others := fun leaf hleaf => hothers leaf fun h => hleaf (congrArg some h.symm)
      moves := moves_of_leaf hothers hmoves
      mayIssue := ?_
      livePrepared := .inl
      liveConsumed := .inl
      grantRaw := .inl
      handedOff := id
      taken := by simp }
    · exact hsound.absent (hkept _ h (by decide) (by decide) (by decide))
    · exact hsound.unconsumed (h.imp (hkept _ · (by decide) (by decide) (by decide))
        (hkept _ · (by decide) (by decide) (by decide)))
    · exact hsound.ungranted (h.imp (hkept _ · (by decide) (by decide) (by decide))
        (Or.imp (hkept _ · (by decide) (by decide) (by decide)) (hkept _ · (by decide) (by decide) (by decide))))
    · exact hsound.revoked (hkept _ h (by decide) (by decide) (by decide))
    · rintro ⟨hgrant, h⟩
      refine ⟨(hothers .grant (by decide)).symm.trans hgrant, ?_⟩
      have hprepared : store' .prepared = store .prepared := hothers .prepared (by decide)
      rcases h with ⟨h, hnone⟩ | ⟨h, hlive⟩ | ⟨h, hlive⟩
      · exact .inl ⟨hkept _ h (by decide) (by decide) (by decide), hprepared.symm.trans hnone⟩
      · exact .inr (.inl ⟨hkept _ h (by decide) (by decide) (by decide), hlive⟩)
      · exact .inr (.inr ⟨hkept _ h (by decide) (by decide) (by decide), hlive⟩)

theorem Operation.run_effect (operation : Operation) (hcontract : WriteContract hash env.persistence)
    (hsound : caller.Sound) (store : Store) :
    Effect hash operation env caller store (operation.run hash env caller store) := by
  cases operation with
  | prepare => exact prepare_effect hcontract hsound store
  | consume => exact consume_effect hcontract hsound store
  | issueGrant binding => exact issueGrant_effect hcontract hsound store binding
  | takeGrantCapability => exact takeGrantCapability_effect hsound store
  | authorizeGrant presentedRaw => exact authorizeGrant_effect hsound store presentedRaw
  | revokeGrant => exact revokeGrant_effect hcontract hsound store
  | terminalize binding => exact terminalize_effect hcontract hsound store binding

end PduExamObserver.Authority
