import PduExamObserver.Authority.Handover

/-! # A grant and a terminal record without one

`terminalize` without a grant does not look at the grant leaf, and `issue_grant` does not look at the terminal
leaf. The two exclude each other in the runs in which neither gets to its write over the other's record. -/

namespace PduExamObserver.Authority
open Transition History
set_option autoImplicit false

variable {hash : Sha256} {env : Environment} {caller : Lifecycle} {store : Store}

/-! ## Getting to a write -/

structure Begins (env : Environment) (store : Store) (consumed : Bytes) : Prop where
  session : ∃ session, beginMutation env.begin = .ok (.ok session)
  inspected : ∃ inspection, env.persistence.inspect .prepared (store .prepared) = .ok inspection ∧
    inspection.record = some consumed

def LeavesTerminal (hash : Sha256) (binding : TerminalBindingAttestation) (consumed : Bytes)
    (disposition : GrantDisposition) (left : Option Bytes) : Prop :=
  (∃ torn, left = some torn ∧ validatedRecord hash (some torn) = none) ∨
    ∃ grantRecord, (disposition = .notIssued ↔ grantRecord = none) ∧
      left = some (record .terminal (terminalValues hash binding consumed disposition grantRecord))

structure WritesTerminal (hash : Sha256) (store : Store) (binding : TerminalBindingAttestation) (consumed : Bytes)
    (disposition : GrantDisposition) (ran : Ran PersistenceOutcome) : Prop where
  left : ran.store .terminal = store .terminal ∨
    store .terminal = none ∧ LeavesTerminal hash binding consumed disposition (ran.store .terminal)
  ok : ran.result = .ok .ok → store .terminal = none ∧
    ∃ terminal, ran.store .terminal = some terminal ∧ IsRecord hash terminal .terminal

variable {disposition : GrantDisposition} {persistence : CanonicalAuthorityPersistence} {w : World}

theorem terminalCreate_writes (session : MutationSession)
    (hcontract : WriteContract hash persistence) (lifecycle : Lifecycle) (store : Store) (consumed : Bytes)
    {binding : TerminalBindingAttestation} {grantRecord : Option Bytes}
    (hbinding : binding.valid hash = true) (hgrant : disposition = .notIssued ↔ grantRecord = none) :
    WritesTerminal hash store binding consumed disposition
      (terminalCreate hash session persistence lifecycle store binding disposition consumed grantRecord) := by
  have hwritten := hcontract.createExact .terminal (store .terminal)
    (record .terminal (terminalValues hash binding consumed disposition grantRecord))
  refine ⟨?_, fun h => ?_⟩
  · simp only [terminalCreate, afterWrite_store, update_same]
    by_cases habsent : store .terminal = none
    · rcases hwritten.left with hsame | hnew | htorn
      · exact .inl hsame
      · exact .inr ⟨habsent, .inr ⟨grantRecord, hgrant, hnew⟩⟩
      · exact .inr ⟨habsent, .inl htorn⟩
    · exact .inl (hwritten.kept habsent)
  · obtain ⟨haccepted, -, -⟩ := afterWrite_ok h
    obtain ⟨habsent, hleft⟩ := hwritten.accepted haccepted
    have hrecord : IsRecord hash (record .terminal (terminalValues hash binding consumed disposition grantRecord))
        .terminal := ⟨_, terminal_reads hbinding hgrant⟩
    refine ⟨habsent, _, ?_, hrecord⟩
    simp only [terminalCreate, afterWrite_store, update_same]
    exact hleft

theorem terminalizeBody_writes (session : MutationSession)
    (hcontract : WriteContract hash persistence) (lifecycle : Lifecycle) (store : Store) (consumed : Bytes)
    {binding : TerminalBindingAttestation} (hbinding : binding.valid hash = true)
    (hrevoked : disposition = .revoked → lifecycle.grantRecord ≠ none) :
    ((terminalizeBody hash persistence lifecycle store binding disposition consumed session).store .terminal =
        store .terminal ∧
      (terminalizeBody hash persistence lifecycle store binding disposition consumed session).result ≠ .ok .ok) ∨
    (∃ inspection, persistence.inspect .prepared (store .prepared) = .ok inspection ∧
      inspection.record = some consumed) ∧
    WritesTerminal hash store binding consumed disposition
      (terminalizeBody hash persistence lifecycle store binding disposition consumed session) := by
  unfold terminalizeBody
  split
  · next consumedLeaf terminalLeaf hconsumed _ =>
    split
    · exact .inl ⟨rfl, by simp⟩
    · next hmatch =>
      have hinspected : ∃ inspection, persistence.inspect .prepared (store .prepared) = .ok inspection ∧
          inspection.record = some consumed := ⟨consumedLeaf, hconsumed, not_not.mp hmatch⟩
      split
      · exact .inl ⟨rfl, by simp⟩
      · cases disposition with
        | notIssued =>
          exact .inr ⟨hinspected, terminalCreate_writes session hcontract lifecycle store consumed hbinding
            (by simp)⟩
        | revoked =>
          simp only
          split
          · exact .inl ⟨rfl, by simp⟩
          · split
            · exact .inl ⟨rfl, by simp⟩
            · exact .inr ⟨hinspected, terminalCreate_writes session hcontract lifecycle store consumed hbinding
                (by simp [hrevoked rfl])⟩
  · exact .inl ⟨rfl, by simp⟩

/-- `terminalize` gets to its write, with this disposition. -/
structure GetsToTerminal (hash : Sha256) (env : Environment) (caller : Lifecycle) (store : Store)
    (binding : TerminalBindingAttestation) (disposition : GrantDisposition) (consumed : Bytes) : Prop where
  authorized : terminalAuthorized hash caller binding = .ok (disposition, consumed)
  begins : Begins env store consumed

theorem terminalize_writes (hcontract : WriteContract hash env.persistence) (hsound : caller.Sound) (store : Store)
    (binding : TerminalBindingAttestation) :
    ((terminalize hash env caller store binding).store .terminal = store .terminal ∧
      (terminalize hash env caller store binding).result ≠ .ok .ok) ∨
    ∃ disposition consumed, GetsToTerminal hash env caller store binding disposition consumed ∧
      WritesTerminal hash store binding consumed disposition (terminalize hash env caller store binding) := by
  unfold terminalize
  split
  · next outcome houtcome => exact .inl ⟨rfl, by simpa using terminalAuthorized_error houtcome⟩
  · next disposition consumed hauthorized =>
    obtain ⟨hbinding, hconsumed, hstate, -⟩ := terminalAuthorized_ok hauthorized
    have hrevoked : disposition = .revoked → caller.grantRecord ≠ none := by
      rintro rfl
      exact hsound.revoked (by simpa using hstate) (by simp [hconsumed])
    have hbody := fun session => terminalizeBody_writes session hcontract caller store consumed hbinding hrevoked
    have hend := mutation_end env caller store
      (terminalizeBody hash env.persistence caller store binding disposition consumed) terminalizeSettle
    generalize mutation env caller store _ terminalizeSettle = ran at hend ⊢
    cases hend with
    | refused result hresult => exact .inl ⟨rfl, hresult⟩
    | raised session hbegin e =>
      rcases hbody session with ⟨hsame, -⟩ | ⟨hinspected, hwrites⟩
      · exact .inl ⟨hsame, by simp⟩
      · exact .inr ⟨disposition, consumed, ⟨hauthorized, ⟨session, hbegin⟩, hinspected⟩, hwrites.left, by simp⟩
    | settled session hbegin outcome hresult report hfinish =>
      have hsettle : (terminalizeSettle (cleanupIsClean report) outcome
          (terminalizeBody hash env.persistence caller store binding disposition consumed session).lifecycle).2 =
            .ok → outcome = .ok := by
        unfold terminalizeSettle
        split
        · intro h
          cases h
        · exact id
      rcases hbody session with ⟨hsame, hfailed⟩ | ⟨hinspected, hwrites⟩
      · refine .inl ⟨hsame, fun h => hfailed ?_⟩
        rw [hresult, hsettle (Except.ok.inj h)]
      · refine .inr ⟨disposition, consumed, ⟨hauthorized, ⟨session, hbegin⟩, hinspected⟩, hwrites.left, fun h =>
          hwrites.ok ?_⟩
        rw [hresult, hsettle (Except.ok.inj h)]

/-- `issue_grant` gets to its write. -/
structure GetsToGrant (hash : Sha256) (env : Environment) (caller : Lifecycle) (store : Store)
    (binding : WorkerGrantBindingAttestation) (consumed : Bytes) : Prop where
  authorized : issueAuthorized hash caller binding = some consumed
  begins : Begins env store consumed

theorem issueBody_inspects (session : MutationSession) (caller : Lifecycle) (store : Store)
    (binding : WorkerGrantBindingAttestation) (consumed : Bytes) :
    ((issueBody hash env caller store binding consumed session).store = store ∧
      ∀ raw, (issueBody hash env caller store binding consumed session).result ≠ .ok (.ok, raw)) ∨
    ∃ inspection, env.persistence.inspect .prepared (store .prepared) = .ok inspection ∧
      inspection.record = some consumed := by
  unfold issueBody
  split
  · next consumedLeaf grantLeaf hconsumed _ =>
    split
    · exact .inl ⟨rfl, by simp⟩
    · next hmatch =>
      have hrecord : consumedLeaf.record = some consumed := by
        by_contra hother
        exact hmatch (.inl hother)
      exact .inr ⟨consumedLeaf, hconsumed, hrecord⟩
  · exact .inl ⟨rfl, by simp⟩

theorem issueGrant_writes (hcontract : WriteContract hash env.persistence) (store : Store)
    (binding : WorkerGrantBindingAttestation) :
    ((issueGrant hash env caller store binding).store .grant = store .grant ∧
      (issueGrant hash env caller store binding).result ≠ .ok .ok) ∨
    ∃ consumed, GetsToGrant hash env caller store binding consumed ∧
      ((issueGrant hash env caller store binding).result = .ok .ok →
        store .grant = none ∧ (issueGrant hash env caller store binding).store .grant ≠ none) := by
  unfold issueGrant
  split
  · exact .inl ⟨rfl, by simp⟩
  · next consumed hauthorized =>
    obtain ⟨-, hbinding, -, -⟩ := issueAuthorized_some hauthorized
    have hend := mutation_end env caller store (issueBody hash env caller store binding consumed) issueSettle
    generalize mutation env caller store _ issueSettle = ran at hend ⊢
    cases hend with
    | refused result hresult => exact .inl ⟨rfl, hresult⟩
    | raised session hbegin e =>
      rcases issueBody_inspects session caller store binding consumed with ⟨hsame, -⟩ | hinspected
      · exact .inl ⟨congrFun hsame .grant, by simp⟩
      · exact .inr ⟨consumed, ⟨hauthorized, ⟨session, hbegin⟩, hinspected⟩, by simp⟩
    | settled session hbegin issued hresult report hfinish =>
      have hsettle : (issueSettle (cleanupIsClean report) issued
          (issueBody hash env caller store binding consumed session).lifecycle).2 = .ok → issued.1 = .ok := by
        unfold issueSettle
        split
        · intro h
          cases h
        · split
          · exact fun _ => ‹_›
          · exact id
      obtain ⟨outcome, raw⟩ := issued
      rcases issueBody_inspects session caller store binding consumed with ⟨hsame, hfailed⟩ | hinspected
      · refine .inl ⟨congrFun hsame .grant, fun h => hfailed raw ?_⟩
        obtain rfl : outcome = .ok := hsettle (Except.ok.inj h)
        exact hresult
      · refine .inr ⟨consumed, ⟨hauthorized, ⟨session, hbegin⟩, hinspected⟩, fun h => ?_⟩
        obtain rfl : outcome = .ok := hsettle (Except.ok.inj h)
        have hcan := (issueBody_spec caller store session consumed hcontract hbinding).2 raw hresult
        exact ⟨hcan.absent, hcan.present⟩

theorem revokeGrant_absent (hcontract : WriteContract hash env.persistence) (habsent : store .grant = none) :
    (revokeGrant hash env caller store).store .grant = none := by
  have hbody : ∀ lifecycle grant grantRecord consumed session,
      (revokeBody hash env.persistence lifecycle store grant grantRecord consumed session).store .grant = none := by
    intro lifecycle grant grantRecord consumed session
    unfold revokeBody
    split
    · exact habsent
    · split
      · exact habsent
      · split
        · exact habsent
        · simp only [afterWrite_store, update_same]
          rw [(hcontract.casExact _ _ _ _).kept (by simp [habsent]), habsent]
  unfold revokeGrant
  split
  · split
    · exact habsent
    · next grant grantRecord consumed _ _ _ _ =>
      have hend := mutation_end env { caller with grantRaw := none, grantHandedOff := true } store
        (revokeBody hash env.persistence { caller with grantRaw := none, grantHandedOff := true } store grant
          grantRecord consumed) revokeSettle
      simp only
      generalize mutation env _ store _ revokeSettle = ran at hend ⊢
      cases hend with
      | refused => exact habsent
      | raised => exact hbody _ _ _ _ _
      | settled => exact hbody _ _ _ _ _
  · exact habsent

theorem Moves.terminal {terminal : Bytes} {after : Option Bytes} (h : Moves hash .terminal (some terminal) after) :
    after = some terminal := by
  induction h with
  | refl => rfl
  | tail _ hmove ih =>
    subst ih
    cases hmove with
    | next hfollows => cases hfollows
    | torn hfollows => cases hfollows

/-! ## The invariant -/

namespace Event

def Issues (e : Event) : Prop := (∃ binding, e.operation = .issueGrant binding) ∧ e.reply = .ok

def Terminalizes (e : Event) : Prop := (∃ binding, e.operation = .terminalize binding) ∧ e.reply = .ok

def TerminalizesNotIssued (e : Event) : Prop := e.Terminalizes ∧ e.caller.state = .consumedNoGrant

end Event

def SaysNotIssued (hash : Sha256) (store : Store) : Prop :=
  ∃ terminal get, store .terminal = some terminal ∧ Reads hash terminal .terminal get ∧
    get "grant_disposition" = some (.str GrantDisposition.notIssued.value)

def HasTerminal (hash : Sha256) (store : Store) : Prop :=
  ∃ terminal, store .terminal = some terminal ∧ IsRecord hash terminal .terminal

def WritesApart (hash : Sha256) (w : World) : Action → Prop
  | .operate i (.terminalize binding) env => ∀ caller consumed, w.lifecycles[i]? = some caller →
    GetsToTerminal hash env caller w.store binding .notIssued consumed → w.store .terminal = none →
      w.store .grant = none
  | .operate i (.issueGrant binding) env => ∀ caller consumed, w.lifecycles[i]? = some caller →
    GetsToGrant hash env caller w.store binding consumed → w.store .grant = none → ¬ HasTerminal hash w.store
  | _ => True

structure Excludes (hash : Sha256) (operation : Operation) (caller : Lifecycle) (store : Store) (done : Done) :
    Prop where
  exclusive : (SaysNotIssued hash store → store .grant = none) →
    SaysNotIssued hash done.store → done.store .grant = none
  issues : (∃ binding, operation = .issueGrant binding) → done.reply = .ok →
    ¬ HasTerminal hash store ∧ done.store .grant ≠ none
  terminalizes : (∃ binding, operation = .terminalize binding) → done.reply = .ok →
    HasTerminal hash done.store ∧ (caller.state = .consumedNoGrant → store .grant = none)

theorem SaysNotIssued.hasTerminal (h : SaysNotIssued hash store) : HasTerminal hash store := by
  obtain ⟨terminal, get, hterminal, hreads, -⟩ := h
  exact ⟨terminal, hterminal, get, hreads⟩

theorem SaysNotIssued.congr {after : Store} (h : SaysNotIssued hash after) (hsame : after .terminal = store .terminal) :
    SaysNotIssued hash store := by
  obtain ⟨terminal, get, hterminal, hreads⟩ := h
  exact ⟨terminal, get, hsame.symm.trans hterminal, hreads⟩

theorem HasTerminal.moves {after : Store} (h : HasTerminal hash store)
    (hmoves : Moves hash .terminal (store .terminal) (after .terminal)) : HasTerminal hash after := by
  obtain ⟨terminal, hterminal, hrecord⟩ := h
  rw [hterminal] at hmoves
  exact ⟨terminal, hmoves.terminal, hrecord⟩

theorem LeavesTerminal.notIssued {binding : TerminalBindingAttestation} {consumed : Bytes}
    {after : Store} (hbinding : binding.valid hash = true)
    (h : LeavesTerminal hash binding consumed disposition (after .terminal)) (hclaim : SaysNotIssued hash after) :
    disposition = .notIssued := by
  obtain ⟨terminal, get, hterminal, hreads, hdisposition⟩ := hclaim
  rcases h with ⟨torn, htorn, hinvalid⟩ | ⟨grantRecord, hgrant, hrecord⟩
  · obtain rfl := Option.some.inj (hterminal.symm.trans htorn)
    obtain ⟨fields, hvalid, -⟩ := hreads
    rw [hinvalid] at hvalid
    cases hvalid
  · obtain rfl := Option.some.inj (hterminal.symm.trans hrecord)
    obtain ⟨-, rfl⟩ := hreads.unique (terminal_reads hbinding hgrant)
    cases disposition with
    | notIssued => rfl
    | revoked => exact absurd (Value.str.inj (Option.some.inj hdisposition)) (by decide)

theorem issueGrant_excludes (hcontract : WriteContract hash env.persistence) (hsound : caller.Sound) (store : Store)
    (binding : WorkerGrantBindingAttestation)
    (hapart : ∀ consumed, GetsToGrant hash env caller store binding consumed → store .grant = none →
      ¬ HasTerminal hash store) :
    Excludes hash (.issueGrant binding) caller store (issueGrant hash env caller store binding).done := by
  have heffect := issueGrant_effect hcontract hsound store binding
  have hterminal : (issueGrant hash env caller store binding).store .terminal = store .terminal :=
    heffect.others .terminal (by simp [Operation.leaf])
  rcases issueGrant_writes hcontract store binding with ⟨hsame, hfailed⟩ | ⟨consumed, hgets, hok⟩
  · refine ⟨fun h hclaim => ?_, fun _ hdone => ?_, by simp⟩
    · exact hsame.trans (h (hclaim.congr hterminal))
    · exact absurd (Reply.outcome.inj hdone) hfailed
  · refine ⟨fun h hclaim => ?_, fun _ hdone => ?_, by simp⟩
    · have hbefore : SaysNotIssued hash store := hclaim.congr hterminal
      exact absurd hbefore.hasTerminal (hapart consumed hgets (h hbefore))
    · obtain ⟨habsent, hpresent⟩ := hok (Reply.outcome.inj hdone)
      exact ⟨hapart consumed hgets habsent, hpresent⟩

theorem terminalize_excludes (hcontract : WriteContract hash env.persistence) (hsound : caller.Sound) (store : Store)
    (binding : TerminalBindingAttestation)
    (hapart : ∀ consumed, GetsToTerminal hash env caller store binding .notIssued consumed → store .terminal = none →
      store .grant = none) :
    Excludes hash (.terminalize binding) caller store (terminalize hash env caller store binding).done := by
  have heffect := terminalize_effect hcontract hsound store binding
  have hgrant : (terminalize hash env caller store binding).store .grant = store .grant :=
    heffect.others .grant (by simp [Operation.leaf])
  rcases terminalize_writes hcontract hsound store binding with ⟨hsame, hfailed⟩ |
    ⟨disposition, consumed, hgets, hwrites⟩
  · refine ⟨fun h hclaim => ?_, by simp, fun _ hdone => ?_⟩
    · exact hgrant.trans (h (hclaim.congr hsame))
    · exact absurd (Reply.outcome.inj hdone) hfailed
  · obtain ⟨hbinding, -, hstate, -⟩ := terminalAuthorized_ok hgets.authorized
    refine ⟨fun h hclaim => ?_, by simp, fun _ hdone => ?_⟩
    · rcases hwrites.left with hsame | ⟨habsent, hleft⟩
      · exact hgrant.trans (h (hclaim.congr hsame))
      · obtain rfl := hleft.notIssued hbinding hclaim
        exact hgrant.trans (hapart consumed hgets habsent)
    · obtain ⟨habsent, hterminal⟩ := hwrites.ok (Reply.outcome.inj hdone)
      refine ⟨hterminal, fun hconsumed => ?_⟩
      rcases hstate with ⟨rfl, -⟩ | ⟨-, hpending⟩
      · exact hapart consumed hgets habsent
      · rw [hconsumed] at hpending
        cases hpending

theorem Operation.run_excludes (operation : Operation) (hcontract : WriteContract hash env.persistence)
    (hsound : caller.Sound) {i : Nat} (hcaller : w.lifecycles[i]? = some caller)
    (hapart : WritesApart hash w (.operate i operation env)) :
    Excludes hash operation caller w.store (operation.run hash env caller w.store) := by
  have heffect := operation.run_effect hcontract hsound w.store
  -- an operation that leaves the terminal leaf alone and creates no grant
  have hidle : (∀ binding, operation ≠ .issueGrant binding) → (∀ binding, operation ≠ .terminalize binding) →
      (w.store .grant = none → (operation.run hash env caller w.store).store .grant = none) →
      Excludes hash operation caller w.store (operation.run hash env caller w.store) := by
    intro hissue hterminalize hkept
    refine ⟨fun h hclaim => hkept (h (hclaim.congr ?_)), ?_, ?_⟩
    · refine heffect.others .terminal ?_
      cases operation <;> simp_all [Operation.leaf]
    · rintro ⟨binding, rfl⟩
      exact absurd rfl (hissue binding)
    · rintro ⟨binding, rfl⟩
      exact absurd rfl (hterminalize binding)
  cases operation with
  | prepare => exact hidle (by simp) (by simp) (heffect.others .grant (by decide)).trans
  | consume => exact hidle (by simp) (by simp) (heffect.others .grant (by decide)).trans
  | takeGrantCapability => exact hidle (by simp) (by simp) (heffect.others .grant (by decide)).trans
  | authorizeGrant raw => exact hidle (by simp) (by simp) (heffect.others .grant (by simp [Operation.leaf])).trans
  | revokeGrant => exact hidle (by simp) (by simp) (revokeGrant_absent hcontract)
  | issueGrant binding =>
    exact issueGrant_excludes hcontract hsound w.store binding fun consumed => hapart caller consumed hcaller
  | terminalize binding =>
    exact terminalize_excludes hcontract hsound w.store binding fun consumed => hapart caller consumed hcaller

structure Exclusive (hash : Sha256) (w : World) : Prop where
  one : OneCapability hash w
  exclusive : SaysNotIssued hash w.store → w.store .grant = none
  issued : ∀ e ∈ w.history, e.Issues → w.store .grant ≠ none
  terminalized : ∀ e ∈ w.history, e.Terminalizes → HasTerminal hash w.store
  neverTerminalized : NeverAfter Event.Issues Event.TerminalizesNotIssued w.history
  neverIssued : NeverAfter Event.Terminalizes Event.Issues w.history

theorem Exclusive.step {action : Action} (h : Exclusive hash w) (hcontract : Contracted hash w action)
    (hapart : WritesApart hash w action) : Exclusive hash (step hash w action) := by
  have hone := h.one.step hcontract
  have hstepped := step_cases hash w action
  generalize Authority.step hash w action = after at hone hstepped ⊢
  cases hstepped with
  | idle => exact h
  | constructed => exact ⟨hone, h.exclusive, h.issued, h.terminalized, h.neverTerminalized, h.neverIssued⟩
  | operated i operation env caller hcaller done hdone =>
    have hsound := (h.one.evidence i caller hcaller).sound
    have hwrites : WriteContract hash env.persistence := hcontract
    have heffect := operation.run_effect hwrites hsound w.store
    have hexcludes := operation.run_excludes hwrites hsound hcaller hapart
    rw [hdone] at heffect hexcludes
    refine ⟨hone, hexcludes.exclusive h.exclusive, fun e he hissues => ?_, fun e he hterminalizes => ?_, ?_, ?_⟩
    · rcases List.mem_append.mp he with hin | hlast
      · exact (heffect.moves .grant).present (h.issued e hin hissues)
      · obtain rfl := List.mem_singleton.mp hlast
        exact (hexcludes.issues hissues.1 hissues.2).2
    · rcases List.mem_append.mp he with hin | hlast
      · exact (h.terminalized e hin hterminalizes).moves (heffect.moves .terminal)
      · obtain rfl := List.mem_singleton.mp hlast
        exact (hexcludes.terminalizes hterminalizes.1 hterminalizes.2).1
    · refine neverAfter_concat.mpr ⟨h.neverTerminalized, ?_⟩
      rintro ⟨⟨hop, hok⟩, hstate⟩ e he hissues
      exact h.issued e he hissues ((hexcludes.terminalizes hop hok).2 hstate)
    · refine neverAfter_concat.mpr ⟨h.neverIssued, ?_⟩
      rintro ⟨hop, hok⟩ e he hterminalizes
      exact (hexcludes.issues hop hok).1 (h.terminalized e he hterminalizes)

/-- In every run in which neither operation writes over the record that excludes it, a terminal record that
says that no grant was issued is never present together with a grant, no instance terminalizes without a grant
after one was issued, and no instance issues a grant after a terminal record was written. -/
theorem terminal_excludes_grant
    (h : ReachableBy (system hash) (fun w action => Contracted hash w action ∧ WritesApart hash w action) w) :
    (SaysNotIssued hash w.store → w.store .grant = none) ∧
      NeverAfter Event.Issues Event.TerminalizesNotIssued w.history ∧
      NeverAfter Event.Terminalizes Event.Issues w.history := by
  have hexclusive : Exclusive hash w := by
    refine h.invariant ?_ ?_
    · rintro w rfl
      have hone : OneCapability hash {} := by constructor <;> simp [World.Holder]
      exact ⟨hone, by simp, by simp, by simp, by simp, by simp⟩
    · rintro w action _ hw ⟨hcontract, hapart⟩ rfl
      exact hw.step hcontract hapart
  exact ⟨hexclusive.exclusive, hexclusive.neverTerminalized, hexclusive.neverIssued⟩

/-! ## A terminal record over a grant -/

theorem sanitizedReceipt_matches {failureCode : String} {bindings : ReceiptBindings} {terminalGet consumedGet : Getter}
    (hreceipt : terminalGet "receipt_json" =
      some (.json (.object (Canonical.sortKeys (sanitizedReceipt failureCode bindings)))))
    (hprepared : consumedGet "prepared_digest" = some (.str bindings.authorityDigest))
    (hstatic : consumedGet "static_bindings_digest" = some (.str bindings.staticBindingsDigest))
    (hruntime : consumedGet "dependency_observation_digest" = some (.str bindings.runtimeDigest))
    (hpose : consumedGet "pose_model_sha256" = some (.str bindings.poseModelSha256))
    (hface : consumedGet "face_model_sha256" = some (.str bindings.faceModelSha256)) :
    terminalReceiptMatchesLifecycle hash terminalGet consumedGet none = true := by
  have hlookup : ∀ name value, (name, value) ∈ bindings.fields →
      (Canonical.sortKeys (sanitizedReceipt failureCode bindings)).lookup name = some value :=
    fun name value => sanitizedReceipt_binding
  simp only [ReceiptBindings.fields, List.mem_cons, Prod.mk.injEq] at hlookup
  simp [terminalReceiptMatchesLifecycle, hreceipt, receiptProjections, hprepared, hstatic, hruntime, hpose, hface,
    hlookup, Scalar.toValue]

namespace Sample

def late : Lifecycle := { epoch := laterEpoch, state := .consumedNoGrant, consumed := some consumedRecord }

theorem construct_late : construct Sample.hash environment laterEpoch consumedStore = .ok late := by
  obtain ⟨fields, hfields, -⟩ := consumedRecord_reads
  rw [construct_reliable environment_reliable rfl, loadInspections_consumed laterEpoch ⟨rfl, rfl, rfl⟩ hfields]
  rfl

def receiptBindings : ReceiptBindings where
  authorityDigest := Sample.hash.hexdigest preparedRecord
  grantRecordDigest := repeated '1'
  challengeDigest := repeated '2'
  jobNameDigest := repeated '3'
  staticBindingsDigest := repeated 'a'
  capturePolicyDigest := capturePolicyDigest
  watchdogPolicyDigest := watchdogPolicyDigest
  runtimeDigest := repeated '6'
  poseModelSha256 := repeated '7'
  faceModelSha256 := repeated '8'

theorem late_terminalAuthorized : ∃ binding,
    terminalAuthorized Sample.hash late binding = .ok (.notIssued, consumedRecord) := by
  have hdigests : receiptBindings.fields.all (fun field => field.2.isDigest) = true := by
    have hprepared : isHexDigest (Sample.hash.hexdigest preparedRecord) = true := Sample.hash.digest _
    simp only [ReceiptBindings.fields, receiptBindings, List.all_cons, List.all_nil, Scalar.isDigest, hprepared,
      isHexDigest_repeated]
    decide +kernel
  have hbuilt : ∃ evidence, buildSanitizedNoGoEvidence Sample.hash "AUTHORIZATION_FAILED" receiptBindings
      ⟨true, true, true⟩ = some evidence ∧ evidence.receiptJson = .json (.object (Canonical.sortKeys
        (sanitizedReceipt "AUTHORIZATION_FAILED" receiptBindings))) ∧
      verifyTerminalEvidence Sample.hash evidence = true :=
    buildSanitizedNoGoEvidence_verifies _ rfl hdigests rfl rfl rfl
  obtain ⟨evidence, -, hreceipt, hverifies⟩ := hbuilt
  obtain ⟨fields, hfields, hget⟩ := consumedRecord_reads.validatedRecordOf
  have hmatches : terminalReceiptMatchesLifecycle Sample.hash
      (getter (TerminalBindingAttestation.fromEvidence evidence 0).recordFields) (getter fields) none = true := by
    rw [hget]
    exact sanitizedReceipt_matches (congrArg some hreceipt) rfl rfl rfl rfl rfl
  have hvalid : TerminalBindingAttestation.valid Sample.hash (TerminalBindingAttestation.fromEvidence evidence 0) =
      true := by
    rw [TerminalBindingAttestation.valid, Bool.and_eq_true]
    exact ⟨hverifies, rfl⟩
  refine ⟨TerminalBindingAttestation.fromEvidence evidence 0, ?_⟩
  simp [terminalAuthorized, hvalid, late, orError, hfields, hmatches, require, ok_bind, pure, Except.pure]

def overGrantRun (binding : TerminalBindingAttestation) : List Action :=
  [.construct environment epoch, .operate 0 .prepare environment, .operate 0 .consume environment,
    .construct environment laterEpoch, .operate 0 (.issueGrant workerBinding) environment,
    .operate 1 (.terminalize binding) environment]

theorem overGrantRun_store {binding : TerminalBindingAttestation}
    (h : terminalAuthorized Sample.hash late binding = .ok (.notIssued, consumedRecord)) :
    ((overGrantRun binding).foldl (step Sample.hash) {}).store = Function.update issuedStore .terminal
      (some (record .terminal (terminalValues Sample.hash binding consumedRecord .notIssued none))) := by
  have hnew : construct Sample.hash environment epoch (fun _ => none) = .ok absent := construct_absent
  have hprepare : prepare Sample.hash environment absent (fun _ => none) = ⟨prepared, preparedStore, .ok .ok⟩ :=
    prepare_absent
  have hterminalize : (terminalize Sample.hash environment late issuedStore binding).store =
      Function.update issuedStore .terminal
        (some (record .terminal (terminalValues Sample.hash binding consumedRecord .notIssued none))) := by
    rw [terminalize_reliable rfl rfl h rfl rfl]
  simp [overGrantRun, step, Operation.run, Ran.done, hnew, hprepare, consume_prepared, construct_late, issue_consumed,
    hterminalize]

end Sample

/-- Two reliable instances over one faithful store: the first issues a grant, the second terminalizes without
one, and both records are there. -/
theorem terminal_over_grant :
    ∃ w, ReachableBy (system Sample.hash) (fun _ action => Reliable Sample.hash action.environment) w ∧
      SaysNotIssued Sample.hash w.store ∧ w.store .grant ≠ none := by
  have henv := Sample.environment_reliable
  obtain ⟨binding, hauthorized⟩ := Sample.late_terminalAuthorized
  obtain ⟨hbinding, -⟩ := terminalAuthorized_ok hauthorized
  refine ⟨_, reachableBy_foldl (Sample.overGrantRun binding) (.init rfl)
    ⟨henv, henv, henv, henv, henv, henv, trivial⟩, ?_, ?_⟩
  · rw [Sample.overGrantRun_store hauthorized]
    exact ⟨_, _, update_same, terminal_reads hbinding (by simp), rfl⟩
  · rw [Sample.overGrantRun_store hauthorized, update_other (by decide)]
    simp [Sample.issuedStore]

/-- A grant is issued while there is no terminal record. -/
theorem terminal_excludes_grant_issued : ¬ SaysNotIssued Sample.hash Sample.issuedStore := by
  have hcontract := Sample.environment_contract
  have hissue : Guarded (step Sample.hash)
      (fun w action => Contracted Sample.hash w action ∧ WritesApart Sample.hash w action) {} Sample.issueRun := by
    refine ⟨⟨hcontract, trivial⟩, ⟨hcontract, trivial⟩, ⟨hcontract, trivial⟩, ⟨hcontract, ?_⟩, trivial⟩
    rintro caller consumed - - - ⟨terminal, hterminal, -⟩
    have hnew : construct Sample.hash Sample.environment Sample.epoch (fun _ => none) = .ok Sample.absent :=
      Sample.construct_absent
    have hprepare : prepare Sample.hash Sample.environment Sample.absent (fun _ => none) =
        ⟨Sample.prepared, Sample.preparedStore, .ok .ok⟩ := Sample.prepare_absent
    have habsent : Sample.consumedStore .terminal = none := rfl
    simp [step, Operation.run, Ran.done, hnew, hprepare, Sample.consume_prepared, habsent] at hterminal
  intro hclaim
  have habsent := (terminal_excludes_grant (Sample.issueRun_reachable hissue)).1 hclaim
  simp [Sample.issuedStore] at habsent

end PduExamObserver.Authority
