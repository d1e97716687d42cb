import PduExamObserver.Authority.Handover

/-! # A grant is used once

A grant can be authorized once over all instances, and no longer on an instance that has revoked it, in the
runs in which every revocation of an unused grant gets as far as its write. -/

namespace PduExamObserver.Authority
open Transition History
set_option autoImplicit false

variable {hash : Sha256} {env : Environment} {caller : Lifecycle} {store : Store}

/-! ## What an operation does to a grant -/

def Unused (lifecycle : Lifecycle) : Prop :=
  lifecycle.state = .issued ∧ ∃ grant, lifecycle.grant = some grant ∧ grant.used = false

theorem Authorizable.unused {lifecycle : Lifecycle} (h : Authorizable lifecycle) : Unused lifecycle :=
  ⟨h.issued, h.grant⟩

/-- `revoke_grant` gets its session, finds its own record in the leaf and is not refused the write. -/
def RevokeWrites (hash : Sha256) (env : Environment) (lifecycle : Lifecycle) (store : Store) : Prop :=
  ∃ session grant grantRecord consumed inspection fields result,
    beginMutation env.begin = .ok (.ok session) ∧ lifecycle.grant = some grant ∧
    lifecycle.grantRecord = some grantRecord ∧ lifecycle.consumed = some consumed ∧
    env.persistence.inspect .grant (store .grant) = .ok inspection ∧ inspection.record = some grantRecord ∧
    validatedRecordOf hash .grantIssued (some grantRecord) = some fields ∧
    (env.persistence.casExact .grant (store .grant) grantRecord (record .grantRevoked (revokedValues hash
      (getter fields) consumed (lifecycle.epochDigest hash) grant grantRecord))).1 = .ok result ∧
    result.disposition ≠ .zeroWrite

theorem RevokeWrites.revokes (h : RevokeWrites hash env caller store) (hstate : caller.state = .issued) :
    (revokeGrant hash env caller store).lifecycle.state ≠ .issued := by
  obtain ⟨session, grant, grantRecord, consumed, inspection, fields, result, hbegin, hgrant, hrecord, hconsumed,
    hinspect, hfound, hfields, hwritten, hnonzero⟩ := h
  have hstart : revokeGrant hash env caller store =
      mutation env { caller with grantRaw := none, grantHandedOff := true } store
        (revokeBody hash env.persistence { caller with grantRaw := none, grantHandedOff := true } store grant
          grantRecord consumed) revokeSettle := by
    simp [revokeGrant, hgrant, hrecord, hconsumed, hstate]
  have hbody : (revokeBody hash env.persistence { caller with grantRaw := none, grantHandedOff := true } store grant
      grantRecord consumed session).lifecycle.state ≠ .issued := by
    simp only [revokeBody, hinspect, hfields]
    rw [if_neg (by simp [hfound])]
    exact afterWrite_wrote (P := fun after => after.state ≠ .issued) hwritten hnonzero (by simp) (by simp) (by simp)
      (by simp)
  rw [hstart]
  have hend := mutation_end env { caller with grantRaw := none, grantHandedOff := true } store
    (revokeBody hash env.persistence { caller with grantRaw := none, grantHandedOff := true } store grant
      grantRecord consumed) revokeSettle
  generalize mutation env { caller with grantRaw := none, grantHandedOff := true } store _ revokeSettle = ran
    at hend ⊢
  cases hend with
  | refused _ _ hrefused => exact absurd hbegin (hrefused session)
  | raised session' hbegin' =>
    cases hbegin.symm.trans hbegin'
    exact hbody
  | settled session' hbegin' =>
    cases hbegin.symm.trans hbegin'
    exact hbody

theorem revokeWrites_reliable (henv : Reliable hash env) {grant : CanonicalGrantInspection}
    {grantRecord consumed : Bytes} {get : Getter} (hgrant : caller.grant = some grant)
    (hrecord : caller.grantRecord = some grantRecord) (hconsumed : caller.consumed = some consumed)
    (hstore : store .grant = some grantRecord) (hreads : Reads hash grantRecord .grantIssued get) :
    RevokeWrites hash env caller store := by
  obtain ⟨hpersistence, approved, attested, hbegin⟩ := henv
  obtain ⟨fields, hfields, -⟩ := hreads.validatedRecordOf
  refine ⟨reliableSession approved attested, grant, grantRecord, consumed, observed hash .grant (some grantRecord),
    fields, ⟨.ok, .presentValid, some (record .grantRevoked (revokedValues hash (getter fields) consumed
      (caller.epochDigest hash) grant grantRecord))⟩, ?_, hgrant, hrecord, hconsumed, ?_, rfl, hfields, ?_, by simp⟩
  · rw [hbegin]
    rfl
  · rw [hpersistence, hstore]
    rfl
  · rw [hpersistence, hstore]
    simp [faithfulStore]

structure GrantEffect (hash : Sha256) (operation : Operation) (env : Environment) (caller : Lifecycle)
    (store : Store) (done : Done) : Prop where
  kept : caller.grantRaw ≠ none → ∀ grant, done.lifecycle.grant = some grant →
    grant.used = true ∨ caller.grant = some grant
  /-- an unused grant was there before, is new, or was not revoked -/
  unused : Unused done.lifecycle →
    (operation ≠ .revokeGrant ∧ Unused caller ∧ done.lifecycle.grantRaw = caller.grantRaw ∧
      (done.lifecycle.grantHandedOff = caller.grantHandedOff ∨ caller.grantRaw ≠ none)) ∨
    (operation ≠ .revokeGrant ∧ done.lifecycle.grantHandedOff = false ∧
      (done.lifecycle.grantRaw = none ∨ MayIssue caller store)) ∨
    (operation = .revokeGrant ∧ Unused caller ∧ ¬ RevokeWrites hash env caller store)
  authorized : (∃ raw, operation = .authorizeGrant raw) → done.reply = .ok →
    Authorizable caller ∧ ∃ grant, done.lifecycle.grant = some grant ∧ grant.used = true

theorem GrantEffect.idle {operation : Operation} {reply : Reply} (hoperation : operation ≠ .revokeGrant)
    (hreply : (∃ raw, operation = .authorizeGrant raw) → reply ≠ .ok) :
    GrantEffect hash operation env caller store ⟨caller, store, reply⟩ :=
  ⟨fun _ _ h => .inr h, fun h => .inl ⟨hoperation, h, rfl, .inl rfl⟩, fun h hok => absurd hok (hreply h)⟩

theorem Operation.run_grantEffect (operation : Operation) (hcontract : WriteContract hash env.persistence)
    (hsound : caller.Sound) (store : Store) :
    GrantEffect hash operation env caller store (operation.run hash env caller store) := by
  cases operation with
  | prepare =>
    simp only [Operation.run]
    rcases prepare_spec caller store hcontract with hidle | ⟨habsent, hspec⟩
    · rw [hidle]
      exact .idle (by simp) (by simp)
    · obtain ⟨_, _, _, _, _, hl, -⟩ := hspec.lifecycle
      have hnone := (hsound.ungranted (.inl habsent)).2.2
      exact ⟨fun _ grant h => .inr (by simpa [hl] using h), fun h => by simp [Unused, hl, hnone] at h, by simp⟩
  | consume =>
    simp only [Operation.run]
    rcases consume_spec caller store hcontract with hidle | hspec
    · rw [hidle]
      exact .idle (by simp) (by simp)
    · obtain ⟨_, state, _, _, hl, hends, -⟩ := hspec.lifecycle
      refine ⟨fun _ grant h => .inr (by simpa [hl] using h), fun h => ?_, by simp⟩
      obtain rfl : state = .issued := by simpa [hl] using h.1
      simp at hends
  | issueGrant binding =>
    simp only [Operation.run]
    rcases issueGrant_spec caller store binding hcontract with hidle | hspec
    · rw [hidle]
      exact .idle (by simp) (by simp)
    · obtain ⟨_, _, state, raw, hl, -, hraw⟩ := hspec.lifecycle
      obtain ⟨hnoraw, hnohand, -⟩ := hsound.ungranted (.inr (.inr hspec.state))
      refine ⟨fun h => absurd hnoraw h, fun h => .inr (.inl ⟨by simp, by simpa [hl] using hnohand, ?_⟩), by simp⟩
      rcases hraw with hsame | hnone | ⟨-, -, hnone, -⟩
      · exact .inl (by simp [hl, hsame, hnoraw])
      · exact .inl (by simp [hl, hnone])
      · exact .inr ⟨hnone, .inr (.inr ⟨hspec.state, hspec.live⟩)⟩
  | takeGrantCapability =>
    simp only [Operation.run]
    rcases takeGrantCapability_spec caller with hidle | ⟨raw, hraw, -, -, htake⟩
    · rw [hidle]
      exact .idle (by simp) (by simp)
    · rw [htake]
      exact ⟨fun _ _ h => .inr h, fun h => .inl ⟨by simp, h, rfl, .inr (by simp [hraw])⟩, by simp⟩
  | authorizeGrant presentedRaw =>
    simp only [Operation.run]
    rcases authorizeGrant_spec hash env caller presentedRaw with ⟨result, hne, hidle⟩ | ⟨hable, grant, -, hused⟩
    · rw [hidle]
      exact .idle (by simp) (by simpa using hne)
    · rw [hused]
      exact ⟨fun _ used h => .inl (by simp [← Option.some.inj h]), fun h => by simp [Unused] at h,
        fun _ _ => ⟨hable, _, rfl, rfl⟩⟩
  | revokeGrant =>
    simp only [Operation.run]
    have hunwritten : (Authority.revokeGrant hash env caller store).lifecycle.state = .issued → caller.state = .issued →
        ¬ RevokeWrites hash env caller store := fun h hstate hwrites => hwrites.revokes hstate h
    rcases revokeGrant_spec caller store hsound.grant hcontract with hidle | hspec
    · rw [hidle] at hunwritten ⊢
      exact ⟨fun _ _ h => .inr h, fun h => .inr (.inr ⟨rfl, h, hunwritten h.1 h.1⟩), by simp⟩
    · obtain ⟨_, state, hl, -⟩ := hspec.lifecycle
      refine ⟨fun _ grant h => .inr (by simpa [hl] using h), fun h => .inr (.inr ⟨rfl, ?_, ?_⟩), by simp⟩
      · exact ⟨hspec.state, by simpa [hl] using h.2⟩
      · exact hunwritten h.1 hspec.state
  | terminalize binding =>
    simp only [Operation.run]
    rcases terminalize_spec caller store binding hcontract hsound.revoked with ⟨_, -, hidle⟩ | ⟨hspec, hstate⟩
    · rw [hidle]
      exact .idle (by simp) (by simp)
    · obtain ⟨state, hl, hends⟩ := hspec.lifecycle
      refine ⟨fun _ grant h => .inr (by simpa [hl] using h), fun h => ?_, by simp⟩
      obtain rfl : state = .issued := by simpa [hl] using h.1
      rcases hstate with hstate | hstate <;> simp [hstate] at hends

/-! ## Runs -/

namespace Event

def Authorized (e : Event) : Prop := (∃ raw, e.operation = .authorizeGrant raw) ∧ e.reply = .ok

def AuthorizedOn (i : Nat) (e : Event) : Prop := e.index = i ∧ e.Authorized

/-- `revoke_grant` was called, with whatever outcome. -/
def RevokedOn (i : Nat) (e : Event) : Prop := e.index = i ∧ e.operation = .revokeGrant

end Event

/-- A revocation is of an instance that cannot come to hold a grant any more, and it gets as far as its write if
the instance holds an unused grant. -/
def RevokesForGood (hash : Sha256) (w : World) : Action → Prop
  | .operate i .revokeGrant env => ∀ caller, w.lifecycles[i]? = some caller →
      ¬ MayIssue caller w.store ∧ (Unused caller → RevokeWrites hash env caller w.store)
  | _ => True

structure Withdrawn (lifecycle : Lifecycle) (store : Store) : Prop where
  mayIssue : ¬ MayIssue lifecycle store
  unused : Unused lifecycle → lifecycle.grantRaw = none ∧ lifecycle.grantHandedOff = false

theorem Withdrawn.not_authorizable {lifecycle : Lifecycle} (h : Withdrawn lifecycle store) :
    ¬ Authorizable lifecycle := by
  intro hable
  have hhanded := (h.unused hable.unused).2
  rw [hable.handedOff] at hhanded
  cases hhanded

theorem MayIssue.mono {lifecycle : Lifecycle} {after : Store} (h : MayIssue lifecycle after)
    (hmoves : ∀ leaf, Moves hash leaf (store leaf) (after leaf)) : MayIssue lifecycle store := by
  have habsent : ∀ leaf, after leaf = none → store leaf = none := by
    intro leaf hnone
    by_contra hpresent
    exact (hmoves leaf).present hpresent hnone
  obtain ⟨hgrant, hstate⟩ := h
  exact ⟨habsent _ hgrant, hstate.imp_left fun ⟨h, hnone⟩ => ⟨h, habsent _ hnone⟩⟩

structure UsedOnce (hash : Sha256) (w : World) : Prop where
  one : OneCapability hash w
  bound : ∀ e ∈ w.history, e.index < w.lifecycles.length
  authorizable : ∀ (i : Nat) (lifecycle : Lifecycle), w.lifecycles[i]? = some lifecycle → Authorizable lifecycle →
    lifecycle.grantRaw ≠ none
  withdrawn : ∀ i, ∀ e ∈ w.history, e.RevokedOn i → ∀ lifecycle, w.lifecycles[i]? = some lifecycle →
    Withdrawn lifecycle w.store
  used : ∀ e ∈ w.history, e.Authorized → w.store .grant ≠ none ∧ ∀ i lifecycle, w.Holder i lifecycle →
    ∀ grant, lifecycle.grant = some grant → grant.used = true
  once : AtMostOnce Event.Authorized w.history
  afterRevoke : ∀ i, NeverAfter (Event.RevokedOn i) (Event.AuthorizedOn i) w.history

theorem UsedOnce.constructed {w : World} {lifecycle : Lifecycle} (h : UsedOnce hash w) (hfresh : Fresh lifecycle) :
    UsedOnce hash { w with lifecycles := w.lifecycles ++ [lifecycle] } := by
  have hbound := h.bound
  refine ⟨h.one.constructed hfresh, fun e he => ?_, fun i found hfound hable => ?_,
    fun i e he hrevoked found hfound => ?_, fun e he hauthorized => ⟨(h.used e he hauthorized).1, ?_⟩, h.once,
    h.afterRevoke⟩
  · have hlt := hbound e he
    simp only [List.length_append, List.length_singleton]
    omega
  · rcases getElem?_concat hfound with hbefore | rfl
    · exact h.authorizable i found hbefore hable
    · exact absurd hable.handedOff (by simp [hfresh.grantHandedOff])
  · have hlt := hbound e he
    rw [hrevoked.1] at hlt
    rw [List.getElem?_append_left hlt] at hfound
    exact h.withdrawn i e he hrevoked found hfound
  · rintro i found ⟨hfound, hraw⟩
    rcases getElem?_concat hfound with hbefore | rfl
    · exact (h.used e he hauthorized).2 i found ⟨hbefore, hraw⟩
    · exact absurd hfresh.grantRaw hraw

section Operated

variable {w : World} {i : Nat} {operation : Operation} {done : Done}

theorem Withdrawn.operated (h : Withdrawn caller store) (heffect : Effect hash operation env caller store done)
    (hgrant : GrantEffect hash operation env caller store done)
    (hrevoke : operation = .revokeGrant → Unused caller → RevokeWrites hash env caller store) :
    Withdrawn done.lifecycle done.store := by
  refine ⟨fun hmay => h.mayIssue (heffect.mayIssue hmay), fun hunused => ?_⟩
  rcases hgrant.unused hunused with ⟨-, hbefore, hraw, hhanded⟩ | ⟨-, hhanded, hraw⟩ | ⟨hop, hbefore, hnot⟩
  · obtain ⟨hnone, hfalse⟩ := h.unused hbefore
    rcases hhanded with hsame | hsome
    · exact ⟨hraw.trans hnone, hsame.trans hfalse⟩
    · exact absurd hnone hsome
  · exact ⟨hraw.resolve_right h.mayIssue, hhanded⟩
  · exact absurd (hrevoke hop hbefore) hnot

theorem GrantEffect.authorizable (hgrant : GrantEffect hash operation env caller store done)
    (hcaller : Authorizable caller → caller.grantRaw ≠ none)
    (hrevoke : operation = .revokeGrant → Unused caller → RevokeWrites hash env caller store)
    (hable : Authorizable done.lifecycle) : done.lifecycle.grantRaw ≠ none := by
  rcases hgrant.unused hable.unused with ⟨-, hbefore, hraw, hhanded⟩ | ⟨-, hhanded, -⟩ | ⟨hop, hbefore, hnot⟩
  · rw [hraw]
    rcases hhanded with hsame | hsome
    · exact hcaller ⟨hbefore.1, hsame.symm.trans hable.handedOff, hbefore.2⟩
    · exact hsome
  · rw [hable.handedOff] at hhanded
    cases hhanded
  · exact absurd (hrevoke hop hbefore) hnot

theorem UsedOnce.operated (h : UsedOnce hash w) (hcaller : w.lifecycles[i]? = some caller)
    (heffect : Effect hash operation env caller w.store done)
    (hgrant : GrantEffect hash operation env caller w.store done)
    (hforGood : operation = .revokeGrant →
      ¬ MayIssue caller w.store ∧ (Unused caller → RevokeWrites hash env caller w.store)) :
    UsedOnce hash (w.after i operation env caller done) := by
  have hlast : ∀ {e last : Event}, e ∈ w.history ++ [last] → e ∈ w.history ∨ e = last := by
    intro e last he
    simpa using he
  have hauthorized : Event.Authorized ⟨i, operation, env, caller, done.reply⟩ →
      Authorizable caller ∧ w.Holder i caller ∧ ∃ grant, done.lifecycle.grant = some grant ∧ grant.used = true := by
    rintro ⟨hop, hok⟩
    obtain ⟨hable, hused⟩ := hgrant.authorized hop hok
    exact ⟨hable, ⟨hcaller, h.authorizable i caller hcaller hable⟩, hused⟩
  refine ⟨h.one.operated hcaller heffect, fun e he => ?_, fun j found hfound hable => ?_,
    fun j e he hrevoked found hfound => ?_, fun e he hdone => ?_, neverAfter_concat.mpr ⟨h.once, ?_⟩,
    fun j => neverAfter_concat.mpr ⟨h.afterRevoke j, ?_⟩⟩
  · rw [List.length_set]
    rcases hlast he with hin | rfl
    · exact h.bound e hin
    · exact (List.getElem?_eq_some_iff.mp hcaller).1
  · rcases getElem?_replaced hfound with ⟨rfl, rfl⟩ | ⟨-, hbefore⟩
    · exact hgrant.authorizable (h.authorizable j caller hcaller) (fun hop => (hforGood hop).2) hable
    · exact h.authorizable j found hbefore hable
  · rcases hlast he with hin | rfl
    · rcases getElem?_replaced hfound with ⟨rfl, rfl⟩ | ⟨-, hbefore⟩
      · exact (h.withdrawn j e hin hrevoked caller hcaller).operated heffect hgrant fun hop => (hforGood hop).2
      · have hwithdrawn := h.withdrawn j e hin hrevoked found hbefore
        exact ⟨fun hmay => hwithdrawn.mayIssue (hmay.mono heffect.moves), hwithdrawn.unused⟩
    · obtain ⟨rfl, rfl⟩ := hrevoked
      rcases getElem?_replaced hfound with ⟨-, rfl⟩ | ⟨hne, -⟩
      · obtain ⟨hmay, hwrites⟩ := hforGood rfl
        refine ⟨fun hmay' => hmay (heffect.mayIssue hmay'), fun hunused => ?_⟩
        rcases hgrant.unused hunused with ⟨hne, -⟩ | ⟨hne, -⟩ | ⟨-, hbefore, hnot⟩
        · exact absurd rfl hne
        · exact absurd rfl hne
        · exact absurd (hwrites hbefore) hnot
      · exact absurd rfl hne
  · rcases hlast he with hin | rfl
    · obtain ⟨hpresent, hused⟩ := h.used e hin hdone
      refine ⟨(heffect.moves .grant).present hpresent, ?_⟩
      rintro j found ⟨hfound, hraw⟩ grant hfoundGrant
      rcases getElem?_replaced hfound with ⟨rfl, rfl⟩ | ⟨-, hbefore⟩
      · have hheld : caller.grantRaw ≠ none := by
          rcases heffect.grantRaw hraw with hbefore | ⟨-, -, -, -, hnone, -⟩
          · exact hbefore
          · exact absurd hnone hpresent
        rcases hgrant.kept hheld grant hfoundGrant with hdone | hsame
        · exact hdone
        · exact hused j caller ⟨hcaller, hheld⟩ grant hsame
      · exact hused j found ⟨hbefore, hraw⟩ grant hfoundGrant
    · obtain ⟨-, hholder, grant, hdoneGrant, hdoneUsed⟩ := hauthorized hdone
      refine ⟨(heffect.moves .grant).present fun hnone => (h.one.ungranted hnone).1 i caller hholder, ?_⟩
      rintro j found ⟨hfound, hraw⟩ grant' hfoundGrant
      rcases getElem?_replaced hfound with ⟨rfl, rfl⟩ | ⟨hne, hbefore⟩
      · obtain rfl := Option.some.inj (hdoneGrant.symm.trans hfoundGrant)
        exact hdoneUsed
      · exact absurd (h.one.holder j i found caller ⟨hbefore, hraw⟩ hholder) hne
  · intro hdone e he hearlier
    obtain ⟨⟨-, -, grant, hcallerGrant, hunused⟩, hholder, -⟩ := hauthorized hdone
    have hused := (h.used e he hearlier).2 i caller hholder grant hcallerGrant
    rw [hunused] at hused
    cases hused
  · rintro ⟨rfl, hdone⟩ e he hrevoked
    exact (h.withdrawn _ e he hrevoked caller hcaller).not_authorizable (hauthorized hdone).1

end Operated

theorem UsedOnce.step {w : World} {action : Action} (h : UsedOnce hash w) (hcontract : Contracted hash w action)
    (hforGood : RevokesForGood hash w action) : UsedOnce hash (step hash w action) := by
  have hstepped := step_cases hash w action
  generalize Authority.step hash w action = after at hstepped ⊢
  cases hstepped with
  | idle => exact h
  | constructed env epoch lifecycle hnew => exact h.constructed (construct_fresh hnew)
  | operated i operation env caller hcaller done hdone =>
    have hsound := (h.one.evidence i caller hcaller).sound
    rw [← hdone]
    refine h.operated hcaller (operation.run_effect hcontract hsound w.store)
      (operation.run_grantEffect hcontract hsound w.store) ?_
    rintro rfl
    exact hforGood caller hcaller

/-- In every run in which each revocation is for good, a grant is authorized at most once over all instances,
and never on an instance on which `revoke_grant` has been called. -/
theorem authorize_once {w : World}
    (h : ReachableBy (system hash) (fun w action => Contracted hash w action ∧ RevokesForGood hash w action) w) :
    AtMostOnce Event.Authorized w.history ∧
      ∀ i, NeverAfter (Event.RevokedOn i) (Event.AuthorizedOn i) w.history := by
  have hused : UsedOnce hash w := by
    refine h.invariant ?_ ?_
    · rintro w rfl
      have hone : OneCapability hash {} := by constructor <;> simp [World.Holder]
      exact ⟨hone, by simp, by simp, by simp, by simp, by simp, by simp⟩
    · rintro w action _ hw ⟨hcontract, hforGood⟩ rfl
      exact hw.step hcontract hforGood
  exact ⟨hused.once, hused.afterRevoke⟩

namespace Sample

def refusedEnvironment : Environment := { environment with begin := .ok ⟨.unavailable, none⟩ }

def taken : Lifecycle := { issued with grantHandedOff := true }

theorem authorize_sample (lifecycle : Lifecycle) (hstate : lifecycle.state = .issued)
    (hhanded : lifecycle.grantHandedOff = true)
    (hgrant : lifecycle.grant =
      some ⟨Sample.hash.hexdigest (.raw capability), 100, 100 + workerGrantTtlNs, false⟩) :
    authorizeGrant Sample.hash environment lifecycle capability =
      ({ lifecycle with
          grant := some ⟨Sample.hash.hexdigest (.raw capability), 100, 100 + workerGrantTtlNs, true⟩ }, .ok .ok) := by
  simp [authorizeGrant, environment, hstate, hhanded, hgrant, capability, workerGrantTtlNs]

def reuse : List Action :=
  [.operate 0 .takeGrantCapability environment, .operate 0 (.authorizeGrant capability) environment,
    .construct environment laterEpoch, .operate 1 .revokeGrant refusedEnvironment,
    .operate 1 (.authorizeGrant capability) environment]

def reuseHistory : List Event :=
  issueHistory ++ [⟨0, .takeGrantCapability, environment, issued, .capability (some capability)⟩,
    ⟨0, .authorizeGrant capability, environment, taken, .ok⟩,
    ⟨1, .revokeGrant, refusedEnvironment, reloaded, .outcome (.ok .ownerUnavailable)⟩,
    ⟨1, .authorizeGrant capability, environment, { reloaded with grantHandedOff := true }, .ok⟩]

theorem reuse_history :
    (reuse.foldl (step Sample.hash) ⟨issuedStore, [issued], issueHistory⟩).history = reuseHistory := by
  have htake : takeGrantCapability issued = (taken, some capability) := rfl
  have hauthorize := authorize_sample taken rfl rfl rfl
  have hrevoke : revokeGrant Sample.hash refusedEnvironment reloaded issuedStore =
      ⟨{ reloaded with grantHandedOff := true }, issuedStore, .ok .ownerUnavailable⟩ := rfl
  have hreuse := authorize_sample { reloaded with grantHandedOff := true } rfl rfl rfl
  simp [reuse, reuseHistory, step, Operation.run, Ran.done, htake, hauthorize, construct_reloaded, hrevoke, hreuse]

end Sample

/-- A revocation that is refused its session leaves a reloaded grant authorizable: the grant is used twice, and
after its revocation. -/
theorem authorize_twice : ∃ w, ReachableBy (system Sample.hash) (Contracted Sample.hash) w ∧
    ¬ AtMostOnce Event.Authorized w.history ∧ ¬ NeverAfter (Event.RevokedOn 1) (Event.AuthorizedOn 1) w.history := by
  refine ⟨_, reachableBy_foldl Sample.reuse (Sample.issueRun_reachable Sample.issueRun_contracted)
    ⟨Sample.environment_contract, Sample.environment_contract, Sample.environment_contract,
      Sample.environment_contract, Sample.environment_contract, trivial⟩, ?_, ?_⟩
  · rw [Sample.reuse_history]
    intro h
    simp [Sample.reuseHistory, Sample.issueHistory, AtMostOnce, NeverAfter, Event.Authorized] at h
  · rw [Sample.reuse_history]
    intro h
    simp [Sample.reuseHistory, Sample.issueHistory, NeverAfter, Event.Authorized, Event.AuthorizedOn,
      Event.RevokedOn] at h

def Sample.takeAndRevoke : List Action :=
  [.operate 0 .takeGrantCapability Sample.environment, .operate 0 .revokeGrant Sample.environment]

theorem authorize_once_revoked :
    NeverAfter (Event.RevokedOn 0) (Event.AuthorizedOn 0)
      (Sample.takeAndRevoke.foldl (step Sample.hash)
        ⟨Sample.issuedStore, [Sample.issued], Sample.issueHistory⟩).history := by
  have hcontract := Sample.environment_contract
  have hwrites : RevokeWrites Sample.hash Sample.environment Sample.taken Sample.issuedStore :=
    revokeWrites_reliable ⟨rfl, _, _, rfl⟩ rfl rfl rfl rfl Sample.issuedRecord_reads
  have hissue : Guarded (step Sample.hash)
      (fun w action => Contracted Sample.hash w action ∧ RevokesForGood Sample.hash w action) {} Sample.issueRun :=
    ⟨⟨hcontract, trivial⟩, ⟨hcontract, trivial⟩, ⟨hcontract, trivial⟩, ⟨hcontract, trivial⟩, trivial⟩
  refine (authorize_once (reachableBy_foldl Sample.takeAndRevoke (Sample.issueRun_reachable hissue)
    ⟨⟨hcontract, trivial⟩, ⟨hcontract, ?_⟩, trivial⟩)).2 0
  intro caller hcaller
  obtain rfl : Sample.taken = caller := Option.some.inj hcaller
  refine ⟨fun hmay => ?_, fun _ => hwrites⟩
  cases hmay.1

end PduExamObserver.Authority
