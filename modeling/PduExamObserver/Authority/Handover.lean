import PduExamObserver.Authority.Capability

/-! # Handing the store over

A new instance takes over a store that earlier instances wrote. `Loads` says which contents of the three
leaves belong together and which state they load as; `Agrees` ties what an instance keeps in memory to the
leaves. -/

namespace PduExamObserver.Authority
open Transition
set_option autoImplicit false

variable {hash : Sha256} {env : Environment} {store : Store} {lifecycle : Lifecycle}

structure Belongs (hash : Sha256) (consumed : Bytes) (consumedGet grantGet : Getter) : Prop where
  consumed : grantGet "consumed_digest" = some (.str (hash.hexdigest consumed))
  epoch : grantGet "epoch_digest" = consumedGet "epoch_digest"

structure Closes (hash : Sha256) (consumed : Bytes) (consumedGet terminalGet : Getter)
    (disposition : GrantDisposition) (grant : Option Bytes) : Prop where
  consumed : terminalGet "consumed_digest" = some (.str (hash.hexdigest consumed))
  disposition : terminalGet "grant_disposition" = some (.str disposition.value)
  grantRecord : terminalGet "grant_record_digest" = some (grantRecordDigest hash grant)
  receipt : terminalReceiptMatchesLifecycle hash terminalGet consumedGet grant = true

structure Holds (store : Store) (prepared grant terminal : Option Bytes) : Prop where
  prepared : store .prepared = prepared
  grant : store .grant = grant
  terminal : store .terminal = terminal

section Holds

variable {prepared grant terminal : Option Bytes}

theorem Holds.replacePrepared (h : Holds store prepared grant terminal) (value : Option Bytes) :
    Holds (Function.update store .prepared value) value grant terminal :=
  ⟨update_same, h.grant, h.terminal⟩

theorem Holds.replaceGrant (h : Holds store prepared grant terminal) (value : Option Bytes) :
    Holds (Function.update store .grant value) prepared value terminal :=
  ⟨h.prepared, update_same, h.terminal⟩

theorem Holds.replaceTerminal (h : Holds store prepared grant terminal) (value : Option Bytes) :
    Holds (Function.update store .terminal value) prepared grant value :=
  ⟨h.prepared, h.grant, update_same⟩

end Holds

inductive Loads (hash : Sha256) (store : Store) : CanonicalLifecycleState → Prop
  | absent (h : Holds store none none none) : Loads hash store .absent
  | pending {pending : Bytes} (h : Holds store (some pending) none none) (hpending : IsRecord hash pending .pending) :
      Loads hash store .pending
  | prepared {prepared : Bytes} (h : Holds store (some prepared) none none)
      (hprepared : IsRecord hash prepared .prepared) : Loads hash store .stalePreparedNonlaunchable
  | consumed {consumed : Bytes} (h : Holds store (some consumed) none none)
      (hconsumed : IsRecord hash consumed .consumed) : Loads hash store .consumedNoGrant
  | issued {consumed grant : Bytes} {consumedGet grantGet : Getter} (h : Holds store (some consumed) (some grant) none)
      (hconsumed : Reads hash consumed .consumed consumedGet) (hgrant : Reads hash grant .grantIssued grantGet)
      (hbelongs : Belongs hash consumed consumedGet grantGet) : Loads hash store .issued
  | revoked {consumed grant : Bytes} {consumedGet grantGet : Getter}
      (h : Holds store (some consumed) (some grant) none)
      (hconsumed : Reads hash consumed .consumed consumedGet) (hgrant : Reads hash grant .grantRevoked grantGet)
      (hbelongs : Belongs hash consumed consumedGet grantGet) : Loads hash store .revokedTerminalPending
  | notIssued {consumed terminal : Bytes} {consumedGet terminalGet : Getter}
      (h : Holds store (some consumed) none (some terminal))
      (hconsumed : Reads hash consumed .consumed consumedGet) (hterminal : Reads hash terminal .terminal terminalGet)
      (hcloses : Closes hash consumed consumedGet terminalGet .notIssued none) : Loads hash store .terminal
  | terminal {consumed grant terminal : Bytes} {consumedGet grantGet terminalGet : Getter}
      (h : Holds store (some consumed) (some grant) (some terminal))
      (hconsumed : Reads hash consumed .consumed consumedGet) (hgrant : Reads hash grant .grantRevoked grantGet)
      (hbelongs : Belongs hash consumed consumedGet grantGet) (hterminal : Reads hash terminal .terminal terminalGet)
      (hcloses : Closes hash consumed consumedGet terminalGet .revoked (some grant)) : Loads hash store .terminal

def OwnsConsumed (hash : Sha256) (lifecycle : Lifecycle) : Prop :=
  ∃ consumed get, lifecycle.consumed = some consumed ∧ Reads hash consumed .consumed get ∧
    get "epoch_digest" = some (.str (lifecycle.epochDigest hash))

structure Cached (hash : Sha256) (lifecycle : Lifecycle) (store : Store) : Prop where
  prepared : lifecycle.state = .prepared → lifecycle.prepared = store .prepared
  consumed : lifecycle.state = .consumedNoGrant ∨ lifecycle.state = .issued ∨
    lifecycle.state = .revokedTerminalPending → lifecycle.consumed = store .prepared
  grantRecord : lifecycle.state = .issued ∨ lifecycle.state = .revokedTerminalPending →
    lifecycle.grantRecord = store .grant
  grant : lifecycle.state = .issued → lifecycle.grant ≠ none
  own : lifecycle.state = .consumedNoGrant → lifecycle.liveConsumed = true → OwnsConsumed hash lifecycle

/-! ## Loading -/

theorem construct_reliable (henv : Reliable hash env) {epoch : List UInt8} (hepoch : epoch.length = 32) :
    construct hash env epoch store = .ok (loadInspections hash { epoch } (observed hash .prepared (store .prepared))
      (observed hash .grant (store .grant)) (observed hash .terminal (store .terminal))) := by
  obtain ⟨hpersistence, approved, attestation, hbegin⟩ := henv
  simp [construct, hepoch, loadExistingState, hbegin, hpersistence, inspectLeaves, finish, reliableSession,
    faithfulStore, cleanupIsClean, ok_bind, pure, Except.pure]

theorem find_suppressed (prepared grant terminal : Option Bytes) :
    [observed hash .prepared prepared, observed hash .grant grant, observed hash .terminal terminal].find?
      (fun i => i.record = none ∧ i.state ≠ .absent) = none := by
  have htrue : ∀ leaf current, ¬ ((observed hash leaf current).record = none ∧
      (observed hash leaf current).state ≠ .absent) := by
    intro leaf current
    cases current <;> simp [observed]
  simp only [List.find?_eq_none, List.mem_cons, List.not_mem_nil, or_false, decide_eq_true_eq]
  rintro inspection (rfl | rfl | rfl)
  · exact htrue _ _
  · exact htrue _ _
  · exact htrue _ _

variable {consumed : Bytes} {consumedGet grantGet : Getter} {state : CanonicalLifecycleState} {w : World}

theorem Belongs.loadGrantInspection {digest : String}
    {issued expires : Int} (h : Belongs hash consumed consumedGet grantGet)
    (hdigest : grantGet.str "grant_digest" = some digest) (hissued : grantGet.int "issued_monotonic_ns" = some issued)
    (hexpires : grantGet.int "expires_monotonic_ns" = some expires) (hhex : isHexDigest digest = true) :
    loadGrantInspection hash consumed consumedGet grantGet = some ⟨digest, issued, expires, false⟩ := by
  simp [Authority.loadGrantInspection, hdigest, hissued, hexpires, hhex, h.consumed, h.epoch]

theorem Reads.loadGrantInspection {grant : Bytes} {domain : Domain}
    (hdomain : domain = .grantIssued ∨ domain = .grantRevoked) (h : Reads hash grant domain grantGet)
    (hbelongs : Belongs hash consumed consumedGet grantGet) :
    ∃ inspection, loadGrantInspection hash consumed consumedGet grantGet = some inspection := by
  have hdigest : ((grantGet "grant_digest").getD .null).isDigest = true :=
    h.isDigest (by rcases hdomain with rfl | rfl <;> decide) (by decide)
  have hwindow : validGrantWindow grantGet = true := by
    have hcontent := h.validContent
    rcases hdomain with rfl | rfl
    · simp only [Authority.validContent, Bool.and_eq_true] at hcontent
      exact hcontent.1.2
    · exact hcontent
  unfold validGrantWindow at hwindow
  split at hwindow
  · next issued expires hissued hexpires =>
    cases hvalue : grantGet "grant_digest" with
    | none => simp [hvalue, Value.isDigest] at hdigest
    | some value =>
      cases value with
      | str digest =>
        have hhex : isHexDigest digest = true := by simpa [hvalue, Value.isDigest] using hdigest
        exact ⟨_, hbelongs.loadGrantInspection (by rw [Getter.str, hvalue]) hissued hexpires hhex⟩
      | null | bool | int | json => simp [hvalue, Value.isDigest] at hdigest
  · cases hwindow

theorem loadInspections_consumed {fields : Fields} (epoch : List UInt8)
    (h : Holds store (some consumed) none none)
    (hconsumed : validatedRecord hash (some consumed) = some (.consumed, fields)) :
    loadInspections hash { epoch } (observed hash .prepared (store .prepared)) (observed hash .grant (store .grant))
      (observed hash .terminal (store .terminal)) =
        { epoch, state := .consumedNoGrant, consumed := some consumed } := by
  unfold loadInspections
  rw [find_suppressed]
  simp only [observed, h.prepared, h.grant, h.terminal, hconsumed, loadConsumed]
  rfl

theorem loadInspections_issued {grant : Bytes} {fields grantFields : Fields}
    {inspection : CanonicalGrantInspection} (epoch : List UInt8) (h : Holds store (some consumed) (some grant) none)
    (hconsumed : validatedRecord hash (some consumed) = some (.consumed, fields))
    (hgrant : validatedRecord hash (some grant) = some (.grantIssued, grantFields))
    (hinspection : loadGrantInspection hash consumed (getter fields) (getter grantFields) = some inspection) :
    loadInspections hash { epoch } (observed hash .prepared (store .prepared)) (observed hash .grant (store .grant))
      (observed hash .terminal (store .terminal)) =
        { epoch
          state := .issued
          consumed := some consumed
          grant := some inspection
          grantRecord := some grant } := by
  unfold loadInspections
  rw [find_suppressed]
  simp only [observed, h.prepared, h.grant, h.terminal, hconsumed, loadConsumed, hgrant, hinspection]
  rfl

theorem Closes.loads {terminal : Bytes} {grant : Option Bytes} {terminalGet : Getter}
    {disposition : GrantDisposition}
    (h : Closes hash consumed consumedGet terminalGet disposition grant)
    (hconsumed : Reads hash consumed .consumed consumedGet) (hterminal : Reads hash terminal .terminal terminalGet)
    (hgrant : disposition = .notIssued ∧ grant = none ∨ disposition = .revoked ∧ ∃ grantRecord grantGet,
      grant = some grantRecord ∧ Reads hash grantRecord .grantRevoked grantGet ∧
        Belongs hash consumed consumedGet grantGet) :
    loadTerminal hash (some consumed) grant ⟨state, some terminal, .verified⟩ = .terminal := by
  obtain ⟨fields, hfields, rfl⟩ := hconsumed.validatedRecordOf
  obtain ⟨terminalFields, hterminalFields, rfl⟩ := hterminal.validatedRecordOf
  have hbelongs : terminalBelongs hash (getter terminalFields) (getter fields) consumed grant = true := by
    unfold terminalBelongs
    rw [h.disposition]
    rcases hgrant with ⟨rfl, rfl⟩ | ⟨rfl, grantRecord, grantGet, rfl, hreads, hbelongs⟩
    · simp [h.receipt]
    · obtain ⟨grantFields, hgrantFields, rfl⟩ := hreads.validatedRecordOf
      simp [hgrantFields, h.grantRecord, grantRecordDigest, hbelongs.consumed, hbelongs.epoch, h.receipt,
        GrantDisposition.value]
  simp [loadTerminal, hfields, hterminalFields, h.consumed, hbelongs]

theorem Loads.load (h : Loads hash store state) (epoch : List UInt8) :
    (loadInspections hash { epoch } (observed hash .prepared (store .prepared)) (observed hash .grant (store .grant))
      (observed hash .terminal (store .terminal))).state = state ∧
    Cached hash (loadInspections hash { epoch } (observed hash .prepared (store .prepared))
      (observed hash .grant (store .grant)) (observed hash .terminal (store .terminal))) store := by
  cases h with
  | absent h =>
    unfold loadInspections
    rw [find_suppressed]
    simp only [observed, h.prepared, h.grant, h.terminal]
    exact ⟨rfl, by simp, by simp, by simp, by simp, by simp⟩
  | pending h hpending =>
    obtain ⟨get, fields, hvalidated, -⟩ := hpending
    unfold loadInspections
    rw [find_suppressed]
    simp only [observed, h.prepared, h.grant, h.terminal, hvalidated]
    exact ⟨rfl, by simp, by simp, by simp, by simp, by simp⟩
  | prepared h hprepared =>
    obtain ⟨get, fields, hvalidated, -⟩ := hprepared
    unfold loadInspections
    rw [find_suppressed]
    simp only [observed, h.prepared, h.grant, h.terminal, hvalidated]
    exact ⟨rfl, by simp, by simp, by simp, by simp, by simp⟩
  | consumed h hconsumed =>
    obtain ⟨get, fields, hvalidated, -⟩ := hconsumed
    rw [loadInspections_consumed epoch h hvalidated]
    exact ⟨rfl, by simp, by simp [h.prepared], by simp, by simp, by simp⟩
  | issued h hconsumed hgrant hbelongs =>
    obtain ⟨inspection, hinspection⟩ := hgrant.loadGrantInspection (.inl rfl) hbelongs
    obtain ⟨fields, hvalidated, rfl⟩ := hconsumed
    obtain ⟨grantFields, hvalidated', rfl⟩ := hgrant
    rw [loadInspections_issued epoch h hvalidated hvalidated' hinspection]
    exact ⟨rfl, by simp, by simp [h.prepared], by simp [h.grant], by simp, by simp⟩
  | revoked h hconsumed hgrant hbelongs =>
    obtain ⟨inspection, hinspection⟩ := hgrant.loadGrantInspection (.inr rfl) hbelongs
    obtain ⟨fields, hvalidated, rfl⟩ := hconsumed
    obtain ⟨grantFields, hvalidated', rfl⟩ := hgrant
    unfold loadInspections
    rw [find_suppressed]
    simp only [observed, h.prepared, h.grant, h.terminal, hvalidated, loadConsumed, hvalidated', hinspection]
    exact ⟨rfl, by simp, by simp [h.prepared], by simp [h.grant], by simp, by simp⟩
  | notIssued h hconsumed hterminal hcloses =>
    unfold loadInspections
    rw [find_suppressed]
    simp only [observed, h.prepared, h.grant, h.terminal,
      hcloses.loads hconsumed hterminal (.inl ⟨rfl, rfl⟩)]
    exact ⟨by simp, by simp, by simp, by simp, by simp, by simp⟩
  | terminal h hconsumed hgrant hbelongs hterminal hcloses =>
    unfold loadInspections
    rw [find_suppressed]
    simp only [observed, h.prepared, h.grant, h.terminal,
      hcloses.loads hconsumed hterminal (.inr ⟨rfl, _, _, rfl, hgrant, hbelongs⟩)]
    exact ⟨by simp, by simp, by simp, by simp, by simp, by simp⟩

namespace Sample

def laterEpoch : List UInt8 := List.replicate 32 1

def reloaded : Lifecycle where
  epoch := laterEpoch
  state := .issued
  consumed := some consumedRecord
  grant := some ⟨Sample.hash.hexdigest (.raw capability), 100, 100 + workerGrantTtlNs, false⟩
  grantRecord := some issuedRecord

theorem consumedRecord_reads : Reads Sample.hash consumedRecord .consumed (getter (recordFields .consumed
    (consumedValues Sample.hash (getter preparedFields) (Sample.hash.hexdigest (.raw epoch)) preparedRecord))) := by
  have hprepared : Reads Sample.hash preparedRecord .prepared (getter preparedFields) :=
    prepared_reads attestation_valid (Sample.hash.digest _)
  exact consumed_reads (hprepared.isDigest (by decide) (by decide)) (hprepared.isDigest (by decide) (by decide))
    (Sample.hash.digest _)

theorem issuedRecord_reads : Reads Sample.hash issuedRecord .grantIssued (getter (recordFields .grantIssued
    (issuedValues Sample.hash workerBinding consumedRecord (Sample.hash.hexdigest (.raw epoch))
      (Sample.hash.hexdigest (.raw capability)) 100))) :=
  issued_reads workerBinding_valid (Sample.hash.digest _) (Sample.hash.digest _) (by decide) (by decide)

theorem construct_reloaded : construct Sample.hash environment laterEpoch issuedStore = .ok reloaded := by
  have henv : Reliable Sample.hash environment := ⟨rfl, _, _, rfl⟩
  have hgrant : isHexDigest (Sample.hash.hexdigest (.raw capability)) = true := Sample.hash.digest _
  obtain ⟨fields, hfields, hget⟩ := consumedRecord_reads
  obtain ⟨grantFields, hgrantFields, hgrantGet⟩ := issuedRecord_reads
  have hinspection : loadGrantInspection Sample.hash consumedRecord (getter fields) (getter grantFields) =
      some ⟨Sample.hash.hexdigest (.raw capability), 100, 100 + workerGrantTtlNs, false⟩ := by
    rw [hget, hgrantGet]
    exact Belongs.loadGrantInspection ⟨rfl, rfl⟩ rfl rfl rfl hgrant
  rw [construct_reliable henv rfl,
    loadInspections_issued laterEpoch ⟨rfl, rfl, rfl⟩ hfields hgrantFields hinspection]
  rfl

end Sample

/-! ## Operations in a reliable environment -/

def matching : CanonicalLifecycleState → CanonicalLifecycleState
  | .prepared => .stalePreparedNonlaunchable
  | state => state

theorem Loads.matching (h : Loads hash store state) :
    Authority.matching state = state := by
  cases h <;> rfl

structure Agrees (hash : Sha256) (lifecycle : Lifecycle) (store : Store) : Prop where
  loads : Loads hash store (matching lifecycle.state)
  cached : Cached hash lifecycle store

section Agrees

variable {approved : Call (Option ApprovedRP2Triple)} {attested : Call (Option PreparedBindingAttestation)}

theorem prepareReplace_agrees {pending : Bytes} {attestation : PreparedBindingAttestation}
    (h : Holds store (some pending) none none) (hattestation : attestation.valid = true) :
    Agrees hash (prepareReplace hash (reliableSession approved attested) (faithfulStore hash) lifecycle store
        pending attestation).lifecycle
      (prepareReplace hash (reliableSession approved attested) (faithfulStore hash) lifecycle store
        pending attestation).store := by
  rw [prepareReplace_reliable h.prepared]
  have hprepared : Reads hash (record .prepared (preparedValues hash attestation (lifecycle.epochDigest hash) pending))
      .prepared _ := prepared_reads hattestation (epochDigest_isHex hash lifecycle)
  exact ⟨.prepared (h.replacePrepared _) ⟨_, hprepared⟩,
    by simp, by simp, by simp, by simp, by simp⟩

theorem prepareAttest_agrees {pending : Bytes} {triple : ApprovedRP2Triple} (hstate : lifecycle.state = .pending)
    (h : Holds store (some pending) none none) (hpending : IsRecord hash pending .pending) :
    Agrees hash (prepareAttest hash (reliableSession approved attested) (faithfulStore hash) lifecycle store
        pending triple).lifecycle
      (prepareAttest hash (reliableSession approved attested) (faithfulStore hash) lifecycle store
        pending triple).store := by
  have hstays : Agrees hash lifecycle store :=
    ⟨by rw [hstate]; exact .pending h hpending, by simp [hstate], by simp [hstate], by simp [hstate],
      by simp [hstate], by simp [hstate]⟩
  unfold prepareAttest
  split
  · exact hstays
  · exact hstays
  · split
    · next hvalid =>
      simp only [Bool.and_eq_true] at hvalid
      exact prepareReplace_agrees h hvalid.1.1.1
    · exact hstays

theorem prepareBody_agrees (approved : Call (Option ApprovedRP2Triple))
    (attested : Call (Option PreparedBindingAttestation)) (h : Agrees hash lifecycle store) (habsent : lifecycle.state = .absent) :
    Agrees hash (prepareBody hash (faithfulStore hash) lifecycle store (reliableSession approved attested)).lifecycle
      (prepareBody hash (faithfulStore hash) lifecycle store (reliableSession approved attested)).store := by
  have hholds : Holds store none none none := by
    have hloads := h.loads
    rw [habsent] at hloads
    cases hloads
    assumption
  unfold prepareBody
  simp only [faithfulStore_inspect, hholds.prepared]
  rw [if_neg (by simp), if_neg (by simp)]
  split
  · exact h
  · exact h
  · next triple _ =>
    split
    · next hvalid =>
      rw [prepareCreate_reliable hholds.prepared]
      exact prepareAttest_agrees rfl (hholds.replacePrepared _)
        ⟨_, pending_reads hvalid (epochDigest_isHex hash _)⟩
    · exact h

theorem prepare_agrees (henv : Reliable hash env) (h : Agrees hash lifecycle store) :
    Agrees hash (prepare hash env lifecycle store).lifecycle (prepare hash env lifecycle store).store := by
  obtain ⟨hpersistence, approved, attested, hbegin⟩ := henv
  unfold prepare
  split
  · exact h
  · next habsent =>
    have hbody := prepareBody_agrees approved attested h (not_not.mp habsent)
    rw [mutation_reliable hbegin, hpersistence]
    split
    · exact hbody
    · simp only [prepareSettle, Bool.not_true, Bool.false_eq_true, if_false]
      split
      · exact ⟨hbody.loads, hbody.cached.prepared, hbody.cached.consumed, hbody.cached.grantRecord,
          hbody.cached.grant, hbody.cached.own⟩
      · exact hbody

theorem consumeBody_agrees (lifecycle : Lifecycle) (approved : Call (Option ApprovedRP2Triple))
    (attested : Call (Option PreparedBindingAttestation)) {prepared : Bytes} {get : Getter} (hholds : Holds store (some prepared) none none)
    (hreads : Reads hash prepared .prepared get) :
    Agrees hash (consumeBody hash (faithfulStore hash) lifecycle store prepared get
        (reliableSession approved attested)).lifecycle
      (consumeBody hash (faithfulStore hash) lifecycle store prepared get
        (reliableSession approved attested)).store ∧
    ((consumeBody hash (faithfulStore hash) lifecycle store prepared get
        (reliableSession approved attested)).result = .ok .ok →
      OwnsConsumed hash (consumeBody hash (faithfulStore hash) lifecycle store prepared get
        (reliableSession approved attested)).lifecycle) := by
  by_cases hepoch : get "epoch_digest" = some (.str (lifecycle.epochDigest hash))
  · rw [consumeBody_reliable hholds.prepared hepoch]
    have hconsumed : Reads hash (record .consumed (consumedValues hash get (lifecycle.epochDigest hash) prepared))
        .consumed _ :=
      consumed_reads (hreads.isDigest (by decide) (by decide)) (hreads.isDigest (by decide) (by decide))
        (epochDigest_isHex hash lifecycle)
    have howns : OwnsConsumed hash { lifecycle with
        consumed := some (record .consumed (consumedValues hash get (lifecycle.epochDigest hash) prepared))
        state := .consumedNoGrant } := ⟨_, _, rfl, hconsumed, rfl⟩
    exact ⟨⟨.consumed (hholds.replacePrepared _) ⟨_, hconsumed⟩, by simp, by simp, by simp, by simp,
      fun _ _ => howns⟩, fun _ => howns⟩
  · have hbody : consumeBody hash (faithfulStore hash) lifecycle store prepared get
        (reliableSession approved attested) =
          ⟨{ lifecycle with state := .stalePreparedNonlaunchable }, store, .ok .casMismatch⟩ := by
      simp only [consumeBody, faithfulStore_inspect]
      rw [if_neg (by simp [hholds.prepared]), if_pos hepoch]
    rw [hbody]
    exact ⟨⟨.prepared hholds ⟨_, hreads⟩, by simp, by simp, by simp, by simp, by simp⟩, by simp⟩

theorem consume_agrees (henv : Reliable hash env) (h : Agrees hash lifecycle store) :
    Agrees hash (consume hash env lifecycle store).lifecycle (consume hash env lifecycle store).store := by
  obtain ⟨hpersistence, approved, attested, hbegin⟩ := henv
  unfold consume
  split
  · exact h
  · next prepared hprepared =>
    split
    · exact h
    · next hactive =>
      obtain ⟨hstate, hlive⟩ : lifecycle.state = .prepared ∧ lifecycle.livePrepared = true := by
        simpa using hactive
      have hstale : Loads hash store .stalePreparedNonlaunchable := by simpa only [hstate, matching] using h.loads
      have hholds : Holds store (some prepared) none none := by
        cases hstale with
        | prepared hholds hrecord =>
          rw [← hprepared, h.cached.prepared hstate, hholds.prepared]
          exact hholds
      split
      · exact ⟨hstale, by simp, by simp, by simp, by simp, by simp⟩
      · next fields hfields =>
        have hreads := reads_of_validatedRecordOf hfields
        split
        · rw [mutation_reliable hbegin, hpersistence]
          obtain ⟨hagrees, howns⟩ := consumeBody_agrees lifecycle approved attested hholds hreads
          split
          · exact hagrees
          · next outcome hresult =>
            simp only [consumeSettle, Bool.not_true, Bool.false_eq_true, if_false]
            split
            · next hok =>
              obtain ⟨rfl, -⟩ := hok
              exact ⟨hagrees.loads, hagrees.cached.prepared, hagrees.cached.consumed, hagrees.cached.grantRecord,
                hagrees.cached.grant, fun _ _ => howns hresult⟩
            · exact hagrees
        · exact ⟨hstale, by simp, by simp, by simp, by simp, by simp⟩

theorem issueBody_agrees (approved : Call (Option ApprovedRP2Triple))
    (attested : Call (Option PreparedBindingAttestation)) {binding : WorkerGrantBindingAttestation}
    (hbinding : binding.valid = true) (hstate : lifecycle.state = .consumedNoGrant) (h : Agrees hash lifecycle store)
    (hconsumed : lifecycle.consumed = some consumed) (howns : OwnsConsumed hash lifecycle)
    (hpersistence : env.persistence = faithfulStore hash) :
    Agrees hash (issueBody hash env lifecycle store binding consumed (reliableSession approved attested)).lifecycle
      (issueBody hash env lifecycle store binding consumed (reliableSession approved attested)).store := by
  obtain ⟨hholds, hrecord⟩ : Holds store (some consumed) none none ∧ IsRecord hash consumed .consumed := by
    have hloads := h.loads
    rw [hstate] at hloads
    have hcached := h.cached.consumed (.inl hstate)
    cases hloads with
    | consumed hholds hrecord =>
      rw [hconsumed, hholds.prepared] at hcached
      obtain rfl := Option.some.inj hcached
      exact ⟨hholds, hrecord⟩
  unfold issueBody
  simp only [hpersistence, faithfulStore_inspect]
  rw [if_neg (by simp [hholds.prepared, hholds.grant])]
  split
  · exact h
  · next issuedMonotonicNs _ =>
    split
    · exact h
    · next hclock =>
      split
      · exact h
      · next raw _ =>
        split
        · exact h
        · rw [issueCreate_reliable hholds.grant]
          obtain ⟨consumed', get, hconsumed', hreads, hepoch⟩ := howns
          obtain rfl := Option.some.inj (hconsumed.symm.trans hconsumed')
          have hgrant : Reads hash (record .grantIssued (issuedValues hash binding consumed
              (lifecycle.epochDigest hash) (hash.hexdigest (.raw raw)) issuedMonotonicNs)) .grantIssued _ :=
            issued_reads hbinding (epochDigest_isHex hash lifecycle) (hash.digest _) (by omega) (by omega)
          refine ⟨.issued (hholds.replaceGrant _) hreads hgrant ⟨rfl, hepoch.symm⟩, by simp, ?_, by simp, by simp,
            by simp⟩
          simp [hconsumed, hholds.prepared]

theorem issueGrant_agrees (henv : Reliable hash env) (h : Agrees hash lifecycle store)
    (binding : WorkerGrantBindingAttestation) :
    Agrees hash (issueGrant hash env lifecycle store binding).lifecycle
      (issueGrant hash env lifecycle store binding).store := by
  obtain ⟨hpersistence, approved, attested, hbegin⟩ := henv
  unfold issueGrant
  split
  · exact h
  · next consumed hauthorized =>
    obtain ⟨hconsumed, hbinding, hstate, hlive⟩ := issueAuthorized_some hauthorized
    have hbody := issueBody_agrees approved attested hbinding hstate h hconsumed
      (h.cached.own hstate hlive) hpersistence
    rw [mutation_reliable hbegin]
    split
    · exact hbody
    · simp only [issueSettle, Bool.not_true, Bool.false_eq_true, if_false]
      split <;> exact ⟨hbody.loads, hbody.cached.prepared, hbody.cached.consumed, hbody.cached.grantRecord,
        hbody.cached.grant, hbody.cached.own⟩

theorem takeGrantCapability_agrees (h : Agrees hash lifecycle store) :
    Agrees hash (takeGrantCapability lifecycle).1 store := by
  rcases takeGrantCapability_spec lifecycle with hidle | ⟨raw, -, -, -, htake⟩
  · rw [hidle]
    exact h
  · rw [htake]
    exact ⟨h.loads, h.cached.prepared, h.cached.consumed, h.cached.grantRecord, h.cached.grant, h.cached.own⟩

theorem authorizeGrant_agrees (h : Agrees hash lifecycle store) (presentedRaw : List UInt8) :
    Agrees hash (authorizeGrant hash env lifecycle presentedRaw).1 store := by
  rcases authorizeGrant_spec hash env lifecycle presentedRaw with ⟨_, -, hidle⟩ | ⟨-, grant, -, hused⟩
  · rw [hidle]
    exact h
  · rw [hused]
    exact ⟨h.loads, h.cached.prepared, h.cached.consumed, h.cached.grantRecord, by simp, h.cached.own⟩

theorem Agrees.issued (h : Agrees hash lifecycle store) (hstate : lifecycle.state = .issued) {grantRecord : Bytes}
    (hrecord : lifecycle.grantRecord = some grantRecord)
    (hconsumed : lifecycle.consumed = some consumed) :
    ∃ consumedGet grantGet, Holds store (some consumed) (some grantRecord) none ∧
      Reads hash consumed .consumed consumedGet ∧ Reads hash grantRecord .grantIssued grantGet ∧
      Belongs hash consumed consumedGet grantGet := by
  have hloads := h.loads
  rw [hstate] at hloads
  have hsame := h.cached.consumed (.inr (.inl hstate))
  have hsame' := h.cached.grantRecord (.inl hstate)
  cases hloads with
  | issued hholds hreads hgrant hbelongs =>
    rw [hconsumed, hholds.prepared] at hsame
    rw [hrecord, hholds.grant] at hsame'
    obtain rfl := Option.some.inj hsame
    obtain rfl := Option.some.inj hsame'
    exact ⟨_, _, hholds, hreads, hgrant, hbelongs⟩

def RevokesOwn (hash : Sha256) (lifecycle : Lifecycle) : Prop :=
  lifecycle.state = .issued → OwnsConsumed hash lifecycle

theorem revokeGrant_agrees (henv : Reliable hash env) (h : Agrees hash lifecycle store) (hsound : lifecycle.Sound)
    (howns : RevokesOwn hash lifecycle) :
    Agrees hash (revokeGrant hash env lifecycle store).lifecycle (revokeGrant hash env lifecycle store).store := by
  obtain ⟨hpersistence, approved, attested, hbegin⟩ := henv
  unfold revokeGrant
  split
  · next grant grantRecord consumed hgrant hrecord hconsumed =>
    split
    · exact h
    · next hstate =>
      replace hstate := not_not.mp hstate
      obtain ⟨consumedGet, grantGet, hholds, hreads, hissued, -⟩ := h.issued hstate hrecord hconsumed
      obtain ⟨consumed', get, hconsumed', hreads', hepoch⟩ := howns hstate
      obtain rfl := Option.some.inj (hconsumed.symm.trans hconsumed')
      obtain ⟨fields, hfields, -⟩ := hissued.validatedRecordOf
      have hissued' := reads_of_validatedRecordOf hfields
      obtain ⟨hdigest, hfrom, hexpires, hwindow⟩ := hsound.grant grant hgrant
      have hrevoked : Reads hash (record .grantRevoked (revokedValues hash (getter fields) consumed
          (lifecycle.epochDigest hash) grant grantRecord)) .grantRevoked _ := revoked_reads
        (hissued'.isDigest (by decide) (by decide)) (hissued'.isDigest (by decide) (by decide))
        (epochDigest_isHex hash lifecycle) hdigest hfrom hexpires hwindow
      simp only
      rw [mutation_reliable hbegin, hpersistence, revokeBody_reliable hholds.grant hfields]
      refine ⟨.revoked (hholds.replaceGrant _) hreads' hrevoked ⟨rfl, hepoch.symm⟩, ?_, ?_, ?_, ?_, ?_⟩
      · simp [revokeSettle]
      · simp [revokeSettle, hconsumed, hholds.prepared]
      · simp [revokeSettle]
      · simp [revokeSettle]
      · simp [revokeSettle]
  · exact h

theorem terminalReceipt_of_binding {binding : TerminalBindingAttestation} {disposition : GrantDisposition} {grantRecord revoked : Option Bytes}
    (h : terminalReceiptMatchesLifecycle hash (getter binding.recordFields) consumedGet revoked = true) :
    terminalReceiptMatchesLifecycle hash
      (getter (recordFields .terminal (terminalValues hash binding consumed disposition grantRecord))) consumedGet
      revoked = true := h

theorem terminalize_agrees (henv : Reliable hash env) (h : Agrees hash lifecycle store)
    (binding : TerminalBindingAttestation) :
    Agrees hash (terminalize hash env lifecycle store binding).lifecycle
      (terminalize hash env lifecycle store binding).store := by
  obtain ⟨hpersistence, approved, attested, hbegin⟩ := henv
  unfold terminalize
  split
  · exact h
  · next disposition consumed hauthorized =>
    obtain ⟨hbinding, hconsumed, hstate, fields, hfields, hreceipt⟩ := terminalAuthorized_ok hauthorized
    have hreads := reads_of_validatedRecordOf hfields
    rw [mutation_reliable hbegin, hpersistence]
    rcases hstate with ⟨rfl, hstate⟩ | ⟨rfl, hstate⟩
    · have hholds : Holds store (some consumed) none none := by
        have hsame := h.cached.consumed (.inl hstate)
        have hloads : Loads hash store .consumedNoGrant := by simpa only [hstate, matching] using h.loads
        cases hloads with
        | consumed hholds _ =>
          rw [hconsumed, hholds.prepared] at hsame
          obtain rfl := Option.some.inj hsame
          exact hholds
      have hterminal : Reads hash (record .terminal (terminalValues hash binding consumed .notIssued none))
          .terminal _ := terminal_reads hbinding (by simp)
      rw [terminalizeBody_notIssued hholds.prepared hholds.terminal]
      refine ⟨.notIssued (hholds.replaceTerminal _) hreads hterminal
        ⟨rfl, rfl, rfl, terminalReceipt_of_binding hreceipt⟩, ?_, ?_, ?_, ?_, ?_⟩ <;> simp [terminalizeSettle]
    · have hsame := h.cached.consumed (.inr (.inr hstate))
      have hsame' := h.cached.grantRecord (.inr hstate)
      have hloads : Loads hash store .revokedTerminalPending := by simpa only [hstate, matching] using h.loads
      cases hloads with
      | revoked hholds hreads' hgrant hbelongs =>
        rw [hconsumed, hholds.prepared] at hsame
        obtain rfl := Option.some.inj hsame
        rw [hholds.grant] at hsame'
        obtain ⟨-, rfl⟩ := hreads.unique hreads'
        rw [if_pos rfl, hsame'] at hreceipt
        have hbody : terminalizeBody hash (faithfulStore hash) lifecycle store binding .revoked consumed
            (reliableSession approved attested) =
              ⟨{ lifecycle with state := .terminal }, Function.update store .terminal
                (some (record .terminal (terminalValues hash binding consumed .revoked lifecycle.grantRecord))),
                .ok .ok⟩ := by
          simp only [terminalizeBody, faithfulStore_inspect]
          rw [if_neg (by simp [hholds.prepared]), if_neg (by simp [hholds.terminal]),
            if_neg (by simp [hholds.grant, hsame']), terminalCreate_reliable hholds.terminal]
        have hterminal : Reads hash (record .terminal (terminalValues hash binding consumed .revoked
            lifecycle.grantRecord)) .terminal _ := terminal_reads hbinding (by simp [hsame'])
        rw [hbody]
        refine ⟨.terminal (hholds.replaceTerminal _) hreads hgrant hbelongs hterminal
          ⟨rfl, rfl, by rw [hsame']; rfl, terminalReceipt_of_binding hreceipt⟩, ?_, ?_, ?_, ?_, ?_⟩ <;>
          simp [terminalizeSettle]

theorem Operation.run_agrees (operation : Operation) (henv : Reliable hash env) (h : Agrees hash lifecycle store)
    (hsound : lifecycle.Sound) (howns : operation = .revokeGrant → RevokesOwn hash lifecycle) :
    Agrees hash (operation.run hash env lifecycle store).lifecycle
      (operation.run hash env lifecycle store).store := by
  cases operation with
  | prepare => exact prepare_agrees henv h
  | consume => exact consume_agrees henv h
  | issueGrant binding => exact issueGrant_agrees henv h binding
  | takeGrantCapability => exact takeGrantCapability_agrees h
  | authorizeGrant presentedRaw => exact authorizeGrant_agrees h presentedRaw
  | revokeGrant => exact revokeGrant_agrees henv h hsound (howns rfl)
  | terminalize binding => exact terminalize_agrees henv h binding

end Agrees

/-! ## Runs in which each new instance takes the store over -/

def ActsNewest (hash : Sha256) (w : World) : Action → Prop
  | .construct env _ => Reliable hash env
  | .operate i _ env => Reliable hash env ∧ i + 1 = w.lifecycles.length

def RevokesOwnEpoch (hash : Sha256) (w : World) : Action → Prop
  | .operate i .revokeGrant _ => ∀ caller, w.lifecycles[i]? = some caller → RevokesOwn hash caller
  | _ => True

def TakesOver (hash : Sha256) (w : World) (action : Action) : Prop :=
  ActsNewest hash w action ∧ RevokesOwnEpoch hash w action

structure HandedOver (hash : Sha256) (w : World) : Prop where
  loads : ∃ state, Loads hash w.store state
  newest : ∀ i lifecycle, i + 1 = w.lifecycles.length → w.lifecycles[i]? = some lifecycle →
    lifecycle.Sound ∧ Agrees hash lifecycle w.store

theorem construct_agrees (henv : Reliable hash env) {epoch : List UInt8}
    (h : Loads hash store state) (hnew : construct hash env epoch store = .ok lifecycle) :
    lifecycle.state = state ∧ Agrees hash lifecycle store := by
  have hepoch : epoch.length = 32 := by
    by_contra hlength
    simp [construct, hlength] at hnew
  rw [construct_reliable henv hepoch] at hnew
  obtain ⟨hstate, hcached⟩ := h.load epoch
  obtain rfl := Except.ok.inj hnew
  refine ⟨hstate, ?_, hcached⟩
  rw [hstate, h.matching]
  exact h

theorem HandedOver.step {action : Action} (h : HandedOver hash w) (htakes : TakesOver hash w action) :
    HandedOver hash (step hash w action) := by
  have hstepped := step_cases hash w action
  generalize Authority.step hash w action = after at hstepped ⊢
  cases hstepped with
  | idle => exact h
  | constructed env epoch lifecycle hnew =>
    obtain ⟨state, hloads⟩ := h.loads
    refine ⟨⟨state, hloads⟩, fun i found hlast hfound => ?_⟩
    obtain rfl : i = w.lifecycles.length := by simpa using hlast
    obtain rfl : lifecycle = found := by simpa using hfound
    exact ⟨(construct_fresh hnew).sound, (construct_agrees htakes.1 hloads hnew).2⟩
  | operated i operation env caller hcaller done hdone =>
    obtain ⟨⟨henv, hlast⟩, howns⟩ := htakes
    obtain ⟨hsound, hagrees⟩ := h.newest i caller hlast hcaller
    have hagrees' := operation.run_agrees henv hagrees hsound (by rintro rfl; exact howns caller hcaller)
    have hsound' := (operation.run_effect henv.contract hsound w.store).sound
    rw [hdone] at hagrees' hsound'
    refine ⟨⟨_, hagrees'.loads⟩, fun j found hlast' hfound => ?_⟩
    rw [List.length_set] at hlast'
    obtain rfl : j = i := by omega
    rcases getElem?_replaced hfound with ⟨-, rfl⟩ | ⟨hne, -⟩
    · exact ⟨hsound', hagrees'⟩
    · exact absurd rfl hne

theorem reachable_handedOver (h : ReachableBy (system hash) (TakesOver hash) w) : HandedOver hash w := by
  refine h.invariant ?_ ?_
  · rintro w rfl
    exact ⟨⟨_, .absent ⟨rfl, rfl, rfl⟩⟩, by simp⟩
  · rintro w action _ hw htakes rfl
    exact hw.step htakes

/-- Load undoes write: in a run in which each instance revokes only grants of its own epoch, a new instance
never finds the leaves invalid, and after every successful operation it finds the matching state. -/
theorem load_undoes_write (h : ReachableBy (system hash) (TakesOver hash) w) {env : Environment}
    (henv : Reliable hash env) {epoch : List UInt8} (hepoch : epoch.length = 32) :
    (∃ loaded, construct hash env epoch w.store = .ok loaded ∧ loaded.state ≠ .presentInvalid) ∧
      ∀ i operation actor caller, w.lifecycles[i]? = some caller → TakesOver hash w (.operate i operation actor) →
        (operation.run hash actor caller w.store).reply = .ok →
        ∃ loaded, construct hash env epoch (operation.run hash actor caller w.store).store = .ok loaded ∧
          loaded.state = matching (operation.run hash actor caller w.store).lifecycle.state := by
  have hover := reachable_handedOver h
  refine ⟨?_, fun i operation actor caller hcaller ⟨⟨hactor, hlast⟩, howns⟩ _ => ?_⟩
  · obtain ⟨state, hloads⟩ := hover.loads
    refine ⟨_, construct_reliable henv hepoch, ?_⟩
    rw [(hloads.load epoch).1]
    rintro rfl
    cases hloads
  · obtain ⟨hsound, hagrees⟩ := hover.newest i caller hlast hcaller
    have hagrees' := operation.run_agrees hactor hagrees hsound (by rintro rfl; exact howns caller hcaller)
    exact ⟨_, construct_reliable henv hepoch, (hagrees'.loads.load epoch).1⟩

/-! ## A grant of another epoch -/

theorem load_foreign {grant : Bytes}
    (h : Holds store (some consumed) (some grant) none) (hconsumed : Reads hash consumed .consumed consumedGet)
    (hgrant : Reads hash grant .grantRevoked grantGet) (hforeign : grantGet "epoch_digest" ≠ consumedGet "epoch_digest")
    (epoch : List UInt8) :
    (loadInspections hash { epoch } (observed hash .prepared (store .prepared)) (observed hash .grant (store .grant))
      (observed hash .terminal (store .terminal))).state = .presentInvalid := by
  obtain ⟨fields, hfields, rfl⟩ := hconsumed
  obtain ⟨grantFields, hgrantFields, rfl⟩ := hgrant
  have hinspection : loadGrantInspection hash consumed (getter fields) (getter grantFields) = none := by
    unfold loadGrantInspection
    split
    · simp [hforeign]
    · rfl
  unfold loadInspections
  rw [find_suppressed]
  simp only [observed, h.prepared, h.grant, h.terminal, hfields, loadConsumed, hgrantFields, hinspection]
  rfl

theorem revokeGrant_loads_iff (henv : Reliable hash env) (h : Agrees hash lifecycle store) (hsound : lifecycle.Sound)
    (hstate : lifecycle.state = .issued) {loader : Environment} (hloader : Reliable hash loader)
    {epoch : List UInt8} (hepoch : epoch.length = 32) :
    (revokeGrant hash env lifecycle store).result = .ok .ok ∧
      ∃ loaded, construct hash loader epoch (revokeGrant hash env lifecycle store).store = .ok loaded ∧
        (OwnsConsumed hash lifecycle → loaded.state = .revokedTerminalPending) ∧
        (¬ OwnsConsumed hash lifecycle → loaded.state = .presentInvalid) := by
  have hloads : Loads hash store .issued := by simpa only [hstate, matching] using h.loads
  have hsame := h.cached.consumed (.inr (.inl hstate))
  have hrecord := h.cached.grantRecord (.inl hstate)
  obtain ⟨grant, hgrant⟩ := Option.ne_none_iff_exists'.mp (h.cached.grant hstate)
  cases hloads with
  | @issued consumed grantRecord consumedGet grantGet hholds hreads hissued hbelongs =>
    obtain ⟨hpersistence, approved, attested, hbegin⟩ := henv
    rw [hholds.prepared] at hsame
    rw [hholds.grant] at hrecord
    obtain ⟨hdigest, hfrom, hexpires, hwindow⟩ := hsound.grant grant hgrant
    have hrevoked : Reads hash (record .grantRevoked (revokedValues hash grantGet consumed
        (lifecycle.epochDigest hash) grant grantRecord)) .grantRevoked _ := revoked_reads
      (hissued.isDigest (by decide) (by decide)) (hissued.isDigest (by decide) (by decide))
      (epochDigest_isHex hash lifecycle) hdigest hfrom hexpires hwindow
    rw [revokeGrant_reliable hbegin hpersistence hstate hgrant hrecord hsame hholds.grant hissued rfl]
    have hholds' := hholds.replaceGrant (some (record .grantRevoked (revokedValues hash grantGet consumed
      (lifecycle.epochDigest hash) grant grantRecord)))
    refine ⟨rfl, _, construct_reliable hloader hepoch, fun howns => ?_, fun hforeign => ?_⟩
    · obtain ⟨consumed', get, hconsumed', hreads', howned⟩ := howns
      obtain rfl := Option.some.inj (hsame.symm.trans hconsumed')
      obtain ⟨-, rfl⟩ := hreads.unique hreads'
      exact ((Loads.revoked hholds' hreads hrevoked ⟨rfl, howned.symm⟩).load epoch).1
    · refine load_foreign hholds' hreads hrevoked (fun hepochs => ?_) epoch
      exact hforeign ⟨consumed, consumedGet, hsame, hreads, hepochs.symm⟩

namespace Sample

theorem repeated_injective : Function.Injective repeated := by
  intro digit digit' h
  have hlists : List.replicate 64 digit = List.replicate 64 digit' := by
    simpa [repeated] using congrArg String.toList h
  simpa using hlists

theorem environment_reliable : Reliable Sample.hash environment := ⟨rfl, _, _, rfl⟩

theorem issuedStore_loads : Loads Sample.hash issuedStore .issued :=
  .issued ⟨rfl, rfl, rfl⟩ consumedRecord_reads issuedRecord_reads ⟨rfl, rfl⟩

theorem reloaded_foreign : ¬ OwnsConsumed Sample.hash reloaded := by
  rintro ⟨consumed, get, hconsumed, hreads, hepoch⟩
  obtain rfl : consumedRecord = consumed := Option.some.inj hconsumed
  obtain ⟨-, rfl⟩ := consumedRecord_reads.unique hreads
  have hdigests : Sample.hash.hexdigest (.raw epoch) = Sample.hash.hexdigest (.raw laterEpoch) :=
    Value.str.inj (Option.some.inj hepoch)
  exact absurd (repeated_injective hdigests) (by decide)

def takeoverRun : List Action := [.construct environment laterEpoch, .operate 1 .revokeGrant environment]

theorem issueRun_actsNewest : Guarded (step Sample.hash) (ActsNewest Sample.hash) {} issueRun := by
  have henv := environment_reliable
  exact ⟨henv, ⟨henv, rfl⟩, ⟨henv, rfl⟩, ⟨henv, rfl⟩, trivial⟩

theorem issueRun_takesOver : Guarded (step Sample.hash) (TakesOver Sample.hash) {} issueRun := by
  have henv := environment_reliable
  exact ⟨⟨henv, trivial⟩, ⟨⟨henv, rfl⟩, trivial⟩, ⟨⟨henv, rfl⟩, trivial⟩, ⟨⟨henv, rfl⟩, trivial⟩, trivial⟩

end Sample

/-- An instance that takes an issued grant over revokes it successfully, and leaves a store that loads as
invalid. -/
theorem load_revoked_invalid :
    ∃ w, ReachableBy (system Sample.hash) (ActsNewest Sample.hash) w ∧
      w.history.map Event.reply = [.ok, .ok, .ok, .ok] ∧
      ∃ loaded, construct Sample.hash Sample.environment Sample.epoch w.store = .ok loaded ∧
        loaded.state = .presentInvalid := by
  have henv := Sample.environment_reliable
  have hagrees := (construct_agrees henv Sample.issuedStore_loads Sample.construct_reloaded).2
  have hsound := (construct_fresh Sample.construct_reloaded).sound
  have hepoch : Sample.epoch.length = 32 := rfl
  obtain ⟨hok, loaded, hloaded, -, hinvalid⟩ := revokeGrant_loads_iff henv hagrees hsound rfl henv hepoch
  refine ⟨_, reachableBy_foldl Sample.takeoverRun (Sample.issueRun_reachable Sample.issueRun_actsNewest)
    ⟨henv, ⟨henv, ?_⟩, trivial⟩, ?_, loaded, ?_, hinvalid Sample.reloaded_foreign⟩
  · simp [step, Sample.construct_reloaded]
  · simp [Sample.takeoverRun, step, Sample.construct_reloaded, Operation.run, hok, Sample.issueHistory]
  · simpa [Sample.takeoverRun, step, Sample.construct_reloaded, Operation.run] using hloaded

/-- The issued grant is found again. -/
theorem load_undoes_write_issued :
    ∃ loaded, construct Sample.hash Sample.environment Sample.laterEpoch Sample.issuedStore = .ok loaded ∧
      loaded.state ≠ .presentInvalid :=
  (load_undoes_write (Sample.issueRun_reachable Sample.issueRun_takesOver) Sample.environment_reliable rfl).1

end PduExamObserver.Authority
