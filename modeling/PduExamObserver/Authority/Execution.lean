import PduExamObserver.Authority.BridgeStore
import PduExamObserver.Authority.UseOnce

/-! # What a bridge does and reports

Whatever its authority and its driver do, a bridge drives once, revokes before it ends and terminalizes after that.
A terminal result is about the stored record, or about one that another instance has written before. -/

namespace PduExamObserver.Authority
open Canonical Stateful History Transition BridgeCall
set_option autoImplicit false

def StoresReceipt (hash : Sha256) (digest : String) (store : Store) : Prop :=
  ∃ terminal get text, store .terminal = some terminal ∧ Reads hash terminal .terminal get ∧
    get "grant_disposition" = some (.str GrantDisposition.revoked.value) ∧
    get "receipt_digest" = some (.str digest) ∧ get "receipt_json" = some (.json text) ∧
    hash.hexdigest (.text text) = digest

/-- How a terminal result with this digest comes about: `terminalize` was called with the receipt, and has stored it
or found a terminal record. -/
def StoredOrPresent (hash : Sha256) (calls : List BridgeCall) (store : Store) (digest : String) : Prop :=
  ∃ binding outcome, BridgeCall.terminalized binding (.ok outcome) ∈ calls ∧ binding.receiptDigest = digest ∧
    (outcome = .ok ∧ StoresReceipt hash digest store ∨ outcome = .terminalAlreadyPresent)

variable {σ α β : Type} {rt : NativeRuntime} {frame : BridgeFrame σ} {i : Nat}

theorem run_ownKept {deviceName preparedAuthorityDigest : String} {attestation : Option PreparedBindingAttestation}
    {s : SharedStore rt.hash i} (hhosts : Hosts rt.hash i s.world) {answer : Except Thrown D1N2ExecutionResult}
    {after : BridgeLife (SharedStore rt.hash i)}
    (h : (ownBridge rt.hash i deviceName preparedAuthorityDigest attestation).run rt { world := s } = (answer, after)) :
    OwnKept after.world after.calls := by
  have hstart : OwnKept s [] := ⟨hhosts, by simp, fun before binding after heq => by simp at heq⟩
  have hkept : OwnKept
      ((ownBridge rt.hash i deviceName preparedAuthorityDigest attestation).run rt { world := s }).2.world
      ((ownBridge rt.hash i deviceName preparedAuthorityDigest attestation).run rt { world := s }).2.calls :=
    run_keeps (ownBridge_kept deviceName preparedAuthorityDigest attestation) hstart
  rw [h] at hkept
  exact hkept

theorem ownRun_terminal {deviceName preparedAuthorityDigest : String} {attestation : Option PreparedBindingAttestation}
    {s : SharedStore rt.hash i} (hhosts : Hosts rt.hash i s.world) {result : D1N2ExecutionResult}
    {after : BridgeLife (SharedStore rt.hash i)}
    (h : (ownBridge rt.hash i deviceName preparedAuthorityDigest attestation).run rt { world := s } = (.ok result, after))
    (hterminal : result.status = .terminal) :
    ∃ digest, result.receiptDigest = some digest ∧
      StoredOrPresent rt.hash after.calls after.world.world.store digest := by
  have hkept := run_ownKept hhosts h
  obtain ⟨-, hfinished, hreported⟩ := run_finished (fun _ => rfl) finished_nil h
  obtain ⟨binding, outcome, hmem, houtcome, hdigest, text, htext, hhash⟩ := hreported _ rfl hterminal
  refine ⟨_, hdigest, binding, outcome, hmem, rfl, houtcome.imp_left fun hok => ⟨hok, ?_⟩⟩
  obtain ⟨before, rest, hsplit⟩ := List.append_of_mem hmem
  rw [hok] at hsplit
  have hissued := (hfinished.order.terminalized before _ rest hsplit trivial).exists_mem (List.mem_cons_self ..)
  obtain ⟨terminal, get, hstored, hreads, hdisposition, hreceipt, hjson⟩ := hkept.stored before binding rest hsplit hissued
  exact ⟨terminal, get, text, hstored, hreads, hdisposition, hreceipt, hjson.trans (congrArg some htext), hhash⟩

/-- Over the life of a bridge the driver is called at most once, and only after `consume`, `issue_grant`,
`take_grant_capability` and `authorize_grant` have succeeded in this order; when no run is going on, a grant that was
issued, or is reported, has been revoked, or that was tried, and after `issue_grant` was called nothing was revoked only
if `grant_record_bytes` has not reported a record since; `terminalize` comes after a revocation that succeeded. A
terminal result has the digest of a receipt that `terminalize` was called with, and if that succeeded, then the stored
terminal record says `REVOKED` and contains the receipt. -/
theorem execution_single_shot :
    (∀ (σ : Type) (rt : NativeRuntime) (bridge : D1N2ExecutionBridge σ) (life : BridgeLife σ),
      Reachable (lifeSystem rt bridge) life →
        AtMostOnce Drives life.calls ∧ Preceded granting Drives life.calls ∧
        ((∃ c ∈ life.calls, c.Issued ∨ c.Reports) → ∃ c ∈ life.calls, c.Revokes) ∧
        ((∃ c ∈ life.calls, c.IssueAsked) →
          (∃ c ∈ life.calls, c.Revokes) ∨ Occurs [IssueAsked, Unreported] life.calls) ∧
        Preceded [Issued, Revoked] BridgeCall.Terminalizes life.calls ∧
        ∀ result after, bridge.run rt life = (.ok result, after) → result.status = .terminal →
          Reported rt after.calls result.receiptDigest) ∧
    ∀ (rt : NativeRuntime) (i : Nat) (deviceName preparedAuthorityDigest : String)
      (attestation : Option PreparedBindingAttestation) (s : SharedStore rt.hash i) (result : D1N2ExecutionResult)
      (after : BridgeLife (SharedStore rt.hash i)), Hosts rt.hash i s.world →
      (ownBridge rt.hash i deviceName preparedAuthorityDigest attestation).run rt { world := s } = (.ok result, after) →
      result.status = .terminal →
        ∃ digest, result.receiptDigest = some digest ∧
          StoredOrPresent rt.hash after.calls after.world.world.store digest := by
  refine ⟨fun σ rt bridge life h => ?_, ?_⟩
  · obtain ⟨hunused, hfinished⟩ := life_finished h
    refine ⟨hfinished.order.once, hfinished.order.granted, hfinished.revokes, hfinished.asks, hfinished.order.terminalized,
      fun result after hrun hterminal => ?_⟩
    exact (run_finished hunused hfinished hrun).2.2 result rfl hterminal
  · intro rt i deviceName preparedAuthorityDigest attestation s result after hhosts hrun hterminal
    exact ownRun_terminal hhosts hrun hterminal

/-! ## A run that succeeds -/

section

variable {Q : Except BridgeExit β → BridgeFrame σ → Prop} {f : α → BridgeM σ β}

theorem ends_call_ok {entry : Except Thrown α → BridgeCall} {act : Act σ α} {answer : α} {world : σ}
    (hact : act frame.world = (.ok answer, world))
    (h : Ends (f answer) (frame.called world (entry (.ok answer))) Q) : Ends (bridgeCall entry act >>= f) frame Q := by
  rw [Ends, EStateM.run_bind]
  simp only [bridgeCall, EStateM.run, hact]
  exact h

theorem ends_proceedIf_ok {p : Prop} [Decidable p] {f : Unit → BridgeM σ β} (hp : p) (h : Ends (f ()) frame Q) :
    Ends (proceedIf p >>= f) frame Q := by
  rw [proceedIf, if_pos hp]
  exact h

theorem ends_proceedWith_ok {value : Option α} {a : α} (hvalue : value = some a) (h : Ends (f a) frame Q) :
    Ends (proceedWith value >>= f) frame Q := by
  rw [hvalue]
  exact h

theorem ends_exceptException_ok {R : α → BridgeFrame σ → Prop} {x handle : BridgeM σ α}
    (hx : Ends x frame fun result t => ∃ a, result = .ok a ∧ R a t) :
    Ends (exceptException x handle) frame fun result t => ∃ a, result = .ok a ∧ R a t :=
  ends_exceptException hx (fun _ _ h => h) (fun _ ⟨_, heq, _⟩ => nomatch heq) fun _ _ h => h

end

variable {evidence : VerifiedTerminalEvidence} {binding : TerminalBindingAttestation}

theorem run_completed {bridge : D1N2ExecutionBridge σ} {w₀ w₁ w₂ w₃ w₄ w₅ w₆ w₇ w₈ w₉ w₁₀ w₁₁ w₁₂ : σ}
    {attestation : PreparedBindingAttestation} {challenge capability : List UInt8} {grantRecord : Bytes}
    {result : D1N2DriverResult} {revoked : Option Bytes} {retained : Option RetainedLeaseCleanup}
    {outcome : PersistenceOutcome}
    (hname : safeDeviceName rt bridge.deviceName = true) (hdigest : isHexDigest bridge.preparedAuthorityDigest = true)
    (hattestation : bridge.preparedAttestation = some attestation) (hchallenge : challenge.length = 32)
    (hcapability : capability.length = 32) (hgrant : grantRecord.isEmpty = false)
    (hvalid : bridge.authority.revalidateForRun w₀ = (.ok true, w₁))
    (hconsume : bridge.authority.consume w₁ = (.ok .ok, w₂))
    (hentropy : bridge.challengeEntropy w₂ = (.ok (some challenge), w₃))
    (hissue : bridge.authority.issueGrant (bridge.workerBinding rt attestation (hexText challenge)) w₃ = (.ok .ok, w₄))
    (htake : bridge.authority.takeGrantCapability w₄ = (.ok (some capability), w₅))
    (hread : bridge.authority.grantRecordBytes w₅ = (.ok (some grantRecord), w₆))
    (hauthorize : bridge.authority.authorizeGrant capability w₆ = (.ok .ok, w₇))
    (hdrive : ∀ request, bridge.driver request w₇ = (.ok result, w₈))
    (hrevoke : bridge.authority.revokeGrant w₈ = (.ok .ok, w₉))
    (hrevoked : bridge.authority.grantRecordBytes w₉ = (.ok revoked, w₁₀))
    (hclose : bridge.authority.closeRetainedForTerminal w₁₀ = (.ok retained, w₁₁))
    (hevidence : ∀ frame : BridgeFrame σ, frame.driverResult = some result →
      frame.challengeDigest = challengeDigest rt (hexText challenge) →
      frame.jobNameDigest = jobNameDigest rt (hexText challenge) →
      bridge.terminalEvidence rt frame true revoked retained = some (result, evidence))
    (hterminalize : bridge.authority.terminalize (.fromEvidence evidence result.nativeSideEffectCount) w₁₁ =
      (.ok outcome, w₁₂)) (houtcome : outcome = .ok ∨ outcome = .terminalAlreadyPresent) :
    ∃ calls, bridge.run rt { world := w₀ } =
      (.ok (D1N2ExecutionBridge.conclude (some result) true (some evidence.receiptDigest)), ⟨true, w₁₂, calls⟩) := by
  have hdriven : Ends (bridge.attempt rt) { world := w₀ } fun ended frame => ∃ a, ended = .ok a ∧ frame.world = w₈ ∧
      frame.grantIssued = true ∧ frame.driverResult = some result ∧
      frame.challengeDigest = challengeDigest rt (hexText challenge) ∧
      frame.jobNameDigest = jobNameDigest rt (hexText challenge) := by
    refine ends_proceedIf_ok ⟨hname, hdigest⟩ (ends_call_ok hvalid (ends_proceedIf_ok rfl ?_))
    refine ends_call_ok hconsume (ends_proceedIf_ok rfl (ends_proceedWith_ok hattestation ?_))
    refine ends_call_ok hentropy (ends_proceedWith_ok (a := challenge) (by simp [hchallenge]) ?_)
    refine Ends.modify_bind (ends_call_ok hissue (ends_proceedIf_ok rfl (Ends.modify_bind ?_)))
    refine ends_call_ok htake (ends_proceedWith_ok (a := capability) (by simp [hcapability]) ?_)
    refine ends_call_ok hread (ends_proceedWith_ok (a := grantRecord) (by simp [hgrant]) ?_)
    refine ends_call_ok hauthorize (ends_proceedIf_ok rfl ?_)
    refine ends_call_ok (hdrive _) (Ends.modify ?_)
    exact ⟨(), rfl, rfl, rfl, rfl, rfl, rfl⟩
  have hattempt : Ends (bridge.guardedAttempt rt) { world := w₀ } fun ended frame => ∃ a, ended = .ok a ∧ a = none ∧
      frame.world = w₈ ∧ frame.grantIssued = true ∧ frame.driverResult = some result ∧
      frame.challengeDigest = challengeDigest rt (hexText challenge) ∧
      frame.jobNameDigest = jobNameDigest rt (hexText challenge) := by
    refine Ends.tryCatch (R := fun ended frame => ∃ a, ended = .ok a ∧ a = none ∧
      frame.world = w₈ ∧ frame.grantIssued = true ∧ frame.driverResult = some result ∧
      frame.challengeDigest = challengeDigest rt (hexText challenge) ∧
      frame.jobNameDigest = jobNameDigest rt (hexText challenge)) ?_ (fun _ _ h => h) fun _ _ ⟨_, heq, _⟩ => nomatch heq
    exact hdriven.bind (fun _ t ⟨_, _, h⟩ => ⟨none, rfl, rfl, h⟩) fun _ _ ⟨_, heq, _⟩ => nomatch heq
  have hbody : Ends (bridge.body rt) { world := w₀ } fun ended frame => ∃ a, ended = .ok a ∧
      a = D1N2ExecutionBridge.conclude (some result) true (some evidence.receiptDigest) ∧ frame.world = w₁₂ := by
    refine hattempt.bind ?_ fun _ _ ⟨_, heq, _⟩ => nomatch heq
    rintro _ t ⟨_, ⟨⟩, rfl, hworld, hissued, hresult, hchallenged, hjob⟩
    have hneeded : Ends bridge.revokeNeeded t fun ended frame => ∃ a, ended = .ok a ∧ a = (true, true) ∧ frame = t := by
      refine Ends.get_bind ?_
      rw [if_pos hissued]
      exact ⟨_, rfl, rfl, rfl⟩
    refine hneeded.bind ?_ fun _ _ ⟨_, heq, _⟩ => nomatch heq
    rintro _ t' ⟨_, ⟨⟩, rfl, rfl⟩
    have hcleaned : Ends (bridge.revoke true true) t' fun ended frame => ∃ a, ended = .ok a ∧ a = true ∧
        frame = t'.called w₉ (.revoked (.ok .ok)) := by
      refine ends_exceptException_ok (ends_call_ok (hworld ▸ hrevoke) ?_)
      exact ⟨_, rfl, rfl, rfl⟩
    refine hcleaned.bind ?_ fun _ _ ⟨_, heq, _⟩ => nomatch heq
    rintro _ _ ⟨_, ⟨⟩, rfl, rfl⟩
    have hsettled : Ends (bridge.settle rt true) (t'.called w₉ (.revoked (.ok .ok))) fun ended frame =>
        ∃ a, ended = .ok a ∧ a = (true, some evidence.receiptDigest) ∧ frame.world = w₁₂ ∧
          frame.driverResult = some result := by
      refine ends_exceptException_ok ?_
      have hrecord : Ends bridge.revokedRecord (t'.called w₉ (.revoked (.ok .ok))) fun ended frame =>
          ∃ a, ended = .ok a ∧ a = revoked ∧ frame = (t'.called w₉ (.revoked (.ok .ok))).called w₁₀ (.recordRead (.ok revoked)) := by
        have hcalled : (t'.called w₉ (.revoked (.ok .ok))).grantIssued = true := hissued
        refine Ends.get_bind ?_
        rw [if_pos hcalled, ← bind_pure (bridgeCall _ _)]
        exact ends_call_ok hrevoked ⟨_, rfl, rfl, rfl⟩
      refine hrecord.bind ?_ fun _ _ ⟨_, heq, _⟩ => nomatch heq
      rintro found _ ⟨_, ⟨⟩, rfl, rfl⟩
      refine ends_call_ok hclose (Ends.get_bind ?_)
      have hbuilt := hevidence (((t'.called w₉ (.revoked (.ok .ok))).called w₁₀ (.recordRead (.ok found))).called w₁₁
        (.closed (.ok retained))) hresult hchallenged hjob
      rw [hbuilt]
      refine ends_call_ok hterminalize ⟨_, rfl, ?_, rfl, hresult⟩
      simp [houtcome]
    refine hsettled.bind ?_ fun _ _ ⟨_, heq, _⟩ => nomatch heq
    rintro _ u ⟨_, ⟨⟩, rfl, hlast, hdriver⟩
    exact Ends.get_bind ⟨_, rfl, by rw [hdriver], hlast⟩
  obtain ⟨a, frame, hrun⟩ : ∃ a frame, (bridge.body rt).run { world := w₀ } = .ok a frame := by
    cases hrun : (bridge.body rt).run { world := w₀ } with
    | ok a frame => exact ⟨a, frame, rfl⟩
    | error exit frame =>
      obtain ⟨_, heq, -⟩ := hbody.error hrun
      cases heq
  obtain ⟨_, ⟨⟩, rfl, hlast⟩ := hbody.ok hrun
  refine ⟨frame.calls, ?_⟩
  rw [D1N2ExecutionBridge.run, if_neg Bool.false_ne_true, hrun, ← hlast]

theorem run_unissued {bridge : D1N2ExecutionBridge σ} {w₀ w₁ w₂ w₃ w₄ w₅ w₆ : σ}
    {attestation : PreparedBindingAttestation} {challenge : List UInt8} {retained : Option RetainedLeaseCleanup}
    {outcome : PersistenceOutcome} (hname : safeDeviceName rt bridge.deviceName = true)
    (hdigest : isHexDigest bridge.preparedAuthorityDigest = true)
    (hattestation : bridge.preparedAttestation = some attestation) (hchallenge : challenge.length = 32)
    (hvalid : bridge.authority.revalidateForRun w₀ = (.ok true, w₁))
    (hconsume : bridge.authority.consume w₁ = (.ok .ok, w₂))
    (hentropy : bridge.challengeEntropy w₂ = (.ok (some challenge), w₃))
    (hissue : bridge.authority.issueGrant (bridge.workerBinding rt attestation (hexText challenge)) w₃ =
      (.ok outcome, w₄)) (houtcome : outcome ≠ .ok)
    (hread : bridge.authority.grantRecordBytes w₄ = (.ok none, w₅))
    (hclose : bridge.authority.closeRetainedForTerminal w₅ = (.ok retained, w₆)) :
    ∃ calls, bridge.run rt { world := w₀ } = (.ok failedNonlaunchable, ⟨true, w₆, calls⟩) ∧
      ∀ c ∈ calls, ¬ c.Revokes := by
  let binding := bridge.workerBinding rt attestation (hexText challenge)
  let calls : List BridgeCall := [.revalidated (.ok true), .consumed (.ok .ok), .challenged (.ok (some challenge)),
    .issued binding (.ok outcome)]
  have hattempt : Ends (bridge.attempt rt) { world := w₀ } fun ended frame =>
      ended = .error (.leaves failedNonlaunchable) ∧ frame.world = w₄ ∧ frame.calls = calls ∧
        frame.grantAttempted = true ∧ frame.grantIssued = false ∧ frame.driverResult = none := by
    refine ends_proceedIf_ok ⟨hname, hdigest⟩ (ends_call_ok hvalid (ends_proceedIf_ok rfl ?_))
    refine ends_call_ok hconsume (ends_proceedIf_ok rfl (ends_proceedWith_ok hattestation ?_))
    refine ends_call_ok hentropy (ends_proceedWith_ok (a := challenge) (by simp [hchallenge]) ?_)
    refine Ends.modify_bind (ends_call_ok hissue (ends_proceedIf_bind (fun hok => absurd hok houtcome) ?_))
    exact ⟨rfl, rfl, rfl, rfl, rfl, rfl⟩
  have hguarded : Ends (bridge.guardedAttempt rt) { world := w₀ } fun ended frame =>
      ended = .ok (some (.leaves failedNonlaunchable)) ∧ frame.world = w₄ ∧ frame.calls = calls ∧
        frame.grantAttempted = true ∧ frame.grantIssued = false ∧ frame.driverResult = none := by
    refine Ends.tryCatch (R := fun ended frame => ended = .error (.leaves failedNonlaunchable) ∧ frame.world = w₄ ∧
      frame.calls = calls ∧ frame.grantAttempted = true ∧ frame.grantIssued = false ∧ frame.driverResult = none)
      ?_ (by rintro _ _ ⟨⟨⟩, -⟩) ?_
    · exact hattempt.bind (by rintro _ _ ⟨⟨⟩, -⟩) fun e t ht => ⟨by simpa using ht.1, ht.2⟩
    · rintro exit t ⟨⟨⟩, ht⟩
      exact ⟨rfl, ht⟩
  have hbody : Ends (bridge.body rt) { world := w₀ } fun ended frame =>
      ended = .error (.leaves failedNonlaunchable) ∧ frame.world = w₆ ∧
        frame.calls = calls ++ [.recordRead (.ok none)] ++ [.closed (.ok retained)] := by
    refine hguarded.bind ?_ (by rintro _ _ ⟨⟨⟩, -⟩)
    rintro _ t ⟨⟨⟩, hworld, hcalls, hattempted, hissued, hresult⟩
    have hasked : Ends bridge.revokeNeeded t fun ended frame => ∃ a, ended = .ok a ∧ a = (false, true) ∧
        frame = t.called w₅ (.recordRead (.ok none)) := by
      refine Ends.get_bind ?_
      rw [if_neg (by simp [hissued]), if_pos hattempted]
      refine ends_exceptException_ok (ends_call_ok (hworld ▸ hread) ?_)
      exact ⟨_, rfl, rfl, rfl⟩
    refine hasked.bind ?_ (by rintro _ _ ⟨_, ⟨⟩, -⟩)
    rintro _ _ ⟨_, ⟨⟩, rfl, rfl⟩
    have hsettled : Ends (bridge.settle rt true) (t.called w₅ (.recordRead (.ok none))) fun ended frame =>
        ∃ a, ended = .ok a ∧ frame = (t.called w₅ (.recordRead (.ok none))).called w₆ (.closed (.ok retained)) := by
      refine ends_exceptException_ok ?_
      have hcalled : (t.called w₅ (.recordRead (.ok none))).grantIssued = false := hissued
      have hrecord : Ends bridge.revokedRecord (t.called w₅ (.recordRead (.ok none))) fun ended frame =>
          ∃ a, ended = .ok a ∧ a = none ∧ frame = t.called w₅ (.recordRead (.ok none)) := by
        refine Ends.get_bind ?_
        rw [if_neg (by simp [hcalled])]
        exact ⟨_, rfl, rfl, rfl⟩
      refine hrecord.bind ?_ (by rintro _ _ ⟨_, ⟨⟩, -⟩)
      rintro _ _ ⟨_, ⟨⟩, rfl, rfl⟩
      refine ends_call_ok hclose (Ends.get_bind ?_)
      have hnone : bridge.terminalEvidence rt ((t.called w₅ (.recordRead (.ok none))).called w₆ (.closed (.ok retained)))
          true none retained = none := by
        rw [D1N2ExecutionBridge.terminalEvidence]
        simp only [BridgeFrame.called, hresult]
        cases retained <;> rfl
      rw [hnone]
      exact ⟨_, rfl, rfl⟩
    refine hsettled.bind ?_ (by rintro _ _ ⟨_, ⟨⟩, -⟩)
    rintro _ _ ⟨_, ⟨⟩, rfl⟩
    exact ⟨rfl, rfl, by rw [← hcalls]; rfl⟩
  cases hrun : (bridge.body rt).run { world := w₀ } with
  | ok a frame =>
    obtain ⟨heq, -⟩ := hbody.ok hrun
    cases heq
  | error exit frame =>
    obtain ⟨⟨⟩, hworld, hcalls⟩ := hbody.error hrun
    refine ⟨frame.calls, ?_, ?_⟩
    · rw [D1N2ExecutionBridge.run, if_neg Bool.false_ne_true, hrun, ← hworld]
    · rw [hcalls]
      simp [calls, BridgeCall.Revokes]

theorem terminalEvidence_ok {bridge : D1N2ExecutionBridge σ} {result : D1N2DriverResult} {receipt ledger : JsonText}
    {revoked : Option Bytes} {cleanup : RetainedLeaseCleanup}
    (hresult : frame.driverResult = some result) (hreceipt : bridge.boundReceipt rt frame result revoked = some receipt)
    (hledger : result.failureLedgerBytes = some (.text ledger))
    (hevidence : buildVerifiedTerminalEvidence rt.hash receipt ledger cleanup = some evidence) :
    bridge.terminalEvidence rt frame true revoked (some cleanup) = some (result, evidence) := by
  simp only [D1N2ExecutionBridge.terminalEvidence, hresult, hledger, Option.bind_eq_bind, Option.bind_some, hreceipt,
    Bool.not_true, Bool.false_eq_true, if_false, hevidence]
  rfl

theorem terminalAuthorized_revoked {hash : Sha256} {caller : Lifecycle}
    {consumed : Bytes} {fields : Fields} (hvalid : binding.valid hash = true)
    (hstate : caller.state = .revokedTerminalPending) (hconsumed : caller.consumed = some consumed)
    (hfields : validatedRecordOf hash .consumed (some consumed) = some fields)
    (hmatches : terminalReceiptMatchesLifecycle hash (getter binding.recordFields) (getter fields) caller.grantRecord =
      true) : terminalAuthorized hash caller binding = .ok (.revoked, consumed) := by
  simp [terminalAuthorized, hvalid, hstate, hconsumed, orError, hfields, hmatches, require, ok_bind, pure, Except.pure]

/-! ## Another instance's terminal record, and a grant that nobody knows of -/

namespace Sample

def deviceName : String := "HD Webcam"

def challenge : List UInt8 := List.replicate 32 9

def candidate : Decoded :=
  (countFields ++ timingFields).map (fun name => (name, Scalar.int 0)) ++
  boolFields.map (fun name => (name, Scalar.bool ((cleanupFields ++ ["video_only"]).contains name))) ++
  [("device_gate_decision", .str "UNVERIFIED"), ("duration_seconds", .int 60),
    ("failure_code", .str "AUTHORIZATION_FAILED"), ("outcome", .str "NO_GO"), ("schema_version", .int 1)]

def nativeRuntime : NativeRuntime where
  hash := Sample.hash
  isAlnum := Char.isAlphanum
  loads _ := some candidate
  workerArgvDigest := repeated 'd'
  workerJobPolicyDigest := repeated 'e'
  capturePolicyDigest := Authority.capturePolicyDigest
  watchdogPolicyDigest := Authority.watchdogPolicyDigest

def ledgerText : JsonText :=
  .array [sortKeys [("code", .str "AUTHORIZATION_FAILED"), ("count", .int 1), ("precedence", .int 0),
    ("stage", .str FailureStage.authorization.value)]]

def driverResult : D1N2DriverResult where
  status := .completed
  nativeSideEffectCount := 0
  workerSupervised := true
  jobDrained := true
  workerLeaseClosed := true
  receiptBytes := some (.raw [1])
  failureLedgerBytes := some (.text ledgerText)

def quietRound : Round Sample.hash 0 where
  environment
  contract := environment_contract
  revalidated := .ok true
  entropy := .ok (some challenge)
  driven _ := .ok driverResult
  a0Clean := true
  preparationClean := true

def overtakenRounds (binding : TerminalBindingAttestation) : Nat → Round Sample.hash 0
  | 2 => { quietRound with before := [⟨.construct environment laterEpoch, trivial, environment_contract⟩] }
  | 10 => { quietRound with
      before := [⟨.operate 1 (.terminalize binding) environment, Nat.one_ne_zero, environment_contract⟩] }
  | _ => quietRound

def unreadableStore : CanonicalAuthorityPersistence :=
  { faithfulStore Sample.hash with
    createExact := fun _ current bytes =>
      if current = none then (.ok ⟨.readbackFailed, .presentUnknown, none⟩, some bytes)
      else (.ok ⟨.createFailed, .zeroWrite, none⟩, current) }

theorem unreadableStore_contract : WriteContract Sample.hash unreadableStore where
  createExact leaf current bytes := by
    by_cases hnone : current = none
    · simp only [unreadableStore, if_pos hnone]
      constructor <;> simp [hnone]
    · simp only [unreadableStore, if_neg hnone]
      constructor <;> simp
  casExact := environment_contract.casExact

def unreadableEnvironment : Environment := { environment with persistence := unreadableStore }

def unreadableRounds : Nat → Round Sample.hash 0
  | 3 => { quietRound with environment := unreadableEnvironment, contract := unreadableStore_contract }
  | _ => quietRound

def preparedRun : List Action := [.construct environment epoch, .operate 0 .prepare environment]

def sharedStore (rounds : Nat → Round Sample.hash 0) : SharedStore Sample.hash 0 where
  world := preparedRun.foldl (step Sample.hash) {}
  rounds

def bridge : D1N2ExecutionBridge (SharedStore Sample.hash 0) :=
  ownBridge Sample.hash 0 deviceName (Sample.hash.hexdigest preparedRecord) (some attestation)

structure Standing (s : SharedStore Sample.hash 0) (rounds : Nat → Round Sample.hash 0) (k : Nat) (store : Store)
    (lifecycles : List Lifecycle) (retained : Option RetainedLeaseCleanup) : Prop where
  sameRounds : s.rounds = rounds
  next : s.next = k
  sameStore : s.world.store = store
  sameLifecycles : s.world.lifecycles = lifecycles
  sameRetained : s.retained = retained

section Standing

variable {s : SharedStore Sample.hash 0} {rounds : Nat → Round Sample.hash 0} {k : Nat} {store store' : Store}
  {lifecycles lifecycles' : List Lifecycle} {retained : Option RetainedLeaseCleanup} {caller lifecycle : Lifecycle}
  {reply : Reply} {operation : Operation}

theorem sharedStore_standing (rounds : Nat → Round Sample.hash 0) :
    Standing (sharedStore rounds) rounds 0 preparedStore [prepared] none := by
  have hnew : construct Sample.hash environment epoch (fun _ => none) = .ok absent := construct_absent
  have hprepare : prepare Sample.hash environment absent (fun _ => none) = ⟨prepared, preparedStore, .ok .ok⟩ :=
    prepare_absent
  constructor <;> simp [sharedStore, preparedRun, step, Operation.run, Ran.done, hnew, hprepare]

theorem sharedStore_hosts (rounds : Nat → Round Sample.hash 0) : Hosts Sample.hash 0 (sharedStore rounds).world where
  reach := by
    have hguarded : Guarded (step Sample.hash) (Contracted Sample.hash) {} preparedRun :=
      ⟨environment_contract, environment_contract, trivial⟩
    have hreach : ReachableBy (system Sample.hash) (Contracted Sample.hash) {} := .init rfl
    change ReachableBy (system Sample.hash) (Contracted Sample.hash) (preparedRun.foldl (step Sample.hash) {})
    exact reachableBy_foldl preparedRun hreach hguarded
  own := ⟨prepared, by rw [(sharedStore_standing rounds).sameLifecycles]; rfl⟩

namespace Standing

theorem round (h : Standing s rounds k store lifecycles retained) : s.round = rounds k := by
  rw [SharedStore.round, h.sameRounds, h.next]

theorem entered (h : Standing s rounds k store lifecycles retained) (hbefore : (rounds k).before = []) :
    s.entered = s.world := by
  rw [SharedStore.entered, h.round, hbefore]
  rfl

theorem leave (h : Standing s rounds k store lifecycles retained) (hafter : (rounds k).after = []) {w : World}
    (hstore : w.store = store') (hlifecycles : w.lifecycles = lifecycles') :
    Standing (s.leave w) rounds (k + 1) store' lifecycles' retained := by
  have hworld : (s.leave w).world = w := by
    rw [SharedStore.leave, h.round, hafter]
    rfl
  exact ⟨h.sameRounds, congrArg (· + 1) h.next, by rw [hworld, hstore], by rw [hworld, hlifecycles], h.sameRetained⟩

theorem apart (h : Standing s rounds k store lifecycles retained) (hbefore : (rounds k).before = [])
    (hafter : (rounds k).after = []) : Standing (s.leave s.entered) rounds (k + 1) store lifecycles retained :=
  h.leave hafter (h.entered hbefore ▸ h.sameStore) (h.entered hbefore ▸ h.sameLifecycles)

theorem overtaken (h : Standing s rounds k store lifecycles retained) {foreign : ForeignAction Sample.hash 0}
    (hbefore : (rounds k).before = [foreign]) (hafter : (rounds k).after = [])
    (hstore : (step Sample.hash s.world foreign.action).store = store')
    (hlifecycles : (step Sample.hash s.world foreign.action).lifecycles = lifecycles') :
    Standing (s.leave s.entered) rounds (k + 1) store' lifecycles' retained := by
  have hentered : s.entered = step Sample.hash s.world foreign.action := by
    rw [SharedStore.entered, h.round, hbefore]
    rfl
  exact h.leave hafter (hentered ▸ hstore) (hentered ▸ hlifecycles)

theorem operate (h : Standing s rounds k store (caller :: lifecycles) retained) (hbefore : (rounds k).before = [])
    (hafter : (rounds k).after = [])
    (hrun : operation.run Sample.hash (rounds k).environment caller store = ⟨lifecycle, store', reply⟩) :
    s.reply operation = some reply ∧ Standing (s.operated operation) rounds (k + 1) store' (lifecycle :: lifecycles) retained := by
  have hcaller : s.world.lifecycles[0]? = some caller := by
    rw [h.sameLifecycles]
    rfl
  refine ⟨?_, ?_⟩
  · rw [SharedStore.reply, h.entered hbefore, h.round, hcaller, h.sameStore, Option.map_some, hrun]
  · refine h.leave hafter ?_ ?_
    · simp [step, h.entered hbefore, h.round, hcaller, h.sameStore, hrun]
    · simp [step, h.entered hbefore, h.round, h.sameStore, hrun, h.sameLifecycles]

theorem outcome (h : Standing s rounds k store (caller :: lifecycles) retained) (hbefore : (rounds k).before = [])
    (hafter : (rounds k).after = []) {outcome : PersistenceOutcome}
    (hrun : operation.run Sample.hash (rounds k).environment caller store = ⟨lifecycle, store', .outcome (.ok outcome)⟩) :
    ∃ t, SharedStore.outcome operation s = (.ok outcome, t) ∧
      Standing t rounds (k + 1) store' (lifecycle :: lifecycles) retained := by
  obtain ⟨hreply, hstanding⟩ := h.operate hbefore hafter hrun
  refine ⟨_, ?_, hstanding⟩
  rw [SharedStore.outcome, hreply]

theorem call {α : Type} (h : Standing s rounds k store lifecycles retained)
    (answer : Round Sample.hash 0 → Except Thrown α) (hbefore : (rounds k).before = [])
    (hafter : (rounds k).after = []) {a : α} (hanswer : answer (rounds k) = .ok a) :
    ∃ t, SharedStore.apart answer s = (.ok a, t) ∧ Standing t rounds (k + 1) store lifecycles retained := by
  refine ⟨_, ?_, h.apart hbefore hafter⟩
  rw [SharedStore.apart, h.round, hanswer]

theorem overtakenCall {α : Type} (h : Standing s rounds k store lifecycles retained)
    (answer : Round Sample.hash 0 → Except Thrown α) {foreign : ForeignAction Sample.hash 0}
    (hbefore : (rounds k).before = [foreign]) (hafter : (rounds k).after = [])
    (hstore : (step Sample.hash s.world foreign.action).store = store')
    (hlifecycles : (step Sample.hash s.world foreign.action).lifecycles = lifecycles') {a : α}
    (hanswer : answer (rounds k) = .ok a) :
    ∃ t, SharedStore.apart answer s = (.ok a, t) ∧ Standing t rounds (k + 1) store' lifecycles' retained := by
  refine ⟨_, ?_, h.overtaken hbefore hafter hstore hlifecycles⟩
  rw [SharedStore.apart, h.round, hanswer]

theorem close (h : Standing s rounds k store lifecycles none)
    (hleft : Standing (s.leave s.entered) rounds (k + 1) store' lifecycles' none)
    (hclean : (rounds k).a0Clean = true ∧ (rounds k).preparationClean = true) :
    ∃ t, SharedStore.closeRetained s = (.ok (some ⟨true, true, true⟩), t) ∧
      Standing t rounds (k + 1) store' lifecycles' (some ⟨true, true, true⟩) := by
  have hcleanup : s.cleanup = ⟨true, true, true⟩ := by
    rw [SharedStore.cleanup, h.sameRetained, h.round, hclean.1, hclean.2]
    rfl
  refine ⟨{ s.leave s.entered with retained := some ⟨true, true, true⟩ }, ?_,
    ⟨hleft.sameRounds, hleft.next, hleft.sameStore, hleft.sameLifecycles, rfl⟩⟩
  rw [SharedStore.closeRetained, hcleanup]
  rfl

theorem takeCapability (h : Standing s rounds k store (caller :: lifecycles) retained)
    (hbefore : (rounds k).before = []) (hafter : (rounds k).after = []) {raw : List UInt8}
    (htake : takeGrantCapability caller = (lifecycle, some raw)) :
    ∃ t, SharedStore.capability s = (.ok (some raw), t) ∧
      Standing t rounds (k + 1) store (lifecycle :: lifecycles) retained := by
  have hrun : Operation.takeGrantCapability.run Sample.hash (rounds k).environment caller store =
      ⟨lifecycle, store, .capability (some raw)⟩ := by
    simp only [Operation.run, htake]
  obtain ⟨hreply, hstanding⟩ := h.operate hbefore hafter hrun
  refine ⟨_, ?_, hstanding⟩
  rw [SharedStore.capability, hreply]

theorem readRecord (h : Standing s rounds k store (caller :: lifecycles) retained)
    (hbefore : (rounds k).before = []) (hafter : (rounds k).after = []) :
    ∃ t, SharedStore.grantRecord s = (.ok caller.grantRecord, t) ∧
      Standing t rounds (k + 1) store (caller :: lifecycles) retained := by
  refine ⟨_, ?_, h.apart hbefore hafter⟩
  have hcaller : s.world.lifecycles[0]? = some caller := by
    rw [h.sameLifecycles]
    rfl
  rw [SharedStore.grantRecord, h.entered hbefore, hcaller]

end Standing

end Standing

/-! The operations of the bridge's instance. -/

def ownBinding : WorkerGrantBindingAttestation := bridge.workerBinding nativeRuntime attestation (hexText challenge)

theorem ownBinding_valid : ownBinding.valid = true := by
  have hprepared : isHexDigest (Sample.hash.hexdigest preparedRecord) = true := Sample.hash.digest _
  have hchallenge : isHexDigest (challengeDigest nativeRuntime (hexText challenge)) = true := Sample.hash.digest _
  have hjob : isHexDigest (jobNameDigest nativeRuntime (hexText challenge)) = true := Sample.hash.digest _
  simp only [WorkerGrantBindingAttestation.valid, ownBinding, bridge, ownBridge, D1N2ExecutionBridge.workerBinding,
    nativeRuntime, attestation, List.all_cons, List.all_nil, hprepared, isHexDigest_repeated] at hchallenge hjob ⊢
  rw [hchallenge, hjob]
  decide

def ownGet : Getter := getter (recordFields .grantIssued (issuedValues Sample.hash ownBinding consumedRecord
  (Sample.hash.hexdigest (.raw epoch)) (Sample.hash.hexdigest (.raw capability)) 100))

def ownIssuedRecord : Bytes :=
  record .grantIssued (issuedValues Sample.hash ownBinding consumedRecord (Sample.hash.hexdigest (.raw epoch))
    (Sample.hash.hexdigest (.raw capability)) 100)

theorem ownIssuedRecord_reads : Reads Sample.hash ownIssuedRecord .grantIssued ownGet :=
  issued_reads ownBinding_valid (Sample.hash.digest _) (Sample.hash.digest _) (by decide) (by decide)

theorem ownGet_digests : ownGet "challenge_digest" = some (.str (challengeDigest nativeRuntime (hexText challenge))) ∧
    ownGet "job_name_digest" = some (.str (jobNameDigest nativeRuntime (hexText challenge))) := by
  constructor <;> simp [ownGet, getter, recordFields, mergeFields, issuedValues,
    WorkerGrantBindingAttestation.recordFields, List.lookup_cons, ownBinding, D1N2ExecutionBridge.workerBinding]

theorem issueAuthorized_own : issueAuthorized Sample.hash consumed ownBinding = some consumedRecord := by
  simp [issueAuthorized, consumed, prepared, ownBinding_valid]
  rfl

def ownGrant (used : Bool) : CanonicalGrantInspection :=
  ⟨Sample.hash.hexdigest (.raw capability), 100, 100 + workerGrantTtlNs, used⟩

def ownIssued : Lifecycle :=
  { consumed with
    grantRecord := some ownIssuedRecord
    state := .issued
    grant := some (ownGrant false)
    grantRaw := some capability }

def ownIssuedStore : Store := Function.update consumedStore .grant (some ownIssuedRecord)

theorem issue_own : issueGrant Sample.hash environment consumed consumedStore ownBinding =
    ⟨ownIssued, ownIssuedStore, .ok .ok⟩ :=
  issueGrant_reliable rfl rfl issueAuthorized_own rfl rfl rfl (by decide) (by decide) rfl rfl rfl

def ownAuthorized : Lifecycle := { ownIssued with grantHandedOff := true, grant := some (ownGrant true) }

def ownRevokedRecord : Bytes :=
  record .grantRevoked (revokedValues Sample.hash ownGet consumedRecord (Sample.hash.hexdigest (.raw epoch))
    (ownGrant true) ownIssuedRecord)

def ownRevoked : Lifecycle :=
  { ownAuthorized with
    grantRaw := none
    grantRecord := some ownRevokedRecord
    state := .revokedTerminalPending }

def ownRevokedStore : Store := Function.update ownIssuedStore .grant (some ownRevokedRecord)

theorem authorize_own : authorizeGrant Sample.hash environment { ownIssued with grantHandedOff := true } capability =
    (ownAuthorized, .ok .ok) :=
  authorize_sample { ownIssued with grantHandedOff := true } rfl rfl rfl

theorem revoke_own : revokeGrant Sample.hash environment ownAuthorized ownIssuedStore =
    ⟨ownRevoked, ownRevokedStore, .ok .ok⟩ :=
  revokeGrant_reliable rfl rfl rfl rfl rfl rfl rfl ownIssuedRecord_reads rfl

def ownReceiptBindings : ReceiptBindings where
  authorityDigest := Sample.hash.hexdigest preparedRecord
  grantRecordDigest := Sample.hash.hexdigest ownRevokedRecord
  challengeDigest := challengeDigest nativeRuntime (hexText challenge)
  jobNameDigest := jobNameDigest nativeRuntime (hexText challenge)
  staticBindingsDigest := repeated 'a'
  capturePolicyDigest := Authority.capturePolicyDigest
  watchdogPolicyDigest := Authority.watchdogPolicyDigest
  runtimeDigest := repeated '6'
  poseModelSha256 := repeated '7'
  faceModelSha256 := repeated '8'

theorem ownReceiptBindings_digests :
    ownReceiptBindings.fields.all (fun field => field.2.isDigest) = true := by
  have hprepared : isHexDigest (Sample.hash.hexdigest preparedRecord) = true := Sample.hash.digest _
  have hrevoked : isHexDigest (Sample.hash.hexdigest ownRevokedRecord) = true := Sample.hash.digest _
  have hchallenge : isHexDigest (challengeDigest nativeRuntime (hexText challenge)) = true := Sample.hash.digest _
  have hjob : isHexDigest (jobNameDigest nativeRuntime (hexText challenge)) = true := Sample.hash.digest _
  simp only [ReceiptBindings.fields, ownReceiptBindings, List.all_cons, List.all_nil, Scalar.isDigest, hprepared,
    hrevoked, hchallenge, hjob, isHexDigest_repeated]
  decide +kernel

theorem candidate_update :
    sortKeys (candidate.update ownReceiptBindings.fields) =
      sortKeys (sanitizedReceipt "AUTHORIZATION_FAILED" ownReceiptBindings) := by
  have hkept : candidate.filter (fun field => !(ownReceiptBindings.fields.map Prod.fst).contains field.1) =
      candidate := by
    have hnames : ∀ name ∈ candidate.map Prod.fst, name ∉ digestFields := by
      simp [candidate, countFields, timingFields, boolFields, digestFields]
    rw [List.filter_eq_self]
    intro field hfield
    have hname := hnames field.1 (List.mem_map_of_mem hfield)
    have hfields : ownReceiptBindings.fields.map Prod.fst = digestFields := rfl
    rw [hfields]
    simpa using hname
  have hperm : (candidate.update ownReceiptBindings.fields).Perm
      (sanitizedReceipt "AUTHORIZATION_FAILED" ownReceiptBindings) := by
    rw [Decoded.update, hkept, candidate, sanitizedReceipt, List.append_assoc _ _ ownReceiptBindings.fields,
      List.append_assoc _ ownReceiptBindings.fields]
    exact List.Perm.append_left _ List.perm_append_comm
  refine sortKeys_congr hperm ?_
  rw [(hperm.map Prod.fst).nodup_iff, sanitizedReceipt_keys]
  exact receiptKeys_nodup

theorem own_evidence : ∃ evidence,
    buildVerifiedTerminalEvidence Sample.hash (.object (sortKeys (candidate.update ownReceiptBindings.fields)))
      ledgerText ⟨true, true, true⟩ = some evidence ∧
    evidence.receiptJson = .json (.object (sortKeys (sanitizedReceipt "AUTHORIZATION_FAILED" ownReceiptBindings))) ∧
    evidence.retainedCleanup = ⟨true, true, true⟩ ∧ verifyTerminalEvidence Sample.hash evidence = true := by
  have hsanitized : ∃ evidence, buildSanitizedNoGoEvidence Sample.hash "AUTHORIZATION_FAILED" ownReceiptBindings
      ⟨true, true, true⟩ = some evidence ∧ evidence.receiptJson = .json (.object (sortKeys
        (sanitizedReceipt "AUTHORIZATION_FAILED" ownReceiptBindings))) ∧
      verifyTerminalEvidence Sample.hash evidence = true :=
    buildSanitizedNoGoEvidence_verifies _ rfl ownReceiptBindings_digests rfl rfl rfl
  obtain ⟨evidence, hbuilt, hjson, hverifies⟩ := hsanitized
  have hcode : failureCodes.lookup "AUTHORIZATION_FAILED" = some .authorization := rfl
  rw [buildSanitizedNoGoEvidence, hcode] at hbuilt
  simp only [ownReceiptBindings_digests, if_true] at hbuilt
  refine ⟨evidence, ?_, hjson, ?_, hverifies⟩
  · rw [candidate_update]
    exact hbuilt
  · unfold buildVerifiedTerminalEvidence at hbuilt
    split at hbuilt
    · split at hbuilt
      · cases hbuilt
      · split at hbuilt
        · cases hbuilt
          rfl
        · cases hbuilt
    · cases hbuilt

theorem own_terminalAuthorized
    (hjson : evidence.receiptJson =
      .json (.object (sortKeys (sanitizedReceipt "AUTHORIZATION_FAILED" ownReceiptBindings))))
    (hverifies : verifyTerminalEvidence Sample.hash evidence = true) :
    terminalAuthorized Sample.hash ownRevoked (.fromEvidence evidence 0) = .ok (.revoked, consumedRecord) := by
  obtain ⟨fields, hfields, hget⟩ := consumedRecord_reads.validatedRecordOf
  have hrevoked : Reads Sample.hash ownRevokedRecord .grantRevoked (getter (recordFields .grantRevoked
      (revokedValues Sample.hash ownGet consumedRecord (Sample.hash.hexdigest (.raw epoch)) (ownGrant true)
        ownIssuedRecord))) :=
    revoked_reads (ownIssuedRecord_reads.isDigest (by decide) (by decide))
      (ownIssuedRecord_reads.isDigest (by decide) (by decide)) (Sample.hash.digest _) (Sample.hash.digest _)
      (by decide) (by decide) (by decide)
  obtain ⟨revokedFields, hrevokedFields, hrevokedGet⟩ := hrevoked.validatedRecordOf
  have hlookup : ∀ name value, (name, value) ∈ ownReceiptBindings.fields →
      (sortKeys (sanitizedReceipt "AUTHORIZATION_FAILED" ownReceiptBindings)).lookup name = some value :=
    fun name value => sanitizedReceipt_binding
  have hgrant := hlookup "grant_record_digest" _ (List.mem_cons_of_mem _ (List.mem_cons_self ..))
  have hreceiptChallenge := hlookup "challenge_digest" (.str (challengeDigest nativeRuntime (hexText challenge)))
    (by simp [ReceiptBindings.fields, ownReceiptBindings])
  have hreceiptJob := hlookup "job_name_digest" (.str (jobNameDigest nativeRuntime (hexText challenge)))
    (by simp [ReceiptBindings.fields, ownReceiptBindings])
  have hmatches : terminalReceiptMatchesLifecycle Sample.hash
      (getter (TerminalBindingAttestation.fromEvidence evidence 0).recordFields) (getter fields)
      (some ownRevokedRecord) = true := by
    have hnone : terminalReceiptMatchesLifecycle Sample.hash
        (getter (TerminalBindingAttestation.fromEvidence evidence 0).recordFields) (getter fields) none = true := by
      rw [hget]
      exact sanitizedReceipt_matches (congrArg some hjson) rfl rfl rfl rfl rfl
    have hreceipt : getter (TerminalBindingAttestation.fromEvidence evidence 0).recordFields "receipt_json" =
        some (.json (.object (sortKeys (sanitizedReceipt "AUTHORIZATION_FAILED" ownReceiptBindings)))) :=
      congrArg some hjson
    have hchallenge : revokedFields.lookup "challenge_digest" =
        some (.str (challengeDigest nativeRuntime (hexText challenge))) := by
      refine (congrFun hrevokedGet "challenge_digest").trans ?_
      simp [getter, recordFields, mergeFields, revokedValues, List.lookup_cons, ownGet_digests.1]
    have hjob : revokedFields.lookup "job_name_digest" =
        some (.str (jobNameDigest nativeRuntime (hexText challenge))) := by
      refine (congrFun hrevokedGet "job_name_digest").trans ?_
      simp [getter, recordFields, mergeFields, revokedValues, List.lookup_cons, ownGet_digests.2]
    simp only [terminalReceiptMatchesLifecycle, hreceipt, hrevokedFields, Bool.and_true] at hnone ⊢
    rw [hnone]
    rw [hgrant, hreceiptChallenge, hreceiptJob, hchallenge, hjob]
    simp only [ownReceiptBindings, decide_true, Bool.and_self, Option.map_some, Scalar.toValue]
  have hvalid : TerminalBindingAttestation.valid Sample.hash (TerminalBindingAttestation.fromEvidence evidence 0) =
      true := by
    rw [TerminalBindingAttestation.valid, Bool.and_eq_true]
    exact ⟨hverifies, rfl⟩
  exact terminalAuthorized_revoked hvalid rfl rfl hfields hmatches

theorem terminalize_present {store : Store} {terminal : Bytes}
    (hauthorized : terminalAuthorized Sample.hash ownRevoked binding = .ok (.revoked, consumedRecord))
    (hprepared : store .prepared = some consumedRecord) (hterminal : store .terminal = some terminal) :
    terminalize Sample.hash environment ownRevoked store binding =
      ⟨ownRevoked, store, .ok .terminalAlreadyPresent⟩ := by
  have hbegin : environment.begin =
      .ok ⟨.acquired, some (reliableSession (.ok (some approved)) (.ok (some attestation)))⟩ := rfl
  have hbody : terminalizeBody Sample.hash environment.persistence ownRevoked store binding .revoked consumedRecord
      (reliableSession (.ok (some approved)) (.ok (some attestation))) =
        ⟨ownRevoked, store, .ok .terminalAlreadyPresent⟩ := by
    simp [terminalizeBody, environment, hprepared, hterminal]
  simp only [terminalize, hauthorized]
  rw [mutation_reliable hbegin, hbody]
  rfl

theorem own_terminalEvidence
    (hevidence : buildVerifiedTerminalEvidence Sample.hash
      (.object (sortKeys (candidate.update ownReceiptBindings.fields))) ledgerText ⟨true, true, true⟩ = some evidence)
    (frame : BridgeFrame (SharedStore Sample.hash 0)) (hresult : frame.driverResult = some driverResult)
    (hchallenge : frame.challengeDigest = challengeDigest nativeRuntime (hexText challenge))
    (hjob : frame.jobNameDigest = jobNameDigest nativeRuntime (hexText challenge)) :
    bridge.terminalEvidence nativeRuntime frame true (some ownRevokedRecord) (some ⟨true, true, true⟩) =
      some (driverResult, evidence) := by
  have hreceipt : bridge.boundReceipt nativeRuntime frame driverResult (some ownRevokedRecord) =
      some (.object (sortKeys (candidate.update ownReceiptBindings.fields))) := by
    have hbindings : ({
        authorityDigest := bridge.preparedAuthorityDigest
        grantRecordDigest := nativeRuntime.hash.hexdigest ownRevokedRecord
        challengeDigest := challengeDigest nativeRuntime (hexText challenge)
        jobNameDigest := jobNameDigest nativeRuntime (hexText challenge)
        staticBindingsDigest := attestation.staticBindingsDigest
        capturePolicyDigest := nativeRuntime.capturePolicyDigest
        watchdogPolicyDigest := nativeRuntime.watchdogPolicyDigest
        runtimeDigest := attestation.dependencyObservationDigest
        poseModelSha256 := attestation.poseModelSha256
        faceModelSha256 := attestation.faceModelSha256 } : ReceiptBindings) = ownReceiptBindings := rfl
    have hpresent : (some ownRevokedRecord).filter (fun revoked => !revoked.isEmpty) = some ownRevokedRecord := rfl
    have hattestation : bridge.preparedAttestation = some attestation := rfl
    have hbytes : driverResult.receiptBytes = some (.raw [1]) := rfl
    have hloads : nativeRuntime.loads (.raw [1]) = some candidate := rfl
    simp only [D1N2ExecutionBridge.boundReceipt, hchallenge, hjob, hpresent, hattestation, hbytes, hloads,
      Option.bind_eq_bind, Option.bind_some, hbindings]
    rfl
  have hledger : driverResult.failureLedgerBytes = some (.text ledgerText) := rfl
  exact terminalEvidence_ok hresult hreceipt hledger hevidence

theorem overtaken_run
    (hlate : terminalAuthorized Sample.hash late binding = .ok (.notIssued, consumedRecord)) :
    ∃ digest after, bridge.run nativeRuntime { world := sharedStore (overtakenRounds binding) } =
        (.ok { status := .terminal, receiptDigest := some digest }, after) ∧
      after.world.world.store .terminal =
        some (record .terminal (terminalValues Sample.hash binding consumedRecord .notIssued none)) := by
  obtain ⟨evidence, hevidence, hjson, hcleanup, hverifies⟩ := own_evidence
  have h₀ := sharedStore_standing (overtakenRounds binding)
  obtain ⟨w₁, hvalid, h₁⟩ := h₀.call Round.revalidated rfl rfl rfl
  have hconsumed : Operation.consume.run Sample.hash environment prepared preparedStore =
      ⟨consumed, consumedStore, .outcome (.ok .ok)⟩ := congrArg Ran.done consume_prepared
  obtain ⟨w₂, hconsume, h₂⟩ := h₁.outcome rfl rfl hconsumed
  have hmade : (step Sample.hash w₂.world (.construct environment laterEpoch)).store = consumedStore ∧
      (step Sample.hash w₂.world (.construct environment laterEpoch)).lifecycles = [consumed, late] := by
    simp [step, h₂.sameStore, h₂.sameLifecycles, construct_late]
  obtain ⟨w₃, hentropy, h₃⟩ := h₂.overtakenCall Round.entropy rfl rfl hmade.1 hmade.2 rfl
  have hissued : (Operation.issueGrant ownBinding).run Sample.hash environment consumed consumedStore =
      ⟨ownIssued, ownIssuedStore, .outcome (.ok .ok)⟩ := congrArg Ran.done issue_own
  obtain ⟨w₄, hissue, h₄⟩ := h₃.outcome rfl rfl hissued
  obtain ⟨w₅, htake, h₅⟩ := h₄.takeCapability rfl rfl rfl
  obtain ⟨w₆, hread, h₆⟩ := h₅.readRecord rfl rfl
  have hauthorized : (Operation.authorizeGrant capability).run Sample.hash environment
      { ownIssued with grantHandedOff := true } ownIssuedStore = ⟨ownAuthorized, ownIssuedStore, .outcome (.ok .ok)⟩ := by
    simp only [Operation.run, authorize_own]
  obtain ⟨w₇, hauthorize, h₇⟩ := h₆.outcome rfl rfl hauthorized
  have hdrive : ∀ request, bridge.driver request w₇ = (.ok driverResult, w₇.leave w₇.entered) := by
    intro request
    change (w₇.round.driven request, w₇.leave w₇.entered) = _
    rw [h₇.round]
    rfl
  have h₈ := h₇.apart rfl rfl
  have hrevokes : Operation.revokeGrant.run Sample.hash environment ownAuthorized ownIssuedStore =
      ⟨ownRevoked, ownRevokedStore, .outcome (.ok .ok)⟩ := congrArg Ran.done revoke_own
  obtain ⟨w₉, hrevoke, h₉⟩ := h₈.outcome rfl rfl hrevokes
  obtain ⟨w₁₀, hrevoked, h₁₀⟩ := h₉.readRecord rfl rfl
  have hterminal : (terminalize Sample.hash environment late ownRevokedStore binding) =
      ⟨{ late with state := .terminal }, Function.update ownRevokedStore .terminal
        (some (record .terminal (terminalValues Sample.hash binding consumedRecord .notIssued none))), .ok .ok⟩ :=
    terminalize_reliable rfl rfl hlate rfl rfl
  have hovertaken : (step Sample.hash w₁₀.world (.operate 1 (.terminalize binding) environment)).store =
        Function.update ownRevokedStore .terminal
          (some (record .terminal (terminalValues Sample.hash binding consumedRecord .notIssued none))) ∧
      (step Sample.hash w₁₀.world (.operate 1 (.terminalize binding) environment)).lifecycles =
        [ownRevoked, { late with state := .terminal }] := by
    simp [step, Operation.run, Ran.done, h₁₀.sameStore, h₁₀.sameLifecycles, hterminal]
  obtain ⟨w₁₁, hclose, h₁₁⟩ := h₁₀.close (h₁₀.overtaken rfl rfl hovertaken.1 hovertaken.2) ⟨rfl, rfl⟩
  have hpresent : (Operation.terminalize (.fromEvidence evidence 0)).run Sample.hash environment ownRevoked
      (Function.update ownRevokedStore .terminal
        (some (record .terminal (terminalValues Sample.hash binding consumedRecord .notIssued none)))) =
      ⟨ownRevoked, Function.update ownRevokedStore .terminal
        (some (record .terminal (terminalValues Sample.hash binding consumedRecord .notIssued none))),
        .outcome (.ok .terminalAlreadyPresent)⟩ :=
    congrArg Ran.done (terminalize_present (own_terminalAuthorized hjson hverifies) rfl rfl)
  obtain ⟨w₁₂, hterminalize, h₁₂⟩ := h₁₁.outcome rfl rfl hpresent
  have hretained : bridge.authority.terminalize (.fromEvidence evidence driverResult.nativeSideEffectCount) w₁₁ =
      (.ok .terminalAlreadyPresent, w₁₂) := by
    change SharedStore.terminalizeRetained _ w₁₁ = _
    rw [SharedStore.terminalizeRetained, h₁₁.sameRetained, if_neg (by decide),
      if_neg (by simp [TerminalBindingAttestation.fromEvidence, hcleanup])]
    exact hterminalize
  have hname : safeDeviceName nativeRuntime deviceName = true := by decide
  have hprepared : isHexDigest bridge.preparedAuthorityDigest = true := Sample.hash.digest preparedRecord
  have hattestation : bridge.preparedAttestation = some attestation := rfl
  have hread : bridge.authority.grantRecordBytes w₅ = (.ok (some ownIssuedRecord), w₆) := hread
  have hrevoked : bridge.authority.grantRecordBytes w₉ = (.ok (some ownRevokedRecord), w₁₀) := hrevoked
  have hpresent : ownIssuedRecord.isEmpty = false := rfl
  have hlength : challenge.length = 32 := rfl
  have hlength' : capability.length = 32 := rfl
  have hvalid : bridge.authority.revalidateForRun _ = _ := hvalid
  obtain ⟨calls, hrun⟩ := run_completed hname hprepared hattestation hlength hlength' hpresent hvalid hconsume
    hentropy hissue htake hread hauthorize hdrive hrevoke hrevoked hclose (own_terminalEvidence hevidence) hretained (.inr rfl)
  refine ⟨evidence.receiptDigest, ⟨true, w₁₂, calls⟩, hrun.trans ?_, ?_⟩
  · have hdigest : isHexDigest evidence.receiptDigest = true := by
      rw [(buildVerifiedTerminalEvidence_digests hevidence).1]
      exact Sample.hash.digest _
    simp [D1N2ExecutionBridge.conclude, driverResult, hdigest]
  · change w₁₂.world.store .terminal = _
    rw [h₁₂.sameStore]
    exact update_same

theorem issue_unreadable : issueGrant Sample.hash unreadableEnvironment consumed consumedStore ownBinding =
    ⟨{ consumed with state := .presentInvalid }, ownIssuedStore, .ok .readbackFailed⟩ := by
  have hbegin : unreadableEnvironment.begin =
      .ok ⟨.acquired, some (reliableSession (.ok (some approved)) (.ok (some attestation)))⟩ := rfl
  have hbody : issueBody Sample.hash unreadableEnvironment consumed consumedStore ownBinding consumedRecord
      (reliableSession (.ok (some approved)) (.ok (some attestation))) =
        ⟨{ consumed with state := .presentInvalid }, ownIssuedStore, .ok (.readbackFailed, some capability)⟩ := rfl
  simp only [issueGrant, issueAuthorized_own]
  rw [mutation_reliable hbegin, hbody]
  rfl

theorem unreadable_run : ∃ answer after,
    bridge.run nativeRuntime { world := sharedStore unreadableRounds } = (answer, after) ∧
    after.world.world.store .grant = some ownIssuedRecord ∧ ∀ c ∈ after.calls, ¬ c.Revokes := by
  have h₀ := sharedStore_standing unreadableRounds
  obtain ⟨w₁, hvalid, h₁⟩ := h₀.call Round.revalidated rfl rfl rfl
  have hconsumed : Operation.consume.run Sample.hash environment prepared preparedStore =
      ⟨consumed, consumedStore, .outcome (.ok .ok)⟩ := congrArg Ran.done consume_prepared
  obtain ⟨w₂, hconsume, h₂⟩ := h₁.outcome rfl rfl hconsumed
  obtain ⟨w₃, hentropy, h₃⟩ := h₂.call Round.entropy rfl rfl rfl
  have hissued : (Operation.issueGrant ownBinding).run Sample.hash unreadableEnvironment consumed consumedStore =
      ⟨{ consumed with state := .presentInvalid }, ownIssuedStore, .outcome (.ok .readbackFailed)⟩ :=
    congrArg Ran.done issue_unreadable
  obtain ⟨w₄, hissue, h₄⟩ := h₃.outcome rfl rfl hissued
  obtain ⟨w₅, hread, h₅⟩ := h₄.readRecord rfl rfl
  obtain ⟨w₆, hclose, h₆⟩ := h₅.close (h₅.apart rfl rfl) ⟨rfl, rfl⟩
  have hname : safeDeviceName nativeRuntime deviceName = true := by decide
  have hprepared : isHexDigest bridge.preparedAuthorityDigest = true := Sample.hash.digest preparedRecord
  have hattestation : bridge.preparedAttestation = some attestation := rfl
  have hread : bridge.authority.grantRecordBytes w₄ = (.ok none, w₅) := hread
  have hlength : challenge.length = 32 := rfl
  have hvalid : bridge.authority.revalidateForRun _ = _ := hvalid
  obtain ⟨calls, hrun, hnone⟩ := run_unissued hname hprepared hattestation hlength hvalid hconsume hentropy hissue
    (by decide) hread hclose
  refine ⟨_, _, hrun, ?_, hnone⟩
  change w₆.world.store .grant = _
  rw [h₆.sameStore]
  exact update_same

end Sample

theorem execution_single_shot_sample : ∃ digest after,
    AtMostOnce Drives (BridgeLife.calls (σ := SharedStore Sample.hash 0) after) ∧
      StoredOrPresent Sample.hash after.calls after.world.world.store digest := by
  obtain ⟨binding, hlate⟩ := Sample.late_terminalAuthorized
  obtain ⟨digest, after, hrun, -⟩ := Sample.overtaken_run hlate
  have hstored := execution_single_shot.2 Sample.nativeRuntime 0 Sample.deviceName
    (Sample.hash.hexdigest Sample.preparedRecord) (some Sample.attestation) _ _ after (Sample.sharedStore_hosts _) hrun rfl
  obtain ⟨_, ⟨⟩, hstored⟩ := hstored
  have hstart : Reachable (lifeSystem Sample.nativeRuntime Sample.bridge)
      { world := Sample.sharedStore (Sample.overtakenRounds binding) } := .init ⟨rfl, rfl⟩
  have hafter : lifeStep Sample.nativeRuntime Sample.bridge
      { world := Sample.sharedStore (Sample.overtakenRounds binding) } .run = after := by rw [lifeStep, hrun]
  exact ⟨digest, after, (execution_single_shot.1 _ _ _ after (.step hstart trivial hafter)).1, hstored⟩

/-- A terminal result does not mean that the stored terminal record is about the run, or says `REVOKED`; and a grant
may be left without an attempt to revoke it. -/
theorem terminal_of_another :
    (∃ s : SharedStore Sample.hash 0, Hosts Sample.hash 0 s.world ∧ ∃ digest after,
      Sample.bridge.run Sample.nativeRuntime { world := s } =
        (.ok { status := .terminal, receiptDigest := some digest }, after) ∧
      SaysNotIssued Sample.hash after.world.world.store ∧ ¬ StoresReceipt Sample.hash digest after.world.world.store) ∧
    ∃ s : SharedStore Sample.hash 0, Hosts Sample.hash 0 s.world ∧ s.world.store .grant = none ∧ ∃ answer after grant,
      Sample.bridge.run Sample.nativeRuntime { world := s } = (answer, after) ∧
      after.world.world.store .grant = some grant ∧ IsRecord Sample.hash grant .grantIssued ∧
      ∀ c ∈ after.calls, ¬ c.Revokes := by
  constructor
  · obtain ⟨binding, hlate⟩ := Sample.late_terminalAuthorized
    obtain ⟨hbinding, -⟩ := terminalAuthorized_ok hlate
    obtain ⟨digest, after, hrun, hstored⟩ := Sample.overtaken_run hlate
    have hreads : Reads Sample.hash (record .terminal (terminalValues Sample.hash binding Sample.consumedRecord .notIssued
        none)) .terminal _ := terminal_reads hbinding (by simp)
    refine ⟨_, Sample.sharedStore_hosts _, digest, after, hrun, ⟨_, _, hstored, hreads, rfl⟩, ?_⟩
    rintro ⟨terminal, get, text, hterminal, hreads', hdisposition, -⟩
    rw [hstored] at hterminal
    obtain rfl := Option.some.inj hterminal
    obtain ⟨-, rfl⟩ := hreads.unique hreads'
    have hother : some (Value.str GrantDisposition.notIssued.value) ≠ some (.str GrantDisposition.revoked.value) := by
      decide
    exact hother hdisposition
  · obtain ⟨answer, after, hrun, hstored, hnone⟩ := Sample.unreadable_run
    refine ⟨_, Sample.sharedStore_hosts _, ?_, answer, after, _, hrun, hstored, ⟨_, Sample.ownIssuedRecord_reads⟩, hnone⟩
    rw [(Sample.sharedStore_standing _).sameStore]
    rfl

end PduExamObserver.Authority
