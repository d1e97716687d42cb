import PduExamObserver.Authority.Bridge
import PduExamObserver.Library.History
import PduExamObserver.Library.Transition

/-! # The calls of a bridge

Whatever the authority and the driver answer or raise, the calls of a bridge over its life are in order. -/

namespace PduExamObserver.Authority
open Stateful History Transition
set_option autoImplicit false

variable {σ α β : Type} {rt : NativeRuntime} {bridge : D1N2ExecutionBridge σ} {frame : BridgeFrame σ}
  {calls : List BridgeCall} {call : BridgeCall}

/-! ## Kinds of calls -/

namespace BridgeCall

def Consumed : BridgeCall → Prop
  | .consumed answer => answer = .ok .ok
  | _ => False

def Issued : BridgeCall → Prop
  | .issued _ answer => answer = .ok .ok
  | _ => False

def IssueAsked : BridgeCall → Prop
  | .issued _ _ => True
  | _ => False

theorem Issued.issueAsked {call : BridgeCall} (h : call.Issued) : call.IssueAsked := by
  cases call with
  | issued => trivial
  | _ => exact h

def Taken : BridgeCall → Prop
  | .taken (.ok (some capability)) => capability.length = 32
  | _ => False

def Authorized : BridgeCall → Prop
  | .authorized _ answer => answer = .ok .ok
  | _ => False

def Drives : BridgeCall → Prop
  | .drove _ _ => True
  | _ => False

def Reports : BridgeCall → Prop
  | .recordRead (.ok (some _)) => True
  | _ => False

def Unreported : BridgeCall → Prop
  | .recordRead (.ok none) => True
  | .recordRead (.error _) => True
  | _ => False

def Revokes : BridgeCall → Prop
  | .revoked _ => True
  | _ => False

def Revoked : BridgeCall → Prop
  | .revoked answer => answer = .ok .ok
  | _ => False

def Terminalizes : BridgeCall → Prop
  | .terminalized _ _ => True
  | _ => False

def Plain (call : BridgeCall) : Prop :=
  ¬ call.Drives ∧ ¬ call.Terminalizes ∧ ¬ call.Issued ∧ ¬ call.Reports ∧ ¬ call.IssueAsked

def granting : List (BridgeCall → Prop) := [Consumed, Issued, Taken, Authorized]

end BridgeCall

open BridgeCall

/-- The driver is called at most once, and only with a granted capability; the terminal record comes after the
revocation of the grant that was issued. -/
structure InOrder (calls : List BridgeCall) : Prop where
  once : AtMostOnce Drives calls
  granted : Preceded granting Drives calls
  terminalized : Preceded [Issued, Revoked] Terminalizes calls

theorem inOrder_nil : InOrder [] := ⟨neverAfter_nil, preceded_nil, preceded_nil⟩

theorem InOrder.concat (h : InOrder calls)
    (hdrives : call.Drives → (∀ c ∈ calls, ¬ c.Drives) ∧ Occurs granting calls)
    (hterminalizes : call.Terminalizes → Occurs [Issued, Revoked] calls) : InOrder (calls ++ [call]) where
  once := neverAfter_concat.mpr ⟨h.once, fun hd => (hdrives hd).1⟩
  granted := h.granted.concat fun hd => (hdrives hd).2
  terminalized := h.terminalized.concat hterminalizes

theorem InOrder.other (h : InOrder calls) (hdrives : ¬ call.Drives) (hterminalizes : ¬ call.Terminalizes) :
    InOrder (calls ++ [call]) :=
  h.concat (fun hd => absurd hd hdrives) fun ht => absurd ht hterminalizes

/-! ## Rules -/

variable {entry : Except Thrown α → BridgeCall} {cleanupOk : Bool} {retained : Option RetainedLeaseCleanup}
  {life : BridgeLife σ}

section Rules

variable {Q : Except BridgeExit β → BridgeFrame σ → Prop} {f : α → BridgeM σ β}

theorem ends_call_bind {act : Act σ α}
    (hok : ∀ answer world, Ends (f answer) (frame.called world (entry (.ok answer))) Q)
    (herror : ∀ thrown world, Q (.error (.thrown thrown)) (frame.called world (entry (.error thrown)))) :
    Ends (bridgeCall entry act >>= f) frame Q := by
  rw [Ends, EStateM.run_bind]
  simp only [bridgeCall, EStateM.run]
  rcases act frame.world with ⟨answer | answer, world⟩
  · exact herror answer world
  · exact hok answer world

theorem ends_proceedIf_bind {p : Prop} [Decidable p] {f : Unit → BridgeM σ β} (hp : p → Ends (f ()) frame Q)
    (hleft : Q (.error (.leaves failedNonlaunchable)) frame) : Ends (proceedIf p >>= f) frame Q := by
  unfold proceedIf
  split
  · next h => exact hp h
  · exact hleft

theorem ends_proceedWith_bind {value : Option α} (hvalue : ∀ a, value = some a → Ends (f a) frame Q)
    (hleft : Q (.error (.leaves failedNonlaunchable)) frame) : Ends (proceedWith value >>= f) frame Q := by
  cases value with
  | some a => exact hvalue a rfl
  | none => exact hleft

theorem ends_exceptException {R : Except BridgeExit α → BridgeFrame σ → Prop}
    {x handle : BridgeM σ α} {Q : Except BridgeExit α → BridgeFrame σ → Prop} (hx : Ends x frame R)
    (hok : ∀ a t, R (.ok a) t → Q (.ok a) t) (hcaught : ∀ t, R (.error (.thrown .exception)) t → Ends handle t Q)
    (hother : ∀ exit t, R (.error exit) t → Q (.error exit) t) : Ends (exceptException x handle) frame Q := by
  refine hx.tryCatch hok fun exit t ht => ?_
  split
  · exact hcaught t ht
  · exact hother exit t ht

end Rules

/-! ## The `try` block -/

/-- What holds of a frame when the `try` block is left, however it is left. -/
structure Tried (frame : BridgeFrame σ) : Prop where
  order : InOrder frame.calls
  issued : (∃ c ∈ frame.calls, c.Issued) → frame.grantIssued = true
  occurs : frame.grantIssued = true → Occurs [Issued] frame.calls
  reports : (∃ c ∈ frame.calls, c.Reports) → frame.grantIssued = true
  driven : frame.driverResult ≠ none → frame.grantIssued = true
  attempted : (∃ c ∈ frame.calls, c.IssueAsked) → frame.grantAttempted = true

structure Trying (kinds : List (BridgeCall → Prop)) (frame : BridgeFrame σ) : Prop where
  tried : Tried frame
  undriven : ∀ c ∈ frame.calls, ¬ c.Drives
  occurred : Occurs kinds frame.calls

theorem exists_mem_concat {p : BridgeCall → Prop} (h : ∃ c ∈ calls ++ [call], p c) (hnot : ¬ p call) :
    ∃ c ∈ calls, p c := by
  obtain ⟨c, hc, hp⟩ := h
  rcases List.mem_append.mp hc with hold | hnew
  · exact ⟨c, hold, hp⟩
  · rw [List.mem_singleton.mp hnew] at hp
    exact absurd hp hnot

theorem Tried.called (h : Tried frame) (world : σ) (hplain : call.Plain) : Tried (frame.called world call) where
  order := h.order.other hplain.1 hplain.2.1
  issued hissued := h.issued (exists_mem_concat hissued hplain.2.2.1)
  occurs hissued := (h.occurs hissued).append call
  reports hreports := h.reports (exists_mem_concat hreports hplain.2.2.2.1)
  driven := h.driven
  attempted hasked := h.attempted (exists_mem_concat hasked hplain.2.2.2.2)

theorem Tried.refused (h : Tried frame) (world : σ) (hattempted : frame.grantAttempted = true)
    {binding : WorkerGrantBindingAttestation} {answer : Except Thrown PersistenceOutcome} (hrefused : answer ≠ .ok .ok) :
    Tried (frame.called world (.issued binding answer)) where
  order := h.order.other id id
  issued hissued := h.issued (exists_mem_concat hissued hrefused)
  occurs hissued := (h.occurs hissued).append _
  reports hreports := h.reports (exists_mem_concat hreports id)
  driven := h.driven
  attempted _ := hattempted

theorem Tried.calledIssued (h : Tried frame) (world : σ) (hissued : frame.grantIssued = true)
    (horder : InOrder (frame.calls ++ [call])) : Tried (frame.called world call) where
  order := horder
  issued _ := hissued
  occurs _ := (h.occurs hissued).append call
  reports _ := hissued
  driven _ := hissued
  attempted _ := by
    obtain ⟨c, hc, hkind⟩ := (h.occurs hissued).exists_mem (List.mem_singleton_self _)
    exact h.attempted ⟨c, hc, hkind.issueAsked⟩

theorem Tried.withResult (h : Tried frame) (driverResult : Option D1N2DriverResult)
    (hdriven : driverResult ≠ none → frame.grantIssued = true) : Tried { frame with driverResult } :=
  ⟨h.order, h.issued, h.occurs, h.reports, hdriven, h.attempted⟩

namespace Trying

variable {kinds : List (BridgeCall → Prop)}

theorem undriven_called (h : Trying kinds frame) (world : σ) (hdrives : ¬ call.Drives) :
    ∀ c ∈ (frame.called world call).calls, ¬ c.Drives := by
  intro c hc
  rcases List.mem_append.mp hc with hold | hnew
  · exact h.undriven c hold
  · rw [List.mem_singleton.mp hnew]
    exact hdrives

theorem called (h : Trying kinds frame) (world : σ) (call : BridgeCall) (hplain : call.Plain) :
    Trying kinds (frame.called world call) where
  tried := h.tried.called world hplain
  undriven := h.undriven_called world hplain.1
  occurred := h.occurred.append call

theorem succeeded (h : Trying kinds frame) (world : σ) (call : BridgeCall) (p : BridgeCall → Prop)
    (hplain : call.Plain) (hp : p call) : Trying (kinds ++ [p]) (frame.called world call) where
  tried := h.tried.called world hplain
  undriven := h.undriven_called world hplain.1
  occurred := h.occurred.concat hp

theorem readRecord (h : Trying kinds frame) (world : σ) (answer : Except Thrown (Option Bytes))
    (hissued : frame.grantIssued = true) : Trying kinds (frame.called world (.recordRead answer)) where
  tried := h.tried.calledIssued world hissued (h.tried.order.other id id)
  undriven := h.undriven_called world id
  occurred := h.occurred.append _

theorem issue (h : Trying kinds frame) (world : σ) (hattempted : frame.grantAttempted = true)
    (binding : WorkerGrantBindingAttestation) :
    Trying (kinds ++ [Issued]) { frame.called world (.issued binding (.ok .ok)) with grantIssued := true } where
  tried := {
    order := h.tried.order.other id id
    issued := fun _ => rfl
    occurs := fun _ => occurs_nil.concat (by exact rfl)
    reports := fun _ => rfl
    driven := fun _ => rfl
    attempted := fun _ => hattempted }
  undriven := h.undriven_called world id
  occurred := h.occurred.concat (by exact rfl)

end Trying

/-- How the `try` block is left: not by a `return` of a terminal result. -/
def TriedResult (result : Except BridgeExit α) (frame : BridgeFrame σ) : Prop :=
  Tried frame ∧ ∀ left, result = .error (.leaves left) → left = failedNonlaunchable

theorem Tried.thrown (h : Tried frame) {thrown : Thrown} :
    TriedResult (.error (.thrown thrown) : Except BridgeExit α) frame :=
  ⟨h, fun _ hleft => by cases hleft⟩

theorem Tried.left (h : Tried frame) :
    TriedResult (.error (.leaves failedNonlaunchable) : Except BridgeExit α) frame :=
  ⟨h, fun _ hleft => by
    cases hleft
    rfl⟩

theorem drive_tried (h : Trying [Consumed, Issued] frame) (hissued : frame.grantIssued = true)
    (rawChallenge : List UInt8) : Ends (bridge.drive rawChallenge) frame TriedResult := by
  refine ends_call_bind (fun value world => ?_) fun thrown world =>
    (h.called world (.taken (.error thrown)) ⟨id, id, id, id, id⟩).tried.thrown
  refine ends_proceedWith_bind (fun capability hcapability => ?_)
    (h.called world (.taken (.ok value)) ⟨id, id, id, id, id⟩).tried.left
  obtain ⟨rfl, hlength⟩ := Option.filter_eq_some_iff.mp hcapability
  have htaken := h.succeeded world (.taken (.ok (some capability))) Taken ⟨id, id, id, id, id⟩
    (by simpa only [Taken, decide_eq_true_eq] using hlength)
  refine ends_call_bind (fun grant world => ?_) fun thrown world =>
    (htaken.readRecord world (.error thrown) hissued).tried.thrown
  have hread := htaken.readRecord world (.ok grant) hissued
  refine ends_proceedWith_bind (fun grantRecord _ => ?_) hread.tried.left
  refine ends_call_bind (fun authorized world => ?_) fun thrown world =>
    (hread.called world (.authorized capability (.error thrown)) ⟨id, id, id, id, id⟩).tried.thrown
  refine ends_proceedIf_bind (fun hauthorized => ?_)
    (hread.called world (.authorized capability (.ok authorized)) ⟨id, id, id, id, id⟩).tried.left
  have hgranted := hread.succeeded world (.authorized capability (.ok authorized)) Authorized ⟨id, id, id, id, id⟩
    (congrArg Except.ok hauthorized)
  have horder : ∀ request answer, InOrder (_ ++ [BridgeCall.drove request answer]) := fun request answer =>
    hgranted.tried.order.concat (fun _ => ⟨hgranted.undriven, hgranted.occurred⟩) (fun ht => False.elim ht)
  refine ends_call_bind (fun result world => ?_) fun thrown world =>
    (hgranted.tried.calledIssued world hissued (horder _ _)).thrown
  exact ⟨(hgranted.tried.calledIssued world hissued (horder _ (.ok result))).withResult _ fun _ => hissued, nofun⟩

theorem attempt_tried (h : Trying [] frame) : Ends (bridge.attempt rt) frame TriedResult := by
  refine ends_proceedIf_bind (fun _ => ?_) h.tried.left
  refine ends_call_bind (fun valid world => ?_) fun thrown world =>
    (h.called world (.revalidated (.error thrown)) ⟨id, id, id, id, id⟩).tried.thrown
  have hvalidated := h.called world (.revalidated (.ok valid)) ⟨id, id, id, id, id⟩
  refine ends_proceedIf_bind (fun _ => ?_) hvalidated.tried.left
  refine ends_call_bind (fun consumed world => ?_) fun thrown world =>
    (hvalidated.called world (.consumed (.error thrown)) ⟨id, id, id, id, id⟩).tried.thrown
  refine ends_proceedIf_bind (fun hok => ?_)
    (hvalidated.called world (.consumed (.ok consumed)) ⟨id, id, id, id, id⟩).tried.left
  have hconsumed := hvalidated.succeeded world (.consumed (.ok consumed)) Consumed ⟨id, id, id, id, id⟩
    (congrArg Except.ok hok)
  refine ends_proceedWith_bind (fun attestation _ => ?_) hconsumed.tried.left
  refine ends_call_bind (fun entropy world => ?_) fun thrown world =>
    (hconsumed.called world (.challenged (.error thrown)) ⟨id, id, id, id, id⟩).tried.thrown
  have hchallenged := hconsumed.called world (.challenged (.ok entropy)) ⟨id, id, id, id, id⟩
  refine ends_proceedWith_bind (fun rawChallenge _ => ?_) hchallenged.tried.left
  -- the locals that are set before the grant is asked for
  have hlocals : ∀ {frame : BridgeFrame σ} (challengeDigest jobNameDigest : String), Trying [Consumed] frame →
      Trying [Consumed] { frame with challengeDigest, jobNameDigest, grantAttempted := true } :=
    fun _ _ h => ⟨⟨h.tried.order, h.tried.issued, h.tried.occurs, h.tried.reports, h.tried.driven, fun _ => rfl⟩,
      h.undriven, h.occurred⟩
  have hasked := hlocals (challengeDigest rt (hexText rawChallenge)) (jobNameDigest rt (hexText rawChallenge)) hchallenged
  refine ends_call_bind (fun issued world => ?_) fun thrown world =>
    (hasked.tried.refused world rfl (fun heq => by cases heq)).thrown
  by_cases hok : issued = .ok
  · subst hok
    exact drive_tried (hasked.issue world rfl _) rfl rawChallenge
  · refine ends_proceedIf_bind (fun h => absurd h hok) (hasked.tried.refused world rfl ?_).left
    simpa using hok

theorem guardedAttempt_tried (h : Trying [] frame) : Ends (bridge.guardedAttempt rt) frame fun result frame =>
    Tried frame ∧ ∃ exit, result = .ok exit ∧ ∀ left, exit = some (.leaves left) → left = failedNonlaunchable := by
  have hattempt : Ends (do bridge.attempt rt; return none : BridgeM σ (Option BridgeExit)) frame fun result frame =>
      TriedResult result frame ∧ ∀ exit, result = .ok exit → exit = none := by
    refine (attempt_tried h).bind (fun _ t ht => ⟨⟨ht.1, nofun⟩, fun exit heq => ?_⟩) fun e t ht => ⟨⟨ht.1, ?_⟩, nofun⟩
    · cases heq
      rfl
    · rintro left ⟨⟩
      exact ht.2 left rfl
  refine hattempt.tryCatch (fun exit t ht => ⟨ht.1.1, exit, rfl, fun left heq => ?_⟩) fun exit t ht => ?_
  · rw [ht.2 exit rfl] at heq
    cases heq
  · split
    · exact ⟨ht.1.1.withResult none fun hresult => absurd rfl hresult, none, rfl, nofun⟩
    · refine ⟨ht.1.1, _, rfl, fun left heq => ?_⟩
      obtain rfl := Option.some.inj heq
      exact ht.1.2 left rfl

/-! ## The `finally` block -/

/-- The calls when a run has ended: in order, and a grant that there was has been revoked, or it was tried. After a
grant was asked for, nothing is revoked only if the authority does not report a record then. -/
structure Finished (calls : List BridgeCall) : Prop where
  order : InOrder calls
  revokes : (∃ c ∈ calls, c.Issued ∨ c.Reports) → ∃ c ∈ calls, c.Revokes
  asks : (∃ c ∈ calls, c.IssueAsked) → (∃ c ∈ calls, c.Revokes) ∨ Occurs [IssueAsked, Unreported] calls

theorem finished_nil : Finished [] := ⟨inOrder_nil, by simp, by simp⟩

theorem Finished.revokes_concat (h : Finished calls) (hgrant : call.Issued ∨ call.Reports → ∃ c ∈ calls, c.Revokes) :
    (∃ c ∈ calls ++ [call], c.Issued ∨ c.Reports) → ∃ c ∈ calls ++ [call], c.Revokes := by
  rintro ⟨c, hc, hkind⟩
  obtain ⟨c', hc', hrevokes⟩ : ∃ c ∈ calls, c.Revokes := by
    rcases List.mem_append.mp hc with hold | hnew
    · exact h.revokes ⟨c, hold, hkind⟩
    · rw [List.mem_singleton.mp hnew] at hkind
      exact hgrant hkind
  exact ⟨c', List.mem_append_left _ hc', hrevokes⟩

theorem Finished.asks_concat (h : Finished calls) (hasked : ¬ call.IssueAsked) :
    (∃ c ∈ calls ++ [call], c.IssueAsked) →
      (∃ c ∈ calls ++ [call], c.Revokes) ∨ Occurs [IssueAsked, Unreported] (calls ++ [call]) := by
  intro hexists
  rcases h.asks (exists_mem_concat hexists hasked) with ⟨c, hc, hrevokes⟩ | hoccurs
  · exact .inl ⟨c, List.mem_append_left _ hc, hrevokes⟩
  · exact .inr (hoccurs.append call)

theorem Finished.other (h : Finished calls) (hdrives : ¬ call.Drives) (hterminalizes : ¬ call.Terminalizes)
    (hasked : ¬ call.IssueAsked) (hgrant : call.Issued ∨ call.Reports → ∃ c ∈ calls, c.Revokes) :
    Finished (calls ++ [call]) where
  order := h.order.other hdrives hterminalizes
  revokes := h.revokes_concat hgrant
  asks := h.asks_concat hasked

structure Asked (needed : Bool) (frame : BridgeFrame σ) : Prop where
  order : InOrder frame.calls
  found : (∃ c ∈ frame.calls, c.Issued ∨ c.Reports) → needed = true
  issued : frame.grantIssued = true → needed = true
  occurs : frame.grantIssued = true → Occurs [Issued] frame.calls
  driven : frame.driverResult ≠ none → frame.grantIssued = true
  asks : (∃ c ∈ frame.calls, c.IssueAsked) → needed = true ∨ Occurs [IssueAsked, Unreported] frame.calls

theorem Tried.asked (h : Tried frame) (needed : Bool) (hissued : frame.grantIssued = true → needed = true)
    (hasks : (∃ c ∈ frame.calls, c.IssueAsked) → needed = true ∨ Occurs [IssueAsked, Unreported] frame.calls) :
    Asked needed frame where
  order := h.order
  asks := hasks
  found := by
    rintro ⟨c, hc, hkind | hkind⟩
    · exact hissued (h.issued ⟨c, hc, hkind⟩)
    · exact hissued (h.reports ⟨c, hc, hkind⟩)
  issued := hissued
  occurs := h.occurs
  driven := h.driven

theorem Tried.finished (h : Tried frame) (hissued : frame.grantIssued = false)
    (hasks : (∃ c ∈ frame.calls, c.IssueAsked) → Occurs [IssueAsked, Unreported] frame.calls) :
    Finished frame.calls where
  order := h.order
  asks hasked := .inr (hasks hasked)
  revokes := by
    rintro ⟨c, hc, hkind | hkind⟩
    · exact absurd (h.issued ⟨c, hc, hkind⟩) (by simp [hissued])
    · exact absurd (h.reports ⟨c, hc, hkind⟩) (by simp [hissued])

/-- A block of the `finally` block ends with what it establishes, or with an exception over finished calls. -/
def Cleans (P : α → BridgeFrame σ → Prop) (result : Except BridgeExit α) (frame : BridgeFrame σ) : Prop :=
  match result with
  | .ok a => P a frame
  | .error exit => Finished frame.calls ∧ ∃ thrown, exit = .thrown thrown

theorem revokeNeeded_asked (h : Tried frame) :
    Ends bridge.revokeNeeded frame (Cleans fun asked frame => Asked asked.1 frame) := by
  unfold D1N2ExecutionBridge.revokeNeeded
  refine Ends.get_bind ?_
  cases hissued : frame.grantIssued with
  | true => exact h.asked true (fun _ => rfl) fun _ => .inl rfl
  | false =>
    cases hattempted : frame.grantAttempted with
    | false =>
      refine h.asked false (by simp [hissued]) fun hasked => ?_
      exact absurd (h.attempted hasked) (by simp [hattempted])
    | true =>
      have hunreported : ∀ {call : BridgeCall} (world : σ), ¬ call.IssueAsked → call.Unreported →
          (∃ c ∈ (frame.called world call).calls, c.IssueAsked) →
            Occurs [IssueAsked, Unreported] (frame.called world call).calls := by
        intro call world hnot hkind hasked
        obtain ⟨c, hc, hissue⟩ := exists_mem_concat hasked hnot
        exact (occurs_of_mem hc hissue).concat hkind
      have hread : Ends bridge.recordPresent frame fun result t => (∀ asked, result = .ok asked → Asked asked.1 t) ∧
          (∀ exit, result = .error exit → Tried t ∧ t.grantIssued = false ∧ (∃ thrown, exit = .thrown thrown) ∧
            ((∃ c ∈ t.calls, c.IssueAsked) → Occurs [IssueAsked, Unreported] t.calls)) := by
        refine ends_call_bind (fun grant world => ⟨?_, nofun⟩) fun thrown world => ⟨nofun, ?_⟩
        · rintro _ ⟨⟩
          cases grant with
          | none =>
            exact (h.called world ⟨id, id, id, id, id⟩).asked false (by simp [BridgeFrame.called, hissued])
              fun hasked => .inr (hunreported world id trivial hasked)
          | some grantRecord =>
            exact ⟨h.order.other id id, fun _ => rfl, fun _ => rfl, fun hi => (h.occurs hi).append _, h.driven,
              fun _ => .inl rfl⟩
        · rintro _ ⟨⟩
          exact ⟨h.called world ⟨id, id, id, id, id⟩, hissued, ⟨thrown, rfl⟩, hunreported world id trivial⟩
      refine ends_exceptException hread (fun asked t ht => ht.1 asked rfl) (fun t ht => ?_) fun exit t ht => ?_
      · obtain ⟨htried, hnone, -, hasks⟩ := ht.2 _ rfl
        exact htried.asked false (by simp [hnone]) fun hasked => .inr (hasks hasked)
      · obtain ⟨htried, hnone, hthrown, hasks⟩ := ht.2 _ rfl
        exact ⟨htried.finished hnone hasks, hthrown⟩

structure Cleaned (cleanupOk : Bool) (frame : BridgeFrame σ) : Prop where
  finished : Finished frame.calls
  issued : frame.grantIssued = true → ∃ c ∈ frame.calls, c.Revokes
  revoked : cleanupOk = true → frame.driverResult ≠ none → Occurs [Issued, Revoked] frame.calls

theorem Asked.finished_concat {needed : Bool} (h : Asked needed frame) (answer : Except Thrown PersistenceOutcome) :
    Finished (frame.calls ++ [.revoked answer]) where
  order := h.order.other id id
  revokes _ := ⟨_, List.mem_append_right _ (List.mem_singleton_self _), trivial⟩
  asks _ := .inl ⟨_, List.mem_append_right _ (List.mem_singleton_self _), trivial⟩

theorem revoke_cleaned {needed asked : Bool} (h : Asked needed frame) :
    Ends (bridge.revoke needed asked) frame (Cleans fun cleanupOk frame => Cleaned cleanupOk frame) := by
  unfold D1N2ExecutionBridge.revoke
  cases needed with
  | false =>
    have hnone : ∀ hissued : frame.grantIssued = true, False := fun hissued => nomatch h.issued hissued
    have hasks : (∃ c ∈ frame.calls, c.IssueAsked) →
        (∃ c ∈ frame.calls, c.Revokes) ∨ Occurs [IssueAsked, Unreported] frame.calls := fun hasked =>
      (h.asks hasked).elim nofun .inr
    refine ⟨⟨h.order, fun hgrant => (nomatch h.found hgrant), hasks⟩, fun hissued => (hnone hissued).elim,
      fun _ hdriven => ?_⟩
    exact (hnone (h.driven hdriven)).elim
  | true =>
    have hcalled : ∀ world answer, ∃ c ∈ (frame.called world (.revoked answer)).calls, c.Revokes := fun world answer =>
      ⟨_, List.mem_append_right _ (List.mem_singleton_self _), trivial⟩
    have hrun : Ends (bridge.revokeOnce asked) frame fun result t =>
        (∃ world answer, t = frame.called world (.revoked answer) ∧
          ∀ cleanupOk, result = .ok cleanupOk → cleanupOk = true → answer = .ok .ok) ∧
        ∀ exit, result = .error exit → ∃ thrown, exit = .thrown thrown := by
      refine ends_call_bind (fun outcome world => ⟨⟨world, .ok outcome, rfl, ?_⟩, nofun⟩) fun thrown world =>
        ⟨⟨world, .error thrown, rfl, nofun⟩, ?_⟩
      · rintro _ ⟨⟩ hok
        rw [Bool.and_eq_true, decide_eq_true_eq] at hok
        rw [hok.1]
      · rintro _ ⟨⟩
        exact ⟨thrown, rfl⟩
    refine ends_exceptException hrun ?_ ?_ ?_
    · rintro cleanupOk t ⟨⟨world, answer, rfl, hanswer⟩, -⟩
      refine ⟨h.finished_concat answer, fun _ => hcalled world answer, fun hok hdriven => ?_⟩
      exact (h.occurs (h.driven hdriven)).concat (hanswer cleanupOk rfl hok)
    · rintro t ⟨⟨world, answer, rfl, -⟩, -⟩
      exact ⟨h.finished_concat answer, fun _ => hcalled world answer, nofun⟩
    · rintro exit t ⟨⟨world, answer, rfl, -⟩, hthrown⟩
      exact ⟨h.finished_concat answer, hthrown exit rfl⟩

def Reported (rt : NativeRuntime) (calls : List BridgeCall) (receiptDigest : Option String) : Prop :=
  ∃ binding outcome, BridgeCall.terminalized binding (.ok outcome) ∈ calls ∧
    (outcome = .ok ∨ outcome = .terminalAlreadyPresent) ∧ receiptDigest = some binding.receiptDigest ∧
    ∃ text, binding.receiptJson = .json text ∧ rt.hash.hexdigest (.text text) = binding.receiptDigest

theorem terminalEvidence_some {revoked : Option Bytes}
    {result : D1N2DriverResult} {evidence : VerifiedTerminalEvidence}
    (h : bridge.terminalEvidence rt frame cleanupOk revoked retained = some (result, evidence)) :
    cleanupOk = true ∧ frame.driverResult = some result ∧
      ∃ text, evidence.receiptJson = .json text ∧ rt.hash.hexdigest (.text text) = evidence.receiptDigest := by
  unfold D1N2ExecutionBridge.terminalEvidence at h
  obtain ⟨cleanup, -, h⟩ := Option.bind_eq_some_iff.mp h
  obtain ⟨driven, hdriven, h⟩ := Option.bind_eq_some_iff.mp h
  cases cleanupOk with
  | false => cases h
  | true =>
    obtain ⟨receipt, -, h⟩ := Option.bind_eq_some_iff.mp h
    split at h
    · next ledger _ =>
      obtain ⟨built, hbuilt, h⟩ := Option.bind_eq_some_iff.mp h
      cases h
      refine ⟨rfl, hdriven, receipt, ?_, (buildVerifiedTerminalEvidence_digests hbuilt).1.symm⟩
      unfold buildVerifiedTerminalEvidence at hbuilt
      split at hbuilt
      · split at hbuilt
        · cases hbuilt
        · split at hbuilt
          · cases hbuilt
            rfl
          · cases hbuilt
      · cases hbuilt
    · cases h

theorem Cleaned.called (h : Cleaned cleanupOk frame) (world : σ) (hdrives : ¬ call.Drives)
    (hterminalizes : ¬ call.Terminalizes) (hasked : ¬ call.IssueAsked)
    (hgrant : call.Issued ∨ call.Reports → frame.grantIssued = true) : Cleaned cleanupOk (frame.called world call) where
  finished := h.finished.other hdrives hterminalizes hasked fun hkind => h.issued (hgrant hkind)
  issued hissued := by
    obtain ⟨c, hc, hrevokes⟩ := h.issued hissued
    exact ⟨c, List.mem_append_left _ hc, hrevokes⟩
  revoked hok hdriven := (h.revoked hok hdriven).append call

theorem terminalize_reported {revoked : Option Bytes}
    (h : Cleaned cleanupOk frame) :
    Ends (bridge.terminalize cleanupOk (bridge.terminalEvidence rt frame cleanupOk revoked retained)) frame
      (Cleans fun ended frame => Finished frame.calls ∧ (ended.1 = true → Reported rt frame.calls ended.2)) := by
  cases hevidence : bridge.terminalEvidence rt frame cleanupOk revoked retained with
  | none => exact ⟨h.finished, nofun⟩
  | some built =>
    obtain ⟨result, evidence⟩ := built
    obtain ⟨hok, hresult, text, htext, hdigest⟩ := terminalEvidence_some hevidence
    have hrevoked := h.revoked hok (by simp [hresult])
    have hcalled : ∀ binding answer, Finished (frame.calls ++ [.terminalized binding answer]) := by
      intro binding answer
      exact ⟨h.finished.order.concat False.elim fun _ => hrevoked,
        h.finished.revokes_concat fun hkind => hkind.elim False.elim False.elim, h.finished.asks_concat id⟩
    refine ends_call_bind (fun outcome world => ⟨hcalled _ _, fun hended => ?_⟩) fun thrown world =>
      ⟨hcalled _ _, thrown, rfl⟩
    rw [Bool.and_eq_true, decide_eq_true_eq] at hended
    exact ⟨_, outcome, List.mem_append_right _ (List.mem_singleton_self _), hended.1, rfl, text, htext, hdigest⟩

theorem revokedRecord_cleaned (h : Cleaned cleanupOk frame) :
    Ends bridge.revokedRecord frame (Cleans fun _ frame => Cleaned cleanupOk frame) := by
  refine Ends.get_bind ?_
  cases hissued : frame.grantIssued with
  | false => exact h
  | true =>
    have hread : ∀ world answer, Cleaned cleanupOk (frame.called world (.recordRead answer)) := fun world answer =>
      h.called world id id id fun _ => hissued
    have hcall : Ends (bridgeCall .recordRead bridge.authority.grantRecordBytes >>= pure) frame
        (Cleans fun _ frame => Cleaned cleanupOk frame) :=
      ends_call_bind (fun grant world => hread world _) fun thrown world => ⟨(hread world _).finished, thrown, rfl⟩
    rw [bind_pure] at hcall
    exact hcall

theorem settle_reported (h : Cleaned cleanupOk frame) : Ends (bridge.settle rt cleanupOk) frame
    (Cleans fun ended frame => Finished frame.calls ∧ (ended.1 = true → Reported rt frame.calls ended.2)) := by
  have honce : Ends (bridge.settleOnce rt cleanupOk) frame
      (Cleans fun ended frame => Finished frame.calls ∧ (ended.1 = true → Reported rt frame.calls ended.2)) := by
    refine (revokedRecord_cleaned h).bind (fun revoked t ht => ?_) fun exit t ht => ht
    have hclosed : ∀ world answer, Cleaned cleanupOk (t.called world (.closed answer)) := fun world answer =>
      Cleaned.called ht world id id id fun hkind => hkind.elim False.elim False.elim
    refine ends_call_bind (fun retained world => ?_) fun thrown world => ⟨(hclosed world _).finished, thrown, rfl⟩
    exact Ends.get_bind (terminalize_reported (hclosed world _))
  refine ends_exceptException honce (fun ended t ht => ht) (fun t ht => ⟨ht.1, nofun⟩) fun exit t ht => ht

/-! ## What every call keeps -/

structure D1N2ExecutionBridge.KeptByCalls (bridge : D1N2ExecutionBridge σ) (I : σ → List BridgeCall → Prop) : Prop where
  revalidate : ∀ w calls, I w calls → I (bridge.authority.revalidateForRun w).2
    (calls ++ [.revalidated (bridge.authority.revalidateForRun w).1])
  consume : ∀ w calls, I w calls → I (bridge.authority.consume w).2 (calls ++ [.consumed (bridge.authority.consume w).1])
  challenge : ∀ w calls, I w calls → I (bridge.challengeEntropy w).2 (calls ++ [.challenged (bridge.challengeEntropy w).1])
  issue : ∀ binding w calls, I w calls → I (bridge.authority.issueGrant binding w).2
    (calls ++ [.issued binding (bridge.authority.issueGrant binding w).1])
  take : ∀ w calls, I w calls → I (bridge.authority.takeGrantCapability w).2
    (calls ++ [.taken (bridge.authority.takeGrantCapability w).1])
  readRecord : ∀ w calls, I w calls → I (bridge.authority.grantRecordBytes w).2
    (calls ++ [.recordRead (bridge.authority.grantRecordBytes w).1])
  authorize : ∀ capability w calls, I w calls → I (bridge.authority.authorizeGrant capability w).2
    (calls ++ [.authorized capability (bridge.authority.authorizeGrant capability w).1])
  drive : ∀ request w calls, I w calls → I (bridge.driver request w).2
    (calls ++ [.drove request (bridge.driver request w).1])
  revoke : ∀ w calls, I w calls → I (bridge.authority.revokeGrant w).2
    (calls ++ [.revoked (bridge.authority.revokeGrant w).1])
  close : ∀ w calls, I w calls → I (bridge.authority.closeRetainedForTerminal w).2
    (calls ++ [.closed (bridge.authority.closeRetainedForTerminal w).1])
  terminalize : ∀ binding w calls, I w calls → I (bridge.authority.terminalize binding w).2
    (calls ++ [.terminalized binding (bridge.authority.terminalize binding w).1])

section KeptByCalls

variable {I : σ → List BridgeCall → Prop}

abbrev KeepsFrame (I : σ → List BridgeCall → Prop) (s t : BridgeFrame σ) : Prop := I s.world s.calls → I t.world t.calls

instance : IsPreorder (BridgeFrame σ) (KeepsFrame I) where
  refl _ := id
  trans _ _ _ h h' hr := h' (h hr)

theorem keeps_bridgeCall {act : Act σ α}
    (h : ∀ w calls, I w calls → I (act w).2 (calls ++ [entry (act w).1])) :
    Keeps (KeepsFrame I) (bridgeCall entry act) := by
  intro s hs
  have hcall := h s.world s.calls hs
  simp only [bridgeCall, EStateM.run]
  rcases hact : act s.world with ⟨answer | answer, world⟩ <;> rw [hact] at hcall <;> exact hcall

theorem keeps_proceedIf (p : Prop) [Decidable p] : Keeps (KeepsFrame I) (proceedIf p : BridgeM σ Unit) :=
  Keeps.ite (fun _ => Keeps.return _) fun _ => Keeps.throw _

theorem keeps_proceedWith (value : Option α) : Keeps (KeepsFrame I) (proceedWith value : BridgeM σ α) := by
  cases value with
  | some a => exact Keeps.return _
  | none => exact Keeps.throw _

theorem keeps_exceptException {x handle : BridgeM σ α} (hx : Keeps (KeepsFrame I) x)
    (hhandle : Keeps (KeepsFrame I) handle) : Keeps (KeepsFrame I) (exceptException x handle) := by
  refine Keeps.tryCatch hx fun exit => ?_
  split
  · exact hhandle
  · exact Keeps.throw _

variable (h : bridge.KeptByCalls I)
include h

theorem keeps_drive (rawChallenge : List UInt8) : Keeps (KeepsFrame I) (bridge.drive rawChallenge) := by
  refine Keeps.bind (keeps_bridgeCall h.take) fun value => ?_
  refine Keeps.bind (keeps_proceedWith _) fun capability => ?_
  refine Keeps.bind (keeps_bridgeCall h.readRecord) fun grant => ?_
  refine Keeps.bind (keeps_proceedWith _) fun grantRecord => ?_
  refine Keeps.bind (keeps_bridgeCall (h.authorize capability)) fun authorized => ?_
  refine Keeps.bind (keeps_proceedIf _) fun _ => ?_
  exact Keeps.bind (keeps_bridgeCall (h.drive _)) fun result => Keeps.modify fun _ hs => hs

theorem keeps_attempt : Keeps (KeepsFrame I) (bridge.attempt rt) := by
  refine Keeps.bind (keeps_proceedIf _) fun _ => ?_
  refine Keeps.bind (keeps_bridgeCall h.revalidate) fun valid => ?_
  refine Keeps.bind (keeps_proceedIf _) fun _ => ?_
  refine Keeps.bind (keeps_bridgeCall h.consume) fun consumed => ?_
  refine Keeps.bind (keeps_proceedIf _) fun _ => ?_
  refine Keeps.bind (keeps_proceedWith _) fun attestation => ?_
  refine Keeps.bind (keeps_bridgeCall h.challenge) fun entropy => ?_
  refine Keeps.bind (keeps_proceedWith _) fun rawChallenge => ?_
  refine Keeps.bind (Keeps.modify fun _ hs => hs) fun _ => ?_
  refine Keeps.bind (keeps_bridgeCall (h.issue _)) fun issued => ?_
  refine Keeps.bind (keeps_proceedIf _) fun _ => ?_
  exact Keeps.bind (Keeps.modify fun _ hs => hs) fun _ => keeps_drive h rawChallenge

theorem keeps_guardedAttempt : Keeps (KeepsFrame I) (bridge.guardedAttempt rt) := by
  refine Keeps.tryCatch ?_ fun exit => ?_
  · exact Keeps.bind (keeps_attempt h) fun _ => Keeps.return _
  · split
    · exact Keeps.bind (Keeps.modify fun _ hs => hs) fun _ => Keeps.return _
    · exact Keeps.return _

theorem keeps_revokeNeeded : Keeps (KeepsFrame I) bridge.revokeNeeded := by
  refine Keeps.bind Keeps.get fun frame => ?_
  refine Keeps.ite (fun _ => Keeps.return _) fun _ => ?_
  refine Keeps.ite (fun _ => ?_) fun _ => Keeps.return _
  refine keeps_exceptException ?_ (Keeps.return _)
  exact Keeps.bind (keeps_bridgeCall h.readRecord) fun grant => Keeps.return _

theorem keeps_revoke (needed cleanupOk : Bool) : Keeps (KeepsFrame I) (bridge.revoke needed cleanupOk) := by
  refine Keeps.ite (fun _ => keeps_exceptException ?_ (Keeps.return _)) fun _ => Keeps.return _
  exact Keeps.bind (keeps_bridgeCall h.revoke) fun outcome => Keeps.return _

theorem keeps_settle (cleanupOk : Bool) : Keeps (KeepsFrame I) (bridge.settle rt cleanupOk) := by
  refine keeps_exceptException ?_ (Keeps.return _)
  have hrecord : Keeps (KeepsFrame I) bridge.revokedRecord :=
    Keeps.bind Keeps.get fun frame =>
      Keeps.ite (fun _ => keeps_bridgeCall h.readRecord) fun _ => Keeps.return _
  refine Keeps.bind hrecord fun revoked => ?_
  refine Keeps.bind (keeps_bridgeCall h.close) fun retained => ?_
  refine Keeps.bind Keeps.get fun frame => ?_
  cases bridge.terminalEvidence rt frame cleanupOk revoked retained with
  | none => exact Keeps.return _
  | some built =>
    exact Keeps.bind (keeps_bridgeCall (h.terminalize _)) fun outcome => Keeps.return _

theorem keeps_body : Keeps (KeepsFrame I) (bridge.body rt) := by
  refine Keeps.bind (keeps_guardedAttempt h) fun exit => ?_
  refine Keeps.bind (keeps_revokeNeeded h) fun asked => ?_
  refine Keeps.bind (keeps_revoke h _ _) fun cleanupOk => ?_
  refine Keeps.bind (keeps_settle h _) fun ended => ?_
  cases exit with
  | some exit => exact Keeps.throw _
  | none => exact Keeps.bind Keeps.get fun frame => Keeps.return _

theorem run_keeps (hlife : I life.world life.calls) :
    I (bridge.run rt life).2.world (bridge.run rt life).2.calls := by
  unfold D1N2ExecutionBridge.run
  split
  · exact hlife
  · have hbody := (keeps_body h : Keeps (KeepsFrame I) (bridge.body rt)) { world := life.world, calls := life.calls } hlife
    split <;> next hrun => rw [hrun] at hbody; exact hbody

end KeptByCalls

/-! ## A run and the life of a bridge -/

theorem conclude_terminal {result : Option D1N2DriverResult} {receiptDigest : Option String}
    (h : (D1N2ExecutionBridge.conclude result cleanupOk receiptDigest).status = .terminal) :
    cleanupOk = true ∧ (D1N2ExecutionBridge.conclude result cleanupOk receiptDigest).receiptDigest = receiptDigest := by
  cases result with
  | none => cases h
  | some result =>
    simp only [D1N2ExecutionBridge.conclude] at h ⊢
    split at h
    · next hgood =>
      rw [if_pos hgood]
      exact ⟨hgood.1, rfl⟩
    · cases h

theorem body_finished (h : Trying [] frame) : Ends (bridge.body rt) frame fun ended frame => Finished frame.calls ∧
    (∀ result, ended = .ok result → result.status = .terminal → Reported rt frame.calls result.receiptDigest) ∧
    ∀ left, ended = .error (.leaves left) → left = failedNonlaunchable := by
  have hthrown : ∀ {α : Type} {P : α → BridgeFrame σ → Prop} {exit : BridgeExit} {t : BridgeFrame σ},
      Cleans P (.error exit) t → Finished t.calls ∧
        (∀ result, (.error exit : Except BridgeExit D1N2ExecutionResult) = .ok result → result.status = .terminal →
          Reported rt t.calls result.receiptDigest) ∧
        ∀ left, (.error exit : Except BridgeExit D1N2ExecutionResult) = .error (.leaves left) →
          left = failedNonlaunchable := by
    rintro α P exit t ⟨hfinished, thrown, rfl⟩
    exact ⟨hfinished, nofun, fun left heq => by cases heq⟩
  refine (guardedAttempt_tried h).bind (fun exit t ht => ?_) fun e t ht => ?_
  · obtain ⟨htried, _, ⟨⟩, hleft⟩ := ht
    refine (revokeNeeded_asked htried).bind (fun asked t ht => ?_) fun e t ht => hthrown ht
    refine (revoke_cleaned ht).bind (fun cleanupOk t ht => ?_) fun e t ht => hthrown ht
    refine (settle_reported ht).bind (fun ended t ht => ?_) fun e t ht => hthrown ht
    obtain ⟨hfinished, hreported⟩ := ht
    cases exit with
    | some exit =>
      refine ⟨hfinished, nofun, fun left heq => ?_⟩
      cases heq
      exact hleft left rfl
    | none =>
      refine ⟨hfinished, ?_, nofun⟩
      rintro result ⟨⟩ hterminal
      obtain ⟨hok, hdigest⟩ := conclude_terminal hterminal
      rw [hdigest]
      exact hreported hok
  · obtain ⟨-, _, hexit, -⟩ := ht
    cases hexit

inductive LifeAction (σ : Type) where
  | run
  /-- what others do to the world between the runs -/
  | elsewhere (world : σ)

def lifeStep (rt : NativeRuntime) (bridge : D1N2ExecutionBridge σ) (life : BridgeLife σ) : LifeAction σ → BridgeLife σ
  | .run => (bridge.run rt life).2
  | .elsewhere world => { life with world }

def lifeSystem (rt : NativeRuntime) (bridge : D1N2ExecutionBridge σ) : System (BridgeLife σ) (LifeAction σ) :=
  ofFun (fun life => life.used = false ∧ life.calls = []) (lifeStep rt bridge)

theorem run_finished {life' : BridgeLife σ} (hunused : life.used = false → life.calls = [])
    (hfinished : Finished life.calls) {result : Except Thrown D1N2ExecutionResult} (h : bridge.run rt life = (result, life')) :
    life'.used = true ∧ Finished life'.calls ∧
      ∀ answer, result = .ok answer → answer.status = .terminal → Reported rt life'.calls answer.receiptDigest := by
  unfold D1N2ExecutionBridge.run at h
  cases hused : life.used with
  | true =>
    rw [hused] at h
    cases h
    refine ⟨hused, hfinished, ?_⟩
    rintro answer ⟨⟩ ⟨⟩
  | false =>
    rw [hused] at h
    have htrying : Trying [] ({ world := life.world, calls := life.calls } : BridgeFrame σ) := by
      rw [hunused hused]
      exact ⟨⟨inOrder_nil, by simp, nofun, by simp, fun hresult => absurd rfl hresult, by simp⟩, by simp, occurs_nil⟩
    have hbody : Ends (bridge.body rt) _ _ := body_finished htrying
    simp only [Bool.false_eq_true, if_false] at h
    split at h
    · next answer frame hrun =>
      cases h
      obtain ⟨hcalls, hreported, -⟩ := hbody.ok hrun
      refine ⟨rfl, hcalls, ?_⟩
      rintro answer ⟨⟩ hterminal
      exact hreported _ rfl hterminal
    · next answer frame hrun =>
      cases h
      obtain ⟨hcalls, -, hleft⟩ := hbody.error hrun
      refine ⟨rfl, hcalls, ?_⟩
      rintro answer ⟨⟩ hterminal
      rw [hleft _ rfl] at hterminal
      cases hterminal
    · next thrown frame hrun =>
      cases h
      exact ⟨rfl, (hbody.error hrun).1, nofun⟩

theorem life_finished (h : Reachable (lifeSystem rt bridge) life) :
    (life.used = false → life.calls = []) ∧ Finished life.calls := by
  refine h.invariant (I := fun life => (life.used = false → life.calls = []) ∧ Finished life.calls) ?_ ?_
  · rintro life ⟨hunused, hcalls⟩
    rw [hcalls]
    exact ⟨fun _ => rfl, finished_nil⟩
  · rintro life action _ ⟨hunused, hfinished⟩ - rfl
    cases action with
    | run =>
      cases hrun : bridge.run rt life with
      | mk result after =>
        obtain ⟨hused, hcalls, -⟩ := run_finished hunused hfinished hrun
        simp only [lifeStep, hrun, hused]
        exact ⟨nofun, hcalls⟩
    | elsewhere world => exact ⟨hunused, hfinished⟩

end PduExamObserver.Authority
