import PduExamObserver.Web.EventStream

/-! # The connection status that a subscription reports -/

namespace PduExamObserver.Web
open Transition
set_option autoImplicit false

/-- While no body is read, and nobody has cancelled or lost the authentication, the last status is not `connected`. -/
def Truthful (s : Subscription) : Prop :=
  (∀ parser, s.phase ≠ .reading parser) → s.stopped = false → s.authLost = false →
    s.statuses.getLast? ≠ some .connected

/-- When a body of the last permitted attempt ends or fails, one of its messages has been reported after `connected`. -/
def LastAttemptReported (s : Subscription) : StreamEvent → Prop
  | .endOfBody _ | .readFailed => ∀ parser, s.phase = .reading parser → s.stopped = false →
      maxReconnectAttempts ≤ s.reconnects → s.statuses.getLast? ≠ some .connected
  | _ => True

structure Subscription.Tidy (s : Subscription) : Prop where
  buffer : ∀ parser, s.phase = .reading parser → '\n' ∉ parser.buffer
  authLost : s.authLost = true → s.phase = .ended

variable {runtime : Runtime} {s t : Subscription} {parser : SseParser}

theorem push_flush (h : '\n' ∉ parser.buffer) (incomplete : Bool) :
    (parser.push (if incomplete then ['\ufffd'] else [])).2 = [] := by
  have hnone : '\n' ∉ parser.buffer ++ if incomplete then ['\ufffd'] else [] := by
    cases incomplete with
    | false => simpa using h
    | true => simpa using h
  rw [SseParser.push, Lines.split_of_notMem hnone]
  rfl

theorem push_buffer (parser : SseParser) (chunk : Text) : '\n' ∉ (parser.push chunk).1.buffer :=
  Lines.rest_notMem _

theorem finish_eq (h : '\n' ∉ parser.buffer) (incomplete : Bool) :
    s.finish runtime parser incomplete = if s.stopped then { s with phase := .ended } else s.retry := by
  unfold Subscription.finish
  rw [push_flush h]
  rfl

structure Subscription.Handles (s t : Subscription) : Prop where
  phase : t.phase = s.phase
  stopped : t.stopped = s.stopped
  reconnects : t.reconnects = s.reconnects
  authLost : t.authLost = s.authLost
  connections : t.connections = s.connections

theorem hand_handles (s : Subscription) (throws : StreamMessage → Bool) (message : StreamMessage) :
    s.Handles (s.hand throws message) := by
  unfold Subscription.hand
  dsimp only
  split
  · exact ⟨rfl, rfl, rfl, rfl, rfl⟩
  · exact ⟨rfl, rfl, rfl, rfl, rfl⟩

theorem handleMessage_handles (runtime : Runtime) (s : Subscription) (throws : StreamMessage → Bool) (message : ParsedSseMessage) :
    s.Handles (s.handleMessage runtime throws message) := by
  unfold Subscription.handleMessage
  split
  · exact ⟨rfl, rfl, rfl, rfl, rfl⟩
  · exact ⟨rfl, rfl, rfl, rfl, rfl⟩
  · split
    · exact hand_handles s throws _
    · split
      · exact ⟨rfl, rfl, rfl, rfl, rfl⟩
      · dsimp only
        split
        · exact ⟨rfl, rfl, rfl, rfl, rfl⟩
        · obtain ⟨hphase, hstopped, hreconnects, hauth, hconnections⟩ := hand_handles _ throws _
          exact ⟨hphase, hstopped, hreconnects, hauth, hconnections⟩

theorem foldl_handles (runtime : Runtime) (throws : StreamMessage → Bool) (messages : List ParsedSseMessage) (s : Subscription) :
    s.Handles (messages.foldl (Subscription.handleMessage runtime · throws) s) := by
  induction messages generalizing s with
  | nil => exact ⟨rfl, rfl, rfl, rfl, rfl⟩
  | cons message rest ih =>
    obtain ⟨hphase, hstopped, hreconnects, hauth, hconnections⟩ := handleMessage_handles runtime s throws message
    obtain ⟨hphase', hstopped', hreconnects', hauth', hconnections'⟩ := ih (s.handleMessage runtime throws message)
    exact ⟨hphase'.trans hphase, hstopped'.trans hstopped, hreconnects'.trans hreconnects, hauth'.trans hauth,
      hconnections'.trans hconnections⟩

/-! ## Steps -/

theorem retry_phase (s : Subscription) (parser : SseParser) : s.retry.phase ≠ .reading parser := by
  unfold Subscription.retry
  dsimp only
  split
  · exact nofun
  · exact nofun

theorem caught_phase (s : Subscription) (parser : SseParser) : s.caught.phase ≠ .reading parser := by
  unfold Subscription.caught
  split
  · exact nofun
  · exact retry_phase s parser

theorem retry_authLost (s : Subscription) : s.retry.authLost = s.authLost := by
  unfold Subscription.retry
  dsimp only
  split
  · rfl
  · rfl

theorem caught_authLost (s : Subscription) : s.caught.authLost = s.authLost := by
  unfold Subscription.caught
  split
  · rfl
  · exact retry_authLost s

theorem caught_tidy (h : s.authLost = false) : s.caught.Tidy := by
  refine ⟨fun parser hphase => absurd hphase (caught_phase s parser), fun hlost => ?_⟩
  rw [caught_authLost, h] at hlost
  cases hlost

theorem finish_eq_caught (h : '\n' ∉ parser.buffer) (incomplete : Bool) : s.finish runtime parser incomplete = s.caught :=
  finish_eq h incomplete

theorem Subscription.Tidy.authLost_eq (h : s.Tidy) (hphase : s.phase ≠ .ended) : s.authLost = false := by
  cases hlost : s.authLost with
  | false => rfl
  | true => exact absurd (h.authLost hlost) hphase

theorem ended_tidy (s : Subscription) : { s with phase := .ended }.Tidy :=
  ⟨fun _ hphase => (nomatch hphase), fun _ => rfl⟩

theorem respond_tidy (hauth : s.authLost = false) (response : Response) : (s.respond runtime response).Tidy := by
  cases response with
  | rejected => exact caught_tidy hauth
  | answered status hasBody =>
    rw [Subscription.respond]
    split
    · exact ended_tidy { s with authLost := true }
    · split
      · exact caught_tidy hauth
      · dsimp only
        split
        · rw [finish_eq_caught List.not_mem_nil]
          exact caught_tidy hauth
        · refine ⟨fun parser hreading => ?_, fun hlost => ?_⟩
          · cases hreading
            exact List.not_mem_nil
          · rw [show s.authLost = true from hlost] at hauth
            cases hauth

theorem step_tidy (s : Subscription) (e : StreamEvent) (h : s.Tidy) : (s.step runtime e).Tidy := by
  cases e with
  | turn hasSession =>
    rw [Subscription.step]
    split
    · rename_i hphase
      have hauth := h.authLost_eq (by rw [hphase]; nofun)
      split
      · exact ended_tidy s
      · split
        · refine ⟨fun _ hreading => (nomatch hreading), fun hlost => ?_⟩
          rw [hauth] at hlost
          cases hlost
        · exact ended_tidy { s with authLost := true }
    · exact h
  | response response =>
    rw [Subscription.step]
    split
    · rename_i hphase
      exact respond_tidy (h.authLost_eq (by rw [hphase]; nofun)) response
    · exact h
  | chunk text throws cancels =>
    rw [Subscription.step]
    split
    · rename_i parser hphase
      have hauth := h.authLost_eq (by rw [hphase]; nofun)
      have hauth' := (foldl_handles runtime throws (parser.push text).2 s).authLost.trans hauth
      dsimp only
      split
      · rw [finish_eq_caught (push_buffer parser text)]
        exact caught_tidy hauth'
      · refine ⟨fun next hreading => ?_, fun hlost => ?_⟩
        · cases hreading
          exact push_buffer parser text
        · dsimp only at hlost
          rw [hlost] at hauth'
          cases hauth'
    · exact h
  | endOfBody incomplete =>
    rw [Subscription.step]
    split
    · rename_i parser hphase
      rw [finish_eq_caught (h.buffer parser hphase)]
      exact caught_tidy (h.authLost_eq (by rw [hphase]; nofun))
    · exact h
  | readFailed =>
    rw [Subscription.step]
    split
    · rename_i parser hphase
      exact caught_tidy (h.authLost_eq (by rw [hphase]; nofun))
    · exact h
  | unsubscribe => exact ⟨h.buffer, h.authLost⟩

theorem retry_truthful (hstopped : s.stopped = false) (hauth : s.authLost = false) :
    Truthful s.retry ↔ (maxReconnectAttempts ≤ s.reconnects → s.statuses.getLast? ≠ some .connected) := by
  unfold Subscription.retry
  dsimp only
  split
  · rename_i hspent
    constructor
    · exact fun h _ => h (fun _ => nofun) hstopped hauth
    · exact fun h _ _ _ => h (Nat.le_of_lt_succ hspent)
  · rename_i hleft
    refine ⟨fun _ hspent => absurd (Nat.lt_succ_of_le hspent) hleft, fun _ _ _ _ => ?_⟩
    simp [Subscription.report]

theorem caught_truthful (hauth : s.authLost = false) : Truthful s.caught ↔
    (s.stopped = false → maxReconnectAttempts ≤ s.reconnects → s.statuses.getLast? ≠ some .connected) := by
  unfold Subscription.caught
  split
  · rename_i hstopped
    refine ⟨fun _ hrunning => ?_, fun _ _ hrunning => ?_⟩
    · rw [hrunning] at hstopped
      cases hstopped
    · rw [show s.stopped = false from hrunning] at hstopped
      cases hstopped
  · rename_i hrunning
    have hstopped : s.stopped = false := by simpa using hrunning
    rw [retry_truthful hstopped hauth]
    exact ⟨fun h _ => h, fun h => h hstopped⟩

theorem truthful_of_stopped (h : s.stopped = true) : Truthful s.caught := by
  intro _ hrunning
  rw [Subscription.caught, if_pos h] at hrunning
  rw [show s.stopped = false from hrunning] at h
  cases h

theorem truthful_of_authLost (h : s.authLost = true) : Truthful s := by
  intro _ _ hauth
  rw [h] at hauth
  cases hauth

theorem truthful_of_reading (h : s.phase = .reading parser) : Truthful s := fun hphase => absurd h (hphase parser)

theorem respond_truthful (hauth : s.authLost = false)
    (hs : s.stopped = false → s.statuses.getLast? ≠ some .connected) (response : Response) :
    Truthful (s.respond runtime response) := by
  have hcaught : Truthful s.caught := (caught_truthful hauth).mpr fun hstopped _ => hs hstopped
  cases response with
  | rejected => exact hcaught
  | answered status hasBody =>
    rw [Subscription.respond]
    split
    · exact truthful_of_authLost rfl
    · split
      · exact hcaught
      · dsimp only
        split
        · rename_i hstopped
          rw [finish_eq_caught List.not_mem_nil]
          exact truthful_of_stopped hstopped
        · exact truthful_of_reading rfl

theorem step_truthful (s : Subscription) (e : StreamEvent) (h : s.Tidy) (hs : Truthful s) :
    Truthful (s.step runtime e) ↔ LastAttemptReported s e := by
  cases e with
  | turn hasSession =>
    refine iff_of_true ?_ trivial
    rw [Subscription.step]
    split
    · rename_i hphase
      have hstatuses : s.stopped = false → s.authLost = false → s.statuses.getLast? ≠ some .connected :=
        hs fun parser => by rw [hphase]; nofun
      split
      · exact fun _ => hstatuses
      · split
        · exact fun _ => hstatuses
        · exact truthful_of_authLost rfl
    · exact hs
  | response response =>
    refine iff_of_true ?_ trivial
    rw [Subscription.step]
    split
    · rename_i hphase
      have hauth := h.authLost_eq (by rw [hphase]; nofun)
      exact respond_truthful hauth (fun hstopped => hs (fun parser => by rw [hphase]; nofun) hstopped hauth) response
    · exact hs
  | chunk text throws cancels =>
    refine iff_of_true ?_ trivial
    rw [Subscription.step]
    split
    · rename_i parser hphase
      dsimp only
      split
      · rename_i hstopped
        rw [finish_eq_caught (push_buffer parser text)]
        exact truthful_of_stopped hstopped
      · exact truthful_of_reading rfl
    · exact hs
  | endOfBody incomplete =>
    rw [Subscription.step]
    split
    · rename_i parser hphase
      rw [finish_eq_caught (h.buffer parser hphase), caught_truthful (h.authLost_eq (by rw [hphase]; nofun))]
      exact ⟨fun hcaught _ _ => hcaught, fun hguard => hguard parser hphase⟩
    · rename_i hphase
      exact iff_of_true hs fun parser hreading => absurd hreading (hphase parser)
  | readFailed =>
    rw [Subscription.step]
    split
    · rename_i parser hphase
      rw [caught_truthful (h.authLost_eq (by rw [hphase]; nofun))]
      exact ⟨fun hcaught _ _ => hcaught, fun hguard => hguard parser hphase⟩
    · rename_i hphase
      exact iff_of_true hs fun parser hreading => absurd hreading (hphase parser)
  | unsubscribe => exact iff_of_true (fun _ hrunning => (nomatch hrunning)) trivial

/-! ## Runs -/

/-- The reported status is truthful throughout a run exactly when no body of the last permitted attempt ends while the
last status is `connected`. -/
theorem status_truthful (runtime : Runtime) (events : List StreamEvent) :
    (∀ taken, taken <+: events → Truthful (taken.foldl (Subscription.step runtime) {})) ↔
      Guarded (Subscription.step runtime) LastAttemptReported {} events := by
  refine always_iff_guarded step_tidy step_truthful events ⟨fun _ hphase => (nomatch hphase), fun hlost => (nomatch hlost)⟩ ?_
  exact fun _ _ _ => nofun

/-! ## The last attempt -/

namespace Sample

def silent : Runtime := ⟨fun _ => none, fun _ => .nan, fun _ => .nan⟩

def connection : List StreamEvent := [.turn true, .response (.answered 200 true), .endOfBody false]

def exhausted : Subscription :=
  (connection ++ connection ++ connection ++ connection).foldl (Subscription.step silent) {}

end Sample

/-- When the fourth body has ended, nothing is read any more and the last status is `connected`. -/
theorem status_connected_at_end : ∃ runtime s, Reachable (subscription runtime) s ∧ s.phase = .ended ∧ ¬ Truthful s := by
  have hended : Sample.exhausted.phase = .ended := by decide
  have hlast : Sample.exhausted.statuses.getLast? = some .connected := by decide
  refine ⟨Sample.silent, Sample.exhausted, reachable_foldl _ (.init rfl), hended, fun htruthful => ?_⟩
  exact htruthful (fun parser => by rw [hended]; nofun) (by decide) (by decide) hlast

end PduExamObserver.Web
