import PduExamObserver.Services.StreamGapless

/-! # Runs of the event streams

What publishing, reading, waiting and closing preserve for one stream holds for every stream of
every session in every state of a run. -/

namespace PduExamObserver.Services
open Transition
set_option autoImplicit false

/-! ## A refilled queue loses events

The condition under which the prefix stays gapless is exact: once a stale queue accepts an event
while an older one that is due is missing, reading on hands out the newer event. -/

variable {event : Event} {n : Nat} {s : Stream}

namespace Stream

theorem drain_last (record : SessionRecord) (event : Event) (front : List Event)
    (hlive : s.phase = .live) (hqueue : s.queue = front ++ [event])
    (hnew : ∀ q ∈ front, q.eventSeq < event.eventSeq) (hlast : s.lastDelivered < event.eventSeq) :
    event ∈ ((read record)^[front.length + 1] s).delivered ∧
      (∀ e ∈ ((read record)^[front.length + 1] s).delivered, e ∈ s.delivered ∨ e ∈ s.queue) ∧
      ((read record)^[front.length + 1] s).after = s.after ∧
      ((read record)^[front.length + 1] s).dropped = s.dropped := by
  induction front generalizing s with
  | nil =>
    rw [List.nil_append] at hqueue
    simp [read, hlive, readLive, hqueue, hlast, delivered]
  | cons q front ih =>
    rw [List.cons_append] at hqueue
    have hnew' : ∀ q ∈ front, q.eventSeq < event.eventSeq :=
      fun q hq => hnew q (List.mem_cons_of_mem _ hq)
    have hread : s.read record = s.readLive := by simp [read, hlive]
    rw [List.length_cons, Function.iterate_succ_apply, hread]
    by_cases hlt : s.lastDelivered < q.eventSeq
    · have hnext : s.readLive = { s with
          phase := .live, queue := front ++ [event], lastDelivered := q.eventSeq
          output := s.output ++ [.event q] } := by simp [readLive, hqueue, hlt]
      obtain ⟨hmem, hsub, hafter, hdrop⟩ :=
        ih (s := s.readLive) (by simp [hnext]) (by simp [hnext]) hnew'
          (by simpa [hnext] using hnew q (List.mem_cons_self ..))
      refine ⟨hmem, ?_, by simpa [hnext] using hafter, by simpa [hnext] using hdrop⟩
      intro e he
      have := hsub e he
      simp only [hnext, delivered, deliveredEvents_event, List.mem_append, List.mem_singleton] at this
      simp only [hqueue, List.mem_cons, List.mem_append]
      tauto
    · have hnext : s.readLive = { s with phase := .live, queue := front ++ [event] } := by
        simp [readLive, hqueue, hlt]
      obtain ⟨hmem, hsub, hafter, hdrop⟩ :=
        ih (s := s.readLive) (by simp [hnext]) (by simp [hnext]) hnew' (by simpa [hnext] using hlast)
      refine ⟨hmem, ?_, by simpa [hnext] using hafter, by simpa [hnext] using hdrop⟩
      intro e he
      have := hsub e he
      simp only [hnext, delivered, List.mem_append, List.mem_singleton] at this
      simp only [hqueue, List.mem_cons, List.mem_append]
      tauto

theorem refill_breaks {limits : StreamLimits} (record : SessionRecord) (hi : s.Inv limits n) (hrefill : s.Refillable limits)
    (hlost : ¬ s.NothingLost n) (hevent : event.eventSeq = n + 1) :
    event ∈ ((read record)^[s.queue.length + 1] (s.put limits event)).delivered ∧
      ((read record)^[s.queue.length + 1] (s.put limits event)).dropped = s.dropped ∧
      ¬ ((read record)^[s.queue.length + 1] (s.put limits event)).Gapless := by
  obtain ⟨hlive, -, hfull⟩ := hrefill
  have hsub : s.subscribed = true := by simp [subscribed, hlive]
  have ht := hi.2 hsub
  have hlast := ht.last_ok (by simp [hlive])
  have hput : s.put limits event = { s with queue := s.queue ++ [event] } := by
    simp [put, hsub, hfull]
  have hlt : s.lastDelivered < event.eventSeq := by
    by_contra hle
    exact hlost fun q hq hqn => by omega
  obtain ⟨hmem, hfrom, hafter, hdrop⟩ := drain_last record event s.queue (s := s.put limits event)
    (by simp [hput, hlive]) (by simp [hput])
    (fun q hq => by have := ht.queue_le _ (List.mem_map_of_mem hq); omega) (by simpa [hput] using hlt)
  refine ⟨hmem, by rw [hdrop, hput], fun hgap => hlost fun q hq hqn => ?_⟩
  -- a gapless stream that got to `n + 1` has handed out `q`, and it came from the queue
  have hend := hgap.mem_iff.mp (List.mem_map_of_mem (f := Event.eventSeq) hmem)
  have hsame : (s.put limits event).after = s.after := by rw [hput]
  have hq' := hgap.mem_iff.mpr ⟨show _ < q by omega, show q ≤ _ by omega⟩
  obtain ⟨e, he, rfl⟩ := List.mem_map.mp hq'
  rcases hfrom e he with hold | hqueued
  · have hold' : e ∈ s.delivered := by simpa [hput] using hold
    have hbound := hi.1.mem_iff.mp (List.mem_map_of_mem (f := Event.eventSeq) hold')
    rw [List.length_map] at hbound
    omega
  · rw [hput, List.mem_append, List.mem_singleton] at hqueued
    rcases hqueued with hqueued | rfl
    · exact List.mem_map_of_mem hqueued
    · omega

end Stream

/-! ## Every stream of every session -/

/-- A stream property that survives every action on the stream, `n` being where the log ends and
`ok` what the stream must look like when an event is published. -/
structure StreamRule (limits : StreamLimits) (ok : Nat → Stream → Prop) (P : Nat → Stream → Prop) :
    Prop where
  opened (n after : Nat) (snapshot : SessionSnapshot) : P n { after, output := [.snapshot snapshot] }
  put (n : Nat) (s : Stream) (event : Event) : P n s → event.eventSeq = n + 1 → ok n s →
    P (n + 1) (s.put limits event)
  read (record : SessionRecord) (s : Stream) : record.Numbered → P record.eventSeq s →
    P record.eventSeq (s.read record)
  timeout (n : Nat) (s : Stream) : P n s → P n s.timeout
  finish (n : Nat) (s : Stream) : P n s → P n s.finish

theorem gapless_rule (limits : StreamLimits) :
    StreamRule limits (fun n s => s.Refillable limits → s.NothingLost n) fun n s => s.Inv limits n where
  opened _ after snapshot := Stream.Inv.opened after snapshot
  put _ _ _ hi hevent hkeep := hi.put hevent hkeep
  read _ _ hn hi := hi.read hn
  timeout _ _ hi := hi.timeout
  finish _ _ hi := hi.finish

theorem behind_rule (limits : StreamLimits) :
    StreamRule limits (fun _ s => s.Untroubled limits) fun n s => s.Inv limits n ∧ s.Behind n where
  opened _ after snapshot := ⟨Stream.Inv.opened after snapshot, Stream.Behind.opened after snapshot⟩
  put _ _ _ h hevent hok := ⟨h.1.put hevent fun hr => absurd hr hok.1, h.2.put h.1 hevent hok⟩
  read _ _ hn h := ⟨h.1.read hn, h.2.read hn h.1⟩
  timeout _ _ h := ⟨h.1.timeout, h.2.timeout⟩
  finish _ _ h := ⟨h.1.finish, h.2.finish⟩

/-- Every session's record is numbered and every stream ever opened on it satisfies `P`. -/
def Channel.Holds (P : Nat → Stream → Prop) (channel : Channel) : Prop :=
  channel.record.Numbered ∧ ∀ s ∈ channel.streams, P channel.record.eventSeq s

/-- The channel holds one stream, as `P` describes it, and a log that ends at `n`. -/
def Channel.Serves (P : Stream → Prop) (n : Nat) (channel : Channel) : Prop :=
  channel.record.Numbered ∧ channel.record.eventSeq = n ∧ ∃ s, channel.streams = [s] ∧ P s

namespace M0Backend

def Holds (P : Nat → Stream → Prop) (backend : M0Backend) : Prop :=
  ∀ sessionId channel, backend.sessions sessionId = some channel → channel.Holds P

/-- Every event is published to streams that satisfy `ok`. -/
def PublishesTo (ok : Nat → Stream → Prop) (backend : M0Backend) : StreamAction → Prop
  | .appendEvent sessionId _ _ => ∀ channel, backend.sessions sessionId = some channel →
      ∀ s ∈ channel.streams, ok channel.record.eventSeq s
  | _ => True

variable {limits : StreamLimits} {ok : Nat → Stream → Prop} {P : Nat → Stream → Prop}
  {backend : M0Backend} {channel : Channel} {sessionId : String} {f : Channel → Channel}

theorem Holds.modifySession (h : backend.Holds P)
    (hf : ∀ channel, backend.sessions sessionId = some channel → channel.Holds P →
      (f channel).Holds P) : (backend.modifySession sessionId f).Holds P := by
  intro id channel hc
  simp only [M0Backend.modifySession, Function.update_apply] at hc
  by_cases hid : id = sessionId
  · rw [if_pos hid, Option.map_eq_some_iff] at hc
    obtain ⟨old, hold, rfl⟩ := hc
    exact hf old hold (h sessionId old hold)
  · rw [if_neg hid] at hc
    exact h id channel hc

theorem Holds.createSession (h : backend.Holds P) (durationSeconds : Int) :
    (backend.createSession sessionId durationSeconds).Holds P := by
  unfold M0Backend.createSession
  cases hs : backend.sessions sessionId with
  | some _ => exact h
  | none =>
    intro id channel hc
    simp only [Function.update_apply] at hc
    by_cases hid : id = sessionId
    · rw [if_pos hid, Option.some_inj] at hc
      subst hc
      exact ⟨numbered_new _ _, by simp⟩
    · rw [if_neg hid] at hc
      exact h id channel hc

theorem holds_appendEvent (rule : StreamRule limits ok P) (eventType : String)
    (payload : EventPayload) (h : channel.Holds P)
    (hok : ∀ s ∈ channel.streams, ok channel.record.eventSeq s) :
    (appendEvent limits eventType payload channel).Holds P := by
  unfold appendEvent
  cases ha : channel.record.appendEvent eventType payload with
  | error _ => exact h
  | ok result =>
    obtain ⟨record, event⟩ := result
    obtain ⟨hseq, hrec, -⟩ := SessionRecord.appendEvent_ok ha
    refine ⟨h.1.appendEvent ha, ?_⟩
    intro s hs
    obtain ⟨old, hold, rfl⟩ := List.mem_map.mp hs
    dsimp only
    rw [hrec]
    exact rule.put _ _ _ (h.2 old hold) (by simpa using hseq) (hok old hold)

theorem holds_openStream (rule : StreamRule limits ok P) (after : Nat) (now : Seconds)
    (h : channel.Holds P) : (openStream limits after now channel).Holds P := by
  unfold openStream
  by_cases hslot : channel.subscriberSlotsAvailable limits = true
  · rw [if_pos hslot]
    refine ⟨h.1, ?_⟩
    intro s hs
    rcases List.mem_append.mp hs with hs | hs
    · exact h.2 s hs
    · rw [List.mem_singleton.mp hs]
      exact rule.opened _ _ _
  · rw [if_neg hslot]
    exact h

variable {g : SessionRecord → Stream → Stream}

theorem holds_modifyStream (h : channel.Holds P) (stream : Nat)
    (hg : ∀ s, P channel.record.eventSeq s → P channel.record.eventSeq (g channel.record s)) :
    (modifyStream stream g channel).Holds P := by
  refine ⟨h.1, ?_⟩
  intro s hs
  obtain ⟨i, hi, rfl⟩ := List.mem_iff_getElem.mp hs
  simp only [modifyStream, List.getElem_modify]
  have hold := h.2 _ (List.getElem_mem (by simpa [modifyStream] using hi))
  by_cases hstream : stream = i
  · rw [if_pos hstream]
    exact hg _ hold
  · rw [if_neg hstream]
    exact hold

theorem Holds.step (rule : StreamRule limits ok P) (h : backend.Holds P) {action : StreamAction}
    (hok : backend.PublishesTo ok action) : (backend.step limits action).Holds P := by
  cases action with
  | createSession sessionId durationSeconds => exact h.createSession durationSeconds
  | appendEvent sessionId eventType payload =>
    exact h.modifySession fun channel hc hch => holds_appendEvent rule _ _ hch (hok channel hc)
  | openStream sessionId after now =>
    exact h.modifySession fun _ _ hch => holds_openStream rule after now hch
  | read sessionId stream =>
    exact h.modifySession fun channel _ hch =>
      holds_modifyStream hch stream fun s => rule.read channel.record s hch.1
  | timeout sessionId stream =>
    exact h.modifySession fun _ _ hch => holds_modifyStream hch stream (rule.timeout _)
  | close sessionId stream =>
    exact h.modifySession fun _ _ hch => holds_modifyStream hch stream (rule.finish _)

theorem holds_reachable (rule : StreamRule limits ok P)
    (h : ReachableBy (system limits) (PublishesTo ok) backend) : backend.Holds P := by
  refine h.invariant ?_ ?_
  · rintro _ rfl _ _ hc
    cases hc
  · rintro s action t hs hok rfl
    exact hs.step rule hok

/-! ## The default queue loses an event

A client that reads nothing while 513 events are published loses the last of them; one read makes
room for the next. -/

def tick : StreamAction := .appendEvent "S" "TICK" .empty

def subscribeRun : List StreamAction :=
  [.createSession "S" 2700, .openStream "S" 0 0, .read "S" 0]

/-- The channel that `subscribeRun` leaves. -/
def subscribed : Channel where
  record := { sessionId := "S" }
  streams := [{
    after := 0
    phase := .live
    output := [.snapshot (SessionRecord.snapshot { sessionId := "S" } 0)] }]

def publish : Channel → Channel := appendEvent {} "TICK" .empty

def readFirst : Channel → Channel := modifyStream 0 Stream.read

/-- The subscriber of `subscribeRun` after `n` events that it has not read. -/
structure Fed (n : Nat) (s : Stream) : Prop where
  inv : s.Inv {} n
  live : s.phase = .live
  after : s.after = 0
  nothing_read : s.delivered = []
  nothing_dropped : s.dropped = []
  fresh : s.stale = false
  queued : s.queue.map Event.eventSeq = List.range' 1 n

theorem modifyStream_single (h : channel.streams = [s]) : (modifyStream 0 g channel).streams = [g channel.record s] := by
  simp [modifyStream, h]

theorem serves_appendEvent {Q : Stream → Prop} (h : channel.Serves Q n)
    (hn : n < maxEventsPerSession) (eventType : String) (payload : EventPayload) {R : Stream → Prop}
    (hput : ∀ s event, Q s → event.eventSeq = n + 1 → R (s.put limits event)) :
    (M0Backend.appendEvent limits eventType payload channel).Serves R (n + 1) := by
  obtain ⟨hnum, hseq, s, hs, hq⟩ := h
  unfold M0Backend.appendEvent
  cases ha : channel.record.appendEvent eventType payload with
  | error _ =>
    rw [SessionRecord.appendEvent, if_neg (by rw [hnum.length, hseq]; omega)] at ha
    cases ha
  | ok result =>
    obtain ⟨record, event⟩ := result
    obtain ⟨hevent, hrec, -⟩ := SessionRecord.appendEvent_ok ha
    refine ⟨hnum.appendEvent ha, by rw [hrec, hseq], s.put limits event.asDict, by simp [hs], ?_⟩
    exact hput s _ hq (by simp [hevent, hseq])

theorem serves_read {Q R : Stream → Prop} (h : channel.Serves Q n)
    (hread : ∀ record s, record.Numbered → record.eventSeq = n → Q s → R (s.read record)) :
    (modifyStream 0 Stream.read channel).Serves R n := by
  obtain ⟨hnum, hseq, s, hs, hq⟩ := h
  exact ⟨hnum, hseq, _, modifyStream_single hs, hread _ s hnum hseq hq⟩

theorem Fed.put (h : Fed n s) (hn : n < 512)
    (hevent : event.eventSeq = n + 1) : Fed (n + 1) (s.put {} event) := by
  have hsub : s.subscribed = true := by simp [Stream.subscribed, h.live]
  have hlen : s.queue.length = n := by simpa using congrArg List.length h.queued
  have hfull : s.full {} = false := by simp [Stream.full, hlen, hn]
  have hput : s.put {} event = { s with queue := s.queue ++ [event] } := by
    simp [Stream.put, hsub, hfull]
  have hinv : (s.put {} event).Inv {} (n + 1) :=
    h.inv.put hevent fun hr => absurd hr.2.1 (by simp [h.fresh])
  rw [hput] at hinv ⊢
  refine ⟨hinv, h.live, h.after, h.nothing_read, h.nothing_dropped, h.fresh, ?_⟩
  rw [List.map_append, h.queued, List.range'_concat]
  simp [hevent, Nat.add_comm]

theorem fed_subscribed : subscribed.Serves (Fed 0) 0 := by
  refine ⟨numbered_new _ _, rfl, _, rfl, ?_⟩
  refine ⟨Stream.Tracks.inv (h := 0) ?_ rfl, rfl, rfl, rfl, rfl, rfl, rfl⟩
  exact ⟨consecutive_nil _, fun _ => rfl, fun _ => rfl, by simp, by simp [Stream.due], by simp, by simp⟩

theorem fed_publish (k : Nat) (hk : k ≤ 512) : (publish^[k] subscribed).Serves (Fed k) k := by
  induction k with
  | zero => exact fed_subscribed
  | succ k ih =>
    rw [Function.iterate_succ_apply']
    have hcap : k < maxEventsPerSession := by
      rw [maxEventsPerSession]
      omega
    exact serves_appendEvent (ih (by omega)) hcap _ _ fun s event hs hevent => hs.put (by omega) hevent

structure Lost (s : Stream) : Prop where
  inv : s.Inv {} 513
  refillable : s.Refillable {}
  lost : ¬ s.NothingLost 513
  one_dropped : s.dropped.map Event.eventSeq = [513]
  queue_length : s.queue.length = 511

theorem Fed.overflow {record : SessionRecord} (h : Fed 512 s)
    (hevent : event.eventSeq = 513) (hn : record.Numbered) (hseq : record.eventSeq = 513) :
    Lost ((s.put {} event).read record) := by
  have hsub : s.subscribed = true := by simp [Stream.subscribed, h.live]
  have hlen : s.queue.length = 512 := by simpa using congrArg List.length h.queued
  have hfull : s.full {} = true := by simp [Stream.full, hlen]
  have hput : s.put {} event = { s with stale := true, dropped := s.dropped ++ [event] } := by
    simp [Stream.put, hsub, hfull]
  have hlast : s.lastDelivered = 0 := by
    rw [(h.inv.2 hsub).last_ok (by simp [h.live]), h.after, h.nothing_read]
    rfl
  have hinv : (s.put {} event).Inv {} 513 :=
    h.inv.put hevent fun hr => absurd hr.2.1 (by simp [h.fresh])
  rw [← hseq] at hinv
  have hread := hinv.read hn
  rw [hseq] at hread
  obtain ⟨first, rest, hq⟩ : ∃ first rest, s.queue = first :: rest := by
    cases hq : s.queue with
    | nil => simp [hq] at hlen
    | cons first rest => exact ⟨first, rest, rfl⟩
  have hqueued := h.queued
  rw [hq, List.map_cons, List.range'_succ] at hqueued
  obtain ⟨hfirst, hrest⟩ := List.cons.inj hqueued
  have hnext : (s.put {} event).read record = { s with
      phase := .live, queue := rest, stale := true, lastDelivered := 1
      output := s.output ++ [.event first], dropped := s.dropped ++ [event] } := by
    simp [hput, Stream.read, Stream.readLive, h.live, hq, hlast, hfirst]
  have hrestlen : rest.length = 511 := by
    rw [hq, List.length_cons] at hlen
    omega
  rw [hnext] at hread ⊢
  refine ⟨hread, ⟨rfl, rfl, by simp [Stream.full, hrestlen]⟩, ?_, by simp [h.nothing_dropped, hevent],
    hrestlen⟩
  intro hlost
  have hmem := hlost 513 (show 1 < 513 by omega) le_rfl
  rw [hrest, List.mem_range'_1] at hmem
  omega

theorem Lost.gap (h : Lost s) (record : SessionRecord)
    (hevent : event.eventSeq = 514) :
    ¬ ((Stream.read record)^[512] (s.put {} event)).Gapless ∧
      ¬ ((Stream.read record)^[512] (s.put {} event)).NothingAfterDropped := by
  obtain ⟨hmem, hdrop, hgap⟩ := Stream.refill_breaks record h.inv h.refillable h.lost hevent
  rw [h.queue_length] at hmem hdrop hgap
  refine ⟨hgap, fun hnothing => ?_⟩
  obtain ⟨d, hd⟩ := List.length_eq_one_iff.mp (by simpa using congrArg List.length h.one_dropped)
  have hnum : d.eventSeq = 513 := by simpa [hd] using h.one_dropped
  have := hnothing d (by rw [hdrop, hd]; exact List.mem_singleton_self d) event hmem
  omega

theorem modifyStream_iterate (stream : Nat) (f : SessionRecord → Stream → Stream) (k : Nat)
    (channel : Channel) :
    (modifyStream stream f)^[k] channel = modifyStream stream (fun record => (f record)^[k]) channel := by
  induction k with
  | zero => simp [modifyStream]
  | succ k ih =>
    rw [Function.iterate_succ_apply', ih]
    simp only [modifyStream, List.modify_modify_eq, Function.iterate_succ']

theorem sessions_replicate {action : StreamAction}
    (h : ∀ backend, step limits backend action = backend.modifySession sessionId f) (k : Nat)
    (backend : M0Backend) :
    ((List.replicate k action).foldl (step limits) backend).sessions sessionId =
      (backend.sessions sessionId).map f^[k] := by
  induction k generalizing backend with
  | zero => simp
  | succ k ih =>
    rw [List.replicate_succ, List.foldl_cons, ih, h]
    simp [M0Backend.modifySession, Function.iterate_succ, Function.comp_def]

/-! ## Delivery over whole runs -/

/-- Every stream of every session satisfies `P`. -/
def Streams (P : Stream → Prop) (backend : M0Backend) : Prop :=
  ∀ sessionId channel, backend.sessions sessionId = some channel → ∀ s ∈ channel.streams, P s

/-- As long as no event is published to a stale queue that has room while an event it still owes is
missing, every stream is gapless, and past a dropped event it goes only if that event came with the
backlog. If moreover no stale queue with room is ever published to, nor a full one whose stream has
not read its backlog, nothing published after a dropped event is handed out at all. -/
theorem stream_events_gapless (limits : StreamLimits) :
    (∀ backend, ReachableBy (system limits)
        (PublishesTo fun n s => s.Refillable limits → s.NothingLost n) backend →
      backend.Streams fun s => s.Gapless ∧ ∀ d ∈ s.dropped, s.after < d.eventSeq →
        ∀ e ∈ s.delivered, d.eventSeq < e.eventSeq → d.eventSeq ∈ s.delivered.map Event.eventSeq) ∧
    (∀ backend, ReachableBy (system limits) (PublishesTo fun _ s => s.Untroubled limits) backend →
      backend.Streams fun s => s.Gapless ∧ s.NothingAfterDropped) := by
  refine ⟨fun backend h sessionId channel hc s hs => ?_, fun backend h sessionId channel hc s hs => ?_⟩
  · have hi := (holds_reachable (gapless_rule limits) h sessionId channel hc).2 s hs
    exact ⟨hi.1, fun d _ hd e he hlt => hi.1.mem_of_later hd he hlt⟩
  · have hi := (holds_reachable (behind_rule limits) h sessionId channel hc).2 s hs
    exact ⟨hi.1.1, hi.2.nothingAfterDropped⟩

def resyncRun : List StreamAction :=
  subscribeRun ++ [tick, tick, .read "S" 0, .timeout "S" 0, tick]

theorem resyncRun_untroubled : Guarded (step { subscriberQueueSize := 1 })
    (PublishesTo fun _ s => s.Untroubled { subscriberQueueSize := 1 }) {} resyncRun := by
  refine ⟨trivial, trivial, trivial, ?_, ?_, trivial, trivial, ?_, trivial⟩
  · intro channel hc s hs
    cases hc
    rw [List.mem_singleton.mp hs]
    exact ⟨fun hr => (by cases hr.2.1), fun ho => (by cases ho)⟩
  · intro channel hc s hs
    cases hc
    rw [List.mem_singleton.mp hs]
    exact ⟨fun hr => (by cases hr.2.1), fun ho => (by cases ho)⟩
  · intro channel hc s hs
    cases hc
    rw [List.mem_singleton.mp hs]
    exact ⟨fun hr => (by cases hr.1), fun ho => (by cases ho)⟩

theorem stream_events_gapless_resync :
    ∃ channel s, (resyncRun.foldl (step { subscriberQueueSize := 1 }) {}).sessions "S" = some channel ∧
      s ∈ channel.streams ∧ s.delivered.map Event.eventSeq = [1] ∧
      s.dropped.map Event.eventSeq = [2] ∧ s.Gapless ∧ s.NothingAfterDropped := by
  have hrun : ReachableBy (system { subscriberQueueSize := 1 }) _
      (resyncRun.foldl (step { subscriberQueueSize := 1 }) {}) :=
    reachableBy_foldl resyncRun (.init rfl) resyncRun_untroubled
  have hexact := (stream_events_gapless { subscriberQueueSize := 1 }).1 _
    (hrun.mono fun backend action hok => by
      cases action with
      | appendEvent sessionId _ _ => exact fun channel hc s hs hr => absurd hr (hok channel hc s hs).1
      | _ => trivial)
  have hstrict := (stream_events_gapless { subscriberQueueSize := 1 }).2 _ hrun
  refine ⟨_, _, rfl, List.mem_singleton_self _, rfl, rfl, ?_, ?_⟩
  · exact (hexact "S" _ rfl _ (List.mem_singleton_self _)).1
  · exact (hstrict "S" _ rfl _ (List.mem_singleton_self _)).2

def overflowRun : List StreamAction :=
  subscribeRun ++ List.replicate 513 tick ++ [.read "S" 0, tick] ++ List.replicate 512 (.read "S" 0)

theorem sessions_overflowRun : (overflowRun.foldl (step {}) {}).sessions "S" =
    some (readFirst^[512] (publish (readFirst (publish^[513] subscribed)))) := by
  have hpublish : ∀ backend : M0Backend, step {} backend tick = backend.modifySession "S" publish :=
    fun _ => rfl
  have hread : ∀ backend : M0Backend, step {} backend (.read "S" 0) =
      backend.modifySession "S" readFirst := fun _ => rfl
  have hstart : (subscribeRun.foldl (step {}) {}).sessions "S" = some subscribed := rfl
  rw [overflowRun, List.foldl_append, sessions_replicate hread, List.foldl_append, List.foldl_cons,
    List.foldl_cons, List.foldl_nil, hpublish, hread, List.foldl_append]
  simp only [modifySession, Function.update_self]
  rw [sessions_replicate hpublish, hstart]
  rfl

theorem stream_events_gap : Reachable (system {}) (overflowRun.foldl (step {}) {}) ∧
    ∃ channel s, (overflowRun.foldl (step {}) {}).sessions "S" = some channel ∧
      channel.streams = [s] ∧ ¬ s.Gapless ∧ ¬ s.NothingAfterDropped := by
  refine ⟨reachable_foldl overflowRun (.init rfl), ?_⟩
  -- 512 events fill the queue, the next one is refused, a read makes room, and one more is accepted
  have hover : (publish (publish^[512] subscribed)).Serves _ 513 :=
    serves_appendEvent (R := fun s' => ∃ s event, Fed 512 s ∧ event.eventSeq = 513 ∧ s' = s.put {} event)
      (fed_publish 512 le_rfl) (by decide) _ _ fun s event hs hevent => ⟨s, event, hs, hevent, rfl⟩
  have hlost : (readFirst (publish (publish^[512] subscribed))).Serves Lost 513 :=
    serves_read hover fun record s' hn hseq hs => by
      obtain ⟨s, event, hfed, hevent, rfl⟩ := hs
      exact hfed.overflow hevent hn hseq
  have hfull : (publish (readFirst (publish (publish^[512] subscribed)))).Serves _ 514 :=
    serves_appendEvent (R := fun s' => ∃ s event, Lost s ∧ event.eventSeq = 514 ∧ s' = s.put {} event)
      hlost (by decide) _ _ fun s event hs hevent => ⟨s, event, hs, hevent, rfl⟩
  obtain ⟨-, -, _, hs, s, event, hls, hevent, rfl⟩ := hfull
  rw [← Function.iterate_succ_apply' publish] at hs
  refine ⟨_, _, sessions_overflowRun, ?_,
    hls.gap (publish (readFirst (publish^[513] subscribed))).record hevent⟩
  have hreads := modifyStream_iterate 0 Stream.read 512
    (publish (readFirst (publish^[513] subscribed)))
  rw [← readFirst] at hreads
  rw [hreads]
  exact modifyStream_single hs

end M0Backend

end PduExamObserver.Services
