import PduExamObserver.Library.Consecutive
import PduExamObserver.Services.EventStream

/-! # Gapless delivery to one subscriber

A stream is gapless when the numbers it hands out count up from `after + 1`. The code loses that
when a queue that has overflowed is drained a little and then accepts a newer event: the stale set
is consulted only on a heartbeat timeout. The invariant below carries the gapless prefix, what is
left of the backlog, and the part of the queue that is still due; it survives every step except
such a refill. -/

namespace PduExamObserver.Services
open Transition
set_option autoImplicit false

namespace Stream

/-- The delivered events are numbered `after + 1, after + 2, …`. -/
def Gapless (s : Stream) : Prop := Consecutive s.after (s.delivered.map Event.eventSeq)

def NothingAfterDropped (s : Stream) : Prop :=
  ∀ d ∈ s.dropped, ∀ e ∈ s.delivered, e.eventSeq < d.eventSeq

/-- The queue has overflowed and has room again, so the next `put_nowait` succeeds. -/
def Refillable (limits : StreamLimits) (s : Stream) : Prop :=
  s.phase = .live ∧ s.stale = true ∧ s.full limits = false

/-- Every event published up to `n` that the client still waits for is in the queue. -/
def NothingLost (s : Stream) (n : Nat) : Prop :=
  ∀ q, s.lastDelivered < q → q ≤ n → q ∈ s.queue.map Event.eventSeq

/-- The number up to which the stream will have handed out events once its backlog is replayed,
when the log ends at `n`. -/
def horizon (s : Stream) (n : Nat) : Nat :=
  match s.phase with
  | .opened => max s.after n
  | .replaying rest => s.lastDelivered + rest.length
  | .live => s.lastDelivered
  | .ended => s.lastDelivered

def backlog (s : Stream) : List Event :=
  match s.phase with
  | .replaying rest => rest
  | _ => []

/-- The queued numbers beyond `h`. -/
def due (s : Stream) (h : Nat) : List Nat :=
  (s.queue.map Event.eventSeq).filter fun q => decide (h < q)

/-- What holds of a subscriber with horizon `h` while its session's log ends at `n`. -/
structure Tracks (limits : StreamLimits) (n h : Nat) (s : Stream) : Prop where
  ahead : Consecutive s.after ((s.delivered ++ s.backlog).map Event.eventSeq)
  opened_empty : s.phase = .opened → s.delivered = []
  last_ok : s.phase ≠ .opened → s.lastDelivered = s.after + s.delivered.length
  queue_le : ∀ q ∈ s.queue.map Event.eventSeq, q ≤ n
  due_ok : Consecutive h (s.due h)
  /-- without an overflow the queue reaches to the end of the log -/
  intact : s.stale = false → n ≤ h + (s.due h).length
  /-- only the live loop drains the queue -/
  stale_full : s.phase ≠ .live → s.stale = true → s.full limits = true

def Inv (limits : StreamLimits) (n : Nat) (s : Stream) : Prop :=
  s.Gapless ∧ (s.subscribed = true → s.Tracks limits n (s.horizon n))

variable {limits : StreamLimits} {n h : Nat} {s : Stream} {event : Event} {rest : List Event}

theorem Gapless.mem_of_later (hg : s.Gapless) {d e : Event} (hd : s.after < d.eventSeq)
    (he : e ∈ s.delivered) (hlt : d.eventSeq < e.eventSeq) :
    d.eventSeq ∈ s.delivered.map Event.eventSeq := by
  have hmem := hg.mem_iff.mp (List.mem_map_of_mem (f := Event.eventSeq) he)
  exact hg.mem_iff.mpr ⟨hd, by omega⟩

theorem Tracks.gapless (ht : s.Tracks limits n h) : s.Gapless := by
  have hp := ht.ahead
  rw [List.map_append, Consecutive.append_iff] at hp
  exact hp.1

theorem Tracks.inv (ht : s.Tracks limits n h) (hh : s.horizon n = h) : s.Inv limits n :=
  ⟨ht.gapless, fun _ => hh.symm ▸ ht⟩

theorem mem_due {q : Nat} : q ∈ s.due h ↔ q ∈ s.queue.map Event.eventSeq ∧ h < q := by
  simp [due]

theorem Tracks.due_end (ht : s.Tracks limits n h) : h + (s.due h).length ≤ max h n := by
  rcases Nat.eq_zero_or_pos (s.due h).length with h0 | hpos
  · omega
  · have hlast : h + (s.due h).length ∈ s.due h := ht.due_ok.mem_iff.mpr ⟨by omega, by omega⟩
    have := ht.queue_le _ (mem_due.mp hlast).1
    omega

/-! ## Publishing -/

theorem due_put (s : Stream) (event : Event) (h : Nat) :
    due { s with queue := s.queue ++ [event] } h =
      s.due h ++ if h < event.eventSeq then [event.eventSeq] else [] := by
  by_cases hlt : h < event.eventSeq <;> simp [due, hlt]

theorem Tracks.put_room (ht : s.Tracks limits n h) (hevent : event.eventSeq = n + 1)
    (hfull : s.full limits = false) (hend : n ≤ h + (s.due h).length) :
    Tracks limits (n + 1) h { s with queue := s.queue ++ [event] } := by
  have hdue := due_put s event h
  have hle := ht.due_end
  refine ⟨ht.ahead, ht.opened_empty, ht.last_ok, ?_, ?_, ?_, ?_⟩
  · intro q hq
    rw [List.map_append, List.mem_append] at hq
    rcases hq with hq | hq
    · exact Nat.le_succ_of_le (ht.queue_le q hq)
    · simp only [List.map_cons, List.map_nil, List.mem_singleton] at hq
      omega
  · rw [hdue]
    by_cases hlt : h < event.eventSeq
    · rw [if_pos hlt]
      exact ht.due_ok.concat (by rw [hevent] at hlt ⊢; omega)
    · rw [if_neg hlt, List.append_nil]
      exact ht.due_ok
  · intro _
    rw [hdue, List.length_append]
    by_cases hlt : h < event.eventSeq
    · rw [if_pos hlt]
      change n + 1 ≤ h + ((s.due h).length + 1)
      omega
    · rw [if_neg hlt]
      omega
  · intro hphase hstale
    rw [ht.stale_full hphase hstale] at hfull
    cases hfull

theorem Tracks.put_full (ht : s.Tracks limits n h) (hfull : s.full limits = true) :
    Tracks limits (n + 1) h { s with stale := true, dropped := s.dropped ++ [event] } where
  ahead := ht.ahead
  opened_empty := ht.opened_empty
  last_ok := ht.last_ok
  queue_le q hq := Nat.le_succ_of_le (ht.queue_le q hq)
  due_ok := ht.due_ok
  intact hstale := by cases hstale
  stale_full _ _ := hfull

theorem Tracks.opened_horizon (ht : s.Tracks limits n h) {h' : Nat} (hh : n ≤ h') :
    Tracks limits n h' s := by
  have hnil : s.due h' = [] := by
    rw [due, List.filter_eq_nil_iff]
    intro q hq
    have := ht.queue_le q hq
    simp
    omega
  exact ⟨ht.ahead, ht.opened_empty, ht.last_ok, ht.queue_le, by rw [hnil]; exact consecutive_nil _,
    fun _ => by omega, ht.stale_full⟩

theorem Tracks.advance (ht : s.Tracks limits (n + 1) (s.horizon n)) :
    s.Tracks limits (n + 1) (s.horizon (n + 1)) := by
  cases hp : s.phase with
  | opened =>
    have hh : s.horizon (n + 1) = max s.after (n + 1) := by simp [horizon, hp]
    rw [hh]
    exact ht.opened_horizon (Nat.le_max_right _ _)
  | replaying rest => simpa [horizon, hp] using ht
  | live => simpa [horizon, hp] using ht
  | ended => simpa [horizon, hp] using ht

theorem Tracks.nothing_missing (ht : s.Tracks limits n (s.horizon n))
    (hfull : s.full limits = false) (hkeep : s.Refillable limits → s.NothingLost n) :
    n ≤ s.horizon n + (s.due (s.horizon n)).length := by
  cases hstale : s.stale with
  | false => exact ht.intact hstale
  | true =>
    have hlive : s.phase = .live := by
      by_contra hne
      rw [ht.stale_full hne hstale] at hfull
      cases hfull
    have hh : s.horizon n = s.lastDelivered := by simp [horizon, hlive]
    rw [hh] at ht ⊢
    by_contra hlt
    have hmem := hkeep ⟨hlive, hstale, hfull⟩ n (by omega) le_rfl
    have hdue := ht.due_ok.mem_iff.mp (mem_due.mpr ⟨hmem, by omega⟩)
    omega

theorem Inv.put (hi : s.Inv limits n) (hevent : event.eventSeq = n + 1)
    (hkeep : s.Refillable limits → s.NothingLost n) : (s.put limits event).Inv limits (n + 1) := by
  unfold Stream.put
  by_cases hsub : s.subscribed = true
  · have ht := hi.2 hsub
    rw [if_pos hsub]
    by_cases hfull : s.full limits = true
    · rw [if_pos hfull]
      exact (ht.put_full hfull).advance.inv rfl
    · rw [Bool.not_eq_true] at hfull
      rw [if_neg (by simp [hfull])]
      exact (ht.put_room hevent hfull (ht.nothing_missing hfull hkeep)).advance.inv rfl
  · rw [if_neg hsub]
    exact ⟨hi.1, fun h => absurd h hsub⟩

/-! ## Reading -/

theorem Tracks.readLive (ht : s.Tracks limits n s.lastDelivered)
    (hlast : s.lastDelivered = s.after + s.delivered.length) :
    s.readLive.Inv limits n := by
  have hgap : Consecutive s.after (s.delivered.map Event.eventSeq) := ht.gapless
  unfold Stream.readLive
  cases hq : s.queue with
  | nil =>
    refine Tracks.inv (h := s.lastDelivered) ⟨?_, by simp, fun _ => hlast, by simp, ?_, ?_, by simp⟩ rfl
    · simpa [backlog] using hgap
    · simp [due]
    · intro hstale
      simpa [due, hq] using ht.intact hstale
  | cons event rest =>
    have hle := ht.queue_le
    have hdue := ht.due_ok
    have hint := ht.intact
    rw [hq, List.map_cons] at hle
    rw [due, hq, List.map_cons] at hdue hint
    by_cases hlt : s.lastDelivered < event.eventSeq
    · rw [List.filter_cons_of_pos (by simpa using hlt)] at hdue hint
      obtain ⟨hnext, hrest⟩ := consecutive_cons.mp hdue
      have hsame := hrest.filter_succ
      rw [← hnext] at hrest hsame
      simp only [if_pos hlt]
      refine Tracks.inv (h := event.eventSeq) ⟨?_, by simp, fun _ => ?_, ?_, ?_, ?_, by simp⟩ rfl
      · have hnew : event.eventSeq = s.after + (s.delivered.map Event.eventSeq).length + 1 := by
          rw [List.length_map, ← hlast, hnext]
        simpa [backlog, delivered] using hgap.concat hnew
      · simp only [delivered, deliveredEvents_event, List.length_append,
          List.length_singleton] at hlast ⊢
        omega
      · exact fun q hmem => hle q (List.mem_cons_of_mem _ hmem)
      · rw [due, hsame]
        exact hrest
      · intro hstale
        have hend := hint hstale
        rw [due, hsame]
        rw [List.length_cons] at hend
        omega
    · rw [List.filter_cons_of_neg (by simpa using hlt)] at hdue hint
      simp only [if_neg hlt]
      refine Tracks.inv (h := s.lastDelivered) ⟨?_, by simp, fun _ => hlast, ?_, hdue, hint, by simp⟩ rfl
      · simpa [backlog] using hgap
      · exact fun q hmem => hle q (List.mem_cons_of_mem _ hmem)

theorem Tracks.yieldBacklog (ht : s.Tracks limits n h)
    (hahead : Consecutive s.after ((s.delivered ++ event :: rest).map Event.eventSeq))
    (hh : h = s.after + s.delivered.length + rest.length + 1) (hphase : s.phase ≠ .live) :
    (s.yieldBacklog event rest).Inv limits n := by
  have hnum : event.eventSeq = s.after + s.delivered.length + 1 := by
    rw [List.map_append, Consecutive.append_iff, List.length_map, List.map_cons,
      consecutive_cons] at hahead
    exact hahead.2.1
  refine Tracks.inv (h := h) ⟨?_, by simp [Stream.yieldBacklog], fun _ => ?_, ht.queue_le, ht.due_ok,
    ht.intact, fun _ hstale => ht.stale_full hphase hstale⟩ ?_
  · simpa [Stream.yieldBacklog, backlog, delivered] using hahead
  · simp only [Stream.yieldBacklog, delivered, deliveredEvents_event, List.length_append,
      List.length_singleton] at hnum ⊢
    omega
  · simp only [Stream.yieldBacklog, horizon]
    omega

theorem Inv.read_reading (record : SessionRecord) (hphase : s.phase ≠ .opened) (hi : s.Inv limits n) :
    (s.read record).Inv limits n := by
  unfold Stream.read
  cases hp : s.phase with
  | opened => exact absurd hp hphase
  | replaying rest =>
    have ht := hi.2 (by simp [subscribed, hp])
    have hlast := ht.last_ok (by simp [hp])
    have hahead := ht.ahead
    simp only [horizon, hp] at ht
    cases rest with
    | nil => exact ht.readLive hlast
    | cons event rest =>
      rw [backlog, hp] at hahead
      refine ht.yieldBacklog hahead ?_ (by simp [hp])
      rw [hlast, List.length_cons]
      omega
  | live =>
    have ht := hi.2 (by simp [subscribed, hp])
    simp only [horizon, hp] at ht
    exact ht.readLive (ht.last_ok (by simp [hp]))
  | ended => exact hi

theorem Inv.read {record : SessionRecord} (hn : record.Numbered)
    (hi : s.Inv limits record.eventSeq) : (s.read record).Inv limits record.eventSeq := by
  by_cases hphase : s.phase = .opened
  swap
  · exact hi.read_reading record hphase
  unfold Stream.read
  cases hp : s.phase with
  | opened =>
    have ht := hi.2 (by simp [subscribed, hp])
    have hnil : deliveredEvents s.output = [] := ht.opened_empty hp
    have hafter := hn.eventsAfter s.after
    simp only [horizon, hp] at ht
    -- from here on the stream counts from `after`
    have hstart : Tracks limits record.eventSeq (max s.after record.eventSeq)
        { s with lastDelivered := s.after } :=
      ⟨ht.ahead, ht.opened_empty, fun _ => by simp [delivered, hnil], ht.queue_le, ht.due_ok,
        ht.intact, ht.stale_full⟩
    cases hb : record.eventsAfter s.after with
    | nil =>
      rw [hb, List.map_nil, eq_comm, List.range'_eq_nil_iff] at hafter
      have hh : max s.after record.eventSeq = s.after := by omega
      rw [hh] at hstart
      exact Tracks.readLive (s := { s with lastDelivered := s.after }) hstart
        (by simp [delivered, hnil])
    | cons event rest =>
      rw [hb] at hafter
      have hlen : rest.length + 1 = record.eventSeq - s.after := by
        simpa using congrArg List.length hafter
      refine hstart.yieldBacklog ?_ ?_ (by simp [hp])
      · rw [delivered, hnil, List.nil_append, hafter]
        exact consecutive_range _ _
      · simp only [delivered, hnil, List.length_nil]
        omega
  | replaying rest => exact nomatch hp.symm.trans hphase
  | live => exact nomatch hp.symm.trans hphase
  | ended => exact nomatch hp.symm.trans hphase

/-! ## Opening, waiting and closing -/

theorem Inv.opened (after : Nat) (snapshot : SessionSnapshot) :
    Inv limits n { after, output := [.snapshot snapshot] } :=
  Tracks.inv ⟨consecutive_nil _, fun _ => rfl, fun h => absurd rfl h, fun q hq => (by cases hq),
    consecutive_nil _, fun _ => Nat.le_max_right _ _, fun _ hstale => (by cases hstale)⟩ rfl

theorem Inv.finish (hi : s.Inv limits n) : s.finish.Inv limits n :=
  ⟨hi.1, fun hsub => (by cases hsub)⟩

theorem Inv.timeout (hi : s.Inv limits n) : s.timeout.Inv limits n := by
  unfold Stream.timeout
  cases hp : s.phase with
  | opened => exact hi
  | replaying rest => exact hi
  | ended => exact hi
  | live =>
    by_cases hstale : s.stale = true
    · simp only [if_pos hstale]
      exact hi.finish
    · simp only [if_neg hstale]
      have ht := hi.2 (by simp [subscribed, hp])
      simp only [horizon, hp] at ht
      refine Tracks.inv (h := s.lastDelivered) ⟨?_, ?_, ?_, ht.queue_le, ht.due_ok, ht.intact, ?_⟩ ?_
      · simpa [backlog, hp, delivered] using ht.ahead
      · simp
      · simpa [delivered, hp] using ht.last_ok
      · simp
      · simp [horizon]

/-! ## Dropped events

When no publish reaches a stream that is stale and has room, or overflows one that has not read its
backlog, a stream that dropped an event holds and has handed out older events only. -/

structure Behind (n : Nat) (s : Stream) : Prop where
  ahead_le : ∀ e ∈ s.delivered ++ s.backlog, e.eventSeq ≤ n
  dropped_stale : s.subscribed = true → s.dropped ≠ [] → s.stale = true
  opened_dropped : s.phase = .opened → s.dropped = []
  ahead_lt : ∀ d ∈ s.dropped, ∀ e ∈ s.delivered ++ s.backlog, e.eventSeq < d.eventSeq
  queue_lt : ∀ d ∈ s.dropped, ∀ e ∈ s.queue, e.eventSeq < d.eventSeq

theorem Behind.nothingAfterDropped (hb : s.Behind n) : s.NothingAfterDropped :=
  fun d hd e he => hb.ahead_lt d hd e (List.mem_append_left _ he)

def Untroubled (limits : StreamLimits) (s : Stream) : Prop :=
  ¬ s.Refillable limits ∧ (s.phase = .opened → s.full limits = false)

theorem Behind.opened (after : Nat) (snapshot : SessionSnapshot) :
    Behind n { after, output := [.snapshot snapshot] } where
  ahead_le e he := by cases he
  dropped_stale _ hd := absurd rfl hd
  opened_dropped _ := rfl
  ahead_lt d hd := by cases hd
  queue_lt d hd := by cases hd

theorem Behind.dropped_nil (hb : s.Behind n) (hi : s.Inv limits n) (hok : s.Untroubled limits)
    (hsub : s.subscribed = true) (hfull : s.full limits = false) : s.dropped = [] := by
  by_contra hd
  have hstale := hb.dropped_stale hsub hd
  by_cases hlive : s.phase = .live
  · exact hok.1 ⟨hlive, hstale, hfull⟩
  · rw [(hi.2 hsub).stale_full hlive hstale] at hfull
    cases hfull

theorem Behind.put (hb : s.Behind n) (hi : s.Inv limits n) (hevent : event.eventSeq = n + 1)
    (hok : s.Untroubled limits) : (s.put limits event).Behind (n + 1) := by
  have hle : ∀ e ∈ s.delivered ++ s.backlog, e.eventSeq ≤ n + 1 :=
    fun e he => Nat.le_succ_of_le (hb.ahead_le e he)
  unfold Stream.put
  by_cases hsub : s.subscribed = true
  · rw [if_pos hsub]
    by_cases hfull : s.full limits = true
    · rw [if_pos hfull]
      refine ⟨hle, fun _ _ => rfl, ?_, ?_, ?_⟩
      · intro hopen
        rw [hok.2 hopen] at hfull
        cases hfull
      · intro d hd e he
        rcases List.mem_append.mp hd with hd | hd
        · exact hb.ahead_lt d hd e he
        · rw [List.mem_singleton.mp hd, hevent]
          exact Nat.lt_succ_of_le (hb.ahead_le e he)
      · intro d hd e he
        rcases List.mem_append.mp hd with hd | hd
        · exact hb.queue_lt d hd e he
        · rw [List.mem_singleton.mp hd, hevent]
          exact Nat.lt_succ_of_le ((hi.2 hsub).queue_le _ (List.mem_map_of_mem he))
    · rw [Bool.not_eq_true] at hfull
      rw [if_neg (by simp [hfull])]
      have hnil := hb.dropped_nil hi hok hsub hfull
      exact ⟨hle, fun _ hd => absurd hnil hd, fun _ => hnil, by simp [hnil], by simp [hnil]⟩
  · rw [if_neg hsub]
    exact ⟨hle, fun h => absurd h hsub, hb.opened_dropped, hb.ahead_lt, hb.queue_lt⟩

theorem Behind.readLive (last : Nat) (hb : s.Behind n) (hi : s.Inv limits n)
    (hsub : s.subscribed = true) : (readLive { s with lastDelivered := last }).Behind n := by
  have hle : ∀ e ∈ s.delivered, e.eventSeq ≤ n := fun e he => hb.ahead_le e (List.mem_append_left _ he)
  have hlt : ∀ d ∈ s.dropped, ∀ e ∈ s.delivered, e.eventSeq < d.eventSeq :=
    fun d hd e he => hb.ahead_lt d hd e (List.mem_append_left _ he)
  have hstale := hb.dropped_stale hsub
  unfold Stream.readLive
  cases hq : s.queue with
  | nil =>
    exact ⟨by simpa [backlog] using hle, fun _ => hstale, by simp, by simpa [backlog] using hlt, by simp⟩
  | cons event rest =>
    have hqueue := hb.queue_lt
    have hmax := (hi.2 hsub).queue_le
    rw [hq] at hqueue hmax
    have hrest : ∀ d ∈ s.dropped, ∀ e ∈ rest, e.eventSeq < d.eventSeq :=
      fun d hd e he => hqueue d hd e (List.mem_cons_of_mem _ he)
    by_cases hnew : last < event.eventSeq
    · simp only [if_pos hnew]
      refine ⟨?_, fun _ => hstale, by simp, ?_, hrest⟩
      · simp only [delivered, backlog, deliveredEvents_event, List.append_nil, List.mem_append,
          List.mem_singleton]
        rintro e (he | rfl)
        · exact hle e he
        · exact hmax _ (List.mem_map_of_mem (List.mem_cons_self ..))
      · simp only [delivered, backlog, deliveredEvents_event, List.append_nil, List.mem_append,
          List.mem_singleton]
        rintro d hd e (he | rfl)
        · exact hlt d hd e he
        · exact hqueue d hd _ (List.mem_cons_self ..)
    · simp only [if_neg hnew]
      exact ⟨by simpa [backlog] using hle, fun _ => hstale, by simp, by simpa [backlog] using hlt, hrest⟩

theorem Behind.read {record : SessionRecord} (hn : record.Numbered)
    (hb : s.Behind record.eventSeq) (hi : s.Inv limits record.eventSeq) :
    (s.read record).Behind record.eventSeq := by
  unfold Stream.read
  cases hp : s.phase with
  | opened =>
    have hsub : s.subscribed = true := by simp [subscribed, hp]
    cases hback : record.eventsAfter s.after with
    | nil => exact hb.readLive s.after hi hsub
    | cons event rest =>
      have hdropped := hb.opened_dropped hp
      have hnil : deliveredEvents s.output = [] := (hi.2 hsub).opened_empty hp
      refine ⟨?_, fun _ => hb.dropped_stale hsub, by simp [Stream.yieldBacklog], ?_, ?_⟩
      · intro e he
        have hmem : e.eventSeq ∈ (record.eventsAfter s.after).map Event.eventSeq := by
          rw [hback]
          exact List.mem_map_of_mem (by simpa [Stream.yieldBacklog, delivered, backlog, hnil] using he)
        rw [hn.eventsAfter, List.mem_range'_1] at hmem
        omega
      · simp [Stream.yieldBacklog, hdropped]
      · simp [Stream.yieldBacklog, hdropped]
  | replaying rest =>
    have hsub : s.subscribed = true := by simp [subscribed, hp]
    cases rest with
    | nil => exact hb.readLive s.lastDelivered hi hsub
    | cons event rest =>
      have hsame : (s.yieldBacklog event rest).delivered ++ (s.yieldBacklog event rest).backlog =
          s.delivered ++ s.backlog := by simp [Stream.yieldBacklog, delivered, backlog, hp]
      refine ⟨by rw [hsame]; exact hb.ahead_le, fun _ => hb.dropped_stale hsub, ?_,
        by rw [hsame]; exact hb.ahead_lt, hb.queue_lt⟩
      simp [Stream.yieldBacklog]
  | live =>
    exact hb.readLive s.lastDelivered hi (by simp [subscribed, hp])
  | ended => exact hb

theorem Behind.finish (hb : s.Behind n) : s.finish.Behind n where
  ahead_le e he := hb.ahead_le e (List.mem_append_left _ (by simpa [Stream.finish, backlog] using he))
  dropped_stale hsub := by cases hsub
  opened_dropped hp := by cases hp
  ahead_lt d hd e he :=
    hb.ahead_lt d hd e (List.mem_append_left _ (by simpa [Stream.finish, backlog] using he))
  queue_lt := hb.queue_lt

theorem Behind.timeout (hb : s.Behind n) : s.timeout.Behind n := by
  unfold Stream.timeout
  cases hp : s.phase with
  | opened => exact hb
  | replaying rest => exact hb
  | ended => exact hb
  | live =>
    by_cases hstale : s.stale = true
    · simp only [if_pos hstale]
      exact hb.finish
    · simp only [if_neg hstale]
      refine ⟨?_, ?_, by simp, ?_, hb.queue_lt⟩
      · simpa [delivered, backlog, hp] using hb.ahead_le
      · simpa [subscribed, hp] using hb.dropped_stale
      · simpa [delivered, backlog, hp] using hb.ahead_lt

end Stream

end PduExamObserver.Services
