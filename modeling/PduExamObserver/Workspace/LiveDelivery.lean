import PduExamObserver.Workspace.LiveStore

/-! # What reaches a live stream

While publications of a session come in the order of the commits, what a reading stream has, in its hands or in
its queue, is a prefix of the log after its start, and the rest is still to be published. -/

namespace PduExamObserver.Workspace
open M1 M1R1 Services Services.Stream Transition
set_option autoImplicit false

/-! ## One stream -/

def top (s : Stream) : Nat := reach s + (s.due (reach s)).length

/-- What holds of a stream whose queue has not overflowed; `pend` are the numbers still to be published. -/
structure Follows (limits : StreamLimits) (record : SessionRecord) (pend : List Nat) (s : Stream) : Prop where
  known : ∀ e ∈ s.delivered ++ s.backlog ++ s.queue, e ∈ record.events.map EventRecord.asDict
  fresh : s.stale = false
  opening : s.phase = .opened → s.Inv limits record.eventSeq
  held : reading s = true → s.Inv limits (top s)
  bounded : reading s = true → top s ≤ max record.eventSeq (reach s)
  missing : reading s = true → ∀ m, top s < m → m ≤ record.eventSeq → m ∈ pend
  beyond : reading s = true → ∀ m ∈ pend, reach s < m → top s < m

variable {limits : StreamLimits} {record record' : SessionRecord} {pend pend' : List Nat} {s : Stream} {event : Services.Event}

theorem subscribed_of_reading (h : reading s = true) : s.subscribed = true := by
  unfold reading at h
  unfold subscribed
  cases hphase : s.phase with
  | opened => simp [hphase] at h
  | replaying rest => rfl
  | live => rfl
  | ended => simp [hphase] at h

theorem opened_ne_of_reading (h : reading s = true) : s.phase ≠ .opened := by
  intro hphase
  simp [reading, hphase] at h

theorem horizon_of_reading (h : reading s = true) (n : Nat) : s.horizon n = reach s := by
  unfold reading at h
  unfold horizon reach backlog
  cases hphase : s.phase with
  | opened => simp [hphase] at h
  | replaying rest => rfl
  | live => rfl
  | ended => simp [hphase] at h

theorem inv_top {n : Nat} (hreading : reading s = true) (hi : s.Inv limits n) : s.Inv limits (top s) := by
  have ht := hi.2 (subscribed_of_reading hreading)
  rw [horizon_of_reading hreading] at ht
  refine Tracks.inv (h := reach s) ⟨ht.ahead, ht.opened_empty, ht.last_ok, fun q hq => ?_, ht.due_ok,
    fun _ => le_rfl, ht.stale_full⟩ (horizon_of_reading hreading _)
  by_cases hle : q ≤ reach s
  · exact Nat.le_add_right_of_le hle
  · exact (ht.due_ok.mem_iff.mp (mem_due.mpr ⟨hq, by omega⟩)).2

theorem reach_le_top : reach s ≤ top s := Nat.le_add_right _ _

/-! ## Publishing to a stream -/

theorem put_kept (hsubscribed : s.subscribed = true) (hkept : (s.put limits event).dropped = []) :
    s.full limits = false ∧ s.put limits event = { s with queue := s.queue ++ [event] } := by
  unfold put at hkept ⊢
  rw [if_pos hsubscribed] at hkept ⊢
  cases hfull : s.full limits with
  | true =>
    rw [hfull] at hkept
    simp at hkept
  | false => exact ⟨rfl, rfl⟩

theorem put_dropped (hkept : (s.put limits event).dropped = []) : s.dropped = [] := by
  unfold put at hkept
  split at hkept
  · split at hkept
    · simp at hkept
    · exact hkept
  · exact hkept

theorem put_ended (hsubscribed : s.subscribed = false) : s.put limits event = s := by
  unfold put
  rw [hsubscribed]
  rfl

theorem inv_put_opened {n : Nat} (hphase : s.phase = .opened) (hi : s.Inv limits n) (hfresh : s.stale = false)
    (hle : event.eventSeq ≤ n) : Inv limits n { s with queue := s.queue ++ [event] } := by
  have hsubscribed : s.subscribed = true := by simp [subscribed, hphase]
  have ht := hi.2 hsubscribed
  have hh : s.horizon n = max s.after n := by simp [horizon, hphase]
  rw [hh] at ht
  have hdue := due_put s event (max s.after n)
  rw [if_neg (by omega), List.append_nil] at hdue
  refine Tracks.inv (h := max s.after n) ⟨ht.ahead, ht.opened_empty, ht.last_ok, fun q hq => ?_, ?_, ?_, ?_⟩ hh
  · rw [List.map_append, List.mem_append] at hq
    rcases hq with hq | hq
    · exact ht.queue_le q hq
    · obtain rfl : q = event.eventSeq := by simpa using hq
      exact hle
  · rw [hdue]
    exact ht.due_ok
  · intro hstale
    rw [hdue]
    exact ht.intact hstale
  · intro _ hstale
    cases hfresh.symm.trans hstale

theorem Follows.put (h : Follows limits record pend s) (hkept : (s.put limits event).dropped = [])
    (hmem : event ∈ record.events.map EventRecord.asDict) (hle : event.eventSeq ≤ record.eventSeq)
    (hpend : event.eventSeq ∈ pend) (hpend' : ∀ m, m ∈ pend' ↔ m ∈ pend ∧ m ≠ event.eventSeq)
    (horder : reading s = true → ∀ m ∈ pend, m < event.eventSeq → m ≤ reach s) :
    Follows limits record pend' (s.put limits event) := by
  cases hsubscribed : s.subscribed with
  | false =>
    have hreading : reading s = true → False := fun hreading =>
      absurd (hsubscribed.symm.trans (subscribed_of_reading hreading)) nofun
    rw [put_ended hsubscribed]
    exact ⟨h.known, h.fresh, h.opening, h.held, h.bounded, fun hr => absurd hr hreading,
      fun hr => absurd hr hreading⟩
  | true =>
    obtain ⟨hfull, hput⟩ := put_kept hsubscribed hkept
    rw [hput]
    have hknown : ∀ e ∈ s.delivered ++ s.backlog ++ (s.queue ++ [event]), e ∈ record.events.map EventRecord.asDict := by
      intro e he
      rw [← List.append_assoc, List.mem_append, List.mem_singleton] at he
      rcases he with hold | rfl
      · exact h.known e hold
      · exact hmem
    by_cases hreading : reading s = true
    swap
    · exact ⟨hknown, h.fresh, fun hphase => inv_put_opened hphase (h.opening hphase) h.fresh hle,
        fun hr => absurd hr hreading, fun hr => absurd hr hreading, fun hr => absurd hr hreading,
        fun hr => absurd hr hreading⟩
    have hopened := opened_ne_of_reading hreading
    have hreach : reach { s with queue := s.queue ++ [event] } = reach s := rfl
    have ht := (h.held hreading).2 hsubscribed
    rw [horizon_of_reading hreading] at ht
    have hdue := due_put s event (reach s)
    by_cases hneeded : reach s < event.eventSeq
    · -- it is the next one: otherwise the next one would be pending, and overtaken
      have hbeyond := h.beyond hreading _ hpend hneeded
      have hnext : event.eventSeq = top s + 1 := by
        by_contra hlater
        have hmissing := h.missing hreading (top s + 1) (by omega) (by omega)
        have hovertaken := horder hreading (top s + 1) hmissing (by omega)
        have := @reach_le_top s
        omega
      have htop : top { s with queue := s.queue ++ [event] } = top s + 1 := by
        unfold top
        rw [hreach, hdue, if_pos hneeded, List.length_append]
        rfl
      have hroom := ht.put_room hnext hfull le_rfl
      refine ⟨hknown, h.fresh, fun hphase => absurd hphase hopened, fun _ => ?_, fun _ => ?_, fun _ m hlt hm => ?_,
        fun _ m hm hlt => ?_⟩
      · rw [htop]
        exact hroom.inv (horizon_of_reading (s := { s with queue := s.queue ++ [event] }) hreading _)
      · rw [htop, ← hnext]
        exact le_max_of_le_left hle
      · rw [htop] at hlt
        exact (hpend' m).mpr ⟨h.missing hreading m (by omega) hm, by omega⟩
      · obtain ⟨hold, hother⟩ := (hpend' m).mp hm
        have := h.beyond hreading m hold hlt
        rw [htop]
        omega
    · rw [if_neg hneeded, List.append_nil] at hdue
      have htop : top { s with queue := s.queue ++ [event] } = top s := by
        unfold top
        rw [hreach, hdue]
      refine ⟨hknown, h.fresh, fun hphase => absurd hphase hopened, fun _ => ?_, fun _ => ?_, fun _ m hlt hm => ?_,
        fun _ m hm hlt => ?_⟩
      · rw [htop]
        refine Tracks.inv (h := reach s) ⟨ht.ahead, ht.opened_empty, ht.last_ok, fun q hq => ?_, ?_, ?_, ?_⟩
          (horizon_of_reading (s := { s with queue := s.queue ++ [event] }) hreading _)
        · rw [List.map_append, List.mem_append] at hq
          rcases hq with hq | hq
          · exact ht.queue_le q hq
          · obtain rfl : q = event.eventSeq := by simpa using hq
            exact le_trans (by omega) (@reach_le_top s)
        · rw [hdue]
          exact ht.due_ok
        · intro _
          rw [hdue]
          rfl
        · intro _ hstale
          exact absurd (h.fresh.symm.trans hstale) nofun
      · rw [htop]
        exact h.bounded hreading
      · rw [htop] at hlt
        refine (hpend' m).mpr ⟨h.missing hreading m hlt hm, ?_⟩
        have := @reach_le_top s
        omega
      · rw [htop]
        exact h.beyond hreading m ((hpend' m).mp hm).1 hlt

/-! ## A longer log -/

theorem Follows.grow (h : Follows limits record pend s) (hle : record.eventSeq ≤ record'.eventSeq)
    (hevents : ∀ e ∈ record.events, e ∈ record'.events)
    (hpend : reading s = true → ∀ m, m ∈ pend' ↔ m ∈ pend ∨ record.eventSeq < m ∧ m ≤ record'.eventSeq) :
    Follows limits record' pend' s where
  known e he := by
    obtain ⟨old, hold, rfl⟩ := List.mem_map.mp (h.known e he)
    exact List.mem_map_of_mem (hevents old hold)
  fresh := h.fresh
  opening hphase := by
    have hi := h.opening hphase
    have ht := hi.2 (by simp [subscribed, hphase])
    have hh : s.horizon record'.eventSeq = max s.after record'.eventSeq := by simp [horizon, hphase]
    have hgrown : s.Tracks limits _ (max s.after record'.eventSeq) := ht.opened_horizon (le_max_of_le_right hle)
    refine Tracks.inv ⟨hgrown.ahead, hgrown.opened_empty, hgrown.last_ok, fun q hq => ?_, hgrown.due_ok, fun _ => ?_,
      hgrown.stale_full⟩ hh
    · exact (hgrown.queue_le q hq).trans hle
    · exact Nat.le_add_right_of_le (le_max_right _ _)
  held := h.held
  bounded hreading := (h.bounded hreading).trans (max_le_max hle le_rfl)
  missing hreading m hlt hm := by
    refine (hpend hreading m).mpr ?_
    by_cases hold : m ≤ record.eventSeq
    · exact Or.inl (h.missing hreading m hlt hold)
    · exact Or.inr ⟨by omega, hm⟩
  beyond hreading m hm hlt := by
    rcases (hpend hreading m).mp hm with hold | ⟨hnew, -⟩
    · exact h.beyond hreading m hold hlt
    · have := h.bounded hreading
      omega

/-! ## Reading -/

theorem readLive_fields (s : Stream) :
    s.readLive.phase = .live ∧ s.readLive.stale = s.stale ∧ s.readLive.dropped = s.dropped
      ∧ s.readLive.after = s.after := by
  unfold readLive
  split
  · exact ⟨rfl, rfl, rfl, rfl⟩
  · split <;> exact ⟨rfl, rfl, rfl, rfl⟩

theorem readLive_known {e : Services.Event} (he : e ∈ s.readLive.delivered ++ s.readLive.backlog ++ s.readLive.queue) :
    e ∈ s.delivered ++ s.queue := by
  have hbacklog : s.readLive.backlog = [] := by
    unfold backlog
    rw [(readLive_fields s).1]
  rw [hbacklog, List.append_nil] at he
  unfold readLive at he
  split at he
  · exact he
  · rename_i event rest hqueue
    rw [hqueue]
    split at he
    · simpa [delivered] using he
    · rcases List.mem_append.mp he with hdelivered | hrest
      · exact List.mem_append_left _ hdelivered
      · exact List.mem_append_right _ (List.mem_cons_of_mem _ hrest)

theorem read_fields (record : SessionRecord) (s : Stream) :
    (s.read record).stale = s.stale ∧ (s.read record).dropped = s.dropped ∧ (s.read record).after = s.after := by
  obtain ⟨-, hstale, hdropped, hafter⟩ := readLive_fields s
  unfold Stream.read
  split
  · obtain ⟨-, hstale', hdropped', hafter'⟩ := readLive_fields { s with lastDelivered := s.after }
    split
    · exact ⟨hstale', hdropped', hafter'⟩
    · exact ⟨rfl, rfl, rfl⟩
  · exact ⟨hstale, hdropped, hafter⟩
  · exact ⟨rfl, rfl, rfl⟩
  · exact ⟨hstale, hdropped, hafter⟩
  · exact ⟨rfl, rfl, rfl⟩

theorem read_phase (record : SessionRecord) : (s.read record).phase ≠ .opened := by
  have hlive := (readLive_fields s).1
  unfold Stream.read
  split
  · have hlive' := (readLive_fields { s with lastDelivered := s.after }).1
    split
    · rw [hlive']
      exact nofun
    · exact nofun
  · rw [hlive]
    exact nofun
  · exact nofun
  · rw [hlive]
    exact nofun
  · rename_i hended
    rw [hended]
    exact nofun

theorem read_known {e : Services.Event}
    (he : e ∈ (s.read record).delivered ++ (s.read record).backlog ++ (s.read record).queue) :
    e ∈ s.delivered ++ s.backlog ++ s.queue ∨ e ∈ record.eventsAfter s.after := by
  have hold : ∀ {e : Services.Event}, e ∈ s.delivered ++ s.queue → e ∈ s.delivered ++ s.backlog ++ s.queue := by
    intro e he
    simp only [List.mem_append] at he ⊢
    tauto
  unfold Stream.read at he
  split at he
  · split at he
    · exact Or.inl (hold (@readLive_known { s with lastDelivered := s.after } e he))
    · rename_i event rest hafter
      rw [hafter]
      simp only [yieldBacklog, delivered, backlog, deliveredEvents_event, List.mem_append, List.mem_singleton] at he
      simp only [List.mem_append, List.mem_cons]
      tauto
  · exact Or.inl (hold (readLive_known he))
  · rename_i event rest hphase
    simp only [yieldBacklog, delivered, backlog, deliveredEvents_event, List.mem_append, List.mem_singleton] at he
    simp only [backlog, hphase, List.mem_append, List.mem_cons]
    tauto
  · exact Or.inl (hold (readLive_known he))
  · exact Or.inl he

theorem reach_readLive_eq : reach s.readLive = s.readLive.lastDelivered := by
  have hbacklog : s.readLive.backlog = [] := by
    unfold backlog
    rw [(readLive_fields s).1]
  simp [reach, hbacklog]

theorem reach_le_readLive (hbacklog : s.backlog = []) : reach s ≤ reach s.readLive := by
  have hreach : reach s = s.lastDelivered := by simp [reach, hbacklog]
  rw [hreach, reach_readLive_eq]
  unfold readLive
  split
  · exact le_rfl
  · split
    · rename_i hlt
      exact hlt.le
    · exact le_rfl

theorem reach_readLive_le {k : Nat} (hqueue : ∀ q ∈ s.queue.map Event.eventSeq, q ≤ k) (hlast : s.lastDelivered ≤ k) :
    reach s.readLive ≤ k := by
  rw [reach_readLive_eq]
  unfold readLive
  split
  · exact hlast
  · rename_i event rest hevents
    split
    · exact hqueue _ (by simp [hevents])
    · exact hlast

theorem reach_read (hreading : reading s = true) (hi : s.Inv limits (top s)) :
    reach s ≤ reach (s.read record) ∧ reach (s.read record) ≤ top s := by
  have ht := hi.2 (subscribed_of_reading hreading)
  have hlast := ht.last_ok (opened_ne_of_reading hreading)
  unfold Stream.read
  cases hphase : s.phase with
  | opened => exact absurd hphase (opened_ne_of_reading hreading)
  | ended => simp [reading, hphase] at hreading
  | live =>
    have hbacklog : s.backlog = [] := by simp [backlog, hphase]
    refine ⟨reach_le_readLive hbacklog, reach_readLive_le ht.queue_le (le_trans ?_ reach_le_top)⟩
    exact Nat.le_add_right _ _
  | replaying rest =>
    cases rest with
    | nil =>
      have hbacklog : s.backlog = [] := by simp [backlog, hphase]
      refine ⟨reach_le_readLive hbacklog, reach_readLive_le ht.queue_le (le_trans ?_ reach_le_top)⟩
      exact Nat.le_add_right _ _
    | cons event rest =>
      have hahead := ht.ahead
      rw [backlog, hphase, List.map_append, Consecutive.append_iff, List.length_map, List.map_cons,
        consecutive_cons] at hahead
      have hnext : event.eventSeq = s.after + s.delivered.length + 1 := hahead.2.1
      have hsame : reach (s.yieldBacklog event rest) = reach s := by
        simp only [reach, yieldBacklog, backlog, hphase, List.length_cons]
        omega
      dsimp only
      rw [hsame]
      exact ⟨le_rfl, reach_le_top⟩

theorem reach_read_opened (hn : record.Numbered) (hphase : s.phase = .opened) :
    record.eventSeq ≤ reach (s.read record) := by
  have hafter := hn.eventsAfter s.after
  unfold Stream.read
  rw [hphase]
  dsimp only
  cases hevents : record.eventsAfter s.after with
  | nil =>
    rw [hevents, List.map_nil, eq_comm, List.range'_eq_nil_iff] at hafter
    dsimp only
    have hbacklog : ({ s with lastDelivered := s.after } : Stream).backlog = [] := by simp [backlog, hphase]
    have hforth := reach_le_readLive hbacklog
    have hstart : s.after ≤ reach ({ s with lastDelivered := s.after } : Stream) := Nat.le_add_right _ _
    have hend : record.eventSeq ≤ s.after := by omega
    exact (hend.trans hstart).trans hforth
  | cons event rest =>
    rw [hevents, List.map_cons] at hafter
    have hlen : rest.length + 1 = record.eventSeq - s.after := by
      simpa using congrArg List.length hafter
    have hfirst : event.eventSeq = s.after + 1 := by
      have hpos : record.eventSeq - s.after = (record.eventSeq - s.after - 1) + 1 := by omega
      rw [hpos, List.range'_succ] at hafter
      exact (List.cons.inj hafter).1
    simp only [reach, yieldBacklog, backlog]
    omega

theorem Follows.read (h : Follows limits record pend s) (hn : record.Numbered)
    (hpend : ∀ m ∈ pend, m ≤ record.eventSeq) : Follows limits record pend (s.read record) := by
  obtain ⟨hstale, hdropped, hafter⟩ := read_fields record s
  have hknown : ∀ e ∈ (s.read record).delivered ++ (s.read record).backlog ++ (s.read record).queue,
      e ∈ record.events.map EventRecord.asDict := by
    intro e he
    rcases read_known he with hold | hnew
    · exact h.known e hold
    · obtain ⟨row, hrow, rfl⟩ := List.mem_map.mp hnew
      exact List.mem_map_of_mem (List.mem_filter.mp hrow).1
  have hfresh : (s.read record).stale = false := hstale.trans h.fresh
  have hopening : (s.read record).phase = .opened → (s.read record).Inv limits record.eventSeq :=
    fun hphase => absurd hphase (read_phase record)
  by_cases hphase : s.phase = .opened
  · have hi := (h.opening hphase).read hn
    have hreach := reach_read_opened (s := s) hn hphase
    have hbounds : reading (s.read record) = true → top (s.read record) ≤ max record.eventSeq (reach (s.read record))
        ∧ record.eventSeq ≤ top (s.read record) := by
      intro hreading
      have ht := hi.2 (subscribed_of_reading hreading)
      rw [horizon_of_reading hreading] at ht
      have hend := ht.due_end
      exact ⟨by rwa [max_comm], ht.intact hfresh⟩
    refine ⟨hknown, hfresh, hopening, fun hreading => inv_top hreading hi, fun hreading => (hbounds hreading).1,
      fun hreading m hlt hm => ?_, fun hreading m hm hlt => ?_⟩
    · have := (hbounds hreading).2
      omega
    · have := hpend m hm
      omega
  · by_cases hreading : reading s = true
    · have hi := h.held hreading
      obtain ⟨hforth, hwithin⟩ : reach s ≤ reach (s.read record) ∧ reach (s.read record) ≤ top s := reach_read hreading hi
      have hi' := hi.read_reading record hphase
      have htop : reading (s.read record) = true → top (s.read record) = top s := by
        intro hreading'
        have ht := hi'.2 (subscribed_of_reading hreading')
        rw [horizon_of_reading hreading'] at ht
        have hend := ht.due_end
        have hintact := ht.intact hfresh
        change top (s.read record) ≤ _ at hend
        change _ ≤ top (s.read record) at hintact
        omega
      refine ⟨hknown, hfresh, hopening, fun hreading' => inv_top hreading' hi', fun hreading' => ?_,
        fun hreading' m hlt hm => ?_, fun hreading' m hm hlt => ?_⟩
      · rw [htop hreading']
        have := h.bounded hreading
        omega
      · rw [htop hreading'] at hlt
        exact h.missing hreading m hlt hm
      · rw [htop hreading']
        exact h.beyond hreading m hm (by omega)
    · have hended : s.phase = .ended := by
        unfold reading at hreading
        split at hreading <;> simp_all
      have hsame : s.read record = s := by
        unfold Stream.read
        rw [hended]
      rw [hsame]
      exact h

/-! ## Opening, waiting and closing -/

theorem follows_opened (after : Nat) (snapshot : SessionSnapshot) :
    Follows limits record pend { after, output := [.snapshot snapshot] } where
  known := nofun
  fresh := rfl
  opening _ := Inv.opened after snapshot
  held := nofun
  bounded := nofun
  missing := nofun
  beyond := nofun

theorem Follows.finish (h : Follows limits record pend s) : Follows limits record pend s.finish where
  known e he := by
    refine h.known e ?_
    have hbacklog : s.finish.backlog = [] := rfl
    rw [hbacklog, List.append_nil] at he
    simp only [List.mem_append] at he ⊢
    rcases he with hdelivered | hqueue
    · exact Or.inl (Or.inl hdelivered)
    · exact Or.inr hqueue
  fresh := rfl
  opening := nofun
  held := nofun
  bounded := nofun
  missing := nofun
  beyond := nofun

theorem Follows.timeout (h : Follows limits record pend s) : Follows limits record pend s.timeout := by
  unfold Stream.timeout
  split
  · rename_i hphase
    split
    · exact h.finish
    · have hdelivered : deliveredEvents (s.output ++ [.heartbeat]) = s.delivered := deliveredEvents_heartbeat _
      have hreach : reach { s with output := s.output ++ [.heartbeat] } = reach s := rfl
      have htop : top { s with output := s.output ++ [.heartbeat] } = top s := rfl
      refine ⟨fun e he => h.known e ?_, h.fresh, fun hopened => (nomatch hopened.symm.trans hphase), fun hreading => ?_,
        h.bounded, h.missing, h.beyond⟩
      · change e ∈ deliveredEvents (s.output ++ [.heartbeat]) ++ s.backlog ++ s.queue at he
        rw [hdelivered] at he
        exact he
      · have hi := (h.held hreading).timeout
        have htimeout : s.timeout = { s with output := s.output ++ [.heartbeat] } := by
          unfold Stream.timeout
          rw [hphase, h.fresh]
          rfl
        rw [htimeout] at hi
        exact hi
  · exact h

end PduExamObserver.Workspace
