import PduExamObserver.Workspace.LiveDelivery

/-! # Runs of the live streams

What commits, publications and readers preserve for one stream, for every stream of every session in every state of
an orderly run; and the two ways in which a run that is not orderly loses an event. -/

namespace PduExamObserver.Workspace
open M1 M1R1 Services Transition
set_option autoImplicit false

variable {rt : M1.Runtime} {limits : StreamLimits} {db db' : Database}

/-! ## The log only grows -/

variable {registers : Bool} {sessionId : String} {state : Option String} {record : SessionRecord}

theorem logged_events (h : Logged rt registers db db') : db.sessionEvents <+: db'.sessionEvents := by
  induction h with
  | refl => exact List.prefix_rfl
  | tail _ hwrites ih =>
    refine ih.trans ?_
    cases hwrites with
    | same hsame =>
      rw [hsame.events]
    | event hevent =>
      simp only [M1Backend.event, bind_ok_iff, orError_eq_ok, Table.insert_eq_ok, pure_eq_ok, Prod.mk.injEq] at hevent
      obtain ⟨row, -, rows, ⟨-, rfl⟩, rfl, -⟩ := hevent
      exact List.prefix_append _ _
    | session s hfree hseq => exact List.prefix_rfl
    | audit e hid => exact List.prefix_rfl
    | receipt r draw hdraw hid => exact List.prefix_rfl
    | artifacts registry dependencies hregisters => exact List.prefix_rfl

theorem logged_sessions (h : Logged rt registers db db') :
    db.sessions.map Session.id <+: db'.sessions.map Session.id := by
  have hids : ∀ {db db' : Database}, db'.sessions.map Session.counter = db.sessions.map Session.counter →
      db'.sessions.map Session.id = db.sessions.map Session.id := by
    intro db db' hcounters
    have hfirst := congrArg (List.map Prod.fst) hcounters
    rwa [List.map_map, List.map_map] at hfirst
  induction h with
  | refl => exact List.prefix_rfl
  | tail _ hwrites ih =>
    refine ih.trans ?_
    cases hwrites with
    | same hsame => rw [hids hsame.counters]
    | event hevent =>
      simp only [M1Backend.event, bind_ok_iff, orError_eq_ok, Table.insert_eq_ok, pure_eq_ok, Prod.mk.injEq] at hevent
      obtain ⟨row, -, rows, ⟨-, rfl⟩, rfl, -⟩ := hevent
      dsimp only
      rw [Table.map_update]
      intro _ _
      rfl
    | session s hfree hseq =>
      rw [List.map_append]
      exact List.prefix_append _ _
    | audit e hid => exact List.prefix_rfl
    | receipt r draw hdraw hid => exact List.prefix_rfl
    | artifacts registry dependencies hregisters => exact List.prefix_rfl

theorem reconcile_logged (h : reconcileRuntime db sessionId state = .ok db') : Logged rt false db db' := by
  unfold reconcileRuntime at h
  split at h
  · cases h
    exact .refl
  · split at h
    · simp only [bind_ok_iff, pure_eq_ok] at h
      obtain ⟨⟨mid, published⟩, hevent, rfl⟩ := h
      exact logged_event hevent { SameLog.refl db with counters := by apply counter_update; intro s; rfl }
    · cases h
      exact .refl

theorem reconcile_seqs (h : reconcileRuntime db sessionId state = .ok db') :
    db' = db ∨ (reconciledState state).isSome = true
      ∧ (db.sessions.any fun s => s.id = sessionId ∧ s.state = .recording) = true
      ∧ ∀ other, other ≠ sessionId → db'.eventSeqs other = db.eventSeqs other := by
  unfold reconcileRuntime at h
  split at h
  · cases h
    exact Or.inl rfl
  · rename_i target htarget
    split at h
    · rename_i hrecording
      simp only [bind_ok_iff, pure_eq_ok, M1Backend.event, orError_eq_ok, Table.insert_eq_ok] at h
      obtain ⟨-, ⟨row, -, rows, ⟨-, rfl⟩, rfl⟩, rfl⟩ := h
      refine Or.inr ⟨by rw [htarget]; rfl, hrecording, fun other hother => ?_⟩
      have hnone : ¬ sessionId = other := fun heq => hother heq.symm
      simp [Database.eventSeqs, List.filter_append, hnone]
    · cases h
      exact Or.inl rfl

def pendingSeqs (pending : List SessionEvent) (sessionId : String) : List Nat :=
  (pending.filter fun e => e.sessionId = sessionId).map SessionEvent.eventSeq

theorem record?_some (h : record? db sessionId = some record) :
    ∃ row ∈ db.sessions, row.id = sessionId ∧ record = sessionRecord db row := by
  obtain ⟨row, hrow, rfl⟩ := Option.map_eq_some_iff.mp h
  exact ⟨row, List.mem_of_find?_eq_some hrow, by simpa using List.find?_some hrow, rfl⟩

theorem record?_of_mem (hids : Table.Keyed Session.id db.sessions) {row : Session} (hrow : row ∈ db.sessions) :
    record? db row.id = some (sessionRecord db row) := by
  rw [record?, Database.session?, hids.find hrow]
  rfl

theorem record_seqs (db : Database) (row : Session) :
    (sessionRecord db row).events.map EventRecord.eventSeq = db.eventSeqs row.id := by
  simp [sessionRecord, Database.eventSeqs, eventRecord, Function.comp_def]

theorem record_numbered (h : Gapless db) (hrecord : record? db sessionId = some record) : record.Numbered := by
  obtain ⟨row, hrow, -, rfl⟩ := record?_some hrecord
  have hseqs := (record_seqs db row).trans (h.numbered row hrow)
  have hlength : (sessionRecord db row).events.length = row.eventSeq := by
    simpa using congrArg List.length hseqs
  exact ⟨hlength, hseqs⟩

theorem record_grows (h : Gapless db) (hlogged : Logged rt registers db db')
    (hrecord : record? db sessionId = some record) :
    ∃ record', record? db' sessionId = some record' ∧ record.eventSeq ≤ record'.eventSeq
      ∧ (∀ e ∈ record.events, e ∈ record'.events)
      ∧ ∀ m, m ∈ pendingSeqs (db'.sessionEvents.drop db.sessionEvents.length) sessionId
        ↔ record.eventSeq < m ∧ m ≤ record'.eventSeq := by
  have h' := h.logged hlogged
  obtain ⟨row, hrow, rfl, rfl⟩ := record?_some hrecord
  have hmem := (logged_sessions hlogged).subset (List.mem_map_of_mem (f := Session.id) hrow)
  obtain ⟨row', hrow', hid⟩ := List.mem_map.mp hmem
  obtain ⟨news, hnews⟩ := logged_events hlogged
  have hdrop : db'.sessionEvents.drop db.sessionEvents.length = news := by
    rw [← hnews, List.drop_left]
  have hseqs : db'.eventSeqs row.id = db.eventSeqs row.id ++ pendingSeqs news row.id := by
    unfold Database.eventSeqs pendingSeqs
    rw [← hnews, List.filter_append, List.map_append]
  have hold := h.numbered row hrow
  have hnow := h'.numbered row' hrow'
  rw [hid, hseqs, hold] at hnow
  have hlength : row.eventSeq + (pendingSeqs news row.id).length = row'.eventSeq := by
    simpa using congrArg List.length hnow
  have hnew : pendingSeqs news row.id = List.range' (1 + row.eventSeq) (row'.eventSeq - row.eventSeq) := by
    have hsplit : List.range' 1 row'.eventSeq
        = List.range' 1 row.eventSeq ++ List.range' (1 + row.eventSeq) (row'.eventSeq - row.eventSeq) := by
      rw [List.range'_append_1]
      congr 1
      omega
    rw [hsplit] at hnow
    exact List.append_cancel_left hnow
  refine ⟨sessionRecord db' row', hid ▸ record?_of_mem h'.ids hrow', ?_, fun e he => ?_, fun m => ?_⟩
  · change row.eventSeq ≤ row'.eventSeq
    omega
  · obtain ⟨event, hevent, rfl⟩ := List.mem_map.mp he
    refine List.mem_map_of_mem ?_
    rw [List.mem_filter] at hevent ⊢
    rw [hid]
    exact ⟨hnews ▸ List.mem_append_left _ hevent.1, hevent.2⟩
  · rw [hdrop, hnew, List.mem_range'_1]
    change _ ↔ row.eventSeq < m ∧ m ≤ row'.eventSeq
    omega

/-! ## The invariant -/

namespace LiveBackend

structure Tracked (limits : StreamLimits) (backend : LiveBackend) : Prop where
  gapless : Gapless backend.database
  pending : backend.pending.Sublist backend.database.sessionEvents
  follows : ∀ sessionId, ∀ s ∈ backend.streams sessionId, s.dropped = [] →
    ∃ record, record? backend.database sessionId = some record
      ∧ Follows limits record (pendingSeqs backend.pending sessionId) s

theorem tracked_empty : Tracked limits {} := ⟨.empty, List.nil_sublist _, nofun⟩

variable {backend : LiveBackend}

theorem Tracked.pending_le (h : backend.Tracked limits) (hrecord : record? backend.database sessionId = some record) :
    ∀ m ∈ pendingSeqs backend.pending sessionId, m ≤ record.eventSeq := by
  intro m hm
  obtain ⟨row, hrow, rfl, rfl⟩ := record?_some hrecord
  have hsub : (pendingSeqs backend.pending row.id).Sublist (backend.database.eventSeqs row.id) :=
    (h.pending.filter _).map _
  have hlog := hsub.subset hm
  rw [h.gapless.numbered row hrow, List.mem_range'_1] at hlog
  change m ≤ row.eventSeq
  omega

theorem Tracked.commit (h : backend.Tracked limits) (clock : Clock) (action : M1Action) :
    (backend.commit rt clock action).Tracked limits := by
  unfold LiveBackend.commit
  split
  · exact h
  · rename_i database hrun
    have hlogged := action.run_logged hrun
    obtain ⟨news, hnews⟩ := logged_events hlogged
    refine ⟨h.gapless.action hrun, ?_, fun sessionId s hs hkept => ?_⟩
    · dsimp only
      rw [← hnews, List.drop_left]
      exact h.pending.append_right news
    · obtain ⟨record, hrecord, hfollows⟩ := h.follows sessionId s hs hkept
      obtain ⟨record', hrecord', hle, hevents, hnew⟩ := record_grows h.gapless hlogged hrecord
      refine ⟨record', hrecord', hfollows.grow hle hevents fun _ m => ?_⟩
      rw [← hnew]
      simp [pendingSeqs]

theorem Tracked.reconcile (rt : M1.Runtime) (h : backend.Tracked limits) (hunobserved : backend.Unobserved sessionId state) : (backend.reconcile sessionId state).Tracked limits := by
  unfold LiveBackend.reconcile
  split
  · exact h
  · rename_i database hrun
    have hlogged : Logged rt false backend.database database := reconcile_logged hrun
    obtain ⟨news, hnews⟩ := logged_events hlogged
    refine ⟨h.gapless.logged hlogged, ?_, fun id s hs hkept => ?_⟩
    · exact h.pending.trans (hnews ▸ (List.prefix_append _ _).sublist)
    · obtain ⟨record, hrecord, hfollows⟩ := h.follows id s hs hkept
      obtain ⟨record', hrecord', hle, hevents, hnew⟩ := record_grows h.gapless hlogged hrecord
      refine ⟨record', hrecord', hfollows.grow hle hevents fun hreading m => ?_⟩
      -- a reading stream has seen no change of its session
      have hsame : record.eventSeq = record'.eventSeq := by
        have hseqs : database.eventSeqs id = backend.database.eventSeqs id := by
          rcases reconcile_seqs hrun with heq | ⟨hstate, hrecording, hothers⟩
          · exact congrArg (fun db => db.eventSeqs id) heq
          · refine hothers id fun hid => ?_
            subst hid
            exact absurd (hreading.symm.trans (hunobserved hstate hrecording s hs)) nofun
        obtain ⟨row, hrow, rfl, rfl⟩ := record?_some hrecord
        obtain ⟨row', hrow', hid, rfl⟩ := record?_some hrecord'
        have hold := h.gapless.numbered row hrow
        have hnow := (h.gapless.logged hlogged).numbered row' hrow'
        rw [hid, hseqs, hold] at hnow
        have hsame : row.eventSeq = row'.eventSeq := by simpa using congrArg List.length hnow
        exact hsame
      constructor
      · exact Or.inl
      · rintro (hm | hm)
        · exact hm
        · omega

variable {index : Nat} {pending : List SessionEvent}

theorem eraseIdx_split {row : SessionEvent} (hrow : pending[index]? = some row) :
    pending = pending.take index ++ row :: pending.drop (index + 1) ∧
      pending.eraseIdx index = pending.take index ++ pending.drop (index + 1) := by
  obtain ⟨hlt, hget⟩ := List.getElem?_eq_some_iff.mp hrow
  refine ⟨?_, List.eraseIdx_eq_take_drop_succ _ _⟩
  rw [← hget, List.getElem_cons_drop, List.take_append_drop]

theorem pendingSeqs_eraseIdx {row : SessionEvent}
    (hnodup : (pendingSeqs pending row.sessionId).Nodup) (hrow : pending[index]? = some row) (m : Nat) :
    m ∈ pendingSeqs (pending.eraseIdx index) row.sessionId
      ↔ m ∈ pendingSeqs pending row.sessionId ∧ m ≠ row.eventSeq := by
  obtain ⟨hsplit, herase⟩ := eraseIdx_split hrow
  have hseqs : pendingSeqs pending row.sessionId
      = pendingSeqs (pending.take index) row.sessionId
        ++ row.eventSeq :: pendingSeqs (pending.drop (index + 1)) row.sessionId := by
    conv_lhs => rw [hsplit]
    simp [pendingSeqs, List.filter_append]
  have hseqs' : pendingSeqs (pending.eraseIdx index) row.sessionId
      = pendingSeqs (pending.take index) row.sessionId ++ pendingSeqs (pending.drop (index + 1)) row.sessionId := by
    rw [herase]
    simp [pendingSeqs, List.filter_append]
  rw [hseqs] at hnodup ⊢
  rw [hseqs']
  have hnotmem := (List.nodup_middle.mp hnodup)
  rw [List.nodup_cons] at hnotmem
  constructor
  · intro hm
    refine ⟨?_, fun heq => hnotmem.1 (heq ▸ hm)⟩
    simp only [List.mem_append, List.mem_cons] at hm ⊢
    tauto
  · rintro ⟨hm, hother⟩
    simp only [List.mem_append, List.mem_cons] at hm ⊢
    tauto

theorem pendingSeqs_eraseIdx_other {row : SessionEvent}
    (hrow : pending[index]? = some row) (hother : row.sessionId ≠ sessionId) :
    pendingSeqs (pending.eraseIdx index) sessionId = pendingSeqs pending sessionId := by
  obtain ⟨hsplit, herase⟩ := eraseIdx_split hrow
  rw [herase]
  conv_rhs => rw [hsplit]
  simp [pendingSeqs, List.filter_append, hother]

theorem Tracked.pending_nodup (h : backend.Tracked limits) (hrecord : record? backend.database sessionId = some record) : (pendingSeqs backend.pending sessionId).Nodup := by
  obtain ⟨row, hrow, rfl, rfl⟩ := record?_some hrecord
  have hsub : (pendingSeqs backend.pending row.id).Sublist (backend.database.eventSeqs row.id) :=
    (h.pending.filter _).map _
  refine List.Nodup.sublist hsub ?_
  rw [h.gapless.numbered row hrow]
  exact List.nodup_range'

theorem mem_modifyStreams {id : String} {f : List Stream → List Stream} {s : Stream}
    (hs : s ∈ (backend.modifyStreams sessionId f).streams id) :
    id = sessionId ∧ s ∈ f (backend.streams sessionId) ∨ id ≠ sessionId ∧ s ∈ backend.streams id := by
  by_cases hid : id = sessionId
  · subst hid
    refine Or.inl ⟨rfl, ?_⟩
    simpa [LiveBackend.modifyStreams] using hs
  · refine Or.inr ⟨hid, ?_⟩
    simpa [LiveBackend.modifyStreams, Function.update_of_ne hid] using hs

theorem Tracked.publish (h : backend.Tracked limits) (horder : backend.InOrder index) :
    (backend.publish limits index).Tracked limits := by
  unfold LiveBackend.publish
  cases hrow : backend.pending[index]? with
  | none => exact h
  | some row =>
    have hmem : row ∈ backend.pending := List.mem_of_getElem? hrow
    dsimp only
    refine ⟨h.gapless, (List.eraseIdx_sublist _ _).trans h.pending, fun id s hs hkept => ?_⟩
    rcases mem_modifyStreams hs with ⟨rfl, hput⟩ | ⟨hother, hs⟩
    · obtain ⟨old, hold, rfl⟩ := List.mem_map.mp hput
      obtain ⟨record, hrecord, hfollows⟩ := h.follows _ old hold (put_dropped hkept)
      refine ⟨record, hrecord, hfollows.put hkept ?_ ?_ ?_ (pendingSeqs_eraseIdx (h.pending_nodup hrecord) hrow) ?_⟩
      · obtain ⟨session, hsession, hid, rfl⟩ := record?_some hrecord
        refine List.mem_map_of_mem (List.mem_map_of_mem (List.mem_filter.mpr ⟨h.pending.subset hmem, ?_⟩))
        simp [hid]
      · exact h.pending_le hrecord _ (List.mem_map_of_mem (List.mem_filter.mpr ⟨hmem, by simp⟩))
      · exact List.mem_map_of_mem (List.mem_filter.mpr ⟨hmem, by simp⟩)
      · intro hreading m hm hlt
        obtain ⟨earlier, hearlier, rfl⟩ := List.mem_map.mp hm
        obtain ⟨hpending, hsession⟩ := List.mem_filter.mp hearlier
        exact horder row hrow earlier hpending (by simpa using hsession) hlt old hold hreading
    · obtain ⟨record, hrecord, hfollows⟩ := h.follows id s hs hkept
      refine ⟨record, hrecord, ?_⟩
      have hsame : pendingSeqs (backend.pending.eraseIdx index) id = pendingSeqs backend.pending id :=
        pendingSeqs_eraseIdx_other hrow (Ne.symm hother)
      change Follows limits record (pendingSeqs (backend.pending.eraseIdx index) id) s
      rw [hsame]
      exact hfollows

theorem Tracked.openStream (rt : M1.Runtime) (h : backend.Tracked limits) {after : Nat} {now : Seconds}
    (hunobserved : backend.subscriberSlotsAvailable limits sessionId = true → backend.Unobserved sessionId state) :
    (backend.openStream limits sessionId after now state).Tracked limits := by
  unfold LiveBackend.openStream
  split
  swap
  · exact h
  rename_i hslots
  have hreconciled := h.reconcile rt (hunobserved hslots)
  dsimp only
  split
  · exact hreconciled
  · rename_i record hrecord
    refine ⟨hreconciled.gapless, hreconciled.pending, fun id s hs hkept => ?_⟩
    rcases mem_modifyStreams hs with ⟨rfl, hopened⟩ | ⟨-, hs⟩
    · rcases List.mem_append.mp hopened with hold | hnew
      · exact hreconciled.follows _ s hold hkept
      · rw [List.mem_singleton.mp hnew]
        exact ⟨record, hrecord, follows_opened after _⟩
    · exact hreconciled.follows id s hs hkept

theorem Tracked.modifyStream (h : backend.Tracked limits) (sessionId : String) (stream : Nat)
    {f : SessionRecord → Stream → Stream} (hdropped : ∀ record s, (f record s).dropped = s.dropped)
    (hf : ∀ record pend s, record.Numbered → (∀ m ∈ pend, m ≤ record.eventSeq) → Follows limits record pend s →
      Follows limits record pend (f record s)) :
    (backend.modifyStream sessionId stream f).Tracked limits := by
  unfold LiveBackend.modifyStream
  split
  · exact h
  · rename_i record hrecord
    refine ⟨h.gapless, h.pending, fun id s hs hkept => ?_⟩
    rcases mem_modifyStreams hs with ⟨rfl, hmodified⟩ | ⟨-, hs⟩
    · obtain ⟨i, hi⟩ := List.getElem?_of_mem hmodified
      rw [List.getElem?_modify] at hi
      obtain ⟨old, hold, rfl⟩ := Option.map_eq_some_iff.mp hi
      have hmem := List.mem_of_getElem? hold
      split at hkept
      · rw [hdropped] at hkept
        obtain ⟨record', hrecord', hfollows⟩ := h.follows _ old hmem hkept
        obtain rfl : record = record' := Option.some.inj (hrecord.symm.trans hrecord')
        refine ⟨record, hrecord, ?_⟩
        rw [if_pos (by assumption)]
        exact hf record _ old (record_numbered h.gapless hrecord) (h.pending_le hrecord) hfollows
      · rw [if_neg (by assumption)]
        exact h.follows _ old hmem hkept
    · exact h.follows id s hs hkept

theorem Tracked.step (h : backend.Tracked limits) {action : LiveAction} (horderly : backend.Orderly limits action) :
    (LiveBackend.step rt limits backend action).Tracked limits := by
  cases action with
  | commit clock action => exact h.commit clock action
  | reconcileRuntime sessionId state => exact h.reconcile rt horderly
  | publish index => exact h.publish horderly
  | openStream sessionId after now state => exact h.openStream rt horderly
  | read sessionId stream =>
    exact h.modifyStream sessionId stream (fun record s => (read_fields record s).2.1)
      fun record pend s hn hle hfollows => hfollows.read hn hle
  | timeout sessionId stream =>
    refine h.modifyStream sessionId stream (fun _ s => ?_) fun record pend s _ _ hfollows => hfollows.timeout
    unfold Stream.timeout
    split
    · split <;> rfl
    · rfl
  | close sessionId stream =>
    exact h.modifyStream sessionId stream (fun _ _ => rfl) fun record pend s _ _ hfollows => hfollows.finish

/-! ## What a stream has handed out -/

theorem eq_of_map_eq {α β : Type*} {f : α → β} {l l' : List α} (hinj : ∀ x ∈ l, ∀ y ∈ l', f x = f y → x = y)
    (h : l.map f = l'.map f) : l = l' := by
  induction l generalizing l' with
  | nil => exact (List.map_eq_nil_iff.mp h.symm).symm
  | cons a l ih =>
    cases l' with
    | nil => cases h
    | cons b l' =>
      rw [List.map_cons, List.map_cons, List.cons.injEq] at h
      rw [hinj a List.mem_cons_self b List.mem_cons_self h.1]
      rw [ih (fun x hx y hy => hinj x (List.mem_cons_of_mem _ hx) y (List.mem_cons_of_mem _ hy)) h.2]

theorem known_eq (hn : record.Numbered) {e e' : Services.Event}
    (he : e ∈ record.events.map EventRecord.asDict) (he' : e' ∈ record.events.map EventRecord.asDict)
    (hseq : e.eventSeq = e'.eventSeq) : e = e' := by
  obtain ⟨row, hrow, rfl⟩ := List.mem_map.mp he
  obtain ⟨row', hrow', rfl⟩ := List.mem_map.mp he'
  have hnodup : (record.events.map EventRecord.eventSeq).Nodup := by
    rw [hn.numbers]
    exact List.nodup_range'
  rw [List.inj_on_of_nodup_map hnodup hrow hrow' hseq]

theorem known_le (hn : record.Numbered) {e : Services.Event}
    (he : e ∈ record.events.map EventRecord.asDict) : e.eventSeq ≤ record.eventSeq := by
  obtain ⟨row, hrow, rfl⟩ := List.mem_map.mp he
  have hmem := List.mem_map_of_mem (f := EventRecord.eventSeq) hrow
  rw [hn.numbers, List.mem_range'_1] at hmem
  rw [asDict_eventSeq]
  omega

theorem Tracked.delivered (h : backend.Tracked limits) : backend.Delivered := by
  intro sessionId record hrecord hpending s hs hlive hqueue hkept
  obtain ⟨record', hrecord', hfollows⟩ := h.follows sessionId s hs hkept
  obtain rfl : record = record' := Option.some.inj (hrecord.symm.trans hrecord')
  have hn := record_numbered h.gapless hrecord
  have hnone : pendingSeqs backend.pending sessionId = [] := by
    rw [pendingSeqs, List.filter_eq_nil_iff.mpr, List.map_nil]
    intro row hrow hsession
    exact hpending row hrow (by simpa using hsession)
  have hreading : reading s = true := by simp [reading, hlive]
  have hbacklog : s.backlog = [] := by simp [Stream.backlog, hlive]
  have htop : top s = s.lastDelivered := by simp [top, reach, Stream.due, hqueue, hbacklog]
  have ht := (hfollows.held hreading).2 (subscribed_of_reading hreading)
  have hlast := ht.last_ok (by simp [hlive])
  have hknown : ∀ e ∈ s.delivered, e ∈ record.events.map EventRecord.asDict := fun e he =>
    hfollows.known e (List.mem_append_left _ (List.mem_append_left _ he))
  have hgapless := ht.gapless
  -- nothing is missing, and nothing lies beyond the log
  have hcomplete : record.eventSeq ≤ s.after + s.delivered.length := by
    by_contra hshort
    have hmissing := hfollows.missing hreading record.eventSeq (by omega) le_rfl
    rw [hnone] at hmissing
    cases hmissing
  have hwithin : s.delivered = [] ∨ s.after + s.delivered.length ≤ record.eventSeq := by
    by_cases hempty : s.delivered = []
    · exact Or.inl hempty
    · right
      have hpos := List.length_pos_of_ne_nil hempty
      have hmem : s.after + s.delivered.length ∈ s.delivered.map Event.eventSeq :=
        hgapless.mem_iff.mpr ⟨by omega, by rw [List.length_map]⟩
      obtain ⟨e, he, hseq⟩ := List.mem_map.mp hmem
      rw [← hseq]
      exact known_le hn (hknown e he)
  have hlength : s.delivered.length = record.eventSeq - s.after := by
    rcases hwithin with hempty | hle
    · rw [hempty] at hcomplete ⊢
      simp at hcomplete ⊢
      omega
    · omega
  refine eq_of_map_eq (f := Event.eventSeq) (fun e he e' he' hseq => known_eq hn (hknown e he) ?_ hseq) ?_
  · obtain ⟨row, hrow, rfl⟩ := List.mem_map.mp he'
    exact List.mem_map_of_mem (List.mem_filter.mp hrow).1
  · rw [hn.eventsAfter, ← hlength]
    have hnumbers : s.delivered.map Event.eventSeq
        = List.range' (s.after + 1) (s.delivered.map Event.eventSeq).length := hgapless
    rwa [List.length_map] at hnumbers

end LiveBackend

/-- In a run in which no publication overtakes an event that a reading stream needs, and no reading stream is there
when a reconciliation changes its session, every stream that waits for nothing has handed out the whole log after
its start. -/
theorem live_events_delivered (rt : M1.Runtime) (limits : StreamLimits) (backend : LiveBackend)
    (h : ReachableBy (LiveBackend.system rt limits) (LiveBackend.Orderly limits) backend) : backend.Delivered := by
  have htracked : backend.Tracked limits := by
    refine h.invariant (I := fun backend => backend.Tracked limits) ?_ ?_
    · rintro _ rfl
      exact LiveBackend.tracked_empty
    · rintro backend action _ hbackend horderly rfl
      exact hbackend.step horderly
  exact htracked.delivered

namespace Sample

def twoCommits : List LiveAction :=
  [.commit noon .createSession, .openStream "" 0 0 none, .read "" 0, .commit noon (.appendEvent "" "A" []),
    .commit noon (.appendEvent "" "B" [])]

def overtaken : List LiveAction := twoCommits ++ [.publish 1, .publish 0, .read "" 0, .read "" 0]

def inOrder : List LiveAction := twoCommits ++ [.publish 0, .publish 0, .read "" 0, .read "" 0]

def run (actions : List LiveAction) : LiveBackend := actions.foldl (LiveBackend.step sampleRuntime {}) {}

theorem overtaken_stream : ∃ s ∈ (run overtaken).streams "", s.phase = .live ∧ s.queue = [] ∧ s.dropped = []
    ∧ s.after = 0 ∧ s.delivered.map Event.eventSeq = [2] :=
  ⟨_, List.mem_cons_self, rfl, rfl, rfl, rfl, rfl⟩

theorem overtaken_record : ∃ record, record? (run overtaken).database "" = some record
    ∧ (record.eventsAfter 0).map Event.eventSeq = [1, 2] :=
  ⟨_, rfl, rfl⟩

theorem overtaken_pending : (run overtaken).pending = [] := rfl

theorem inOrder_zero {backend : LiveBackend} {first : Nat} {rest : List Nat}
    (h : backend.pending.map SessionEvent.eventSeq = first :: rest) (hrest : ∀ n ∈ rest, first ≤ n) :
    backend.InOrder 0 := by
  intro row hrow earlier hearlier _ hlt
  have hfirst : row.eventSeq = first := by
    have hget := congrArg (fun l : List Nat => l[0]?) h
    simpa [hrow] using hget
  have hmem := List.mem_map_of_mem (f := SessionEvent.eventSeq) hearlier
  rw [h] at hmem
  rcases List.mem_cons.mp hmem with hsame | hlater
  · omega
  · have := hrest _ hlater
    omega

theorem inOrder_orderly : Guarded (LiveBackend.step sampleRuntime {}) (LiveBackend.Orderly {}) {} inOrder := by
  have hopen : ∀ backend : LiveBackend, backend.Orderly {} (.openStream "" 0 0 none) := by
    intro backend _ hstate
    cases hstate
  have htwo : (run twoCommits).InOrder 0 := @inOrder_zero _ 1 [2] rfl (by simp)
  have hone : ((run twoCommits).publish {} 0).InOrder 0 := @inOrder_zero _ 2 [] rfl nofun
  exact ⟨trivial, hopen _, trivial, trivial, trivial, htwo, hone, trivial, trivial, trivial⟩

end Sample

theorem live_events_delivered_inOrder : (Sample.run Sample.inOrder).Delivered :=
  live_events_delivered sampleRuntime {} _ (reachableBy_foldl Sample.inOrder (.init rfl) Sample.inOrder_orderly)

/-- The event that is published last is dropped by a stream that already has handed out the later one. -/
theorem overtaken_event_lost :
    ¬ ∀ (rt : M1.Runtime) (limits : StreamLimits) (backend : LiveBackend),
      Reachable (LiveBackend.system rt limits) backend → backend.Delivered := by
  intro h
  obtain ⟨s, hs, hlive, hqueue, hdropped, hafter, hdelivered⟩ := Sample.overtaken_stream
  obtain ⟨record, hrecord, hlog⟩ := Sample.overtaken_record
  have hreach : Reachable (LiveBackend.system sampleRuntime {}) (Sample.run Sample.overtaken) :=
    reachable_foldl Sample.overtaken (.init rfl)
  have hall := h _ _ _ hreach "" record hrecord (by rw [Sample.overtaken_pending]; exact nofun) s hs hlive hqueue hdropped
  rw [hall, hafter, hlog] at hdelivered
  cases hdelivered

end PduExamObserver.Workspace
