import Mathlib.Algebra.Order.Ring.Rat
import Mathlib.Data.List.Range
import PduExamObserver.Web.ConnectionStatus
import PduExamObserver.Web.SseText

/-! # Delivery of a session's events to the browser

Over any number of connections, each cut off anywhere, a subscription hands over every event that it can show once. -/

namespace PduExamObserver.Web
open Transition
set_option autoImplicit false

/-! ## What the server sends -/

/-- The events after number `n`, with heartbeats between them. -/
inductive Follows : Nat → List Item → Prop
  | nil (n : Nat) : Follows n []
  | heartbeat {n : Nat} {items : List Item} (h : Follows n items) : Follows n (.heartbeat :: items)
  | event {n : Nat} {items : List Item} (h : Follows (n + 1) items) : Follows n (.event (n + 1) :: items)

namespace Server

variable {runtime : Runtime} (server : Server runtime)

def IsSnapshot (value : JsValue) : Prop :=
  runtime.parseJson (server.dumps value) = some value ∧ JsValue.isString (value.get "type") "SessionSnapshot" = true

/-- The answer to a request after event `after`: a snapshot, then the events. -/
def Sends (after : Nat) (items : List Item) : Prop :=
  ∃ value rest, items = .snapshot value :: rest ∧ server.IsSnapshot value ∧ Follows after rest

def Serves (s : Subscription) : StreamEvent → Prop
  | .chunk text _ _ => ∀ parser, s.phase = .reading parser → ∀ connection, s.connections.getLast? = some connection →
      ∀ after : Nat, connection.afterEventSeq = .finite after →
        ∃ items, server.Sends after items ∧ connection.text ++ text <+: server.encode items
  | _ => True

/-- The whole frame of event `n` has been read on the connection. -/
def Arrived (connection : Connection) (n : Nat) : Prop :=
  ∃ (after : Nat) (items : List Item), connection.afterEventSeq = .finite after ∧
    server.Sends after (items ++ [.event n]) ∧ server.encode (items ++ [.event n]) <+: connection.text

def mappable (n : Nat) : Bool := (mapEvent (server.log n)).isSome

/-- The mappable events up to number `u`. -/
def delivered (u : Nat) : List Nat := (List.range' 1 u).filter server.mappable

end Server

def StreamMessage.event? : StreamMessage → Option ReviewerEvent
  | .event shown => some shown
  | .snapshot _ => none

/-- The events that were handed to `onMessage`. -/
def Subscription.events (s : Subscription) : List ReviewerEvent := s.handed.filterMap StreamMessage.event?

variable {runtime : Runtime} {server : Server runtime} {s t : Subscription} {n u : Nat}

theorem mem_delivered : n ∈ server.delivered u ↔ 1 ≤ n ∧ n ≤ u ∧ server.mappable n = true := by
  rw [Server.delivered, List.mem_filter, List.mem_range'_1]
  constructor
  · rintro ⟨⟨hpos, hle⟩, hmap⟩
    exact ⟨hpos, by omega, hmap⟩
  · rintro ⟨hpos, hle, hmap⟩
    exact ⟨⟨hpos, by omega⟩, hmap⟩

theorem delivered_succ (u : Nat) :
    server.delivered (u + 1) = server.delivered u ++ if server.mappable (u + 1) then [u + 1] else [] := by
  rw [Server.delivered, List.range'_1_concat, List.filter_append, Nat.add_comm 1 u]
  congr 1
  by_cases h : server.mappable (u + 1) = true
  · rw [if_pos h, List.filter_cons_of_pos h, List.filter_nil]
  · rw [if_neg h, List.filter_cons_of_neg h, List.filter_nil]

theorem delivered_pairwise (u : Nat) : (server.delivered u).Pairwise (· < ·) :=
  List.Pairwise.filter _ (List.pairwise_lt_range' 1)

theorem delivered_last (u : Nat) : server.delivered ((server.delivered u).getLast?.getD 0) = server.delivered u := by
  induction u with
  | zero => rfl
  | succ u ih =>
    by_cases h : server.mappable (u + 1) = true
    · have hlast : ((server.delivered (u + 1)).getLast?).getD 0 = u + 1 := by
        rw [delivered_succ, if_pos h, List.getLast?_concat]
        rfl
      rw [hlast]
    · rw [delivered_succ, if_neg h, List.append_nil]
      exact ih

theorem last_le (u : Nat) : (server.delivered u).getLast?.getD 0 ≤ u := by
  cases h : (server.delivered u).getLast? with
  | none => exact Nat.zero_le u
  | some last => exact (mem_delivered.mp (List.mem_of_getLast? h)).right.left

/-- What the subscription knows when it has taken in the events up to number `u`. -/
structure Known (server : Server runtime) (s : Subscription) (u : Nat) : Prop where
  events : s.events.map some = (server.delivered u).map fun n => mapEvent (server.log n)
  received : s.received = (server.delivered u).map fun n => some (.number n)
  cursor : s.afterEventSeq = .finite ((server.delivered u).getLast?.getD 0 : Nat)

/-! ## Messages -/

theorem number_decimal (n : Nat) : runtime.number (decimal n) = .finite n := by
  have hdigits : decimal n ≠ [] ∧ (decimal n).all Char.isDigit = true :=
    ⟨Nat.toDigits_ne_nil, List.all_eq_true.mpr fun _ h => decimal_isDigit h⟩
  rw [Runtime.number, if_pos hdigits, decimal, Nat.ofDigitChars_ten_toDigits]

theorem decimal_injective {m : Nat} (h : decimal n = decimal m) : n = m := by
  rw [← Nat.ofDigitChars_ten_toDigits (n := n), ← Nat.ofDigitChars_ten_toDigits (n := m)]
  exact congrArg (Nat.ofDigitChars 10 · 0) h

variable {value : JsValue} {items : List Item} {k : Nat} {new old : List ParsedSseMessage}

theorem get_object {found : JsValue} {name : String} (h : value.get name = some found) :
    ∃ fields, value = .object fields := by
  cases value with
  | object fields => exact ⟨fields, rfl⟩
  | _ => cases h

theorem isString_get {name text : String} (h : JsValue.isString (value.get name) text = true) :
    value.get name = some (.string text) := by
  unfold JsValue.isString at h
  split at h
  · rename_i found heq
    rw [heq]
    exact congrArg (some <| JsValue.string ·) (of_decide_eq_true h)
  · cases h

theorem handleMessage_object {throws : StreamMessage → Bool} {message : ParsedSseMessage} {fields : List (String × JsValue)}
    (hparse : runtime.parseJson message.data = some (.object fields)) :
    s.handleMessage runtime throws message =
      if isSnapshot (.object fields) then s.hand throws (.snapshot (mapSnapshot (.object fields)))
      else
        match mapEvent (.object fields) with
        | none => s
        | some event =>
          if s.received.any (JsValue.same (Subscription.sequence runtime message event)) then s
          else
            Subscription.hand { s with
              received := s.received ++ [Subscription.sequence runtime message event],
              afterEventSeq := s.afterEventSeq.max (runtime.toNumber (Subscription.sequence runtime message event)) }
              throws (.event event) := by
  unfold Subscription.handleMessage
  exact hparse ▸ rfl

theorem mapEvent_eventSeq {event : ReviewerEvent} (h : mapEvent value = some event) :
    event.eventSeq = value.get "event_seq" := by
  unfold mapEvent at h
  split at h
  · cases h
    rfl
  · split at h
    · cases h
      rfl
    · cases h

theorem mapEvent_snapshot (h : JsValue.isString (value.get "type") "SessionSnapshot" = true) :
    mapEvent value = none := by
  have htype := isString_get h
  unfold mapEvent
  rw [htype]
  rfl

theorem hand_events (s : Subscription) (throws : StreamMessage → Bool) (message : StreamMessage) :
    (s.hand throws message).events = s.events ++ message.event?.toList ∧
      (s.hand throws message).received = s.received ∧ (s.hand throws message).afterEventSeq = s.afterEventSeq := by
  have hevents : (s.handed ++ [message]).filterMap StreamMessage.event? = s.events ++ message.event?.toList := by
    rw [List.filterMap_append, Subscription.events]
    cases message <;> rfl
  unfold Subscription.hand
  dsimp only
  split
  · exact ⟨hevents, rfl, rfl⟩
  · exact ⟨hevents, rfl, rfl⟩

theorem sequence_event {event : ReviewerEvent} (h : mapEvent (server.log n) = some event) :
    Subscription.sequence runtime (server.eventMessage n) event = some (.number n) := by
  have hid : ((server.eventMessage n).id.map runtime.number).getD .nan = .finite n := number_decimal n
  rw [Subscription.sequence, hid]
  dsimp only
  split
  · rfl
  · exact (mapEvent_eventSeq h).trans (server.eventSeq n)

theorem known_event (h : Known server s u) (throws : StreamMessage → Bool) :
    Known server (s.handleMessage runtime throws (server.eventMessage (u + 1))) (u + 1) := by
  obtain ⟨fields, hfields⟩ := get_object (server.eventSeq (u + 1))
  have hparse : runtime.parseJson (server.eventMessage (u + 1)).data = some (.object fields) :=
    hfields ▸ server.parse_log (u + 1)
  have hsnapshot : isSnapshot (.object fields) = false := by
    rw [isSnapshot, ← hfields, server.notSnapshot]
    rfl
  rw [handleMessage_object hparse, if_neg (by rw [hsnapshot]; exact nofun), ← hfields]
  cases hmap : mapEvent (server.log (u + 1)) with
  | none =>
    have hmappable : ¬ server.mappable (u + 1) = true := by
      rw [Server.mappable, hmap]
      exact nofun
    have hsame : server.delivered (u + 1) = server.delivered u := by
      rw [delivered_succ, if_neg hmappable, List.append_nil]
    exact ⟨hsame ▸ h.events, hsame ▸ h.received, hsame ▸ h.cursor⟩
  | some event =>
    have hmappable : server.mappable (u + 1) = true := by
      rw [Server.mappable, hmap]
      rfl
    have hnext : server.delivered (u + 1) = server.delivered u ++ [u + 1] := by
      rw [delivered_succ, if_pos hmappable]
    have hseq := sequence_event hmap
    have hnew : s.received.any (JsValue.same (some (.number (u + 1 : Nat)))) = false := by
      rw [List.any_eq_false, h.received]
      intro old hold
      obtain ⟨m, hm, rfl⟩ := List.mem_map.mp hold
      have hle := (mem_delivered.mp hm).right.left
      simp only [JsValue.same, decide_eq_true_eq, Nat.cast_inj]
      omega
    dsimp only
    rw [hseq, hnew, if_neg Bool.false_ne_true]
    obtain ⟨hevents, hreceived, hcursor⟩ := hand_events
      { s with
        received := s.received ++ [some (.number (u + 1 : Nat))],
        afterEventSeq := s.afterEventSeq.max (runtime.toNumber (some (.number (u + 1 : Nat)))) } throws (.event event)
    have hlast : (((server.delivered u).getLast?.getD 0 : Nat) : ℚ) ≤ (u + 1 : Nat) := by
      have hle := @last_le _ server u
      exact_mod_cast Nat.le_succ_of_le hle
    refine ⟨?_, ?_, ?_⟩
    · rw [hevents, hnext, List.map_append, List.map_append, List.map_singleton, hmap]
      exact congrArg (· ++ [some event]) h.events
    · rw [hreceived, hnext, List.map_append, h.received]
      rfl
    · rw [hcursor, hnext, List.getLast?_concat, h.cursor]
      simp only [Runtime.toNumber, JsNumber.max, if_pos hlast, Option.getD_some]

theorem known_snapshot (h : Known server s u) (hvalue : server.IsSnapshot value)
    (throws : StreamMessage → Bool) (eventId : Option Text) :
    Known server (s.handleMessage runtime throws (server.snapshotMessage value eventId)) u := by
  obtain ⟨hparse, htype⟩ := hvalue
  obtain ⟨fields, rfl⟩ := get_object (isString_get htype)
  rw [handleMessage_object hparse, mapEvent_snapshot htype]
  split
  · obtain ⟨hevents, hreceived, hcursor⟩ := hand_events s throws (.snapshot (mapSnapshot (.object fields)))
    refine ⟨?_, hreceived.trans h.received, hcursor.trans h.cursor⟩
    rw [hevents]
    exact (congrArg (List.map some) (List.append_nil _)).trans h.events
  · exact h

theorem known_events (h : Known server s u) (throws : StreamMessage → Bool) (k : Nat) :
    Known server (((List.range' (u + 1) k).map server.eventMessage).foldl (Subscription.handleMessage runtime · throws) s)
      (u + k) := by
  induction k generalizing s u with
  | zero => exact h
  | succ k ih =>
    rw [List.range'_succ, List.map_cons, List.foldl_cons, show u + (k + 1) = u + 1 + k by omega]
    exact ih (known_event h throws)

/-! ## Bodies -/

theorem follows_start {taken : List Item} (h : Follows n items) (htaken : taken <+: items) : Follows n taken := by
  induction h generalizing taken with
  | nil n =>
    rw [List.prefix_nil.mp htaken]
    exact .nil n
  | @heartbeat n items _ ih =>
    cases taken with
    | nil => exact .nil n
    | cons first rest =>
      obtain ⟨rfl, hrest⟩ := List.cons_prefix_cons.mp htaken
      exact .heartbeat (ih hrest)
  | @event n items _ ih =>
    cases taken with
    | nil => exact .nil n
    | cons first rest =>
      obtain ⟨rfl, hrest⟩ := List.cons_prefix_cons.mp htaken
      exact .event (ih hrest)

theorem follows_messages (h : Follows n items) :
    ∃ k, ∀ eventId, server.messages eventId items = (List.range' (n + 1) k).map server.eventMessage := by
  induction h with
  | nil n => exact ⟨0, fun _ => rfl⟩
  | heartbeat _ ih =>
    obtain ⟨k, hk⟩ := ih
    exact ⟨k, fun eventId => hk eventId⟩
  | @event n items _ ih =>
    obtain ⟨k, hk⟩ := ih
    refine ⟨k + 1, fun eventId => ?_⟩
    rw [Server.messages, hk, List.range'_succ, List.map_cons]

/-- The messages of what has been read of a body: nothing yet, or the snapshot and `k` events. -/
def Progress (server : Server runtime) (after : Nat) (messages : List ParsedSseMessage) (k : Nat) : Prop :=
  (messages = [] ∧ k = 0) ∨ ∃ value, server.IsSnapshot value ∧
    messages = server.snapshotMessage value none :: (List.range' (after + 1) k).map server.eventMessage

theorem exists_progress {after : Nat} {text : Text} (h : server.Sends after items)
    (htext : text <+: server.encode items) : ∃ k, Progress server after (({} : SseParser).push text).2 k := by
  obtain ⟨taken, htaken, hmessages⟩ := @push_encode_start _ _ server items none htext
  obtain ⟨value, rest, rfl, hvalue, hfollows⟩ := h
  rw [show ({} : SseParser) = ⟨[], ⟨[], none⟩⟩ from rfl, hmessages]
  cases taken with
  | nil => exact ⟨0, .inl ⟨rfl, rfl⟩⟩
  | cons first taken =>
    obtain ⟨rfl, htail⟩ := List.cons_prefix_cons.mp htaken
    obtain ⟨k, hk⟩ := follows_messages (follows_start hfollows htail)
    exact ⟨k, .inr ⟨value, hvalue, congrArg _ (hk none)⟩⟩

theorem known_progress {after k' : Nat} (h : Known server s (after + k))
    (hold : Progress server after old k) (hnew : Progress server after (old ++ new) k') (throws : StreamMessage → Bool) :
    Known server (new.foldl (Subscription.handleMessage runtime · throws) s) (after + k') := by
  rcases hold with ⟨rfl, rfl⟩ | ⟨value, hvalue, rfl⟩
  · rcases hnew with ⟨hnil, rfl⟩ | ⟨value, hvalue, hmessages⟩
    · rw [List.nil_append] at hnil
      rw [hnil]
      exact h
    · rw [List.nil_append] at hmessages
      rw [hmessages, List.foldl_cons]
      exact known_events (known_snapshot h hvalue throws none) throws k'
  · rcases hnew with ⟨hnil, -⟩ | ⟨value', -, hmessages⟩
    · cases hnil
    · have htail : (List.range' (after + 1) k).map server.eventMessage ++ new =
          (List.range' (after + 1) k').map server.eventMessage := List.tail_eq_of_cons_eq hmessages
      have hlength := congrArg List.length htail
      simp only [List.length_append, List.length_map, List.length_range'] at hlength
      have hrest : new = (List.range' (after + 1 + k) (k' - k)).map server.eventMessage := by
        have hdrop := congrArg (List.drop k) htail
        have hsplit : ((List.range' (after + 1) k).map server.eventMessage).length = k := by
          rw [List.length_map, List.length_range']
        rw [List.drop_left' hsplit, ← List.map_drop, List.drop_range'] at hdrop
        simpa using hdrop
      have hknown := known_events h throws (k' - k)
      rw [show after + k + (k' - k) = after + k' by omega, show after + k + 1 = after + 1 + k by omega, ← hrest] at hknown
      exact hknown

/-! ## Steps -/

/-- What has arrived on a connection is among the events up to number `u`. -/
def Taken (server : Server runtime) (connection : Connection) (u : Nat) : Prop :=
  ∀ n, server.Arrived connection n → server.mappable n = true → n ∈ server.delivered u

def Reads (server : Server runtime) (s : Subscription) (u : Nat) : Prop :=
  ∀ parser, s.phase = .reading parser → ∃ connection, ∃ after k : Nat, s.connections.getLast? = some connection ∧
    connection.afterEventSeq = .finite after ∧ parser = (({} : SseParser).push connection.text).1 ∧
      Progress server after (({} : SseParser).push connection.text).2 k ∧ u = after + k

structure Knows (server : Server runtime) (s : Subscription) (u : Nat) : Prop where
  known : Known server s u
  taken : ∀ connection ∈ s.connections, Taken server connection u
  reads : Reads server s u

structure Subscription.Idles (s t : Subscription) : Prop where
  handed : t.handed = s.handed
  received : t.received = s.received
  afterEventSeq : t.afterEventSeq = s.afterEventSeq
  connections : t.connections = s.connections

theorem Knows.idle (h : Knows server s u) (hidle : s.Idles t) (hphase : ∀ parser, t.phase = .reading parser → s.phase = .reading parser) :
    Knows server t u := by
  refine ⟨⟨?_, hidle.received.trans h.known.received, hidle.afterEventSeq.trans h.known.cursor⟩, ?_, fun parser hreading => ?_⟩
  · rw [Subscription.events, hidle.handed]
    exact h.known.events
  · rw [hidle.connections]
    exact h.taken
  · rw [hidle.connections]
    exact h.reads parser (hphase parser hreading)

theorem retry_idles (s : Subscription) : s.Idles s.retry := by
  unfold Subscription.retry
  dsimp only
  split
  · exact ⟨rfl, rfl, rfl, rfl⟩
  · exact ⟨rfl, rfl, rfl, rfl⟩

theorem caught_idles (s : Subscription) : s.Idles s.caught := by
  unfold Subscription.caught
  split
  · exact ⟨rfl, rfl, rfl, rfl⟩
  · exact retry_idles s

theorem Knows.caught (h : Knows server s u) : Knows server s.caught u :=
  h.idle (caught_idles s) fun parser hreading => absurd hreading (caught_phase s parser)

theorem encode_event_ne_nil (items : List Item) (n : Nat) : server.encode (items ++ [.event n]) ≠ [] := by
  intro hnil
  rw [Server.encode, List.flatMap_append, List.append_eq_nil_iff, List.flatMap_singleton, frame_eq] at hnil
  exact absurd (List.append_eq_nil_iff.mp hnil.right).right (List.cons_ne_nil _ _)

theorem taken_new (after : JsNumber) (u : Nat) : Taken server { afterEventSeq := after } u := by
  rintro n ⟨after, items, -, -, hread⟩ -
  exact absurd (List.prefix_nil.mp hread) (encode_event_ne_nil items n)

theorem Knows.connect (h : Knows server s u) (status : Status) (phase : Phase)
    (hphase : ∀ parser, phase = .reading parser → parser = {}) :
    Knows server { s.report status with
      connections := s.connections ++ [{ afterEventSeq := s.afterEventSeq }], phase } ((server.delivered u).getLast?.getD 0) := by
  have hsame := @delivered_last _ server u
  refine ⟨⟨?_, ?_, ?_⟩, fun connection hmem => ?_, fun parser hreading => ?_⟩
  · rw [hsame]
    exact h.known.events
  · rw [hsame]
    exact h.known.received
  · rw [hsame]
    exact h.known.cursor
  · rcases List.mem_append.mp hmem with hold | hnew
    · intro n harrived hmappable
      rw [hsame]
      exact h.taken connection hold n harrived hmappable
    · rw [List.mem_singleton.mp hnew]
      exact taken_new _ _
  · refine ⟨{ afterEventSeq := s.afterEventSeq }, (server.delivered u).getLast?.getD 0, 0, List.getLast?_concat, h.known.cursor,
      ?_, .inl ⟨rfl, rfl⟩, rfl⟩
    exact hphase parser hreading

theorem progress_le {after k' : Nat} (hold : Progress server after old k)
    (hnew : Progress server after (old ++ new) k') : k ≤ k' := by
  rcases hold with ⟨rfl, rfl⟩ | ⟨value, -, rfl⟩
  · exact Nat.zero_le k'
  · rcases hnew with ⟨hnil, -⟩ | ⟨value', -, hmessages⟩
    · cases hnil
    · have hlength := congrArg List.length hmessages
      simp only [List.length_append, List.length_cons, List.length_map, List.length_range'] at hlength
      omega

theorem Taken.mono {connection : Connection} {u' : Nat} (h : Taken server connection u) (hle : u ≤ u') :
    Taken server connection u' := by
  intro n harrived hmappable
  obtain ⟨hpos, hn, -⟩ := mem_delivered.mp (h n harrived hmappable)
  exact mem_delivered.mpr ⟨hpos, le_trans hn hle, hmappable⟩

theorem taken_read {connection : Connection} {after : Nat}
    (hprogress : Progress server after (({} : SseParser).push connection.text).2 k) :
    Taken server connection (after + k) := by
  rintro n ⟨after', items, hafter', -, hread⟩ hmappable
  have hprefix := push_prefix hread ⟨[], ⟨[], none⟩⟩
  rw [push_encode] at hprefix
  have hmem := hprefix.subset (eventMessage_mem items none n)
  have hmessages : server.eventMessage n ∈ (({} : SseParser).push connection.text).2 := hmem
  rcases hprogress with ⟨hnil, -⟩ | ⟨value, -, hall⟩
  · rw [hnil] at hmessages
    cases hmessages
  · rw [hall] at hmessages
    rcases List.mem_cons.mp hmessages with hsnapshot | hevent
    · exact absurd (congrArg ParsedSseMessage.id hsnapshot) nofun
    · obtain ⟨m, hm, hsame⟩ := List.mem_map.mp hevent
      have hid := decimal_injective (Option.some.inj (congrArg ParsedSseMessage.id hsame))
      obtain ⟨hlow, hhigh⟩ := List.mem_range'_1.mp hm
      rw [hid] at hlow hhigh
      exact mem_delivered.mpr ⟨by omega, by omega, hmappable⟩

theorem addText_concat (text : Text) (before : List Connection) (connection : Connection) :
    Subscription.addText text (before ++ [connection]) = before ++ [{ connection with text := connection.text ++ text }] := by
  induction before with
  | nil => rfl
  | cons first rest ih =>
    cases rest with
    | nil => rfl
    | cons second rest => exact congrArg (first :: ·) ih

theorem Knows.chunk (h : Knows server s u) {parser : SseParser} (hphase : s.phase = .reading parser) {text : Text}
    {throws : StreamMessage → Bool} {cancels : Bool} (hserves : server.Serves s (.chunk text throws cancels)) :
    ∃ u', Knows server { (parser.push text).2.foldl (Subscription.handleMessage runtime · throws) s with
      stopped := ((parser.push text).2.foldl (Subscription.handleMessage runtime · throws) s).stopped || cancels
      connections := Subscription.addText text s.connections
      phase := .reading (parser.push text).1 } u' := by
  obtain ⟨connection, after, k, hlast, hafter, rfl, hprogress, rfl⟩ := h.reads parser hphase
  obtain ⟨items, hsends, hread⟩ := hserves _ hphase connection hlast after hafter
  obtain ⟨k', hprogress'⟩ := exists_progress hsends hread
  have happend := push_append ({} : SseParser) connection.text text
  have hmessages := congrArg Prod.snd happend
  rw [hmessages] at hprogress'
  have hknown := known_progress h.known hprogress hprogress' throws
  have hle := progress_le hprogress hprogress'
  obtain ⟨before, hbefore⟩ := List.getLast?_eq_some_iff.mp hlast
  refine ⟨after + k', ⟨hknown.events, hknown.received, hknown.cursor⟩, fun other hother => ?_, fun next hreading => ?_⟩
  · dsimp only at hother
    rw [hbefore, addText_concat] at hother
    rcases List.mem_append.mp hother with hold | hnew
    · have hmem : other ∈ s.connections := by
        rw [hbefore]
        exact List.mem_append_left _ hold
      exact (h.taken other hmem).mono (by omega)
    · rw [List.mem_singleton.mp hnew]
      refine taken_read ?_
      rw [hmessages]
      exact hprogress'
  · refine ⟨{ connection with text := connection.text ++ text }, after, k', ?_, hafter, ?_, ?_, rfl⟩
    · dsimp only
      rw [hbefore, addText_concat, List.getLast?_concat]
    · cases hreading
      exact (congrArg Prod.fst happend).symm
    · rw [hmessages]
      exact hprogress'

theorem Knows.respond (h : Knows server s u) (response : Response) : ∃ u', Knows server (s.respond runtime response) u' := by
  cases response with
  | rejected => exact ⟨u, h.caught⟩
  | answered status hasBody =>
    rw [Subscription.respond]
    split
    · exact ⟨u, h.idle ⟨rfl, rfl, rfl, rfl⟩ (by rintro _ ⟨⟩)⟩
    · split
      · exact ⟨u, h.caught⟩
      · dsimp only
        split
        · rw [finish_eq_caught List.not_mem_nil]
          have hended := h.connect .connected .ended (by rintro _ ⟨⟩)
          refine ⟨_, hended.idle (caught_idles _) fun parser hreading => absurd hreading (caught_phase _ parser)⟩
        · refine ⟨_, h.connect .connected (.reading {}) fun parser hreading => ?_⟩
          exact (Phase.reading.inj hreading).symm

theorem step_knows {e : StreamEvent} (h : Knows server s u) (htidy : s.Tidy) (hserves : server.Serves s e) :
    ∃ u', Knows server (s.step runtime e) u' := by
  cases e with
  | turn hasSession =>
    rw [Subscription.step]
    split
    · split
      · exact ⟨u, h.idle ⟨rfl, rfl, rfl, rfl⟩ (by rintro _ ⟨⟩)⟩
      · split
        · exact ⟨u, h.idle ⟨rfl, rfl, rfl, rfl⟩ (by rintro _ ⟨⟩)⟩
        · exact ⟨u, h.idle ⟨rfl, rfl, rfl, rfl⟩ (by rintro _ ⟨⟩)⟩
    · exact ⟨u, h⟩
  | response response =>
    rw [Subscription.step]
    split
    · exact h.respond response
    · exact ⟨u, h⟩
  | chunk text throws cancels =>
    rw [Subscription.step]
    split
    · rename_i parser hphase
      obtain ⟨u', hnext⟩ := h.chunk hphase hserves
      have hconnections := (foldl_handles runtime throws (parser.push text).2 s).connections
      dsimp only
      rw [hconnections]
      split
      · rw [finish_eq_caught (push_buffer parser text)]
        obtain ⟨hhanded, hreceived, hcursor, hsame⟩ := caught_idles
          { (parser.push text).2.foldl (Subscription.handleMessage runtime · throws) s with
            stopped := ((parser.push text).2.foldl (Subscription.handleMessage runtime · throws) s).stopped || cancels
            connections := Subscription.addText text s.connections }
        exact ⟨u', hnext.idle ⟨hhanded, hreceived, hcursor, hsame⟩
          fun next hreading => absurd hreading (caught_phase _ next)⟩
      · exact ⟨u', hnext⟩
    · exact ⟨u, h⟩
  | endOfBody incomplete =>
    rw [Subscription.step]
    split
    · rename_i parser hphase
      rw [finish_eq_caught (htidy.buffer parser hphase)]
      exact ⟨u, h.caught⟩
    · exact ⟨u, h⟩
  | readFailed =>
    rw [Subscription.step]
    split
    · exact ⟨u, h.caught⟩
    · exact ⟨u, h⟩
  | unsubscribe => exact ⟨u, h.idle ⟨rfl, rfl, rfl, rfl⟩ fun _ hreading => hreading⟩

/-! ## Runs -/

/-- The events that were handed over are those with these numbers, in increasing order: none twice, none that can be shown
left out below another, and each that arrived; the next request is after the last of them. -/
structure Delivered (server : Server runtime) (s : Subscription) (numbers : List Nat) : Prop where
  events : s.events.map some = numbers.map fun n => mapEvent (server.log n)
  increasing : numbers.Pairwise (· < ·)
  gapless : ∀ n ∈ numbers, ∀ m, 1 ≤ m → m < n → server.mappable m = true → m ∈ numbers
  arrived : ∀ connection ∈ s.connections, ∀ n, server.Arrived connection n → server.mappable n = true → n ∈ numbers
  cursor : s.afterEventSeq = .finite (numbers.getLast?.getD 0 : Nat)

theorem Knows.delivered (h : Knows server s u) : Delivered server s (server.delivered u) where
  events := h.known.events
  increasing := delivered_pairwise u
  gapless n hn m hpos hlt hmappable := by
    have hle := (mem_delivered.mp hn).right.left
    exact mem_delivered.mpr ⟨hpos, by omega, hmappable⟩
  arrived connection hmem n harrived hmappable := h.taken connection hmem n harrived hmappable
  cursor := h.known.cursor

/-- In every run whose bodies are parts of what the server sends, each event that can be shown is handed over once and in
order; and the parser's messages do not depend on how a text is cut into chunks. -/
theorem delivered_once (runtime : Runtime) (server : Server runtime) (s : Subscription)
    (h : ReachableBy (subscription runtime) server.Serves s) :
    (∃ numbers, Delivered server s numbers) ∧
      ∀ chunks : List Text, (({} : SseParser).pushAll chunks).2 = (({} : SseParser).push chunks.flatten).2 := by
  have hknows : s.Tidy ∧ ∃ u, Knows server s u := by
    induction h with
    | @init s hinit =>
      cases (hinit : s = {})
      refine ⟨⟨fun _ hphase => (nomatch hphase), fun hlost => (nomatch hlost)⟩, 0, ⟨rfl, rfl, rfl⟩, ?_, ?_⟩
      · exact fun connection hmem => absurd hmem List.not_mem_nil
      · exact fun parser hreading => nomatch hreading
    | @step s t e _ hserves hstep ih =>
      obtain ⟨htidy, u, hknows⟩ := ih
      cases (hstep : s.step runtime e = t)
      exact ⟨step_tidy s e htidy, step_knows hknows htidy hserves⟩
  obtain ⟨-, u, hu⟩ := hknows
  refine ⟨⟨server.delivered u, hu.delivered⟩, fun chunks => ?_⟩
  rw [pushAll_eq chunks List.not_mem_nil]

/-! ## Samples -/

namespace Sample

/-- Event `n` of the sample session is an alert. -/
def alert (n : Nat) : JsValue :=
  .object [("type", .string "AlertEvent"), ("event_seq", .number n), ("label", .string "NO_PERSON"),
    ("confidence_status", .string "CALIBRATED")]

def session : JsValue :=
  .object [("type", .string "SessionSnapshot"), ("session_id", .string "S"), ("event_seq", .number 0),
    ("submitted", .bool false), ("state", .string "RECORDING"), ("duration_seconds", .number 60)]

def alertStart : Text := "\x7b\"type\": \"AlertEvent\", \"event_seq\": ".toList

def alertEnd : Text := ", \"label\": \"NO_PERSON\", \"confidence_status\": \"CALIBRATED\"\x7d".toList

def sessionText : Text :=
  "\x7b\"type\": \"SessionSnapshot\", \"session_id\": \"S\", \"event_seq\": 0, \"submitted\": false, ".toList ++
    "\"state\": \"RECORDING\", \"duration_seconds\": 60\x7d".toList

def reader : Runtime where
  parseJson text :=
    if text.take alertStart.length = alertStart then
      some (alert (Nat.ofDigitChars 10 ((text.drop alertStart.length).takeWhile Char.isDigit) 0))
    else if text = sessionText then some session
    else none
  valueNumber _ := .nan
  textNumber _ := .nan

def alertNumber (value : JsValue) : Nat :=
  match value.get "event_seq" with
  | some (.number q) => q.num.toNat
  | _ => 0

def dumps (value : JsValue) : Text :=
  if JsValue.isString (value.get "type") "AlertEvent" then alertStart ++ decimal (alertNumber value) ++ alertEnd
  else sessionText

theorem parse_alert (n : Nat) : reader.parseJson (dumps (alert n)) = some (alert n) := by
  have hdumps : dumps (alert n) = alertStart ++ (decimal n ++ alertEnd) := List.append_assoc ..
  have hstart : (dumps (alert n)).take alertStart.length = alertStart := by
    rw [hdumps, List.take_left' rfl]
  have hdigits : (decimal n ++ alertEnd).takeWhile Char.isDigit = decimal n := by
    have hend : alertEnd = ',' :: alertEnd.tail := by decide
    rw [List.takeWhile_append_of_pos fun c hc => decimal_isDigit hc, hend, List.takeWhile_cons_of_neg (by decide),
      List.append_nil]
  rw [reader]
  dsimp only
  rw [if_pos hstart, hdumps, List.drop_left' rfl, hdigits, decimal, Nat.ofDigitChars_ten_toDigits]

def examServer : Server reader where
  dumps := dumps
  log := alert
  plain value := by
    have hdigits (c : Char) (hc : c.isDigit = false) : c ∉ decimal (alertNumber value) := notMem_decimal hc
    unfold dumps
    split
    · refine ⟨List.not_mem_append (List.not_mem_append (by decide) (hdigits _ (by decide))) (by decide), ?_⟩
      exact List.not_mem_append (List.not_mem_append (by decide) (hdigits _ (by decide))) (by decide)
    · decide
  parse_log := parse_alert
  eventSeq _ := rfl
  notSnapshot _ := rfl

def first : Text := (examServer.encode [.snapshot session, .event 1, .event 2]).take 300

def again : Text := examServer.encode [.snapshot session, .heartbeat, .event 2]

def broken : List StreamEvent :=
  [.turn true, .response (.answered 200 true), .chunk first (fun _ => false) false, .readFailed, .turn true,
    .response (.answered 200 true), .chunk (again.take 170) (fun _ => false) false,
    .chunk (again.drop 170) (fun _ => true) false, .endOfBody false]

def delivered : Subscription := broken.foldl (Subscription.step reader) {}

theorem sends_alerts {after : Nat} {rest : List Item} (h : Follows after rest) :
    examServer.Sends after (.snapshot session :: rest) := by
  have hparse : reader.parseJson (dumps session) = some session := by
    have hother : ¬ sessionText.take alertStart.length = alertStart := by decide
    have hdumps : dumps session = sessionText := if_neg (by decide)
    rw [hdumps, reader]
    dsimp only
    rw [if_neg hother, if_pos rfl]
  exact ⟨session, rest, rfl, ⟨hparse, rfl⟩, h⟩

theorem serves_alerts {s : Subscription} {text before : Text} {throws : StreamMessage → Bool} {cancels : Bool} {after : Nat}
    {rest : List Item} (hlast : s.connections.getLast? = some ⟨.finite after, before⟩) (h : Follows after rest)
    (hread : before ++ text <+: examServer.encode (.snapshot session :: rest)) :
    examServer.Serves s (.chunk text throws cancels) := by
  intro parser _ connection hconnection number hnumber
  cases Option.some.inj (hlast.symm.trans hconnection)
  have hsame : number = after := by exact_mod_cast (JsNumber.finite.inj hnumber).symm
  rw [hsame]
  exact ⟨_, sends_alerts h, hread⟩

theorem serves_broken : Guarded (Subscription.step reader) examServer.Serves {} broken := by
  have hfirst : Follows 0 [.event 1, .event 2] := .event (.event (.nil 2))
  have hagain : Follows 1 [.heartbeat, .event 2] := .heartbeat (.event (.nil 2))
  refine ⟨trivial, trivial, ?_, trivial, trivial, trivial, ?_, ?_, trivial, trivial⟩
  · refine @serves_alerts _ _ [] _ _ 0 _ (by decide +kernel) hfirst ?_
    exact List.take_prefix _ _
  · refine @serves_alerts _ _ [] _ _ 1 _ (by decide +kernel) hagain ?_
    exact List.take_prefix _ _
  · refine @serves_alerts _ _ (again.take 170) _ _ 1 _ (by decide +kernel) hagain ?_
    rw [List.take_append_drop]
    exact List.prefix_rfl

end Sample

/-- Two connections that break off in the middle of frames deliver both events. -/
theorem delivered_once_broken : (∃ numbers, Delivered Sample.examServer Sample.delivered numbers) ∧
    Sample.delivered.events.map (·.title) = List.replicate 2 (some "Không có người trong khung quan sát") := by
  have h : ReachableBy (subscription Sample.reader) Sample.examServer.Serves Sample.delivered :=
    reachableBy_foldl Sample.broken (.init rfl) Sample.serves_broken
  exact ⟨(delivered_once Sample.reader Sample.examServer Sample.delivered h).left, by decide +kernel⟩

end PduExamObserver.Web
