import PduExamObserver.Web.EventStream

/-! # Server-sent events as text

What `SseParser` makes of the frames of `stream_events`, however they are cut. -/

namespace PduExamObserver.Web
set_option autoImplicit false

variable {parser : SseParser} {fields : SseFields} {value text : Text}

/-! ## Chunks -/

theorem takeLines_cons (fields : SseFields) (line : Text) (lines : List Text) : fields.takeLines (line :: lines) =
    (((fields.takeLine line).1.takeLines lines).1, (fields.takeLine line).2 ++ ((fields.takeLine line).1.takeLines lines).2) :=
  rfl

theorem takeLines_append (fields : SseFields) (a b : List Text) : fields.takeLines (a ++ b) =
    (((fields.takeLines a).1.takeLines b).1, (fields.takeLines a).2 ++ ((fields.takeLines a).1.takeLines b).2) := by
  induction a generalizing fields with
  | nil => rfl
  | cons line a ih =>
    rw [List.cons_append, takeLines_cons, ih, takeLines_cons, List.append_assoc]

theorem push_eq {chunk rest : Text} {lines : List Text} (h : Lines.split '\n' (parser.buffer ++ chunk) = (lines, rest)) :
    parser.push chunk = (⟨rest, (parser.fields.takeLines lines).1⟩, (parser.fields.takeLines lines).2) := by
  rw [SseParser.push, h]

theorem push_append (parser : SseParser) (a b : Text) : parser.push (a ++ b) =
    (((parser.push a).1.push b).1, (parser.push a).2 ++ ((parser.push a).1.push b).2) := by
  simp only [SseParser.push]
  rw [← List.append_assoc, Lines.split_append, takeLines_append]

def SseParser.pushAll (parser : SseParser) : List Text → SseParser × List ParsedSseMessage
  | [] => (parser, [])
  | chunk :: chunks =>
    let (next, messages) := parser.push chunk
    let (last, rest) := next.pushAll chunks
    (last, messages ++ rest)

theorem push_nil (h : '\n' ∉ parser.buffer) : parser.push [] = (parser, []) := by
  rw [SseParser.push, List.append_nil, Lines.split_of_notMem h]
  rfl

theorem pushAll_eq (chunks : List Text) (h : '\n' ∉ parser.buffer) : parser.pushAll chunks = parser.push chunks.flatten := by
  induction chunks generalizing parser with
  | nil => exact (push_nil h).symm
  | cons chunk chunks ih =>
    have hnext : '\n' ∉ (parser.push chunk).1.buffer := Lines.rest_notMem _
    rw [List.flatten_cons, push_append, ← ih hnext]
    rfl

/-! ## Lines -/

theorem getLast?_ne_of_notMem {line : Text} {c : Char} (h : c ∉ line) : line.getLast? ≠ some c :=
  fun hlast => h (List.mem_of_getLast? hlast)

theorem takeLine_data (h : '\r' ∉ value) : fields.takeLine ("data: ".toList ++ value) =
    ({ fields with dataLines := fields.dataLines ++ [value] }, []) := by
  have hend : ("data: ".toList ++ value).getLast? ≠ some '\r' := by
    refine getLast?_ne_of_notMem fun hmem => ?_
    rcases List.mem_append.mp hmem with hhead | hvalue
    · exact absurd hhead (by decide)
    · exact h hvalue
  unfold SseFields.takeLine
  rw [if_neg hend]
  rfl

theorem takeLine_id (h : '\r' ∉ value) (hnul : '\u0000' ∉ value) : fields.takeLine ("id: ".toList ++ value) =
    ({ fields with eventId := some value }, []) := by
  have hend : ("id: ".toList ++ value).getLast? ≠ some '\r' := by
    refine getLast?_ne_of_notMem fun hmem => ?_
    rcases List.mem_append.mp hmem with hhead | hvalue
    · exact absurd hhead (by decide)
    · exact h hvalue
  unfold SseFields.takeLine
  rw [if_neg hend]
  change (if "id".toList = "id".toList ∧ '\u0000' ∉ value then _ else _) = _
  rw [if_pos ⟨rfl, hnul⟩]
  rfl

/-! ## Frames -/

/-- A session's log as the server sends it: `dumps` is `json.dumps`, which writes one line, and `log` has the events by
their numbers. -/
structure Server (runtime : Runtime) where
  dumps : JsValue → Text
  log : Nat → JsValue
  plain : ∀ v, '\n' ∉ dumps v ∧ '\r' ∉ dumps v
  parse_log : ∀ n, runtime.parseJson (dumps (log n)) = some (log n)
  eventSeq : ∀ n, (log n).get "event_seq" = some (.number n)
  notSnapshot : ∀ n, JsValue.isString ((log n).get "type") "SessionSnapshot" = false

/-- What `stream_reviewer_events` yields; an event stands for its number. -/
inductive Item
  | heartbeat
  | snapshot (value : JsValue)
  | event (n : Nat)

def decimal (n : Nat) : Text := Nat.toDigits 10 n

variable {runtime : Runtime} (server : Server runtime)

namespace Server

/-- `body` of `stream_events` -/
def frame : Item → Text
  | .heartbeat => ": heartbeat\n\n".toList
  | .snapshot value => "data: ".toList ++ server.dumps value ++ "\n\n".toList
  | .event n => "id: ".toList ++ decimal n ++ "\ndata: ".toList ++ server.dumps (server.log n) ++ "\n\n".toList

def encode (items : List Item) : Text := items.flatMap server.frame

def fieldLines : Item → List Text
  | .heartbeat => [": heartbeat".toList]
  | .snapshot value => ["data: ".toList ++ server.dumps value]
  | .event n => ["id: ".toList ++ decimal n, "data: ".toList ++ server.dumps (server.log n)]

def snapshotMessage (value : JsValue) (eventId : Option Text) : ParsedSseMessage := ⟨server.dumps value, eventId⟩

def eventMessage (n : Nat) : ParsedSseMessage := ⟨server.dumps (server.log n), some (decimal n)⟩

def messages : Option Text → List Item → List ParsedSseMessage
  | _, [] => []
  | eventId, .heartbeat :: items => messages eventId items
  | eventId, .snapshot value :: items => server.snapshotMessage value eventId :: messages eventId items
  | _, .event n :: items => server.eventMessage n :: messages (some (decimal n)) items

end Server

def Item.eventId (eventId : Option Text) : Item → Option Text
  | .event n => some (decimal n)
  | _ => eventId

theorem decimal_isDigit {n : Nat} {c : Char} (h : c ∈ decimal n) : c.isDigit = true :=
  Nat.isDigit_of_mem_toDigits (by decide) (by decide) h

theorem notMem_decimal {n : Nat} {c : Char} (h : c.isDigit = false) : c ∉ decimal n := by
  intro hmem
  rw [decimal_isDigit hmem] at h
  cases h

variable {server : Server runtime}

theorem frame_snapshot (value : JsValue) :
    server.frame (.snapshot value) = "data: ".toList ++ server.dumps value ++ "\n\n".toList := rfl

theorem frame_event (n : Nat) : server.frame (.event n) =
    "id: ".toList ++ decimal n ++ "\ndata: ".toList ++ server.dumps (server.log n) ++ "\n\n".toList := rfl

theorem fieldLines_snapshot (value : JsValue) :
    server.fieldLines (.snapshot value) = ["data: ".toList ++ server.dumps value] := rfl

theorem fieldLines_event (n : Nat) : server.fieldLines (.event n) =
    ["id: ".toList ++ decimal n, "data: ".toList ++ server.dumps (server.log n)] := rfl

theorem frame_eq (item : Item) :
    server.frame item = (server.fieldLines item).flatMap (· ++ ['\n']) ++ ['\n'] := by
  have hbreaks : "\n\n".toList = ['\n'] ++ ['\n'] := by decide
  have hdata : "\ndata: ".toList = ['\n'] ++ "data: ".toList := by decide
  cases item with
  | heartbeat => rfl
  | snapshot value =>
    rw [frame_snapshot, fieldLines_snapshot, hbreaks]
    simp only [List.flatMap_cons, List.flatMap_nil, List.append_assoc, List.append_nil]
  | event n =>
    rw [frame_event, fieldLines_event, hbreaks, hdata]
    simp only [List.flatMap_cons, List.flatMap_nil, List.append_assoc, List.append_nil]

theorem fieldLines_plain {item : Item} {line : Text} (h : line ∈ server.fieldLines item) : '\n' ∉ line := by
  have hdata (v : JsValue) : '\n' ∉ "data: ".toList ++ server.dumps v := by
    refine List.not_mem_append (by decide) (server.plain v).left
  cases item with
  | heartbeat =>
    rw [List.mem_singleton.mp h]
    decide
  | snapshot value =>
    rw [List.mem_singleton.mp h]
    exact hdata value
  | event n =>
    rcases List.mem_cons.mp h with rfl | hline
    · exact List.not_mem_append (by decide) (notMem_decimal (by decide))
    · rw [List.mem_singleton.mp hline]
      exact hdata (server.log n)

theorem takeLines_fieldLines (item : Item) (eventId : Option Text) :
    (SseFields.takeLines ⟨[], eventId⟩ (server.fieldLines item)).2 = [] ∧
      ((SseFields.takeLines ⟨[], eventId⟩ (server.fieldLines item)).1.takeLine []) =
        (⟨[], item.eventId eventId⟩, server.messages eventId [item]) := by
  cases item with
  | heartbeat => exact ⟨rfl, rfl⟩
  | snapshot value =>
    simp only [fieldLines_snapshot, SseFields.takeLines, takeLine_data (server.plain value).right]
    exact ⟨rfl, rfl⟩
  | event n =>
    have hid : '\r' ∉ decimal n := notMem_decimal (by decide)
    have hnul : '\u0000' ∉ decimal n := notMem_decimal (by decide)
    simp only [fieldLines_event, SseFields.takeLines, takeLine_id hid hnul,
      takeLine_data (server.plain (server.log n)).right]
    exact ⟨rfl, rfl⟩

theorem push_fieldLines (item : Item) (eventId : Option Text) :
    (SseParser.push ⟨[], ⟨[], eventId⟩⟩ ((server.fieldLines item).flatMap (· ++ ['\n']))).2 = [] := by
  rw [SseParser.push, List.nil_append, Lines.split_lines fun line h => fieldLines_plain h]
  exact (takeLines_fieldLines item eventId).left

theorem push_frame (item : Item) (eventId : Option Text) :
    SseParser.push ⟨[], ⟨[], eventId⟩⟩ (server.frame item) =
      (⟨[], ⟨[], item.eventId eventId⟩⟩, server.messages eventId [item]) := by
  have hlines : (server.fieldLines item ++ [[]]).flatMap (· ++ ['\n']) = server.frame item := by
    rw [frame_eq, List.flatMap_append]
    rfl
  have hplain : ∀ line ∈ server.fieldLines item ++ [[]], '\n' ∉ line := by
    intro line hline
    rcases List.mem_append.mp hline with hfield | hblank
    · exact fieldLines_plain hfield
    · rw [List.mem_singleton.mp hblank]
      exact List.not_mem_nil
  obtain ⟨hnone, hblank⟩ : _ ∧ _ := @takeLines_fieldLines _ server item eventId
  have hsplit : Lines.split '\n' ([] ++ server.frame item) = (server.fieldLines item ++ [[]], []) := by
    rw [List.nil_append, ← hlines, Lines.split_lines hplain]
  rw [push_eq hsplit, takeLines_append, hnone, takeLines_cons, hblank]
  simp only [SseFields.takeLines, List.nil_append, List.append_nil]

/-! ## Streams -/

theorem messages_cons (eventId : Option Text) (item : Item) (items : List Item) :
    server.messages eventId (item :: items) = server.messages eventId [item] ++ server.messages (item.eventId eventId) items := by
  cases item <;> rfl

theorem eventMessage_mem (items : List Item) (eventId : Option Text) (n : Nat) :
    server.eventMessage n ∈ server.messages eventId (items ++ [.event n]) := by
  induction items generalizing eventId with
  | nil => exact List.mem_singleton_self _
  | cons item items ih =>
    rw [List.cons_append, messages_cons]
    exact List.mem_append_right _ (ih (item.eventId eventId))

theorem push_encode (items : List Item) (eventId : Option Text) :
    (SseParser.push ⟨[], ⟨[], eventId⟩⟩ (server.encode items)).2 = server.messages eventId items := by
  induction items generalizing eventId with
  | nil => rfl
  | cons item items ih =>
    rw [messages_cons, Server.encode, List.flatMap_cons, push_append, push_frame]
    exact congrArg _ (ih _)

theorem push_prefix {text whole : Text} (h : text <+: whole) (parser : SseParser) :
    (parser.push text).2 <+: (parser.push whole).2 := by
  obtain ⟨rest, rfl⟩ := h
  rw [push_append]
  exact List.prefix_append _ _

theorem push_encode_start {items : List Item} {eventId : Option Text} (h : text <+: server.encode items) :
    ∃ taken, taken <+: items ∧ (SseParser.push ⟨[], ⟨[], eventId⟩⟩ text).2 = server.messages eventId taken := by
  induction items generalizing text eventId with
  | nil =>
    rw [List.prefix_nil.mp h]
    exact ⟨[], List.prefix_rfl, rfl⟩
  | cons item items ih =>
    rw [Server.encode, List.flatMap_cons] at h
    rcases List.prefix_or_prefix_of_prefix h (List.prefix_append _ _) with hcut | hwhole
    · rw [frame_eq] at hcut
      rcases List.prefix_concat_iff.mp hcut with hframe | hfields
      · refine ⟨[item], List.prefix_append [item] items, ?_⟩
        rw [hframe, ← frame_eq, push_frame]
      · refine ⟨[], List.nil_prefix, ?_⟩
        have hnone := push_prefix hfields ⟨[], ⟨[], eventId⟩⟩
        rw [push_fieldLines] at hnone
        exact List.prefix_nil.mp hnone
    · obtain ⟨rest, rfl⟩ := hwhole
      have hrest : rest <+: server.encode items := (List.prefix_append_right_inj _).mp h
      obtain ⟨taken, htaken, hmessages⟩ := @ih rest (item.eventId eventId) hrest
      refine ⟨item :: taken, (List.prefix_cons_inj item).mpr htaken, ?_⟩
      rw [push_append, push_frame, messages_cons eventId item taken]
      exact congrArg _ hmessages

end PduExamObserver.Web
