import PduExamObserver.Web.Delivery

/-! # Reading back what the server writes

`SseParser` against the encoding of `stream_events`, for a body that breaks off anywhere. -/

namespace PduExamObserver.Web
set_option autoImplicit false

variable {runtime : Runtime} {server : Server runtime}

/-- However the body is cut into chunks and wherever it ends: the parser hands out messages of the items in their order,
at least those whose frames arrived whole, and all of them when the body did. -/
theorem pushAll_encode (items : List Item) (eventId : Option Text) (chunks : List Text)
    (h : chunks.flatten <+: server.encode items) :
    (SseParser.pushAll ⟨[], ⟨[], eventId⟩⟩ chunks).2 <+: server.messages eventId items ∧
      ∀ whole, server.encode whole <+: chunks.flatten →
        server.messages eventId whole <+: (SseParser.pushAll ⟨[], ⟨[], eventId⟩⟩ chunks).2 := by
  rw [pushAll_eq chunks List.not_mem_nil]
  constructor
  · have hall := push_prefix h ⟨[], ⟨[], eventId⟩⟩
    rwa [push_encode] at hall
  · intro whole hwhole
    have hread := push_prefix hwhole ⟨[], ⟨[], eventId⟩⟩
    rwa [push_encode] at hread

/-- Two events, the second one without its last line break. -/
theorem pushAll_encode_broken : ∃ body, body <+: Sample.examServer.encode [.event 1, .event 2] ∧
    (SseParser.pushAll ⟨[], ⟨[], none⟩⟩ [body]).2 <+: Sample.examServer.messages none [.event 1, .event 2] ∧
      Sample.examServer.messages none [.event 1] <+: (SseParser.pushAll ⟨[], ⟨[], none⟩⟩ [body]).2 := by
  have hbody : [(Sample.examServer.encode [.event 1, .event 2]).dropLast].flatten <+:
      Sample.examServer.encode [.event 1, .event 2] := by
    rw [List.flatten_singleton]
    exact List.dropLast_prefix _
  have hfirst : Sample.examServer.encode [.event 1] <+:
      [(Sample.examServer.encode [.event 1, .event 2]).dropLast].flatten := by decide +kernel
  obtain ⟨hsent, hread⟩ := pushAll_encode _ none _ hbody
  exact ⟨_, List.dropLast_prefix _, hsent, hread _ hfirst⟩

end PduExamObserver.Web
