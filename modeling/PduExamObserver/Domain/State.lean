import PduExamObserver.WireContracts

/-! # The session state machine

`transition` of `domain/state.py`. Only the four lifecycle actions exist; repeating the last one is
accepted and changes nothing. -/

namespace PduExamObserver.Domain
set_option autoImplicit false

/-- `InvalidTransition`, with its message. -/
structure InvalidTransition where
  message : String
  deriving DecidableEq, Repr

def transition (current : SessionState) (action : String) : Except InvalidTransition SessionState :=
  match current, action with
  | .draft, "consent" => .ok .consentConfirmed
  | .consentConfirmed, "preflight" => .ok .preflightReady
  | .preflightReady, "start" => .ok .recording
  | .recording, "stop" => .ok .sealed
  | .consentConfirmed, "consent" => .ok current
  | .preflightReady, "preflight" => .ok current
  | .recording, "start" => .ok current
  | .sealed, "stop" => .ok current
  | _, _ => .error ⟨s!"Cannot {action} session in {current.value} state"⟩

end PduExamObserver.Domain
