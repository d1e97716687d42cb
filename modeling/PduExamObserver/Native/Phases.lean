import PduExamObserver.Native.Monitor

/-! # The phases that a worker reports

What a message says, apart from its text, and the loop of the monitor as a machine on phases: it ends with
a receipt exactly when it has heard phases that it accepts, each in time. -/

namespace PduExamObserver.Native
set_option autoImplicit false

/-! ## Phases -/

inductive Phase where
  | authorized
  | privacyReady
  | captureStarting (ns : Int)
  | firstFrame (ns : Int)
  | captureClosed (ns : Int)
  | receipt (payload : Dict)

def Phase.event : Phase → String
  | .authorized => "AUTHORIZED"
  | .privacyReady => "PRIVACY_READY"
  | .captureStarting _ => "CAPTURE_STARTING"
  | .firstFrame _ => "FIRST_FRAME"
  | .captureClosed _ => "CAPTURE_CLOSED"
  | .receipt _ => "RECEIPT"

variable {watch : Watch} {turn : Turn} {state state' final : MonitorState} {phase : Phase}
  {message payload : Dict} {ns : Int}

def Phase.Fits (watch : Watch) (message : Dict) : Phase → Prop
  | .authorized => message.HasKeys messageKeys ∧ ∃ evidence : Dict, message.get "payload" = .dict evidence
      ∧ evidence.HasKeys ["grant_id"] ∧ evidence.get "grant_id" = .str watch.grantId
  | .privacyReady => message.HasKeys ["event", "challenge_digest"]
  | .captureStarting ns | .firstFrame ns | .captureClosed ns =>
    message.HasKeys messageKeys ∧ workerMonotonicNs (message.get "payload") = some ns
  | .receipt payload => message.HasKeys messageKeys ∧ message.get "payload" = .dict payload

def Says (watch : Watch) (message : Dict) (phase : Phase) : Prop :=
  message.get "challenge_digest" = .str watch.challengeDigest
    ∧ message.get "event" = .str phase.event
    ∧ phase.Fits watch message

def LineSays (watch : Watch) (line : Line) (phase : Phase) : Prop :=
  ∃ message, strictWorkerMessage watch.loads line = .ok message ∧ Says watch message phase

def Phase.step (turn : Turn) (state : MonitorState) : Phase → Option MonitorState
  | .authorized =>
    if state.authorized ∨ state.firstFrame then none
    else some { state with authorized := true, deadline := turn.now + workerPrivacyReadyTimeout }
  | .privacyReady =>
    if !state.authorized ∨ state.privacyReady ∨ state.captureStarting ∨ state.firstFrame then none
    else some { state with privacyReady := true, deadline := turn.now + workerDeviceSetupTimeout }
  | .captureStarting ns =>
    if !state.privacyReady ∨ state.captureStarting ∨ state.firstFrame ∨ ns ≤ 0 ∨ ns > turn.observedNs then none
    else some { state with
      captureStartingNs := some ns, captureStarting := true
      deadline := secondsOfNs ns + workerFirstFrameTimeout }
  | .firstFrame ns =>
    if !state.authorized ∨ !state.privacyReady ∨ !state.captureStarting ∨ state.firstFrame ∨ ns ≤ 0
        ∨ ns > turn.observedNs ∨ !state.captureStartingNs.any (· ≤ ns) then none
    else some { state with
      firstFrameNs := some ns, firstFrame := true, deadline := secondsOfNs ns + workerCaptureTimeout
      timedOut := decide (secondsOfNs ns + workerCaptureTimeout ≤ turn.now) }
  | .captureClosed ns =>
    if !state.authorized ∨ !state.privacyReady ∨ !state.captureStarting ∨ state.captureClosed ∨ ns ≤ 0
        ∨ !state.captureStartingNs.any (· ≤ ns) ∨ ns > turn.observedNs
        ∨ state.firstFrameNs.any (fun first => ns < first ∨ ns - first > captureLimitNs) then none
    else some { state with captureClosed := true, deadline := turn.now + workerReportTimeout }
  | .receipt payload => some { state with payload := some payload }

theorem Value.eq_str {value : Value} {s : String} : value.eq (.str s) = true ↔ value = .str s := by
  cases value <;> simp [Value.eq, Value.isNone, Value.number, Value.str?]
  exact eq_comm

theorem Value.str?_eq_some {value : Value} {s : String} : value.str? = some s ↔ value = .str s := by
  cases value <;> simp [Value.str?]

theorem Value.dict?_eq_some {value : Value} {d : Dict} : value.dict? = some d ↔ value = .dict d := by
  cases value <;> simp [Value.dict?]

def Phase.handle (watch : Watch) (turn : Turn) (message : Dict) (state : MonitorState) : Phase → MonitorState
  | .authorized => onAuthorized watch turn message state
  | .privacyReady => onPrivacyReady turn message state
  | .captureStarting _ => onCaptureStarting turn message state
  | .firstFrame _ => onFirstFrame turn message state
  | .captureClosed _ => onCaptureClosed turn message state
  | .receipt _ => onReceipt message state

theorem handle_eq_of_step (hfits : phase.Fits watch message) (hstep : phase.step turn state = some state') :
    phase.handle watch turn message state = state' := by
  cases phase with
  | authorized =>
    obtain ⟨hkeys, evidence, hevidence, hgrant, hid⟩ := hfits
    obtain ⟨hopen, hstep⟩ := of_ite_ne hstep nofun
    obtain rfl := Option.some.inj hstep
    simp only [Phase.handle, onAuthorized, hevidence, Value.dict?]
    refine if_neg ?_
    simpa [hkeys, hgrant, hid, Value.eq_str] using hopen
  | privacyReady =>
    obtain ⟨hopen, hstep⟩ := of_ite_ne hstep nofun
    obtain rfl := Option.some.inj hstep
    refine if_neg ?_
    simpa [show message.HasKeys _ from hfits] using hopen
  | captureStarting ns =>
    obtain ⟨hkeys, hns⟩ := hfits
    obtain ⟨hopen, hstep⟩ := of_ite_ne hstep nofun
    obtain rfl := Option.some.inj hstep
    simp only [not_or] at hopen
    obtain ⟨hready, hstarting, hfirst, hpos, hobserved⟩ := hopen
    simp only [Phase.handle, onCaptureStarting, hns]
    rw [if_neg (by simp [hkeys, hready, hstarting, hfirst]), if_neg (by simp [hpos, hobserved])]
  | firstFrame ns =>
    obtain ⟨hkeys, hns⟩ := hfits
    obtain ⟨hopen, hstep⟩ := of_ite_ne hstep nofun
    obtain rfl := Option.some.inj hstep
    simp only [not_or] at hopen
    obtain ⟨hauthorized, hready, hstarting, hfirst, hpos, hobserved, hlater⟩ := hopen
    cases hstart : state.captureStartingNs with
    | none => simp [hstart] at hlater
    | some startingNs =>
      have hle : ¬ ns < startingNs := by simpa [hstart] using hlater
      simp only [Phase.handle, onFirstFrame, hstart, hns]
      rw [if_neg (by simp [hkeys, hauthorized, hready, hstarting, hfirst]), if_neg (by simp [hpos, hobserved, hle])]
  | captureClosed ns =>
    obtain ⟨hkeys, hns⟩ := hfits
    obtain ⟨hopen, hstep⟩ := of_ite_ne hstep nofun
    obtain rfl := Option.some.inj hstep
    simp only [not_or] at hopen
    obtain ⟨hauthorized, hready, hstarting, hclosed, hpos, hlater, hobserved, hwithin⟩ := hopen
    cases hstart : state.captureStartingNs with
    | none => simp [hstart] at hlater
    | some startingNs =>
      have hle : ¬ ns < startingNs := by simpa [hstart] using hlater
      simp only [Phase.handle, onCaptureClosed, hstart, hns]
      rw [if_neg (by simp [hkeys, hauthorized, hready, hstarting, hclosed]),
        if_neg (by simp only [not_or]; exact ⟨hpos, hle, hobserved, hwithin⟩)]
  | receipt payload =>
    obtain ⟨hkeys, hpayload⟩ := hfits
    obtain rfl := Option.some.inj hstep
    simp only [Phase.handle, onReceipt, hpayload, Value.dict?, hkeys, if_true]

theorem step_of_onAuthorized (h : (onAuthorized watch turn message state).malformed = false) :
    Phase.authorized.Fits watch message
      ∧ Phase.authorized.step turn state = some (onAuthorized watch turn message state) := by
  unfold onAuthorized at h ⊢
  cases hpayload : (message.get "payload").dict? with
  | none => simp [hpayload, MonitorState.reject] at h
  | some evidence =>
    simp only [hpayload] at h ⊢
    split at h
    · cases h
    · next hopen =>
      simp only [not_or, not_not] at hopen
      obtain ⟨hkeys, hauthorized, hfirst, hgrant, hid⟩ := hopen
      refine ⟨⟨hkeys, evidence, Value.dict?_eq_some.mp hpayload, hgrant, ?_⟩, ?_⟩
      · simpa [Value.eq_str] using hid
      · rw [if_neg (by simp_all)]
        exact if_neg (by simp_all)

theorem step_of_onPrivacyReady (h : (onPrivacyReady turn message state).malformed = false) :
    Phase.privacyReady.Fits watch message
      ∧ Phase.privacyReady.step turn state = some (onPrivacyReady turn message state) := by
  unfold onPrivacyReady at h ⊢
  split at h
  · cases h
  · next hopen =>
    simp only [not_or, not_not] at hopen
    obtain ⟨hkeys, hopen⟩ := hopen
    refine ⟨hkeys, ?_⟩
    rw [if_neg (by simp only [not_or]; exact ⟨not_not.mpr hkeys, hopen⟩)]
    exact if_neg (by simp only [not_or]; exact hopen)

theorem step_of_onCaptureStarting (h : (onCaptureStarting turn message state).malformed = false) :
    ∃ ns, (Phase.captureStarting ns).Fits watch message
      ∧ (Phase.captureStarting ns).step turn state = some (onCaptureStarting turn message state) := by
  unfold onCaptureStarting at h ⊢
  split at h
  · cases h
  · next hopen =>
    simp only [not_or, not_not] at hopen
    obtain ⟨hkeys, hready, hstarting, hfirst⟩ := hopen
    cases hns : workerMonotonicNs (message.get "payload") with
    | none =>
      rw [hns] at h
      cases h
    | some ns =>
      simp only [hns] at h ⊢
      split at h
      · cases h
      · next hinside =>
        refine ⟨ns, ⟨hkeys, hns⟩, ?_⟩
        rw [if_neg (by simp [hkeys, hready, hstarting, hfirst]), if_neg hinside]
        exact if_neg (by simp only [not_or] at hinside ⊢; exact ⟨hready, hstarting, hfirst, hinside⟩)

theorem step_of_onFirstFrame (h : (onFirstFrame turn message state).malformed = false) :
    ∃ ns, (Phase.firstFrame ns).Fits watch message
      ∧ (Phase.firstFrame ns).step turn state = some (onFirstFrame turn message state) := by
  unfold onFirstFrame at h ⊢
  cases hstart : state.captureStartingNs with
  | none =>
    simp only [hstart] at h
    cases h
  | some startingNs =>
    cases hns : workerMonotonicNs (message.get "payload") with
    | none =>
      simp only [hstart, hns] at h
      cases h
    | some ns =>
      simp only [hstart, hns] at h ⊢
      split at h
      · cases h
      · next hopen =>
        split at h
        · cases h
        · next hinside =>
          simp only [not_or, not_not] at hopen hinside
          obtain ⟨hkeys, hauthorized, hready, hstarting, hfirst⟩ := hopen
          obtain ⟨hpos, hobserved, hle⟩ := hinside
          refine ⟨ns, ⟨hkeys, hns⟩, ?_⟩
          rw [if_neg (by simp [hkeys, hauthorized, hready, hstarting, hfirst]),
            if_neg (by simp only [not_or]; exact ⟨hpos, hobserved, hle⟩)]
          refine (if_neg ?_).trans (by rw [hstart])
          simp only [not_or, hstart]
          exact ⟨hauthorized, hready, hstarting, hfirst, hpos, hobserved, by simpa using hle⟩

theorem step_of_onCaptureClosed (h : (onCaptureClosed turn message state).malformed = false) :
    ∃ ns, (Phase.captureClosed ns).Fits watch message
      ∧ (Phase.captureClosed ns).step turn state = some (onCaptureClosed turn message state) := by
  unfold onCaptureClosed at h ⊢
  cases hstart : state.captureStartingNs with
  | none =>
    simp only [hstart] at h
    cases h
  | some startingNs =>
    cases hns : workerMonotonicNs (message.get "payload") with
    | none =>
      simp only [hstart, hns] at h
      cases h
    | some ns =>
      simp only [hstart, hns] at h ⊢
      split at h
      · cases h
      · next hopen =>
        split at h
        · cases h
        · next hinside =>
          simp only [not_or, not_not] at hopen hinside
          obtain ⟨hkeys, hauthorized, hready, hstarting, hclosed⟩ := hopen
          obtain ⟨hpos, hle, hobserved, hwithin⟩ := hinside
          refine ⟨ns, ⟨hkeys, hns⟩, ?_⟩
          rw [if_neg (by simp [hkeys, hauthorized, hready, hstarting, hclosed]),
            if_neg (by simp only [not_or]; exact ⟨hpos, hle, hobserved, hwithin⟩)]
          refine (if_neg ?_).trans (by rw [hstart])
          simp only [not_or, hstart]
          exact ⟨hauthorized, hready, hstarting, hclosed, hpos, by simpa using hle, hobserved, hwithin⟩

theorem step_of_onReceipt (h : (onReceipt message state).malformed = false) :
    ∃ payload, (Phase.receipt payload).Fits watch message
      ∧ (Phase.receipt payload).step turn state = some (onReceipt message state) := by
  unfold onReceipt at h ⊢
  cases hpayload : (message.get "payload").dict? with
  | none =>
    rw [hpayload] at h
    cases h
  | some payload =>
    simp only [hpayload] at h ⊢
    by_cases hkeys : message.HasKeys messageKeys
    · exact ⟨payload, ⟨hkeys, Value.dict?_eq_some.mp hpayload⟩, by rw [if_pos hkeys]; rfl⟩
    · rw [if_neg hkeys] at h
      cases h

/-! ## Messages and lines -/

theorem handleMessage_eq (htells : Says watch message phase) (hstep : phase.step turn state = some state') :
    handleMessage watch turn message state = state' := by
  obtain ⟨hdigest, hevent, hfits⟩ := htells
  have hhandle := handle_eq_of_step hfits hstep
  simp only [handleMessage, hdigest, Value.eq_str.mpr, Bool.not_true, Bool.false_eq_true, if_false, hevent, Value.str?]
  cases phase <;> exact hhandle

theorem says_of_handleMessage (h : (handleMessage watch turn message state).malformed = false) :
    ∃ phase, Says watch message phase ∧ phase.step turn state = some (handleMessage watch turn message state) := by
  unfold handleMessage at h ⊢
  split at h
  · cases h
  · next hdigest =>
    rw [if_neg hdigest]
    have hdigest : message.get "challenge_digest" = .str watch.challengeDigest := by
      simpa [Value.eq_str] using hdigest
    split at h
    · next hevent =>
      obtain ⟨hfits, hstep⟩ := step_of_onAuthorized h
      exact ⟨.authorized, ⟨hdigest, Value.str?_eq_some.mp hevent, hfits⟩, hstep⟩
    · next hevent =>
      obtain ⟨hfits, hstep⟩ := step_of_onPrivacyReady h
      exact ⟨.privacyReady, ⟨hdigest, Value.str?_eq_some.mp hevent, hfits⟩, hstep⟩
    · next hevent =>
      obtain ⟨ns, hfits, hstep⟩ := step_of_onCaptureStarting h
      exact ⟨.captureStarting ns, ⟨hdigest, Value.str?_eq_some.mp hevent, hfits⟩, hstep⟩
    · next hevent =>
      obtain ⟨ns, hfits, hstep⟩ := step_of_onFirstFrame h
      exact ⟨.firstFrame ns, ⟨hdigest, Value.str?_eq_some.mp hevent, hfits⟩, hstep⟩
    · next hevent =>
      obtain ⟨ns, hfits, hstep⟩ := step_of_onCaptureClosed h
      exact ⟨.captureClosed ns, ⟨hdigest, Value.str?_eq_some.mp hevent, hfits⟩, hstep⟩
    · next hevent =>
      obtain ⟨payload, hfits, hstep⟩ := step_of_onReceipt h
      exact ⟨.receipt payload, ⟨hdigest, Value.str?_eq_some.mp hevent, hfits⟩, hstep⟩
    · cases h

theorem receiveLine_eq {line : Line} (htells : LineSays watch line phase) (hstep : phase.step turn state = some state') :
    receiveLine watch turn line state = .ok state' := by
  obtain ⟨message, hread, htells⟩ := htells
  simp only [receiveLine, hread, handleMessage_eq htells hstep]

theorem lineSays_of_receiveLine {line : Line} (h : receiveLine watch turn line state = .ok state')
    (haccepted : state'.malformed = false) : ∃ phase, LineSays watch line phase ∧ phase.step turn state = some state' := by
  unfold receiveLine at h
  split at h
  · next message hread =>
    obtain rfl := Except.ok.inj h
    obtain ⟨phase, htells, hstep⟩ := says_of_handleMessage haccepted
    exact ⟨phase, ⟨message, hread, htells⟩, hstep⟩
  · obtain rfl := Except.ok.inj h
    cases haccepted
  · obtain rfl := Except.ok.inj h
    cases haccepted
  · cases h

/-! ## The loop -/

structure MonitorState.Accepting (state : MonitorState) : Prop where
  payload : state.payload.isSome = true
  intact : state.malformed = false
  inTime : state.timedOut = false

inductive Heard (watch : Watch) : List Turn → MonitorState → MonitorState → Prop
  | receipt {turn : Turn} {turns : List Turn} {state : MonitorState} {line : Line} {payload : Dict} :
    turn.head < state.deadline → turn.got = .line line → LineSays watch line (.receipt payload) →
      Heard watch (turn :: turns) state { state with payload := some payload }
  | phase {turn : Turn} {turns : List Turn} {state state' final : MonitorState} {line : Line} {phase : Phase} :
    turn.head < state.deadline → turn.got = .line line → LineSays watch line phase →
      phase.step turn state = some state' → state'.running = true → Heard watch turns state' final →
      Heard watch (turn :: turns) state final

theorem running_iff :
    state.running = true ↔ state.payload = none ∧ state.malformed = false ∧ state.timedOut = false := by
  simp [MonitorState.running, and_assoc]

theorem MonitorState.Accepting.not_running (h : state.Accepting) : ¬ state.running = true := by
  intro hrunning
  have hsome := h.payload
  rw [(running_iff.mp hrunning).1] at hsome
  cases hsome

theorem step_payload (hstep : phase.step turn state = some state') (hphase : phase.event ≠ "RECEIPT") :
    state'.payload = state.payload := by
  cases phase with
  | receipt payload => exact absurd rfl hphase
  | authorized | privacyReady | captureStarting | firstFrame | captureClosed =>
    obtain ⟨-, hstep⟩ := of_ite_ne hstep nofun
    obtain rfl := Option.some.inj hstep
    rfl

theorem heard_of_monitorLoop {turns : List Turn} (h : monitorLoop watch turns state = .ok final)
    (hopen : state.running = true) (haccepting : final.Accepting) : Heard watch turns state final := by
  induction turns generalizing state with
  | nil =>
    obtain rfl := Except.ok.inj h
    exact absurd haccepting.inTime nofun
  | cons turn turns ih =>
    unfold monitorLoop at h
    split at h
    · obtain rfl := Except.ok.inj h
      exact absurd haccepting.inTime nofun
    · next hhead =>
      have hhead : turn.head < state.deadline := by linarith
      split at h
      · obtain rfl := Except.ok.inj h
        exact absurd haccepting.inTime nofun
      · obtain rfl := Except.ok.inj h
        exact absurd hopen haccepting.not_running
      · next line hgot =>
        obtain ⟨state', hreceive, h⟩ := bind_ok_iff.mp h
        by_cases hrunning : state'.running = true
        · rw [if_pos hrunning] at h
          obtain ⟨phase, htells, hstep⟩ := lineSays_of_receiveLine hreceive (running_iff.mp hrunning).2.1
          exact .phase hhead hgot htells hstep hrunning (ih h hrunning)
        · rw [if_neg hrunning] at h
          obtain rfl := Except.ok.inj h
          obtain ⟨phase, htells, hstep⟩ := lineSays_of_receiveLine hreceive haccepting.intact
          cases phase with
          | receipt payload =>
            obtain rfl := Option.some.inj hstep
            exact .receipt hhead hgot htells
          | authorized | privacyReady | captureStarting | firstFrame | captureClosed =>
            have hpayload := step_payload hstep (by simp [Phase.event])
            have hsome := haccepting.payload
            rw [hpayload, (running_iff.mp hopen).1] at hsome
            cases hsome

theorem monitorLoop_of_heard {turns : List Turn} (h : Heard watch turns state final) (hopen : state.running = true) :
    monitorLoop watch turns state = .ok final := by
  induction h with
  | @receipt turn turns state line payload hhead hgot htells =>
    have hreceive : receiveLine watch turn line state = .ok _ := receiveLine_eq htells rfl
    have hlate : ¬ state.deadline - turn.head ≤ 0 := by linarith
    simp only [monitorLoop, hlate, if_false, hgot, hreceive, ok_bind]
    rfl
  | @phase turn turns state state' final line phase hhead hgot htells hstep hrunning hrest ih =>
    have hlate : ¬ state.deadline - turn.head ≤ 0 := by linarith
    simp only [monitorLoop, hlate, if_false, hgot, receiveLine_eq htells hstep, ok_bind, hrunning, if_true]
    exact ih hrunning

end PduExamObserver.Native
