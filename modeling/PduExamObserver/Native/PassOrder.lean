import PduExamObserver.Native.PassReceipts
import PduExamObserver.Native.Phases
import PduExamObserver.Native.Worker

/-! # The order of the phases of a pass

The two orders of lines after which `_run_windows_capture_worker` can return a pass: the one that the
protocol means, and the one in which the first frame is reported after the capture was closed. -/

namespace PduExamObserver.Native
open Authority
set_option autoImplicit false

section Order

variable {rt : Runtime} {watch : Watch} {turn : Turn} {state state' final : MonitorState} {phase : Phase}
  {payload : Dict} {ns : Int}

/-! ## The two orders of a pass -/

def TurnSays (watch : Watch) (turn : Turn) (phase : Phase) : Prop :=
  ∃ line, turn.got = .line line ∧ LineSays watch line phase

def linesOf (turns : List Turn) : List Line :=
  turns.filterMap fun turn => match turn.got with
    | .line line => some line
    | _ => none

/-- Up to the receipt the lines are the six phases, each once and in their order, with the times of the
capture in order and within its limit. -/
def PhasesInOrder (watch : Watch) (lines : List Line) : Prop :=
  ∃ t₁ t₂ t₃ payload first rest, lines = first ++ rest
    ∧ List.Forall₂ (LineSays watch) first
        [.authorized, .privacyReady, .captureStarting t₁, .firstFrame t₂, .captureClosed t₃, .receipt payload]
    ∧ 0 < t₁ ∧ t₁ ≤ t₂ ∧ t₂ ≤ t₃ ∧ t₃ ≤ t₂ + captureLimitNs

def FrameAfterClose (watch : Watch) (run : WorkerRun) (payload : Dict) : Prop :=
  ∃ a p s c f r rest t₁ t₂ t₃, run.turns = a :: p :: s :: c :: f :: r :: rest
    ∧ TurnSays watch a .authorized ∧ a.head < run.start + workerAuthorizationTimeout
    ∧ TurnSays watch p .privacyReady ∧ p.head < a.now + workerPrivacyReadyTimeout
    ∧ TurnSays watch s (.captureStarting t₁) ∧ s.head < p.now + workerDeviceSetupTimeout
    ∧ 0 < t₁ ∧ t₁ ≤ s.observedNs
    ∧ TurnSays watch c (.captureClosed t₃) ∧ c.head < secondsOfNs t₁ + workerFirstFrameTimeout
    ∧ t₁ ≤ t₃ ∧ t₃ ≤ c.observedNs
    ∧ TurnSays watch f (.firstFrame t₂) ∧ f.head < c.now + workerReportTimeout
    ∧ t₁ ≤ t₂ ∧ t₂ ≤ f.observedNs ∧ f.now < secondsOfNs t₂ + workerCaptureTimeout
    ∧ TurnSays watch r (.receipt payload) ∧ r.head < secondsOfNs t₂ + workerCaptureTimeout

structure MonitorState.Complete (state : MonitorState) : Prop where
  authorized : state.authorized = true
  privacyReady : state.privacyReady = true
  captureStarting : state.captureStarting = true
  firstFrame : state.firstFrame = true
  captureClosed : state.captureClosed = true

/-- From `state` the loop hears phases until a complete state. -/
structure Hears (watch : Watch) (turns : List Turn) (state final : MonitorState) : Prop where
  running : state.running = true
  heard : Heard watch turns state final
  complete : final.Complete

variable {turns : List Turn}

/-- A line that comes before the deadline of `state`. -/
def Arrives (watch : Watch) (turn : Turn) (state : MonitorState) (phase : Phase) : Prop :=
  turn.head < state.deadline ∧ TurnSays watch turn phase

theorem Hears.next (h : Hears watch turns state final) (hmissing : ¬ state.Complete) :
    ∃ turn rest phase state', turns = turn :: rest ∧ Arrives watch turn state phase ∧ phase.event ≠ "RECEIPT"
      ∧ phase.step turn state = some state' ∧ Hears watch rest state' final := by
  obtain ⟨-, hheard, hcomplete⟩ := h
  cases hheard with
  | receipt hhead hgot htells =>
    exact absurd ⟨hcomplete.authorized, hcomplete.privacyReady, hcomplete.captureStarting, hcomplete.firstFrame,
      hcomplete.captureClosed⟩ hmissing
  | @phase turn turns _ state' _ line phase hhead hgot htells hstep hrunning hrest =>
    refine ⟨turn, turns, phase, state', rfl, ⟨hhead, line, hgot, htells⟩, ?_, hstep, hrunning, hrest, hcomplete⟩
    rintro hevent
    cases phase with
    | receipt payload =>
      obtain rfl := Option.some.inj hstep
      simp [MonitorState.running] at hrunning
    | authorized | privacyReady | captureStarting | firstFrame | captureClosed => simp [Phase.event] at hevent

theorem Hears.last (h : Hears watch turns state final) (hcomplete : state.Complete) :
    ∃ turn rest payload, turns = turn :: rest ∧ Arrives watch turn state (.receipt payload)
      ∧ final = { state with payload := some payload } := by
  obtain ⟨-, hheard, -⟩ := h
  cases hheard with
  | receipt hhead hgot htells => exact ⟨_, _, _, rfl, ⟨hhead, _, hgot, htells⟩, rfl⟩
  | @phase turn turns _ state' _ line phase hhead hgot htells hstep hrunning hrest =>
    cases phase with
    | receipt payload =>
      obtain rfl := Option.some.inj hstep
      simp [MonitorState.running] at hrunning
    | authorized | privacyReady | captureStarting | firstFrame | captureClosed =>
      obtain ⟨hopen, -⟩ := of_ite_ne hstep (by simp)
      simp [hcomplete.authorized, hcomplete.privacyReady, hcomplete.captureStarting, hcomplete.firstFrame,
        hcomplete.captureClosed] at hopen

theorem Hears.authorized (h : Hears watch turns state final) (hauthorized : state.authorized = false)
    (hready : state.privacyReady = false) :
    ∃ turn rest, turns = turn :: rest ∧ Arrives watch turn state .authorized
      ∧ Hears watch rest { state with authorized := true, deadline := turn.now + workerPrivacyReadyTimeout } final := by
  obtain ⟨turn, rest, phase, state', hturns, harrives, hevent, hstep, hrest⟩ :=
    h.next fun hc => nomatch hauthorized.symm.trans hc.authorized
  refine ⟨turn, rest, hturns, ?_⟩
  cases phase with
  | receipt payload => exact absurd rfl hevent
  | authorized =>
    obtain rfl := Option.some.inj (of_ite_ne hstep nofun).2
    exact ⟨harrives, hrest⟩
  | privacyReady | captureStarting | firstFrame | captureClosed =>
    have hopen := (of_ite_ne hstep nofun).1
    simp [hauthorized, hready] at hopen

theorem Hears.privacyReady (h : Hears watch turns state final) (hauthorized : state.authorized = true)
    (hready : state.privacyReady = false) :
    ∃ turn rest, turns = turn :: rest ∧ Arrives watch turn state .privacyReady
      ∧ Hears watch rest { state with privacyReady := true, deadline := turn.now + workerDeviceSetupTimeout } final := by
  obtain ⟨turn, rest, phase, state', hturns, harrives, hevent, hstep, hrest⟩ :=
    h.next fun hc => nomatch hready.symm.trans hc.privacyReady
  refine ⟨turn, rest, hturns, ?_⟩
  cases phase with
  | receipt payload => exact absurd rfl hevent
  | privacyReady =>
    obtain rfl := Option.some.inj (of_ite_ne hstep nofun).2
    exact ⟨harrives, hrest⟩
  | authorized | captureStarting | firstFrame | captureClosed =>
    have hopen := (of_ite_ne hstep nofun).1
    simp [hauthorized, hready] at hopen

theorem Hears.captureStarting (h : Hears watch turns state final) (hauthorized : state.authorized = true)
    (hready : state.privacyReady = true) (hstarting : state.captureStarting = false) :
    ∃ turn rest ns, turns = turn :: rest ∧ Arrives watch turn state (.captureStarting ns)
      ∧ 0 < ns ∧ ns ≤ turn.observedNs
      ∧ Hears watch rest
        { state with
          captureStartingNs := some ns, captureStarting := true
          deadline := secondsOfNs ns + workerFirstFrameTimeout }
        final := by
  obtain ⟨turn, rest, phase, state', hturns, harrives, hevent, hstep, hrest⟩ :=
    h.next fun hc => nomatch hstarting.symm.trans hc.captureStarting
  cases phase with
  | receipt payload => exact absurd rfl hevent
  | captureStarting ns =>
    obtain ⟨hopen, hstep⟩ := of_ite_ne hstep nofun
    obtain rfl := Option.some.inj hstep
    simp only [not_or, not_le, not_lt] at hopen
    exact ⟨turn, rest, ns, hturns, harrives, hopen.2.2.2.1, hopen.2.2.2.2, hrest⟩
  | authorized | privacyReady | firstFrame | captureClosed =>
    have hopen := (of_ite_ne hstep nofun).1
    simp [hauthorized, hready, hstarting] at hopen

theorem Hears.capture (h : Hears watch turns state final) (hauthorized : state.authorized = true)
    (hready : state.privacyReady = true) (hstarting : state.captureStarting = true)
    (hmissing : ¬ state.Complete) {start : Int} (hstart : state.captureStartingNs = some start) :
    ∃ turn rest ns, turns = turn :: rest ∧ 0 < ns ∧ start ≤ ns ∧ ns ≤ turn.observedNs ∧
      (state.firstFrame = false ∧ Arrives watch turn state (.firstFrame ns)
          ∧ Hears watch rest
            { state with
              firstFrameNs := some ns, firstFrame := true, deadline := secondsOfNs ns + workerCaptureTimeout
              timedOut := decide (secondsOfNs ns + workerCaptureTimeout ≤ turn.now) }
            final
        ∨ state.captureClosed = false ∧ Arrives watch turn state (.captureClosed ns)
          ∧ (∀ first ∈ state.firstFrameNs, first ≤ ns ∧ ns ≤ first + captureLimitNs)
          ∧ Hears watch rest { state with captureClosed := true, deadline := turn.now + workerReportTimeout } final) := by
  obtain ⟨turn, rest, phase, state', hturns, harrives, hevent, hstep, hrest⟩ := h.next hmissing
  cases phase with
  | receipt payload => exact absurd rfl hevent
  | authorized | privacyReady | captureStarting =>
    have hopen := (of_ite_ne hstep nofun).1
    simp [hauthorized, hready, hstarting] at hopen
  | firstFrame ns =>
    obtain ⟨hopen, hstep⟩ := of_ite_ne hstep nofun
    obtain rfl := Option.some.inj hstep
    simp only [not_or, not_le, not_lt, hstart, Option.any_some, Bool.not_eq_true', decide_eq_false_iff_not] at hopen
    obtain ⟨-, -, -, hfirst, hpos, hobserved, hle⟩ := hopen
    exact ⟨turn, rest, ns, hturns, hpos, by simpa using hle, hobserved, .inl ⟨by simpa using hfirst, harrives, hrest⟩⟩
  | captureClosed ns =>
    obtain ⟨hopen, hstep⟩ := of_ite_ne hstep nofun
    obtain rfl := Option.some.inj hstep
    simp only [not_or, not_le, not_lt, hstart, Option.any_some, Bool.not_eq_true', decide_eq_false_iff_not] at hopen
    obtain ⟨-, -, -, hclosed, hpos, hle, hobserved, hwithin⟩ := hopen
    refine ⟨turn, rest, ns, hturns, hpos, by simpa using hle, hobserved,
      .inr ⟨by simpa using hclosed, harrives, fun first hfirst => ?_, hrest⟩⟩
    rw [Option.mem_def.mp hfirst] at hwithin
    simp only [Option.any_some, decide_eq_true_eq, not_or, not_lt] at hwithin
    exact ⟨hwithin.1, by omega⟩

theorem linesOf_cons {line : Line} (h : turn.got = .line line) : linesOf (turn :: turns) = line :: linesOf turns := by
  rw [linesOf, List.filterMap_cons, h]
  rfl

theorem heard_orders {run : WorkerRun}
    (h : Hears watch run.turns { deadline := run.start + workerAuthorizationTimeout } final) :
    PhasesInOrder watch (linesOf run.turns) ∨ ∃ payload, final.payload = some payload ∧ FrameAfterClose watch run payload := by
  obtain ⟨a, rest, hturns, ⟨hahead, la, hagot, hasays⟩, h⟩ := h.authorized rfl rfl
  obtain ⟨p, rest, rfl, ⟨hphead, lp, hpgot, hpsays⟩, h⟩ := h.privacyReady rfl rfl
  obtain ⟨s, rest, t₁, rfl, ⟨hshead, ls, hsgot, hssays⟩, hpos, hsobserved, h⟩ := h.captureStarting rfl rfl rfl
  obtain ⟨x, rest, t, rfl, htpos, hle, hxobserved, hx⟩ := h.capture rfl rfl rfl (fun hc => nomatch hc.firstFrame) rfl
  rcases hx with ⟨-, ⟨hxhead, lx, hxgot, hxsays⟩, h⟩ | ⟨-, ⟨hxhead, lx, hxgot, hxsays⟩, -, h⟩
  · obtain ⟨y, rest, t₃, rfl, htpos', hle', hyobserved, hy⟩ := h.capture rfl rfl rfl (fun hc => nomatch hc.captureClosed) rfl
    rcases hy with ⟨hnot, -⟩ | ⟨-, ⟨hyhead, ly, hygot, hysays⟩, hwithin, h⟩
    · cases hnot
    · obtain ⟨r, rest, payload, rfl, ⟨hrhead, lr, hrgot, hrsays⟩, -⟩ := h.last ⟨rfl, rfl, rfl, rfl, rfl⟩
      obtain ⟨hfirst, hlimit⟩ := hwithin t rfl
      refine .inl ⟨t₁, t, t₃, payload, [la, lp, ls, lx, ly, lr], linesOf rest, ?_, ?_, hpos, hle, hfirst, hlimit⟩
      · rw [hturns, linesOf_cons hagot, linesOf_cons hpgot, linesOf_cons hsgot, linesOf_cons hxgot, linesOf_cons hygot,
          linesOf_cons hrgot]
        rfl
      · exact .cons hasays (.cons hpsays (.cons hssays (.cons hxsays (.cons hysays (.cons hrsays .nil)))))
  · obtain ⟨y, rest, t₂, rfl, htpos', hle', hyobserved, hy⟩ := h.capture rfl rfl rfl (fun hc => nomatch hc.firstFrame) rfl
    rcases hy with ⟨-, ⟨hyhead, ly, hygot, hysays⟩, h⟩ | ⟨hnot, -⟩
    · have hinTime : y.now < secondsOfNs t₂ + workerCaptureTimeout := by
        simpa using (running_iff.mp h.running).2.2
      obtain ⟨r, rest, payload, rfl, ⟨hrhead, lr, hrgot, hrsays⟩, rfl⟩ := h.last ⟨rfl, rfl, rfl, rfl, rfl⟩
      exact .inr ⟨payload, rfl, a, p, s, x, y, r, rest, t₁, t₂, t, hturns, ⟨la, hagot, hasays⟩, hahead,
        ⟨lp, hpgot, hpsays⟩, hphead, ⟨ls, hsgot, hssays⟩, hshead, hpos, hsobserved, ⟨lx, hxgot, hxsays⟩, hxhead, hle,
        hxobserved, ⟨ly, hygot, hysays⟩, hyhead, hle', hyobserved, hinTime, ⟨lr, hrgot, hrsays⟩,
        hrhead⟩
    · cases hnot

/-- The state after all phases and the receipt, in either order. -/
def completeState (deadline : ℚ) (t₁ t₂ : Int) (payload : Dict) : MonitorState where
  deadline := deadline
  authorized := true
  privacyReady := true
  captureStarting := true
  captureStartingNs := some t₁
  firstFrame := true
  firstFrameNs := some t₂
  captureClosed := true
  payload := some payload

theorem heard_of_frameAfterClose {run : WorkerRun} (h : FrameAfterClose watch run payload) :
    ∃ deadline t₁ t₂, Heard watch run.turns { deadline := run.start + workerAuthorizationTimeout }
      (completeState deadline t₁ t₂ payload) := by
  obtain ⟨a, p, s, c, f, r, rest, t₁, t₂, t₃, hturns, ⟨la, hagot, hasays⟩, hahead, ⟨lp, hpgot, hpsays⟩, hphead,
    ⟨ls, hsgot, hssays⟩, hshead, hpos, hsobserved, ⟨lc, hcgot, hcsays⟩, hchead, hclater, hcobserved,
    ⟨lf, hfgot, hfsays⟩, hfhead, hflater, hfobserved, hinTime, ⟨lr, hrgot, hrsays⟩, hrhead⟩ := h
  refine ⟨secondsOfNs t₂ + workerCaptureTimeout, t₁, t₂, ?_⟩
  rw [hturns]
  have hcpos : ¬ t₃ ≤ 0 := by omega
  have hfpos : ¬ t₂ ≤ 0 := by omega
  have hlast : Heard watch (r :: rest)
      { completeState (secondsOfNs t₂ + workerCaptureTimeout) t₁ t₂ payload with payload := none }
      (completeState (secondsOfNs t₂ + workerCaptureTimeout) t₁ t₂ payload) :=
    .receipt hrhead hrgot hrsays
  have htimely : decide (secondsOfNs t₂ + workerCaptureTimeout ≤ f.now) = false := by simpa using hinTime
  have hf : (Phase.firstFrame t₂).step f
      { deadline := c.now + workerReportTimeout, authorized := true, privacyReady := true, captureStarting := true,
        captureStartingNs := some t₁, captureClosed := true }
      = some { completeState (secondsOfNs t₂ + workerCaptureTimeout) t₁ t₂ payload with payload := none } := by
    rw [Phase.step, if_neg (by simp [hfpos, hflater, hfobserved]), htimely]
    rfl
  have hc : (Phase.captureClosed t₃).step c
      { deadline := secondsOfNs t₁ + workerFirstFrameTimeout, authorized := true, privacyReady := true,
        captureStarting := true, captureStartingNs := some t₁ }
      = some
        { deadline := c.now + workerReportTimeout, authorized := true, privacyReady := true,
          captureStarting := true, captureStartingNs := some t₁, captureClosed := true } :=
    if_neg (by simp [hcpos, hclater, hcobserved])
  have hs : (Phase.captureStarting t₁).step s
      { deadline := p.now + workerDeviceSetupTimeout, authorized := true, privacyReady := true }
      = some
        { deadline := secondsOfNs t₁ + workerFirstFrameTimeout, authorized := true, privacyReady := true,
          captureStarting := true, captureStartingNs := some t₁ } :=
    if_neg (by simp [hpos, hsobserved])
  have hp : Phase.privacyReady.step p { deadline := a.now + workerPrivacyReadyTimeout, authorized := true }
      = some { deadline := p.now + workerDeviceSetupTimeout, authorized := true, privacyReady := true } :=
    rfl
  have ha : Phase.authorized.step a { deadline := run.start + workerAuthorizationTimeout }
      = some { deadline := a.now + workerPrivacyReadyTimeout, authorized := true } :=
    rfl
  exact .phase hahead hagot hasays ha rfl <| .phase hphead hpgot hpsays hp rfl <|
    .phase hshead hsgot hssays hs rfl <| .phase hchead hcgot hcsays hc rfl <|
    .phase hfhead hfgot hfsays hf rfl hlast

/-! ## The result of the supervisor -/

theorem issueReceipt_outcome {outcome : NativeOutcome} {failure : Option NativeFailure} {args : ReceiptArgs}
    {receipt : NativeReceipt} (h : issueReceipt rt outcome failure args = .ok receipt) : receipt.outcome = outcome := by
  obtain ⟨-, -, h⟩ := bind_ok_iff.mp h
  obtain ⟨-, -, h⟩ := bind_ok_iff.mp h
  obtain rfl := Except.ok.inj h
  rfl

variable {prepared : PreparedAuthority} {binding : FfmpegBinding} {launch : WorkerLaunch}
  {monitor : WorkerMonitorResult} {candidate : NativeReceipt}

def cleanSupervision (binding : FfmpegBinding) (launch : WorkerLaunch) : Supervision where
  binding := binding
  supervised := launch.assigned
  deadlineEnforced := launch.assigned
  jobDrained := true
  pipeClosed := true
  readerStopped := true
  workerLeaseClosed := true

def PassCandidate (rt : Runtime) (prepared : PreparedAuthority) (binding : FfmpegBinding) (launch : WorkerLaunch)
    (payload : Dict) (candidate : NativeReceipt) : Prop :=
  deserializeWorkerReceipt rt payload prepared (cleanSupervision binding launch) (some ⟨true, true, true, true⟩)
      = .ok candidate
    ∧ candidate.outcome = .preflightPass
    ∧ candidateSemanticsAreValid rt candidate = .ok true

structure Allowed (launch : WorkerLaunch) (monitor : WorkerMonitorResult) : Prop where
  monitor : monitor.allowsCandidate = true
  leaseClosed : launch.leaseClosed = true
  jobClosed : launch.jobClosed = true

structure AllPhases (monitor : WorkerMonitorResult) : Prop where
  privacyReady : monitor.privacyReady = true
  captureStarting : monitor.captureStarting = true
  firstFrame : monitor.firstFrame = true
  captureClosed : monitor.captureClosed = true

theorem allowsCandidate_iff :
    monitor.allowsCandidate = true ↔ monitor.payload.isSome = true ∧ monitor.authorized = true
      ∧ monitor.timedOut = false ∧ monitor.malformed = false ∧ monitor.jobDrained = true ∧ monitor.pipeClosed = true
      ∧ monitor.readerStopped = true ∧ monitor.forcedTermination = false ∧ monitor.exitCode = some 0 := by
  simp [WorkerMonitorResult.allowsCandidate, and_assoc]

theorem supervisorFailureReceipt_outcome {failure : NativeFailure} {supervision : Supervision}
    (h : supervisorFailureReceipt rt prepared failure supervision = .ok candidate) : candidate.outcome = .noGo :=
  issueReceipt_outcome h

theorem judgeWorker_pass (h : judgeWorker rt prepared binding launch monitor = .ok candidate)
    (hpass : candidate.outcome = .preflightPass) :
    Allowed launch monitor ∧ AllPhases monitor
      ∧ ∃ payload, monitor.payload = some payload ∧ PassCandidate rt prepared binding launch payload candidate := by
  have hnoGo : ∀ {failure : NativeFailure} {supervision : Supervision},
      supervisorFailureReceipt rt prepared failure supervision ≠ .ok candidate := fun {failure supervision} hfailure =>
    nomatch hpass.symm.trans (supervisorFailureReceipt_outcome hfailure)
  unfold judgeWorker at h
  dsimp only at h
  split at h
  · next payload hpayload hallowed =>
    simp only [Bool.and_eq_true] at hallowed
    obtain ⟨⟨hmonitor, hlease⟩, hjob⟩ := hallowed
    obtain ⟨-, hauthorized, -, -, hdrained, hpipe, hreader, -, -⟩ := allowsCandidate_iff.mp hmonitor
    split at h
    · split at h
      · exact absurd h hnoGo
      · cases h
    · next candidate' hread =>
      split at h
      · exact absurd h hnoGo
      · next hphases =>
        obtain ⟨valid, hvalid, h⟩ := bind_ok_iff.mp h
        cases valid with
        | false => exact absurd h hnoGo
        | true =>
          obtain rfl := Except.ok.inj h
          have hall : AllPhases monitor := by
            simp only [phasesMissing, hpass, decide_true, Bool.true_and, Bool.or_eq_true, Bool.not_eq_true', not_or,
              Bool.not_eq_false] at hphases
            obtain ⟨⟨⟨hready, hstarting⟩, hfirst⟩, hclosed⟩ := hphases
            exact ⟨hready, hstarting, hfirst, hclosed⟩
          refine ⟨⟨hmonitor, hlease, hjob⟩, hall, payload, hpayload, ?_, hpass, hvalid⟩
          rw [hauthorized, Bool.and_true, hdrained, hpipe, hreader, hlease, hall.privacyReady, hall.captureStarting,
            hall.firstFrame, hall.captureClosed] at hread
          exact hread
  · exact absurd h hnoGo

theorem judgeWorker_eq {payload : Dict} (hallowed : Allowed launch monitor) (hall : AllPhases monitor)
    (hpayload : monitor.payload = some payload)
    (hcandidate : PassCandidate rt prepared binding launch payload candidate) :
    judgeWorker rt prepared binding launch monitor = .ok candidate := by
  obtain ⟨hmonitor, hlease, hjob⟩ := hallowed
  obtain ⟨-, hauthorized, -, -, hdrained, hpipe, hreader, -, -⟩ := allowsCandidate_iff.mp hmonitor
  obtain ⟨hready, hstarting, hfirst, hclosed⟩ := hall
  obtain ⟨hread, hpass, hvalid⟩ := hcandidate
  have hphases : phasesMissing candidate monitor = false := by
    simp [phasesMissing, hready, hstarting, hfirst, hclosed]
  unfold judgeWorker
  simp only [hpayload, hmonitor, hlease, hjob, hauthorized, hdrained, hpipe, hreader, hready, hstarting, hfirst, hclosed,
    Bool.and_true, Bool.and_self]
  rw [cleanSupervision] at hread
  simp only [hread, hphases, hvalid]
  rfl

/-! ## The runs that pass -/

variable {loads : Loads} {challenge : String} {grant : WorkerGrant} {run : WorkerRun}

structure Started (rt : Runtime) (challenge : String) (grant : WorkerGrant) (launch : WorkerLaunch)
    (binding : FfmpegBinding) : Prop where
  durable : launch.durableGrant = .ok (some grant)
  lease : launch.lease = .ok binding
  challenge : grant.challengeDigest = challengeDigest rt challenge
  executable : grant.workerExecutableSha256 = binding.sha256
  identity : grant.workerIdentityDigest = binding.identityDigest
  createJob : launch.createJob = .ok ()
  launched : launch.launch = .ok ()
  send : launch.send = .ok ()

structure CleanEnd (launch : WorkerLaunch) (run : WorkerRun) : Prop where
  waitDrained : run.waitDrained = true
  exitCode : run.exitCode = some 0
  stdoutClosed : run.stdoutClosed = true
  readerStopped : run.readerStopped = true
  leaseClosed : launch.leaseClosed = true
  jobClosed : launch.jobClosed = true

def watchOf (rt : Runtime) (loads : Loads) (challenge : String) (grant : WorkerGrant) : Watch :=
  ⟨loads, challengeDigest rt challenge, grant.grantId⟩

/-- In time, ending cleanly and with the receipt of a pass, the worker reports its first frame after the
end of its capture. -/
def PassesAfterClose (rt : Runtime) (loads : Loads) (prepared : PreparedAuthority) (challenge : String)
    (grant : WorkerGrant) (launch : WorkerLaunch) (run : WorkerRun) : Prop :=
  ∃ binding payload candidate, Started rt challenge grant launch binding ∧ CleanEnd launch run
    ∧ FrameAfterClose (watchOf rt loads challenge grant) run payload
    ∧ PassCandidate rt prepared binding launch payload candidate

theorem runWindowsCaptureWorker_ok {receipt : NativeReceipt} :
    runWindowsCaptureWorker rt loads prepared challenge grant launch run = .ok receipt
      ↔ ∃ binding monitor, Started rt challenge grant launch binding
        ∧ monitorCaptureWorker (watchOf rt loads challenge grant) run = .ok monitor
        ∧ judgeWorker rt prepared binding launch monitor = .ok receipt := by
  simp only [runWindowsCaptureWorker, bind_ok_iff, require_eq_ok]
  constructor
  · rintro ⟨durable, hdurable, -, rfl, binding, hlease, -, ⟨hchallenge, hexecutable, hidentity⟩, ⟨⟩, hjob, ⟨⟩,
      hlaunch, ⟨⟩, hsend, monitor, hmonitor, hjudge⟩
    exact ⟨binding, monitor, ⟨hdurable, hlease, hchallenge, hexecutable, hidentity, hjob, hlaunch, hsend⟩, hmonitor,
      hjudge⟩
  · rintro ⟨binding, monitor, hstarted, hmonitor, hjudge⟩
    exact ⟨_, hstarted.durable, (), rfl, binding, hstarted.lease, (),
      ⟨hstarted.challenge, hstarted.executable, hstarted.identity⟩, (), hstarted.createJob, (), hstarted.launched, (),
      hstarted.send, monitor, hmonitor, hjudge⟩

theorem lineSays_unique {line : Line} {phase phase' : Phase} (h : LineSays watch line phase)
    (h' : LineSays watch line phase') : phase.event = phase'.event := by
  obtain ⟨message, hread, -, hevent, -⟩ := h
  obtain ⟨message', hread', -, hevent', -⟩ := h'
  obtain rfl := Except.ok.inj (hread.symm.trans hread')
  simpa using hevent.symm.trans hevent'

theorem not_inOrder_of_frameAfterClose (h : FrameAfterClose watch run payload) :
    ¬ PhasesInOrder watch (linesOf run.turns) := by
  obtain ⟨a, p, s, c, f, r, rest, t₁, t₂, t₃, hturns, ⟨la, hagot, -⟩, -, ⟨lp, hpgot, -⟩, -,
    ⟨ls, hsgot, -⟩, -, -, -, ⟨lc, hcgot, hcsays⟩, -⟩ := h
  rintro ⟨u₁, u₂, u₃, payload', first, after, hlines, hall, -⟩
  rw [hturns, linesOf_cons hagot, linesOf_cons hpgot, linesOf_cons hsgot, linesOf_cons hcgot] at hlines
  cases hall with
  | cons _ hall => cases hall with
    | cons _ hall => cases hall with
      | cons _ hall => cases hall with
        | cons htells _ =>
          simp only [List.cons_append, List.cons.injEq] at hlines
          obtain ⟨-, -, -, rfl, -⟩ := hlines
          exact absurd (lineSays_unique hcsays htells) (by simp [Phase.event])

theorem monitor_of_heard {deadline : ℚ} {t₁ t₂ : Int} (hend : CleanEnd launch run)
    (hheard : Heard watch run.turns { deadline := run.start + workerAuthorizationTimeout }
      (completeState deadline t₁ t₂ payload)) :
    ∃ monitor, monitorCaptureWorker watch run = .ok monitor ∧ Allowed launch monitor ∧ AllPhases monitor
      ∧ monitor.payload = some payload := by
  have hloop := monitorLoop_of_heard hheard rfl
  refine ⟨_, by rw [monitorCaptureWorker, hloop]; rfl, ?_, ⟨rfl, rfl, rfl, rfl⟩, rfl⟩
  refine ⟨?_, hend.leaseClosed, hend.jobClosed⟩
  simp [WorkerMonitorResult.allowsCandidate, completeState, hend.waitDrained, hend.exitCode, hend.stdoutClosed,
    hend.readerStopped]

theorem monitor_of_frameAfterClose (h : FrameAfterClose watch run payload) (hend : CleanEnd launch run) :
    ∃ monitor, monitorCaptureWorker watch run = .ok monitor ∧ Allowed launch monitor ∧ AllPhases monitor
      ∧ monitor.payload = some payload := by
  obtain ⟨deadline, t₁, t₂, hheard⟩ := heard_of_frameAfterClose h
  exact monitor_of_heard hend hheard

theorem passes_cases (h : runWindowsCaptureWorker rt loads prepared challenge grant launch run = .ok candidate)
    (hpass : candidate.outcome = .preflightPass) :
    PhasesInOrder (watchOf rt loads challenge grant) (linesOf run.turns)
      ∨ PassesAfterClose rt loads prepared challenge grant launch run := by
  obtain ⟨binding, monitor, hstarted, hmonitor, hjudge⟩ := runWindowsCaptureWorker_ok.mp h
  obtain ⟨hallowed, hall, payload, hpayload, hcandidate⟩ := judgeWorker_pass hjudge hpass
  obtain ⟨final, hloop, hresult⟩ := bind_ok_iff.mp hmonitor
  obtain rfl := Except.ok.inj hresult
  obtain ⟨hsome, hauthorized, htimely, hintact, -, hpipe, hreader, hforced, hexit⟩ := allowsCandidate_iff.mp hallowed.monitor
  have hheard := heard_of_monitorLoop hloop rfl ⟨hsome, hintact, htimely⟩
  have hcomplete : final.Complete := ⟨hauthorized, hall.privacyReady, hall.captureStarting, hall.firstFrame,
    hall.captureClosed⟩
  rcases heard_orders ⟨rfl, hheard, hcomplete⟩ with horder | ⟨payload', hpayload', hframe⟩
  · exact .inl horder
  · obtain rfl := Option.some.inj (hpayload.symm.trans hpayload')
    have hwait : run.waitDrained = true := by
      simpa [hpayload', show final.malformed = false from hintact, show final.timedOut = false from htimely]
        using hforced
    exact .inr ⟨binding, payload, candidate, hstarted,
      ⟨hwait, hexit, hpipe, hreader, hallowed.leaseClosed, hallowed.jobClosed⟩, hframe, hcandidate⟩

theorem passesAfterClose_runs (h : PassesAfterClose rt loads prepared challenge grant launch run) :
    ∃ candidate, runWindowsCaptureWorker rt loads prepared challenge grant launch run = .ok candidate
      ∧ candidate.outcome = .preflightPass
      ∧ ¬ PhasesInOrder (watchOf rt loads challenge grant) (linesOf run.turns) := by
  obtain ⟨binding, payload, candidate, hstarted, hend, hframe, hcandidate⟩ := h
  obtain ⟨monitor, hmonitor, hallowed, hall, hpayload⟩ := monitor_of_frameAfterClose hframe hend
  have hrun := runWindowsCaptureWorker_ok.mpr ⟨binding, monitor, hstarted, hmonitor,
    judgeWorker_eq hallowed hall hpayload hcandidate⟩
  exact ⟨candidate, hrun, hcandidate.2.1, not_inOrder_of_frameAfterClose hframe⟩

/-- A pass needs its phases in order, exactly when the worker does not report its first frame after the end
of the capture. -/
theorem pass_needs_phases_in_order (rt : Runtime) (loads : Loads) (prepared : PreparedAuthority) (challenge : String)
    (grant : WorkerGrant) (launch : WorkerLaunch) (run : WorkerRun) :
    (∀ candidate, runWindowsCaptureWorker rt loads prepared challenge grant launch run = .ok candidate →
        candidate.outcome = .preflightPass → PhasesInOrder (watchOf rt loads challenge grant) (linesOf run.turns))
      ↔ ¬ PassesAfterClose rt loads prepared challenge grant launch run := by
  constructor
  · intro horder hframe
    obtain ⟨candidate, hrun, hpass, hnot⟩ := passesAfterClose_runs hframe
    exact hnot (horder candidate hrun hpass)
  · intro hnot candidate hrun hpass
    rcases passes_cases hrun hpass with horder | hframe
    · exact horder
    · exact absurd hframe hnot

end Order

/-! ## A first frame after the end -/

namespace LateFrame
open Sample

def binding : FfmpegBinding := ⟨digits '6', 1000, digits '7', digits '8'⟩

def grant : WorkerGrant where
  schemaVersion := 1
  state := "ISSUED"
  grantId := digits '9'
  challengeDigest := digits 'a'
  capabilityDigest := digits 'a'
  consumedAuthorityDigest := digits 'a'
  supervisorExecutableSha256 := digits 'a'
  workerExecutableSha256 := binding.sha256
  workerIdentityDigest := binding.identityDigest
  workerArgvDigest := digits 'a'
  sourceSha256 := runtime.sourceSha256
  lockSha256 := runtime.lockSha256
  poseModelSha256 := Native.poseModelSha256
  faceModelSha256 := Native.faceModelSha256
  ffmpegSha256 := prepared.ffmpegSha256
  ffmpegVersion := prepared.ffmpegVersion
  ffmpegSizeBytes := prepared.ffmpegSizeBytes
  ffmpegIdentityDigest := prepared.ffmpegIdentityDigest
  jobPolicyDigest := digits 'a'
  issuedUnixNs := 1
  expiresUnixNs := 30000000001
  recordDigest := digits 'a'

def launch : WorkerLaunch where
  durableGrant := .ok (some grant)
  lease := .ok binding
  createJob := .ok ()
  launch := .ok ()
  send := .ok ()
  assigned := true
  leaseClosed := true
  jobClosed := true

def workerArgs : ReceiptArgs where
  prepared := some prepared
  fixedArgvDigest := some (fixedArgvTemplateDigest runtime)
  ffmpegSha256 := some prepared.ffmpegSha256
  ffmpegVersion := some prepared.ffmpegVersion
  ffmpegSizeBytes := some prepared.ffmpegSizeBytes
  ffmpegIdentityDigest := some prepared.ffmpegIdentityDigest
  ffmpegLeaseVerified := true
  measuredTotalSeconds := 60
  measuredPostWarmupSeconds := 55
  deliveredFramesPerSecond := some 15
  p95IngressGapMs := some 67
  p95PoseLatencyMs := some 40
  p99PoseLatencyMs := some 50
  backlogMs := some 1
  mutexReleased := true
  childTerminated := true
  pipeClosed := true
  readerStopped := true
  mediaClosed := true
  authorityConsumed := true
  warmupFrames := 75
  postAttemptedFrames := 825
  postSuccessfulFrames := 825
  postElapsedNs := 55000000000
  maxStallGapNs := 67000000
  backlogNs := 1000000

def payload : Dict := serializeWorkerReceipt (draftReceipt runtime .preflightPass none workerArgs)

def args : ReceiptArgs := (cleanSupervision binding launch).over prepared workerArgs

theorem args_pass : PassArgs runtime prepared args where
  authority := rfl
  valid := prepared_valid
  argv := rfl
  sha256 := rfl
  version := rfl
  size := rfl
  identity := rfl
  leaseVerified := rfl
  leaseClosed := rfl
  stops := rfl
  faces := rfl
  poses := rfl
  total := le_refl _
  post := le_refl _
  elapsed := by norm_num [args, Supervision.over, workerArgs]
  rate := by norm_num [args, Supervision.over, workerArgs]
  fps := by norm_num [args, Supervision.over, workerArgs]
  gap := ⟨67, rfl, by norm_num, by norm_num⟩
  latency95 := ⟨40, rfl, by norm_num, by norm_num⟩
  latency99 := ⟨50, rfl, by norm_num, by norm_num⟩
  backlog := by norm_num [args, Supervision.over, workerArgs]
  backlogNs := by decide
  mutex := rfl
  child := rfl
  pipe := rfl
  reader := rfl
  cleanup := rfl
  media := rfl
  supervised := rfl
  deadline := rfl
  drained := rfl
  workerLease := rfl
  executable := (isHexDigest_replicate '6').trans (by decide)
  workerIdentity := (isHexDigest_replicate '7').trans (by decide)
  consumed := rfl
  warmup := by decide
  successful := by decide
  lost := ⟨rfl, rfl, rfl, rfl⟩
  stall := by decide

def candidate : NativeReceipt := (draftReceipt runtime .preflightPass none args).issued runtime

theorem candidate_passes : PassCandidate runtime prepared binding launch payload candidate :=
  ⟨deserialize_pass rfl rfl, rfl, pass_candidate runtime_intact args_pass rfl⟩

def message (event : String) (payload : List (String × Value)) : Value :=
  .dict ([("challenge_digest", .str (digits 'a')), ("event", .str event)] ++ payload)

def clock (ns : Int) : List (String × Value) := [("payload", .dict [("worker_monotonic_ns", .int ns)])]

def loads : Loads
  | [0] => .ok (message "AUTHORIZED" [("payload", .dict [("grant_id", .str grant.grantId)])])
  | [1] => .ok (message "PRIVACY_READY" [])
  | [2] => .ok (message "CAPTURE_STARTING" (clock 1000000000))
  | [3] => .ok (message "CAPTURE_CLOSED" (clock 2000000000))
  | [4] => .ok (message "FIRST_FRAME" (clock 3000000000))
  | [5] => .ok (message "RECEIPT" [("payload", .dict payload)])
  | _ => .error .valueError

/-- The line `[octet]`, a second after the one before it. -/
def turn (octet : UInt8) : Turn where
  head := octet.toNat
  got := .line [octet]
  observedNs := 10000000000
  now := octet.toNat

def run : WorkerRun where
  start := 0
  turns := [turn 0, turn 1, turn 2, turn 3, turn 4, turn 5]
  waitDrained := true
  terminateAndDrain := true
  exitCode := some 0
  stdoutClosed := true
  readerStopped := true

theorem run_frameAfterClose : FrameAfterClose (watchOf runtime loads "" grant) run payload := by
  refine ⟨turn 0, turn 1, turn 2, turn 3, turn 4, turn 5, [], 1000000000, 3000000000, 2000000000, rfl, ⟨[0], rfl, _, rfl,
    rfl, rfl, by decide, _, rfl, by decide, rfl⟩,
    by decide +kernel, ⟨[1], rfl, _, rfl, rfl, rfl, by unfold Phase.Fits; decide⟩,
    by decide +kernel,
    ⟨[2], rfl, _, rfl, rfl, rfl, by decide, by decide⟩, by decide +kernel, by decide, by decide,
    ⟨[3], rfl, _, rfl, rfl, rfl, by decide, by decide⟩, by decide +kernel, by decide, by decide,
    ⟨[4], rfl, _, rfl, rfl, rfl, by decide, by decide⟩, by decide +kernel, by decide, by decide, by decide +kernel,
    ⟨[5], rfl, _, rfl, rfl, rfl, by decide, rfl⟩, by decide +kernel⟩

theorem run_passesAfterClose : PassesAfterClose runtime loads prepared "" grant launch run :=
  ⟨binding, payload, candidate, ⟨rfl, rfl, rfl, rfl, rfl, rfl, rfl, rfl⟩, ⟨rfl, rfl, rfl, rfl, rfl, rfl⟩,
    run_frameAfterClose, candidate_passes⟩

end LateFrame

/-- A first frame that is reported after the capture was closed contributes to a pass. -/
theorem pass_with_late_frame :
    ¬ ∀ (rt : Runtime) (loads : Loads) (prepared : PreparedAuthority) (challenge : String) (grant : WorkerGrant)
        (launch : WorkerLaunch) (run : WorkerRun) (candidate : NativeReceipt),
        runWindowsCaptureWorker rt loads prepared challenge grant launch run = .ok candidate →
          candidate.outcome = .preflightPass →
          PhasesInOrder (watchOf rt loads challenge grant) (linesOf run.turns) := by
  intro hall
  obtain ⟨candidate, hrun, hpass, hnot⟩ := passesAfterClose_runs LateFrame.run_passesAfterClose
  exact hnot (hall _ _ _ _ _ _ _ _ hrun hpass)

end PduExamObserver.Native
