import PduExamObserver.Native.Frames

/-! # What the frame loop does

One turn either accepts its frame, with everything that this says about the clocks and the inspections, or
halts with one of seven failures, or with an exception. The invariant of the measures follows turn by turn. -/

namespace PduExamObserver.Native
set_option autoImplicit false

/-! ## Halts -/

def loopFailures : List NativeFailure :=
  [.inputUnavailable, .inputMalformed, .frameStalled, .clockRegression, .privacyStop, .poseEngineException,
    .frameReaderException]

def Halt.Comes (halt : Halt) (before : Option NativeFailure) : Prop :=
  halt.raised = true ∧ halt.loop.run.failure = before
    ∨ halt.raised = false ∧ ∃ failure ∈ loopFailures, halt.loop.run.failure = some failure

theorem fail_comes (loop : LoopState) (before : Option NativeFailure) {failure : NativeFailure}
    (h : failure ∈ loopFailures) : (loop.fail failure).Comes before :=
  Or.inr ⟨rfl, failure, h, rfl⟩

theorem stop_comes (loop : LoopState) (before : Option NativeFailure) : loop.stop.Comes before :=
  fail_comes _ _ (by decide)

theorem raise_comes (loop : LoopState) : loop.raise.Comes loop.run.failure := Or.inl ⟨rfl, rfl⟩

theorem orRaise_error {α : Type} {loop : LoopState} {answer : Except Raised α} {halt : Halt}
    (h : orRaise loop answer = .error halt) : halt = loop.raise := by
  cases answer with
  | ok a => cases h
  | error raised =>
    cases h
    rfl

theorem orRaise_ok {α : Type} {loop : LoopState} {answer : Except Raised α} {a : α} :
    orRaise loop answer = .ok a ↔ answer = .ok a := by
  cases answer <;> simp [orRaise]

namespace FrameTurn

variable {turn : FrameTurn} {sink : Bool} {loop : LoopState} {halt : Halt}

theorem readFrame_error (h : turn.readFrame loop = .error halt) : halt.Comes loop.run.failure := by
  unfold readFrame at h
  split at h
  · cases h
    split <;> exact fail_comes _ _ (by decide)
  · cases h
    exact fail_comes _ _ (by decide)
  · cases h
    exact fail_comes _ _ (by decide)
  · cases h
    split <;> exact fail_comes _ _ (by decide)
  · cases h
    exact fail_comes _ _ (by decide)
  · split at h
    · cases h
      exact fail_comes _ _ (by decide)
    · split at h
      · cases h
        exact fail_comes _ _ (by decide)
      · cases h

theorem noteFirst_error {ingress : Int} (h : turn.noteFirst sink ingress loop = .error halt) :
    halt.Comes loop.run.failure := by
  unfold noteFirst at h
  split at h
  · obtain hsent | ⟨_, -, h⟩ := bind_error_iff.mp h
    · rw [orRaise_error hsent]
      exact raise_comes _
    · cases h
  · cases h

theorem checkGap_error {ingress : Int} {before : Option NativeFailure} (h : checkGap ingress loop = .error halt) :
    halt.Comes before := by
  unfold checkGap at h
  split at h
  · cases h
  · split at h
    · cases h
      exact fail_comes _ _ (by decide)
    · split at h
      · cases h
        exact fail_comes _ _ (by decide)
      · cases h

theorem admitFrame_error {ingress : Int} (h : turn.admitFrame sink ingress loop = .error halt) :
    halt.Comes loop.run.failure := by
  obtain hdequeued | ⟨dequeued, -, h⟩ := bind_error_iff.mp h
  · rw [orRaise_error hdequeued]
    exact raise_comes _
  · split at h
    · cases h
      exact fail_comes _ _ (by decide)
    · obtain hnote | ⟨noted, -, h⟩ := bind_error_iff.mp h
      · have hcomes := noteFirst_error hnote
        exact hcomes
      · obtain hgap | ⟨_, -, h⟩ := bind_error_iff.mp h
        · exact checkGap_error hgap
        · dsimp only at h
          split at h
          · cases h
            exact fail_comes _ _ (by decide)
          · cases h

theorem inspectFace_error {before : Option NativeFailure} (h : turn.inspectFace loop = .error halt) :
    halt.Comes before := by
  unfold inspectFace at h
  split at h
  · cases h
  · cases h
    exact stop_comes _ _
  · cases h
    exact stop_comes _ _

theorem inspectPose_error {before : Option NativeFailure} (h : turn.inspectPose loop = .error halt) :
    halt.Comes before := by
  unfold inspectPose at h
  split at h
  · cases h
  · cases h
    exact stop_comes _ _
  · cases h
    exact fail_comes _ _ (by decide)

theorem complete_error {ingress : Int} (h : turn.complete ingress loop = .error halt) :
    halt.Comes loop.run.failure := by
  obtain hcompleted | ⟨completed, -, h⟩ := bind_error_iff.mp h
  · rw [orRaise_error hcompleted]
    exact raise_comes _
  · split at h
    · cases h
      exact fail_comes _ _ (by decide)
    · cases h

/-! ## A turn that accepts its frame -/

theorem readFrame_ok {ingress : Int} (h : turn.readFrame loop = .ok ingress) :
    turn.event = some (.frame (some frameBytes) (some ingress)) := by
  unfold readFrame at h
  split at h
  · cases h
  · cases h
  · cases h
  · cases h
  · cases h
  · rename_i count time hevent
    split at h
    · cases h
    · rename_i hcount
      split at h
      · cases h
      · cases h
        rw [hevent, not_not.mp hcount]

theorem noteFirst_ok {ingress : Int} {loop' : LoopState} (h : turn.noteFirst sink ingress loop = .ok loop') :
    loop'.run = (loop.withFirst ingress).run
      ∧ loop'.firstFrame = (if loop.run.firstIngressNs.isNone && sink then some ingress else loop.firstFrame) := by
  unfold noteFirst at h
  split at h
  · rename_i hsend
    obtain ⟨_, -, h⟩ := bind_ok_iff.mp h
    cases h
    exact ⟨rfl, (if_pos hsend).symm⟩
  · rename_i hsend
    cases h
    exact ⟨rfl, (if_neg hsend).symm⟩

theorem checkGap_ok {ingress : Int} {u : Unit} (h : checkGap ingress loop = .ok u) :
    ∀ previous ∈ loop.run.previousIngressNs, 0 < ingress - previous ∧ ingress - previous < 1000000000 := by
  intro previous hprevious
  rw [checkGap, Option.mem_def.mp hprevious] at h
  dsimp only at h
  split at h
  · cases h
  · split at h
    · cases h
    · omega

structure Accepts (turn : FrameTurn) (sink : Bool) (loop loop' : LoopState) (ingress dequeued latencyNs : Int) : Prop where
  event : turn.event = some (.frame (some frameBytes) (some ingress))
  dequeue : turn.dequeued = .ok dequeued
  delay : ingress ≤ dequeued
  gap : ∀ previous ∈ loop.run.previousIngressNs, 0 < ingress - previous ∧ ingress - previous < 1000000000
  later : loop.run.previousVideoTimestampMs < timestampMs (loop.firstOf ingress) ingress
  face : turn.face = .ok false
  pose : turn.pose = .ok false
  complete : turn.completed = .ok (ingress + latencyNs)
  latency : 0 ≤ latencyNs
  run : loop'.run
    = ((((loop.withBacklog (dequeued - ingress)).withFirst ingress).withTimestamp
        (timestampMs (loop.firstOf ingress) ingress)).withPrivacyCheck.recorded (loop.firstOf ingress) ingress
          latencyNs).run
  firstFrame : loop'.firstFrame = (if loop.run.firstIngressNs.isNone && sink then some ingress else loop.firstFrame)

theorem take_ok {loop' : LoopState} {done : Bool} (h : turn.take sink loop = .ok (loop', done)) :
    ∃ ingress dequeued latencyNs, turn.Accepts sink loop loop' ingress dequeued latencyNs
      ∧ done = decide (ingress - loop.firstOf ingress ≥ preflightSeconds * 1000000000) := by
  obtain ⟨ingress, hread, h⟩ := bind_ok_iff.mp h
  obtain ⟨admitted, hadmit, h⟩ := bind_ok_iff.mp h
  obtain ⟨_, hface, h⟩ := bind_ok_iff.mp h
  obtain ⟨_, hpose, h⟩ := bind_ok_iff.mp h
  obtain ⟨latencyNs, hcomplete, h⟩ := bind_ok_iff.mp h
  obtain ⟨dequeued, hdequeued, hadmit⟩ := bind_ok_iff.mp hadmit
  split at hadmit
  · cases hadmit
  rename_i hdelay
  obtain ⟨noted, hnote, hadmit⟩ := bind_ok_iff.mp hadmit
  obtain ⟨_, hgap, hadmit⟩ := bind_ok_iff.mp hadmit
  dsimp only at hadmit
  split at hadmit
  · cases hadmit
  rename_i hlater
  cases hadmit
  obtain ⟨completed, hcompleted, hcomplete⟩ := bind_ok_iff.mp hcomplete
  split at hcomplete
  · cases hcomplete
  rename_i hregressed
  cases hcomplete
  obtain ⟨hrun, hfirst⟩ := noteFirst_ok hnote
  cases h
  refine ⟨ingress, dequeued, completed - ingress, ?_, rfl⟩
  exact {
    event := readFrame_ok hread
    dequeue := orRaise_ok.mp hdequeued
    delay := by omega
    gap := by
      have hprevious : noted.run.previousIngressNs = loop.run.previousIngressNs := by
        rw [hrun]
        rfl
      rw [← hprevious]
      exact checkGap_ok hgap
    later := by omega
    face := by
      unfold inspectFace at hface
      split at hface
      · assumption
      · cases hface
      · cases hface
    pose := by
      unfold inspectPose at hpose
      split at hpose
      · assumption
      · cases hpose
      · cases hpose
    complete := by
      rw [orRaise_ok.mp hcompleted]
      congr 1
      omega
    latency := by omega
    run := by
      simp only [LoopState.recorded, LoopState.withPrivacyCheck, LoopState.withTimestamp, hrun]
    firstFrame := hfirst }

theorem take_error (h : turn.take sink loop = .error halt) : halt.Comes loop.run.failure := by
  obtain hread | ⟨ingress, -, h⟩ := bind_error_iff.mp h
  · exact readFrame_error hread
  obtain hadmit | ⟨admitted, hadmit, h⟩ := bind_error_iff.mp h
  · exact admitFrame_error hadmit
  obtain hface | ⟨_, -, h⟩ := bind_error_iff.mp h
  · exact inspectFace_error hface
  obtain hpose | ⟨_, -, h⟩ := bind_error_iff.mp h
  · exact inspectPose_error hpose
  obtain hcomplete | ⟨latencyNs, -, h⟩ := bind_error_iff.mp h
  · have hcomes := complete_error hcomplete
    have hfailure : admitted.withPrivacyCheck.run.failure = loop.run.failure := by
      obtain ⟨dequeued, -, hadmit⟩ := bind_ok_iff.mp hadmit
      split at hadmit
      · cases hadmit
      obtain ⟨noted, hnote, hadmit⟩ := bind_ok_iff.mp hadmit
      obtain ⟨_, -, hadmit⟩ := bind_ok_iff.mp hadmit
      dsimp only at hadmit
      split at hadmit
      · cases hadmit
      cases hadmit
      change noted.run.failure = loop.run.failure
      rw [(noteFirst_ok hnote).1]
      rfl
    rw [hfailure] at hcomes
    exact hcomes
  · cases h

end FrameTurn

/-! ## The loop -/

section Loop

variable {sink alive : Bool} {loop : LoopState}

theorem FrameTurn.Accepts.failure {turn : FrameTurn} {loop' : LoopState} {ingress dequeued latencyNs : Int}
    (h : turn.Accepts sink loop loop' ingress dequeued latencyNs) : loop'.run.failure = loop.run.failure := by
  rw [h.run]
  unfold LoopState.recorded RunState.record
  dsimp only
  split <;> rfl

theorem captureLoop_keeps (I : LoopState → Prop)
    (hstep : ∀ {turn : FrameTurn} {loop loop' : LoopState} {ingress dequeued latencyNs : Int},
      turn.Accepts sink loop loop' ingress dequeued latencyNs → I loop → I loop')
    (turns : List FrameTurn) (hfailure : loop.run.failure = none) (hloop : I loop) :
    (captureLoop sink alive turns loop).Comes none
      ∨ (captureLoop sink alive turns loop).raised = false
        ∧ (captureLoop sink alive turns loop).loop.run.failure = none
        ∧ I (captureLoop sink alive turns loop).loop := by
  induction turns generalizing loop with
  | nil =>
    left
    unfold captureLoop
    cases alive <;> exact fail_comes _ _ (by decide)
  | cons turn turns ih =>
    unfold captureLoop
    cases htake : turn.take sink loop with
    | error halt =>
      left
      have hcomes := FrameTurn.take_error htake
      rw [hfailure] at hcomes
      exact hcomes
    | ok taken =>
      obtain ⟨loop', done⟩ := taken
      obtain ⟨ingress, dequeued, latencyNs, haccepts, -⟩ := FrameTurn.take_ok htake
      have hnone : loop'.run.failure = none := haccepts.failure.trans hfailure
      cases done with
      | true => exact Or.inr ⟨rfl, hnone, hstep haccepts hloop⟩
      | false => exact ih hnone (hstep haccepts hloop)

/-! ## The measures -/

structure RunState.Sound (run : RunState) : Prop where
  backlog : 0 ≤ run.maxBacklogNs
  gaps : ∀ gap ∈ run.gapsMs, 0 ≤ gap ∧ gap < 1000
  latencies : ∀ latency ∈ run.latenciesMs, 0 ≤ latency
  counts : run.postWarmupProcessedFrames ≤ run.deliveredFrames
  processed : run.processedFrames = run.deliveredFrames
  checked : run.privacyCheckedFrames = run.deliveredFrames
  unstopped : run.privacyStopCount = 0 ∧ run.faceDetections = 0 ∧ run.poseDetections = 0

theorem sound_start : ({} : RunState).Sound where
  backlog := le_rfl
  gaps := nofun
  latencies := nofun
  counts := le_rfl
  processed := rfl
  checked := rfl
  unstopped := ⟨rfl, rfl, rfl⟩

theorem millisecondsOfNs_bounds {ns : Int} (h : 0 < ns ∧ ns < 1000000000) :
    0 ≤ millisecondsOfNs ns ∧ millisecondsOfNs ns < 1000 := by
  obtain ⟨hpos, hlt⟩ := h
  have hpos' : (0 : ℚ) < ns := by exact_mod_cast hpos
  have hlt' : (ns : ℚ) < 1000000000 := by exact_mod_cast hlt
  unfold millisecondsOfNs
  constructor
  · positivity
  · linarith

theorem record_gaps {run : RunState} {first ingress latencyNs : Int}
    (hgap : ∀ previous ∈ run.previousIngressNs, 0 < ingress - previous ∧ ingress - previous < 1000000000)
    (h : ∀ gap ∈ run.gapsMs, 0 ≤ gap ∧ gap < 1000) :
    ∀ gap ∈ (run.record first ingress latencyNs).gapsMs, 0 ≤ gap ∧ gap < 1000 := by
  intro gap hmem
  unfold RunState.record at hmem
  dsimp only at hmem
  split at hmem
  · dsimp only at hmem
    split at hmem
    · rename_i previous hprevious
      split at hmem
      · exact h gap hmem
      · rcases List.mem_append.mp hmem with hold | hnew
        · exact h gap hold
        · obtain rfl := List.mem_singleton.mp hnew
          exact millisecondsOfNs_bounds (hgap previous hprevious)
    · exact h gap hmem
  · exact h gap hmem

theorem record_latencies {run : RunState} {first ingress latencyNs : Int} (hlatency : 0 ≤ latencyNs)
    (h : ∀ latency ∈ run.latenciesMs, 0 ≤ latency) :
    ∀ latency ∈ (run.record first ingress latencyNs).latenciesMs, 0 ≤ latency := by
  intro latency hmem
  unfold RunState.record at hmem
  dsimp only at hmem
  split at hmem
  · rcases List.mem_append.mp hmem with hold | hnew
    · exact h latency hold
    · obtain rfl := List.mem_singleton.mp hnew
      have hcast : (0 : ℚ) ≤ latencyNs := by exact_mod_cast hlatency
      unfold millisecondsOfNs
      positivity
  · exact h latency hmem

theorem record_counts (run : RunState) (first ingress latencyNs : Int) :
    (run.record first ingress latencyNs).deliveredFrames = run.deliveredFrames + 1
      ∧ (run.record first ingress latencyNs).processedFrames = run.processedFrames + 1
      ∧ (run.record first ingress latencyNs).postWarmupProcessedFrames ≤ run.postWarmupProcessedFrames + 1
      ∧ (run.record first ingress latencyNs).maxBacklogNs = run.maxBacklogNs
      ∧ (run.record first ingress latencyNs).privacyCheckedFrames = run.privacyCheckedFrames
      ∧ (run.record first ingress latencyNs).privacyStopCount = run.privacyStopCount
      ∧ (run.record first ingress latencyNs).faceDetections = run.faceDetections
      ∧ (run.record first ingress latencyNs).poseDetections = run.poseDetections := by
  unfold RunState.record
  dsimp only
  split
  · exact ⟨rfl, rfl, le_rfl, rfl, rfl, rfl, rfl, rfl⟩
  · exact ⟨rfl, rfl, Nat.le_succ _, rfl, rfl, rfl, rfl, rfl⟩

theorem FrameTurn.Accepts.sound {turn : FrameTurn} {loop' : LoopState} {ingress dequeued latencyNs : Int}
    (h : turn.Accepts sink loop loop' ingress dequeued latencyNs) (hloop : loop.run.Sound) : loop'.run.Sound := by
  set before := (((loop.withBacklog (dequeued - ingress)).withFirst ingress).withTimestamp
    (FrameTurn.timestampMs (loop.firstOf ingress) ingress)).withPrivacyCheck.run with hbefore
  have hrun : loop'.run = { before.record (loop.firstOf ingress) ingress latencyNs with previousIngressNs := some ingress } :=
    h.run
  obtain ⟨hdelivered, hprocessed, hpost, hbacklog, hchecked, hstops, hfaces, hposes⟩ :=
    record_counts before (loop.firstOf ingress) ingress latencyNs
  rw [hrun]
  exact {
    backlog := by
      dsimp only
      rw [hbacklog]
      exact le_trans hloop.backlog (le_max_left _ _)
    gaps := record_gaps h.gap hloop.gaps
    latencies := record_latencies h.latency hloop.latencies
    counts := by
      dsimp only
      rw [hdelivered]
      exact le_trans hpost (Nat.succ_le_succ hloop.counts)
    processed := by
      dsimp only
      rw [hdelivered, hprocessed]
      exact congrArg (· + 1) hloop.processed
    checked := by
      dsimp only
      rw [hdelivered, hchecked]
      exact congrArg (· + 1) hloop.checked
    unstopped := by
      dsimp only
      rw [hstops, hfaces, hposes]
      exact hloop.unstopped }

end Loop

end PduExamObserver.Native
