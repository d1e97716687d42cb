import PduExamObserver.Synthetic.ReviewRuns

/-! # The slot of the active run

While the executor takes every task, the worker gives the slot back and a further request can be accepted. A refused
task keeps the slot for good. -/

namespace PduExamObserver.SyntheticReview
open Transition
set_option autoImplicit false

variable {digest : String → String} {s t : Service} {a : Action}

/-! ## Every held slot has a task -/

def Accepted (a : Action) : Prop :=
  ∀ runKind idempotencyKey accepted, a = .submit runKind idempotencyKey accepted → accepted = true

def Pending (s : Service) : Prop := ∀ requestId, s.activeRequestId = some requestId → requestId ∈ s.tasks

theorem step_pending (hinv : Inv s) (h : Pending s) (haccepted : Accepted a) (hstep : step digest s a = some t) :
    Pending t := by
  have hworker : ∀ {worker : Worker}, worker.task = s.worker.task →
      ∀ requestId, s.activeRequestId = some requestId → requestId ∈ s.queue ++ worker.task := by
    intro worker hsame requestId hactive
    rw [hsame]
    exact h requestId hactive
  cases step_change hstep with
  | same => exact h
  | submitted hfresh hlock =>
    intro requestId hactive
    cases hactive
    exact List.mem_append_left _ (List.mem_append_right _ (List.mem_singleton.mpr rfl))
  | refused hfresh hlock => cases haccepted _ _ _ rfl
  | picked hidle hqueue =>
    intro requestId hactive
    have hmem := h requestId hactive
    rw [Service.tasks, hidle, hqueue, Worker.task, List.append_nil, List.mem_cons] at hmem
    exact List.mem_append.mpr (hmem.symm.imp_right List.mem_singleton.mpr)
  | lost hpicked hfind =>
    rename_i requestId
    have hactive := hinv.tasks requestId (by rw [Service.tasks, hpicked]; simp [Worker.task])
    obtain ⟨record, hrecord, hid, -⟩ := hinv.active requestId hactive
    obtain ⟨found, hfound⟩ := exists_find hrecord hid
    rw [hfind] at hfound
    cases hfound
  | began hpicked hfind => exact hworker (by rw [hpicked, Worker.task, Worker.task, (find_some hfind).right])
  | called hbegan => exact hworker (by rw [hbegan, Worker.task, Worker.task])
  | callReturned hcalling =>
    exact hworker (by rw [hcalling, Worker.task, Worker.task, (terminalRecord_same _ _).left])
  | ended hreturned =>
    rename_i terminal
    have hactive := hinv.tasks terminal.requestId (by rw [Service.tasks, hreturned]; simp [Worker.task])
    intro requestId hrequest
    rw [show (endRun terminal s).activeRequestId = none from if_pos hactive] at hrequest
    cases hrequest
  | storeClosed hdrained =>
    unfold closeStore
    split <;> exact h
  | _ => exact h

theorem reachable_pending (h : ReachableBy (system digest) (fun s a => Distinct digest s a ∧ Accepted a) s) :
    Inv s ∧ Pending s := by
  refine h.invariant (I := fun s => Inv s ∧ Pending s) ?_ fun _ _ _ hinv hguard hstep =>
    ⟨step_inv hinv.left hguard.left hstep, step_pending hinv.left hinv.right hguard.right hstep⟩
  rintro _ ⟨maxRecords, owned, rfl⟩
  exact ⟨new_inv maxRecords owned, fun requestId hactive => by cases hactive⟩

/-! ## The worker gives the slot back -/

def Internal : Action → Prop
  | .pick | .beginRun | .call | .callReturned _ | .endRun | .readArtifact _ | .buildBundle => True
  | _ => False

structure Quiet (s t : Service) : Prop where
  closed : t.closed = s.closed
  maxRecords : t.maxRecords = s.maxRecords
  keyDigests : t.keyDigests = s.keyDigests
  length : t.records.length = s.records.length

theorem Quiet.refl (s : Service) : Quiet s s := ⟨rfl, rfl, rfl, rfl⟩

theorem Quiet.trans {u : Service} (h : Quiet s t) (h' : Quiet t u) : Quiet s u :=
  ⟨h'.closed.trans h.closed, h'.maxRecords.trans h.maxRecords, h'.keyDigests.trans h.keyDigests,
    h'.length.trans h.length⟩

def Frees (digest : String → String) (s : Service) : Prop :=
  ∃ t, LaterBy (system digest) (fun _ a => Internal a) s t ∧ t.activeRequestId = none ∧ t.exporting = none ∧ Quiet s t

theorem Frees.head (ha : Internal a) (hstep : step digest s a = some t) (hquiet : Quiet s t) (h : Frees digest t) :
    Frees digest s := by
  obtain ⟨u, hlater, hactive, hlock, hrest⟩ := h
  exact ⟨u, .head ⟨a, ha, hstep⟩ hlater, hactive, hlock, hquiet.trans hrest⟩

theorem frees_inactive (hlock : s.exporting = none) (hactive : s.activeRequestId = none) : Frees digest s :=
  ⟨s, .refl, hactive, hlock, Quiet.refl s⟩

theorem frees_returned (h : Inv s) (hlock : s.exporting = none) {terminal : SyntheticReviewRunRecord}
    (hworker : s.worker = .returned terminal) : Frees digest s := by
  have hactive := h.tasks terminal.requestId (by rw [Service.tasks, hworker]; simp [Worker.task])
  obtain ⟨stored, hstored, hid, hsequence⟩ := h.carried terminal (by rw [hworker]; rfl)
  refine Frees.head (a := .endRun) (t := endRun terminal s) trivial ?_ ?_ (frees_inactive hlock (if_pos hactive))
  · simp only [step, hworker, locked, if_pos hlock]
  · exact ⟨rfl, rfl, rfl, (h.ids_put terminal hstored hid hsequence).right.right⟩

theorem internal_inv (hstep : step digest s a = some t) (h : Inv s) (ha : Internal a) : Inv t := by
  refine step_inv h ?_ hstep
  rintro runKind idempotencyKey accepted rfl
  exact ha.elim

theorem frees_calling (h : Inv s) (hlock : s.exporting = none) {current : SyntheticReviewRunRecord}
    (hworker : s.worker = .calling current) : Frees digest s := by
  have hstep : step digest s (.callReturned (.error .exception)) =
      some { s with worker := .returned (terminalRecord current (.error .exception)) } := by
    simp only [step, hworker]
  refine Frees.head (a := .callReturned (.error .exception)) trivial hstep ⟨rfl, rfl, rfl, rfl⟩ ?_
  exact frees_returned (internal_inv hstep h trivial) hlock rfl

theorem frees_began (h : Inv s) (hlock : s.exporting = none) {current : SyntheticReviewRunRecord}
    (hworker : s.worker = .began current) : Frees digest s := by
  have hstep : step digest s .call =
      some { s with worker := .calling current, started := s.started ++ [current.requestId] } := by
    simp only [step, hworker]
  refine Frees.head (a := .call) trivial hstep ⟨rfl, rfl, rfl, rfl⟩ ?_
  exact frees_calling (internal_inv hstep h trivial) hlock rfl

theorem frees_picked (h : Inv s) (hlock : s.exporting = none) {requestId : String}
    (hworker : s.worker = .picked requestId) : Frees digest s := by
  have hactive := h.tasks requestId (by rw [Service.tasks, hworker]; simp [Worker.task])
  obtain ⟨record, hrecord, hid, -⟩ := h.active requestId hactive
  obtain ⟨found, hfound⟩ := exists_find hrecord hid
  have hstep : step digest s .beginRun = some
      { s with records := put s.records { found with jobStatus := .running }, worker := .began found } := by
    simp only [step, hworker, locked, if_pos hlock, beginRun, hfound]
  refine Frees.head (a := .beginRun) trivial hstep ⟨rfl, rfl, rfl, ?_⟩ ?_
  · exact (h.ids_put { found with jobStatus := .running } (find_some hfound).left rfl rfl).right.right
  · exact frees_began (internal_inv hstep h trivial) hlock rfl

theorem frees_unlocked (h : Inv s) (hpending : Pending s) (hlock : s.exporting = none) : Frees digest s := by
  cases hactive : s.activeRequestId with
  | none => exact frees_inactive hlock hactive
  | some requestId =>
  cases hworker : s.worker with
  | idle =>
    have hmem := hpending requestId hactive
    rw [Service.tasks, hworker, Worker.task, List.append_nil] at hmem
    cases hqueue : s.queue with
    | nil =>
      rw [hqueue] at hmem
      cases hmem
    | cons first rest =>
      have hstep : step digest s .pick = some { s with worker := .picked first, queue := rest } := by
        simp only [step, hworker, hqueue]
      refine Frees.head (a := .pick) trivial hstep ⟨rfl, rfl, rfl, rfl⟩ ?_
      exact frees_picked (internal_inv hstep h trivial) hlock rfl
  | picked requestId => exact frees_picked h hlock hworker
  | began current => exact frees_began h hlock hworker
  | calling current => exact frees_calling h hlock hworker
  | returned terminal => exact frees_returned h hlock hworker

theorem frees (h : Inv s) (hpending : Pending s) : Frees digest s := by
  cases hexporting : s.exporting with
  | none => exact frees_unlocked h hpending hexporting
  | some held =>
  cases held with
  | building record =>
    have hstep : step digest s .buildBundle = some { s with exporting := none } := by simp only [step, hexporting]
    refine Frees.head (a := .buildBundle) trivial hstep ⟨rfl, rfl, rfl, rfl⟩ ?_
    exact frees_unlocked (internal_inv hstep h trivial) hpending rfl
  | reading record artifactId =>
    have hstep : step digest s (.readArtifact false) =
        some { s with reads := s.reads ++ [s.storeOpen], exporting := none } := by simp [step, hexporting]
    refine Frees.head (a := .readArtifact false) trivial hstep ⟨rfl, rfl, rfl, rfl⟩ ?_
    exact frees_unlocked (internal_inv hstep h trivial) hpending rfl

/-! ## A refused task keeps the slot -/

def Stuck (s : Service) : Prop := s.activeRequestId ≠ none ∧ s.tasks = []

theorem step_stuck (h : Stuck s) (hstep : step digest s a = some t) : Stuck t := by
  obtain ⟨hactive, htasks⟩ := h
  obtain ⟨hqueue, hworker⟩ := List.append_eq_nil_iff.mp htasks
  have hidle := Worker.idle_of_task hworker
  cases step_change hstep with
  | submitted hfresh => exact absurd hfresh.inactive hactive
  | refused hfresh => exact absurd hfresh.inactive hactive
  | picked _ hnext =>
    rw [hqueue] at hnext
    cases hnext
  | lost hpicked =>
    rw [hidle] at hpicked
    cases hpicked
  | began hpicked =>
    rw [hidle] at hpicked
    cases hpicked
  | called hbegan =>
    rw [hidle] at hbegan
    cases hbegan
  | callReturned hcalling =>
    rw [hidle] at hcalling
    cases hcalling
  | ended hreturned =>
    rw [hidle] at hreturned
    cases hreturned
  | storeClosed =>
    unfold closeStore
    split <;> exact ⟨hactive, htasks⟩
  | _ => exact ⟨hactive, htasks⟩

theorem refused_stuck (hinv : Inv s) {idempotencyKey : String} (hfresh : Fresh digest s idempotencyKey)
    (runKind : SyntheticReviewRunKind) {u : Service}
    (hlater : Later (system digest) (submit digest runKind idempotencyKey false s).2 u) (other : String) :
    ¬ Fresh digest u other := by
  have hstuck : Stuck (submit digest runKind idempotencyKey false s).2 := by
    rw [submit_fresh hfresh]
    exact ⟨Option.some_ne_none _, hinv.idle hfresh.inactive⟩
  have hlast : Stuck u := hlater.preserves (P := Stuck) (fun _ _ _ h hstep => step_stuck h hstep) hstuck
  exact fun h => hlast.left h.inactive

/-! ## The service -/

def Unchanged (s t : Service) : Prop :=
  t.records = s.records ∧ t.keyDigests = s.keyDigests ∧ t.sequence = s.sequence ∧
    t.activeRequestId = s.activeRequestId

theorem submit_raises {runKind : SyntheticReviewRunKind} {idempotencyKey : String} {accepted : Bool} {e : Raised}
    (h : submit digest runKind idempotencyKey accepted s = (.error e, t)) :
    Unchanged s t ↔ e ≠ .executorRefused := by
  by_cases hfresh : Fresh digest s idempotencyKey
  · rw [submit_fresh hfresh] at h
    cases accepted
    · cases h
      refine iff_of_false ?_ (by simp)
      rintro ⟨-, -, hsequence, -⟩
      exact absurd hsequence (Nat.succ_ne_self _)
    · cases h
  · obtain ⟨hstate, herror⟩ := submit_other hfresh runKind accepted
    rw [h] at hstate herror
    refine iff_of_true ?_ (by simpa using herror)
    cases hstate
    exact ⟨rfl, rfl, rfl, rfl⟩

/-- At most one record is unfinished, every key calls its callback at most once, the records are numbered in the
order of their acceptance, and no artifact was read from a closed store. -/
structure SingleFlight (digest : String → String) (s : Service) : Prop where
  single : (s.records.filter fun record => record.jobStatus ≠ .terminal).length ≤ 1
  startedOnce : ∀ idempotencyKey, s.started.count (requestIdOf (digest idempotencyKey)) ≤ 1
  sequences : Consecutive 0 (s.records.map (·.runSequence))
  reads : ∀ isOpen ∈ s.reads, isOpen = true

theorem Inv.singleFlight (h : Inv s) : SingleFlight digest s where
  single := h.single
  startedOnce _ := List.nodup_iff_count_le_one.mp h.startedOnce _
  sequences := h.sequences
  reads := h.reads

/-- In every run without colliding keys the service is single-flight, finished records stay, and a `submit` that
raises leaves the service as it was exactly if it was not the executor that raised. In every run in which the
executor takes each task the slot can be freed, and then a new request is accepted. -/
theorem review_single_flight (h : ReachableBy (system digest) (Distinct digest) s) :
    SingleFlight digest s ∧
    (∀ t, LaterBy (system digest) (Distinct digest) s t → ∀ record ∈ s.records, record.jobStatus = .terminal →
      record ∈ t.records ∧ ∀ other ∈ t.records, other.requestId = record.requestId → other = record) ∧
    (∀ runKind idempotencyKey accepted e t, submit digest runKind idempotencyKey accepted s = (.error e, t) →
      (Unchanged s t ↔ e ≠ .executorRefused)) ∧
    (ReachableBy (system digest) (fun s a => Distinct digest s a ∧ Accepted a) s →
      ∃ t, LaterBy (system digest) (fun _ a => Internal a) s t ∧ t.activeRequestId = none ∧ Quiet s t ∧
        ∀ runKind idempotencyKey, keyMatches idempotencyKey → s.closed = false →
          s.keyDigests.lookup (digest idempotencyKey) = none → s.records.length < s.maxRecords →
          ∃ record u, step digest t (.submit runKind idempotencyKey true) = some u ∧
            submit digest runKind idempotencyKey true t = (.ok record, u) ∧ record.jobStatus = .queued) := by
  refine ⟨(reachable_inv h).singleFlight, ?_, fun _ _ _ _ _ => submit_raises, ?_⟩
  · intro t hlater record hrecord hterminal
    have hkept : record ∈ t.records := by
      induction hlater with
      | refl => exact hrecord
      | tail hbefore hlast ih =>
        obtain ⟨a, hdistinct, hstep⟩ := hlast
        exact step_terminal (reachable_inv (LaterBy.reachableBy hbefore h)) hdistinct hstep ih hterminal
    exact ⟨hkept, fun other hother hid => (reachable_inv (hlater.reachableBy h)).unique hother hkept hid⟩
  · intro haccepted
    obtain ⟨hinv, hpending⟩ := reachable_pending haccepted
    obtain ⟨t, hlater, hactive, hlock, hquiet⟩ : Frees digest s := frees hinv hpending
    refine ⟨t, hlater, hactive, hquiet, ?_⟩
    intro runKind idempotencyKey hmatches hopen hunknown hcapacity
    have hfresh : Fresh digest t idempotencyKey :=
      ⟨hmatches, hquiet.closed.trans hopen, by rw [hquiet.keyDigests]; exact hunknown, hactive,
        by rw [hquiet.length, hquiet.maxRecords]; exact hcapacity⟩
    have hsubmit := submit_fresh hfresh runKind true
    exact ⟨_, _, by simp only [step, locked, if_pos hlock, hsubmit]; rfl, hsubmit, rfl⟩

/-! ## One run and one refusal -/

namespace Sample

def key : String := "review-key-00000001"

def laterKey : String := "review-key-00000002"

def accepted : Service := (submit id .preflight60s key true (Service.new 32 true)).2

theorem accepted_reachable :
    ReachableBy (system id) (fun s a => Distinct id s a ∧ Accepted a) accepted := by
  refine .step (.init ⟨32, true, rfl⟩) (a := .submit .preflight60s key true) ⟨?_, ?_⟩ rfl
  · intro runKind idempotencyKey accepted _ entry hentry
    cases hentry
  · intro runKind idempotencyKey accepted h
    cases h
    rfl

def refused : Except Raised SyntheticReviewRunRecord × Service :=
  submit id .preflight60s key false (Service.new 32 true)

end Sample

/-- A run that accepts one request: what holds of it, and that the service can be freed for the next one. -/
theorem review_single_flight_accepted :
    SingleFlight id Sample.accepted ∧ Sample.accepted.activeRequestId ≠ none ∧
      ∃ t, LaterBy (system id) (fun _ a => Internal a) Sample.accepted t ∧ t.activeRequestId = none ∧
        Quiet Sample.accepted t ∧ ∃ record u, step id t (.submit .nominal20m Sample.laterKey true) = some u ∧
          submit id .nominal20m Sample.laterKey true t = (.ok record, u) ∧ record.jobStatus = .queued := by
  have hreach : ReachableBy (system id) (Distinct id) Sample.accepted :=
    Sample.accepted_reachable.mono fun _ _ h => h.left
  obtain ⟨hflight, -, -, hfree⟩ := review_single_flight hreach
  obtain ⟨t, hlater, hactive, hquiet, hnext⟩ := hfree Sample.accepted_reachable
  exact ⟨hflight, by decide, t, hlater, hactive, hquiet,
    hnext .nominal20m Sample.laterKey (by decide) rfl (by decide) (by decide)⟩

/-- The executor refuses the first task: `submit` raises, the record and the slot stay, and no request is accepted
any more. -/
theorem refused_submit_keeps_slot :
    (¬ ∀ s, ReachableBy (system id) (Distinct id) s → ∀ runKind idempotencyKey accepted e t,
      submit id runKind idempotencyKey accepted s = (.error e, t) → Unchanged s t) ∧
    ∀ u, Later (system id) Sample.refused.2 u → ∀ other, ¬ Fresh id u other := by
  have hraised : Sample.refused = (.error .executorRefused, Sample.refused.2) := by rfl
  constructor
  · intro hall
    have hsame := hall (Service.new 32 true) (.init ⟨32, true, rfl⟩) _ _ _ _ _ hraised
    exact absurd hsame.right.right.left (by decide)
  · have hfresh : Fresh id (Service.new 32 true) Sample.key := ⟨by decide, rfl, rfl, rfl, by decide⟩
    exact fun u hlater other => refused_stuck (new_inv 32 true) hfresh .preflight60s hlater other

end PduExamObserver.SyntheticReview
