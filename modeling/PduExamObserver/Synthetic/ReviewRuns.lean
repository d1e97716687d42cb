import PduExamObserver.Library.Consecutive
import PduExamObserver.Synthetic.ReviewService

/-! # One run at a time

What a step of the service can do, the invariant that every step keeps, and what it says of whole runs. -/

namespace PduExamObserver.SyntheticReview
open Transition
set_option autoImplicit false

variable {digest : String → String} {s t : Service} {a : Action} {records : List SyntheticReviewRunRecord}
  {record other : SyntheticReviewRunRecord}

/-! ## The records -/

theorem mem_put : other ∈ put records record ↔ other = record ∨ other ∈ records ∧ other.requestId ≠ record.requestId := by
  unfold put
  split
  · rename_i hmem
    obtain ⟨stored, hstored, hid⟩ := List.mem_map.mp hmem
    rw [List.mem_map]
    constructor
    · rintro ⟨r, hr, rfl⟩
      split
      · exact .inl rfl
      · exact .inr ⟨hr, ‹_›⟩
    · rintro (rfl | ⟨hr, hne⟩)
      · exact ⟨stored, hstored, if_pos hid⟩
      · exact ⟨other, hr, if_neg hne⟩
  · rename_i hmem
    rw [List.mem_append, List.mem_singleton]
    constructor
    · rintro (hr | rfl)
      · exact .inr ⟨hr, fun h => hmem (List.mem_map.mpr ⟨other, hr, h⟩)⟩
      · exact .inl rfl
    · rintro (rfl | ⟨hr, -⟩)
      · exact .inr rfl
      · exact .inl hr

theorem put_new (h : record.requestId ∉ records.map (·.requestId)) : put records record = records ++ [record] :=
  if_neg h

theorem map_put {α : Type} (f : SyntheticReviewRunRecord → α) (h : record.requestId ∈ records.map (·.requestId))
    (hsame : ∀ r ∈ records, r.requestId = record.requestId → f r = f record) :
    (put records record).map f = records.map f := by
  unfold put
  rw [if_pos h, List.map_map]
  refine List.map_congr_left fun r hr => ?_
  by_cases hid : r.requestId = record.requestId
  · simp [hid, hsame r hr hid]
  · simp [hid]

theorem find_some {requestId : String} (h : find records requestId = some record) :
    record ∈ records ∧ record.requestId = requestId :=
  ⟨List.mem_of_find?_eq_some h, by simpa using List.find?_some h⟩

theorem exists_find {requestId : String} (h : record ∈ records) (hid : record.requestId = requestId) :
    ∃ found, find records requestId = some found := by
  have hsome : (find records requestId).isSome := List.find?_isSome.mpr ⟨record, h, by simpa using hid⟩
  exact Option.isSome_iff_exists.mp hsome

/-! ## What a step can do -/

/-- The record that `submit` makes of an accepted request. -/
def queuedRecord (s : Service) (runKind : SyntheticReviewRunKind) (requestId : String) : SyntheticReviewRunRecord where
  schemaVersion := 1
  requestId := requestId
  runSequence := s.sequence + 1
  runKind := runKind
  jobStatus := .queued
  serviceFailureCode := none
  receipt := none

/-- The state in which `submit` hands the task of a new request to the executor. -/
def registered (s : Service) (runKind : SyntheticReviewRunKind) (keyDigest : String) : Service :=
  { s with
    sequence := s.sequence + 1
    records := put s.records (queuedRecord s runKind (requestIdOf keyDigest))
    keyDigests := s.keyDigests ++ [(keyDigest, requestIdOf keyDigest)]
    activeRequestId := some (requestIdOf keyDigest) }

/-- A request that `submit` takes as a new one. -/
structure Fresh (digest : String → String) (s : Service) (idempotencyKey : String) : Prop where
  matches_ : keyMatches idempotencyKey
  opened : s.closed = false
  unknown : s.keyDigests.lookup (digest idempotencyKey) = none
  inactive : s.activeRequestId = none
  capacity : s.records.length < s.maxRecords

theorem submit_fresh {idempotencyKey : String} (h : Fresh digest s idempotencyKey) (runKind : SyntheticReviewRunKind)
    (accepted : Bool) : submit digest runKind idempotencyKey accepted s =
      if accepted then
        (.ok (queuedRecord s runKind (requestIdOf (digest idempotencyKey))),
          { registered s runKind (digest idempotencyKey) with
            queue := s.queue ++ [requestIdOf (digest idempotencyKey)] })
      else (.error .executorRefused, registered s runKind (digest idempotencyKey)) := by
  have hcapacity : ¬ s.maxRecords ≤ s.records.length := Nat.not_le.mpr h.capacity
  unfold submit
  rw [if_neg (by simpa using h.matches_)]
  simp only
  rw [if_neg (by simp [h.opened]), h.unknown]
  simp only
  rw [if_neg (by simp [h.inactive]), if_neg hcapacity]
  cases accepted <;> rfl

theorem submit_other {idempotencyKey : String} (h : ¬ Fresh digest s idempotencyKey)
    (runKind : SyntheticReviewRunKind) (accepted : Bool) :
    (submit digest runKind idempotencyKey accepted s).2 = s ∧
      (submit digest runKind idempotencyKey accepted s).1 ≠ .error .executorRefused := by
  unfold submit
  by_cases hmatches : keyMatches idempotencyKey = true
  case neg =>
    rw [if_pos hmatches]
    simp
  rw [if_neg (by simpa using hmatches)]
  by_cases hclosed : s.closed = true
  case pos => simp [hclosed]
  cases hunknown : s.keyDigests.lookup (digest idempotencyKey) with
  | some previousId =>
    cases hfind : find s.records previousId with
    | none => simp [hclosed, hunknown, hfind]
    | some previous => by_cases hkind : previous.runKind = runKind <;> simp [hclosed, hunknown, hfind, hkind]
  | none =>
    by_cases hinactive : s.activeRequestId = none
    case neg => simp [hclosed, hunknown, hinactive]
    by_cases hcapacity : s.maxRecords ≤ s.records.length
    case pos => simp [hclosed, hunknown, hinactive, hcapacity]
    exact absurd ⟨hmatches, by simpa using hclosed, hunknown, hinactive, Nat.not_le.mp hcapacity⟩ h

inductive Change (digest : String → String) (s : Service) : Action → Service → Prop
  | same {a : Action} : Change digest s a s
  | submitted {runKind : SyntheticReviewRunKind} {idempotencyKey : String} (h : Fresh digest s idempotencyKey)
      (hlock : s.exporting = none) : Change digest s (.submit runKind idempotencyKey true)
        { registered s runKind (digest idempotencyKey) with
          queue := s.queue ++ [requestIdOf (digest idempotencyKey)] }
  | refused {runKind : SyntheticReviewRunKind} {idempotencyKey : String} (h : Fresh digest s idempotencyKey)
      (hlock : s.exporting = none) : Change digest s (.submit runKind idempotencyKey false)
        (registered s runKind (digest idempotencyKey))
  | picked {requestId : String} {rest : List String} (h : s.worker = .idle) (hqueue : s.queue = requestId :: rest) :
      Change digest s .pick { s with worker := .picked requestId, queue := rest }
  | lost {requestId : String} (h : s.worker = .picked requestId) (hfind : find s.records requestId = none) :
      Change digest s .beginRun { s with worker := .idle }
  | began {requestId : String} {current : SyntheticReviewRunRecord} (h : s.worker = .picked requestId)
      (hfind : find s.records requestId = some current) : Change digest s .beginRun
        { s with records := put s.records { current with jobStatus := .running }, worker := .began current }
  | called {current : SyntheticReviewRunRecord} (h : s.worker = .began current) : Change digest s .call
      { s with worker := .calling current, started := s.started ++ [current.requestId] }
  | callReturned {current : SyntheticReviewRunRecord} {outcome : Except CallbackError SyntheticIntegrationReceipt}
      (h : s.worker = .calling current) : Change digest s (.callReturned outcome)
        { s with worker := .returned (terminalRecord current outcome) }
  | ended {terminal : SyntheticReviewRunRecord} (h : s.worker = .returned terminal) :
      Change digest s .endRun (endRun terminal s)
  | exporting {requestId artifactId : String} {record : SyntheticReviewRunRecord} (h : s.closed = false) :
      Change digest s (.exportEvidence requestId) { s with exporting := some (.reading record artifactId) }
  | read {record : SyntheticReviewRunRecord} {artifactId : String} {answered : Bool}
      (h : s.exporting = some (.reading record artifactId)) : Change digest s (.readArtifact answered)
        { s with
          reads := s.reads ++ [s.storeOpen]
          exporting := if answered then some (.building record) else none }
  | built {record : SyntheticReviewRunRecord} (h : s.exporting = some (.building record)) :
      Change digest s .buildBundle { s with exporting := none }
  | flagged (h : s.exporting = none) : Change digest s .close { s with closed := true, closer := .flagged }
  | drained (h : s.closer = .flagged) (hqueue : s.queue = []) (hworker : s.worker = .idle) :
      Change digest s .shutdown { s with closer := .drained }
  | storeClosed {raises : Bool} (h : s.closer = .drained) : Change digest s (.closeStore raises) (closeStore raises s)
  | cleaned (h : s.closer = .storeClosed) :
      Change digest s .cleanup { s with temporary := false, closer := .done }

theorem locked_some {u : Service} (h : locked s t = some u) : s.exporting = none ∧ u = t := by
  unfold locked at h
  split at h
  · cases h
    exact ⟨‹_›, rfl⟩
  · cases h

theorem step_change (h : step digest s a = some t) : Change digest s a t := by
  cases a with
  | submit runKind idempotencyKey accepted =>
    obtain ⟨hlock, rfl⟩ := locked_some h
    by_cases hfresh : Fresh digest s idempotencyKey
    · rw [submit_fresh hfresh]
      cases accepted
      · exact .refused hfresh hlock
      · exact .submitted hfresh hlock
    · rw [(submit_other hfresh runKind accepted).left]
      exact .same
  | pick =>
    simp only [step] at h
    split at h
    · cases h
      exact .picked ‹_› ‹_›
    · cases h
  | beginRun =>
    simp only [step] at h
    split at h
    · obtain ⟨-, rfl⟩ := locked_some h
      unfold beginRun
      split
      · exact .lost ‹_› ‹_›
      · exact .began ‹_› ‹_›
    · cases h
  | call =>
    simp only [step] at h
    split at h
    · cases h
      exact .called ‹_›
    · cases h
  | callReturned outcome =>
    simp only [step] at h
    split at h
    · cases h
      exact .callReturned ‹_›
    · cases h
  | endRun =>
    simp only [step] at h
    split at h
    · obtain ⟨-, rfl⟩ := locked_some h
      exact .ended ‹_›
    · cases h
  | get requestId =>
    obtain ⟨-, rfl⟩ := locked_some h
    exact .same
  | list =>
    obtain ⟨-, rfl⟩ := locked_some h
    exact .same
  | exportEvidence requestId =>
    obtain ⟨-, rfl⟩ := locked_some h
    unfold exportEvidence
    by_cases hclosed : s.closed = true
    case pos =>
      rw [if_pos hclosed]
      exact .same
    rw [if_neg hclosed]
    split
    · exact .same
    · split
      · split
        · exact .exporting (by simpa using hclosed)
        · exact .same
      · exact .same
  | readArtifact answered =>
    simp only [step] at h
    split at h
    · cases h
      exact .read ‹_›
    · cases h
  | buildBundle =>
    simp only [step] at h
    split at h
    · cases h
      exact .built ‹_›
    · cases h
  | close =>
    obtain ⟨hlock, rfl⟩ := locked_some h
    unfold close
    split
    · exact .same
    · exact .flagged hlock
  | shutdown =>
    simp only [step] at h
    split at h
    · rename_i hready
      cases h
      exact .drained hready.1 hready.2.1 hready.2.2
    · cases h
  | closeStore raises =>
    simp only [step] at h
    split at h
    · cases h
      exact .storeClosed ‹_›
    · cases h
  | cleanup =>
    simp only [step] at h
    split at h
    · cases h
      exact .cleaned ‹_›
    · cases h

/-! ## The invariant -/

def Worker.task : Worker → List String
  | .idle => []
  | .picked requestId => [requestId]
  | .began current => [current.requestId]
  | .calling current => [current.requestId]
  | .returned terminal => [terminal.requestId]

def Worker.waiting : Worker → List String
  | .picked requestId => [requestId]
  | .began current => [current.requestId]
  | _ => []

/-- The record that `_run` carries. -/
def Worker.current : Worker → Option SyntheticReviewRunRecord
  | .began current => some current
  | .calling current => some current
  | .returned terminal => some terminal
  | _ => none

def Service.tasks (s : Service) : List String := s.queue ++ s.worker.task

structure Inv (s : Service) : Prop where
  ids : s.records.map (·.requestId) = s.keyDigests.map Prod.snd
  nodup : (s.records.map (·.requestId)).Nodup
  digests : ∀ entry ∈ s.keyDigests, entry.2 = requestIdOf entry.1
  sequences : Consecutive 0 (s.records.map (·.runSequence))
  count : s.sequence = s.records.length
  tasks : ∀ requestId ∈ s.tasks, s.activeRequestId = some requestId
  one : s.tasks.length ≤ 1
  active : ∀ requestId, s.activeRequestId = some requestId →
    ∃ record ∈ s.records, record.requestId = requestId ∧ record.jobStatus ≠ .terminal
  unfinished : ∀ record ∈ s.records, record.jobStatus ≠ .terminal → s.activeRequestId = some record.requestId
  carried : ∀ current, s.worker.current = some current →
    ∃ record ∈ s.records, record.requestId = current.requestId ∧ record.runSequence = current.runSequence
  returned : ∀ terminal, s.worker = .returned terminal → terminal.jobStatus = .terminal
  waiting : ∀ requestId ∈ s.queue ++ s.worker.waiting, requestId ∉ s.started
  startedOnce : s.started.Nodup
  startedKnown : ∀ requestId ∈ s.started, requestId ∈ s.records.map (·.requestId)
  lock : s.exporting ≠ none → s.closed = false
  store : s.closed = false → s.storeOpen = true ∧ s.closer = .none
  reads : ∀ isOpen ∈ s.reads, isOpen = true

theorem new_inv (maxRecords : Nat) (owned : Bool) : Inv (Service.new maxRecords owned) := by
  constructor <;> simp [Service.new, Service.tasks, Worker.task, Worker.current, Worker.waiting]

/-- No other key of the service has a digest with the same truncation as the submitted one. -/
def Distinct (digest : String → String) (s : Service) (a : Action) : Prop :=
  ∀ runKind idempotencyKey accepted, a = .submit runKind idempotencyKey accepted →
    ∀ entry ∈ s.keyDigests, requestIdOf entry.1 = requestIdOf (digest idempotencyKey) →
      entry.1 = digest idempotencyKey

theorem Inv.unique (h : Inv s) (hrecord : record ∈ s.records) (hother : other ∈ s.records)
    (hid : record.requestId = other.requestId) : record = other :=
  List.inj_on_of_nodup_map h.nodup hrecord hother hid

theorem Inv.idle (h : Inv s) (hactive : s.activeRequestId = none) : s.tasks = [] := by
  cases htasks : s.tasks with
  | nil => rfl
  | cons requestId rest =>
    have hsome := h.tasks requestId (by rw [htasks]; simp)
    rw [hactive] at hsome
    cases hsome

theorem Inv.unknown (h : Inv s) {runKind : SyntheticReviewRunKind} {idempotencyKey : String} {accepted : Bool}
    (hdistinct : Distinct digest s (.submit runKind idempotencyKey accepted))
    (hunknown : s.keyDigests.lookup (digest idempotencyKey) = none) :
    requestIdOf (digest idempotencyKey) ∉ s.records.map (·.requestId) := by
  intro hmem
  rw [h.ids] at hmem
  obtain ⟨entry, hentry, hid⟩ := List.mem_map.mp hmem
  rw [h.digests entry hentry] at hid
  have hsame := hdistinct runKind idempotencyKey accepted rfl entry hentry hid
  rw [List.lookup_eq_none_iff] at hunknown
  have hne := hunknown entry hentry
  simp [hsame] at hne

theorem Inv.registered (h : Inv s) (runKind : SyntheticReviewRunKind) {keyDigest : String}
    (hid : requestIdOf keyDigest ∉ s.records.map (·.requestId)) (hinactive : s.activeRequestId = none) :
    Inv (SyntheticReview.registered s runKind keyDigest) := by
  have hidle := h.idle hinactive
  have hput : put s.records (queuedRecord s runKind (requestIdOf keyDigest)) =
      s.records ++ [queuedRecord s runKind (requestIdOf keyDigest)] := put_new hid
  have htasks : (SyntheticReview.registered s runKind keyDigest).tasks = [] := hidle
  have hrecords : (SyntheticReview.registered s runKind keyDigest).records =
      s.records ++ [queuedRecord s runKind (requestIdOf keyDigest)] := hput
  have hterminal : ∀ record ∈ s.records, record.jobStatus = .terminal := by
    intro record hrecord
    by_contra hopen
    have := h.unfinished record hrecord hopen
    rw [hinactive] at this
    cases this
  exact
  { h with
    ids := by
      change _ = (s.keyDigests ++ [(keyDigest, requestIdOf keyDigest)]).map Prod.snd
      rw [hrecords, List.map_append, List.map_append, h.ids]
      rfl
    nodup := by
      rw [hrecords, List.map_append]
      exact List.nodup_append.mpr ⟨h.nodup, List.nodup_singleton _, by
        rintro first hfirst second hsecond rfl
        rw [List.map_singleton, List.mem_singleton] at hsecond
        rw [hsecond] at hfirst
        exact hid hfirst⟩
    digests := by
      intro entry hentry
      rcases List.mem_append.mp hentry with hold | hnew
      · exact h.digests entry hold
      · cases List.mem_singleton.mp hnew
        rfl
    sequences := by
      rw [hrecords, List.map_append]
      refine h.sequences.concat ?_
      rw [List.length_map, ← h.count]
      simp [queuedRecord]
    count := by
      rw [hrecords, List.length_append, ← h.count]
      rfl
    tasks := by
      rw [htasks]
      simp
    one := by
      rw [htasks]
      simp
    active := by
      intro requestId hactive
      cases hactive
      exact ⟨_, by rw [hrecords]; exact List.mem_append_right _ (List.mem_singleton.mpr rfl), rfl, by simp [queuedRecord]⟩
    unfinished := by
      intro record hrecord hopen
      rw [hrecords] at hrecord
      rcases List.mem_append.mp hrecord with hold | hnew
      · exact absurd (hterminal record hold) hopen
      · cases List.mem_singleton.mp hnew
        rfl
    carried := by
      intro current hcurrent
      obtain ⟨record, hrecord, hsame⟩ := h.carried current hcurrent
      exact ⟨record, by rw [hrecords]; exact List.mem_append_left _ hrecord, hsame⟩
    startedKnown := by
      intro requestId hstarted
      rw [hrecords, List.map_append]
      exact List.mem_append_left _ (h.startedKnown requestId hstarted) }

theorem Inv.ids_put (h : Inv s) (record : SyntheticReviewRunRecord) {stored : SyntheticReviewRunRecord} (hstored : stored ∈ s.records)
    (hid : stored.requestId = record.requestId) (hsequence : stored.runSequence = record.runSequence) :
    (put s.records record).map (·.requestId) = s.records.map (·.requestId) ∧
      (put s.records record).map (·.runSequence) = s.records.map (·.runSequence) ∧
      (put s.records record).length = s.records.length := by
  have hmem : record.requestId ∈ s.records.map (·.requestId) := List.mem_map.mpr ⟨stored, hstored, hid⟩
  have hids := map_put (·.requestId) hmem fun r _ hr => hr
  refine ⟨hids, map_put _ hmem fun r hr hsame => ?_, ?_⟩
  · rw [h.unique hr hstored (hsame.trans hid.symm), hsequence]
  · simpa using congrArg List.length hids

theorem terminalRecord_same (current : SyntheticReviewRunRecord)
    (outcome : Except CallbackError SyntheticIntegrationReceipt) :
    (terminalRecord current outcome).requestId = current.requestId ∧
      (terminalRecord current outcome).runSequence = current.runSequence ∧
      (terminalRecord current outcome).jobStatus = .terminal := by
  rcases outcome with (_ | _) | receipt <;> exact ⟨rfl, rfl, rfl⟩

theorem Worker.idle_of_task {worker : Worker} (h : worker.task = []) : worker = .idle := by
  cases worker <;> simp_all [Worker.task]

theorem step_inv (h : Inv s) (hdistinct : Distinct digest s a) (hstep : step digest s a = some t) : Inv t := by
  have hclosing : s.closer ≠ .none → s.closed = true := by
    intro hcloser
    by_contra hopen
    exact hcloser (h.store (by simpa using hopen)).right
  cases step_change hstep with
  | same => exact h
  | submitted hfresh hlock =>
    rename_i runKind idempotencyKey
    have hid := h.unknown hdistinct hfresh.unknown
    have hreg := h.registered runKind hid hfresh.inactive
    have hidle : s.queue ++ s.worker.task = [] := h.idle hfresh.inactive
    obtain ⟨hqueue, hworker⟩ := List.append_eq_nil_iff.mp hidle
    have htasks : Service.tasks { registered s runKind (digest idempotencyKey) with
        queue := s.queue ++ [requestIdOf (digest idempotencyKey)] } = [requestIdOf (digest idempotencyKey)] := by
      change s.queue ++ [requestIdOf (digest idempotencyKey)] ++ s.worker.task = _
      rw [hqueue, hworker]
      rfl
    exact
    { hreg with
      tasks := by
        rw [htasks]
        intro requestId hmem
        rw [List.mem_singleton.mp hmem]
        rfl
      one := by
        rw [htasks]
        simp
      waiting := by
        change ∀ requestId ∈ s.queue ++ [requestIdOf (digest idempotencyKey)] ++ s.worker.waiting,
          requestId ∉ s.started
        rw [hqueue, Worker.idle_of_task hworker]
        intro requestId hmem hstarted
        rw [List.mem_singleton.mp hmem] at hstarted
        exact hid (h.startedKnown _ hstarted) }
  | refused hfresh hlock =>
    rename_i runKind idempotencyKey
    exact h.registered runKind (h.unknown hdistinct hfresh.unknown) hfresh.inactive
  | picked hidle hqueue =>
    rename_i requestId rest
    have htasks : Service.tasks { s with worker := .picked requestId, queue := rest } = rest ++ [requestId] := rfl
    have hbefore : s.tasks = requestId :: rest := by
      rw [Service.tasks, hidle, hqueue, Worker.task, List.append_nil]
    have hwaiting := h.waiting
    rw [hidle, hqueue] at hwaiting
    exact
    { h with
      tasks := by
        intro task hmem
        refine h.tasks task ?_
        rw [hbefore]
        rw [htasks] at hmem
        simpa [or_comm] using hmem
      one := by
        have hone := h.one
        rw [hbefore] at hone
        rw [htasks]
        simpa using hone
      carried := fun current hcurrent => by cases hcurrent
      returned := fun terminal hterminal => by cases hterminal
      waiting := by
        intro task hmem
        refine hwaiting task ?_
        simp only [Worker.waiting, List.mem_append, List.mem_singleton] at hmem
        simpa [Worker.waiting, or_comm] using hmem }
  | lost hpicked hfind =>
    rename_i requestId
    have hactive : s.activeRequestId = some requestId :=
      h.tasks requestId (by rw [Service.tasks, hpicked]; simp [Worker.task])
    obtain ⟨record, hrecord, hid, -⟩ := h.active requestId hactive
    obtain ⟨found, hfound⟩ := exists_find hrecord hid
    rw [hfind] at hfound
    cases hfound
  | began hpicked hfind =>
    rename_i requestId current
    obtain ⟨hcurrent, hid⟩ := find_some hfind
    have hwaiting := h.waiting
    have htasks := h.tasks
    have hone := h.one
    rw [Service.tasks, hpicked] at htasks hone
    rw [hpicked] at hwaiting
    have hactive : s.activeRequestId = some requestId := htasks requestId (by simp [Worker.task])
    obtain ⟨hids, hsequences, hlength⟩ := h.ids_put { current with jobStatus := .running } hcurrent rfl rfl
    have hnew : { current with jobStatus := .running } ∈ put s.records { current with jobStatus := .running } :=
      mem_put.mpr (.inl rfl)
    subst hid
    exact
    { h with
      ids := hids.trans h.ids
      nodup := by
        rw [hids]
        exact h.nodup
      sequences := by
        rw [hsequences]
        exact h.sequences
      count := h.count.trans hlength.symm
      tasks := htasks
      one := hone
      active := by
        intro requestId hrequest
        rw [hactive] at hrequest
        cases hrequest
        exact ⟨_, hnew, rfl, by simp⟩
      unfinished := by
        intro record hrecord hopen
        rcases mem_put.mp hrecord with rfl | ⟨hold, -⟩
        · exact hactive
        · exact h.unfinished record hold hopen
      carried := by
        intro carried hcarried
        cases hcarried
        exact ⟨_, hnew, rfl, rfl⟩
      returned := fun terminal hterminal => by cases hterminal
      waiting := hwaiting
      startedKnown := by
        rw [hids]
        exact h.startedKnown }
  | called hbegan =>
    rename_i current
    have hone := h.one
    have hwaiting := h.waiting
    rw [Service.tasks, hbegan, Worker.task] at hone
    rw [hbegan] at hwaiting
    have hqueue : s.queue = [] := List.length_eq_zero_iff.mp (by simpa using hone)
    obtain ⟨record, hrecord, hid, -⟩ := h.carried current (by rw [hbegan]; rfl)
    exact
    { h with
      tasks := fun requestId hmem => h.tasks requestId (by rw [Service.tasks, hbegan]; exact hmem)
      one := hone
      carried := fun carried hcarried => h.carried carried (by rw [hbegan]; exact hcarried)
      returned := fun terminal hterminal => by cases hterminal
      waiting := by
        intro requestId hmem
        rw [hqueue] at hmem
        cases hmem
      startedOnce := by
        refine List.nodup_append.mpr ⟨h.startedOnce, List.nodup_singleton _, ?_⟩
        rintro first hfirst second hsecond rfl
        rw [List.mem_singleton.mp hsecond] at hfirst
        exact hwaiting current.requestId (by simp [Worker.waiting]) hfirst
      startedKnown := by
        intro requestId hmem
        rcases List.mem_append.mp hmem with hold | hnew
        · exact h.startedKnown requestId hold
        · rw [List.mem_singleton.mp hnew]
          exact List.mem_map.mpr ⟨record, hrecord, hid⟩ }
  | callReturned hcalling =>
    rename_i current outcome
    obtain ⟨hid, hsequence, hstatus⟩ := terminalRecord_same current outcome
    have htask : (Worker.returned (terminalRecord current outcome)).task = s.worker.task := by
      rw [hcalling, Worker.task, Worker.task, hid]
    exact
    { h with
      tasks := fun requestId hmem => h.tasks requestId (by rw [Service.tasks, ← htask]; exact hmem)
      one := by
        have hone := h.one
        rw [Service.tasks, ← htask] at hone
        exact hone
      carried := by
        intro carried hcarried
        cases hcarried
        obtain ⟨record, hrecord, hsame, hsequenceSame⟩ := h.carried current (by rw [hcalling]; rfl)
        exact ⟨record, hrecord, hsame.trans hid.symm, hsequenceSame.trans hsequence.symm⟩
      returned := by
        intro terminal hterminal
        cases hterminal
        exact hstatus
      waiting := by
        intro requestId hmem
        refine h.waiting requestId ?_
        rw [hcalling]
        exact hmem }
  | ended hreturned =>
    rename_i terminal
    have hone := h.one
    rw [Service.tasks, hreturned, Worker.task] at hone
    have hqueue : s.queue = [] := List.length_eq_zero_iff.mp (by simpa using hone)
    have hactive : s.activeRequestId = some terminal.requestId :=
      h.tasks _ (by rw [Service.tasks, hreturned]; simp [Worker.task])
    obtain ⟨stored, hstored, hid, hsequence⟩ := h.carried terminal (by rw [hreturned]; rfl)
    obtain ⟨hids, hsequences, hlength⟩ := h.ids_put terminal hstored hid hsequence
    have hreleased : (endRun terminal s).activeRequestId = none := if_pos hactive
    have htasks : (endRun terminal s).tasks = [] := by
      change s.queue ++ [] = []
      rw [hqueue]
      rfl
    exact
    { h with
      ids := hids.trans h.ids
      nodup := by
        change ((put s.records terminal).map (·.requestId)).Nodup
        rw [hids]
        exact h.nodup
      sequences := by
        change Consecutive 0 ((put s.records terminal).map (·.runSequence))
        rw [hsequences]
        exact h.sequences
      count := h.count.trans hlength.symm
      tasks := by
        rw [htasks]
        simp
      one := by
        rw [htasks]
        simp
      active := by
        rw [hreleased]
        simp
      unfinished := by
        intro record hrecord hopen
        rcases mem_put.mp hrecord with rfl | ⟨hold, hne⟩
        · exact absurd (h.returned record hreturned) hopen
        · have hsame := h.unfinished record hold hopen
          rw [hactive] at hsame
          exact absurd (Option.some.inj hsame).symm hne
      carried := fun carried hcarried => by cases hcarried
      returned := fun terminal hterminal => by cases hterminal
      waiting := by
        change ∀ requestId ∈ s.queue ++ [], requestId ∉ s.started
        rw [hqueue]
        simp
      startedKnown := by
        change ∀ requestId ∈ s.started, requestId ∈ (put s.records terminal).map (·.requestId)
        rw [hids]
        exact h.startedKnown }
  | exporting hclosed => exact { h with lock := fun _ => hclosed }
  | read hreading =>
    have hopen := h.lock (by rw [hreading]; simp)
    exact
    { h with
      lock := fun _ => hopen
      reads := by
        intro isOpen hmem
        rcases List.mem_append.mp hmem with hold | hnew
        · exact h.reads isOpen hold
        · rw [List.mem_singleton.mp hnew]
          exact (h.store hopen).left }
  | built hbuilding => exact { h with lock := fun hnone => absurd rfl hnone }
  | flagged hlock =>
    exact { h with lock := fun hheld => absurd hlock hheld, store := fun hopen => by cases hopen }
  | drained hflagged hqueue hworker =>
    have hclosed := hclosing (by rw [hflagged]; simp)
    exact { h with store := fun hopen => by rw [hclosed] at hopen; cases hopen }
  | storeClosed hdrained =>
    have hclosed := hclosing (by rw [hdrained]; simp)
    unfold closeStore
    split
    · exact { h with store := fun hopen => by rw [hclosed] at hopen; cases hopen }
    · exact { h with store := fun hopen => by rw [hclosed] at hopen; cases hopen }
  | cleaned hstored =>
    have hclosed := hclosing (by rw [hstored]; simp)
    exact { h with store := fun hopen => by rw [hclosed] at hopen; cases hopen }

theorem reachable_inv (h : ReachableBy (system digest) (Distinct digest) s) : Inv s := by
  refine h.invariant ?_ fun _ _ _ hinv hdistinct hstep => step_inv hinv hdistinct hstep
  rintro _ ⟨maxRecords, owned, rfl⟩
  exact new_inv maxRecords owned

/-! ## Finished records -/

theorem Inv.open_of_active (h : Inv s) (hrecord : record ∈ s.records)
    (hactive : s.activeRequestId = some record.requestId) : record.jobStatus ≠ .terminal := by
  obtain ⟨found, hfound, hid, hopen⟩ := h.active _ hactive
  rwa [h.unique hrecord hfound hid.symm]

theorem step_terminal (h : Inv s) (hdistinct : Distinct digest s a) (hstep : step digest s a = some t)
    (hrecord : record ∈ s.records) (hterminal : record.jobStatus = .terminal) : record ∈ t.records := by
  have hkept : ∀ (runKind : SyntheticReviewRunKind) (keyDigest : String),
      requestIdOf keyDigest ∉ s.records.map (·.requestId) → record ∈ (registered s runKind keyDigest).records := by
    intro runKind keyDigest hid
    have hput : put s.records (queuedRecord s runKind (requestIdOf keyDigest)) = s.records ++ _ := put_new hid
    change record ∈ put s.records _
    rw [hput]
    exact List.mem_append_left _ hrecord
  have hactive : ∀ {requestId : String}, requestId ∈ s.tasks → record.requestId ≠ requestId := by
    rintro requestId hmem rfl
    exact h.open_of_active hrecord (h.tasks _ hmem) hterminal
  cases step_change hstep with
  | submitted hfresh => exact hkept _ _ (h.unknown hdistinct hfresh.unknown)
  | refused hfresh => exact hkept _ _ (h.unknown hdistinct hfresh.unknown)
  | began hpicked hfind =>
    obtain ⟨-, hid⟩ := find_some hfind
    refine mem_put.mpr (.inr ⟨hrecord, ?_⟩)
    exact hactive (by rw [Service.tasks, hpicked, hid]; simp [Worker.task])
  | ended hreturned =>
    refine mem_put.mpr (.inr ⟨hrecord, ?_⟩)
    exact hactive (by rw [Service.tasks, hreturned]; simp [Worker.task])
  | storeClosed hdrained =>
    unfold closeStore
    split <;> exact hrecord
  | _ => exact hrecord

theorem Inv.single (h : Inv s) : (s.records.filter fun record => record.jobStatus ≠ .terminal).length ≤ 1 := by
  have hnodup : (s.records.filter fun record => record.jobStatus ≠ .terminal).Nodup :=
    (List.Nodup.of_map _ h.nodup).filter _
  have hsame : ∀ first ∈ s.records.filter fun record => record.jobStatus ≠ .terminal,
      ∀ second ∈ s.records.filter fun record => record.jobStatus ≠ .terminal, first = second := by
    intro first hfirst second hsecond
    obtain ⟨hfirst, hfirstOpen⟩ := List.mem_filter.mp hfirst
    obtain ⟨hsecond, hsecondOpen⟩ := List.mem_filter.mp hsecond
    have hone := h.unfinished first hfirst (by simpa using hfirstOpen)
    rw [h.unfinished second hsecond (by simpa using hsecondOpen)] at hone
    exact h.unique hfirst hsecond (Option.some.inj hone).symm
  generalize (s.records.filter fun record => record.jobStatus ≠ .terminal) = unfinished at hnodup hsame
  match unfinished with
  | [] => simp
  | [_] => simp
  | first :: second :: rest =>
    have hequal := hsame first (by simp) second (by simp)
    simp [hequal] at hnodup

end PduExamObserver.SyntheticReview
