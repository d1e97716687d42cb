import PduExamObserver.Library.Consecutive
import PduExamObserver.ResearchRuntime.Removal

/-! # The review log and its lock

The reviews of a sealed session are numbered by its revision; the lock is set exactly over reviews that cover the
observable events and do not contradict each other, and holds for good. -/

namespace PduExamObserver.ResearchRuntime
open Stateful Transition
set_option autoImplicit false

variable {setup : Setup} {w : World} {a : Action} {index : Nat} {c after : Collection} {row next : Session}
  {request : ReviewRequest}

/-! ## What the lock asks for -/

def Session.observables (row : Session) : List Event := row.events.filter fun event => event.body.isObservable

def Session.Latest (row : Session) (review : Review) : Prop :=
  review ∈ row.reviews ∧ ∀ other ∈ row.reviews, other.eventId = review.eventId → other.revision ≤ review.revision

def Review.Covers (review : Review) (ms : Int) : Prop := review.startMs ≤ ms ∧ ms < review.endMs

/-- Every observable event is reviewed, and no two last decisions that stand, with different labels, meet. -/
structure Session.Lockable (row : Session) : Prop where
  reviewed : ∀ event ∈ row.observables, ∃ review ∈ row.reviews, review.eventId = event.eventId
  consistent : ∀ a b, row.Latest a → row.Latest b → a.reviewStatus ≠ .rejected → b.reviewStatus ≠ .rejected →
    a.label ≠ b.label → ¬ ∃ ms, a.Covers ms ∧ b.Covers ms

structure Session.Annotated (row : Session) : Prop where
  numbered : Consecutive 0 (row.reviews.map Review.revision)
  counted : row.revision = row.reviews.length
  proper : ∀ review ∈ row.reviews, review.startMs < review.endMs
  early : row.state.isOver = false → row.reviews = [] ∧ row.locked = false
  lockable : row.locked = true → row.Lockable

theorem createSession_annotated (sessionId : String) (sourceKind : SourceKind) (pseudonym : String) :
    (createSession sessionId sourceKind pseudonym).session.Annotated where
  numbered := rfl
  counted := rfl
  proper := by simp [createSession]
  early _ := ⟨rfl, rfl⟩
  lockable h := by cases h

theorem Session.Annotated.increasing (h : row.Annotated) :
    row.reviews.Pairwise fun a b => a.revision < b.revision := by
  have hnumbered := h.numbered
  rw [Consecutive] at hnumbered
  have hsorted : (row.reviews.map Review.revision).Pairwise (· < ·) := by
    rw [hnumbered]
    exact List.pairwise_lt_range'
  exact List.pairwise_map.mp hsorted

theorem Session.Annotated.listReviews_eq (h : row.Annotated) : listReviews row = row.reviews := by
  unfold listReviews
  exact (h.increasing.imp fun {a b} hlt => Nat.le_of_lt hlt).insertionSort_eq

theorem unreviewed_eq_false_iff (row : Session) :
    unreviewed row = false ↔ ∀ event ∈ row.observables, ∃ review ∈ row.reviews, review.eventId = event.eventId := by
  simp [unreviewed, Session.observables]

theorem mem_accepted_iff (h : row.Annotated) {review : Review} :
    review ∈ accepted row ↔ row.Latest review ∧ review.reviewStatus ≠ .rejected := by
  unfold accepted
  rw [List.mem_insertionSort, List.mem_filter, h.listReviews_eq, Sweep.mem_latest_iff h.increasing, decide_eq_true_iff,
    Session.Latest]

theorem conflicting_accepted_iff (h : row.Annotated) :
    Sweep.conflicting Review.startMs Review.endMs Review.label (accepted row) = false ↔
      ∀ a b, row.Latest a → row.Latest b → a.reviewStatus ≠ .rejected → b.reviewStatus ≠ .rejected →
        a.label ≠ b.label → ¬ ∃ ms, a.Covers ms ∧ b.Covers ms := by
  have hproper : ∀ review ∈ accepted row, review.startMs < review.endMs := by
    intro review hreview
    exact h.proper review ((mem_accepted_iff h).mp hreview).1.1
  have hsorted : (accepted row).Pairwise fun a b => a.startMs ≤ b.startMs := by
    have htotal : Std.Total fun a b : Review => a.startMs ≤ b.startMs := ⟨fun a b => Int.le_total _ _⟩
    have htrans : IsTrans Review fun a b => a.startMs ≤ b.startMs := ⟨fun a b c hab hbc => Int.le_trans hab hbc⟩
    exact List.pairwise_insertionSort _ _
  rw [← Bool.not_eq_true, Sweep.conflicting_iff hsorted hproper]
  constructor
  · intro hnone a b ha hb hastands hbstands hlabel hmeet
    have hamem := (mem_accepted_iff h).mpr ⟨ha, hastands⟩
    have hbmem := (mem_accepted_iff h).mpr ⟨hb, hbstands⟩
    exact hnone ⟨a, hamem, b, hbmem, hlabel, (Sweep.overlap_iff (hproper a hamem) (hproper b hbmem)).mpr hmeet⟩
  · rintro hall ⟨a, hamem, b, hbmem, hlabel, hoverlap⟩
    obtain ⟨ha, hastands⟩ := (mem_accepted_iff h).mp hamem
    obtain ⟨hb, hbstands⟩ := (mem_accepted_iff h).mp hbmem
    exact hall a b ha hb hastands hbstands hlabel
      ((Sweep.overlap_iff (hproper a hamem) (hproper b hbmem)).mp hoverlap)

theorem lockable_iff (h : row.Annotated) :
    row.Lockable ↔ unreviewed row = false ∧
      Sweep.conflicting Review.startMs Review.endMs Review.label (accepted row) = false := by
  rw [unreviewed_eq_false_iff, conflicting_accepted_iff h]
  exact ⟨fun hlockable => ⟨hlockable.reviewed, hlockable.consistent⟩, fun hboth => ⟨hboth.1, hboth.2⟩⟩

/-! ## How `lock` runs -/

def Collection.lockedUp (c : Collection) : Collection :=
  ({ c with session := { c.session with locked := true } } : Collection).logged .sessionLocked

theorem lock_run (h : c.session.Annotated) (hsealed : c.session.state = .sealed) :
    (c.session.Lockable ∧ lock.run c = .ok () (if c.session.locked then c else c.lockedUp)) ∨
      (¬ c.session.Lockable ∧ ∃ e, lock.run c = .error e c) := by
  have hrow : (requireState [.sealed]).run c = .ok c.session c := requireState_mem (by simp [hsealed])
  rw [lockable_iff h]
  have hrun : lock.run c = _ := rfl
  conv at hrun => rhs; unfold lock
  rw [locked_run, run_bind_ok hrow] at hrun
  rw [hrun]
  by_cases hlocked : c.session.locked = true
  · rw [if_pos hlocked, if_pos hlocked]
    exact .inl ⟨(lockable_iff h).mp (h.lockable hlocked), rfl⟩
  · rw [if_neg hlocked, if_neg hlocked]
    by_cases hunreviewed : unreviewed c.session = true
    · rw [if_pos hunreviewed]
      exact .inr ⟨fun hboth => by simp [hunreviewed] at hboth, _, rfl⟩
    · rw [if_neg hunreviewed]
      by_cases hconflict : Sweep.conflicting Review.startMs Review.endMs Review.label (accepted c.session) = true
      · rw [if_pos hconflict]
        exact .inr ⟨fun hboth => by simp [hconflict] at hboth, _, rfl⟩
      · rw [if_neg hconflict]
        exact .inl ⟨⟨Bool.eq_false_iff.mpr hunreviewed, Bool.eq_false_iff.mpr hconflict⟩, rfl⟩

theorem lock_ok (h : c.session.Annotated) (hrun : lock.run c = .ok () after) :
    after.session.locked = true ∧ after.session.reviews = c.session.reviews ∧
      after.session.observables = c.session.observables := by
  have hsealed : c.session.state = .sealed := by
    obtain ⟨row, c', hrow, -⟩ := run_bind_eq_ok (locked_eq_ok hrun)
    simpa using (requireState_eq_ok hrow).1
  rcases lock_run h hsealed with ⟨-, hok⟩ | ⟨-, e, herror⟩
  · rw [hok] at hrun
    cases hrun
    split
    · next hlocked => exact ⟨hlocked, rfl, rfl⟩
    · refine ⟨rfl, rfl, ?_⟩
      simp [Collection.lockedUp, Collection.logged, Session.observables, List.filter_append, EventBody.isObservable]
  · rw [herror] at hrun
    cases hrun

theorem lock_refused (hstate : c.session.state ≠ .sealed) : ∃ e, lock.run c = .error e c := by
  unfold lock
  rw [locked_run, EStateM.run_bind, requireState_run, if_neg (by simpa using hstate)]
  exact ⟨_, rfl⟩

/-! ## How `review` runs -/

structure Session.Stores (row next : Session) (decision : Review) : Prop where
  state : row.state = .sealed
  unlocked : row.locked = false
  numbered : decision.revision = row.revision + 1
  proper : decision.startMs < decision.endMs
  state_next : next.state = row.state
  locked_next : next.locked = row.locked
  reviews : next.reviews = row.reviews ++ [decision]
  revision : next.revision = row.revision + 1

theorem review_conflict (h : (c.session.revision : Int) ≠ request.expectedRevision) :
    ∃ e, (review setup request).run c = .error e c := by
  unfold review
  split
  · split
    · exact ⟨_, rfl⟩
    · rw [locked_run, EStateM.run_bind, requireState_run]
      by_cases hstate : c.session.state ∈ [SessionState.sealed]
      · rw [if_pos hstate]
        dsimp only
        by_cases hlocked : c.session.locked = true
        · rw [if_pos hlocked]
          exact ⟨_, rfl⟩
        · rw [if_neg hlocked, if_pos h]
          exact ⟨_, rfl⟩
      · rw [if_neg hstate]
        exact ⟨_, rfl⟩
  · exact ⟨_, rfl⟩

theorem review_error {e : RuntimeError} (h : (review setup request).run c = .error e after) :
    after.session = c.session := by
  unfold review at h
  split at h
  · split at h
    · cases h
      rfl
    · exact locked_eq_error h
  · cases h
    rfl

theorem reviewedEvent_keeps (row : Session) (request : ReviewRequest) {eventId : Nat}
    (h : (reviewedEvent row request).run c = .ok eventId after) :
    after.session.state = c.session.state ∧ after.session.locked = c.session.locked ∧
      after.session.reviews = c.session.reviews := by
  unfold reviewedEvent at h
  split at h
  · cases h
    exact ⟨rfl, rfl, rfl⟩
  · rw [appendEvent_run] at h
    cases h
    exact ⟨rfl, rfl, rfl⟩

theorem review_ok {decision : Review} (h : (review setup request).run c = .ok decision after) :
    (c.session.revision : Int) = request.expectedRevision ∧ c.session.Stores after.session decision := by
  unfold review at h
  split at h
  · next label reviewStatus hlabel hreviewStatus =>
    split at h
    · cases h
    · next hproper =>
      obtain ⟨row, c', hrow, h⟩ := run_bind_eq_ok (locked_eq_ok h)
      obtain ⟨hstate, hrow, hsame⟩ := requireState_eq_ok hrow
      subst hrow hsame
      split at h
      · cases h
      · next hlocked =>
        split at h
        · cases h
        · next hrevision =>
          rw [run_bind_ok (EStateM.run_get _)] at h
          obtain ⟨duration, c'', hduration, h⟩ := run_bind_eq_ok h
          obtain ⟨-, hsame⟩ := liftExcept_eq_ok hduration
          subst hsame
          split at h
          · cases h
          · obtain ⟨eventId, middle, hevent, h⟩ := run_bind_eq_ok h
            obtain ⟨hsameState, hsameLocked, hsameReviews⟩ := reviewedEvent_keeps _ _ hevent
            rw [run_bind_ok (EStateM.run_get _)] at h
            split at h
            · cases h
              simp only [not_or, not_le] at hproper
              refine ⟨by simpa using hrevision, by simpa using hstate, by simpa using hlocked, rfl, hproper.2.1,
                hsameState, hsameLocked, ?_, rfl⟩
              rw [← hsameReviews]
            · cases h
  · cases h

/-! ## What the other sections leave alone -/

/-- Neither the reviews nor what they are about change, and a collection that is over stays so. -/
structure Session.Quiet (row next : Session) : Prop where
  reviews : next.reviews = row.reviews
  revision : next.revision = row.revision
  locked : next.locked = row.locked
  observables : next.observables = row.observables
  stillOver : row.state.isOver = true → next.state.isOver = true

theorem Session.Quiet.of_eq (h : next = row) : row.Quiet next := by
  rw [h]
  exact ⟨rfl, rfl, rfl, rfl, id⟩

theorem Session.Quiet.ended {event : Event} (hbody : event.body.isObservable = false)
    (hreviews : next.reviews = row.reviews) (hrevision : next.revision = row.revision)
    (hlocked : next.locked = row.locked) (hevents : next.events = row.events ++ [event])
    (hstate : next.state.isOver = true) : row.Quiet next := by
  refine ⟨hreviews, hrevision, hlocked, ?_, fun _ => hstate⟩
  simp [Session.observables, hevents, List.filter_append, hbody]

theorem finishExport_quiet (c : Collection) : c.session.Quiet (final (finishExport.run c)).session :=
  ⟨rfl, rfl, rfl, rfl, id⟩

theorem finishWithdraw_quiet (setup : Setup) (call : WithdrawCall) (env : RemovalEnv) (c : Collection) :
    c.session.Quiet (final ((finishWithdraw setup call env).run c)).session := by
  rcases finishWithdraw_cases setup call env c with
    ⟨failureCode, hrun, -⟩ | hrun | ⟨removed, -, hrun, -⟩ | ⟨inventory, removed, -, hremoves, hrun⟩
  · rw [hrun]
    exact .ended rfl rfl rfl rfl rfl rfl
  · rw [hrun]
    exact .of_eq rfl
  · rw [hrun]
    exact .of_eq rfl
  · rw [hrun, ← show removed.session = c.session from hremoves.session]
    exact .ended rfl rfl rfl rfl rfl rfl

theorem withdrawTestArtifacts_quiet (setup : Setup) (fault : Option Fault) (c : Collection) :
    c.session.Quiet (final ((withdrawTestArtifacts setup fault).run c)).session := by
  rcases withdrawTestArtifacts_cases setup fault c with ⟨e, removed, hrun, hremoves, -⟩ | ⟨removed, hrun, hremoves, -⟩
  · rw [hrun]
    exact .of_eq hremoves.session
  · rw [hrun, ← hremoves.session]
    exact .ended rfl rfl rfl rfl rfl rfl

theorem recover_quiet (fault : Option Fault) (c : Collection) :
    c.session.Quiet (recover fault c.restarted).session := by
  rcases recover_cases fault c with hrun | ⟨-, moved, hmoved, hrun | hrun⟩
  · rw [hrun]
    exact .of_eq rfl
  · rw [hrun]
    exact .of_eq hmoved.session
  · rw [hrun, ← show moved.session = c.session from hmoved.session]
    exact .ended rfl rfl rfl rfl rfl rfl

/-! ## Steps -/

inductive Session.Annotates (row next : Session) : Prop
  | quiet (h : row.Quiet next)
  | collects (early : row.state.isOver = false) (h : row.Collected next)
  | stores (decision : Review) (h : row.Stores next decision)
  | locks (lockable : row.Lockable) (unlocked : row.locked = false) (reviews : next.reviews = row.reviews)
      (revision : next.revision = row.revision) (locked : next.locked = true)
      (observables : next.observables = row.observables) (stillOver : next.state.isOver = true)

theorem perform_annotates (part : Section) (active : Bool) (h : c.session.Annotated) :
    c.session.Annotates (final ((perform setup active part).run c)).session := by
  cases hcollects : part.collects with
  | true =>
    cases hover : c.session.state.isOver with
    | true => exact .quiet (.of_eq (collects_over active hcollects hover))
    | false => exact .collects hover (collects_perform active hcollects c).session
  | false =>
    cases part with
    | review request =>
      unfold perform
      rw [EStateM.run_bind]
      cases hrun : (review setup request).run c with
      | ok decision after => exact .stores decision (review_ok hrun).2
      | error e after => exact .quiet (.of_eq (review_error hrun))
    | lock =>
      unfold perform
      rw [EStateM.run_bind]
      by_cases hsealed : c.session.state = .sealed
      · rcases lock_run h hsealed with ⟨hlockable, hrun⟩ | ⟨-, e, hrun⟩
        · rw [hrun]
          by_cases hlocked : c.session.locked = true
          · rw [if_pos hlocked]
            exact .quiet (.of_eq rfl)
          · rw [if_neg hlocked]
            refine .locks hlockable (Bool.eq_false_iff.mpr hlocked) rfl rfl rfl ?_ ?_
            · simp [Collection.lockedUp, Collection.logged, Session.observables, List.filter_append, EventBody.isObservable]
            · simp [Collection.lockedUp, Collection.logged, hsealed, SessionState.isOver]
        · rw [hrun]
          exact .quiet (.of_eq rfl)
      · obtain ⟨e, hrun⟩ := lock_refused hsealed
        rw [hrun]
        exact .quiet (.of_eq rfl)
    | finishExport => exact .quiet (finishExport_quiet c)
    | finishWithdraw call env =>
      have hquiet := finishWithdraw_quiet setup call env c
      unfold perform
      rw [EStateM.run_bind]
      cases hrun : (finishWithdraw setup call env).run c <;> rw [hrun] at hquiet <;> exact .quiet hquiet
    | withdrawTestArtifacts fault =>
      have hquiet := withdrawTestArtifacts_quiet setup fault c
      unfold perform
      rw [EStateM.run_bind]
      cases hrun : (withdrawTestArtifacts setup fault).run c <;> rw [hrun] at hquiet <;> exact .quiet hquiet
    | _ => cases hcollects

theorem steps_annotates (hsteps : StepsTo setup w a index c after) (h : c.session.Annotated) :
    c.session.Annotates after.session := by
  cases hsteps with
  | stays => exact .quiet (.of_eq rfl)
  | performs part ha hrunning hcalls => exact perform_annotates part w.active h
  | restarts fault ha => exact .quiet (recover_quiet fault c)

theorem Session.Lockable.congr (hreviews : next.reviews = row.reviews) (hobservables : next.observables = row.observables)
    (h : row.Lockable) : next.Lockable := by
  refine ⟨?_, ?_⟩
  · rw [hobservables, hreviews]
    exact h.reviewed
  · unfold Session.Latest
    rw [hreviews]
    exact h.consistent

theorem Session.Annotates.annotated (hnext : row.Annotates next) (h : row.Annotated) : next.Annotated := by
  cases hnext with
  | quiet hquiet =>
    refine ⟨?_, ?_, ?_, fun hearly => ?_, fun hlocked => ?_⟩
    · rw [hquiet.reviews]
      exact h.numbered
    · rw [hquiet.reviews, hquiet.revision]
      exact h.counted
    · rw [hquiet.reviews]
      exact h.proper
    · rw [hquiet.reviews, hquiet.locked]
      refine h.early (Bool.eq_false_iff.mpr fun hover => ?_)
      rw [hquiet.stillOver hover] at hearly
      cases hearly
    · exact (h.lockable (hquiet.locked ▸ hlocked)).congr hquiet.reviews hquiet.observables
  | collects hearly hcollected =>
    refine ⟨?_, ?_, ?_, fun _ => ?_, fun hlocked => ?_⟩
    · rw [hcollected.reviews]
      exact h.numbered
    · rw [hcollected.reviews, hcollected.revision]
      exact h.counted
    · rw [hcollected.reviews]
      exact h.proper
    · rw [hcollected.reviews, hcollected.locked]
      exact h.early hearly
    · rw [hcollected.locked, (h.early hearly).2] at hlocked
      cases hlocked
  | stores decision hstores =>
    refine ⟨?_, ?_, ?_, fun hearly => ?_, fun hlocked => ?_⟩
    · rw [hstores.reviews, List.map_append]
      refine h.numbered.concat ?_
      rw [hstores.numbered, h.counted, List.length_map]
      omega
    · rw [hstores.reviews, hstores.revision, h.counted, List.length_append]
      rfl
    · intro review hreview
      rw [hstores.reviews] at hreview
      rcases List.mem_append.mp hreview with hold | hnew
      · exact h.proper review hold
      · rw [List.mem_singleton.mp hnew]
        exact hstores.proper
    · rw [hstores.state_next, hstores.state] at hearly
      cases hearly
    · rw [hstores.locked_next, hstores.unlocked] at hlocked
      cases hlocked
  | locks hlockable hunlocked hreviews hrevision hlocked hobservables hover =>
    refine ⟨?_, ?_, ?_, fun hearly => ?_, fun _ => hlockable.congr hreviews hobservables⟩
    · rw [hreviews]
      exact h.numbered
    · rw [hreviews, hrevision]
      exact h.counted
    · rw [hreviews]
      exact h.proper
    · rw [hover] at hearly
      cases hearly

theorem reachable_annotated (h : Reachable (service setup) w) : ∀ c ∈ w.collections, c.session.Annotated := by
  refine collections_invariant createSession_annotated ?_ h
  intro w a index c after _ _ _ hannotated hsteps
  exact (steps_annotates hsteps hannotated).annotated hannotated

/-! ## Whole runs -/

structure Session.Follows (row next : Session) : Prop where
  revision : row.revision ≤ next.revision
  locked : row.locked = true →
    next.locked = true ∧ next.reviews = row.reviews ∧ next.observables = row.observables

theorem Session.Follows.trans {a b c : Session} (hab : a.Follows b) (hbc : b.Follows c) : a.Follows c := by
  refine ⟨hab.revision.trans hbc.revision, fun hlocked => ?_⟩
  obtain ⟨hb, hbReviews, hbObservables⟩ := hab.locked hlocked
  obtain ⟨hc, hcReviews, hcObservables⟩ := hbc.locked hb
  exact ⟨hc, hcReviews.trans hbReviews, hcObservables.trans hbObservables⟩

theorem Session.Annotates.follows (hnext : row.Annotates next) (h : row.Annotated) : row.Follows next := by
  cases hnext with
  | quiet hquiet =>
    exact ⟨hquiet.revision.ge, fun hlocked => ⟨hquiet.locked.trans hlocked, hquiet.reviews, hquiet.observables⟩⟩
  | collects hearly hcollected =>
    refine ⟨hcollected.revision.ge, fun hlocked => ?_⟩
    rw [(h.early hearly).2] at hlocked
    cases hlocked
  | stores decision hstores =>
    refine ⟨by rw [hstores.revision]; omega, fun hlocked => ?_⟩
    rw [hstores.unlocked] at hlocked
    cases hlocked
  | locks hlockable hunlocked hreviews hrevision hlocked hobservables hover =>
    exact ⟨hrevision.ge, fun _ => ⟨hlocked, hreviews, hobservables⟩⟩

theorem later_follows (hreach : Reachable (service setup) w) {w' : World} (hlater : Later (service setup) w w')
    (hfound : w.collections[index]? = some c) :
    ∃ after, w'.collections[index]? = some after ∧ c.session.Follows after.session := by
  refine collections_later (R := fun c after => c.session.Follows after.session) ?_ (fun h h' => h.trans h') hreach ?_
    hlater hfound
  · exact fun c => ⟨Nat.le_refl _, fun hlocked => ⟨hlocked, rfl, rfl⟩⟩
  · intro w a index c after hreach hfound hsteps
    have hannotated := reachable_annotated hreach c (List.mem_of_getElem? hfound)
    exact (steps_annotates hsteps hannotated).follows hannotated

theorem step_performs (setup : Setup) (part : Section) (hrunning : w.running = true) (hfound : w.collections[index]? = some c)
    (hcontinues : part.continues = none) (hcapture : part.isCapture = false) :
    (w.step setup (.act index part)).collections[index]? =
      some (final ((perform setup w.active part).run c)) := by
  obtain ⟨hlt, -⟩ := List.getElem?_eq_some_iff.mp hfound
  have hset := act_collections setup w index c part (by simp [hcontinues]) (by simp [hcapture])
  simp only [World.step, hrunning, hfound]
  rw [hset, List.getElem?_set_self hlt]

/-- In every run the reviews of a session are numbered by its revision; once a review is stored, every later call
that expects the same revision changes nothing; the lock of a sealed session is set exactly over reviews that it may
be set over; from then on neither the reviews nor the observable events change; and a review that fails leaves the
session as it was. -/
theorem review_log_and_lock (setup : Setup) :
    (∀ w, Reachable (service setup) w → ∀ c ∈ w.collections,
      Consecutive 0 (c.session.reviews.map Review.revision) ∧ c.session.revision = c.session.reviews.length) ∧
    (∀ w, Reachable (service setup) w → w.running = true → ∀ index c, w.collections[index]? = some c →
      ∀ request decision after, (review setup request).run c = .ok decision after →
      ∀ w', Later (service setup) (w.step setup (.act index (.review request))) w' →
      ∀ c', w'.collections[index]? = some c' →
      ∀ request' : ReviewRequest, request'.expectedRevision = request.expectedRevision →
        ∃ e, (review setup request').run c' = .error e c') ∧
    (∀ w, Reachable (service setup) w → ∀ c ∈ w.collections, c.session.state = .sealed →
      ((∃ after, lock.run c = .ok () after ∧ after.session.locked = true) ↔ c.session.Lockable)) ∧
    (∀ w, Reachable (service setup) w → w.running = true → ∀ index c, w.collections[index]? = some c →
      ∀ after, lock.run c = .ok () after →
      ∀ w', Later (service setup) (w.step setup (.act index .lock)) w' →
        ∃ c', w'.collections[index]? = some c' ∧ c'.session.reviews = c.session.reviews ∧
          c'.session.observables = c.session.observables) ∧
    ∀ c request e after, (review setup request).run c = .error e after → after.session = c.session := by
  refine ⟨fun w hreach c hmem => ?_, ?_, fun w hreach c hmem hsealed => ?_, ?_, fun c request e after => review_error⟩
  · have hannotated := reachable_annotated hreach c hmem
    exact ⟨hannotated.numbered, hannotated.counted⟩
  · intro w hreach hrunning index c hfound request decision after hrun w' hlater c' hfound' request' hexpected
    have hnext := step_performs setup (.review request) hrunning hfound rfl rfl
    have hperform : final ((perform setup w.active (.review request)).run c) = after := by
      unfold perform
      rw [run_bind_ok hrun]
      rfl
    rw [hperform] at hnext
    obtain ⟨c'', hfound'', hfollows⟩ := later_follows (hreach.next rfl) hlater hnext
    obtain rfl := Option.some.inj (hfound'.symm.trans hfound'')
    obtain ⟨hrevision, hstores⟩ := review_ok hrun
    refine review_conflict ?_
    have hgrown := hfollows.revision
    rw [hstores.revision] at hgrown
    rw [hexpected, ← hrevision]
    omega
  · rcases lock_run (reachable_annotated hreach c hmem) hsealed with ⟨hlockable, hrun⟩ | ⟨hlockable, e, hrun⟩
    · refine ⟨fun _ => hlockable, fun _ => ⟨_, hrun, ?_⟩⟩
      split
      · assumption
      · rfl
    · constructor
      · rintro ⟨after, hok, -⟩
        rw [hrun] at hok
        cases hok
      · intro h
        exact absurd h hlockable
  · intro w hreach hrunning index c hfound after hrun w' hlater
    have hnext := step_performs setup .lock hrunning hfound rfl rfl
    have hperform : final ((perform setup w.active .lock).run c) = after := by
      unfold perform
      rw [run_bind_ok hrun]
      rfl
    rw [hperform] at hnext
    obtain ⟨hlocked, hreviews, hobservables⟩ := lock_ok (reachable_annotated hreach c (List.mem_of_getElem? hfound)) hrun
    obtain ⟨c', hfound', hfollows⟩ := later_follows (hreach.next rfl) hlater hnext
    obtain ⟨-, hsameReviews, hsameObservables⟩ := hfollows.locked hlocked
    exact ⟨c', hfound', hsameReviews.trans hreviews, hsameObservables.trans hobservables⟩

namespace Sample

def annotation : ReviewRequest where
  eventId := none
  label := some .normal
  reviewStatus := some .confirmed
  startMs := 0
  endMs := 67
  reason := "seen"
  expectedRevision := 0

/-- Two reviews, of which the first call of the second one expects the revision before the first. -/
def reviewing : List Action :=
  recording ++ sealing ++ [.act 0 (.review annotation), .act 0 (.review annotation),
    .act 0 (.review { annotation with expectedRevision := 1, reviewStatus := some .rejected })]

end Sample

/-- In the sample run two reviews are stored and the lock is set over them. -/
theorem review_log_and_lock_sample : ∃ c ∈ (Sample.run Sample.reviewing).collections,
    Consecutive 0 (c.session.reviews.map Review.revision) ∧ c.session.reviews.length = 2 ∧ c.session.revision = 2 ∧
      ∃ after, lock.run c = .ok () after ∧ after.session.locked = true := by
  have hreach := Sample.run_reachable Sample.reviewing
  have hsample : ∃ c ∈ (Sample.run Sample.reviewing).collections, c.session.state = .sealed ∧
      c.session.reviews.length = 2 ∧ c.session.revision = 2 ∧ unreviewed c.session = false ∧
      Sweep.conflicting Review.startMs Review.endMs Review.label (accepted c.session) = false := by
    decide +kernel
  obtain ⟨c, hmem, hsealed, hlength, hrevision, hboth⟩ := hsample
  refine ⟨c, hmem, ((review_log_and_lock Sample.setup).1 _ hreach c hmem).1, hlength, hrevision, ?_⟩
  exact ((review_log_and_lock Sample.setup).2.2.1 _ hreach c hmem hsealed).mpr
    ((lockable_iff (reachable_annotated hreach c hmem)).mpr hboth)

end PduExamObserver.ResearchRuntime
