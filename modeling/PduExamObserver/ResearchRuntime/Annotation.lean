import PduExamObserver.Library.Sweep
import PduExamObserver.ResearchRuntime.Sessions

/-! # Annotating a stopped session

The seal over the two artifacts, the review log with its revision counter, the lock over the reviews and the
export of a locked session. -/

namespace PduExamObserver.ResearchRuntime
open Showcase Stateful
set_option autoImplicit false

/-! ## Seal -/

def finalNames : List String := [videoDestination, poseDestination]

def recordMatches (setup : Setup) (directory : Option Directory) (record : ArtifactRecord) : Bool :=
  match (directory.getD []).lookup record.name with
  | none => false
  | some content => setup.digests.size content = record.sizeBytes ∧ setup.digests.sha256 content = record.sha256

/-- `_verify_artifacts_locked`. -/
def verifyArtifacts (setup : Setup) (row : Session) (directory : Option Directory) : Except RuntimeError Unit :=
  let names := row.artifacts.map ArtifactRecord.name
  if ¬ (names ⊆ finalNames ∧ finalNames ⊆ names) then .error (.invalidTransition "ARTIFACT_MANIFEST_MISSING")
  else if row.artifacts.all (recordMatches setup directory) then .ok ()
  else .error (.invalidTransition "ARTIFACT_INTEGRITY_FAILED")

/-- `seal`. -/
def sealSession (setup : Setup) : Op Unit := locked do
  let row ← requireState [.stopped]
  liftExcept (verifyArtifacts setup row (← get).directory)
  updateSession fun row => { row with state := .sealed }
  let _ ← appendEvent .sessionSealed

/-! ## Reviews -/

def maxPoseTimelineBytes : Nat := 256 * 1024 * 1024

/-- `_duration_ms_locked`; a file that is no timeline does not parse. -/
def durationMs (setup : Setup) (directory : Option Directory) : Except RuntimeError Int :=
  match (directory.getD []).lookup poseDestination with
  | none => .error .osError
  | some content =>
    if maxPoseTimelineBytes < setup.digests.size content then .error (.invalidTransition "ARTIFACT_TOO_LARGE")
    else
      match content with
      | .timeline lines false =>
        match lines.head?, lines.getLast? with
        | some first, some last => .ok ((last.capturedNs - first.capturedNs) / 1000000 + 67)
        | _, _ => .ok 0
      | _ => .error (.valueError "JSONDecodeError")

/-- The arguments of `review`: an empty event id, a label that is none of the labels and a status that is none
of the statuses are none. -/
structure ReviewRequest where
  eventId : Option Nat
  label : Option Label
  reviewStatus : Option ReviewStatus
  startMs : Int
  endMs : Int
  reason : String
  expectedRevision : Int
  deriving DecidableEq

/-- The part of `review` that stores the decision about an event. -/
def storeReview (row : Session) (request : ReviewRequest) (label : Label) (reviewStatus : ReviewStatus)
    (eventId : Nat) : Op Review := do
  let reviewId ← uuid
  let decision : Review :=
    { reviewId, eventId, label, reviewStatus
      startMs := request.startMs
      endMs := request.endMs
      reason := strip request.reason
      revision := row.revision + 1
      operatorPseudonym := row.operatorPseudonym }
  updateSession fun row => { row with reviews := row.reviews ++ [decision], revision := decision.revision }
  let _ ← appendEvent (.reviewDecision eventId label reviewStatus reviewId)
  return decision

def reviewedEvent (row : Session) (request : ReviewRequest) : Op Nat :=
  match request.eventId with
  | some eventId => return eventId
  | none =>
    appendEvent (.observableEvent (eventPayload row .uncertain request.startMs request.endMs ["MANUAL_ANNOTATION"]))

def review (setup : Setup) (request : ReviewRequest) : Op Review :=
  match request.label, request.reviewStatus with
  | some label, some reviewStatus =>
    if request.startMs < 0 ∨ request.endMs ≤ request.startMs ∨ strip request.reason = "" then
      throw (.valueError "invalid review boundary or reason")
    else locked do
      let row ← requireState [.sealed]
      if row.locked then throw (.invalidTransition "session is locked")
      else if (row.revision : Int) ≠ request.expectedRevision then
        throw (.revisionConflict "session revision changed")
      else
        let duration ← liftExcept (durationMs setup (← get).directory)
        if duration < request.endMs then throw (.valueError "REVIEW_OUTSIDE_TIMELINE")
        else
          let eventId ← reviewedEvent row request
          if (← get).session.events.any fun event => event.eventId = eventId ∧ event.body.isObservable then
            storeReview row request label reviewStatus eventId
          else throw (.valueError "event does not belong to session")
  | _, _ => throw (.valueError "invalid review label or status")

/-- `list_reviews`: the reviews by revision. -/
def listReviews (row : Session) : List Review := row.reviews.insertionSort fun a b => a.revision ≤ b.revision

/-! ## Lock -/

def unreviewed (row : Session) : Bool :=
  row.events.any fun event => event.body.isObservable ∧ row.reviews.all fun review => review.eventId ≠ event.eventId

def accepted (row : Session) : List Review :=
  ((Sweep.latest Review.eventId (listReviews row)).filter fun review => review.reviewStatus ≠ .rejected).insertionSort
    fun a b => a.startMs ≤ b.startMs

def lock : Op Unit := locked do
  let row ← requireState [.sealed]
  if row.locked then return
  else if unreviewed row then throw (.invalidTransition "UNREVIEWED_EVENT")
  else if Sweep.conflicting Review.startMs Review.endMs Review.label (accepted row) then
    throw (.invalidTransition "CONFLICTING_REVIEW_INTERVALS")
  else
    updateSession fun row => { row with locked := true }
    let _ ← appendEvent .sessionLocked

/-! ## Export -/

/-- What the first section of an export sees; `built` says how the records and the bundle come out. -/
structure ExportEnv where
  authority : AuthorityAnswer
  exportNow : Rat
  built : Except RuntimeError Unit

/-- The first section of `export_allowlisted`. -/
def beginExport (setup : Setup) (env : ExportEnv) : Op Unit := do
  let row ← requireState [.sealed]
  liftExcept (verifyArtifacts setup row (← get).directory)
  if !row.locked then throw (.invalidTransition "seal and lock before export")
  else if row.sourceKind = .real ∧ row.participantPseudonym = "" then
    throw (.authorityDenied "REAL export requires pseudonymous binding")
  else
    if row.sourceKind = .real then liftExcept (validateExportAuthority setup env.authority env.exportNow row)
    liftExcept env.built

/-- The second section of `export_allowlisted`. -/
def finishExport : Op Unit := locked do
  let exportId ← uuid
  updateSession fun row => { row with exports := row.exports ++ [exportId] }

end PduExamObserver.ResearchRuntime
