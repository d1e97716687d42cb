import PduExamObserver.ResearchRuntime.Frames

/-! # Taking frames

When `ingest_frame` comes to an end, and what it leaves behind then: the frame is taken as a whole, or the session
has failed. -/

namespace PduExamObserver.ResearchRuntime
open Showcase Stateful
set_option autoImplicit false

variable {setup : Setup} {env : FrameEnv} {c after : Collection} {observation : Observation}

/-! ## When nothing raises -/

/-- Flushing the timeline does not raise, or there is none to flush. -/
def closesCleanly (closeRaises : Bool) (streaming : Prop) : Prop := closeRaises = false ∨ ¬ streaming

/-- The frames that a write counts as lost. -/
def frameHole (c : Collection) (observation : Observation) (dropped : Nat) : Nat :=
  max dropped ((c.streamFor observation.capturedNs).missing observation.capturedNs).toNat

/-- The frame is written, its lost frames can be counted and its emission goes through; or it is not written, and the
stream can be closed. -/
def storesCleanly (setup : Setup) (env : FrameEnv) (c : Collection) (observation : Observation) (dropped : Nat) : Prop :=
  (frameWritten env.write c observation ∧ c.session.droppedFrames + frameHole c observation dropped ≤ sqliteMax ∧
    emitsCleanly setup env.emit c.session
      { c.memory with poseBuffer := pushBounded c.memory.poseBuffer observation } observation) ∨
  (¬ frameWritten env.write c observation ∧
    closesCleanly env.closeRaises (c.memory.stream.isSome = true ∨ canOpen env.write c))

def Collection.isLate (c : Collection) (capturedNs : Int) : Bool :=
  c.memory.poseBuffer.getLast?.any fun last => capturedNs ≤ last.capturedNs

def takesCleanly (setup : Setup) (env : FrameEnv) (c : Collection) (capturedNs : Int) (dropped : Nat) : Prop :=
  if c.isLate capturedNs then closesCleanly env.closeRaises (c.memory.stream.isSome = true)
  else
    match env.analysis with
    | .error _ => closesCleanly env.closeRaises (c.memory.stream.isSome = true)
    | .poses state blur exposure landmarks =>
      storesCleanly setup env c
        (observationOf env c.session c.memory.poseBuffer capturedNs state blur exposure landmarks) dropped

/-- The call meets none of these in the state that it finds: an authority record that cannot be checked, a time that is
too large to be counted in nanoseconds, a timeline that cannot be closed after a frame that is refused or not written,
and after a frame that is written a count of lost frames or an emission that fails. -/
def ingestsCleanly (setup : Setup) (env : FrameEnv) (c : Collection) : Prop :=
  match ingestRefusal setup env c.session with
  | .error _ => False
  | .ok (some _) => closesCleanly env.closeRaises (c.memory.stream.isSome = true)
  | .ok none =>
    match env.capturedAt.toNs with
    | .error _ => False
    | .ok capturedNs => takesCleanly setup env c capturedNs (env.droppedFrames.getD 0)

/-! ## What the call leaves behind -/

structure Session.Collected (row after : Session) : Prop where
  sessionId : after.sessionId = row.sessionId
  sourceKind : after.sourceKind = row.sourceKind
  revision : after.revision = row.revision
  locked : after.locked = row.locked
  reviews : after.reviews = row.reviews
  exports : after.exports = row.exports
  withdrawalTasks : after.withdrawalTasks = row.withdrawalTasks
  artifacts : ∀ record ∈ after.artifacts, record ∈ row.artifacts ∨ record.name ∈ finalNames

theorem Session.Collected.refl (row : Session) : row.Collected row := ⟨rfl, rfl, rfl, rfl, rfl, rfl, rfl, fun _ => .inl⟩

theorem Session.Collected.trans {a b c : Session} (hab : a.Collected b) (hbc : b.Collected c) : a.Collected c where
  sessionId := hbc.sessionId.trans hab.sessionId
  sourceKind := hbc.sourceKind.trans hab.sourceKind
  revision := hbc.revision.trans hab.revision
  locked := hbc.locked.trans hab.locked
  reviews := hbc.reviews.trans hab.reviews
  exports := hbc.exports.trans hab.exports
  withdrawalTasks := hbc.withdrawalTasks.trans hab.withdrawalTasks
  artifacts record h := (hbc.artifacts record h).elim (hab.artifacts record) .inr

structure Collection.Ingests (c after : Collection) : Prop where
  session : c.session.Collected after.session
  withdrawals : c.Linked → after.session.withdrawals = c.session.withdrawals
  tracks : c.Tracks after
  directory : after.directory.isSome = c.directory.isSome
  quarantine : after.quarantine = c.quarantine
  worker : after.worker = c.worker
  captureThread : after.memory.captureThread = c.memory.captureThread
  names : ∀ name ∈ after.names, name ∈ c.names ∨ name = videoPartial ∨ name = posePartial
  nodup : c.names.Nodup → after.names.Nodup
  contents : ∀ file ∈ after.files, file ∈ c.files ∨ file.2.lines = [] ∨ file.2.lines = c.partialLines ∨
    ∃ observation, observation.frameSeq = c.session.frameSeq + 1 ∧ file.2.lines = c.partialLines ++ [observation] ∧
      c.writable
  attached : c.Attached → after.Attached

namespace Collection.Ingests

theorem refl (c : Collection) : c.Ingests c where
  session := .refl _
  withdrawals _ := rfl
  tracks := .refl c
  directory := rfl
  quarantine := rfl
  worker := rfl
  captureThread := rfl
  names _ := .inl
  nodup := id
  contents _ h := .inl h
  attached := id

theorem rollback (h : c.Ingests after) : c.Ingests (c.rollback after) where
  session := .refl _
  withdrawals _ := rfl
  tracks := h.tracks.rollback
  directory := h.directory
  quarantine := h.quarantine
  worker := h.worker
  captureThread := h.captureThread
  names := h.names
  nodup := h.nodup
  contents := h.contents
  attached := h.attached

end Collection.Ingests

structure Collection.Settles (c after : Collection) : Prop where
  session : c.session.Collected after.session
  withdrawals : c.Linked → after.session.withdrawals = c.session.withdrawals
  tracks : c.Tracks after
  directory : after.directory = c.directory
  quarantine : after.quarantine = c.quarantine
  worker : after.worker = c.worker
  captureThread : after.memory.captureThread = c.memory.captureThread
  stream : after.memory.stream.isSome = true → c.memory.stream.isSome = true

namespace Collection.Settles

theorem trans {a b c : Collection} (hab : a.Settles b) (hbc : b.Settles c) : a.Settles c where
  session := hab.session.trans hbc.session
  withdrawals h := (hbc.withdrawals (hab.tracks.linked h)).trans (hab.withdrawals h)
  tracks := hab.tracks.trans hbc.tracks
  directory := hbc.directory.trans hab.directory
  quarantine := hbc.quarantine.trans hab.quarantine
  worker := hbc.worker.trans hab.worker
  captureThread := hbc.captureThread.trans hab.captureThread
  stream := hab.stream ∘ hbc.stream

theorem of_emits (h : c.Emits after) : c.Settles after where
  session := by
    rw [h.session]
    exact ⟨rfl, rfl, rfl, rfl, rfl, rfl, rfl, fun _ => .inl⟩
  withdrawals := h.withdrawals
  tracks := h.tracks
  directory := h.directory
  quarantine := h.quarantine
  worker := h.worker
  captureThread := h.captureThread
  stream hsome := h.stream ▸ hsome

theorem of_row (c : Collection) {row : Session} (hcollected : c.session.Collected row)
    (hevents : row.events = c.session.events) : c.Settles { c with session := row } where
  session := hcollected
  withdrawals _ := by rw [Session.withdrawals, hevents, ← Session.withdrawals]
  tracks := .of_eq rfl hevents rfl
  directory := rfl
  quarantine := rfl
  worker := rfl
  captureThread := rfl
  stream := id

theorem closed (c : Collection) : c.Settles c.closed where
  session := .refl _
  withdrawals _ := rfl
  tracks := .of_eq rfl rfl rfl
  directory := rfl
  quarantine := rfl
  worker := rfl
  captureThread := rfl
  stream h := by cases h

theorem logged (c : Collection) {body : EventBody} (hrefers : body.refers = none)
    (hwithdrawal : Event.withdrawal? ⟨c.fresh, c.session.nextSeq, body⟩ = none) : c.Settles (c.logged body) where
  session := ⟨rfl, rfl, rfl, rfl, rfl, rfl, rfl, fun _ => .inl⟩
  withdrawals _ := by simp [Session.withdrawals, Collection.logged, List.filterMap_append, hwithdrawal]
  tracks := .logged c body fun _ _ heq => nomatch hrefers.symm.trans heq
  directory := rfl
  quarantine := rfl
  worker := rfl
  captureThread := rfl
  stream := id

theorem failed (c : Collection) (failureCode : String) : c.Settles (c.failed failureCode) := by
  have hrow : c.closed.Settles { c.closed with session := { c.session with
      state := .failed
      failureCode := some failureCode
      qualityState := .technicalInsufficient } } := of_row c.closed ⟨rfl, rfl, rfl, rfl, rfl, rfl, rfl, fun _ => .inl⟩ rfl
  exact ((closed c).trans hrow).trans (@logged _ (.technicalFailure failureCode) rfl rfl)

end Collection.Settles

theorem Collection.Ingests.settle {a b c : Collection} (hab : a.Ingests b) (hbc : b.Settles c) : a.Ingests c where
  session := hab.session.trans hbc.session
  withdrawals h := (hbc.withdrawals (hab.tracks.linked h)).trans (hab.withdrawals h)
  tracks := hab.tracks.trans hbc.tracks
  directory := by rw [hbc.directory, hab.directory]
  quarantine := hbc.quarantine.trans hab.quarantine
  worker := hbc.worker.trans hab.worker
  captureThread := hbc.captureThread.trans hab.captureThread
  names := by
    rw [names_congr hbc.directory]
    exact hab.names
  nodup h := by
    rw [names_congr hbc.directory]
    exact hab.nodup h
  contents := by
    unfold Collection.files
    rw [hbc.directory]
    exact hab.contents
  attached ha hsome := by
    have hfile := hab.attached ha (hbc.stream hsome)
    unfold Collection.hasFile Collection.files at hfile ⊢
    rwa [hbc.directory]

structure Collection.Accepted (c after : Collection) (observation : Observation) : Prop where
  numbered : observation.frameSeq = c.session.frameSeq + 1
  frameSeq : after.session.frameSeq = c.session.frameSeq + 1
  state : after.session.state = c.session.state
  lines : after.partialLines = c.partialLines ++ [observation]
  events : after.session.poseObservations = c.session.poseObservations ++ [observation]
  history : after.memory.poseBuffer = pushBounded c.memory.poseBuffer observation

theorem writeRefused_run {e : RuntimeError} (he : e.isArtifactError = true) (closeRaises : Bool) :
    ∃ failureCode, writeRefused closeRaises e = (do failLocked closeRaises failureCode; return none) := by
  cases e with
  | osError => exact ⟨_, rfl⟩
  | runtimeErrorBase code => exact ⟨_, rfl⟩
  | invalidTransition code => exact ⟨_, rfl⟩
  | authorityDenied code => exact ⟨_, rfl⟩
  | revisionConflict code => exact ⟨_, rfl⟩
  | valueError code => cases he
  | typeError => cases he
  | overflowError => cases he
  | subprocessError => cases he
  | unexpected => cases he

end PduExamObserver.ResearchRuntime
