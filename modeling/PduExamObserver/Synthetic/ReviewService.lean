import Mathlib.Data.List.Nodup
import PduExamObserver.Library.Transition

/-! # The service for synthetic review runs

Callers hold the lock for the whole of a method; the worker of the executor takes it twice a run, and an export
keeps it while it reads the artifact. A step is one locked section, or one thing done without the lock. -/

namespace PduExamObserver.SyntheticReview
open Transition
set_option autoImplicit false

/-! ## Records -/

inductive SyntheticReviewRunKind where
  | preflight60s
  | nominal20m
deriving DecidableEq

inductive SyntheticReviewJobStatus where
  | queued
  | running
  | terminal
deriving DecidableEq

inductive SyntheticReviewServiceFailureCode where
  | serviceClosed
  | runAlreadyActive
  | capacityExhausted
  | idempotencyConflict
  | platformUnsupported
  | evidenceNotExportable
  | evidenceIntegrityFailed
  | unexpectedFailure
deriving DecidableEq

inductive IntegrationStatus where
  | persisted
  | notPersisted
deriving DecidableEq

structure SyntheticIntegrationReceipt where
  integrationStatus : IntegrationStatus
  artifactId : Option String
deriving DecidableEq

structure SyntheticReviewRunRecord where
  schemaVersion : Nat
  requestId : String
  runSequence : Nat
  runKind : SyntheticReviewRunKind
  jobStatus : SyntheticReviewJobStatus
  serviceFailureCode : Option SyntheticReviewServiceFailureCode
  receipt : Option SyntheticIntegrationReceipt
deriving DecidableEq

/-- `records[record.request_id] = record`. -/
def put (records : List SyntheticReviewRunRecord) (record : SyntheticReviewRunRecord) :
    List SyntheticReviewRunRecord :=
  if record.requestId ∈ records.map (·.requestId) then
    records.map fun other => if other.requestId = record.requestId then record else other
  else records ++ [record]

def find (records : List SyntheticReviewRunRecord) (requestId : String) : Option SyntheticReviewRunRecord :=
  records.find? fun record => record.requestId = requestId

/-! ## The state -/

inductive Raised where
  | serviceError (code : SyntheticReviewServiceFailureCode)
  | keyError (requestId : String)
  | executorRefused
deriving DecidableEq

inductive CallbackError where
  | platformUnsupported
  | exception

/-- Where the thread of the executor is in `_run`. -/
inductive Worker where
  | idle
  | picked (requestId : String)
  | began (current : SyntheticReviewRunRecord)
  | calling (current : SyntheticReviewRunRecord)
  | returned (terminal : SyntheticReviewRunRecord)
deriving DecidableEq

/-- Where the caller is that holds the lock in `export_evidence`. -/
inductive Export where
  | reading (record : SyntheticReviewRunRecord) (artifactId : String)
  | building (record : SyntheticReviewRunRecord)
deriving DecidableEq

/-- Where the caller is whose `close` found the service open. -/
inductive Closer where
  | none
  | flagged
  | drained
  | storeClosed
  | done
deriving DecidableEq

structure Service where
  maxRecords : Nat
  records : List SyntheticReviewRunRecord
  keyDigests : List (String × String)
  activeRequestId : Option String
  sequence : Nat
  closed : Bool
  store : Bool
  artifactReader : Bool
  temporary : Bool
  /-- The tasks that the executor has accepted and its thread has not taken. -/
  queue : List String
  worker : Worker
  /-- The holder of the lock between two steps. -/
  exporting : Option Export
  closer : Closer
  storeOpen : Bool
  /-- The requests whose callback was called, in order. -/
  started : List String
  /-- For each artifact read, whether the store was open. -/
  reads : List Bool
deriving DecidableEq

def Service.new (maxRecords : Nat) (owned : Bool) : Service where
  maxRecords := maxRecords
  records := []
  keyDigests := []
  activeRequestId := none
  sequence := 0
  closed := false
  store := owned
  artifactReader := owned
  temporary := true
  queue := []
  worker := .idle
  exporting := none
  closer := .none
  storeOpen := true
  started := []
  reads := []

/-! ## Submission -/

/-- `_KEY.fullmatch`. -/
def keyMatches (idempotencyKey : String) : Bool :=
  16 ≤ idempotencyKey.length && idempotencyKey.length ≤ 128 &&
    idempotencyKey.toList.all fun c =>
      'A' ≤ c && c ≤ 'Z' || 'a' ≤ c && c ≤ 'z' || '0' ≤ c && c ≤ '9' || c == '.' || c == '_' || c == '-'

def requestIdOf (keyDigest : String) : String := "synrun-" ++ String.ofList (keyDigest.toList.take 32)

/-- `self._executor.submit(self._run, request_id)`. -/
def executorSubmit (requestId : String) (accepted : Bool) (s : Service) : Except Raised Unit × Service :=
  if accepted then (.ok (), { s with queue := s.queue ++ [requestId] }) else (.error .executorRefused, s)

/-- `submit`; `digest` is the hexadecimal SHA-256 of the key, and `accepted` whether the executor takes the task. -/
def submit (digest : String → String) (runKind : SyntheticReviewRunKind) (idempotencyKey : String) (accepted : Bool)
    (s : Service) : Except Raised SyntheticReviewRunRecord × Service :=
  if ¬ keyMatches idempotencyKey then (.error (.serviceError .idempotencyConflict), s)
  else
    let keyDigest := digest idempotencyKey
    let requestId := requestIdOf keyDigest
    if s.closed then (.error (.serviceError .serviceClosed), s)
    else match s.keyDigests.lookup keyDigest with
    | some previousId =>
      match find s.records previousId with
      | none => (.error (.keyError previousId), s)
      | some previous =>
        if previous.runKind ≠ runKind then (.error (.serviceError .idempotencyConflict), s) else (.ok previous, s)
    | none =>
      if s.activeRequestId ≠ none then (.error (.serviceError .runAlreadyActive), s)
      else if s.maxRecords ≤ s.records.length then (.error (.serviceError .capacityExhausted), s)
      else
        let record : SyntheticReviewRunRecord :=
          { schemaVersion := 1, requestId := requestId, runSequence := s.sequence + 1, runKind := runKind
            jobStatus := .queued, serviceFailureCode := none, receipt := none }
        let s : Service :=
          { s with
            sequence := s.sequence + 1
            records := put s.records record
            keyDigests := s.keyDigests ++ [(keyDigest, requestId)]
            activeRequestId := some requestId }
        match executorSubmit requestId accepted s with
        | (.ok (), s) => (.ok record, s)
        | (.error e, s) => (.error e, s)

/-! ## The worker -/

/-- The first locked section of `_run`; a missing record ends the task. -/
def beginRun (requestId : String) (s : Service) : Service :=
  match find s.records requestId with
  | none => { s with worker := .idle }
  | some current =>
    { s with records := put s.records { current with jobStatus := .running }, worker := .began current }

/-- The record that a callback's end makes of the one that `_run` read first. -/
def terminalRecord (current : SyntheticReviewRunRecord) :
    Except CallbackError SyntheticIntegrationReceipt → SyntheticReviewRunRecord
  | .ok receipt => { current with jobStatus := .terminal, receipt := some receipt }
  | .error .platformUnsupported =>
    { current with jobStatus := .terminal, serviceFailureCode := some .platformUnsupported }
  | .error .exception => { current with jobStatus := .terminal, serviceFailureCode := some .unexpectedFailure }

/-- The second locked section of `_run`. -/
def endRun (terminal : SyntheticReviewRunRecord) (s : Service) : Service :=
  { s with
    records := put s.records terminal
    activeRequestId := if s.activeRequestId = some terminal.requestId then none else s.activeRequestId
    worker := .idle }

/-! ## Export and close -/

/-- `export_evidence` up to the read of the artifact: it raises, or goes on with the lock. -/
def exportEvidence (requestId : String) (s : Service) : Except Raised Unit × Service :=
  if s.closed then (.error (.serviceError .serviceClosed), s)
  else match find s.records requestId with
  | none => (.error (.keyError requestId), s)
  | some record =>
    match record.jobStatus, record.serviceFailureCode, record.receipt with
    | .terminal, none, some { integrationStatus := .persisted, artifactId := some artifactId } =>
      if s.artifactReader then (.ok (), { s with exporting := some (.reading record artifactId) })
      else (.error (.serviceError .evidenceIntegrityFailed), s)
    | _, _, _ => (.error (.serviceError .evidenceNotExportable), s)

/-- The locked section of `close`. -/
def close (s : Service) : Service := if s.closed then s else { s with closed := true, closer := .flagged }

/-- `self._store.close()`, and what follows in the `try`; the file is taken for closed also where it raises. -/
def closeStore (raises : Bool) (s : Service) : Service :=
  if s.store ∧ raises then { s with storeOpen := false, closer := .storeClosed }
  else { s with storeOpen := s.storeOpen && !s.store, store := false, artifactReader := false, closer := .storeClosed }

/-! ## Steps -/

inductive Action where
  | submit (runKind : SyntheticReviewRunKind) (idempotencyKey : String) (accepted : Bool)
  | pick
  | beginRun
  | call
  | callReturned (outcome : Except CallbackError SyntheticIntegrationReceipt)
  | endRun
  | get (requestId : String)
  | list
  | exportEvidence (requestId : String)
  | readArtifact (answered : Bool)
  | buildBundle
  | close
  | shutdown
  | closeStore (raises : Bool)
  | cleanup

def locked (s t : Service) : Option Service := if s.exporting = none then some t else none

def step (digest : String → String) (s : Service) : Action → Option Service
  | .submit runKind idempotencyKey accepted => locked s (submit digest runKind idempotencyKey accepted s).2
  | .pick =>
    match s.worker, s.queue with
    | .idle, requestId :: rest => some { s with worker := .picked requestId, queue := rest }
    | _, _ => none
  | .beginRun =>
    match s.worker with
    | .picked requestId => locked s (beginRun requestId s)
    | _ => none
  | .call =>
    match s.worker with
    | .began current => some { s with worker := .calling current, started := s.started ++ [current.requestId] }
    | _ => none
  | .callReturned outcome =>
    match s.worker with
    | .calling current => some { s with worker := .returned (terminalRecord current outcome) }
    | _ => none
  | .endRun =>
    match s.worker with
    | .returned terminal => locked s (endRun terminal s)
    | _ => none
  | .get _ => locked s s
  | .list => locked s s
  | .exportEvidence requestId => locked s (exportEvidence requestId s).2
  | .readArtifact answered =>
    match s.exporting with
    | some (.reading record _) =>
      some { s with
        reads := s.reads ++ [s.storeOpen]
        exporting := if answered then some (.building record) else none }
    | _ => none
  | .buildBundle =>
    match s.exporting with
    | some (.building _) => some { s with exporting := none }
    | _ => none
  | .close => locked s (close s)
  | .shutdown =>
    if s.closer = .flagged ∧ s.queue = [] ∧ s.worker = .idle then some { s with closer := .drained } else none
  | .closeStore raises => if s.closer = .drained then some (closeStore raises s) else none
  | .cleanup => if s.closer = .storeClosed then some { s with temporary := false, closer := .done } else none

def system (digest : String → String) : System Service Action where
  init s := ∃ maxRecords owned, s = Service.new maxRecords owned
  step s a t := step digest s a = some t

end PduExamObserver.SyntheticReview
