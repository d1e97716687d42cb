import PduExamObserver.M1.Changes

/-! # Runs of the ledger

Every operation of `M1Backend` as an action, with the arguments its caller chooses and the clock
readings it takes. An operation that raises leaves the tables as they were. -/

namespace PduExamObserver.M1
open Transition M1Backend
set_option autoImplicit false

/-- The requests that go through `_mutate`. -/
inductive MutateCall where
  | createStudy (studyCode : String) (idempotencyKey : Option String)
  | createParticipant (studyId : String) (idempotencyKey : Option String)
  | createResearchSession (request : SessionRequest) (idempotencyKey : Option String)
  | confirmOperatorConsent (sessionId receiptId version : String) (idempotencyKey : Option String)
  | withdraw (sessionId : String) (idempotencyKey : Option String)
  | recordAnswer (sessionId idempotencyKey : String) (request : AnswerRequest)
  | submitExam (sessionId idempotencyKey : String)

inductive M1Action where
  | mutate (call : MutateCall)
  | createSession
  | applySessionAction (sessionId action : String)
  | appendEvent (sessionId eventType : String) (payload : Dict)
  | registerArtifact (artifactId sessionId : String) (parents : List String)
  | addDependency (parent child : String)
  | createWriteIntent (sessionId : String) (partialFile : Except M1Error String)
  /-- one round of the recovery loop, for a row that was read when it was pending -/
  | recoverIntent (intentId : String)
  | openStore (encryptionStatus aclStatus : String)
  | recordReviewerAudit (eventKind : String)

def MutateCall.run (rt : Runtime) (clock : Clock) (db : Database) :
    MutateCall → Except M1Error (Database × Dict)
  | .createStudy studyCode idempotencyKey => M1Backend.createStudy rt db studyCode idempotencyKey
  | .createParticipant studyId idempotencyKey => M1Backend.createParticipant rt db studyId idempotencyKey
  | .createResearchSession request idempotencyKey =>
    M1Backend.createResearchSession rt clock db request idempotencyKey
  | .confirmOperatorConsent sessionId receiptId version idempotencyKey =>
    M1Backend.confirmOperatorConsent rt db sessionId receiptId version idempotencyKey
  | .withdraw sessionId idempotencyKey => M1Backend.withdraw rt clock db sessionId idempotencyKey
  | .recordAnswer sessionId idempotencyKey request => M1Backend.recordAnswer rt db sessionId idempotencyKey request
  | .submitExam sessionId idempotencyKey => M1Backend.submitExam rt db sessionId idempotencyKey

def M1Action.run (rt : Runtime) (clock : Clock) (db : Database) : M1Action → Except M1Error Database
  | .mutate call => (call.run rt clock db).map Prod.fst
  | .createSession => (M1Backend.createSession rt db).map Prod.fst
  | .applySessionAction sessionId action => (M1Backend.applySessionAction clock db sessionId action).map Prod.fst
  | .appendEvent sessionId eventType payload => (M1Backend.appendEvent db sessionId eventType payload).map Prod.fst
  | .registerArtifact artifactId sessionId parents => M1Backend.registerArtifact db artifactId sessionId parents
  | .addDependency parent child => M1Backend.addDependency db parent child
  | .createWriteIntent sessionId partialFile => M1Backend.createWriteIntent rt db sessionId partialFile
  | .recoverIntent intentId =>
    match db.writeIntents.find? fun i => i.id = intentId with
    | none => .ok db
    | some row => M1Backend.recoverIntent db row
  | .openStore encryptionStatus aclStatus => .ok (M1Backend.openStore db encryptionStatus aclStatus)
  | .recordReviewerAudit eventKind => M1Backend.recordReviewerAudit rt db eventKind

def step (rt : Runtime) (db : Database) (action : Clock × M1Action) : Database :=
  match action.2.run rt action.1 db with
  | .error _ => db
  | .ok db' => db'

def system (rt : Runtime) : System Database (Clock × M1Action) := ofFun (fun db => db = {}) (step rt)

def consentScope (sessionId : String) : String := s!"research-consent:{sessionId}"

def consentKey (sessionId : String) (idempotencyKey : Option String) : String :=
  orElse idempotencyKey s!"consent-{sessionId}"

/-- Every confirmation that is not refused as a mutation and does not replay an earlier one is allowed. -/
def Confirms (allowed : ConsentPolicy) (db : Database) (action : Clock × M1Action) : Prop :=
  match action.2 with
  | .mutate (.confirmOperatorConsent sessionId receiptId _ idempotencyKey) =>
    requireMutableResearch db sessionId = .ok () →
      db.idempotencyRecord? (consentScope sessionId) (consentKey sessionId idempotencyKey) = none →
        allowed db sessionId receiptId
  | _ => True

theorem key_eq {k : Option String} {fallback key : String} (h : M1Backend.key k fallback = .ok key) :
    key = orElse k fallback := by
  unfold M1Backend.key at h
  simp only at h
  split at h
  · cases h
    rfl
  · cases h

variable {rt : Runtime} {allowed : ConsentPolicy} {clock : Clock} {db db' : Database}

theorem MutateCall.run_commits {call : MutateCall} {response : Dict}
    (hconfirms : Confirms allowed db (clock, .mutate call))
    (h : call.run rt clock db = .ok (db', response)) : Commits rt allowed db db' := by
  cases call with
  | createStudy studyCode idempotencyKey =>
    simp only [MutateCall.run, M1Backend.createStudy, bind_ok_iff] at h
    obtain ⟨key, -, h⟩ := h
    exact mutate_commits (fun _ => createStudyOperation_commits) h
  | createParticipant studyId idempotencyKey =>
    simp only [MutateCall.run, M1Backend.createParticipant, bind_ok_iff] at h
    obtain ⟨key, -, h⟩ := h
    exact mutate_commits (fun _ => createParticipantOperation_commits) h
  | createResearchSession request idempotencyKey =>
    simp only [MutateCall.run, M1Backend.createResearchSession, bind_ok_iff] at h
    obtain ⟨_, -, key, -, h⟩ := h
    exact mutate_commits (fun _ => createResearchSessionOperation_commits) h
  | confirmOperatorConsent sessionId receiptId version idempotencyKey =>
    simp only [MutateCall.run, M1Backend.confirmOperatorConsent, bind_ok_iff] at h
    obtain ⟨_, hmutable, key, hkey, h⟩ := h
    rw [key_eq hkey] at h
    exact mutate_commits
      (fun hfresh => confirmOperatorConsentOperation_commits (hconfirms hmutable hfresh)) h
  | withdraw sessionId idempotencyKey =>
    simp only [MutateCall.run, M1Backend.withdraw, bind_ok_iff] at h
    obtain ⟨record, -, session, -, participantId, -, key, -, h⟩ := h
    exact mutate_commits (fun _ => withdrawOperation_commits) h
  | recordAnswer sessionId idempotencyKey request =>
    simp only [MutateCall.run, M1Backend.recordAnswer, bind_ok_iff] at h
    obtain ⟨key, -, h⟩ := h
    exact mutate_commits (fun _ => recordAnswerOperation_commits) h
  | submitExam sessionId idempotencyKey =>
    simp only [MutateCall.run, M1Backend.submitExam, bind_ok_iff] at h
    obtain ⟨key, -, h⟩ := h
    exact mutate_commits (fun _ => submitExamOperation_commits) h

theorem map_fst_ok {β : Type} {x : Except M1Error (Database × β)} (h : x.map Prod.fst = .ok db') :
    ∃ b, x = .ok (db', b) := by
  cases x with
  | error e => cases h
  | ok r =>
    cases h
    exact ⟨r.2, rfl⟩

theorem M1Action.run_commits {action : M1Action} (hconfirms : Confirms allowed db (clock, action)) (h : action.run rt clock db = .ok db') :
    Commits rt allowed db db' := by
  cases action with
  | mutate call =>
    obtain ⟨response, h⟩ := map_fst_ok h
    exact MutateCall.run_commits hconfirms h
  | createSession =>
    obtain ⟨ids, h⟩ := map_fst_ok h
    exact createSession_commits h
  | applySessionAction sessionId action =>
    obtain ⟨snapshot, h⟩ := map_fst_ok h
    exact applySessionAction_commits h
  | appendEvent sessionId eventType payload =>
    obtain ⟨published, h⟩ := map_fst_ok h
    exact (event_quiet h).commits
  | registerArtifact artifactId sessionId parents => exact registerArtifact_commits h
  | addDependency parent child => exact addDependency_commits h
  | createWriteIntent sessionId partialFile => exact createWriteIntent_commits h
  | recoverIntent intentId =>
    cases hrow : db.writeIntents.find? fun i => i.id = intentId with
    | none =>
      simp only [M1Action.run, hrow, Except.ok.injEq] at h
      subst h
      exact (Quiet.refl _).commits
    | some row =>
      simp only [M1Action.run, hrow] at h
      exact recoverIntent_commits (List.mem_of_find?_eq_some hrow) h
  | openStore encryptionStatus aclStatus =>
    cases h
    exact Quiet.commits { Quiet.refl _ with }
  | recordReviewerAudit eventKind => exact recordReviewerAudit_commits h

theorem step_commits {action : Clock × M1Action} (hconfirms : Confirms allowed db action) :
    Commits rt allowed db (step rt db action) := by
  unfold step
  cases h : action.2.run rt action.1 db with
  | error e => exact (Quiet.refl _).commits
  | ok db' => exact M1Action.run_commits hconfirms h

theorem reachableBy_invariant {I : Database → Prop} (hempty : I {})
    (hchange : ∀ db mid, I db → Change rt allowed db mid → I mid)
    (hquiet : ∀ mid db', I mid → Quiet mid db' → I db')
    (h : ReachableBy (system rt) (Confirms allowed) db) : I db := by
  refine h.invariant ?_ ?_
  · rintro _ rfl
    exact hempty
  · rintro s action t hs hg rfl
    obtain ⟨mid, hchanged, hq⟩ := step_commits hg
    exact hquiet _ _ (hchange _ _ hs hchanged) hq

abbrev anyConsent : ConsentPolicy := fun _ _ _ => True

theorem confirms_anyConsent (db : Database) (action : Clock × M1Action) : Confirms anyConsent db action := by
  unfold Confirms
  split
  · exact fun _ _ => trivial
  · trivial

theorem later_commits (h : Later (system rt) db db') :
    Relation.ReflTransGen (Commits rt anyConsent) db db' := by
  induction h with
  | refl => exact .refl
  | tail _ hstep ih =>
    obtain ⟨action, rfl⟩ := hstep
    exact ih.tail (step_commits (confirms_anyConsent _ _))

/-! ## A concrete run -/

/-- A runtime to evaluate runs with: the `i`th token is `i` letters long, a payload's digest is its
first text, and dates are days in UTC. -/
def sampleRuntime : Runtime where
  tokenUrlsafe i _ := String.ofList (List.replicate i 'a')
  token_inj h := by simpa using congrArg String.length h
  sha256
    | .obj ((_, .str s) :: _) => s
    | _ => ""
  fromIsoformat s := if s = "1970-01-02" then some 719164 else none
  fromTimestamp t := 719163 + ⌊t / 86400⌋

def noon : Clock := fun _ => 43200

/-- A study with one participant and two research sessions, `research-aaa` and `research-aaaaa`. -/
def twoSessionsRun : List (Clock × M1Action) :=
  [(noon, .mutate (.createStudy "S" none)),
    (noon, .mutate (.createParticipant "study-" none)),
    (noon, .mutate (.createResearchSession
      { studyId := "study-", participantId := "participant-a" } (some "k1"))),
    (noon, .mutate (.createResearchSession
      { studyId := "study-", participantId := "participant-a" } (some "k2")))]

end PduExamObserver.M1
