import PduExamObserver.ResearchRuntime.Invariants

/-! # What is left of a session that is over

A sealed, failed or withdrawn session only loses files. -/

namespace PduExamObserver.ResearchRuntime
open Stateful Transition
set_option autoImplicit false

variable {setup : Setup} {w w' : World} {a : Action} {index : Nat} {c after : Collection}

structure Collection.Outlives (c after : Collection) : Prop where
  ended : after.session.state.isOver = true
  frameSeq : after.session.frameSeq = c.session.frameSeq
  artifacts : after.session.artifacts = c.session.artifacts
  files : after.files.Sublist c.files

theorem Collection.Outlives.of_eq (hover : c.session.state.isOver = true) (hsession : after.session = c.session)
    (hfiles : after.files.Sublist c.files) : c.Outlives after :=
  ⟨hsession ▸ hover, by rw [hsession], by rw [hsession], hfiles⟩

theorem Collection.Outlives.trans {a b c : Collection} (hab : a.Outlives b) (hbc : b.Outlives c) : a.Outlives c :=
  ⟨hbc.ended, hbc.frameSeq.trans hab.frameSeq, hbc.artifacts.trans hab.artifacts, hbc.files.trans hab.files⟩

theorem Collection.Notes.outlives (h : c.Notes after) (hover : c.session.state.isOver = true) : c.Outlives after := by
  refine ⟨h.state ▸ hover, h.frameSeq, h.artifacts, ?_⟩
  unfold Collection.files
  rw [h.directory]

theorem finishWithdraw_outlives (setup : Setup) (call : WithdrawCall) (env : RemovalEnv)
    (hover : c.session.state.isOver = true) : c.Outlives (final ((finishWithdraw setup call env).run c)) := by
  rcases finishWithdraw_cases setup call env c with
    ⟨failureCode, hrun, -⟩ | hrun | ⟨removed, hremoves, hrun, hsession⟩ | ⟨inventory, removed, -, hremoves, hrun⟩
  · rw [hrun]
    exact ⟨rfl, rfl, rfl, .refl _⟩
  · rw [hrun]
    exact .of_eq hover rfl (.refl _)
  · rw [hrun]
    exact .of_eq hover rfl hremoves.files
  · rw [hrun]
    exact ⟨rfl, (congrArg Session.frameSeq hremoves.session :), (congrArg Session.artifacts hremoves.session :), hremoves.files⟩

theorem withdrawTestArtifacts_outlives (setup : Setup) (fault : Option Fault) (hover : c.session.state.isOver = true) :
    c.Outlives (final ((withdrawTestArtifacts setup fault).run c)) := by
  rcases withdrawTestArtifacts_cases setup fault c with ⟨e, removed, hrun, hremoves, -⟩ | ⟨removed, hrun, hremoves, -⟩
  · rw [hrun]
    exact .of_eq hover hremoves.session hremoves.files
  · rw [hrun]
    exact ⟨rfl, (congrArg Session.frameSeq hremoves.session :), (congrArg Session.artifacts hremoves.session :), hremoves.files⟩

theorem perform_outlives (part : Section) (active : Bool) (hover : c.session.state.isOver = true) :
    c.Outlives (final ((perform setup active part).run c)) := by
  cases hcollects : part.collects with
  | true =>
    obtain ⟨worker, hrun⟩ : ∃ worker, final ((perform setup active part).run c) = { c with worker } :=
      collects_over_eq active hcollects hover
    rw [hrun]
    exact .of_eq hover rfl (.refl _)
  | false =>
    cases part with
    | review request => exact ((TakesNotes.bind (.review setup request) fun _ => .return _) c).outlives hover
    | lock => exact ((TakesNotes.bind .lock fun _ => .return _) c).outlives hover
    | finishExport => exact ((TakesNotes.bind .finishExport fun _ => .return _) c).outlives hover
    | finishWithdraw call env =>
      rw [perform, final_returnNone]
      exact finishWithdraw_outlives setup call env hover
    | withdrawTestArtifacts fault =>
      rw [perform, final_returnNone]
      exact withdrawTestArtifacts_outlives setup fault hover
    | _ => cases hcollects

theorem steps_outlives (hsteps : StepsTo setup w a index c after) (hover : c.session.state.isOver = true) :
    c.Outlives after := by
  cases hsteps with
  | stays => exact .of_eq hover rfl (.refl _)
  | performs part ha hrunning hcalls => exact perform_outlives part w.active hover
  | restarts fault ha =>
    rcases recover_cases fault c with hsame | ⟨hrecording, -⟩
    · rw [hsame]
      exact .of_eq hover rfl (.refl _)
    · rw [hrecording] at hover
      cases hover

/-- From the moment a session is sealed, failed or withdrawn it never runs again, its frames and its inventory stay as
they are, and nothing is written into its directory: files only go away, with their contents unchanged until then. -/
theorem over_evidence (hreach : Reachable (service setup) w) (hlater : Later (service setup) w w')
    (hfound : w.collections[index]? = some c) (hover : c.session.state.isOver = true) :
    ∃ after, w'.collections[index]? = some after ∧ after.session.state.isOver = true ∧
      after.session.frameSeq = c.session.frameSeq ∧ after.session.artifacts = c.session.artifacts ∧
      after.files.Sublist c.files := by
  let keeps (c after : Collection) : Prop := c.session.state.isOver = true → c.Outlives after
  have hrefl : ∀ c, keeps c c := fun c hover => .of_eq hover rfl (.refl _)
  have htrans : ∀ {a b c : Collection}, keeps a b → keeps b c → keeps a c :=
    fun hab hbc hover => (hab hover).trans (hbc (hab hover).ended)
  have hstep : ∀ w a index c after, Reachable (service setup) w → w.collections[index]? = some c →
      StepsTo setup w a index c after → keeps c after := fun _ _ _ _ _ _ _ hsteps => steps_outlives hsteps
  obtain ⟨after, hafter, hkept⟩ := collections_later hrefl htrans hreach hstep hlater hfound
  obtain ⟨hover, hframes, hartifacts, hfiles⟩ := hkept hover
  exact ⟨after, hafter, hover, hframes, hartifacts, hfiles⟩

theorem over_evidence_sample : ∃ c after : Collection, c.session.state = .sealed ∧ c.files ≠ [] ∧
    after.session.artifacts = c.session.artifacts ∧ after.files.Sublist c.files := by
  have hsealed : ((Sample.run (Sample.recording ++ Sample.sealing)).collections[0]?).any
      (fun c => decide (c.session.state = .sealed ∧ c.files ≠ [])) = true := by decide +kernel
  obtain ⟨c, hfound, hc⟩ := (Option.any_eq_true _ _).mp hsealed
  obtain ⟨hstate, hfiles⟩ := of_decide_eq_true hc
  have hlater : Later (service Sample.setup) (Sample.run (Sample.recording ++ Sample.sealing)) _ :=
    .tail (.single ⟨.act 0 (.beginWithdraw "A" Sample.answer), rfl⟩)
      ⟨.act 0 (.finishWithdraw ⟨"A", Sample.digest, .deleteOwnedRuntimeArtifacts, false⟩ {}), rfl⟩
  obtain ⟨after, -, -, -, hartifacts, hkept⟩ :=
    over_evidence (Sample.run_reachable _) hlater hfound (by rw [hstate]; rfl)
  exact ⟨c, after, hstate, hfiles, hartifacts, hkept⟩

end PduExamObserver.ResearchRuntime
