import PduExamObserver.Training.Dataset

/-! # The corpus and its folds

The windows of several exports as one corpus, the participant-disjoint folds, and the check of the sources of a fold. -/

namespace PduExamObserver.Training
open ResearchRuntime
set_option autoImplicit false

/-! ## Folds -/

/-- `OuterFold`; nobody is trained on who is held out. -/
structure OuterFold where
  index : Nat
  train : List String
  calibration : List String
  test : List String
  disjoint : ∀ person ∈ train, person ∉ calibration ∧ person ∉ test

def pilotIds : List String := ["P01", "P02"]

/-- The pseudonyms that `_PARTICIPANT_ID` admits. -/
def participantIds : List String :=
  ["P01", "P02", "P03", "P04", "P05", "P06", "P07", "P08", "P09", "P10", "P11", "P12"]

def pair (ordered : List String) (index : Nat) : List String := (ordered.drop (2 * index)).take 2

def foldOf (ordered : List String) (index : Nat) : OuterFold where
  index
  test := pair ordered index
  calibration := pair ordered ((index + 1) % 5)
  train := ordered.filter fun person => person ∉ pair ordered ((index + 1) % 5) ∧ person ∉ pair ordered index
  disjoint person hmem := by simpa using (List.mem_filter.mp hmem).2

/-- `build_outer_folds`; `orderKey` is the digest of the protocol version and the participant. -/
def buildOuterFolds (orderKey : String → String → String) (participants : List String) (protocolVersion : String) :
    Except String (List OuterFold) := do
  require (protocolVersion ≠ "" ∧ protocolVersion.length ≤ 128) "protocol_version is required"
  require participants.Nodup "participant IDs must be unique"
  require (∀ person ∈ participants, person ∈ participantIds) "participant IDs must be pseudonyms P01 through P12"
  let confirmatory := participants.filter fun person => person ∉ pilotIds
  require (confirmatory.length = 10 ∧ ∀ person ∈ pilotIds, person ∈ participants)
    "P01/P02 pilot and P03-P12 confirmatory participants are required"
  let ordered := confirmatory.mergeSort fun a b =>
    decide (orderKey protocolVersion a ≤ orderKey protocolVersion b)
  return (List.range 5).map (foldOf ordered)

/-! ## The corpus -/

/-- What is learned from and evaluated on; `sessions` are the sessions of the confirmatory participants. -/
structure Corpus where
  rows : List Window
  recordProvenance : List (String × RecordProvenance)
  sessions : List SessionLoad

def SessionLoad.isConfirmatory (confirmatory : List String) (session : SessionLoad) : Prop :=
  session.participant ∈ confirmatory ∧ session.sourceKind = .real ∧ session.phase = "CONFIRMATORY"

instance (confirmatory : List String) (session : SessionLoad) : Decidable (session.isConfirmatory confirmatory) :=
  inferInstanceAs (Decidable (_ ∧ _ ∧ _))

def loadResearchCorpus (env : LoaderEnv) (confirmatory : List String) (archives : List Archive) :
    Except String Corpus := do
  require (archives ≠ []) "RESEARCH_EXPORT_REQUIRED: trusted runtime export ZIPs are required"
  let loaded ← archives.mapM (loadRuntimeExport env)
  let sessions := loaded.flatMap LoadedRuntimeExport.sessions
  let recordProvenance := sessions.flatMap SessionLoad.recordProvenance
  let windows := loaded.flatMap LoadedRuntimeExport.windows
  require (sessions.map SessionLoad.sessionId).Nodup "session pseudonym appears in multiple exports"
  require (recordProvenance.map Prod.fst).Nodup "raw record sample ID appears in multiple exports"
  require (windows.map Window.sampleId).Nodup "supervised window IDs are not unique"
  let rows := windows.filter fun window => window.participant ∈ confirmatory ∧ window.phase = "CONFIRMATORY"
  require (rows ≠ []) "no confirmatory supervised windows remain after pilot exclusion"
  require (∀ person ∈ confirmatory, person ∈ rows.map Window.participant)
    "all ten confirmatory participants are required"
  return { rows, recordProvenance, sessions := sessions.filter fun session => session.isConfirmatory confirmatory }

/-- `_indices`: the rows of these participants. -/
def Corpus.rowsOf (corpus : Corpus) (people : List String) : List Window :=
  corpus.rows.filter fun window => window.participant ∈ people

def checkPartition (corpus : Corpus) (partitionName : String) (people : List String) : Except String Unit :=
  if people = [] then .ok ()
  else do
    require (corpus.rowsOf people ≠ []) (partitionName ++ " partition is empty")
    require (∀ row ∈ corpus.rowsOf people, row.sourceKind = .real) (partitionName ++ " must contain REAL source_kind only")
    require (∀ row ∈ corpus.rowsOf people, row.phase = "CONFIRMATORY")
      (partitionName ++ " contains pilot or unknown phase")

def resolves (corpus : Corpus) (fold : OuterFold) (child : Window) (parent : String) : Prop :=
  corpus.recordProvenance.lookup parent = some ⟨child.participant, .real, "CONFIRMATORY"⟩ ∧
    child.participant ∈ fold.train

instance (corpus : Corpus) (fold : OuterFold) (child : Window) (parent : String) :
    Decidable (resolves corpus fold child parent) := inferInstanceAs (Decidable (_ ∧ _))

def checkParents (corpus : Corpus) (fold : OuterFold) (child : Window) : Except String Unit :=
  if child.sourceKind = .augmented then do
    require (child.parentProvenanceIds ≠ [] ∧ child.parentProvenanceIds.length = child.sourceRecordIds.length)
      "augmented child does not preserve frame parent grouping"
    require (∀ parent ∈ child.parentProvenanceIds, resolves corpus fold child parent)
      "every augmented parent must resolve to REAL data in its training fold"
  else .ok ()

def assertResearchFoldSources (corpus : Corpus) (fold : OuterFold) : Except String Unit := do
  checkPartition corpus "calibration" fold.calibration
  checkPartition corpus "test" fold.test
  (corpus.rowsOf fold.train).forM (checkParents corpus fold)

variable {corpus : Corpus} {fold : OuterFold} {child : Window} {parent : String}

theorem resolves_of_passes (h : assertResearchFoldSources corpus fold = .ok ()) (hrow : child ∈ corpus.rows)
    (htrain : child.participant ∈ fold.train) (haugmented : child.sourceKind = .augmented)
    (hparent : parent ∈ child.parentProvenanceIds) : resolves corpus fold child parent := by
  unfold assertResearchFoldSources at h
  simp only [bind_ok_iff] at h
  obtain ⟨⟨⟩, -, ⟨⟩, -, h⟩ := h
  have hmem : child ∈ corpus.rowsOf fold.train := List.mem_filter.mpr ⟨hrow, by simpa using htrain⟩
  have hcheck := forM_ok_iff.mp h child hmem
  unfold checkParents at hcheck
  rw [if_pos haugmented] at hcheck
  simp only [bind_ok_iff, require_eq_ok] at hcheck
  obtain ⟨⟨⟩, -, hresolves⟩ := hcheck
  exact hresolves parent hparent

end PduExamObserver.Training
