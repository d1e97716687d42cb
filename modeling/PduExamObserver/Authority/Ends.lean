import PduExamObserver.Authority.System

/-! # How writes and guarded operations end

Every write of the lifecycle ends in one of five ways and every guarded operation in one of three. The
properties of the operations are proved from these. -/

namespace PduExamObserver.Authority
set_option autoImplicit false

variable {hash : Sha256}

def Present (expected : Bytes) (written : Call WriteResult) : Prop :=
  ∃ result, written = .ok result ∧ result.disposition = .presentValid ∧ result.observedBytes = some expected

def Accepted (expected : Bytes) (written : Call WriteResult) : Prop :=
  ∃ result, written = .ok result ∧ result.outcome = .ok ∧ result.disposition = .presentValid ∧
    result.observedBytes = some expected

def ZeroWrite (written : Call WriteResult) : Prop :=
  ∃ result, written = .ok result ∧ result.disposition = .zeroWrite

inductive WriteEnd (session : MutationSession) (k : Nat) (lifecycle onOk onExact : Lifecycle)
    (onPost : PersistenceOutcome → Lifecycle) (expected : Bytes) (written : Call WriteResult) :
    Lifecycle → Call PersistenceOutcome → Prop
  /-- the write raised, or reported that nothing was written -/
  | unwritten (result : Call PersistenceOutcome) (hresult : result ≠ .ok .ok)
      (hraised : (∃ e, written = .error e) ∨ ZeroWrite written) :
      WriteEnd session k lifecycle onOk onExact onPost expected written lifecycle result
  /-- the write failed and may have left something else -/
  | invalid (result : Call PersistenceOutcome) (hresult : result ≠ .ok .ok)
      (hwritten : ∃ answer, written = .ok answer ∧ answer.disposition ≠ .zeroWrite) :
      WriteEnd session k lifecycle onOk onExact onPost expected written
        { lifecycle with state := .presentInvalid } result
  | exact (result : Call PersistenceOutcome) (hresult : result ≠ .ok .ok) (hpresent : Present expected written) :
      WriteEnd session k lifecycle onOk onExact onPost expected written onExact result
  /-- the checks after the write raised -/
  | interrupted (e : Raised) (haccepted : Accepted expected written) :
      WriteEnd session k lifecycle onOk onExact onPost expected written onOk (.error e)
  | posted (outcome : PersistenceOutcome) (haccepted : Accepted expected written)
      (hpost : postWrite session k = .ok outcome) :
      WriteEnd session k lifecycle onOk onExact onPost expected written (onPost outcome) (.ok outcome)

theorem afterWrite_end (session : MutationSession) (k : Nat) (lifecycle onOk onExact : Lifecycle)
    (onPost : PersistenceOutcome → Lifecycle) (store : Store) (expected : Bytes) (written : Call WriteResult) :
    (afterWrite session k lifecycle onOk onExact onPost store expected written).store = store ∧
      WriteEnd session k lifecycle onOk onExact onPost expected written
        (afterWrite session k lifecycle onOk onExact onPost store expected written).lifecycle
        (afterWrite session k lifecycle onOk onExact onPost store expected written).result := by
  cases written with
  | error e => exact ⟨rfl, .unwritten _ (by simp [afterWrite]) (.inl ⟨e, rfl⟩)⟩
  | ok result =>
    by_cases hexact : result.disposition = .presentValid ∧ result.observedBytes = some expected
    · by_cases hok : result.outcome = .ok
      · have hstatus : writeStatus result expected = (.ok, true) := by simp [writeStatus, hexact, hok]
        have haccepted : Accepted expected (.ok result) := ⟨result, rfl, hok, hexact⟩
        cases hpost : postWrite session k with
        | error e =>
          simp only [afterWrite, hstatus, hpost]
          exact ⟨trivial, .interrupted e haccepted⟩
        | ok outcome =>
          simp only [afterWrite, hstatus, hpost]
          exact ⟨trivial, .posted outcome haccepted hpost⟩
      · have hstatus : writeStatus result expected = (result.outcome, true) := by
          simp [writeStatus, hexact, hok]
        have hpresent : Present expected (.ok result) := ⟨result, rfl, hexact⟩
        have hend : afterWrite session k lifecycle onOk onExact onPost store expected (.ok result) =
            ⟨onExact, store, .ok result.outcome⟩ := by
          simp only [afterWrite, hstatus]
        rw [hend]
        exact ⟨rfl, .exact _ (by simpa using hok) hpresent⟩
    · have hstatus : ∃ outcome, writeStatus result expected = (outcome, false) ∧ outcome ≠ .ok := by
        by_cases hok : result.outcome = .ok
        · exact ⟨.readbackFailed, by simp [writeStatus, hok, hexact], by decide⟩
        · exact ⟨result.outcome, by simp [writeStatus, hok, hexact], hok⟩
      obtain ⟨outcome, hstatus, hne⟩ := hstatus
      by_cases hzero : result.disposition = .zeroWrite
      · have hend : afterWrite session k lifecycle onOk onExact onPost store expected (.ok result) =
            ⟨lifecycle, store, .ok outcome⟩ := by
          simp only [afterWrite, hstatus, if_pos hzero]
        rw [hend]
        exact ⟨rfl, .unwritten _ (by simpa using hne) (.inr ⟨result, rfl, hzero⟩)⟩
      · have hend : afterWrite session k lifecycle onOk onExact onPost store expected (.ok result) =
            ⟨{ lifecycle with state := .presentInvalid }, store, .ok outcome⟩ := by
          simp only [afterWrite, hstatus, if_neg hzero]
        rw [hend]
        exact ⟨rfl, .invalid _ (by simpa using hne) ⟨result, rfl, hzero⟩⟩

section AfterWrite

variable {session : MutationSession} {k : Nat} {lifecycle onOk onExact : Lifecycle}
  {onPost : PersistenceOutcome → Lifecycle} {store : Store} {expected : Bytes} {written : Call WriteResult}

@[simp] theorem afterWrite_store :
    (afterWrite session k lifecycle onOk onExact onPost store expected written).store = store :=
  (afterWrite_end session k lifecycle onOk onExact onPost store expected written).1

theorem afterWrite_cases {P : Lifecycle → Prop}
    (hunwritten : (∃ e, written = .error e) ∨ ZeroWrite written → P lifecycle)
    (hinvalid : P { lifecycle with state := .presentInvalid }) (hok : P onOk) (hexact : P onExact)
    (hpost : ∀ outcome, P (onPost outcome)) :
    P (afterWrite session k lifecycle onOk onExact onPost store expected written).lifecycle := by
  have hend := (afterWrite_end session k lifecycle onOk onExact onPost store expected written).2
  generalize (afterWrite session k lifecycle onOk onExact onPost store expected written).lifecycle = after at hend ⊢
  generalize (afterWrite session k lifecycle onOk onExact onPost store expected written).result = result at hend
  cases hend with
  | unwritten _ _ hraised => exact hunwritten hraised
  | invalid => exact hinvalid
  | exact => exact hexact
  | interrupted => exact hok
  | posted => exact hpost _

theorem afterWrite_rule {P : Lifecycle → Prop} (hunwritten : P lifecycle)
    (hinvalid : P { lifecycle with state := .presentInvalid }) (hok : P onOk) (hexact : P onExact)
    (hpost : ∀ outcome, P (onPost outcome)) :
    P (afterWrite session k lifecycle onOk onExact onPost store expected written).lifecycle :=
  afterWrite_cases (fun _ => hunwritten) hinvalid hok hexact hpost

theorem afterWrite_wrote {P : Lifecycle → Prop} {answer : WriteResult} (hwritten : written = .ok answer)
    (hnonzero : answer.disposition ≠ .zeroWrite) (hinvalid : P { lifecycle with state := .presentInvalid })
    (hok : P onOk) (hexact : P onExact) (hpost : ∀ outcome, P (onPost outcome)) :
    P (afterWrite session k lifecycle onOk onExact onPost store expected written).lifecycle := by
  refine afterWrite_cases ?_ hinvalid hok hexact hpost
  rintro (⟨e, he⟩ | ⟨answer', hanswer, hzero⟩)
  · cases hwritten.symm.trans he
  · cases hwritten.symm.trans hanswer
    exact absurd hzero hnonzero

theorem afterWrite_ok
    (h : (afterWrite session k lifecycle onOk onExact onPost store expected written).result = .ok .ok) :
    Accepted expected written ∧ postWrite session k = .ok .ok ∧
      (afterWrite session k lifecycle onOk onExact onPost store expected written).lifecycle = onPost .ok := by
  have hend := (afterWrite_end session k lifecycle onOk onExact onPost store expected written).2
  rw [h] at hend
  generalize (afterWrite session k lifecycle onOk onExact onPost store expected written).lifecycle = after at hend ⊢
  cases hend with
  | unwritten _ hresult => exact absurd rfl hresult
  | invalid _ hresult => exact absurd rfl hresult
  | exact _ hresult => exact absurd rfl hresult
  | posted _ haccepted hpost => exact ⟨haccepted, hpost, rfl⟩

end AfterWrite

/-! ## Guarded operations -/

theorem giveBack_refuses {session : MutationSession} {outcome : PersistenceOutcome} (hne : outcome ≠ .ok)
    {answer : Except PersistenceOutcome MutationSession} (h : giveBack session outcome = .ok answer) :
    ∃ refusal, answer = .error refusal ∧ refusal ≠ .ok := by
  simp only [giveBack, bind_ok_iff, pure_eq_ok] at h
  obtain ⟨report, -, rfl⟩ := h
  refine ⟨_, rfl, ?_⟩
  split
  · exact hne
  · decide

theorem beginMutation_refuses {begin : Call BeginResult} {outcome : PersistenceOutcome}
    (h : beginMutation begin = .ok (.error outcome)) : outcome ≠ .ok := by
  simp only [beginMutation, bind_ok_iff] at h
  obtain ⟨begun, -, h⟩ := h
  have howner : begun.owner.outcome ≠ .ok := by cases begun.owner <;> decide
  cases hsession : begun.session with
  | none =>
    simp only [hsession, pure_eq_ok, Except.error.injEq] at h
    rw [← h]
    exact howner
  | some session =>
    simp only [hsession] at h
    split at h
    · obtain ⟨refusal, heq, hne⟩ := giveBack_refuses howner h
      cases heq
      exact hne
    · split at h
      · obtain ⟨refusal, heq, hne⟩ := giveBack_refuses (by decide) h
        cases heq
        exact hne
      · simp only [bind_ok_iff] at h
        obtain ⟨validation, -, h⟩ := h
        split at h
        · obtain ⟨refusal, heq, hne⟩ := giveBack_refuses (by decide) h
          cases heq
          exact hne
        · cases h

inductive MutationEnd {α : Type} (env : Environment) (lifecycle : Lifecycle) (store : Store)
    (body : MutationSession → Ran α) (settle : Bool → α → Lifecycle → Lifecycle × PersistenceOutcome) :
    Ran PersistenceOutcome → Prop
  | refused (result : Call PersistenceOutcome) (hresult : result ≠ .ok .ok)
      (hbegin : ∀ session, beginMutation env.begin ≠ .ok (.ok session)) :
      MutationEnd env lifecycle store body settle ⟨lifecycle, store, result⟩
  /-- the body or the cleanup raised -/
  | raised (session : MutationSession) (hbegin : beginMutation env.begin = .ok (.ok session)) (e : Raised) :
      MutationEnd env lifecycle store body settle
        ⟨(body session).lifecycle, (body session).store, .error e⟩
  | settled (session : MutationSession) (hbegin : beginMutation env.begin = .ok (.ok session)) (a : α)
      (hbody : (body session).result = .ok a) (report : CleanupReport) (hfinish : finish session = .ok report) :
      MutationEnd env lifecycle store body settle
        ⟨(settle (cleanupIsClean report) a (body session).lifecycle).1, (body session).store,
          .ok (settle (cleanupIsClean report) a (body session).lifecycle).2⟩

theorem mutation_end {α : Type} (env : Environment) (lifecycle : Lifecycle) (store : Store)
    (body : MutationSession → Ran α) (settle : Bool → α → Lifecycle → Lifecycle × PersistenceOutcome) :
    MutationEnd env lifecycle store body settle (mutation env lifecycle store body settle) := by
  unfold mutation
  cases hbegin : beginMutation env.begin with
  | error e => exact .refused _ (by simp) (by simp [hbegin])
  | ok answer =>
    cases answer with
    | error outcome =>
      exact .refused _ (by simpa using beginMutation_refuses hbegin) (by simp [hbegin])
    | ok session =>
      cases hbody : (body session).result with
      | error e =>
        simp only [hbody]
        exact .raised session hbegin e
      | ok a =>
        cases hfinish : finish session with
        | error e =>
          simp only [hbody, hfinish]
          exact .raised session hbegin e
        | ok report =>
          simp only [hbody, hfinish]
          exact .settled session hbegin a hbody report hfinish

/-- The operation had its session, closed it cleanly, and its writes up to the `k`th were durable. -/
def Durable (env : Environment) (k : Nat) : Prop :=
  ∃ session report, beginMutation env.begin = .ok (.ok session) ∧ finish session = .ok report ∧
    cleanupIsClean report = true ∧ ∀ j ≤ k, session.parentDurable j = .ok .verified

theorem postWrite_durable {session : MutationSession} {k : Nat} (h : postWrite session k = .ok .ok) :
    session.parentDurable k = .ok .verified := by
  simp only [postWrite, bind_ok_iff] at h
  obtain ⟨validation, -, h⟩ := h
  split at h
  · cases h
  · simp only [bind_ok_iff] at h
    obtain ⟨durability, hdurability, h⟩ := h
    split at h
    · cases h
    · next hverified => rw [hdurability, not_not.mp hverified]

end PduExamObserver.Authority
