import PduExamObserver.M1.Closure

/-! # Withdrawal and everything after it

The transaction of `withdraw` establishes the closure of its participant and keeps that of all
others; together with the steps that close nobody this covers every run. -/

namespace PduExamObserver.M1
open Table Transition M1Backend
set_option autoImplicit false

variable {rt : Runtime} {allowed : ConsentPolicy} {db mid db' : Database} {participantId : String}

section Withdraw

variable {clock : Clock} {sessionId : String}

theorem sessionIdsOf_congr {other : Database} (h : other.sessions = db.sessions) (id : String) :
    other.sessionIdsOf id = db.sessionIdsOf id := by
  unfold Database.sessionIdsOf
  rw [h]

theorem markWithdrawn_sessionIdsOf (id : String) :
    (markWithdrawn clock participantId db).sessionIdsOf id = db.sessionIdsOf id := by
  apply sessionIdsOf_update
  intro s
  exact ⟨rfl, rfl⟩

theorem markWithdrawn_lineage (id : String) :
    withdrawalLineage (markWithdrawn clock participantId db) id = withdrawalLineage db id := by
  unfold withdrawalLineage
  rw [markWithdrawn_sessionIdsOf]
  rfl

theorem foldl_invalidateArtifact_tokens (artifacts : List String) (db : Database) :
    (artifacts.foldl (invalidateArtifact rt sessionId) db).tokensDrawn =
      db.tokensDrawn + artifacts.length := by
  induction artifacts generalizing db with
  | nil => rfl
  | cons a artifacts ih =>
    rw [List.foldl_cons, ih, List.length_cons]
    change db.tokensDrawn + 1 + artifacts.length = _
    omega

theorem taskId_inj {i j : Nat} (h : taskId rt i = taskId rt j) : i = j :=
  rt.token_inj ((String.append_right_inj _).mp h)

/-- The row filed for an artifact when `draw` tokens have been drawn before. -/
def taskRow (rt : Runtime) (sessionId : String) (draw : Nat) (artifactId : String) : WithdrawalTask where
  id := taskId rt draw
  withdrawalSubjectSessionId := sessionId
  artifactId := artifactId
  status := .pending

theorem invalidateArtifact_tasks {artifactId : String}
    (hids : ∀ t ∈ db.withdrawalTasks, ∃ draw < db.tokensDrawn, t.id = taskId rt draw)
    (hfree : ∀ t ∈ db.withdrawalTasks, t.withdrawalSubjectSessionId = sessionId →
      t.artifactId ≠ artifactId) :
    (invalidateArtifact rt sessionId db artifactId).withdrawalTasks =
      db.withdrawalTasks ++ [taskRow rt sessionId db.tokensDrawn artifactId] := by
  have hclash : ∀ t ∈ db.withdrawalTasks, ¬ t.Clash (taskRow rt sessionId db.tokensDrawn artifactId) := by
    rintro t ht (hid | ⟨hsubject, hartifact⟩)
    · obtain ⟨draw, hdraw, hdrawn⟩ := hids t ht
      have := taskId_inj (hdrawn.symm.trans hid)
      omega
    · exact hfree t ht hsubject hartifact
  exact insertOrIgnore_of_free hclash

theorem foldl_invalidateArtifact_tasks (rt : Runtime) (sessionId : String) (artifacts : List String) (hnodup : artifacts.Nodup)
    (db : Database) (hids : ∀ t ∈ db.withdrawalTasks, ∃ draw < db.tokensDrawn, t.id = taskId rt draw)
    (hfree : ∀ t ∈ db.withdrawalTasks, t.withdrawalSubjectSessionId = sessionId →
      t.artifactId ∉ artifacts) :
    ∃ new, (artifacts.foldl (invalidateArtifact rt sessionId) db).withdrawalTasks =
        db.withdrawalTasks ++ new ∧
      new.map WithdrawalTask.artifactId = artifacts ∧
      ∀ t ∈ new, t.withdrawalSubjectSessionId = sessionId ∧
        ∃ draw < db.tokensDrawn + artifacts.length, t.id = taskId rt draw := by
  induction artifacts generalizing db with
  | nil => exact ⟨[], by simp, rfl, by simp⟩
  | cons a artifacts ih =>
    obtain ⟨hnew, hnodup⟩ := List.nodup_cons.mp hnodup
    have hfiled : (invalidateArtifact rt sessionId db a).withdrawalTasks =
        db.withdrawalTasks ++ [taskRow rt sessionId db.tokensDrawn a] :=
      invalidateArtifact_tasks hids fun t ht hs hta => hfree t ht hs (hta ▸ List.mem_cons_self ..)
    have htokens : (invalidateArtifact rt sessionId db a).tokensDrawn = db.tokensDrawn + 1 := rfl
    obtain ⟨new, htasks, hmap, hrows⟩ := ih hnodup (invalidateArtifact rt sessionId db a)
      (by
        intro t ht
        rw [hfiled, List.mem_append, List.mem_singleton] at ht
        rw [htokens]
        rcases ht with ht | rfl
        · obtain ⟨draw, hdraw, hid⟩ := hids t ht
          exact ⟨draw, by omega, hid⟩
        · exact ⟨db.tokensDrawn, by omega, rfl⟩)
      (by
        intro t ht hs
        rw [hfiled, List.mem_append, List.mem_singleton] at ht
        rcases ht with ht | rfl
        · exact fun hin => hfree t ht hs (List.mem_cons_of_mem _ hin)
        · exact hnew)
    refine ⟨taskRow rt sessionId db.tokensDrawn a :: new, ?_, ?_, ?_⟩
    · rw [List.foldl_cons, htasks, hfiled, List.append_assoc, List.singleton_append]
    · rw [List.map_cons, hmap]
      rfl
    · intro t ht
      rcases List.mem_cons.mp ht with rfl | ht
      · exact ⟨rfl, db.tokensDrawn, by simp, rfl⟩
      · obtain ⟨hs, draw, hdraw, hid⟩ := hrows t ht
        refine ⟨hs, draw, ?_, hid⟩
        rw [htokens] at hdraw
        rw [List.length_cons]
        omega

theorem lineage_of_registry {other : Database} {p : Artifact → Prop} [DecidablePred p] {f : Artifact → Artifact}
    (hreg : other.artifactRegistry = update p f db.artifactRegistry)
    (hf : ∀ a, (f a).id = a.id ∧ (f a).sessionId = a.sessionId)
    (hdeps : other.artifactDependencies = db.artifactDependencies) (id : String)
    (hids : other.sessionIdsOf id = db.sessionIdsOf id) :
    withdrawalLineage other id = withdrawalLineage db id := by
  have hcolumns : other.artifactRegistry.map (fun a => (a.id, a.sessionId)) =
      db.artifactRegistry.map fun a => (a.id, a.sessionId) := by
    rw [hreg]
    apply map_update
    intro a _
    simp [hf a]
  have hseeds : ∀ registry : List Artifact,
      (registry.filter fun a => a.sessionId ∈ db.sessionIdsOf id).map Artifact.id =
        ((registry.map fun a => (a.id, a.sessionId)).filter fun c => c.2 ∈ db.sessionIdsOf id).map
          Prod.fst := by
    intro registry
    rw [List.filter_map, List.map_map]
    rfl
  rw [withdrawalLineage, withdrawalLineage, hids, hdeps, hseeds, hseeds, hcolumns]

structure Withdraws (rt : Runtime) (sessionId participantId : String) (db mid : Database) : Prop where
  sessions : ∃ clock, mid.sessions = (markWithdrawn clock participantId db).sessions
  participants : ∃ clock, mid.participants = (markWithdrawn clock participantId db).participants
  registry : mid.artifactRegistry = update (fun a => a.id ∈ withdrawalLineage db participantId)
    (fun a => { a with status := .invalidated }) db.artifactRegistry
  registered : ∀ x ∈ withdrawalLineage db participantId, ∃ a ∈ db.artifactRegistry, a.id = x
  dependencies : mid.artifactDependencies = db.artifactDependencies
  tasks : ∃ new, mid.withdrawalTasks = db.withdrawalTasks ++ new ∧
    new.map WithdrawalTask.artifactId = withdrawalLineage db participantId ∧
    ∀ t ∈ new, t.withdrawalSubjectSessionId = sessionId ∧ ∃ draw < mid.tokensDrawn, t.id = taskId rt draw
  tokensDrawn : db.tokensDrawn ≤ mid.tokensDrawn
  owned : sessionId ∈ db.sessionIdsOf participantId
  exists_participant : ∃ p ∈ db.participants, p.id = participantId
  receipt : ∃ receipt, mid.withdrawalReceipts = db.withdrawalReceipts ++ [receipt] ∧
    receipt.participantId = participantId ∧ receipt.subjectSessionId = sessionId ∧
    Dict.get receipt.response "task_count" = some (.int (withdrawalLineage db participantId).length) ∧
    ∀ old ∈ db.withdrawalReceipts, old.id ≠ receipt.id

namespace Withdraws

variable (h : Withdraws rt sessionId participantId db mid)

include h

theorem sessionIdsOf (id : String) : mid.sessionIdsOf id = db.sessionIdsOf id := by
  obtain ⟨clock, hs⟩ := h.sessions
  exact (sessionIdsOf_congr hs id).trans (markWithdrawn_sessionIdsOf id)

theorem lineage (id : String) : withdrawalLineage mid id = withdrawalLineage db id :=
  lineage_of_registry h.registry (fun _ => ⟨rfl, rfl⟩) h.dependencies id (h.sessionIdsOf id)

theorem withdrawn_iff (id : String) : Withdrawn mid id ↔ Withdrawn db id ∨ id = participantId := by
  obtain ⟨clock, hp⟩ := h.participants
  constructor
  · rintro ⟨p', hp', hid, hw⟩
    rw [hp] at hp'
    obtain ⟨p, hmem, rfl⟩ := mem_update.mp hp'
    split at hid
    · next heq => exact .inr (hid.symm.trans heq)
    · next heq =>
      rw [if_neg heq] at hw
      exact .inl ⟨p, hmem, hid, hw⟩
  · intro hor
    obtain ⟨p, hmem, hid, hw⟩ : ∃ p ∈ db.participants, p.id = id ∧
        (p.withdrawnAt ≠ none ∨ p.id = participantId) := by
      rcases hor with ⟨p, hmem, hid, hw⟩ | rfl
      · exact ⟨p, hmem, hid, .inl hw⟩
      · obtain ⟨p, hmem, hid⟩ := h.exists_participant
        exact ⟨p, hmem, hid, .inr hid⟩
    rw [Withdrawn, hp]
    by_cases heq : p.id = participantId
    · exact ⟨_, mem_update_of_pos hmem heq, hid, by simp⟩
    · exact ⟨p, mem_update_of_neg hmem heq, hid, hw.resolve_right heq⟩

theorem invalidated_iff (x : String) :
    Invalidated mid x ↔ Invalidated db x ∨ x ∈ withdrawalLineage db participantId := by
  constructor
  · rintro ⟨a', ha', hid, hstatus⟩
    rw [h.registry] at ha'
    obtain ⟨a, ha, rfl⟩ := mem_update.mp ha'
    split at hid
    · next hin => exact .inr (hid ▸ hin)
    · next hout =>
      rw [if_neg hout] at hstatus
      exact .inl ⟨a, ha, hid, hstatus⟩
  · intro hor
    obtain ⟨a, ha, hid, hstatus⟩ : ∃ a ∈ db.artifactRegistry, a.id = x ∧
        (a.status = .invalidated ∨ a.id ∈ withdrawalLineage db participantId) := by
      rcases hor with ⟨a, ha, hid, hstatus⟩ | hin
      · exact ⟨a, ha, hid, .inl hstatus⟩
      · obtain ⟨a, ha, hid⟩ := h.registered x hin
        exact ⟨a, ha, hid, .inr (by rw [hid]; exact hin)⟩
    rw [Invalidated, h.registry]
    by_cases hin : a.id ∈ withdrawalLineage db participantId
    · exact ⟨_, mem_update_of_pos ha hin, hid, rfl⟩
    · exact ⟨a, mem_update_of_neg ha hin, hid, hstatus.resolve_right hin⟩

theorem sessionsClosed (hc : Closed rt db) (id : String) (hw : Withdrawn mid id) : SessionsClosed mid id := by
  obtain ⟨clock, hs⟩ := h.sessions
  intro s' hs' howner
  rw [hs] at hs'
  obtain ⟨s, hmem, rfl⟩ := mem_update.mp hs'
  split at howner
  · next hp =>
    rw [if_pos hp]
    exact ⟨rfl, rfl⟩
  · next hp =>
    rw [if_neg hp]
    rcases (h.withdrawn_iff id).mp hw with hw | rfl
    · exact hc.sessions id hw s hmem howner
    · exact absurd howner hp

theorem artifactsInvalidated (hc : Closed rt db) (id : String) (hw : Withdrawn mid id) :
    ∀ a ∈ mid.artifactRegistry, a.sessionId ∈ mid.sessionIdsOf id → a.status = .invalidated := by
  intro a' ha' howned
  rw [h.registry] at ha'
  rw [h.sessionIdsOf] at howned
  obtain ⟨a, ha, rfl⟩ := mem_update.mp ha'
  split at howned
  · next hin => rw [if_pos hin]
  · next hout =>
    rw [if_neg hout]
    rcases (h.withdrawn_iff id).mp hw with hw | rfl
    · exact hc.artifacts id hw a ha howned
    · exact absurd (mem_withdrawalLineage.mpr ⟨a, ha, howned, .refl⟩) hout

theorem earlier_tasks (hwf : Wellformed db) {id other : String} (hne : id ≠ participantId)
    (hother : other ∈ db.sessionIdsOf id) (t : WithdrawalTask) :
    t ∈ mid.withdrawalTasks ∧ t.withdrawalSubjectSessionId = other ↔
      t ∈ db.withdrawalTasks ∧ t.withdrawalSubjectSessionId = other := by
  obtain ⟨new, htasks, -, hnew⟩ := h.tasks
  rw [htasks, List.mem_append]
  constructor
  · rintro ⟨ht | ht, hs⟩
    · exact ⟨ht, hs⟩
    · rw [← hs, (hnew t ht).1] at hother
      exact absurd (hwf.owner_unique hother h.owned) hne
  · rintro ⟨ht, hs⟩
    exact ⟨.inl ht, hs⟩

theorem no_earlier_tasks (hwf : Wellformed db) (hc : Closed rt db) (hfirst : ¬ Withdrawn db participantId)
    {t : WithdrawalTask} (ht : t ∈ db.withdrawalTasks) : t.withdrawalSubjectSessionId ≠ sessionId := by
  intro hs
  obtain ⟨id, hw, howned⟩ := hc.tasks_withdrawn t ht
  rw [hs] at howned
  rw [hwf.owner_unique howned h.owned] at hw
  exact hfirst hw

theorem receipted (hwf : Wellformed db) (hc : Closed rt db) (hfirst : ¬ Withdrawn db participantId)
    (id : String) (hw : Withdrawn mid id) : ∃ receipt ∈ mid.withdrawalReceipts, Receipted mid id receipt := by
  obtain ⟨receipt, hreceipts, hparticipant, hsubject, hcount, -⟩ := h.receipt
  rcases (h.withdrawn_iff id).mp hw with hw | rfl
  · obtain ⟨old, hold, hr⟩ := hc.receipts id hw
    have hne : id ≠ participantId := fun heq => hfirst (heq ▸ hw)
    refine ⟨old, by rw [hreceipts]; exact List.mem_append_left _ hold, hr.participant, ?_, ?_, ?_⟩
    · rw [h.sessionIdsOf]
      exact hr.subject
    · rw [h.lineage]
      exact hr.count
    · intro x
      rw [h.lineage, hr.tasks]
      constructor
      · rintro ⟨t, ht, hs, hx⟩
        obtain ⟨ht', hs'⟩ := (h.earlier_tasks hwf hne hr.subject t).mpr ⟨ht, hs⟩
        exact ⟨t, ht', hs', hx⟩
      · rintro ⟨t, ht, hs, hx⟩
        obtain ⟨ht', hs'⟩ := (h.earlier_tasks hwf hne hr.subject t).mp ⟨ht, hs⟩
        exact ⟨t, ht', hs', hx⟩
  · refine ⟨receipt, by rw [hreceipts]; exact List.mem_append_right _ (List.mem_singleton_self _),
      hparticipant, ?_, ?_, ?_⟩
    · rw [h.sessionIdsOf, hsubject]
      exact h.owned
    · rw [h.lineage]
      exact hcount
    · intro x
      obtain ⟨new, htasks, hmap, hnew⟩ := h.tasks
      rw [h.lineage, ← hmap, htasks, hsubject, List.mem_map]
      constructor
      · rintro ⟨t, ht, hx⟩
        exact ⟨t, List.mem_append_right _ ht, (hnew t ht).1, hx⟩
      · rintro ⟨t, ht, hs, hx⟩
        rcases List.mem_append.mp ht with ht | ht
        · exact absurd hs (h.no_earlier_tasks hwf hc hfirst ht)
        · exact ⟨t, ht, hx⟩

theorem tasksKeyed (hwf : Wellformed db) (hc : Closed rt db) (hfirst : ¬ Withdrawn db participantId) :
    Keyed (fun t : WithdrawalTask => (t.withdrawalSubjectSessionId, t.artifactId)) mid.withdrawalTasks := by
  obtain ⟨new, htasks, hmap, hnew⟩ := h.tasks
  rw [Keyed, htasks, List.map_append, List.nodup_append]
  refine ⟨hc.tasks_keyed, ?_, ?_⟩
  · apply List.Nodup.of_map Prod.snd
    rw [List.map_map]
    exact hmap ▸ nodup_lineage _ _
  · intro key hold key' hkey' heq
    obtain ⟨t, ht, rfl⟩ := List.mem_map.mp hold
    obtain ⟨t', ht', rfl⟩ := List.mem_map.mp hkey'
    have hs := congrArg Prod.fst heq
    rw [(hnew t' ht').1] at hs
    exact h.no_earlier_tasks hwf hc hfirst ht hs

theorem closed (hwf : Wellformed db) (hc : Closed rt db) (hfirst : ¬ Withdrawn db participantId) :
    Closed rt mid where
  sessions := h.sessionsClosed hc
  artifacts := h.artifactsInvalidated hc
  children e he hinv := by
    rw [h.dependencies] at he
    rw [h.invalidated_iff] at hinv ⊢
    rcases hinv with hinv | hin
    · exact .inl (hc.children e he hinv)
    · exact .inr (lineage_closed he hin)
  receipts := h.receipted hwf hc hfirst
  receipts_withdrawn receipt hmem := by
    obtain ⟨new, hreceipts, hparticipant, -⟩ := h.receipt
    rw [hreceipts, List.mem_append, List.mem_singleton] at hmem
    rw [h.withdrawn_iff]
    rcases hmem with hmem | rfl
    · exact .inl (hc.receipts_withdrawn receipt hmem)
    · exact .inr hparticipant
  tasks_withdrawn t ht := by
    obtain ⟨new, htasks, -, hnew⟩ := h.tasks
    rw [htasks, List.mem_append] at ht
    rcases ht with ht | ht
    · obtain ⟨id, hw, howned⟩ := hc.tasks_withdrawn t ht
      exact ⟨id, (h.withdrawn_iff id).mpr (.inl hw), by rw [h.sessionIdsOf]; exact howned⟩
    · refine ⟨participantId, (h.withdrawn_iff _).mpr (.inr rfl), ?_⟩
      rw [h.sessionIdsOf, (hnew t ht).1]
      exact h.owned
  tasks_keyed := h.tasksKeyed hwf hc hfirst
  task_ids t ht := by
    obtain ⟨new, htasks, -, hnew⟩ := h.tasks
    rw [htasks, List.mem_append] at ht
    rcases ht with ht | ht
    · obtain ⟨draw, hdraw, hid⟩ := hc.task_ids t ht
      exact ⟨draw, hdraw.trans_le h.tokensDrawn, hid⟩
    · exact (hnew t ht).2

end Withdraws

theorem Change.withdraws (hwf : Wellformed db) (hc : Closed rt db) {session : Session}
    {receipt : WithdrawalReceipt} (hsession : db.session? session.id = some session)
    (howner : session.participantId = some participantId)
    (hfirst : ∀ r ∈ db.withdrawalReceipts, r.participantId ≠ participantId)
    (hregistered : ∀ x ∈ withdrawalLineage (markWithdrawn clock participantId db) participantId,
      ((markWithdrawn clock participantId db).artifact? x).isSome)
    (hparticipant : receipt.participantId = participantId) (hsubject : receipt.subjectSessionId = session.id)
    (hcount : Dict.get receipt.response "task_count" =
      some (.int (taskCount (closeParticipant rt clock session.id participantId db) participantId)))
    (hfree : ∀ r ∈ db.withdrawalReceipts, r.id ≠ receipt.id) :
    ¬ Withdrawn db participantId ∧ Withdraws rt session.id participantId db
      { closeParticipant rt clock session.id participantId db with
        withdrawalReceipts := db.withdrawalReceipts ++ [receipt] } := by
  have hopen : ¬ Withdrawn db participantId := by
    intro hw
    obtain ⟨r, hr, hreceipted⟩ := hc.receipts participantId hw
    exact hfirst r hr hreceipted.participant
  have howned : session.id ∈ db.sessionIdsOf participantId :=
    mem_sessionIdsOf.mpr ⟨session, List.mem_of_find?_eq_some hsession, howner, rfl⟩
  have hnone : ∀ t ∈ db.withdrawalTasks, t.withdrawalSubjectSessionId ∉ db.sessionIdsOf participantId := by
    intro t ht hin
    obtain ⟨id, hw, hin'⟩ := hc.tasks_withdrawn t ht
    rw [hwf.owner_unique hin' hin] at hw
    exact hopen hw
  rw [markWithdrawn_lineage] at hregistered
  obtain ⟨new, htasks, hmap, hnew⟩ := foldl_invalidateArtifact_tasks rt session.id
    (withdrawalLineage db participantId) (nodup_lineage _ _) (markWithdrawn clock participantId db)
    hc.task_ids fun t ht hs => absurd (hs ▸ howned) (hnone t ht)
  have htokens : (closeParticipant rt clock session.id participantId db).tokensDrawn =
      db.tokensDrawn + (withdrawalLineage db participantId).length := by
    rw [closeParticipant, foldl_invalidateArtifact_tokens, markWithdrawn_lineage]
    rfl
  have hids : (closeParticipant rt clock session.id participantId db).sessionIdsOf participantId =
      db.sessionIdsOf participantId :=
    (sessionIdsOf_congr closeParticipant_sessions _).trans (markWithdrawn_sessionIdsOf _)
  have hlineage : (closeParticipant rt clock session.id participantId db).withdrawalTasks =
      db.withdrawalTasks ++ new := by
    rw [closeParticipant, markWithdrawn_lineage]
    exact htasks
  have hall : taskCount (closeParticipant rt clock session.id participantId db) participantId =
      (withdrawalLineage db participantId).length := by
    rw [taskCount, hids, hlineage, List.filter_append, List.length_append,
      List.filter_eq_nil_iff.mpr (by simpa using hnone), List.filter_eq_self.mpr
        (by simpa using fun t ht => (hnew t ht).1 ▸ howned), ← hmap, List.length_map, List.length_nil,
      Nat.zero_add]
  refine ⟨hopen, ⟨clock, closeParticipant_sessions⟩, ⟨clock, closeParticipant_participants⟩, ?_, ?_,
    closeParticipant_dependencies, ⟨new, hlineage, hmap, ?_⟩, ?_, howned, ?_,
    ⟨receipt, rfl, hparticipant, hsubject, by rw [hcount, hall], hfree⟩⟩
  · change (closeParticipant rt clock session.id participantId db).artifactRegistry = _
    rw [closeParticipant_artifacts, markWithdrawn_lineage]
  · intro x hx
    obtain ⟨a, ha⟩ := Option.isSome_iff_exists.mp (hregistered x hx)
    exact ⟨a, List.mem_of_find?_eq_some ha, by simpa using List.find?_some ha⟩
  · intro t ht
    obtain ⟨hs, draw, hdraw, hid⟩ := hnew t ht
    refine ⟨hs, draw, ?_, hid⟩
    change draw < (closeParticipant rt clock session.id participantId db).tokensDrawn
    rw [htokens]
    exact hdraw
  · change db.tokensDrawn ≤ (closeParticipant rt clock session.id participantId db).tokensDrawn
    omega
  · exact hwf.owner_exists session (List.mem_of_find?_eq_some hsession) participantId howner

end Withdraw

/-! ## Every run -/

theorem Change.keeps_or_withdraws (hwf : Wellformed db) (hc : Closed rt db) (h : Change rt allowed db mid) :
    Keeps db mid ∨ ∃ sessionId participantId, ¬ Withdrawn db participantId ∧
      Withdraws rt sessionId participantId db mid := by
  cases h with
  | nothing => exact .inl (Keeps.refl db)
  | participant p hfree hopen => exact .inl (Keeps.participant hopen)
  | demoSession s hfree hstate hkind howner =>
    exact .inl (Keeps.session fun id _ => by simp [howner])
  | researchSession s p hfree hstate hkind howner hp hopen =>
    refine .inl (Keeps.session ?_)
    rintro id ⟨q, hq, hid, hw⟩ heq
    rw [howner, Option.some_inj] at heq
    rw [hwf.participants.eq hq hp (hid.trans heq.symm)] at hw
    exact hw hopen
  | lifecycle row hrow hkind nextState startedAt =>
    exact .inl (Keeps.lifecycle hwf hrow hkind nextState startedAt)
  | consent sessionId receiptId version hmutable hallowed =>
    exact .inl { Keeps.confirm db sessionId with }
  | artifact artifactId sessionId parents hmutable hparents hfree =>
    exact .inl (Keeps.artifact hwf hmutable hparents)
  | dependency parent child hparent hchild => exact .inl (Keeps.dependency hparent)
  | writeIntent i hmutable => exact .inl { Keeps.refl db with }
  | recover row hrow session hsession recoveredState hrecovered =>
    exact .inl { Keeps.recover hwf hsession hrecovered with }
  | withdraw clock session participantId receipt hsession howner hfirst hregistered hparticipant hsubject
      hcount hfree =>
    have hwithdraws := Change.withdraws hwf hc hsession howner hfirst hregistered hparticipant hsubject hcount hfree
    exact .inr ⟨_, _, hwithdraws⟩

theorem Closed.change (hwf : Wellformed db) (hc : Closed rt db) (h : Change rt allowed db mid) :
    Closed rt mid := by
  rcases h.keeps_or_withdraws hwf hc with hk | ⟨sessionId, participantId, hopen, hw⟩
  · exact hc.keeps hwf hk
  · exact hw.closed hwf hc hopen

theorem closed_empty (rt : Runtime) : Closed rt {} := by
  have hnobody : ∀ id, ¬ Withdrawn {} id := by
    rintro id ⟨p, hp, -⟩
    cases hp
  exact ⟨fun id hw => absurd hw (hnobody id), fun id hw => absurd hw (hnobody id), fun _ he => (by cases he),
    fun id hw => absurd hw (hnobody id), fun _ hr => (by cases hr), fun _ ht => (by cases ht),
    List.nodup_nil, fun _ ht => (by cases ht)⟩

theorem reachable_closed (h : Reachable (system rt) db) : Wellformed db ∧ Closed rt db := by
  have hconfirms : ReachableBy (system rt) (Confirms anyConsent) db := h.mono fun _ _ _ => confirms_anyConsent _ _
  exact reachableBy_invariant (I := fun db => Wellformed db ∧ Closed rt db)
    ⟨wellformed_empty, closed_empty rt⟩ (fun _ _ hi hc => ⟨hi.1.change hc, hi.2.change hi.1 hc⟩)
    (fun _ _ hi hq => ⟨hi.1.quiet hq, hi.2.keeps hi.1 hq.keeps⟩) hconfirms

/-- For a participant who has withdrawn, `db'` adds nothing to `db`, and nothing is valid again. -/
structure NothingAdded (db db' : Database) (participantId : String) : Prop where
  withdrawn : Withdrawn db' participantId
  sessions : db'.sessionIdsOf participantId = db.sessionIdsOf participantId
  artifacts : ∀ a ∈ db'.artifactRegistry, a.sessionId ∈ db.sessionIdsOf participantId →
    ∃ a₀ ∈ db.artifactRegistry, a₀.id = a.id ∧ a₀.sessionId = a.sessionId
  consents : ∀ r ∈ db'.consentReceipts, r.sessionId ∈ db.sessionIdsOf participantId → r ∈ db.consentReceipts
  writeIntents : ∀ i ∈ db'.writeIntents, i.sessionId ∈ db.sessionIdsOf participantId →
    ∃ i₀ ∈ db.writeIntents, i₀.id = i.id ∧ i₀.sessionId = i.sessionId
  invalidated : ∀ x, Invalidated db x → Invalidated db' x

theorem NothingAdded.refl (hw : Withdrawn db participantId) : NothingAdded db db participantId where
  withdrawn := hw
  sessions := rfl
  artifacts a ha _ := ⟨a, ha, rfl, rfl⟩
  consents _ hr _ := hr
  writeIntents i hi _ := ⟨i, hi, rfl, rfl⟩
  invalidated _ hx := hx

theorem NothingAdded.trans (h : NothingAdded db mid participantId) (h' : NothingAdded mid db' participantId) :
    NothingAdded db db' participantId where
  withdrawn := h'.withdrawn
  sessions := h'.sessions.trans h.sessions
  artifacts a ha howned := by
    obtain ⟨a₁, ha₁, hid₁, hs₁⟩ := h'.artifacts a ha (by rw [h.sessions]; exact howned)
    obtain ⟨a₀, ha₀, hid₀, hs₀⟩ := h.artifacts a₁ ha₁ (by rw [hs₁]; exact howned)
    exact ⟨a₀, ha₀, hid₀.trans hid₁, hs₀.trans hs₁⟩
  consents r hr howned := h.consents r (h'.consents r hr (by rw [h.sessions]; exact howned)) howned
  writeIntents i hi howned := by
    obtain ⟨i₁, hi₁, hid₁, hs₁⟩ := h'.writeIntents i hi (by rw [h.sessions]; exact howned)
    obtain ⟨i₀, hi₀, hid₀, hs₀⟩ := h.writeIntents i₁ hi₁ (by rw [hs₁]; exact howned)
    exact ⟨i₀, hi₀, hid₀.trans hid₁, hs₀.trans hs₁⟩
  invalidated x hx := h'.invalidated x (h.invalidated x hx)

theorem Change.consents (hwf : Wellformed db) (h : Change rt allowed db mid)
    (hw : Withdrawn db participantId) : ∀ r ∈ mid.consentReceipts,
      r.sessionId ∈ db.sessionIdsOf participantId → r ∈ db.consentReceipts := by
  intro r hr howned
  cases h with
  | consent sessionId receiptId version hmutable hallowed =>
    rcases mem_insertOrReplace.mp hr with ⟨hold, -⟩ | rfl
    · exact hold
    · exact absurd howned (mutable_not_withdrawn hwf hmutable hw)
  | withdraw clock session participantId receipt =>
    change r ∈ (closeParticipant _ _ _ _ _).consentReceipts at hr
    rw [closeParticipant_consentReceipts] at hr
    exact hr
  | nothing | participant | demoSession | researchSession | lifecycle | artifact | dependency
  | writeIntent | recover => exact hr

theorem Change.writeIntents (hwf : Wellformed db) (h : Change rt allowed db mid)
    (hw : Withdrawn db participantId) : ∀ i ∈ mid.writeIntents,
      i.sessionId ∈ db.sessionIdsOf participantId →
        ∃ i₀ ∈ db.writeIntents, i₀.id = i.id ∧ i₀.sessionId = i.sessionId := by
  intro i hi howned
  cases h with
  | writeIntent new hmutable =>
    rcases List.mem_append.mp hi with hold | hnew
    · exact ⟨i, hold, rfl, rfl⟩
    · rw [List.mem_singleton.mp hnew] at howned
      exact absurd howned (mutable_not_withdrawn hwf hmutable hw)
  | recover row =>
    obtain ⟨i₀, hi₀, rfl⟩ := mem_update.mp hi
    exact ⟨i₀, hi₀, by split <;> rfl, by split <;> rfl⟩
  | withdraw clock session participantId receipt =>
    change i ∈ (closeParticipant _ _ _ _ _).writeIntents at hi
    rw [closeParticipant_writeIntents] at hi
    exact ⟨i, hi, rfl, rfl⟩
  | nothing | participant | demoSession | researchSession | lifecycle | artifact | dependency
  | consent => exact ⟨i, hi, rfl, rfl⟩

theorem Change.nothingAdded (hwf : Wellformed db) (hc : Closed rt db) (h : Change rt allowed db mid)
    (hw : Withdrawn db participantId) : NothingAdded db mid participantId := by
  have hconsents := h.consents hwf hw
  have hintents := h.writeIntents hwf hw
  rcases h.keeps_or_withdraws hwf hc with hk | ⟨sessionId, other, hopen, hstep⟩
  · refine ⟨(hk.withdrawn_iff _).mpr hw, hk.sessionIds _ hw, ?_, hconsents, hintents,
      fun x => (hk.invalidated_iff x).mpr⟩
    intro a ha howned
    obtain ⟨new, hreg, hnew⟩ := hk.registry
    rw [hreg, List.mem_append] at ha
    rcases ha with ha | ha
    · exact ⟨a, ha, rfl, rfl⟩
    · exact absurd howned ((hnew a ha).2 _ hw)
  · refine ⟨(hstep.withdrawn_iff _).mpr (.inl hw), hstep.sessionIdsOf _, ?_, hconsents, hintents,
      fun x hx => (hstep.invalidated_iff x).mpr (.inl hx)⟩
    intro a ha howned
    rw [hstep.registry] at ha
    obtain ⟨a₀, ha₀, rfl⟩ := mem_update.mp ha
    exact ⟨a₀, ha₀, by split <;> rfl, by split <;> rfl⟩

theorem Quiet.nothingAdded (h : Quiet mid db') (hw : Withdrawn mid participantId) :
    NothingAdded mid db' participantId where
  withdrawn := (h.keeps.withdrawn_iff _).mpr hw
  sessions := h.sessionIdsOf _
  artifacts a ha _ := ⟨a, by rwa [← h.artifactRegistry], rfl, rfl⟩
  consents r hr _ := by rwa [← h.consentReceipts]
  writeIntents i hi _ := ⟨i, by rwa [← h.writeIntents], rfl, rfl⟩
  invalidated x hx := (h.keeps.invalidated_iff x).mpr hx

theorem later_nothingAdded (hdb : Reachable (system rt) db) (hw : Withdrawn db participantId)
    (h : Later (system rt) db db') : NothingAdded db db' participantId := by
  induction h with
  | refl => exact NothingAdded.refl hw
  | tail hlater hstep ih =>
    obtain ⟨hwf, hc⟩ := reachable_closed (Later.reachable hlater hdb)
    obtain ⟨action, rfl⟩ := hstep
    obtain ⟨mid, hchange, hquiet⟩ : Commits rt anyConsent _ (step rt _ action) :=
      step_commits (confirms_anyConsent _ action)
    have hadded := hchange.nothingAdded hwf hc ih.withdrawn
    exact ih.trans (hadded.trans (hquiet.nothingAdded hadded.withdrawn))

/-- The artifacts that the withdrawal of the participant is about: those of the participant's sessions and
all their descendants. -/
def InLineage (db : Database) (participantId x : String) : Prop :=
  ∃ a ∈ db.artifactRegistry, a.sessionId ∈ db.sessionIdsOf participantId ∧
    Descends db.artifactDependencies a.id x

/-- In every reachable ledger no valid artifact descends from an invalidated one, and a participant who
has withdrawn is closed: sessions, lineage, tasks and receipt as the withdrawal left them, and nothing
that follows adds to them. -/
theorem withdrawal_closure (rt : Runtime) (db : Database) (h : Reachable (system rt) db) :
    (∀ x y, Descends db.artifactDependencies x y → Invalidated db x →
      ∀ a ∈ db.artifactRegistry, a.id = y → a.status ≠ .valid) ∧
    ∀ id, Withdrawn db id →
      SessionsClosed db id ∧
      (∀ x, InLineage db id x → Invalidated db x ∧ ∀ a ∈ db.artifactRegistry, a.id = x → a.status ≠ .valid) ∧
      (∃ receipt ∈ db.withdrawalReceipts, receipt.participantId = id ∧
        receipt.subjectSessionId ∈ db.sessionIdsOf id ∧
        (∀ x, InLineage db id x → ∃ t ∈ db.withdrawalTasks,
          (t.withdrawalSubjectSessionId = receipt.subjectSessionId ∧ t.artifactId = x) ∧
          ∀ t' ∈ db.withdrawalTasks, t'.withdrawalSubjectSessionId = receipt.subjectSessionId →
            t'.artifactId = x → t' = t) ∧
        ∃ ids : List String, ids.Nodup ∧ (∀ x, x ∈ ids ↔ InLineage db id x) ∧
          Dict.get receipt.response "task_count" = some (.int ids.length)) ∧
      ∀ db', Later (system rt) db db' → NothingAdded db db' id := by
  obtain ⟨hwf, hc⟩ := reachable_closed h
  have hnotValid : ∀ y, Invalidated db y → ∀ a ∈ db.artifactRegistry, a.id = y → a.status ≠ .valid :=
    fun y hy a ha hid hvalid => hwf.not_invalidated ha hvalid (hid ▸ hy)
  refine ⟨fun x y hdesc hx => hnotValid y (hc.descends hdesc hx), fun id hw => ?_⟩
  obtain ⟨receipt, hreceipt, hr⟩ := hc.receipts id hw
  have hlineage : ∀ x, x ∈ withdrawalLineage db id ↔ InLineage db id x := fun x => mem_withdrawalLineage
  refine ⟨hc.sessions id hw, ?_, ⟨receipt, hreceipt, hr.participant, hr.subject, ?_, ?_⟩, ?_⟩
  · intro x hx
    have hinv := hc.lineage_invalidated hw ((hlineage x).mpr hx)
    exact ⟨hinv, hnotValid x hinv⟩
  · intro x hx
    obtain ⟨t, ht, hs, hta⟩ := (hr.tasks x).mp ((hlineage x).mpr hx)
    refine ⟨t, ht, ⟨hs, hta⟩, fun t' ht' hs' hta' => ?_⟩
    exact hc.tasks_keyed.eq ht' ht (Prod.ext (hs'.trans hs.symm) (hta'.trans hta.symm))
  · exact ⟨withdrawalLineage db id, nodup_lineage _ _, hlineage, hr.count⟩
  · exact fun db' hlater => later_nothingAdded h hw hlater

/-- Artifact `A` of the first participant and `B` of the second depend on each other; the first
participant withdraws. -/
def crossWithdrawalRun : List (Clock × M1Action) :=
  [(noon, .mutate (.createStudy "S" none)),
    (noon, .mutate (.createParticipant "study-" (some "p1"))),
    (noon, .mutate (.createParticipant "study-" (some "p2"))),
    (noon, .mutate (.createResearchSession
      { studyId := "study-", participantId := "participant-a" } (some "s1"))),
    (noon, .mutate (.createResearchSession
      { studyId := "study-", participantId := "participant-aaa" } (some "s2"))),
    (noon, .registerArtifact "A" "research-aaaaa" []),
    (noon, .registerArtifact "B" "research-aaaaaaa" ["A"]),
    (noon, .addDependency "B" "A"),
    (noon, .mutate (.withdraw "research-aaaaa" none))]

theorem withdrawal_closure_cross :
    Withdrawn (crossWithdrawalRun.foldl (step sampleRuntime) {}) "participant-a" ∧
      InLineage (crossWithdrawalRun.foldl (step sampleRuntime) {}) "participant-a" "B" ∧
      Invalidated (crossWithdrawalRun.foldl (step sampleRuntime) {}) "B" := by
  have hw : Withdrawn (crossWithdrawalRun.foldl (step sampleRuntime) {}) "participant-a" := by
    unfold Withdrawn
    decide +kernel
  have hin : "B" ∈ withdrawalLineage (crossWithdrawalRun.foldl (step sampleRuntime) {}) "participant-a" := by
    decide +kernel
  have hclosure := withdrawal_closure sampleRuntime _ (reachable_foldl crossWithdrawalRun (.init rfl))
  exact ⟨hw, mem_withdrawalLineage.mp hin, ((hclosure.2 _ hw).2.1 "B" (mem_withdrawalLineage.mp hin)).1⟩

end PduExamObserver.M1
