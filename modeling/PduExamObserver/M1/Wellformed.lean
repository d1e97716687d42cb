import PduExamObserver.M1.Runs

/-! # Keys and kinds in the ledger

The primary keys that lookups rely on are unique, and a session that belongs to a participant is a
research session. -/

namespace PduExamObserver.M1
open Table Transition M1Backend
set_option autoImplicit false

variable {rt : Runtime} {allowed : ConsentPolicy} {db mid db' : Database}

theorem Quiet.session_back (h : Quiet db db') {s' : Session} (hs : s' ∈ db'.sessions) :
    ∃ s ∈ db.sessions, s.view = s'.view := by
  have hmem : s'.view ∈ db'.sessions.map Session.view := List.mem_map_of_mem hs
  rw [h.sessions] at hmem
  exact List.mem_map.mp hmem

structure Wellformed (db : Database) : Prop where
  sessions : Keyed Session.id db.sessions
  participants : Keyed Participant.id db.participants
  artifacts : Keyed Artifact.id db.artifactRegistry
  owned_research : ∀ s ∈ db.sessions, s.participantId ≠ none → s.sessionKind = .research
  owner_exists : ∀ s ∈ db.sessions, ∀ participantId, s.participantId = some participantId →
    ∃ p ∈ db.participants, p.id = participantId

theorem ids_of_views (db : Database) :
    db.sessions.map Session.id = (db.sessions.map Session.view).map SessionView.id := by
  rw [List.map_map]
  rfl

theorem Wellformed.quiet (hw : Wellformed mid) (h : Quiet mid db') : Wellformed db' where
  sessions := by
    have hkeys := hw.sessions
    rw [Keyed, ids_of_views] at hkeys ⊢
    rwa [h.sessions]
  participants := by
    rw [h.participants]
    exact hw.participants
  artifacts := by
    rw [h.artifactRegistry]
    exact hw.artifacts
  owned_research s' hs' howner := by
    obtain ⟨s, hs, hv⟩ := h.session_back hs'
    have hkind : s.sessionKind = s'.sessionKind := congrArg SessionView.sessionKind hv
    have hparticipant : s.participantId = s'.participantId := congrArg SessionView.participantId hv
    rw [← hkind]
    exact hw.owned_research s hs (by rw [hparticipant]; exact howner)
  owner_exists s' hs' participantId howner := by
    obtain ⟨s, hs, hv⟩ := h.session_back hs'
    have hparticipant : s.participantId = s'.participantId := congrArg SessionView.participantId hv
    rw [h.participants]
    exact hw.owner_exists s hs participantId (by rw [hparticipant, howner])

theorem owner_update {p : Session → Prop} [DecidablePred p] {f : Session → Session}
    {participants : List Participant} {sessions : List Session}
    (h : ∀ s ∈ sessions, ∀ participantId, s.participantId = some participantId →
      ∃ p ∈ participants, p.id = participantId)
    (hf : ∀ s, (f s).participantId = s.participantId) :
    ∀ s ∈ update p f sessions, ∀ participantId, s.participantId = some participantId →
      ∃ p ∈ participants, p.id = participantId := by
  intro s' hs' participantId howner
  obtain ⟨s, hs, rfl⟩ := mem_update.mp hs'
  refine h s hs participantId ?_
  split at howner
  · rwa [hf s] at howner
  · exact howner

theorem owned_update {p : Session → Prop} [DecidablePred p] {f : Session → Session}
    (h : ∀ s ∈ db.sessions, s.participantId ≠ none → s.sessionKind = .research)
    (hf : ∀ s, (f s).participantId = s.participantId ∧ (f s).sessionKind = s.sessionKind) :
    ∀ s ∈ update p f db.sessions, s.participantId ≠ none → s.sessionKind = .research := by
  intro s' hs' howner
  obtain ⟨s, hs, rfl⟩ := mem_update.mp hs'
  split at howner
  · next hp =>
    rw [if_pos hp, (hf s).2]
    exact h s hs (by rwa [(hf s).1] at howner)
  · next hp =>
    rw [if_neg hp]
    exact h s hs howner

theorem Wellformed.change (hw : Wellformed db) (h : Change rt allowed db mid) : Wellformed mid := by
  cases h with
  | nothing => exact hw
  | participant p hfree hopen =>
    refine { hw with
      participants := hw.participants.concat fun q hq hid => hfree q hq (.inl hid)
      owner_exists := ?_ }
    intro s hs participantId howner
    obtain ⟨q, hq, hid⟩ := hw.owner_exists s hs participantId howner
    exact ⟨q, List.mem_append_left _ hq, hid⟩
  | demoSession s hfree hstate hkind howner =>
    refine { hw with sessions := hw.sessions.concat hfree, owned_research := ?_, owner_exists := ?_ }
    · intro q hq hne
      rcases List.mem_append.mp hq with hq | hq
      · exact hw.owned_research q hq hne
      · rw [List.mem_singleton.mp hq] at hne
        exact absurd howner hne
    · intro q hq participantId hq'
      rcases List.mem_append.mp hq with hq | hq
      · exact hw.owner_exists q hq participantId hq'
      · rw [List.mem_singleton.mp hq, howner] at hq'
        cases hq'
  | researchSession s p hfree hstate hkind howner hp hopen =>
    refine { hw with sessions := hw.sessions.concat hfree, owned_research := ?_, owner_exists := ?_ }
    · intro q hq hne
      rcases List.mem_append.mp hq with hq | hq
      · exact hw.owned_research q hq hne
      · rw [List.mem_singleton.mp hq]
        exact hkind
    · intro q hq participantId hq'
      rcases List.mem_append.mp hq with hq | hq
      · exact hw.owner_exists q hq participantId hq'
      · rw [List.mem_singleton.mp hq, howner, Option.some_inj] at hq'
        exact ⟨p, hp, hq'⟩
  | lifecycle row hrow hkind nextState startedAt =>
    exact { hw with
      sessions := hw.sessions.update fun _ _ => rfl
      owned_research := owned_update hw.owned_research fun _ => ⟨rfl, rfl⟩
      owner_exists := owner_update hw.owner_exists fun _ => rfl }
  | consent sessionId receiptId version hmutable hallowed =>
    exact { hw with
      sessions := hw.sessions.update fun _ _ => rfl
      owned_research := owned_update hw.owned_research fun _ => ⟨rfl, rfl⟩
      owner_exists := owner_update hw.owner_exists fun _ => rfl }
  | artifact artifactId sessionId parents hmutable hparents hfree =>
    exact { hw with artifacts := hw.artifacts.concat hfree }
  | dependency parent child hparent hchild => exact { hw with }
  | writeIntent i hmutable => exact { hw with }
  | recover row hrow session hsession recoveredState hrecovered =>
    exact { hw with
      sessions := hw.sessions.update fun _ _ => rfl
      owned_research := owned_update hw.owned_research fun _ => ⟨rfl, rfl⟩
      owner_exists := owner_update hw.owner_exists fun _ => rfl }
  | withdraw clock session participantId receipt =>
    refine ⟨?_, ?_, ?_, ?_, ?_⟩
    · change Keyed Session.id (closeParticipant _ _ _ _ _).sessions
      rw [closeParticipant_sessions]
      exact hw.sessions.update fun _ _ => rfl
    · change Keyed Participant.id (closeParticipant _ _ _ _ _).participants
      rw [closeParticipant_participants]
      exact hw.participants.update fun _ _ => rfl
    · change Keyed Artifact.id (closeParticipant _ _ _ _ _).artifactRegistry
      rw [closeParticipant_artifacts]
      exact hw.artifacts.update fun _ _ => rfl
    · change ∀ s ∈ (closeParticipant _ _ _ _ _).sessions, _
      rw [closeParticipant_sessions]
      exact owned_update hw.owned_research fun _ => ⟨rfl, rfl⟩
    · change ∀ s ∈ (closeParticipant _ _ _ _ _).sessions, ∀ _, _ →
        ∃ p ∈ (closeParticipant _ _ _ _ _).participants, _
      rw [closeParticipant_sessions, closeParticipant_participants]
      refine owner_update ?_ fun _ => rfl
      intro s hs participantId howner
      obtain ⟨p, hp, hid⟩ := hw.owner_exists s hs participantId howner
      refine ⟨_, mem_update.mpr ⟨p, hp, rfl⟩, ?_⟩
      split <;> exact hid

theorem wellformed_empty : Wellformed {} :=
  ⟨List.nodup_nil, List.nodup_nil, List.nodup_nil, fun _ hs => (by cases hs), fun _ hs => (by cases hs)⟩

theorem Wellformed.session_of_mem (hw : Wellformed db) {s : Session} (hs : s ∈ db.sessions) :
    db.session? s.id = some s := hw.sessions.find hs

theorem Wellformed.participant_of_mem (hw : Wellformed db) {p : Participant} (hp : p ∈ db.participants) :
    db.participant? p.id = some p := hw.participants.find hp

theorem Wellformed.artifact_of_mem (hw : Wellformed db) {a : Artifact} (ha : a ∈ db.artifactRegistry) :
    db.artifact? a.id = some a := hw.artifacts.find ha

end PduExamObserver.M1
