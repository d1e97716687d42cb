import PduExamObserver.Training.FoldEvents

/-! # Events within their sessions

The events of a fold against the durations of its sessions: which exports and predictions are evaluated, and which are
refused. -/

namespace PduExamObserver.Training
open ResearchRuntime Showcase
set_option autoImplicit false

/-! ## Rule events -/

structure EngineWithin (engine : TemporalRuleEngine) : Prop where
  pending : ∀ label, engine.pending = some label → 0 ≤ engine.pendingStart
  active : ∀ active, engine.active = some active →
    (0 ≤ active.startMs ∧ active.startMs ≤ engine.lastMs ∧ active.startMs ≤ active.eligibleOnsetMs) ∧
      engine.lastSupport ≤ engine.lastMs + 1

structure EventWithin (event : RuleEvent) (untilMs : Int) : Prop where
  proper : 0 ≤ event.startMs ∧ event.startMs < event.endMs
  eligible : event.startMs ≤ event.eligibleOnsetMs
  ended : event.endMs ≤ untilMs

variable {engine after : TemporalRuleEngine} {events : List RuleEvent} {call : Call}
  {logicalId : Nat} {frames : List RawRuleFrame} {untilMs : Int}

theorem EngineWithin.eventWithin {active : RuleEvent} {kind : EventKind} {endMs : Int} (h : EngineWithin engine)
    (hactive : engine.active = some active) (hlate : engine.lastMs < untilMs) (hend : endMs ≤ untilMs) :
    EventWithin (TemporalRuleEngine.event active kind endMs) untilMs := by
  obtain ⟨⟨hstart, hlast, honset⟩, -⟩ := h.active active hactive
  refine ⟨⟨hstart, ?_⟩, honset, ?_⟩
  · change active.startMs < max (active.startMs + 1) endMs
    omega
  · change max (active.startMs + 1) endMs ≤ untilMs
    omega

theorem fromProtocolFreeze_required {protocol : Native.Dict} {policy : RulePolicy}
    (h : RulePolicy.fromProtocolFreeze protocol = .ok policy) (label : Label) : 0 ≤ policy.requiredMs label := by
  unfold RulePolicy.fromProtocolFreeze at h
  simp only [bind_ok_iff] at h
  obtain ⟨version, -, source, -, fields, -, ⟨⟩, -, downOn, -, downOff, -, sideOn, -, sideOff, -, motion, -, presence, -,
    release, -, cooldown, -, merge, -, stride, -, h⟩ := h
  unfold RulePolicy.fromDocument at h
  simp only [bind_ok_iff, require_eq_ok] at h
  obtain ⟨⟨⟩, -, ⟨⟩, -, downOn, -, downOff, -, sideOn, -, sideOff, -, motion, -, presence, -, release, -, merge, -,
    cooldown, -, ⟨⟩, hhysteresis, version, -, status, -, source, -, h⟩ := h
  obtain rfl := Except.ok.inj h
  obtain ⟨-, -, hmotion, hpresence⟩ := hhysteresis
  unfold RulePolicy.requiredMs
  split
  · exact hpresence.le
  · exact hmotion.le

theorem advances_within (hrequired : ∀ label, 0 ≤ engine.policy.requiredMs label) (h : EngineWithin engine)
    (hadvances : Advances engine logicalId call after events) (hlate : engine.lastMs < call.timestampMs)
    (hsign : 0 ≤ call.timestampMs) :
    EngineWithin after ∧ after.policy = engine.policy ∧ ∀ event ∈ events, EventWithin event (call.timestampMs + 1) := by
  have hsince (label : Label) : 0 ≤ engine.since call.timestampMs label := by
    unfold TemporalRuleEngine.since
    split
    · next hpending => exact h.pending label hpending
    · exact hsign
  have hkept : ∀ active, engine.active = some active →
      (0 ≤ active.startMs ∧ active.startMs ≤ call.timestampMs ∧ active.startMs ≤ active.eligibleOnsetMs) ∧
        engine.lastSupport ≤ call.timestampMs + 1 := by
    intro active hactive
    obtain ⟨⟨hstart, hlast, honset⟩, hsupport⟩ := h.active active hactive
    exact ⟨⟨hstart, by omega, honset⟩, by omega⟩
  have hsupported : ∀ active, engine.active = some active →
      (0 ≤ active.startMs ∧ active.startMs ≤ call.timestampMs ∧ active.startMs ≤ active.eligibleOnsetMs) ∧
        call.timestampMs + 1 ≤ call.timestampMs + 1 := fun active hactive => ⟨(hkept active hactive).1, le_refl _⟩
  have hempty : ∀ event ∈ ([] : List RuleEvent), EventWithin event (call.timestampMs + 1) :=
    fun event hmem => absurd hmem List.not_mem_nil
  cases hadvances with
  | rests outcome hidle => exact ⟨⟨fun label hnone => (nomatch hnone), fun active hnone => (nomatch hnone)⟩, rfl, hempty⟩
  | waits label hshows =>
    refine ⟨⟨fun _ _ => hsince label, fun active hactive => ?_⟩, rfl, hempty⟩
    exact absurd (hshows.idle.symm.trans hactive) (by simp)
  | starts label hshows hreached =>
    have hstart := hsince label
    have hlength := hrequired label
    refine ⟨⟨fun label hnone => (nomatch hnone), fun active hactive => ?_⟩, rfl, ?_⟩
    · obtain rfl := Option.some.inj hactive
      refine ⟨⟨hstart, ?_, ?_⟩, le_refl _⟩
      · change engine.since call.timestampMs label ≤ call.timestampMs
        omega
      · change engine.since call.timestampMs label ≤ engine.since call.timestampMs label + engine.policy.requiredMs label
        omega
    · intro event hmem
      obtain rfl := List.mem_singleton.mp hmem
      refine ⟨⟨hstart, ?_⟩, ?_, le_refl _⟩
      · change engine.since call.timestampMs label < call.timestampMs + 1
        omega
      · change engine.since call.timestampMs label ≤ engine.since call.timestampMs label + engine.policy.requiredMs label
        omega
  | stays active hactive => exact ⟨⟨h.pending, hkept⟩, rfl, hempty⟩
  | supports active hactive => exact ⟨⟨h.pending, hsupported⟩, rfl, hempty⟩
  | updates active hactive =>
    refine ⟨⟨h.pending, hsupported⟩, rfl, fun event hmem => ?_⟩
    obtain rfl := List.mem_singleton.mp hmem
    exact EngineWithin.eventWithin h hactive (by omega) (le_refl _)
  | closes outcome active hactive =>
    refine ⟨⟨fun label hnone => (nomatch hnone), fun active hnone => (nomatch hnone)⟩, rfl, fun event hmem => ?_⟩
    obtain rfl := List.mem_singleton.mp hmem
    exact EngineWithin.eventWithin h hactive (by omega) (hkept active hactive).2

theorem driveRules_within (untilMs : Int) (hrequired : ∀ label, 0 ≤ engine.policy.requiredMs label)
    (h : EngineWithin engine) (nextId : Nat)
    (hincreasing : (frames.map RawRuleFrame.timestampMs).Pairwise (· < ·))
    (hbounds : ∀ frame ∈ frames, engine.lastMs < frame.timestampMs ∧ 0 ≤ frame.timestampMs ∧ frame.timestampMs < untilMs) :
    ∃ after events, driveRules engine nextId frames = .ok (after, events) ∧ EngineWithin after ∧
      (engine.lastMs < untilMs → after.lastMs < untilMs) ∧ ∀ event ∈ events, EventWithin event untilMs := by
  induction frames generalizing engine nextId with
  | nil => exact ⟨engine, [], rfl, h, id, fun event hmem => absurd hmem List.not_mem_nil⟩
  | cons frame rest ih =>
    obtain ⟨hfirst, hrest⟩ := List.pairwise_cons.mp hincreasing
    obtain ⟨hlate, hsign, huntil⟩ := hbounds frame List.mem_cons_self
    let call : Call := ⟨frame.timestampMs, frame.poseCount, some frame.downScore, some frame.sideScore, frame.qualityOk, none⟩
    cases hadvance : engine.advance nextId call.timestampMs call.poseCount call.downScore call.sideScore call.qualityOk
        call.predictionLabel with
    | none =>
      have htime : call.timestampMs ≤ engine.lastMs ∨ call.timestampMs < 0 :=
        TemporalRuleEngine.advance_eq_none_iff.mp hadvance
      change frame.timestampMs ≤ engine.lastMs ∨ frame.timestampMs < 0 at htime
      omega
    | some moved =>
      obtain ⟨moved, events⟩ := moved
      have hlast := TemporalRuleEngine.advance_lastMs hadvance
      change moved.lastMs = frame.timestampMs at hlast
      obtain ⟨hwithin, hpolicy, hevents⟩ := advances_within hrequired h (advance_cases hadvance).2 hlate hsign
      obtain ⟨after, more, hdrive, hafter, hends, hmore⟩ := ih (by rwa [hpolicy]) hwithin (nextId + 1) hrest
        fun later hlater => by
          obtain ⟨-, hlaterSign, hlaterUntil⟩ := hbounds later (List.mem_cons_of_mem _ hlater)
          exact ⟨hlast ▸ hfirst _ (List.mem_map_of_mem hlater), hlaterSign, hlaterUntil⟩
      refine ⟨after, events ++ more, ?_, hafter, fun _ => hends (hlast ▸ huntil), fun event hmem => ?_⟩
      · rw [driveRules, bind_ok_iff]
        refine ⟨(moved, events), orError_eq_ok.mpr hadvance, ?_⟩
        rw [bind_ok_iff]
        exact ⟨(after, more), hdrive, rfl⟩
      · rcases List.mem_append.mp hmem with hmem | hmem
        · obtain ⟨hproper, heligible, hended⟩ := hevents event hmem
          exact ⟨hproper, heligible, hended.trans huntil⟩
        · exact hmore event hmem

theorem close_within (h : EngineWithin engine) (hlate : engine.lastMs < untilMs) :
    ∀ event ∈ (engine.close untilMs).2, EventWithin event untilMs := by
  unfold TemporalRuleEngine.close
  intro event hmem
  split at hmem
  · exact absurd hmem List.not_mem_nil
  · next active hactive =>
    obtain rfl := List.mem_singleton.mp hmem
    have hsupport := (h.active active hactive).2
    exact EngineWithin.eventWithin h hactive hlate (by omega)

/-! ## Merged events -/

variable {row : PredictedRow} {rows seen : List PredictedRow} {merged : List Event} {mergeGapMs : Int}

theorem make_ok {sessionId participantId : String} {label : Label} {startMs endMs : Int} {eligibleAtMs : Option Int}
    (hnamed : sessionId ≠ "" ∧ participantId ≠ "") (hproper : 0 ≤ startMs ∧ startMs < endMs)
    (heligible : ∀ ms ∈ eligibleAtMs, startMs ≤ ms) :
    Event.make sessionId participantId label startMs endMs eligibleAtMs =
      .ok ⟨sessionId, participantId, label, startMs, endMs, eligibleAtMs, hnamed, hproper, heligible⟩ :=
  dif_pos ⟨hnamed, hproper, heligible⟩

structure PredictedRow.Proper (row : PredictedRow) : Prop where
  named : row.session ≠ "" ∧ row.participant ≠ ""
  interval : 0 ≤ row.startMs ∧ row.startMs < row.endMs

/-- The events are merged of these rows: each has the participant of a row and the end of a row, and every row ends
within one of them. -/
structure Merges (rows : List PredictedRow) (events : List Event) : Prop where
  people : ∀ event ∈ events, ∃ row ∈ rows, row.session = event.sessionId ∧ row.participant = event.participantId
  ends : ∀ event ∈ events, ∃ row ∈ rows, row.session = event.sessionId ∧ row.endMs = event.endMs
  covers : ∀ row ∈ rows, ∃ event ∈ events, event.sessionId = row.session ∧ row.endMs ≤ event.endMs

theorem Merges.cons (h : Merges seen merged) {event : Event} (hsession : event.sessionId = row.session)
    (hparticipant : event.participantId = row.participant) (hend : event.endMs = row.endMs) :
    Merges (seen ++ [row]) (event :: merged) := by
  have hrow : row ∈ seen ++ [row] := List.mem_append_right _ (List.mem_singleton_self row)
  refine ⟨fun other hmem => ?_, fun other hmem => ?_, fun other hmem => ?_⟩
  · rcases List.mem_cons.mp hmem with rfl | hmem
    · exact ⟨row, hrow, hsession.symm, hparticipant.symm⟩
    · obtain ⟨old, hold, hfacts⟩ := h.people other hmem
      exact ⟨old, List.mem_append_left _ hold, hfacts⟩
  · rcases List.mem_cons.mp hmem with rfl | hmem
    · exact ⟨row, hrow, hsession.symm, hend.symm⟩
    · obtain ⟨old, hold, hfacts⟩ := h.ends other hmem
      exact ⟨old, List.mem_append_left _ hold, hfacts⟩
  · rcases List.mem_append.mp hmem with hmem | hmem
    · obtain ⟨old, hold, hfacts⟩ := h.covers other hmem
      exact ⟨old, List.mem_cons_of_mem _ hold, hfacts⟩
    · obtain rfl := List.mem_singleton.mp hmem
      exact ⟨event, List.mem_cons_self, hsession, hend.ge⟩

theorem mergeRow_merges (mergeGapMs : Int) (h : Merges seen merged) (hproper : row.Proper) :
    ∃ after, mergeRow mergeGapMs merged row = .ok after ∧ Merges (seen ++ [row]) after := by
  have halone : Event.make row.session row.participant row.label row.startMs row.endMs none =
      .ok ⟨row.session, row.participant, row.label, row.startMs, row.endMs, none, hproper.named, hproper.interval,
        by simp⟩ := make_ok hproper.named hproper.interval _
  unfold mergeRow
  cases merged with
  | nil =>
    rw [halone]
    exact ⟨_, rfl, h.cons rfl rfl rfl⟩
  | cons previous rest =>
    dsimp only
    split
    · next hnear =>
      have hjoined : 0 ≤ previous.startMs ∧ previous.startMs < max previous.endMs row.endMs :=
        ⟨previous.proper.1, lt_max_of_lt_left previous.proper.2⟩
      rw [make_ok hproper.named hjoined (by simp)]
      refine ⟨_, rfl, fun event hmem => ?_, fun event hmem => ?_, fun other hmem => ?_⟩
      · rcases List.mem_cons.mp hmem with rfl | hmem
        · exact ⟨row, List.mem_append_right _ (List.mem_singleton_self row), rfl, rfl⟩
        · obtain ⟨old, hold, hfacts⟩ := h.people event (List.mem_cons_of_mem _ hmem)
          exact ⟨old, List.mem_append_left _ hold, hfacts⟩
      · rcases List.mem_cons.mp hmem with rfl | hmem
        · -- the later of the two ends
          rcases le_total previous.endMs row.endMs with hle | hle
          · exact ⟨row, List.mem_append_right _ (List.mem_singleton_self row), rfl, (max_eq_right hle).symm⟩
          · obtain ⟨old, hold, hsession, hend⟩ := h.ends previous List.mem_cons_self
            exact ⟨old, List.mem_append_left _ hold, hsession.trans hnear.1, hend.trans (max_eq_left hle).symm⟩
        · obtain ⟨old, hold, hfacts⟩ := h.ends event (List.mem_cons_of_mem _ hmem)
          exact ⟨old, List.mem_append_left _ hold, hfacts⟩
      · rcases List.mem_append.mp hmem with hmem | hmem
        · obtain ⟨event, hevent, hsession, hend⟩ := h.covers other hmem
          rcases List.mem_cons.mp hevent with rfl | hevent
          · exact ⟨_, List.mem_cons_self, hnear.1.symm.trans hsession, hend.trans (le_max_left _ _)⟩
          · exact ⟨event, List.mem_cons_of_mem _ hevent, hsession, hend⟩
        · obtain rfl := List.mem_singleton.mp hmem
          exact ⟨_, List.mem_cons_self, rfl, le_max_right _ _⟩
    · rw [halone]
      exact ⟨_, rfl, h.cons rfl rfl rfl⟩

theorem foldlM_merges (mergeGapMs : Int) (rows : List PredictedRow) (h : Merges seen merged) (hproper : ∀ row ∈ rows, row.Proper) :
    ∃ after, rows.foldlM (mergeRow mergeGapMs) merged = .ok after ∧ Merges (seen ++ rows) after := by
  induction rows generalizing seen merged with
  | nil => exact ⟨merged, rfl, by rwa [List.append_nil]⟩
  | cons row rest ih =>
    obtain ⟨moved, hmoved, hmerges⟩ := mergeRow_merges mergeGapMs h (hproper row List.mem_cons_self)
    obtain ⟨after, hafter, hmergesAll⟩ := ih hmerges fun other hmem => hproper other (List.mem_cons_of_mem _ hmem)
    refine ⟨after, ?_, by rwa [List.append_assoc, List.singleton_append] at hmergesAll⟩
    rw [List.foldlM_cons, hmoved]
    exact hafter

theorem predictedEvents_merges (mergeGapMs : Int) {windows : List Window} {predictedLabels : List Int}
    (hproper : ∀ row ∈ predictedRows windows predictedLabels, row.Proper) :
    ∃ events, predictedEvents windows predictedLabels mergeGapMs = .ok events ∧
      Merges (predictedRows windows predictedLabels) events := by
  have hmem {row : PredictedRow} : row ∈ (predictedRows windows predictedLabels).mergeSort (fun a b => decide (a.le b)) ↔
      row ∈ predictedRows windows predictedLabels := List.mem_mergeSort
  have hstart : Merges [] [] := by constructor <;> simp
  obtain ⟨after, hafter, h⟩ := foldlM_merges mergeGapMs
    ((predictedRows windows predictedLabels).mergeSort fun a b => decide (a.le b)) hstart
    fun row hrow => hproper row (hmem.mp hrow)
  rw [List.nil_append] at h
  refine ⟨after.reverse, ?_, fun event hevent => ?_, fun event hevent => ?_, fun row hrow => ?_⟩
  · unfold predictedEvents
    dsimp only
    rw [hafter]
    rfl
  · obtain ⟨row, hrow, hfacts⟩ := h.people event (List.mem_reverse.mp hevent)
    exact ⟨row, hmem.mp hrow, hfacts⟩
  · obtain ⟨row, hrow, hfacts⟩ := h.ends event (List.mem_reverse.mp hevent)
    exact ⟨row, hmem.mp hrow, hfacts⟩
  · obtain ⟨event, hevent, hfacts⟩ := h.covers row (hmem.mpr hrow)
    exact ⟨event, List.mem_reverse.mpr hevent, hfacts⟩

/-! ## What a loaded corpus holds -/

structure SessionWhole (session : SessionLoad) : Prop where
  named : session.sessionId ≠ "" ∧ session.participant ≠ ""
  lasts : 0 < session.durationMs
  reviewed : ∀ event ∈ session.reviewedEvents, event.sessionId = session.sessionId ∧
    event.participantId = session.participant ∧ 0 ≤ event.startMs ∧ event.startMs < event.endMs
  frames : ∀ frame ∈ session.rawRuleFrames, frame.sessionId = session.sessionId ∧
    frame.participantId = session.participant ∧ 0 ≤ frame.timestampMs ∧ frame.timestampMs < session.durationMs
  increasing : (session.rawRuleFrames.map RawRuleFrame.timestampMs).Pairwise (· < ·)

structure Whole (corpus : Corpus) : Prop where
  unique : (corpus.sessions.map SessionLoad.sessionId).Nodup
  session : ∀ session ∈ corpus.sessions, SessionWhole session
  row : ∀ row ∈ corpus.rows, (row.session ≠ "" ∧ row.participant ≠ "") ∧ 0 ≤ row.startMs ∧ row.endMs = row.startMs + 6000 ∧
    (row.sourceKind = .real →
      ∃ session ∈ corpus.sessions, session.sessionId = row.session ∧ session.participant = row.participant)

def InSession (corpus : Corpus) (fold : OuterFold) (event : Event) : Prop :=
  ∃ session ∈ corpus.sessions, session.participant ∈ fold.test ∧ event.sessionId = session.sessionId ∧
    event.participantId = session.participant ∧ event.endMs ≤ session.durationMs

variable {corpus : Corpus} {fold : OuterFold} {session : SessionLoad} {uuid : String → Nat → String} {policy : RulePolicy}
  {protocol : Native.Dict}

theorem Whole.same (h : Whole corpus) {other : SessionLoad} (hsession : session ∈ corpus.sessions)
    (hother : other ∈ corpus.sessions) (hid : session.sessionId = other.sessionId) : session = other :=
  List.inj_on_of_nodup_map h.unique hsession hother hid

theorem Whole.find (h : Whole corpus) (hsession : session ∈ corpus.sessions) :
    (corpus.sessions.find? fun other => other.sessionId = session.sessionId) = some session := by
  cases hfind : corpus.sessions.find? fun other => other.sessionId = session.sessionId with
  | none =>
    have hnone := List.find?_eq_none.mp hfind session hsession
    simp at hnone
  | some other =>
    have hid : other.sessionId = session.sessionId := by simpa using List.find?_some hfind
    rw [h.same (List.mem_of_find?_eq_some hfind) hsession hid]

theorem Whole.framesOf (h : Whole corpus) (hsession : session ∈ corpus.sessions) (htested : session.participant ∈ fold.test) :
    ((corpus.sessions.flatMap SessionLoad.rawRuleFrames).filter fun frame => frame.participantId ∈ fold.test).filter
      (fun frame => frame.sessionId = session.sessionId) = session.rawRuleFrames := by
  obtain ⟨before, later, hsplit⟩ := List.append_of_mem hsession
  have hunique := h.unique
  rw [hsplit, List.map_append, List.map_cons, List.nodup_append, List.nodup_cons] at hunique
  have hothers : ∀ other ∈ before ++ later, ∀ frame ∈ other.rawRuleFrames, frame.sessionId ≠ session.sessionId := by
    intro other hother frame hframe hid
    have hmem : other ∈ corpus.sessions := by
      rw [hsplit]
      rcases List.mem_append.mp hother with hother | hother
      · exact List.mem_append_left _ hother
      · exact List.mem_append_right _ (List.mem_cons_of_mem _ hother)
    rw [((h.session other hmem).frames frame hframe).1] at hid
    rcases List.mem_append.mp hother with hother | hother
    · exact hunique.2.2 _ (List.mem_map_of_mem hother) _ List.mem_cons_self hid
    · exact hunique.2.1.1 (hid ▸ List.mem_map_of_mem hother)
  have hnone {sessions : List SessionLoad} (hsome : ∀ other ∈ sessions, other ∈ before ++ later) :
      (sessions.flatMap SessionLoad.rawRuleFrames).filter (fun frame => decide (frame.sessionId = session.sessionId) &&
        decide (frame.participantId ∈ fold.test)) = [] := by
    rw [List.filter_eq_nil_iff]
    intro frame hframe hkeeps
    obtain ⟨other, hother, hframe⟩ := List.mem_flatMap.mp hframe
    exact hothers other (hsome other hother) frame hframe (by simp at hkeeps; exact hkeeps.1)
  have hall : session.rawRuleFrames.filter (fun frame => decide (frame.sessionId = session.sessionId) &&
      decide (frame.participantId ∈ fold.test)) = session.rawRuleFrames := by
    rw [List.filter_eq_self]
    intro frame hframe
    obtain ⟨hid, hparticipant, -⟩ := (h.session session hsession).frames frame hframe
    simp [hid, hparticipant, htested]
  rw [List.filter_filter, hsplit, List.flatMap_append, List.flatMap_cons, List.filter_append, List.filter_append, hall,
    hnone fun other hother => List.mem_append_left _ hother, hnone fun other hother => List.mem_append_right _ hother,
    List.nil_append, List.append_nil]

theorem lastByKey_subset {entries : List (String × Event)} : ∀ entry ∈ lastByKey entries, entry ∈ entries := by
  have hfold (output : List (String × Event)) : ∀ entry ∈ entries.foldl
      (fun output entry => output.filter (fun other => other.1 ≠ entry.1) ++ [entry]) output,
      entry ∈ output ∨ entry ∈ entries := by
    induction entries generalizing output with
    | nil => exact fun entry hmem => .inl hmem
    | cons first rest ih =>
      intro entry hmem
      rcases ih _ entry hmem with hmem | hmem
      · rcases List.mem_append.mp hmem with hmem | hmem
        · exact .inl (List.mem_filter.mp hmem).1
        · exact .inr (List.mem_cons.mpr (.inl (List.mem_singleton.mp hmem)))
      · exact .inr (List.mem_cons_of_mem _ hmem)
  intro entry hmem
  rcases hfold [] entry hmem with hmem | hmem
  · exact absurd hmem List.not_mem_nil
  · exact hmem

theorem Whole.sessionRuleEvents (h : Whole corpus) (uuid : String → Nat → String)
    (hrequired : ∀ label, 0 ≤ policy.requiredMs label)
    (hsession : session ∈ corpus.sessions) (hnonempty : session.rawRuleFrames ≠ []) :
    ∃ events, sessionRuleEvents uuid policy corpus session.sessionId session.rawRuleFrames = .ok events ∧
      ∀ event ∈ events, event.sessionId = session.sessionId ∧ event.participantId = session.participant ∧
        event.endMs ≤ session.durationMs := by
  obtain ⟨hnamed, hlasts, -, hframes, hincreasing⟩ := h.session session hsession
  have hsorted : (session.rawRuleFrames.mergeSort fun a b => decide (a.timestampMs ≤ b.timestampMs)) =
      session.rawRuleFrames :=
    List.mergeSort_of_pairwise ((List.pairwise_map.mp hincreasing).imp fun {a b} hlt => by simpa using hlt.le)
  have hstart : EngineWithin { policy } := ⟨fun label hnone => (nomatch hnone), fun active hnone => (nomatch hnone)⟩
  obtain ⟨after, emitted, hdrive, hafter, hends, hemitted⟩ := driveRules_within session.durationMs hrequired
    hstart 0 hincreasing fun frame hframe => by
      obtain ⟨-, -, hsign, huntil⟩ := hframes frame hframe
      exact ⟨by change (-1 : Int) < frame.timestampMs; omega, hsign, huntil⟩
  have hlate : after.lastMs < session.durationMs := hends (by change (-1 : Int) < session.durationMs; omega)
  have hwithin : ∀ event ∈ emitted ++ (after.close session.durationMs).2, EventWithin event session.durationMs := by
    intro event hmem
    rcases List.mem_append.mp hmem with hmem | hmem
    · exact hemitted event hmem
    · exact close_within hafter hlate event hmem
  obtain ⟨first, rest, hfirst⟩ := List.exists_cons_of_ne_nil hnonempty
  have hparticipant : first.participantId = session.participant := (hframes first (hfirst ▸ List.mem_cons_self)).2.1
  have hmake : ∀ event ∈ emitted ++ (after.close session.durationMs).2, ∃ entry : String × Event,
      (do return (uuid session.sessionId event.logicalId, ← Event.make session.sessionId first.participantId event.label
        event.startMs event.endMs (some event.eligibleOnsetMs)) : Except String (String × Event)) = .ok entry := by
    intro event hmem
    obtain ⟨hproper, heligible, -⟩ := hwithin event hmem
    rw [make_ok ⟨hnamed.1, hparticipant ▸ hnamed.2⟩ hproper fun ms hms => by
      obtain rfl : event.eligibleOnsetMs = ms := by simpa using hms
      exact heligible]
    exact ⟨_, rfl⟩
  obtain ⟨entries, hentries⟩ := mapM_returns_iff.mpr hmake
  refine ⟨((lastByKey entries).mergeSort fun a b => decide (a.1 ≤ b.1)).map Prod.snd, ?_, ?_⟩
  · unfold Training.sessionRuleEvents
    simp only [hsorted, hdrive, ok_bind, h.find hsession]
    rw [hfirst, List.head?_cons]
    simp only [orError, ok_bind]
    rw [hentries]
    rfl
  · intro event hmem
    obtain ⟨entry, hentry, rfl⟩ := List.mem_map.mp hmem
    obtain ⟨source, hsource, hmade⟩ := (mapM_ok_mem hentries).1 entry (lastByKey_subset entry (List.mem_mergeSort.mp hentry))
    obtain ⟨event, hevent, hentry⟩ := bind_ok_iff.mp hmade
    unfold Event.make at hevent
    split at hevent
    · cases hevent
      cases hentry
      exact ⟨rfl, hparticipant, (hwithin source hsource).ended⟩
    · cases hevent

theorem Whole.ruleEvents (h : Whole corpus) (uuid : String → Nat → String) (fold : OuterFold)
    (hpolicy : RulePolicy.fromProtocolFreeze protocol = .ok policy)
    (hrequired : ∀ label, 0 ≤ policy.requiredMs label) : ∃ events, ruleEventsFromRaw uuid corpus fold protocol = .ok events ∧
      ∀ event ∈ events, InSession corpus fold event := by
  let frames := (corpus.sessions.flatMap SessionLoad.rawRuleFrames).filter fun frame => frame.participantId ∈ fold.test
  let sessionIds := (frames.map RawRuleFrame.sessionId).eraseDups.mergeSort fun a b => decide (a ≤ b)
  have hid : ∀ sessionId ∈ sessionIds, ∃ session ∈ corpus.sessions, session.participant ∈ fold.test ∧
      session.sessionId = sessionId ∧ (frames.filter fun frame => frame.sessionId = sessionId) = session.rawRuleFrames ∧
      session.rawRuleFrames ≠ [] := by
    intro sessionId hmem
    obtain ⟨frame, hframe, rfl⟩ := List.mem_map.mp (List.mem_eraseDups.mp (List.mem_mergeSort.mp hmem))
    obtain ⟨hall, htested⟩ := List.mem_filter.mp hframe
    obtain ⟨session, hsession, hown⟩ := List.mem_flatMap.mp hall
    obtain ⟨hname, hparticipant, -⟩ := (h.session session hsession).frames frame hown
    have htested' : session.participant ∈ fold.test := by simpa [hparticipant] using htested
    refine ⟨session, hsession, htested', hname.symm, ?_, List.ne_nil_of_mem hown⟩
    rw [hname]
    exact h.framesOf hsession htested'
  have hevents : ∀ sessionId ∈ sessionIds, ∃ events,
      Training.sessionRuleEvents uuid policy corpus sessionId (frames.filter fun frame => frame.sessionId = sessionId) =
        .ok events ∧ ∀ event ∈ events, InSession corpus fold event := by
    intro sessionId hmem
    obtain ⟨session, hsession, htested, rfl, hframes, hnonempty⟩ := hid sessionId hmem
    obtain ⟨events, hmade, hfacts⟩ := h.sessionRuleEvents uuid hrequired hsession hnonempty
    refine ⟨events, by rw [hframes, hmade], fun event hevent => ?_⟩
    obtain ⟨hname, hparticipant, hend⟩ := hfacts event hevent
    exact ⟨session, hsession, htested, hname, hparticipant, hend⟩
  obtain ⟨made, hmade⟩ := mapM_returns_iff.mpr fun sessionId hmem => (hevents sessionId hmem).imp fun events he => he.1
  refine ⟨made.flatten, ?_, fun event hmem => ?_⟩
  · unfold ruleEventsFromRaw
    rw [hpolicy]
    simp only [ok_bind]
    rw [hmade]
    rfl
  · obtain ⟨events, hevent, hmem⟩ := List.mem_flatten.mp hmem
    obtain ⟨sessionId, hsessionId, hmadeOne⟩ := (mapM_ok_mem hmade).1 events hevent
    obtain ⟨events', hmade', hfacts⟩ := hevents sessionId hsessionId
    obtain rfl := Except.ok.inj (hmadeOne.symm.trans hmade')
    exact hfacts event hmem

/-! ## The corpus and the exports that it is loaded from -/

section Loaded

variable {env : LoaderEnv} {archives : List Archive} {archive : Archive} {confirmatory : List String}
  {grouped run : List Record} {record first : Record} {window : Window}

theorem le_foldl_max {a b : Int} {l : List Int} : a ≤ l.foldl max b ↔ a ≤ b ∨ ∃ x ∈ l, a ≤ x := by
  induction l generalizing b with
  | nil => simp
  | cons x rest ih =>
    rw [List.foldl_cons, ih, le_max_iff]
    constructor
    · rintro ((h | h) | ⟨y, hy, h⟩)
      · exact .inl h
      · exact .inr ⟨x, List.mem_cons_self, h⟩
      · exact .inr ⟨y, List.mem_cons_of_mem _ hy, h⟩
    · rintro (h | ⟨y, hy, h⟩)
      · exact .inl (.inl h)
      · rcases List.mem_cons.mp hy with rfl | hy
        · exact .inl (.inr h)
        · exact .inr ⟨y, hy, h⟩

theorem Loads.within_iff (h : Loads env grouped session first) {ms : Int} (hpositive : 1 < ms) :
    ms ≤ session.durationMs ↔ ∃ record ∈ grouped, ms - 1 ≤ record.offsetMs := by
  have hmax : ms ≤ session.durationMs ↔ ms - 1 ≤ ((ordered grouped).map Record.offsetMs).foldl max 0 := by
    rw [h.durationMs]
    omega
  rw [hmax, le_foldl_max]
  constructor
  · rintro (hnone | ⟨offset, hoffset, hle⟩)
    · omega
    · obtain ⟨record, hrecord, rfl⟩ := List.mem_map.mp hoffset
      exact ⟨record, mem_ordered.mp hrecord, hle⟩
  · rintro ⟨record, hrecord, hle⟩
    exact .inr ⟨_, List.mem_map_of_mem (mem_ordered.mpr hrecord), hle⟩

theorem Loads.offset_nonneg (h : Loads env grouped session first) (hmem : record ∈ ordered grouped) : 0 ≤ record.offsetMs := by
  obtain ⟨offset, hoffset, hsign⟩ := h.timing record hmem
  rw [Record.offsetMs, Option.mem_def.mp hoffset]
  exact hsign

theorem mem_of_run (hrun : run ∈ labelRuns (ordered grouped)) (hmem : record ∈ run) : record ∈ ordered grouped := by
  rw [← List.flatten_splitBy (fun a b : Record => decide (a.label = b.label)) (ordered grouped)]
  exact List.mem_flatten_of_mem hrun hmem

structure Describes (session : SessionLoad) (record : Record) : Prop where
  sessionId : session.sessionId = record.sessionPseudonym
  participant : session.participant = record.participantPseudonym
  sourceKind : session.sourceKind = record.sourceKind
  phase : session.phase = record.timing.phase.getD "None"

theorem Loads.describes (h : Loads env grouped session first) (hgrouped : grouped ∈ groupedSessions archive.records)
    (hmem : record ∈ grouped) : Describes session record := by
  obtain ⟨pseudonym, -, rfl⟩ := List.mem_map.mp hgrouped
  have hfirst := mem_ordered.mp (List.mem_of_head? h.head)
  obtain ⟨hparticipant, hsource, hphase⟩ := h.provenance.1 record (mem_ordered.mpr hmem)
  refine ⟨?_, h.participant.trans hparticipant.symm, h.sourceKind.trans hsource.symm, by rw [h.phase, hphase]⟩
  have hname := (List.mem_filter.mp hmem).2
  have hfirstName := (List.mem_filter.mp hfirst).2
  simp only [decide_eq_true_eq] at hname hfirstName
  rw [h.sessionId, hname, hfirstName]

theorem Loads.window_head (h : Loads env grouped session first) (hwindow : window ∈ session.windows) :
    ∃ head ∈ grouped, window.session = head.sessionPseudonym ∧ window.participant = head.participantPseudonym ∧
      window.sourceKind = head.sourceKind ∧ window.phase = head.timing.phase.getD "None" ∧
      window.startMs = head.offsetMs ∧ window.endMs = head.offsetMs + 6000 := by
  obtain ⟨windows, hwindows, hflatten⟩ := h.windows
  rw [hflatten] at hwindow
  obtain ⟨ofRun, hofRun, hwindow⟩ := List.mem_flatten.mp hwindow
  obtain ⟨run, hrun, hslide⟩ := (mapM_ok_mem hwindows).1 ofRun hofRun
  unfold runWindows at hslide
  split at hslide
  · obtain ⟨candidate, hcandidate, hcut⟩ := slide_mem hslide hwindow
    obtain ⟨head, source, hcuts⟩ := windowOf_some hcut
    have hhead : head ∈ run := (candidates_suffix hcandidate).mem (List.mem_of_head? hcuts.head)
    exact ⟨head, mem_ordered.mp (mem_of_run hrun hhead), hcuts.session, hcuts.participant, hcuts.sourceKind, hcuts.phase,
      hcuts.startMs, hcuts.endMs⟩
  · cases hslide
    cases hwindow

theorem Loads.run_ordered (h : Loads env grouped session first) (hrun : run ∈ labelRuns (ordered grouped)) {last : Record}
    (hfirst : run.head? = some record) (hlast : run.getLast? = some last) : record.offsetMs ≤ last.offsetMs := by
  have hstretch : run <:+: ordered grouped := by
    rw [← List.flatten_splitBy (fun a b : Record => decide (a.label = b.label)) (ordered grouped)]
    exact List.infix_of_mem_flatten hrun
  have hincreasing := h.increasing.sublist (hstretch.sublist.map Record.offsetMs)
  obtain ⟨rest, rfl⟩ : ∃ rest, run = record :: rest := by
    cases run with
    | nil => cases hfirst
    | cons head rest => exact ⟨rest, by rw [Option.some.inj hfirst]⟩
  rcases List.eq_nil_or_concat rest with rfl | ⟨before, other, rfl⟩
  · obtain rfl := Option.some.inj hlast
    exact le_refl _
  · rw [List.concat_eq_append] at *
    have hother : other = last := by
      have hsome : (record :: (before ++ [other])).getLast? = some other := by
        rw [← List.cons_append, List.getLast?_concat]
      exact Option.some.inj (hsome.symm.trans hlast)
    subst hother
    rw [List.map_cons, List.pairwise_cons] at hincreasing
    exact (hincreasing.1 _ (List.mem_map_of_mem (List.mem_append_right _ (List.mem_singleton_self _)))).le

theorem Loads.whole (h : Loads env grouped session first) (hgrouped : grouped ∈ groupedSessions archive.records)
    (hrechecked : ∀ record ∈ archive.records, record.recheck archive.manifest = .ok ()) : SessionWhole session := by
  have hfirst := List.mem_of_head? h.head
  have hnamed : first.sampleId ≠ "" ∧ first.participantPseudonym ≠ "" ∧ first.sessionPseudonym ≠ "" := by
    have hcheck := hrechecked first (mem_groupedSessions hgrouped (mem_ordered.mp hfirst))
    unfold Record.recheck at hcheck
    simp only [bind_ok_iff, require_eq_ok] at hcheck
    obtain ⟨⟨⟩, -, ⟨⟩, hnamed, -⟩ := hcheck
    exact hnamed
  have hlast : ∀ record ∈ ordered grouped, record.offsetMs < session.durationMs := by
    intro record hmem
    rw [h.durationMs]
    have hle := le_foldl_max (a := record.offsetMs) (b := 0) |>.mpr (.inr ⟨_, List.mem_map_of_mem hmem, le_refl _⟩)
    omega
  have hframe : ∀ frame ∈ session.rawRuleFrames, ∃ record ∈ ordered grouped, frame.sessionId = first.sessionPseudonym ∧
      frame.participantId = first.participantPseudonym ∧ frame.timestampMs = record.offsetMs := by
    intro frame hmem
    obtain ⟨record, hrecord, hmade⟩ := (mapM_ok_mem h.rawRuleFrames).1 frame hmem
    unfold rawRuleFrame at hmade
    obtain ⟨poses, -, hmade⟩ := bind_ok_iff.mp hmade
    obtain rfl := Except.ok.inj hmade
    exact ⟨record, hrecord, rfl, rfl, rfl⟩
  refine ⟨⟨h.sessionId ▸ hnamed.2.2, h.participant ▸ hnamed.2.1⟩, ?_, ?_, ?_, ?_⟩
  · have hsign := h.offset_nonneg hfirst
    have hlate := hlast first hfirst
    omega
  · intro event hmem
    rw [h.reviewedEvents] at hmem
    obtain ⟨run, hrun, hmade⟩ := List.mem_filterMap.mp hmem
    unfold reviewedEvent at hmade
    split at hmade
    · next start last hstart hend =>
      split at hmade
      · obtain rfl := Option.some.inj hmade
        have hmemStart := mem_of_run hrun (List.mem_of_head? hstart)
        have hdescribes := h.describes hgrouped (mem_ordered.mp hmemStart)
        refine ⟨hdescribes.sessionId.symm, hdescribes.participant.symm, h.offset_nonneg hmemStart, ?_⟩
        have hle := h.run_ordered hrun hstart hend
        change start.offsetMs < last.offsetMs + 67
        omega
      · cases hmade
    · cases hmade
  · intro frame hmem
    obtain ⟨record, hrecord, hname, hparticipant, htime⟩ := hframe frame hmem
    exact ⟨hname.trans h.sessionId.symm, hparticipant.trans h.participant.symm, htime ▸ h.offset_nonneg hrecord,
      htime ▸ hlast record hrecord⟩
  · have htimes : session.rawRuleFrames.map RawRuleFrame.timestampMs = (ordered grouped).map Record.offsetMs := by
      refine mapM_ok_map h.rawRuleFrames fun record _ frame hmade => ?_
      unfold rawRuleFrame at hmade
      obtain ⟨poses, -, hmade⟩ := bind_ok_iff.mp hmade
      obtain rfl := Except.ok.inj hmade
      rfl
    rw [htimes]
    exact h.increasing

structure FromArchives (env : LoaderEnv) (confirmatory : List String) (archives : List Archive) (corpus : Corpus)
    (sessions : List SessionLoad) : Prop where
  unique : (sessions.map SessionLoad.sessionId).Nodup
  source : ∀ session ∈ sessions, ∃ archive ∈ archives, (∀ record ∈ archive.records, record.recheck archive.manifest = .ok ()) ∧
    ∃ grouped ∈ groupedSessions archive.records, ∃ first, Loads env grouped session first
  loaded : ∀ archive ∈ archives, ∀ grouped ∈ groupedSessions archive.records, ∃ session ∈ sessions, ∃ first,
    Loads env grouped session first
  kept : corpus.sessions = sessions.filter fun session => session.isConfirmatory confirmatory
  rows : ∀ row ∈ corpus.rows, row.participant ∈ confirmatory ∧ row.phase = "CONFIRMATORY" ∧
    ∃ session ∈ sessions, row ∈ session.windows

theorem exists_fromArchives (h : loadResearchCorpus env confirmatory archives = .ok corpus) :
    ∃ sessions, FromArchives env confirmatory archives corpus sessions := by
  unfold loadResearchCorpus at h
  simp only [bind_ok_iff, require_eq_ok] at h
  obtain ⟨⟨⟩, -, loaded, hloaded, ⟨⟩, hunique, ⟨⟩, -, ⟨⟩, -, ⟨⟩, -, ⟨⟩, -, hcorpus⟩ := h
  obtain rfl := Except.ok.inj hcorpus
  refine ⟨loaded.flatMap LoadedRuntimeExport.sessions, hunique, ?_, ?_, rfl, ?_⟩
  · intro session hsession
    obtain ⟨one, hone, hsession⟩ := List.mem_flatMap.mp hsession
    obtain ⟨archive, harchive, hload⟩ := (mapM_ok_mem hloaded).1 one hone
    obtain ⟨-, hrechecked, -, sessions, hsessions, rfl⟩ := loadRuntimeExport_ok_iff.mp hload
    obtain ⟨grouped, hgrouped, hmade⟩ := (mapM_ok_mem hsessions).1 session hsession
    exact ⟨archive, harchive, hrechecked, grouped, hgrouped, loadSession_ok_iff.mp hmade⟩
  · intro archive harchive grouped hgrouped
    obtain ⟨one, hone, hload⟩ := (mapM_ok_mem hloaded).2 archive harchive
    obtain ⟨-, -, -, sessions, hsessions, rfl⟩ := loadRuntimeExport_ok_iff.mp hload
    obtain ⟨session, hsession, hmade⟩ := (mapM_ok_mem hsessions).2 grouped hgrouped
    exact ⟨session, List.mem_flatMap.mpr ⟨_, hone, hsession⟩, loadSession_ok_iff.mp hmade⟩
  · intro row hrow
    obtain ⟨hmem, hkept⟩ := List.mem_filter.mp hrow
    simp only [decide_eq_true_eq] at hkept
    obtain ⟨one, hone, hmem⟩ := List.mem_flatMap.mp hmem
    obtain ⟨session, hsession, hmem⟩ := List.mem_flatMap.mp hmem
    exact ⟨hkept.1, hkept.2, session, List.mem_flatMap.mpr ⟨one, hone, hsession⟩, hmem⟩

theorem FromArchives.whole {sessions : List SessionLoad} (h : FromArchives env confirmatory archives corpus sessions) :
    Whole corpus := by
  have hsession : ∀ session ∈ sessions, SessionWhole session := by
    intro session hmem
    obtain ⟨archive, -, hrechecked, grouped, hgrouped, first, hloads⟩ := h.source session hmem
    exact hloads.whole hgrouped hrechecked
  refine ⟨?_, fun session hmem => ?_, fun row hrow => ?_⟩
  · rw [h.kept]
    exact h.unique.sublist (List.filter_sublist.map _)
  · rw [h.kept] at hmem
    exact hsession session (List.mem_filter.mp hmem).1
  · obtain ⟨hconfirmatory, hphase, session, hmem, hwindow⟩ := h.rows row hrow
    obtain ⟨archive, -, -, grouped, hgrouped, first, hloads⟩ := h.source session hmem
    obtain ⟨head, hhead, hname, hparticipant, hsource, hrowPhase, hstart, hend⟩ := hloads.window_head hwindow
    have hdescribes := hloads.describes hgrouped hhead
    have hnamed := (hsession session hmem).named
    rw [hname, hparticipant, ← hdescribes.sessionId, ← hdescribes.participant, hstart, hend]
    refine ⟨hnamed, hloads.offset_nonneg (mem_ordered.mpr hhead), rfl, fun hreal => ⟨session, ?_, rfl, rfl⟩⟩
    rw [h.kept]
    refine List.mem_filter.mpr ⟨hmem, ?_⟩
    simp only [decide_eq_true_eq]
    exact ⟨hdescribes.participant.trans hparticipant.symm ▸ hconfirmatory, hdescribes.sourceKind.trans (hsource.symm.trans hreal),
      hdescribes.phase.trans (hrowPhase.symm.trans hphase)⟩

end Loaded

/-! ## What is evaluated -/

section Evaluated

variable {cameraLabels contextLabels : List Int}

/-- The events are constructed, they are intervals of the sessions of the test participants, and none is refused as
outside. -/
def Evaluates (uuid : String → Nat → String) (corpus : Corpus) (fold : OuterFold) (protocol : Native.Dict)
    (cameraLabels contextLabels : List Int) : Prop :=
  ∃ events, researchFoldEvents uuid corpus fold protocol cameraLabels contextLabels = .ok events ∧
    (∀ event ∈ events.all, (0 ≤ event.startMs ∧ event.startMs < event.endMs) ∧ ∃ session ∈ events.sessions,
      session.participantId ∈ fold.test ∧ event.sessionId = session.sessionId ∧
        event.participantId = session.participantId ∧ event.endMs ≤ session.durationMs) ∧
    evaluateConfigurations events ≠ .error "event is outside its continuous session"

structure Ends (corpus : Corpus) (fold : OuterFold) (cameraLabels contextLabels : List Int) : Prop where
  reviewed : ∀ session ∈ corpus.sessions, session.participant ∈ fold.test → ∀ event ∈ session.reviewedEvents,
    event.endMs ≤ session.durationMs
  predicted : ∀ row ∈ predictedRows (corpus.rowsOf fold.test) cameraLabels ++
      predictedRows (corpus.rowsOf fold.test) contextLabels,
    ∀ session ∈ corpus.sessions, session.sessionId = row.session → row.endMs ≤ session.durationMs

theorem mem_predictedRows {windows : List Window} {labels : List Int} {row : PredictedRow}
    (hmem : row ∈ predictedRows windows labels) : ∃ entry ∈ windows.zip labels, (entry.2 = 2 ∨ entry.2 = 3) ∧
      row = ⟨entry.1.session, entry.1.participant, entry.2, entry.1.startMs, entry.1.endMs⟩ := by
  obtain ⟨entry, hentry, hrow⟩ := List.mem_filterMap.mp hmem
  split at hrow
  · next halert => exact ⟨entry, hentry, halert, (Option.some.inj hrow).symm⟩
  · cases hrow

theorem Whole.predictedRow (h : Whole corpus) (hreal : ∀ row ∈ corpus.rowsOf fold.test, row.sourceKind = .real)
    {labels : List Int} {row : PredictedRow} (hmem : row ∈ predictedRows (corpus.rowsOf fold.test) labels) :
    row.Proper ∧ ∃ session ∈ corpus.sessions, session.participant ∈ fold.test ∧ session.sessionId = row.session ∧
      session.participant = row.participant := by
  obtain ⟨entry, hentry, -, rfl⟩ := mem_predictedRows hmem
  have hwindow := (List.of_mem_zip hentry).1
  obtain ⟨hrow, htested⟩ := List.mem_filter.mp hwindow
  obtain ⟨hnamed, hstart, hend, hsession⟩ := h.row entry.1 hrow
  obtain ⟨session, hmem, hname, hparticipant⟩ := hsession (hreal entry.1 hwindow)
  have hlong : entry.1.startMs < entry.1.endMs := by omega
  exact ⟨⟨hnamed, hstart, hlong⟩, session, hmem, by simpa [hparticipant] using htested, hname, hparticipant⟩

theorem Whole.merges_iff (h : Whole corpus) (hreal : ∀ row ∈ corpus.rowsOf fold.test, row.sourceKind = .real)
    {labels : List Int} {events : List Event} (hmerges : Merges (predictedRows (corpus.rowsOf fold.test) labels) events) :
    (∀ event ∈ events, InSession corpus fold event) ↔ ∀ row ∈ predictedRows (corpus.rowsOf fold.test) labels,
      ∀ session ∈ corpus.sessions, session.sessionId = row.session → row.endMs ≤ session.durationMs := by
  constructor
  · intro hinside row hrow session hsession hname
    obtain ⟨event, hevent, hcovers, hend⟩ := hmerges.covers row hrow
    obtain ⟨other, hother, -, hotherName, -, hotherEnd⟩ := hinside event hevent
    obtain rfl := h.same hsession hother (hname.trans (hcovers.symm.trans hotherName))
    exact hend.trans hotherEnd
  · intro hends event hevent
    obtain ⟨row, hrow, hname, hend⟩ := hmerges.ends event hevent
    obtain ⟨-, session, hsession, htested, hsessionName, -⟩ := h.predictedRow hreal hrow
    obtain ⟨person, hperson, hpersonName, hparticipant⟩ := hmerges.people event hevent
    obtain ⟨-, other, hother, -, hotherName, hotherParticipant⟩ := h.predictedRow hreal hperson
    obtain rfl := h.same hsession hother
      (hsessionName.trans (hname.trans (hpersonName.symm.trans hotherName.symm)))
    exact ⟨session, hsession, htested, (hsessionName.trans hname).symm, (hotherParticipant.trans hparticipant).symm,
      hend ▸ hends row hrow session hsession hsessionName⟩

theorem Whole.evaluationSessions (h : Whole corpus) (fold : OuterFold) : ∃ sessions,
    ((corpus.sessions.filter fun session => session.participant ∈ fold.test).mergeSort
      fun a b => decide (a.sessionId ≤ b.sessionId)).mapM (fun session =>
        EvaluationSession.make session.sessionId session.participant session.durationMs) = .ok sessions ∧
    (∀ event, InSession corpus fold event ↔ ∃ session ∈ sessions, session.participantId ∈ fold.test ∧
      event.sessionId = session.sessionId ∧ event.participantId = session.participantId ∧
        event.endMs ≤ session.durationMs) := by
  let tested := (corpus.sessions.filter fun session => session.participant ∈ fold.test).mergeSort
    fun a b => decide (a.sessionId ≤ b.sessionId)
  have htested {session : SessionLoad} : session ∈ tested ↔ session ∈ corpus.sessions ∧ session.participant ∈ fold.test := by
    rw [List.mem_mergeSort, List.mem_filter, decide_eq_true_eq]
  have hmake (session : SessionLoad) (hmem : session ∈ tested) :
      EvaluationSession.make session.sessionId session.participant session.durationMs = .ok
        ⟨session.sessionId, session.participant, session.durationMs, (h.session session (htested.mp hmem).1).named,
          (h.session session (htested.mp hmem).1).lasts⟩ := by
    have hwhole := h.session session (htested.mp hmem).1
    exact dif_pos ⟨hwhole.named, hwhole.lasts⟩
  obtain ⟨sessions, hsessions⟩ := mapM_returns_iff.mpr fun session hmem => ⟨_, hmake session hmem⟩
  refine ⟨sessions, hsessions, fun event => ?_⟩
  constructor
  · rintro ⟨session, hmem, hparticipant, hfacts⟩
    have hin := htested.mpr ⟨hmem, hparticipant⟩
    obtain ⟨made, hmade, heq⟩ := (mapM_ok_mem hsessions).2 session hin
    obtain rfl := Except.ok.inj ((hmake session hin).symm.trans heq)
    exact ⟨_, hmade, hparticipant, hfacts⟩
  · rintro ⟨made, hmade, hparticipant, hfacts⟩
    obtain ⟨session, hin, heq⟩ := (mapM_ok_mem hsessions).1 made hmade
    obtain rfl := Except.ok.inj ((hmake session hin).symm.trans heq)
    exact ⟨session, (htested.mp hin).1, hparticipant, hfacts⟩

theorem Whole.truth (h : Whole corpus) (fold : OuterFold) {persistenceMs : Int} (hpersistence : 0 ≤ persistenceMs) :
    ∃ truth,
    ((corpus.sessions.flatMap SessionLoad.reviewedEvents).filter fun event => event.participantId ∈ fold.test).mapM
      (fun item => Event.make item.sessionId item.participantId item.label item.startMs item.endMs
        (some (item.startMs + persistenceMs))) = .ok truth ∧
    ((∀ event ∈ truth, InSession corpus fold event) ↔ ∀ session ∈ corpus.sessions, session.participant ∈ fold.test →
      ∀ event ∈ session.reviewedEvents, event.endMs ≤ session.durationMs) := by
  let reviewed := (corpus.sessions.flatMap SessionLoad.reviewedEvents).filter fun event => event.participantId ∈ fold.test
  have hreviewed {item : ReviewedEvent} : item ∈ reviewed ↔ ∃ session ∈ corpus.sessions, item ∈ session.reviewedEvents ∧
      session.participant ∈ fold.test := by
    rw [List.mem_filter, List.mem_flatMap, decide_eq_true_eq]
    constructor
    · rintro ⟨⟨session, hsession, hitem⟩, htested⟩
      exact ⟨session, hsession, hitem, ((h.session session hsession).reviewed item hitem).2.1 ▸ htested⟩
    · rintro ⟨session, hsession, hitem, htested⟩
      exact ⟨⟨session, hsession, hitem⟩, ((h.session session hsession).reviewed item hitem).2.1 ▸ htested⟩
  have hmake (item : ReviewedEvent) (hmem : item ∈ reviewed) : ∃ event, Event.make item.sessionId item.participantId
      item.label item.startMs item.endMs (some (item.startMs + persistenceMs)) = .ok event ∧
        event.sessionId = item.sessionId ∧ event.participantId = item.participantId ∧ event.endMs = item.endMs := by
    obtain ⟨session, hsession, hitem, -⟩ := hreviewed.mp hmem
    obtain ⟨hname, hparticipant, hproper⟩ := (h.session session hsession).reviewed item hitem
    have hnamed := (h.session session hsession).named
    rw [make_ok ⟨hname ▸ hnamed.1, hparticipant ▸ hnamed.2⟩ hproper fun ms hms => by
      obtain rfl : item.startMs + persistenceMs = ms := by simpa using hms
      omega]
    exact ⟨_, rfl, rfl, rfl, rfl⟩
  obtain ⟨truth, htruth⟩ := mapM_returns_iff.mpr fun item hmem => (hmake item hmem).imp fun event hevent => hevent.1
  refine ⟨truth, htruth, ?_, ?_⟩
  · intro hinside session hsession htested item hitem
    obtain ⟨event, hevent, hmade⟩ := (mapM_ok_mem htruth).2 item (hreviewed.mpr ⟨session, hsession, hitem, htested⟩)
    obtain ⟨made, heq, hname, -, hend⟩ := hmake item (hreviewed.mpr ⟨session, hsession, hitem, htested⟩)
    obtain rfl := Except.ok.inj (heq.symm.trans hmade)
    obtain ⟨other, hother, -, hotherName, -, hotherEnd⟩ := hinside made hevent
    obtain rfl := h.same hsession hother
      (((h.session session hsession).reviewed item hitem).1.symm.trans (hname.symm.trans hotherName))
    exact hend ▸ hotherEnd
  · intro hends event hevent
    obtain ⟨item, hmem, hmade⟩ := (mapM_ok_mem htruth).1 event hevent
    obtain ⟨session, hsession, hitem, htested⟩ := hreviewed.mp hmem
    obtain ⟨made, heq, hname, hparticipant, hend⟩ := hmake item hmem
    obtain rfl := Except.ok.inj (heq.symm.trans hmade)
    obtain ⟨hitemName, hitemParticipant, -⟩ := (h.session session hsession).reviewed item hitem
    exact ⟨session, hsession, htested, hname.trans hitemName, hparticipant.trans hitemParticipant,
      hend ▸ hends session hsession htested item hitem⟩

theorem evaluateConfigurations_inside {events : FoldEvents}
    (h : ∀ event ∈ events.all, ∃ session ∈ events.sessions, event.sessionId = session.sessionId ∧
      event.participantId = session.participantId ∧ event.endMs ≤ session.durationMs) :
    evaluateConfigurations events ≠ .error "event is outside its continuous session" := by
  intro hrefused
  unfold evaluateConfigurations at hrefused
  rw [bind_error_iff] at hrefused
  rcases hrefused with hempty | ⟨⟨⟩, -, hrefused⟩
  · exact absurd (require_eq_error.mp hempty).2 (by decide)
  · rw [bind_error_iff] at hrefused
    rcases hrefused with hdouble | ⟨⟨⟩, hunique, hrefused⟩
    · exact absurd (require_eq_error.mp hdouble).2 (by decide)
    · have hunique := require_eq_ok.mp hunique
      have hpasses : events.all.forM (fun event : Event => do
          let session ← orError "event is outside its continuous session"
            (events.sessions.find? fun session : EvaluationSession => session.sessionId = event.sessionId)
          require (event.participantId = session.participantId ∧ event.endMs ≤ session.durationMs)
            "event is outside its continuous session") = .ok () := by
        rw [forM_ok_iff]
        intro event hevent
        obtain ⟨session, hsession, hname, hparticipant, hend⟩ := h event hevent
        have hfind : (events.sessions.find? fun session : EvaluationSession => session.sessionId = event.sessionId) =
            some session := by
          cases hfind : events.sessions.find? fun session : EvaluationSession => session.sessionId = event.sessionId with
          | none =>
            have hnone := List.find?_eq_none.mp hfind session hsession
            simp [hname] at hnone
          | some other =>
            have hother : other.sessionId = event.sessionId := by simpa using List.find?_some hfind
            rw [List.inj_on_of_nodup_map hunique (List.mem_of_find?_eq_some hfind) hsession (hother.trans hname)]
        rw [hfind]
        exact require_eq_ok.mpr ⟨hparticipant, hend⟩
      rw [hpasses] at hrefused
      cases hrefused

theorem Whole.evaluates_iff (h : Whole corpus) (hreal : ∀ row ∈ corpus.rowsOf fold.test, row.sourceKind = .real)
    (hpolicy : RulePolicy.fromProtocolFreeze protocol = .ok policy) :
    Evaluates uuid corpus fold protocol cameraLabels contextLabels ↔ Ends corpus fold cameraLabels contextLabels := by
  have hrequired := fromProtocolFreeze_required hpolicy
  obtain ⟨version, source, fields, -, -, hfields, -, hhysteresis, -⟩ := fromProtocolFreeze_ok_iff.mp ⟨policy, hpolicy⟩
  obtain ⟨mergeGapMs, hmergeGap, -⟩ := hhysteresis.durations "merge_gap_ms" (by decide)
  obtain ⟨persistenceMs, hpersistence, hsign⟩ := hhysteresis.durations "persistence_ms" (by decide)
  have hmergeGapRead : (fields.get "merge_gap_ms").int? = some mergeGapMs := hmergeGap
  have hpersistenceRead : (fields.get "persistence_ms").int? = some persistenceMs := hpersistence
  obtain ⟨rules, hrules, hrulesInside⟩ := h.ruleEvents uuid fold hpolicy hrequired
  have hproper (labels : List Int) : ∀ row ∈ predictedRows (corpus.rowsOf fold.test) labels, row.Proper :=
    fun row hrow => (h.predictedRow hreal hrow).1
  obtain ⟨camera, hcamera, hcameraMerges⟩ := predictedEvents_merges mergeGapMs (hproper cameraLabels)
  obtain ⟨context, hcontext, hcontextMerges⟩ := predictedEvents_merges mergeGapMs (hproper contextLabels)
  obtain ⟨sessions, hsessions, hinside⟩ := h.evaluationSessions fold
  obtain ⟨truth, htruth, htruthInside⟩ := h.truth fold hsign
  have hmade : researchFoldEvents uuid corpus fold protocol cameraLabels contextLabels =
      .ok ⟨sessions, truth, rules, camera, context⟩ := by
    unfold researchFoldEvents
    rw [dict?_eq_some.mpr hfields]
    simp only [orError, ok_bind, hrules]
    rw [hmergeGapRead, hpersistenceRead]
    simp only [ok_bind, hcamera, hcontext, hsessions, htruth]
    rfl
  have hends : (∀ event ∈ (FoldEvents.mk sessions truth rules camera context).all, InSession corpus fold event) ↔
      Ends corpus fold cameraLabels contextLabels := by
    have hsplit : (∀ event ∈ (FoldEvents.mk sessions truth rules camera context).all, InSession corpus fold event) ↔
        (∀ event ∈ truth, InSession corpus fold event) ∧ (∀ event ∈ camera, InSession corpus fold event) ∧
          ∀ event ∈ context, InSession corpus fold event := by
      unfold FoldEvents.all
      simp only [List.forall_mem_append]
      exact ⟨fun h => ⟨h.1, h.2.2⟩, fun h => ⟨h.1, hrulesInside, h.2⟩⟩
    rw [hsplit, htruthInside, h.merges_iff hreal hcameraMerges, h.merges_iff hreal hcontextMerges]
    constructor
    · rintro ⟨hreviewed, hcameraEnds, hcontextEnds⟩
      exact ⟨hreviewed, List.forall_mem_append.mpr ⟨hcameraEnds, hcontextEnds⟩⟩
    · rintro ⟨hreviewed, hpredicted⟩
      exact ⟨hreviewed, (List.forall_mem_append.mp hpredicted).1, (List.forall_mem_append.mp hpredicted).2⟩
  rw [← hends]
  constructor
  · rintro ⟨events, heq, hall, -⟩ event hevent
    obtain rfl := Except.ok.inj (heq.symm.trans hmade)
    exact (hinside event).mpr (hall event hevent).2
  · intro hall
    refine ⟨_, hmade, fun event hevent => ⟨event.proper, (hinside event).mp (hall event hevent)⟩, ?_⟩
    refine evaluateConfigurations_inside fun event hevent => ?_
    obtain ⟨session, hsession, -, hfacts⟩ := (hinside event).mp (hall event hevent)
    exact ⟨session, hsession, hfacts⟩

end Evaluated

end PduExamObserver.Training
