import PduExamObserver.ResearchRuntime.Runs

/-! # What a frame emits

The rules and the model touch the events, the engines and the links between them, and nothing else. They raise if
the authority is denied when the policy is looked up, if an engine has seen the millisecond of the frame already,
or if the model stage raises what nobody expects. -/

namespace PduExamObserver.ResearchRuntime
open Showcase Stateful
set_option autoImplicit false

variable {c after : Collection}

structure Collection.Emits (c after : Collection) : Prop where
  session : after.session = { c.session with events := after.session.events }
  directory : after.directory = c.directory
  quarantine : after.quarantine = c.quarantine
  worker : after.worker = c.worker
  stream : after.memory.stream = c.memory.stream
  captureThread : after.memory.captureThread = c.memory.captureThread
  poseBuffer : after.memory.poseBuffer = c.memory.poseBuffer
  tracks : c.Tracks after
  poseObservations : c.Linked → after.session.poseObservations = c.session.poseObservations
  withdrawals : c.Linked → after.session.withdrawals = c.session.withdrawals

namespace Collection.Emits

theorem refl (c : Collection) : c.Emits c where
  session := rfl
  directory := rfl
  quarantine := rfl
  worker := rfl
  stream := rfl
  captureThread := rfl
  poseBuffer := rfl
  tracks := .refl c
  poseObservations _ := rfl
  withdrawals _ := rfl

theorem trans {a b c : Collection} (hab : a.Emits b) (hbc : b.Emits c) : a.Emits c where
  session := by
    have h := hbc.session
    rw [hab.session] at h
    exact h
  directory := hbc.directory.trans hab.directory
  quarantine := hbc.quarantine.trans hab.quarantine
  worker := hbc.worker.trans hab.worker
  stream := hbc.stream.trans hab.stream
  captureThread := hbc.captureThread.trans hab.captureThread
  poseBuffer := hbc.poseBuffer.trans hab.poseBuffer
  tracks := hab.tracks.trans hbc.tracks
  poseObservations h := (hbc.poseObservations (hab.tracks.linked h)).trans (hab.poseObservations h)
  withdrawals h := (hbc.withdrawals (hab.tracks.linked h)).trans (hab.withdrawals h)

variable {body : EventBody}

theorem logged (c : Collection)
    (hrefers : c.Linked → ∀ eventId, body.refers = some eventId → eventId < c.fresh) (hpose : Event.poseObservation? ⟨c.fresh, c.session.nextSeq, body⟩ = none)
    (hwithdrawal : Event.withdrawal? ⟨c.fresh, c.session.nextSeq, body⟩ = none) : c.Emits (c.logged body) where
  session := rfl
  directory := rfl
  quarantine := rfl
  worker := rfl
  stream := rfl
  captureThread := rfl
  poseBuffer := rfl
  tracks := .logged c body hrefers
  poseObservations _ := by
    simp [Session.poseObservations, Collection.logged, List.filterMap_append, hpose]
  withdrawals _ := by
    simp [Session.withdrawals, Collection.logged, List.filterMap_append, hwithdrawal]

theorem noted (c : Collection) (hrefers : body.refers = none)
    (hpose : Event.poseObservation? ⟨c.fresh, c.session.nextSeq, body⟩ = none)
    (hwithdrawal : Event.withdrawal? ⟨c.fresh, c.session.nextSeq, body⟩ = none) : c.Emits (c.logged body) :=
  .logged c (fun _ _ heq => nomatch hrefers.symm.trans heq) hpose hwithdrawal

theorem memory (c : Collection) {memory : Memory} (hstream : memory.stream = c.memory.stream)
    (hthread : memory.captureThread = c.memory.captureThread) (hbuffer : memory.poseBuffer = c.memory.poseBuffer)
    (hlogical : memory.logicalEvents = c.memory.logicalEvents) : c.Emits { c with memory } where
  session := rfl
  directory := rfl
  quarantine := rfl
  worker := rfl
  stream := hstream
  captureThread := hthread
  poseBuffer := hbuffer
  tracks := .of_eq rfl rfl hlogical
  poseObservations _ := rfl
  withdrawals _ := rfl

theorem drawn (c : Collection) : c.Emits { c with fresh := c.fresh + 1 } where
  session := rfl
  directory := rfl
  quarantine := rfl
  worker := rfl
  stream := rfl
  captureThread := rfl
  poseBuffer := rfl
  tracks := ⟨Nat.le_succ _, fun _ h => .inl h, fun h =>
    ⟨fun e he => (h.event e he).trans (Nat.lt_succ_self _), fun entry he => (h.logical entry he).trans (Nat.lt_succ_self _),
      h.observable, h.log⟩⟩
  poseObservations _ := rfl
  withdrawals _ := rfl

end Collection.Emits

/-! ## Persisting rule events -/

def Collection.Persists (c after : Collection) : Prop :=
  c.Emits after ∧ after.memory = { c.memory with logicalEvents := after.memory.logicalEvents }

theorem Collection.Persists.refl (c : Collection) : c.Persists c := ⟨.refl c, rfl⟩

theorem Collection.Persists.trans {a b c : Collection} (hab : a.Persists b) (hbc : b.Persists c) : a.Persists c := by
  refine ⟨hab.1.trans hbc.1, ?_⟩
  have h := hbc.2
  rw [hab.2] at h
  exact h

variable {e : Event} {downScore sideScore : Option Rat} {label : Option Label} {poseCount : Nat} {env : EmitEnv}
  {observation : Observation} {policy : RulePolicy} {row : Session}

theorem isObservable_poseObservation (h : e.body.isObservable = true) : e.poseObservation? = none := by
  obtain ⟨eventId, eventSeq, body⟩ := e
  cases body <;> first | rfl | cases h

theorem isObservable_withdrawal (h : e.body.isObservable = true) : e.withdrawal? = none := by
  obtain ⟨eventId, eventSeq, body⟩ := e
  cases body <;> first | rfl | cases h

theorem lookup_mem {α β : Type} [BEq α] [LawfulBEq α] {l : List (α × β)} {a : α} {b : β} (h : l.lookup a = some b) :
    (a, b) ∈ l := by
  induction l with
  | nil => cases h
  | cons entry rest ih =>
    obtain ⟨a', b'⟩ := entry
    rw [List.lookup_cons] at h
    split at h
    · next heq =>
      obtain rfl := Option.some.inj h
      rw [eq_of_beq heq]
      exact List.mem_cons_self
    · exact List.mem_cons_of_mem _ (ih h)

def Collection.updated (c : Collection) (existing : Nat) (payload : ObservablePayload) : Collection :=
  { c with session := { c.session with
      events := c.session.events.map fun e =>
        if e.eventId = existing then { e with body := .observableEvent payload } else e } }

theorem EventLog.updated {events : List Event} (h : EventLog events) (existing : Nat) (payload : ObservablePayload) :
    EventLog (events.map fun e => if e.eventId = existing then { e with body := .observableEvent payload } else e) := by
  have hkeeps (e : Event) : (if e.eventId = existing then { e with body := .observableEvent payload } else e).eventId =
      e.eventId ∧ (if e.eventId = existing then { e with body := .observableEvent payload } else e).eventSeq =
        e.eventSeq := by
    split <;> exact ⟨rfl, rfl⟩
  refine ⟨?_, ?_, fun e he eventId heq => ?_⟩
  · rw [List.map_map, List.length_map, ← h.numbered]
    exact List.map_congr_left fun e _ => (hkeeps e).2
  · refine List.pairwise_map.mpr (h.ordered.imp fun {a b} hlt => ?_)
    rw [(hkeeps a).1, (hkeeps b).1]
    exact hlt
  · obtain ⟨old, hold, rfl⟩ := List.mem_map.mp he
    rw [(hkeeps old).1]
    split at heq
    · cases heq
    · exact h.refers old hold eventId heq

variable {logicalId : Nat} {engine : TemporalRuleEngine} {qualityOk : Bool} {timestampMs : Int}

theorem updated_emits {existing : Nat} (payload : ObservablePayload)
    (hlink : (logicalId, existing) ∈ c.memory.logicalEvents) : c.Emits (c.updated existing payload) where
  session := rfl
  directory := rfl
  quarantine := rfl
  worker := rfl
  stream := rfl
  captureThread := rfl
  poseBuffer := rfl
  tracks := by
    refine ⟨Nat.le_refl _, fun _ h => .inl h, fun h => ⟨?_, h.logical, ?_, h.log.updated existing payload⟩⟩
    · intro e he
      obtain ⟨old, hold, rfl⟩ := List.mem_map.mp he
      split
      · exact h.event old hold
      · exact h.event old hold
    · intro entry hentry e he hid
      obtain ⟨old, hold, rfl⟩ := List.mem_map.mp he
      by_cases hupdated : old.eventId = existing
      · rw [if_pos hupdated]
        rfl
      · rw [if_neg hupdated] at hid ⊢
        exact h.observable entry hentry old hold hid
  poseObservations h := by
    unfold Session.poseObservations Collection.updated
    rw [List.filterMap_map]
    apply List.filterMap_congr
    intro e he
    rw [Function.comp_apply]
    split
    · next hid =>
      rw [isObservable_poseObservation (h.observable _ hlink e he hid)]
      rfl
    · rfl
  withdrawals h := by
    unfold Session.withdrawals Collection.updated
    rw [List.filterMap_map]
    apply List.filterMap_congr
    intro e he
    rw [Function.comp_apply]
    split
    · next hid =>
      rw [isObservable_withdrawal (h.observable _ hlink e he hid)]
      rfl
    · rfl

theorem linked_emits (logicalId : Nat) (payload : ObservablePayload) :
    c.Emits { c.logged (.observableEvent payload) with
      memory := { c.memory with logicalEvents := (logicalId, c.fresh) :: c.memory.logicalEvents } } := by
  have hlogged : c.Emits (c.logged (.observableEvent payload)) := .noted c rfl rfl rfl
  refine ⟨rfl, rfl, rfl, rfl, rfl, rfl, rfl, ⟨hlogged.tracks.fresh, ?_, ?_⟩, hlogged.poseObservations,
    hlogged.withdrawals⟩
  · intro entry hentry
    rcases List.mem_cons.mp hentry with rfl | hentry
    · exact .inr (Nat.le_refl _)
    · exact .inl hentry
  · intro h
    have hafter := hlogged.tracks.linked h
    refine ⟨hafter.event, ?_, ?_, hafter.log⟩
    · intro entry hentry
      rcases List.mem_cons.mp hentry with rfl | hentry
      · exact Nat.lt_succ_self _
      · exact hafter.logical entry hentry
    · intro entry hentry e he hid
      rcases List.mem_cons.mp hentry with rfl | hentry
      · rcases List.mem_append.mp he with he | he
        · exact absurd (h.event e he) (hid ▸ Nat.lt_irrefl _)
        · rw [List.mem_singleton.mp he]
          rfl
      · exact hafter.observable entry hentry e he hid

theorem persistRuleEvent_run (row : Session) (signal : String) (policy : RulePolicy) (confidence : Option Rat)
    (event : RuleEvent) (c : Collection) :
    ∃ after, (persistRuleEvent row signal policy confidence event).run c = .ok () after ∧ c.Persists after := by
  unfold persistRuleEvent
  rw [EStateM.run_bind, EStateM.run_get]
  cases hlookup : c.memory.logicalEvents.lookup event.logicalId with
  | none =>
    refine ⟨_, by simp only [hlookup]; rfl, linked_emits event.logicalId _, rfl⟩
  | some existing =>
    have hlink := lookup_mem hlookup
    refine ⟨_, by simp only [hlookup]; rfl, (updated_emits _ hlink).trans (.logged _ (fun h eventId heq => ?_) rfl rfl), rfl⟩
    obtain rfl := Option.some.inj heq
    exact h.logical _ hlink

theorem persistRuleEvents_run (row : Session) (signal : String) (policy : RulePolicy) (confidence : Option Rat)
    (events : List RuleEvent) (c : Collection) :
    ∃ after, (persistRuleEvents row signal policy confidence events).run c = .ok () after ∧ c.Persists after := by
  unfold persistRuleEvents
  induction events generalizing c with
  | nil => exact ⟨c, rfl, .refl c⟩
  | cons event rest ih =>
    obtain ⟨middle, hfirst, hmiddle⟩ := persistRuleEvent_run row signal policy confidence event c
    obtain ⟨after, hrest, hafter⟩ := ih middle
    refine ⟨after, ?_, hmiddle.trans hafter⟩
    rw [List.forM_cons, EStateM.run_bind, hfirst]
    exact hrest

/-! ## The model -/

/-- The model is due: there is a provider, the history is long enough, and the last prediction is old enough. -/
def modelDue (env : EmitEnv) (memory : Memory) (capturedNs timestampMs : Int) : Prop :=
  ∃ first second rest, memory.poseBuffer = first :: second :: rest ∧ env.hasModelProvider = true ∧
    5933333334 ≤ capturedNs - first.capturedNs ∧ 500 ≤ timestampMs - memory.lastModelTime.getD (-1000)

def accepts (engine : TemporalRuleEngine) (timestampMs : Int) : Prop := engine.lastMs < timestampMs ∧ 0 ≤ timestampMs

def modelAccepts (env : EmitEnv) (memory : Memory) (observation : Observation) (policy : RulePolicy)
    (timestampMs : Int) (qualityOk : Bool) : Prop :=
  modelDue env memory observation.capturedNs timestampMs →
    (∃ prediction, predict env observation qualityOk
      (memory.poseBuffer.filter fun item => observation.capturedNs - 6000000000 ≤ item.capturedNs) = .ok prediction) ∧
    accepts (memory.modelEngine.getD { policy }) timestampMs

theorem advance_none
        (h : engine.advance logicalId timestampMs poseCount downScore sideScore qualityOk label = none) :
    ¬ accepts engine timestampMs := by
  have hnot := TemporalRuleEngine.advance_eq_none_iff.mp h
  unfold accepts
  omega

theorem advance_some
        {result : TemporalRuleEngine × List RuleEvent}
    (h : engine.advance logicalId timestampMs poseCount downScore sideScore qualityOk label = some result) :
    accepts engine timestampMs := by
  have hnot : ¬ (timestampMs ≤ engine.lastMs ∨ timestampMs < 0) := by
    intro hlate
    rw [TemporalRuleEngine.advance_eq_none_iff.mpr hlate] at h
    cases h
  unfold accepts
  omega

theorem emitPrediction_run (row : Session) (observation : Observation) (policy : RulePolicy) (timestampMs : Int)
    (modelEngine : TemporalRuleEngine) (prediction : Option Prediction) (c : Collection) :
    ReturnsIff (accepts modelEngine timestampMs) Collection.Emits Collection.Emits
      (emitPrediction row observation policy timestampMs modelEngine prediction) c := by
  unfold emitPrediction
  set valid := prediction.bind Prediction.valid with hvalid
  have hstart : c.Emits { c.logged (.modelState observation.frameSeq valid.isSome prediction) with
      fresh := c.fresh + 1 + 1 } := (Collection.Emits.noted c rfl rfl rfl).trans (.drawn _)
  cases hadvance : modelEngine.advance (c.fresh + 1) timestampMs 1 (some 0) (some 0) valid.isSome
      (some ((valid.map Prod.fst).getD .uncertain)) with
  | none =>
    refine .raised (e := .valueError "TIMESTAMP_NOT_MONOTONIC") (advance_none hadvance) ?_ hstart
    rw [run_bind_ok (appendEvent_run _ _), run_bind_ok (uuid_run _)]
    dsimp only [Collection.logged]
    rw [hadvance]
    rfl
  | some result =>
    obtain ⟨engine, events⟩ := result
    have hengine := hstart.trans (@Collection.Emits.memory
      { c.logged (.modelState observation.frameSeq valid.isSome prediction) with fresh := c.fresh + 1 + 1 }
      { c.memory with modelEngine := some engine } rfl rfl rfl rfl)
    obtain ⟨after, hrun, hafter⟩ := persistRuleEvents_run row stGcnTemporalModel policy (valid.map Prod.snd) events
      { c.logged (.modelState observation.frameSeq valid.isSome prediction) with
        fresh := c.fresh + 1 + 1
        memory := { c.memory with modelEngine := some engine } }
    refine .returned (a := ()) (advance_some hadvance) ?_ (hengine.trans hafter.1)
    rw [run_bind_ok (appendEvent_run _ _), run_bind_ok (uuid_run _)]
    dsimp only [Collection.logged]
    rw [hadvance]
    exact hrun

theorem emitModel_skipped (hdue : ¬ modelDue env c.memory observation.capturedNs timestampMs) :
    (emitModel env row observation policy timestampMs qualityOk).run c = .ok () c := by
  unfold emitModel
  rw [run_bind_ok (EStateM.run_get c)]
  dsimp only
  rcases hbuffer : c.memory.poseBuffer with _ | ⟨first, _ | ⟨second, rest⟩⟩
  · rfl
  · rfl
  · dsimp only
    rw [if_pos]
    · rfl
    · by_contra hnot
      simp only [not_or, Bool.not_eq_false, not_lt] at hnot
      exact hdue ⟨first, second, rest, hbuffer, hnot.1, hnot.2.1, hnot.2.2⟩

def Memory.ticked (memory : Memory) (policy : RulePolicy) (timestampMs : Int) : Memory :=
  { memory with
    lastModelTime := some timestampMs
    modelEngine := some (memory.modelEngine.getD { policy }) }

theorem emitModel_due (hdue : modelDue env c.memory observation.capturedNs timestampMs) :
    (emitModel env row observation policy timestampMs qualityOk).run c =
      match predict env observation qualityOk
        (c.memory.poseBuffer.filter fun item => observation.capturedNs - 6000000000 ≤ item.capturedNs) with
      | .error e => .error e { c with memory := c.memory.ticked policy timestampMs }
      | .ok prediction =>
        (emitPrediction row observation policy timestampMs (c.memory.modelEngine.getD { policy }) prediction).run
          { c with memory := c.memory.ticked policy timestampMs } := by
  obtain ⟨first, second, rest, hbuffer, hprovider, hspan, htick⟩ := hdue
  unfold emitModel
  rw [run_bind_ok (EStateM.run_get c)]
  dsimp only
  rw [hbuffer]
  dsimp only
  rw [if_neg (by simp [hprovider, hspan, htick]), run_bind_ok (updateMemory_run _ _), EStateM.run_bind, liftExcept_run]
  cases predict env observation qualityOk ((first :: second :: rest).filter fun item =>
    observation.capturedNs - 6000000000 ≤ item.capturedNs) <;> rfl

theorem emitModel_run (env : EmitEnv) (row : Session) (observation : Observation) (policy : RulePolicy)
    (timestampMs : Int) (qualityOk : Bool) (c : Collection) :
    ReturnsIff (modelAccepts env c.memory observation policy timestampMs qualityOk) Collection.Emits Collection.Emits
      (emitModel env row observation policy timestampMs qualityOk) c := by
  by_cases hdue : modelDue env c.memory observation.capturedNs timestampMs
  · have hticked : c.Emits { c with memory := c.memory.ticked policy timestampMs } := .memory c rfl rfl rfl rfl
    have hrun : (emitModel env row observation policy timestampMs qualityOk).run c = _ := emitModel_due hdue
    cases hpredict : predict env observation qualityOk
        (c.memory.poseBuffer.filter fun item => observation.capturedNs - 6000000000 ≤ item.capturedNs) with
    | error e =>
      rw [hpredict] at hrun
      refine .raised (fun h => ?_) hrun hticked
      obtain ⟨⟨prediction, hok⟩, -⟩ := h hdue
      rw [hpredict] at hok
      cases hok
    | ok prediction =>
      rw [hpredict] at hrun
      have hiff : accepts (c.memory.modelEngine.getD { policy }) timestampMs ↔
          modelAccepts env c.memory observation policy timestampMs qualityOk := by
        constructor
        · intro h _
          exact ⟨⟨prediction, hpredict⟩, h⟩
        · intro h
          exact (h hdue).2
      rcases emitPrediction_run row observation policy timestampMs (c.memory.modelEngine.getD { policy }) prediction
          { c with memory := c.memory.ticked policy timestampMs } with
        ⟨haccepts, a, after, hok, hafter⟩ | ⟨hrefuses, e, after, herror, hafter⟩
      · exact .returned (hiff.mp haccepts) (hrun.trans hok) (hticked.trans hafter)
      · exact .raised (fun h => hrefuses (hiff.mpr h)) (hrun.trans herror) (hticked.trans hafter)
  · exact .returned (fun h => absurd h hdue) (emitModel_skipped hdue) (.refl c)

/-! ## Rules, then the model -/

theorem applyRules_run (env : EmitEnv) (row : Session) (observation : Observation) (engine : TemporalRuleEngine)
    (timestampMs : Int) (c : Collection) :
    ReturnsIff (accepts engine timestampMs ∧
        modelAccepts env c.memory observation engine.policy timestampMs (frameScores env observation).1)
      Collection.Emits Collection.Emits (applyRules env row observation engine timestampMs) c := by
  obtain ⟨qualityOk, down, side, hscores⟩ : ∃ qualityOk down side, frameScores env observation = (qualityOk, down, side) :=
    ⟨_, _, _, rfl⟩
  rw [hscores]
  have happly : (applyRules env row observation engine timestampMs).run c = _ := rfl
  conv at happly => rhs; unfold applyRules
  rw [hscores] at happly
  rw [run_bind_ok (uuid_run c)] at happly
  have hdrawn : c.Emits { c with fresh := c.fresh + 1 } := .drawn c
  cases hadvance : engine.advance c.fresh timestampMs observation.poseCount (some down) (some side) qualityOk none with
  | none =>
    rw [hadvance] at happly
    exact .raised (fun h => advance_none hadvance h.1) happly hdrawn
  | some result =>
    rw [hadvance] at happly
    dsimp only at happly
    obtain ⟨after, events⟩ := result
    have hengine := hdrawn.trans (@Collection.Emits.memory { c with fresh := c.fresh + 1 }
      { c.memory with ruleEngine := some after } rfl rfl rfl rfl)
    obtain ⟨middle, hpersist, hmiddle, hmemory⟩ := persistRuleEvents_run row independentTemporalRules engine.policy none
      events { c with fresh := c.fresh + 1, memory := { c.memory with ruleEngine := some after } }
    rw [run_bind_ok (updateMemory_run _ _), run_bind_ok hpersist] at happly
    refine ((emitModel_run env row observation engine.policy timestampMs qualityOk middle).congr ?_).step happly
      (fun _ hafter => (hengine.trans hmiddle).trans hafter) (fun _ hafter => (hengine.trans hmiddle).trans hafter)
    rw [hmemory]
    exact (and_iff_right (advance_some hadvance)).symm

def rulesAccept (env : EmitEnv) (memory : Memory) (observation : Observation) (policy : RulePolicy)
    (timestampMs : Int) : Prop :=
  let engine : TemporalRuleEngine := memory.ruleEngine.getD { policy }
  accepts engine timestampMs ∧
    modelAccepts env memory observation engine.policy timestampMs (frameScores env observation).1

theorem emitRules_run (env : EmitEnv) (row : Session) (observation : Observation) (policy : RulePolicy)
    (timestampMs : Int) (c : Collection) :
    ReturnsIff (rulesAccept env c.memory observation policy timestampMs) Collection.Emits Collection.Emits
      (emitRules env row observation policy timestampMs) c := by
  obtain ⟨engine, hengine⟩ : ∃ engine, engine = c.memory.ruleEngine.getD { policy } := ⟨_, rfl⟩
  let ruled : Collection := { c with memory := { c.memory with ruleEngine := some engine } }
  have hruled : c.Emits ruled := .memory c rfl rfl rfl rfl
  unfold rulesAccept
  rw [← hengine]
  have hrules : (emitRules env row observation policy timestampMs).run c = _ := rfl
  conv at hrules => rhs; unfold emitRules
  rw [run_bind_ok (EStateM.run_get c)] at hrules
  dsimp only at hrules
  rw [← hengine, run_bind_ok (updateMemory_run _ _)] at hrules
  by_cases hfirst : observation.frameSeq = 1
  · rw [if_pos hfirst, run_bind_ok (appendEvent_run _ _)] at hrules
    have hbound : c.Emits (ruled.logged (.rulePolicyBound engine.policy)) := hruled.trans (.noted ruled rfl rfl rfl)
    exact (applyRules_run env row observation engine timestampMs (ruled.logged (.rulePolicyBound engine.policy))).step
      hrules (fun _ hafter => hbound.trans hafter) (fun _ hafter => hbound.trans hafter)
  · rw [if_neg hfirst] at hrules
    exact (applyRules_run env row observation engine timestampMs ruled).step hrules
      (fun _ hafter => hruled.trans hafter) (fun _ hafter => hruled.trans hafter)

def emitsCleanly (setup : Setup) (env : EmitEnv) (row : Session) (memory : Memory) (observation : Observation) :
    Prop :=
  match policyForSession setup env row with
  | .error _ => False
  | .ok none => True
  | .ok (some policy) =>
    rulesAccept env memory observation policy
      ((observation.capturedNs - memory.captureOrigin.getD observation.capturedNs) / 1000000)

theorem emitModelOrRule_run (setup : Setup) (env : EmitEnv) (row : Session) (observation : Observation)
    (c : Collection) :
    ReturnsIff (emitsCleanly setup env row c.memory observation) Collection.Emits Collection.Emits
      (emitModelOrRule setup env row observation) c := by
  obtain ⟨origin, horigin⟩ : ∃ origin, origin = c.memory.captureOrigin.getD observation.capturedNs := ⟨_, rfl⟩
  let kept : Collection := { c with memory := { c.memory with captureOrigin := some origin } }
  have hkept : c.Emits kept := .memory c rfl rfl rfl rfl
  unfold emitsCleanly
  rw [← horigin]
  have hemit : (emitModelOrRule setup env row observation).run c = _ := rfl
  conv at hemit => rhs; unfold emitModelOrRule
  rw [run_bind_ok (EStateM.run_get c)] at hemit
  dsimp only at hemit
  rw [← horigin, run_bind_ok (updateMemory_run _ _)] at hemit
  cases hpolicy : policyForSession setup env row with
  | error e =>
    rw [hpolicy, run_bind_error (liftExcept_error_run _ _)] at hemit
    exact .raised id hemit hkept
  | ok policy =>
    rw [hpolicy, run_bind_ok (liftExcept_ok_run _ _)] at hemit
    cases policy with
    | none =>
      dsimp only at hemit ⊢
      by_cases hfirst : observation.frameSeq = 1
      · rw [if_pos hfirst, run_bind_ok (appendEvent_run _ _)] at hemit
        exact .returned trivial hemit (hkept.trans (.noted _ rfl rfl rfl))
      · rw [if_neg hfirst] at hemit
        exact .returned trivial hemit hkept
    | some policy =>
      exact (emitRules_run env row observation policy ((observation.capturedNs - origin) / 1000000) kept).step hemit
        (fun _ hafter => hkept.trans hafter) (fun _ hafter => hkept.trans hafter)

end PduExamObserver.ResearchRuntime
