import Mathlib.Tactic.ByContra
import PduExamObserver.Web.ResearchPreparation

/-! # Idempotency keys of the research preparation panel

A scope keeps its key until a request of the scope succeeds. What the requests under one key have in common is what the
scope's handler reads. -/

namespace PduExamObserver.Web
open Transition
set_option autoImplicit false

/-! ## What requests are made from -/

inductive Source
  | studyCode
  | policy
  | endDate
  | receipt
  | version
  | study
  | participant
  | session
  deriving DecidableEq

def Source.value (v : View) : Source → Option String
  | .studyCode => some v.studyCode
  | .policy => some v.policy
  | .endDate => some v.endDate
  | .receipt => some v.receipt
  | .version => some v.version
  | .study => v.study.map ResearchStudy.id
  | .participant => v.participant.map ResearchParticipant.id
  | .session => v.session.map ResearchSession.id

def Scope.reads : Scope → List Source
  | .study => [.studyCode]
  | .participant => [.study]
  | .session => [.study, .participant, .policy, .endDate]
  | .consent => [.session, .receipt, .version]
  | .withdrawal => [.session]
  | .readiness => []
  | .recovery => []

def Agree (scope : Scope) (v w : View) : Prop := ∀ source ∈ scope.reads, source.value v = source.value w

variable {scope : Scope} {u v w : View}

theorem Agree.refl : Agree scope v v := fun _ _ => rfl

theorem Agree.symm (h : Agree scope v w) : Agree scope w v := fun source hsource => (h source hsource).symm

theorem Agree.trans (h : Agree scope u v) (h' : Agree scope v w) : Agree scope u w :=
  fun source hsource => (h source hsource).trans (h' source hsource)

variable {payload : Payload} {today : Date} {f : View → View}

theorem sessionPayload_eq {study : ResearchStudy} {participant : ResearchParticipant} (h : v.sessionPayload study participant today = .ok payload) :
    payload = .session study.id participant.id (if v.policy = "" then none else some v.policy)
      (if v.endDate = "" then none else some (isoText v.endDate)) := by
  unfold View.sessionPayload at h
  obtain ⟨retentionEndDate, hdate, hpayload⟩ := map_ok_iff.mp h
  rw [← hpayload]
  congr 1
  split at hdate
  · rename_i hempty
    rw [if_pos hempty, ← Except.ok.inj hdate]
  · rename_i hempty
    obtain ⟨iso, hiso, hsome⟩ := map_ok_iff.mp hdate
    rw [if_neg hempty, ← parseRetentionEndDate_ok hiso, hsome]

theorem request_scope (h : v.request today scope = some (.ok payload)) :
    payload.scope = scope := by
  cases scope with
  | session =>
    simp only [View.request] at h
    split at h
    · rw [sessionPayload_eq (Option.some.inj h)]
      rfl
    · cases h
  | readiness => cases h
  | recovery => cases h
  | study =>
    simp only [View.request] at h
    split at h
    · cases h
      rfl
    · cases h
  | participant =>
    simp only [View.request] at h
    split at h
    · cases h
      rfl
    · cases h
  | consent =>
    simp only [View.request] at h
    split at h
    · split at h
      · cases h
        rfl
      · cases h
    · cases h
  | withdrawal =>
    simp only [View.request] at h
    split at h
    · split at h
      · cases h
        rfl
      · cases h
    · cases h

theorem request_agree {today' : Date} {payload' : Payload} (h : Agree scope v w)
    (hv : v.request today scope = some (.ok payload)) (hw : w.request today' scope = some (.ok payload')) :
    payload = payload' := by
  cases scope with
  | readiness => cases hv
  | recovery => cases hv
  | study =>
    have hcode : some v.studyCode = some w.studyCode := h .studyCode (by decide)
    simp only [View.request] at hv hw
    split at hv
    · split at hw
      · cases hv
        cases hw
        rw [Option.some.inj hcode]
      · cases hw
    · cases hv
  | participant =>
    have hstudy : v.study.map ResearchStudy.id = w.study.map ResearchStudy.id := h .study (by decide)
    simp only [View.request] at hv hw
    split at hv
    · rename_i hvstudy hvnone
      split at hw
      · rename_i hwstudy hwnone
        cases hv
        cases hw
        rw [hvstudy, hwstudy] at hstudy
        exact congrArg Payload.participant (Option.some.inj hstudy)
      · cases hw
    · cases hv
  | session =>
    have hstudy : v.study.map ResearchStudy.id = w.study.map ResearchStudy.id := h .study (by decide)
    have hparticipant : v.participant.map ResearchParticipant.id = w.participant.map ResearchParticipant.id := h .participant (by decide)
    have hpolicy : some v.policy = some w.policy := h .policy (by decide)
    have hdate : some v.endDate = some w.endDate := h .endDate (by decide)
    simp only [View.request] at hv hw
    split at hv
    · rename_i hvstudy hvparticipant hvnone
      split at hw
      · rename_i hwstudy hwparticipant hwnone
        rw [hvstudy, hwstudy] at hstudy
        rw [hvparticipant, hwparticipant] at hparticipant
        have hstudyId := Option.some.inj hstudy
        have hparticipantId := Option.some.inj hparticipant
        rw [sessionPayload_eq (Option.some.inj hv), sessionPayload_eq (Option.some.inj hw), hstudyId, hparticipantId,
          Option.some.inj hpolicy, Option.some.inj hdate]
      · cases hw
    · cases hv
  | consent =>
    have hsession : v.session.map ResearchSession.id = w.session.map ResearchSession.id := h .session (by decide)
    have hreceipt : some v.receipt = some w.receipt := h .receipt (by decide)
    have hversion : some v.version = some w.version := h .version (by decide)
    simp only [View.request] at hv hw
    split at hv
    · rename_i hvsession
      split at hw
      · rename_i hwsession
        rw [hvsession, hwsession] at hsession
        have hid := Option.some.inj hsession
        split at hv
        · split at hw
          · cases hv
            cases hw
            rw [Option.some.inj hreceipt, Option.some.inj hversion, hid]
          · cases hw
        · cases hv
      · cases hw
    · cases hv
  | withdrawal =>
    have hsession : v.session.map ResearchSession.id = w.session.map ResearchSession.id := h .session (by decide)
    simp only [View.request] at hv hw
    split at hv
    · rename_i hvsession
      split at hw
      · rename_i hwsession
        rw [hvsession, hwsession] at hsession
        have hid := Option.some.inj hsession
        split at hv
        · split at hw
          · cases hv
            cases hw
            rw [hid]
          · cases hw
        · cases hv
      · cases hw
    · cases hv

/-! ## Undisturbed runs -/

def Field.source : Field → Option Source
  | .studyCode => some .studyCode
  | .policy => some .policy
  | .endDate => some .endDate
  | .receipt => some .receipt
  | .version => some .version
  | .savedSessionId => none

def Task.sets : Task → Reply → Option (Source × Option String)
  | .write (.study _), .study value => some (.study, some value.id)
  | .write (.participant _), .participant value => some (.participant, some value.id)
  | .write (.session ..), .session value => some (.session, some value.id)
  | .write (.consent ..), .session value => some (.session, some value.id)
  | .restoreReadiness value, .readiness => if value.state = .withdrawn then none else some (.session, some value.sessionId)
  | .restoreWithdrawal value, .withdrawal status =>
    if status.terminal then some (.session, some value.sessionId) else none
  | _, _ => none

def Task.releases : Task → Option Scope
  | .write payload => some payload.scope
  | _ => none

/-- While a scope has a key, nothing that its requests are made from changes; and a key is drawn only when all of that is
shown as it is. -/
def Undisturbed (p : Preparation) : Event → Prop
  | .edit field value => ∀ source, field.source = some source → source.value p.view ≠ some value →
      ∀ scope, source ∈ scope.reads → p.keys scope = none
  | .press scope _ => p.keys scope = none → Agree scope p.shown p.view
  | .retry scope _ => p.keys scope = none → Agree scope p.shown p.view
  | .answer index reply => ∀ task, p.tasks[index]? = some task → ∀ source value, task.sets reply = some (source, value) →
      source.value p.view ≠ value → ∀ scope, source ∈ scope.reads → p.keys scope = none ∨ task.releases = some scope
  | _ => True

def Makes (v : View) (scope : Scope) (payload : Payload) : Prop :=
  ∃ w today, Agree scope w v ∧ w.request today scope = some (.ok payload)

structure Inv (p : Preparation) : Prop where
  current : ∀ scope, p.keys scope ≠ none → Agree scope p.shown p.view
  bound : ∀ scope k, p.keys scope = some k → k < p.drawn ∧
    ∀ r ∈ p.sent, r.payload.scope = scope → r.key = k → Makes p.view scope r.payload
  sent : ∀ r ∈ p.sent, r.key < p.drawn
  same : ∀ r ∈ p.sent, ∀ r' ∈ p.sent, r.payload.scope = r'.payload.scope → r.key = r'.key → r.payload = r'.payload

variable {p q : Preparation}

theorem Makes.agree (h : Makes v scope payload) (hagree : Agree scope v w) : Makes w scope payload := by
  obtain ⟨u, today, hu, hrequest⟩ := h
  exact ⟨u, today, hu.trans hagree, hrequest⟩

theorem Makes.unique {payload' : Payload} (h : Makes v scope payload) (h' : Makes v scope payload') :
    payload = payload' := by
  obtain ⟨u, today, hu, hrequest⟩ := h
  obtain ⟨u', today', hu', hrequest'⟩ := h'
  exact request_agree (hu.trans hu'.symm) hrequest hrequest'

theorem Inv.quiet (h : Inv p) (hsent : q.sent = p.sent) (hdrawn : q.drawn = p.drawn)
    (hkeys : ∀ scope k, q.keys scope = some k → p.keys scope = some k)
    (hview : ∀ scope, q.keys scope ≠ none → Agree scope q.shown q.view ∧ Agree scope p.view q.view) : Inv q := by
  refine ⟨fun scope hkept => (hview scope hkept).left, fun scope k hkept => ?_, ?_, ?_⟩
  · have hkept' : q.keys scope ≠ none := by
      rw [hkept]
      exact nofun
    obtain ⟨hlt, hmakes⟩ := h.bound scope k (hkeys scope k hkept)
    rw [hsent, hdrawn]
    exact ⟨hlt, fun r hr hscope hkey => (hmakes r hr hscope hkey).agree (hview scope hkept').right⟩
  · rw [hsent, hdrawn]
    exact h.sent
  · rw [hsent]
    exact h.same

def Neutral (f : View → View) : Prop := ∀ v (source : Source), source.value (f v) = source.value v

theorem Neutral.agree (hf : Neutral f) : Agree scope v (f v) :=
  fun source _ => (hf v source).symm

theorem Inv.flush (h : Inv p) (hf : Neutral f) : Inv (p.flush f) := by
  refine h.quiet rfl rfl (fun _ _ hkept => hkept) fun scope hkept => ⟨?_, hf.agree⟩
  exact hf.agree.symm.trans ((h.current scope hkept).trans hf.agree)

theorem Inv.set (h : Inv p) (hf : Neutral f) : Inv (p.set f) := by
  refine h.quiet rfl rfl (fun _ _ hkept => hkept) fun scope hkept => ⟨?_, hf.agree⟩
  exact (h.current scope hkept).trans hf.agree

theorem Inv.await (h : Inv p) (task : Task) : Inv (p.await task) :=
  h.quiet rfl rfl (fun _ _ hkept => hkept) fun scope hkept => ⟨h.current scope hkept, .refl⟩

theorem Inv.tasks (h : Inv p) (tasks : List Task) : Inv { p with tasks } :=
  h.quiet rfl rfl (fun _ _ hkept => hkept) fun scope hkept => ⟨h.current scope hkept, .refl⟩

theorem Inv.render (h : Inv p) : Inv { p with shown := p.view } :=
  h.quiet rfl rfl (fun _ _ hkept => hkept) fun _ _ => ⟨.refl, .refl⟩

structure Puts (f : View → View) (source : Source) (value : Option String) : Prop where
  here : ∀ v, source.value (f v) = value
  elsewhere : ∀ v, ∀ other : Source, other ≠ source → other.value (f v) = other.value v

def Free (p : Preparation) (source : Source) (value : Option String) : Prop :=
  source.value p.view ≠ value → ∀ scope, source ∈ scope.reads → p.keys scope = none

theorem Puts.agree {source : Source} {value : Option String} (hf : Puts f source value)
    (hfree : Free p source value) (hkept : p.keys scope ≠ none) : Agree scope p.view (f p.view) := by
  intro other hother
  by_cases heq : other = source
  · rw [heq, hf.here]
    rw [heq] at hother
    by_contra hchange
    exact hkept (hfree hchange scope hother)
  · exact (hf.elsewhere p.view other heq).symm

theorem Inv.put (h : Inv p) {source : Source} {value : Option String} (hf : Puts f source value)
    (hfree : Free p source value) : Inv (p.set f) := by
  refine h.quiet rfl rfl (fun _ _ hkept => hkept) fun scope hkept => ⟨?_, hf.agree hfree hkept⟩
  exact (h.current scope hkept).trans (hf.agree hfree hkept)

theorem Inv.flush_put (h : Inv p) {source : Source} {value : Option String} (hf : Puts f source value)
    (hfree : Free p source value) : Inv (p.flush f) := by
  refine h.quiet rfl rfl (fun _ _ hkept => hkept) fun scope hkept => ⟨?_, hf.agree hfree hkept⟩
  intro other hother
  by_cases heq : other = source
  · rw [heq]
    exact (hf.here p.shown).trans (hf.here p.view).symm
  · exact (hf.elsewhere p.shown other heq).trans
      ((h.current scope hkept other hother).trans (hf.elsewhere p.view other heq).symm)

theorem Inv.forget (h : Inv p) (scope : Scope) : Inv { p with keys := Function.update p.keys scope none } := by
  have hkeys : ∀ other k, Function.update p.keys scope none other = some k → p.keys other = some k := by
    intro other k hkept
    by_cases hother : other = scope
    · rw [hother, Function.update_self] at hkept
      cases hkept
    · rwa [Function.update_of_ne hother] at hkept
  refine h.quiet rfl rfl hkeys fun other hkept => ⟨h.current other ?_, .refl⟩
  obtain ⟨k, hk⟩ := Option.ne_none_iff_exists'.mp hkept
  rw [hkeys other k hk]
  exact nofun

/-! ## Steps -/

theorem key_eq_prior {k : Nat} (h : p.keys scope = some k) : p.key scope = (k, p) := by
  rw [Preparation.key, h]

theorem key_eq_drawn (h : p.keys scope = none) :
    p.key scope = (p.drawn, { p with keys := Function.update p.keys scope (some p.drawn), drawn := p.drawn + 1 }) := by
  rw [Preparation.key, h]

theorem Inv.send (h : Inv p) {k : Nat} (hk : p.keys payload.scope = some k)
    (hmakes : Makes p.view payload.scope payload) (tasks : List Task) :
    Inv { p with tasks, sent := p.sent ++ [⟨k, payload⟩] } := by
  obtain ⟨hlt, hbound⟩ := h.bound payload.scope k hk
  refine ⟨h.current, fun scope k' hk' => ⟨(h.bound scope k' hk').left, fun r hr hscope hkey => ?_⟩, fun r hr => ?_,
    fun r hr r' hr' hscope hkey => ?_⟩
  · rcases List.mem_append.mp hr with hold | hnew
    · exact (h.bound scope k' hk').right r hold hscope hkey
    · rw [List.mem_singleton.mp hnew] at hscope ⊢
      rw [← hscope]
      exact hmakes
  · rcases List.mem_append.mp hr with hold | hnew
    · exact h.sent r hold
    · rw [List.mem_singleton.mp hnew]
      exact hlt
  · rcases List.mem_append.mp hr with hold | hnew
    · rcases List.mem_append.mp hr' with hold' | hnew'
      · exact h.same r hold r' hold' hscope hkey
      · rw [List.mem_singleton.mp hnew'] at hscope hkey ⊢
        have hmakes' : Makes p.view payload.scope r.payload := hbound r hold hscope hkey
        exact hmakes'.unique hmakes
    · rw [List.mem_singleton.mp hnew] at hscope hkey ⊢
      rcases List.mem_append.mp hr' with hold' | hnew'
      · have hmakes' : Makes p.view payload.scope r'.payload := hbound r' hold' hscope.symm hkey.symm
        exact hmakes.unique hmakes'
      · rw [List.mem_singleton.mp hnew']

theorem Inv.draw (h : Inv p) (hagree : Agree scope p.shown p.view) :
    Inv { p with keys := Function.update p.keys scope (some p.drawn), drawn := p.drawn + 1 } := by
  refine ⟨fun other hkept => ?_, fun other k hk => ?_, fun r hr => Nat.lt_succ_of_lt (h.sent r hr), h.same⟩
  · by_cases hother : other = scope
    · rw [hother]
      exact hagree
    · refine h.current other ?_
      dsimp only at hkept
      rwa [Function.update_of_ne hother] at hkept
  · dsimp only at hk
    by_cases hother : other = scope
    · rw [hother, Function.update_self] at hk
      cases hk
      exact ⟨Nat.lt_succ_self _, fun r hr _ hkey => absurd hkey (Nat.ne_of_lt (h.sent r hr))⟩
    · rw [Function.update_of_ne hother] at hk
      obtain ⟨hlt, hbound⟩ := h.bound other k hk
      exact ⟨Nat.lt_succ_of_lt hlt, hbound⟩

theorem Inv.write (h : Inv p) (hrequest : p.shown.request today payload.scope = some (.ok payload))
    (hcurrent : p.keys payload.scope = none → Agree payload.scope p.shown p.view) : Inv (p.write payload) := by
  have hagree : Agree payload.scope p.shown p.view := by
    by_cases hkeys : p.keys payload.scope = none
    · exact hcurrent hkeys
    · exact h.current payload.scope hkeys
  have hmakes : Makes p.view payload.scope payload := ⟨p.shown, today, hagree, hrequest⟩
  have hneutral : Neutral fun v => { v with pending := some payload.scope, error := none } := by
    intro v source
    cases source <;> rfl
  have hflush := h.flush hneutral
  have hmakes' := hmakes.agree (hneutral.agree (v := p.view))
  unfold Preparation.write
  cases hkey : p.keys payload.scope with
  | some k =>
    rw [key_eq_prior (p := p.flush _) hkey]
    exact hflush.send hkey hmakes' _
  | none =>
    rw [key_eq_drawn (p := p.flush _) hkey]
    have hdraw := @Inv.draw payload.scope _ hflush (hneutral.agree.symm.trans (hagree.trans hneutral.agree))
    exact hdraw.send (Function.update_self ..) hmakes' _

theorem failed_neutral (scope : Scope) (action : String) (cause : Cause) : Neutral (·.failed scope action cause) := by
  intro v source
  dsimp only
  unfold View.failed
  split
  · cases source <;> rfl
  · cases source <;> rfl

theorem Inv.caught (h : Inv p) (scope : Scope) (action : String) (cause : Cause) : Inv (p.caught scope action cause) := by
  refine h.set fun v source => ?_
  rw [← failed_neutral scope action cause v source]
  cases source <;> rfl

theorem Inv.loadRecovery (h : Inv p) (id : String) : Inv (p.loadRecovery id) := by
  unfold Preparation.loadRecovery
  split
  · exact h
  · refine (h.set fun v source => ?_).await _
    cases source <;> rfl

theorem Inv.done (h : Inv p) {scope : Scope} {success : Preparation → Preparation}
    (hsuccess : Inv { p with keys := Function.update p.keys scope none } →
      Inv (success { p with keys := Function.update p.keys scope none })) : Inv (p.done scope success) := by
  refine (hsuccess (h.forget scope)).set fun v source => ?_
  cases source <;> rfl

theorem Inv.handle (h : Inv p) (hcurrent : p.keys scope = none → Agree scope p.shown p.view) :
    Inv (p.handle scope today) := by
  unfold Preparation.handle
  split
  · split
    · exact h
    · refine (h.flush fun v source => ?_).await _
      cases source <;> rfl
  · split
    · exact h
    · refine (h.flush fun v source => ?_).await _
      cases source <;> rfl
  · split
    · exact h
    · refine h.flush fun v source => ?_
      cases source <;> rfl
    · rename_i payload hrequest
      have hscope := request_scope hrequest
      rw [← hscope] at hrequest hcurrent
      exact h.write hrequest hcurrent

theorem Inv.restore (h : Inv p) : Inv p.restore := by
  unfold Preparation.restore
  dsimp only
  split
  · refine (h.flush fun v source => ?_).await _
    cases source <;> rfl
  · refine h.flush fun v source => ?_
    cases source <;> rfl

theorem Inv.restored (h : Inv p) {value : ResearchRecovery} {status : Option WithdrawalStatus}
    (hfree : Free p .session (some value.sessionId)) : Inv (p.restored value status) := by
  refine h.put ⟨fun v => rfl, fun v other hother => ?_⟩ hfree
  cases other
  case session => exact absurd rfl hother
  all_goals rfl

theorem Inv.set_session (h : Inv p) {value : ResearchSession} (hfree : Free p .session (some value.id)) :
    Inv (p.set fun v => { v with session := some value }) := by
  refine h.put ⟨fun v => rfl, fun v other hother => ?_⟩ hfree
  cases other
  case session => exact absurd rfl hother
  all_goals rfl

theorem free_forgotten {source : Source} {value : Option String} {released : Scope}
    (hfree : source.value p.view ≠ value → ∀ scope, source ∈ scope.reads → p.keys scope = none ∨ some released = some scope) :
    Free { p with keys := Function.update p.keys released none } source value := by
  intro hchange scope hreads
  by_cases hscope : scope = released
  · rw [hscope]
    exact Function.update_self ..
  · rcases hfree hchange scope hreads with hnone | hreleased
    · exact (Function.update_of_ne hscope ..).trans hnone
    · exact absurd (Option.some.inj hreleased).symm hscope

theorem Inv.resume {task : Task} {reply : Reply} (h : Inv p)
    (hfree : ∀ source value, task.sets reply = some (source, value) → source.value p.view ≠ value →
      ∀ scope, source ∈ scope.reads → p.keys scope = none ∨ task.releases = some scope)
    (hresume : p.resume task reply = some q) : Inv q := by
  unfold Preparation.resume at hresume
  split at hresume
  case h_1 | h_7 | h_9 | h_14 | h_15 | h_16 =>
    cases hresume
    exact h.caught _ _ _
  case h_2 =>
    cases hresume
    refine h.done fun hforgotten => hforgotten.put ⟨fun v => rfl, fun v other hother => ?_⟩
      (free_forgotten (hfree _ _ rfl))
    cases other
    case study => exact absurd rfl hother
    all_goals rfl
  case h_3 =>
    cases hresume
    refine h.done fun hforgotten => hforgotten.put ⟨fun v => rfl, fun v other hother => ?_⟩
      (free_forgotten (hfree _ _ rfl))
    cases other
    case participant => exact absurd rfl hother
    all_goals rfl
  case h_4 =>
    cases hresume
    exact h.done fun hforgotten => (hforgotten.set_session (free_forgotten (hfree _ _ rfl))).loadRecovery _
  case h_5 =>
    cases hresume
    exact h.done fun hforgotten => hforgotten.set_session (free_forgotten (hfree _ _ rfl))
  case h_6 =>
    cases hresume
    refine h.done fun hforgotten => (hforgotten.set fun v source => ?_).loadRecovery _
    cases source <;> rfl
  case h_8 | h_10 =>
    cases hresume
    refine h.set fun v source => ?_
    cases source <;> rfl
  case h_11 =>
    split at hresume
    · cases hresume
      exact h.caught _ _ _
    · cases hresume
      exact h.await _
  case h_12 value =>
    split at hresume
    · cases hresume
      exact h.await _
    · rename_i hstate
      cases hresume
      have hsets : (Task.restoreReadiness value).sets .readiness = some (.session, some value.sessionId) := if_neg hstate
      exact h.restored fun hchange scope hreads => (hfree _ _ hsets hchange scope hreads).resolve_right nofun
  case h_13 value status =>
    split at hresume
    · rename_i hterminal
      cases hresume
      have hsets : (Task.restoreWithdrawal value).sets (.withdrawal status) = some (.session, some value.sessionId) :=
        if_pos hterminal
      exact h.restored fun hchange scope hreads => (hfree _ _ hsets hchange scope hreads).resolve_right nofun
    · cases hresume
      exact h.caught _ _ _
  case h_17 => cases hresume

theorem Inv.edit (h : Inv p) {field : Field} {value : String} (hguard : Undisturbed p (.edit field value)) :
    Inv (p.flush (field.put value)) := by
  have hput (source : Source) (hsource : field.source = some source) (hputs : Puts (field.put value) source (some value)) :
      Inv (p.flush (field.put value)) := h.flush_put hputs (hguard source hsource)
  cases field with
  | savedSessionId =>
    refine h.flush fun v source => ?_
    cases source <;> rfl
  | studyCode =>
    refine hput .studyCode rfl ⟨fun v => rfl, fun v other hother => ?_⟩
    cases other
    case studyCode => exact absurd rfl hother
    all_goals rfl
  | policy =>
    refine hput .policy rfl ⟨fun v => rfl, fun v other hother => ?_⟩
    cases other
    case policy => exact absurd rfl hother
    all_goals rfl
  | endDate =>
    refine hput .endDate rfl ⟨fun v => rfl, fun v other hother => ?_⟩
    cases other
    case endDate => exact absurd rfl hother
    all_goals rfl
  | receipt =>
    refine hput .receipt rfl ⟨fun v => rfl, fun v other hother => ?_⟩
    cases other
    case receipt => exact absurd rfl hother
    all_goals rfl
  | version =>
    refine hput .version rfl ⟨fun v => rfl, fun v other hother => ?_⟩
    cases other
    case version => exact absurd rfl hother
    all_goals rfl

theorem step_inv {e : Event} (h : Inv p) (hguard : Undisturbed p e) : Inv (p.event e) := by
  cases e with
  | render => exact h.render
  | answer index reply =>
    simp only [Preparation.event]
    split
    · exact h
    · rename_i task htask
      cases hresume : Preparation.resume { p with tasks := p.tasks.eraseIdx index } task reply with
      | none => exact h
      | some q => exact (h.tasks (p.tasks.eraseIdx index)).resume (hguard task htask) hresume
  | edit field value =>
    simp only [Preparation.event]
    split
    · exact h
    · split
      · exact h.edit hguard
      · exact h
  | press scope today =>
    simp only [Preparation.event]
    split
    · exact h
    · split
      · exact h.handle hguard
      · exact h
  | retry scope today =>
    simp only [Preparation.event]
    split
    · exact h
    · split
      · exact h.handle hguard
      · exact h
  | restore =>
    simp only [Preparation.event]
    split
    · exact h
    · split
      · exact h.restore
      · exact h
  | openWithdrawal =>
    simp only [Preparation.event]
    split
    · exact h
    · split
      · refine h.flush fun v source => ?_
        cases source <;> rfl
      · exact h
  | closeWithdrawal =>
    simp only [Preparation.event]
    split
    · exact h
    · refine h.flush fun v source => ?_
      cases source <;> rfl

theorem init_inv : Inv {} :=
  ⟨fun _ _ => .refl, fun _ _ hkey => absurd hkey nofun, fun _ hr => absurd hr List.not_mem_nil,
    fun _ hr => absurd hr List.not_mem_nil⟩

/-! ## One key, one payload -/

def OneKeyOnePayload (p : Preparation) : Prop :=
  ∀ r ∈ p.sent, ∀ r' ∈ p.sent, r.payload.scope = r'.payload.scope → r.key = r'.key → r.payload = r'.payload

theorem one_key_one_payload (p : Preparation) (h : ReachableBy preparation Undisturbed p) : OneKeyOnePayload p := by
  have hinv : Inv p := by
    induction h with
    | init hinit => exact hinit ▸ init_inv
    | step _ hguard hstep ih => exact hstep ▸ step_inv ih hguard
  exact hinv.same

/-! ## Samples -/

namespace Sample

def refused : List Event :=
  [.edit .studyCode "A", .press .study ⟨2026, 9, 1⟩, .answer 0 (.failed (.api 503 "")), .render]

def panel (events : List Event) : Preparation := events.foldl Preparation.event {}

theorem sets_failed (task : Task) (cause : Cause) : task.sets (.failed cause) = none := by
  cases task with
  | write payload => cases payload <;> rfl
  | _ => rfl

theorem undisturbed_refused : Guarded Preparation.event Undisturbed {} (refused ++ [.retry .study ⟨2026, 9, 1⟩]) := by
  refine ⟨fun _ _ _ _ _ => rfl, fun _ _ _ => rfl, fun task _ source value hsets => ?_, trivial, fun hnone => ?_, trivial⟩
  · rw [sets_failed] at hsets
    cases hsets
  · exact absurd hnone (by decide +kernel)

end Sample

/-- The request is sent again as it was. -/
theorem one_key_one_payload_retried : OneKeyOnePayload (Sample.panel (Sample.refused ++ [.retry .study ⟨2026, 9, 1⟩])) ∧
    (Sample.panel (Sample.refused ++ [.retry .study ⟨2026, 9, 1⟩])).sent = [⟨0, .study "A"⟩, ⟨0, .study "A"⟩] := by
  have h : ReachableBy preparation Undisturbed (Sample.panel (Sample.refused ++ [.retry .study ⟨2026, 9, 1⟩])) :=
    reachableBy_foldl _ (.init rfl) Sample.undisturbed_refused
  exact ⟨one_key_one_payload _ h, by decide +kernel⟩

/-- The study code is corrected before the request is sent again. -/
theorem two_payloads : ∃ p, Reachable preparation p ∧ ¬ OneKeyOnePayload p := by
  refine ⟨Sample.panel (Sample.refused ++ [.edit .studyCode "B", .retry .study ⟨2026, 9, 1⟩]),
    reachable_foldl _ (.init rfl), fun h => ?_⟩
  have hsent : (Sample.panel (Sample.refused ++ [.edit .studyCode "B", .retry .study ⟨2026, 9, 1⟩])).sent =
      [⟨0, .study "A"⟩, ⟨0, .study "B"⟩] := by decide +kernel
  have heq := h ⟨0, .study "A"⟩ (by simp [hsent]) ⟨0, .study "B"⟩ (by simp [hsent]) rfl rfl
  exact absurd heq (by decide)

end PduExamObserver.Web
