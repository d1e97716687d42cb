import Mathlib.Logic.Function.Basic
import PduExamObserver.Library.Except
import PduExamObserver.Library.Transition

/-! # The research preparation panel

The state of `ResearchPreparationCore` under its events: edits, clicks, renders and the answers of the server. -/

namespace PduExamObserver.Web
open Transition
set_option autoImplicit false

/-! ## Retention dates -/

structure Date where
  year : Nat
  month : Nat
  day : Nat
  deriving DecidableEq

def Date.isBefore (a b : Date) : Bool :=
  a.year < b.year ∨ (a.year = b.year ∧ (a.month < b.month ∨ (a.month = b.month ∧ a.day < b.day)))

def daysInMonth (year month : Nat) : Nat :=
  if month = 2 then (if year % 400 = 0 ∨ (year % 4 = 0 ∧ year % 100 ≠ 0) then 29 else 28)
  else if month = 4 ∨ month = 6 ∨ month = 9 ∨ month = 11 then 30 else 31

def digit (c : Char) : Option Nat := if c.isDigit then some (c.toNat - '0'.toNat) else none

def number (text : List Char) : Option Nat :=
  text.foldlM (fun value c => (digit c).map (value * 10 + ·)) 0

/-- `retention.ts`; the years below 100 are other years to `new Date`. -/
def parseRetentionEndDate (value : String) (today : Date) : Except String String :=
  match value.toList with
  | [d₁, d₂, '/', m₁, m₂, '/', y₁, y₂, y₃, y₄] =>
    match number [d₁, d₂], number [m₁, m₂], number [y₁, y₂, y₃, y₄] with
    | some day, some month, some year =>
      if year < 100 ∨ month < 1 ∨ 12 < month ∨ day < 1 ∨ daysInMonth year month < day then
        .error "Ngày kết thúc lưu giữ không hợp lệ."
      else if (Date.mk year month day).isBefore today then
        .error "Ngày kết thúc lưu giữ không được trước ngày hôm nay."
      else .ok (String.ofList [y₁, y₂, y₃, y₄, '-', m₁, m₂, '-', d₁, d₂])
    | _, _, _ => .error "Nhập ngày theo định dạng dd/mm/yyyy."
  | _ => .error "Nhập ngày theo định dạng dd/mm/yyyy."

def isoText (value : String) : String :=
  match value.toList with
  | [d₁, d₂, _, m₁, m₂, _, y₁, y₂, y₃, y₄] => String.ofList [y₁, y₂, y₃, y₄, '-', m₁, m₂, '-', d₁, d₂]
  | _ => ""

theorem parseRetentionEndDate_ok {value iso : String} {today : Date} (h : parseRetentionEndDate value today = .ok iso) :
    iso = isoText value := by
  unfold parseRetentionEndDate at h
  split at h
  · rename_i heq
    split at h
    · split at h
      · cases h
      · split at h
        · cases h
        · rw [isoText, heq]
          exact (Except.ok.inj h).symm
    · cases h
  · cases h

/-! ## State -/

inductive Scope
  | study
  | participant
  | session
  | consent
  | readiness
  | recovery
  | withdrawal
  deriving DecidableEq

inductive LifecycleState
  | draft
  | consentConfirmed
  | preflightReady
  | recording
  | sealed
  | failed
  | withdrawn
  deriving DecidableEq

structure ResearchStudy where
  id : String
  studyCode : String
  deriving DecidableEq

structure ResearchParticipant where
  id : String
  pseudonym : String
  deriving DecidableEq

structure ResearchSession where
  id : String
  state : LifecycleState
  deriving DecidableEq

structure ResearchRecovery where
  sessionId : String
  state : LifecycleState
  deriving DecidableEq

structure WithdrawalStatus where
  terminal : Bool
  taskCount : Nat
  deriving DecidableEq

structure ActionError where
  scope : Scope
  message : String
  deriving DecidableEq

/-- The values of the component's `useState` hooks. -/
structure View where
  studyCode : String := ""
  policy : String := ""
  endDate : String := ""
  receipt : String := ""
  version : String := ""
  savedSessionId : String := ""
  study : Option ResearchStudy := none
  participant : Option ResearchParticipant := none
  session : Option ResearchSession := none
  recovery : Option ResearchRecovery := none
  withdrawal : Option WithdrawalStatus := none
  confirmOpen : Bool := false
  pending : Option Scope := none
  error : Option ActionError := none
  unavailable : Bool := false
  deriving DecidableEq

def View.terminal (v : View) : Bool :=
  v.withdrawal.any (·.terminal) || v.recovery.any (·.state = .withdrawn) || v.session.any (·.state = .withdrawn)

inductive Payload
  | study (studyCode : String)
  | participant (studyId : String)
  | session (studyId participantId : String) (retentionPolicyReference retentionEndDate : Option String)
  | consent (sessionId consentReceiptId consentVersion : String)
  | withdrawal (sessionId : String)
  deriving DecidableEq

def Payload.scope : Payload → Scope
  | .study _ => .study
  | .participant _ => .participant
  | .session .. => .session
  | .consent .. => .consent
  | .withdrawal _ => .withdrawal

inductive Task
  | write (payload : Payload)
  | loadRecovery
  | loadReadiness
  | restoreRecovery (id : String)
  | restoreReadiness (restored : ResearchRecovery)
  | restoreWithdrawal (restored : ResearchRecovery)
  deriving DecidableEq

structure Sent where
  key : Nat
  payload : Payload
  deriving DecidableEq

/-- `shown` is what the handlers on the page have closed over: the state at the last render. A key is the number of its
draw. -/
structure Preparation where
  view : View := {}
  shown : View := {}
  keys : Scope → Option Nat := fun _ => none
  drawn : Nat := 0
  tasks : List Task := []
  sent : List Sent := []

namespace Preparation

variable (p : Preparation)

def flush (f : View → View) : Preparation := { p with view := f p.view, shown := f p.shown }

/-- State set after an `await` is rendered later. -/
def set (f : View → View) : Preparation := { p with view := f p.view }

def key (scope : Scope) : Nat × Preparation :=
  match p.keys scope with
  | some prior => (prior, p)
  | none => (p.drawn, { p with keys := Function.update p.keys scope (some p.drawn), drawn := p.drawn + 1 })

/-- `write`, up to its `await` -/
def write (payload : Payload) : Preparation :=
  let (key, q) := (p.flush fun v => { v with pending := some payload.scope, error := none }).key payload.scope
  { q with tasks := q.tasks ++ [.write payload], sent := q.sent ++ [⟨key, payload⟩] }

end Preparation

/-! ## Handlers -/

def View.fail (v : View) (scope : Scope) (message : String) : View := { v with error := some ⟨scope, message⟩ }

/-- `createSession` after its first check: the retention decision goes into the payload. -/
def View.sessionPayload (v : View) (study : ResearchStudy) (participant : ResearchParticipant) (today : Date) :
    Except String Payload :=
  let retention := if v.endDate = "" then .ok none else (parseRetentionEndDate v.endDate today).map some
  retention.map (.session study.id participant.id (if v.policy = "" then none else some v.policy))

def View.request (v : View) (today : Date) : Scope → Option (Except String Payload)
  | .study => if v.study = none ∧ v.studyCode ≠ "" then some (.ok (.study v.studyCode)) else none
  | .participant =>
    match v.study, v.participant with
    | some study, none => some (.ok (.participant study.id))
    | _, _ => none
  | .session =>
    match v.study, v.participant, v.session with
    | some study, some participant, none => some (v.sessionPayload study participant today)
    | _, _, _ => none
  | .consent =>
    match v.session with
    | some session =>
      if v.terminal = false ∧ v.receipt ≠ "" ∧ v.version ≠ "" then
        some (.ok (.consent session.id v.receipt v.version))
      else none
    | none => none
  | .withdrawal =>
    match v.session with
    | some session => if v.terminal = false then some (.ok (.withdrawal session.id)) else none
    | none => none
  | .readiness => none
  | .recovery => none

/-- What `String.prototype.trim` removes. -/
def isSpace (c : Char) : Bool :=
  c ∈ [' ', '\t', '\n', '\r', '\u000b', '\u000c', '\u00a0', '\u1680', '\u2028', '\u2029', '\u202f', '\u205f', '\u3000',
    '\ufeff'] ∨ ('\u2000' ≤ c ∧ c ≤ '\u200a')

def trim (text : String) : String :=
  String.ofList ((text.toList.dropWhile isSpace).reverse.dropWhile isSpace).reverse

/-- `savedResearchSessionId` -/
def isSavedSessionId (id : String) : Bool :=
  let rest := id.toList.drop 9
  id.toList.take 9 = "research-".toList ∧ 16 ≤ rest.length ∧ rest.length ≤ 128 ∧
    rest.all fun c => c.isAlphanum || c = '_' || c = '-'

inductive Cause
  | api (status : Nat) (detail : String)
  | other
  deriving DecidableEq

def Cause.status : Cause → Option Nat
  | .api status _ => some status
  | .other => none

def isMissingResearchRoute (cause : Cause) : Bool := decide (cause = .api 404 "Not Found")

def Scope.text : Scope → String
  | .study => "study"
  | .participant => "participant"
  | .session => "session"
  | .consent => "consent"
  | .readiness => "readiness"
  | .recovery => "recovery"
  | .withdrawal => "withdrawal"

/-- `message` -/
def failureMessage (scope : Scope) (action : String) (cause : Cause) : String :=
  match cause.status with
  | some 404 =>
    (if scope = .study then "bản nháp nghiên cứu" else "tài nguyên " ++ scope.text) ++ " không còn tồn tại hoặc đã cũ."
  | some 409 => action ++ ": yêu cầu xung đột; giữ nguyên mã idempotency để đối soát."
  | some 401 => "Phiên người đánh giá đã hết hạn. Vui lòng xác thực lại."
  | _ => action ++ ". Vui lòng thử lại."

/-- `fail` -/
def View.failed (v : View) (scope : Scope) (action : String) (cause : Cause) : View :=
  if scope = .study ∧ isMissingResearchRoute cause then { v with unavailable := true }
  else v.fail scope (failureMessage scope action cause)

def Scope.action : Scope → String
  | .study => "Không thể tạo bản nháp nghiên cứu"
  | .participant => "Không thể tạo mã giả danh"
  | .session => "Không thể khởi tạo phiên nghiên cứu"
  | .consent => "Không thể xác nhận đồng ý"
  | .readiness => "Không thể tải cổng sẵn sàng"
  | .recovery => "Không thể tải trạng thái khôi phục"
  | .withdrawal => "Không thể rút khỏi nghiên cứu"

/-! ## Events -/

inductive Field
  | studyCode
  | policy
  | endDate
  | receipt
  | version
  | savedSessionId
  deriving DecidableEq

inductive Reply
  | failed (cause : Cause)
  | study (value : ResearchStudy)
  | participant (value : ResearchParticipant)
  | session (value : ResearchSession)
  | recovery (value : ResearchRecovery)
  | withdrawal (value : WithdrawalStatus)
  | readiness
  deriving DecidableEq

/-- A `retry` is the link of an error message, which calls the handler of its scope; `restore` is the saved session's
button or link. -/
inductive Event
  | edit (field : Field) (value : String)
  | press (scope : Scope) (today : Date)
  | retry (scope : Scope) (today : Date)
  | restore
  | openWithdrawal
  | closeWithdrawal
  | render
  | answer (index : Nat) (reply : Reply)

def Field.enabled (v : View) : Field → Bool
  | .studyCode => v.study.isNone
  | .policy => v.endDate = "" ∧ v.session = none
  | .endDate => v.policy = "" ∧ v.session = none
  | .receipt => v.session.isSome ∧ v.terminal = false
  | .version => v.session.isSome ∧ v.terminal = false
  | .savedSessionId => v.session.isNone

def Field.put (value : String) (v : View) : Field → View
  | .studyCode => { v with studyCode := value }
  | .policy => { v with policy := value }
  | .endDate => { v with endDate := value }
  | .receipt => { v with receipt := value }
  | .version => { v with version := value }
  | .savedSessionId => { v with savedSessionId := value }

def Scope.pressable (v : View) (scope : Scope) : Bool :=
  v.pending ≠ some scope ∧ (scope = .withdrawal → v.confirmOpen = true)

def Scope.retriable (v : View) (scope : Scope) : Bool :=
  v.error.any (·.scope = scope) ∧ (scope = .readiness ∨ scope = .recovery ∨ scope = .withdrawal → v.session.isSome = true)

namespace Preparation

variable (p : Preparation)

def await (task : Task) : Preparation := { p with tasks := p.tasks ++ [task] }

/-- `loadRecovery`, called in a continuation -/
def loadRecovery (id : String) : Preparation :=
  if id = "" then p
  else (p.set fun v => { v with pending := some .recovery, error := none }).await .loadRecovery

def handle (scope : Scope) (today : Date) : Preparation :=
  match scope with
  | .readiness =>
    if p.shown.session.isNone then p
    else (p.flush fun v => { v with pending := some .readiness, error := none }).await .loadReadiness
  | .recovery =>
    if p.shown.session.all (·.id = "") then p
    else (p.flush fun v => { v with pending := some .recovery, error := none }).await .loadRecovery
  | scope =>
    match p.shown.request today scope with
    | none => p
    | some (.error message) => p.flush (·.fail scope message)
    | some (.ok payload) => p.write payload

def restore : Preparation :=
  let id := trim p.shown.savedSessionId
  if isSavedSessionId id then
    (p.flush fun v => { v with pending := some .recovery, error := none }).await (.restoreRecovery id)
  else p.flush (·.fail .recovery "Mã phiên nghiên cứu đã lưu không hợp lệ.")

/-- The end of `restore`. -/
def restored (restored : ResearchRecovery) (withdrawal : Option WithdrawalStatus) : Preparation :=
  p.set fun v => { v with
    session := some ⟨restored.sessionId, restored.state⟩, recovery := some restored, withdrawal := withdrawal,
    pending := none }

/-- The `catch` and `finally` of a handler. -/
def caught (scope : Scope) (action : String) (cause : Cause) : Preparation :=
  p.set fun v => { v.failed scope action cause with pending := none }

/-- `keys.current.delete(scope)`, then `success(value)`, then the `finally` of `write`. -/
def done (scope : Scope) (success : Preparation → Preparation) : Preparation :=
  (success { p with keys := Function.update p.keys scope none }).set fun v => { v with pending := none }

def resume : Task → Reply → Option Preparation
  | .write payload, .failed cause => some (p.caught payload.scope payload.scope.action cause)
  | .write (.study _), .study value => some (p.done .study (·.set fun v => { v with study := some value }))
  | .write (.participant _), .participant value =>
    some (p.done .participant (·.set fun v => { v with participant := some value }))
  | .write (.session ..), .session value =>
    some (p.done .session fun q => (q.set fun v => { v with session := some value }).loadRecovery value.id)
  | .write (.consent ..), .session value => some (p.done .consent (·.set fun v => { v with session := some value }))
  | .write (.withdrawal sessionId), .withdrawal value =>
    some (p.done .withdrawal fun q =>
      (q.set fun v => { v with withdrawal := some value, confirmOpen := false }).loadRecovery sessionId)
  | .loadRecovery, .failed cause => some (p.caught .recovery Scope.recovery.action cause)
  | .loadRecovery, .recovery value => some (p.set fun v => { v with recovery := some value, pending := none })
  | .loadReadiness, .failed cause => some (p.caught .readiness Scope.readiness.action cause)
  | .loadReadiness, .readiness => some (p.set fun v => { v with pending := none })
  | .restoreRecovery id, .recovery value =>
    if value.sessionId ≠ id then some (p.caught .recovery "Không thể khôi phục phiên nghiên cứu đã lưu" .other)
    else some (p.await (.restoreReadiness value))
  | .restoreReadiness value, .readiness =>
    if value.state = .withdrawn then some (p.await (.restoreWithdrawal value)) else some (p.restored value none)
  | .restoreWithdrawal value, .withdrawal status =>
    if status.terminal then some (p.restored value (some status))
    else some (p.caught .recovery "Không thể khôi phục phiên nghiên cứu đã lưu" .other)
  | .restoreRecovery _, .failed cause
  | .restoreReadiness _, .failed cause
  | .restoreWithdrawal _, .failed cause =>
    some (p.caught .recovery "Không thể khôi phục phiên nghiên cứu đã lưu" cause)
  | _, _ => none

def event : Event → Preparation
  | .render => { p with shown := p.view }
  | .answer index reply =>
    match p.tasks[index]? with
    | none => p
    | some task => (resume { p with tasks := p.tasks.eraseIdx index } task reply).getD p
  | e =>
    if p.shown.unavailable then p
    else
      match e with
      | .edit field value => if field.enabled p.shown then p.flush (field.put value) else p
      | .press scope today => if scope.pressable p.shown then p.handle scope today else p
      | .retry scope today => if scope.retriable p.shown then p.handle scope today else p
      | .restore =>
        if p.shown.error.any (·.scope = .recovery) ∨
            p.shown.session = none ∧ trim p.shown.savedSessionId ≠ "" ∧ p.shown.pending ≠ some .recovery then
          p.restore
        else p
      | .openWithdrawal =>
        if p.shown.session.isSome ∧ p.shown.terminal = false then p.flush fun v => { v with confirmOpen := true } else p
      | .closeWithdrawal => p.flush fun v => { v with confirmOpen := false }
      | _ => p

end Preparation

def preparation : System Preparation Event := ofFun (· = {}) Preparation.event

end PduExamObserver.Web
