import Mathlib.Algebra.Order.Field.Rat
import Mathlib.Data.List.Nodup
import Mathlib.Tactic.NormNum
import PduExamObserver.Library.Transition

/-! # The reviewer's bearer

The bearer that `M0Backend` issues, checks and revokes. Clocks are read exactly; a token is hashed by a parameter. -/

namespace PduExamObserver.Services
open Transition
set_option autoImplicit false

def reviewerBearerTtlSeconds : Rat := 2 * 60 * 60

abbrev Reading := Option Rat

/-- Which of the callbacks raise, if they are called: the revocation, the audit of the end, and that of the login. -/
structure Faults where
  revocation : Bool := false
  audit : Bool := false
  login : Bool := false

/-- `_reviewer_token_digest` and the fields after it. `revoked` and `generated` are not in the source: they keep the
digests that were passed to the callback, and the tokens with the times they were issued at. -/
structure BearerState (Token Digest : Type) where
  digest : Option Digest := none
  issuedAt : Option Rat := none
  expiry : Option Rat := none
  monotonicIssued : Option Rat := none
  monotonicExpiry : Option Rat := none
  registered : Bool := false
  revoked : List Digest := []
  generated : List (Token × Rat × Rat) := []

variable {Token Digest : Type}

namespace BearerState

/-- `_clear_reviewer_token`. -/
def clear (s : BearerState Token Digest) : BearerState Token Digest :=
  { s with digest := none, issuedAt := none, expiry := none, monotonicIssued := none, monotonicExpiry := none }

/-- `_invalidate_reviewer_session`, and whether it raises. -/
def invalidate (s : BearerState Token Digest) (faults : Faults) : Bool × BearerState Token Digest :=
  match s.digest with
  | none => (false, s.clear)
  | some digest =>
    ((s.registered && faults.revocation) || faults.audit,
      { s.clear with revoked := if s.registered then s.revoked ++ [digest] else s.revoked })

def withToken (hash : Token → Digest) (s : BearerState Token Digest) (token : Token) (now monotonicNow : Rat) :
    BearerState Token Digest :=
  { s with
    digest := some (hash token)
    issuedAt := some now
    expiry := some (now + reviewerBearerTtlSeconds)
    monotonicIssued := some monotonicNow
    monotonicExpiry := some (monotonicNow + reviewerBearerTtlSeconds)
    generated := s.generated ++ [(token, now, monotonicNow)] }

/-- `issue_reviewer_token`, which draws `token`; nothing is returned if it raises. -/
def issue (hash : Token → Digest) (s : BearerState Token Digest) (token : Token) (wall monotonic : Reading)
    (faults : Faults) : Option Token × BearerState Token Digest :=
  match wall, monotonic with
  | some now, some monotonicNow =>
    if (s.invalidate faults).1 then (none, (s.invalidate faults).2)
    else (if faults.login then none else some token, (s.invalidate faults).2.withToken hash token now monotonicNow)
  | _, _ => (none, (s.invalidate faults).2)

def inTime (wall monotonic : Reading) (issuedAt expiry monotonicIssued monotonicExpiry : Rat) : Bool :=
  match wall, monotonic with
  | some now, some monotonicNow =>
    ¬ (monotonicNow < monotonicIssued ∨ monotonicExpiry ≤ monotonicNow ∨ now < issuedAt ∨ expiry ≤ now)
  | _, _ => false

variable [DecidableEq Digest] (hash : Token → Digest)

/-- `reviewer_expiry`; the outer option is none if it raises. -/
def reviewerExpiry (s : BearerState Token Digest) (token : Option Token) (wall monotonic : Reading) (faults : Faults) :
    Option (Option Rat) × BearerState Token Digest :=
  match s.expiry, s.digest, s.issuedAt, s.monotonicIssued, s.monotonicExpiry with
  | some expiry, some digest, some issuedAt, some monotonicIssued, some monotonicExpiry =>
    if inTime wall monotonic issuedAt expiry monotonicIssued monotonicExpiry then
      (some (if token.map hash = some digest then some expiry else none), s)
    else (if (s.invalidate faults).1 then none else some none, (s.invalidate faults).2)
  | _, _, _, _, _ => (some none, s)

/-- `is_reviewer`, of a call that returns. -/
def Accepts (s : BearerState Token Digest) (token : Token) (wall monotonic : Reading) (faults : Faults) : Prop :=
  ∃ expiry, (reviewerExpiry hash s (some token) wall monotonic faults).1 = some (some expiry)

/-- `revoke_reviewer_token`. -/
def revoke (s : BearerState Token Digest) (token : Option Token) (faults : Faults) : BearerState Token Digest :=
  if token ≠ none ∧ s.digest ≠ none ∧ token.map hash = s.digest then (s.invalidate faults).2 else s

end BearerState

inductive BearerCall (Token : Type) where
  | register
  | issue (token : Token) (wall monotonic : Reading) (faults : Faults)
  | check (token : Option Token) (wall monotonic : Reading) (faults : Faults)
  | revoke (token : Option Token) (faults : Faults)

namespace BearerState

variable (hash : Token → Digest)

def call [DecidableEq Digest] (s : BearerState Token Digest) : BearerCall Token → BearerState Token Digest
  | .register => { s with registered := true }
  | .issue token wall monotonic faults => (s.issue hash token wall monotonic faults).2
  | .check token wall monotonic faults => (s.reviewerExpiry hash token wall monotonic faults).2
  | .revoke token faults => s.revoke hash token faults

def tokens (s : BearerState Token Digest) : List Token := s.generated.map (·.1)

def Fresh (s : BearerState Token Digest) : BearerCall Token → Prop
  | .issue token _ _ _ => token ∉ s.tokens
  | _ => True

def system [DecidableEq Digest] : System (BearerState Token Digest) (BearerCall Token) where
  init s := s = {}
  step s a t := s.Fresh a ∧ s.call hash a = t

variable {hash} {s t : BearerState Token Digest} {token : Token}

/-! ## One call -/

inductive Bears (hash : Token → Digest) (s : BearerState Token Digest) : Prop where
  | nothing (digest : s.digest = none)
  | last (token : Token) (now monotonicNow : Rat) (generated : s.generated.getLast? = some (token, now, monotonicNow))
      (digest : s.digest = some (hash token)) (issuedAt : s.issuedAt = some now)
      (expiry : s.expiry = some (now + reviewerBearerTtlSeconds)) (monotonicIssued : s.monotonicIssued = some monotonicNow)
      (monotonicExpiry : s.monotonicExpiry = some (monotonicNow + reviewerBearerTtlSeconds))
      (unrevoked : hash token ∉ s.revoked)

structure Kept (hash : Token → Digest) (s : BearerState Token Digest) : Prop where
  bears : s.Bears hash
  fresh : s.tokens.Nodup
  once : s.revoked.Nodup
  known : ∀ digest ∈ s.revoked, ∃ token ∈ s.tokens, hash token = digest

theorem invalidate_digest (faults : Faults) : (s.invalidate faults).2.digest = none := by
  unfold invalidate
  split <;> rfl

theorem invalidate_generated (faults : Faults) : (s.invalidate faults).2.generated = s.generated := by
  unfold invalidate
  split <;> rfl

theorem invalidate_revoked (faults : Faults) : (s.invalidate faults).2.revoked = s.revoked ∨
    ∃ digest, s.digest = some digest ∧ (s.invalidate faults).2.revoked = s.revoked ++ [digest] := by
  unfold invalidate
  cases hdigest : s.digest with
  | none => exact .inl rfl
  | some digest =>
    cases hregistered : s.registered with
    | false => exact .inl rfl
    | true => exact .inr ⟨digest, rfl, rfl⟩

theorem mem_tokens_of_last {now monotonicNow : Rat} (h : s.generated.getLast? = some (token, now, monotonicNow)) :
    token ∈ s.tokens :=
  List.mem_map_of_mem (f := Prod.fst) (List.mem_of_getLast? h)

theorem Kept.invalidated (hs : s.Kept hash) (faults : Faults) : (s.invalidate faults).2.Kept hash := by
  have htokens : (s.invalidate faults).2.tokens = s.tokens := by rw [tokens, invalidate_generated, tokens]
  have hbears : (s.invalidate faults).2.Bears hash := .nothing (invalidate_digest faults)
  obtain hsame | ⟨digest, hdigest, hrevoked⟩ := invalidate_revoked (s := s) faults
  · exact ⟨hbears, htokens ▸ hs.fresh, hsame ▸ hs.once, by rw [hsame, htokens]; exact hs.known⟩
  · obtain hnone | ⟨token, now, monotonicNow, hlast, hhash, -, -, -, -, hunrevoked⟩ := hs.bears
    · rw [hdigest] at hnone
      cases hnone
    · obtain rfl := Option.some.inj (hdigest.symm.trans hhash)
      refine ⟨hbears, htokens ▸ hs.fresh, ?_, ?_⟩
      · rw [hrevoked, List.nodup_append]
        refine ⟨hs.once, List.nodup_singleton _, ?_⟩
        rintro a ha b hb rfl
        exact hunrevoked (List.mem_singleton.mp hb ▸ ha)
      · rw [hrevoked, htokens]
        intro other hmem
        obtain hmem | hmem := List.mem_append.mp hmem
        · exact hs.known other hmem
        · exact ⟨token, mem_tokens_of_last hlast, (List.mem_singleton.mp hmem).symm⟩

theorem Kept.issued (hhash : Function.Injective hash) (hs : s.Kept hash) (hfresh : token ∉ s.tokens)
    (now monotonicNow : Rat) : (s.withToken hash token now monotonicNow).Kept hash := by
  have hunrevoked : hash token ∉ s.revoked := by
    intro hmem
    obtain ⟨other, hother, heq⟩ := hs.known _ hmem
    exact hfresh (hhash heq ▸ hother)
  have htokens : (s.withToken hash token now monotonicNow).tokens = s.tokens ++ [token] := by
    simp [tokens, withToken]
  refine ⟨.last token now monotonicNow List.getLast?_concat rfl rfl rfl rfl rfl hunrevoked, ?_, hs.once, ?_⟩
  · rw [htokens, List.nodup_append]
    refine ⟨hs.fresh, List.nodup_singleton _, ?_⟩
    rintro a ha b hb rfl
    exact hfresh (List.mem_singleton.mp hb ▸ ha)
  · intro digest hmem
    obtain ⟨other, hother, heq⟩ := hs.known digest hmem
    exact ⟨other, htokens ▸ List.mem_append_left _ hother, heq⟩

theorem call_cases [DecidableEq Digest] (hash : Token → Digest) (s : BearerState Token Digest) (a : BearerCall Token) :
    ((s.call hash a).digest = s.digest ∧ (s.call hash a).generated = s.generated ∧
      (s.Kept hash → (s.call hash a).Kept hash) ∧ ∀ token wall monotonic faults, a ≠ .issue token wall monotonic faults) ∨
    (∃ faults, s.call hash a = (s.invalidate faults).2) ∨
    ∃ token now monotonicNow faults, a = .issue token (some now) (some monotonicNow) faults ∧
      s.call hash a = (s.invalidate faults).2.withToken hash token now monotonicNow := by
  cases a with
  | register =>
    refine .inl ⟨rfl, rfl, fun h => ⟨?_, h.fresh, h.once, h.known⟩, by simp⟩
    obtain hnone | ⟨token, now, monotonicNow, h, h', h'', hexpiry, hmonotonic, hend, hunrevoked⟩ := h.bears
    · exact .nothing hnone
    · exact .last token now monotonicNow h h' h'' hexpiry hmonotonic hend hunrevoked
  | issue token wall monotonic faults =>
    right
    dsimp only [call]
    unfold issue
    split
    · split
      · exact .inl ⟨faults, rfl⟩
      · exact .inr ⟨token, _, _, faults, rfl, rfl⟩
    · exact .inl ⟨faults, rfl⟩
  | check token wall monotonic faults =>
    dsimp only [call]
    unfold reviewerExpiry
    split
    · split
      · exact .inl ⟨rfl, rfl, id, by simp⟩
      · exact .inr (.inl ⟨faults, rfl⟩)
    · exact .inl ⟨rfl, rfl, id, by simp⟩
  | revoke token faults =>
    dsimp only [call]
    unfold revoke
    split_ifs
    · exact .inr (.inl ⟨faults, rfl⟩)
    · exact .inl ⟨rfl, rfl, id, by simp⟩

variable [DecidableEq Digest]

theorem kept_step (hhash : Function.Injective hash) {a : BearerCall Token} (hs : s.Kept hash)
    (h : (system hash).step s a t) : t.Kept hash := by
  obtain ⟨hfresh, rfl⟩ := h
  obtain ⟨-, -, hkept, -⟩ | ⟨faults, heq⟩ | ⟨token, now, monotonicNow, faults, rfl, heq⟩ := call_cases hash s a
  · exact hkept hs
  · exact heq ▸ hs.invalidated faults
  · rw [heq]
    refine (hs.invalidated faults).issued hhash ?_ now monotonicNow
    rw [tokens, invalidate_generated]
    exact hfresh

theorem kept_of_reachable (hhash : Function.Injective hash) (h : Reachable (system hash) s) : s.Kept hash := by
  refine h.invariant ?_ fun s a t hs _ hstep => kept_step hhash hs hstep
  rintro s rfl
  exact ⟨.nothing rfl, List.nodup_nil, List.nodup_nil, by simp⟩

/-! ## What is accepted -/

def Over (hash : Token → Digest) (token : Token) (s : BearerState Token Digest) : Prop :=
  token ∈ s.tokens ∧ s.digest ≠ some (hash token)

theorem over_step (hhash : Function.Injective hash) {a : BearerCall Token} (hs : s.Over hash token)
    (h : (system hash).step s a t) : t.Over hash token := by
  obtain ⟨hfresh, rfl⟩ := h
  obtain ⟨hmem, hdigest⟩ := hs
  unfold Over tokens
  obtain ⟨hsame, hgenerated, -⟩ | ⟨faults, heq⟩ | ⟨other, now, monotonicNow, faults, rfl, heq⟩ :=
    call_cases hash s a
  · rw [hsame, hgenerated]
    exact ⟨hmem, hdigest⟩
  · rw [heq, invalidate_digest, invalidate_generated]
    exact ⟨hmem, by simp⟩
  · rw [heq]
    refine ⟨?_, fun hnew => ?_⟩
    · dsimp only [withToken]
      rw [invalidate_generated, List.map_append]
      exact List.mem_append_left _ hmem
    · obtain rfl : other = token := hhash (Option.some.inj hnew)
      exact hfresh hmem

theorem accepts_iff (hs : s.Kept hash) {wall monotonic : Reading} {faults : Faults} :
    s.Accepts hash token wall monotonic faults ↔ s.digest = some (hash token) ∧
      ∃ issued monotonicIssued now monotonicNow other, s.generated.getLast? = some (other, issued, monotonicIssued) ∧
        hash other = hash token ∧ wall = some now ∧ monotonic = some monotonicNow ∧
        issued ≤ now ∧ now < issued + reviewerBearerTtlSeconds ∧
        monotonicIssued ≤ monotonicNow ∧ monotonicNow < monotonicIssued + reviewerBearerTtlSeconds := by
  unfold Accepts reviewerExpiry
  obtain hnone | ⟨other, issued, monotonicIssued, hlast, hdigest, hissued, hexpiry, hmonotonic, hend, -⟩ := hs.bears
  · rw [hnone]
    cases s.expiry <;> simp
  · rw [hdigest, hissued, hexpiry, hmonotonic, hend, hlast]
    dsimp only
    unfold inTime
    cases wall with
    | none => cases hfault : (s.invalidate faults).1 <;> simp
    | some now =>
      cases monotonic with
      | none => cases hfault : (s.invalidate faults).1 <;> simp
      | some monotonicNow =>
        simp only [Option.map_some, Option.some.injEq]
        split_ifs with hlive htoken hfault
        · simp only [decide_eq_true_eq, not_or, not_lt, not_le] at hlive
          simp only [Option.some.injEq, exists_eq', htoken, true_iff, true_and]
          exact ⟨issued, monotonicIssued, now, monotonicNow, other, rfl, rfl, rfl, rfl, hlive.2.2.1, hlive.2.2.2,
            hlive.1, hlive.2.1⟩
        · simp [Ne.symm htoken]
        all_goals
          simp only [decide_eq_true_eq, not_or, not_lt, not_le] at hlive
          constructor
          · rintro ⟨expiry, h⟩
            cases h
          · rintro ⟨-, _, _, _, _, _, h, -, h', h'', hin⟩
            cases h
            cases h'
            cases h''
            exact absurd ⟨hin.2.2.1, hin.2.2.2, hin.1, hin.2.1⟩ hlive

def Ends (hash : Token → Digest) (s : BearerState Token Digest) (token : Token) : BearerCall Token → Prop
  | .register => False
  | .issue _ _ _ _ => True
  | .check candidate wall monotonic faults => candidate = some token ∧ ¬ s.Accepts hash token wall monotonic faults
  | .revoke candidate _ => candidate = some token

theorem over_of_ends (hhash : Function.Injective hash) (hs : s.Kept hash) {a : BearerCall Token} (hmem : token ∈ s.tokens)
    (hends : s.Ends hash token a) (h : (system hash).step s a t) : t.Over hash token := by
  by_cases hdigest : s.digest = some (hash token)
  · obtain ⟨hfresh, rfl⟩ := h
    suffices hinvalidated : ∃ faults, s.call hash a = (s.invalidate faults).2 ∨
        ∃ other now monotonicNow, other ∉ s.tokens ∧
          s.call hash a = (s.invalidate faults).2.withToken hash other now monotonicNow by
      obtain ⟨faults, heq | ⟨other, now, monotonicNow, hnew, heq⟩⟩ := hinvalidated
      · rw [heq]
        unfold Over tokens
        rw [invalidate_digest, invalidate_generated]
        exact ⟨hmem, by simp⟩
      · rw [heq]
        refine ⟨?_, fun hsame => ?_⟩
        · unfold tokens withToken
          rw [invalidate_generated, List.map_append]
          exact List.mem_append_left _ hmem
        · obtain rfl : other = token := hhash (Option.some.inj hsame)
          exact hnew hmem
    obtain ⟨-, -, -, hother⟩ | ⟨faults, heq⟩ | ⟨other, now, monotonicNow, faults, rfl, heq⟩ :=
      call_cases hash s a
    · cases a with
      | register => exact hends.elim
      | issue other wall monotonic faults => exact absurd rfl (hother other wall monotonic faults)
      | check candidate wall monotonic faults =>
        -- the session lasts, so only the clocks can have been wrong
        obtain ⟨rfl, hrejected⟩ := hends
        refine ⟨faults, .inl ?_⟩
        unfold Accepts at hrejected
        dsimp only [call]
        unfold reviewerExpiry at hrejected ⊢
        obtain hnone | ⟨last, now, monotonicNow, -, hlast, hissued, hexpiry, hmonotonic, hend, -⟩ := hs.bears
        · rw [hdigest] at hnone
          cases hnone
        · rw [hexpiry, hdigest, hissued, hmonotonic, hend] at hrejected ⊢
          dsimp only at hrejected ⊢
          split_ifs at hrejected ⊢ with hlive htoken
          · exact absurd ⟨_, rfl⟩ hrejected
          · exact absurd rfl htoken
          all_goals rfl
      | revoke candidate faults =>
        obtain rfl := hends
        refine ⟨faults, .inl ?_⟩
        dsimp only [call]
        unfold revoke
        rw [if_pos ⟨by simp, by simp [hdigest], by simp [hdigest]⟩]
    · exact ⟨faults, .inl heq⟩
    · exact ⟨faults, .inr ⟨other, now, monotonicNow, hfresh, heq⟩⟩
  · exact over_step hhash ⟨hmem, hdigest⟩ h

/-- Whatever the clocks and the callbacks do: only the bearer that was issued last is accepted, while both clocks are finite
and within its life; once it is rejected, replaced or revoked it is never accepted again; and a digest is passed to the
revocation at most once. -/
theorem bearer_lifetime (hhash : Function.Injective hash) (h : Reachable (system hash) s) :
    (∀ token wall monotonic faults, s.Accepts hash token wall monotonic faults →
      ∃ issued monotonicIssued now monotonicNow, s.generated.getLast? = some (token, issued, monotonicIssued) ∧
        wall = some now ∧ monotonic = some monotonicNow ∧ issued ≤ now ∧ now < issued + reviewerBearerTtlSeconds ∧
        monotonicIssued ≤ monotonicNow ∧ monotonicNow < monotonicIssued + reviewerBearerTtlSeconds) ∧
    (∀ token a t u, token ∈ s.tokens → s.Ends hash token a → (system hash).step s a t → Later (system hash) t u →
      ∀ wall monotonic faults, ¬ u.Accepts hash token wall monotonic faults) ∧
    s.revoked.Nodup := by
  have hs := kept_of_reachable hhash h
  refine ⟨?_, ?_, hs.once⟩
  · intro token wall monotonic faults haccepts
    obtain ⟨-, issued, monotonicIssued, now, monotonicNow, other, hlast, hsame, hin⟩ := (accepts_iff hs).mp haccepts
    obtain rfl := hhash hsame
    exact ⟨issued, monotonicIssued, now, monotonicNow, hlast, hin⟩
  · intro token a t u hmem hends hstep hlater wall monotonic faults haccepts
    have hover := over_of_ends hhash hs hmem hends hstep
    have hreached := hlater.reachable (h.next hstep)
    have hstays := hlater.preserves (fun _ _ _ hover hstep => over_step hhash hover hstep) hover
    exact hstays.2 ((accepts_iff (kept_of_reachable hhash hreached)).mp haccepts).1

theorem bearer_lifetime_issued : ¬ (({} : BearerState Nat Nat).call id (.issue 5 (some 0) (some 0) {})).Accepts id 5
    (some 7200) (some 1) {} := by
  intro haccepts
  have hreached : Reachable (system id) (({} : BearerState Nat Nat).call id (.issue 5 (some 0) (some 0) {})) :=
    Reachable.next (.init rfl) ⟨by simp [Fresh, tokens], rfl⟩
  have h := bearer_lifetime Function.injective_id hreached
  obtain ⟨issued, _, now, _, hlast, hwall, -, -, hnow, -⟩ := h.1 5 (some 7200) (some 1) {} haccepts
  cases hwall
  obtain ⟨-, rfl, -⟩ : 5 = 5 ∧ 0 = issued ∧ _ := by simpa [call, issue, invalidate, clear, withToken] using hlast
  norm_num [reviewerBearerTtlSeconds] at hnow

end BearerState
end PduExamObserver.Services
