import Mathlib.Algebra.Order.Floor.Ring
import PduExamObserver.Library.Binary64

/-! # The reviewer's PIN

`ReviewerAuthenticator`, with the comparison of the `scrypt` hashes as a parameter. Times are floats. -/

namespace PduExamObserver.Services
open Rounding
set_option autoImplicit false

structure LoginResult where
  accepted : Bool
  retryAfter : Option Int := none

structure ReviewerAuthenticator (Client : Type) where
  maxFailures : Nat := 5
  cooldownSeconds : Nat := 60
  failures : Client → Option (Nat × Rat) := fun _ => none

structure LoginCall (Client Pin : Type) where
  pin : Pin
  client : Client
  now : Rat
  isFloat : toFloat now = now

variable {Client Pin : Type}

namespace ReviewerAuthenticator

def attempts (auth : ReviewerAuthenticator Client) (client : Client) : Nat := ((auth.failures client).getD (0, 0)).1

def blockedUntil (auth : ReviewerAuthenticator Client) (client : Client) : Rat := ((auth.failures client).getD (0, 0)).2

def Compares (auth : ReviewerAuthenticator Client) (call : LoginCall Client Pin) : Prop :=
  auth.blockedUntil call.client ≤ call.now

instance (auth : ReviewerAuthenticator Client) (call : LoginCall Client Pin) : Decidable (auth.Compares call) :=
  inferInstanceAs (Decidable (_ ≤ _))

def cooldown (auth : ReviewerAuthenticator Client) : Rat := toFloat auth.cooldownSeconds

/-- `monotonic_now + self.cooldown_seconds`. -/
def deadline (auth : ReviewerAuthenticator Client) (now : Rat) : Rat := toFloat (now + auth.cooldown)

/-- The cooldown without what rounding can take of it at times up to `latest`. -/
def leastCooldown (auth : ReviewerAuthenticator Client) (latest : Rat) : Rat :=
  auth.cooldown - (latest + auth.cooldown) / 2 ^ 53

theorem cooldown_nonneg (auth : ReviewerAuthenticator Client) : 0 ≤ auth.cooldown := by
  rw [← toFloat_zero]
  exact toFloat_mono (Nat.cast_nonneg _)

theorem le_deadline (auth : ReviewerAuthenticator Client) (call : LoginCall Client Pin) : call.now ≤ auth.deadline call.now := by
  have hle := toFloat_mono (le_add_of_nonneg_right auth.cooldown_nonneg : call.now ≤ call.now + auth.cooldown)
  rwa [call.isFloat] at hle

theorem leastCooldown_le (auth : ReviewerAuthenticator Client) {now latest : Rat} (h : |now| ≤ latest) :
    now + auth.leastCooldown latest ≤ auth.deadline now := by
  have hnear := (abs_le.mp (toFloat_near (now + auth.cooldown))).1
  have hsum : |now + auth.cooldown| ≤ latest + auth.cooldown :=
    (abs_add_le _ _).trans (add_le_add h (abs_of_nonneg auth.cooldown_nonneg).le)
  have hscaled := div_le_div_of_nonneg_right hsum (by norm_num : (0 : Rat) ≤ 2 ^ 53)
  unfold leastCooldown deadline
  linarith

variable [DecidableEq Client] (correct : Pin → Bool)

/-- `authenticate`; `correct` compares the hashes. -/
def authenticate (auth : ReviewerAuthenticator Client) (call : LoginCall Client Pin) :
    LoginResult × ReviewerAuthenticator Client :=
  if ¬ auth.Compares call then (⟨false, some (max 1 ⌈toFloat (auth.blockedUntil call.client - call.now)⌉)⟩, auth)
  else if correct call.pin then
    (⟨true, none⟩, { auth with failures := Function.update auth.failures call.client none })
  else
    let attempts := auth.attempts call.client + 1
    if attempts ≥ auth.maxFailures then
      (⟨false, some auth.cooldownSeconds⟩, { auth with
        failures := Function.update auth.failures call.client (some (attempts, auth.deadline call.now)) })
    else
      (⟨false, none⟩, { auth with failures := Function.update auth.failures call.client (some (attempts, 0)) })

def trace : ReviewerAuthenticator Client → List (LoginCall Client Pin) →
    List (ReviewerAuthenticator Client × LoginCall Client Pin)
  | _, [] => []
  | auth, call :: calls => (auth, call) :: trace (authenticate correct auth call).2 calls

def comparisons (auth : ReviewerAuthenticator Client) (calls : List (LoginCall Client Pin)) (client : Client)
    (first last : Rat) : Nat :=
  (trace correct auth calls).countP fun entry =>
    entry.2.client = client ∧ first ≤ entry.2.now ∧ entry.2.now ≤ last ∧ entry.1.Compares entry.2

variable {correct} {auth : ReviewerAuthenticator Client} {call : LoginCall Client Pin} {client : Client} {first length : Rat}

/-! ## One call -/

theorem authenticate_limits (correct : Pin → Bool) (auth : ReviewerAuthenticator Client) (call : LoginCall Client Pin) :
    (authenticate correct auth call).2.maxFailures = auth.maxFailures ∧
    (authenticate correct auth call).2.cooldownSeconds = auth.cooldownSeconds := by
  unfold authenticate
  dsimp only
  split_ifs <;> exact ⟨rfl, rfl⟩

theorem authenticate_other (correct : Pin → Bool) (auth : ReviewerAuthenticator Client) (h : call.client ≠ client) :
    (authenticate correct auth call).2.failures client = auth.failures client := by
  unfold authenticate
  dsimp only
  split_ifs
  · exact Function.update_of_ne h.symm _ _
  · exact Function.update_of_ne h.symm _ _
  · exact Function.update_of_ne h.symm _ _
  · rfl

theorem authenticate_refused (h : ¬ auth.Compares call) : (authenticate correct auth call).2 = auth := by
  unfold authenticate
  rw [if_pos h]

theorem authenticate_wrong (hcompares : auth.Compares call) (hwrong : correct call.pin = false) :
    (authenticate correct auth call).2.failures call.client =
      some (auth.attempts call.client + 1,
        if auth.attempts call.client + 1 ≥ auth.maxFailures then auth.deadline call.now else 0) := by
  unfold authenticate
  rw [if_neg (not_not.mpr hcompares), hwrong]
  dsimp only
  rw [if_neg Bool.false_ne_true]
  split_ifs <;> exact Function.update_self _ _ _

/-! ## Windows -/

theorem comparisons_cons (calls : List (LoginCall Client Pin)) (last : Rat) :
    comparisons correct auth (call :: calls) client first last =
      comparisons correct (authenticate correct auth call).2 calls client first last +
        if call.client = client ∧ first ≤ call.now ∧ call.now ≤ last ∧ auth.Compares call then 1 else 0 := by
  unfold comparisons
  rw [trace, List.countP_cons]
  simp only [decide_eq_true_eq]

/-- No deadline in a window comes sooner than `cooldown` after its call. -/
def Spaced (auth : ReviewerAuthenticator Client) (calls : List (LoginCall Client Pin)) (client : Client)
    (first length cooldown : Rat) : Prop :=
  ∀ call ∈ calls, call.client = client → first ≤ call.now → call.now ≤ first + length →
    call.now + cooldown ≤ auth.deadline call.now

theorem Spaced.tail {calls : List (LoginCall Client Pin)} {cooldown : Rat}
    (h : Spaced auth (call :: calls) client first length cooldown) (correct : Pin → Bool) :
    Spaced (authenticate correct auth call).2 calls client first length cooldown := by
  intro later hmem hclient hfirst hlast
  rw [deadline, ReviewerAuthenticator.cooldown, (authenticate_limits correct auth call).2]
  exact h later (List.mem_cons_of_mem _ hmem) hclient hfirst hlast

def cooldownsLeft (cooldown first length blocked : Rat) : Int := ⌊(first + length - max first blocked) / cooldown⌋

theorem cooldownsLeft_anti {cooldown : Rat} (hpos : 0 < cooldown) (first length : Rat) {blocked later : Rat}
    (h : blocked ≤ later) : cooldownsLeft cooldown first length later ≤ cooldownsLeft cooldown first length blocked := by
  apply Int.floor_mono
  have hmax : max first blocked ≤ max first later := max_le_max_left first h
  exact div_le_div_of_nonneg_right (by linarith) hpos.le

theorem cooldownsLeft_le {cooldown : Rat} (hpos : 0 < cooldown) (first length blocked : Rat) :
    cooldownsLeft cooldown first length blocked ≤ ⌊length / cooldown⌋ := by
  apply Int.floor_mono
  have hmax : first ≤ max first blocked := le_max_left first blocked
  exact div_le_div_of_nonneg_right (by linarith) hpos.le

theorem cooldownsLeft_after {cooldown now later : Rat} (hpos : 0 < cooldown) (hfirst : first ≤ now)
    (hlast : now ≤ first + length) (hlater : now + cooldown ≤ later) : cooldownsLeft cooldown first length later + 1 ≤
      cooldownsLeft cooldown first length now ∧ 0 ≤ cooldownsLeft cooldown first length now := by
  constructor
  · refine (Int.add_le_add_right (cooldownsLeft_anti hpos first length hlater) 1).trans (le_of_eq ?_)
    unfold cooldownsLeft
    rw [max_eq_right hfirst, max_eq_right (by linarith), ← Int.floor_add_one]
    congr 1
    field_simp
    ring
  · unfold cooldownsLeft
    rw [max_eq_right hfirst]
    exact Int.floor_nonneg.mpr (div_nonneg (by linarith) hpos.le)

theorem comparisons_blocked (auth : ReviewerAuthenticator Client) {cooldown : Rat} (hpos : 0 < cooldown)
    {calls : List (LoginCall Client Pin)} (hspaced : Spaced auth calls client first length cooldown)
    (hwrong : ∀ call ∈ calls, call.client = client → correct call.pin = false)
    (hused : auth.maxFailures ≤ auth.attempts client) :
    comparisons correct auth calls client first (first + length) ≤
      (cooldownsLeft cooldown first length (auth.blockedUntil client) + 1).toNat := by
  induction calls generalizing auth with
  | nil => exact Nat.zero_le _
  | cons call calls ih =>
    rw [comparisons_cons]
    have hrest : ∀ call ∈ calls, call.client = client → correct call.pin = false :=
      fun call hmem => hwrong call (List.mem_cons_of_mem _ hmem)
    obtain ⟨hmax, -⟩ := authenticate_limits correct auth call
    by_cases hclient : call.client = client
    · by_cases hcompares : auth.Compares call
      · have hentry := authenticate_wrong hcompares (hwrong call List.mem_cons_self hclient)
        rw [hclient, if_pos (by omega)] at hentry
        have hnext := ih (authenticate correct auth call).2 (hspaced.tail correct) hrest
          (by rw [hmax, attempts, hentry, Option.getD_some]; omega)
        rw [blockedUntil, hentry, Option.getD_some] at hnext
        dsimp only at hnext
        have hafter : auth.blockedUntil client ≤ call.now := hclient ▸ hcompares
        split_ifs with hinside
        · obtain ⟨hleft, hnonneg⟩ := cooldownsLeft_after hpos hinside.2.1 hinside.2.2.1
            (hspaced call List.mem_cons_self hclient hinside.2.1 hinside.2.2.1)
          have hle := cooldownsLeft_anti hpos first length hafter
          omega
        · have hle := cooldownsLeft_anti hpos first length (hafter.trans (le_deadline auth call))
          omega
      · rw [authenticate_refused hcompares, if_neg fun h => hcompares h.2.2.2]
        exact ih auth (authenticate_refused hcompares ▸ hspaced.tail correct) hrest hused
    · rw [if_neg fun h => hclient h.1]
      have hentry := authenticate_other correct auth hclient
      have hnext := ih (authenticate correct auth call).2 (hspaced.tail correct) hrest
        (by rw [hmax, attempts, hentry]; exact hused)
      rw [blockedUntil, hentry] at hnext
      exact hnext

theorem comparisons_le {cooldown : Rat} (hpos : 0 < cooldown) (hlength : 0 ≤ length) {calls : List (LoginCall Client Pin)}
    (hspaced : Spaced auth calls client first length cooldown)
    (hwrong : ∀ call ∈ calls, call.client = client → correct call.pin = false)
    (hleft : auth.attempts client < auth.maxFailures) :
    (comparisons correct auth calls client first (first + length) : Int) ≤
      auth.maxFailures - auth.attempts client + ⌊length / cooldown⌋ := by
  have hfloor : 0 ≤ ⌊length / cooldown⌋ := Int.floor_nonneg.mpr (div_nonneg hlength hpos.le)
  induction calls generalizing auth with
  | nil =>
    have hzero : comparisons correct auth ([] : List (LoginCall Client Pin)) client first (first + length) = 0 := rfl
    omega
  | cons call calls ih =>
    rw [comparisons_cons]
    have hrest : ∀ call ∈ calls, call.client = client → correct call.pin = false :=
      fun call hmem => hwrong call (List.mem_cons_of_mem _ hmem)
    obtain ⟨hmax, -⟩ := authenticate_limits correct auth call
    by_cases hclient : call.client = client
    · by_cases hcompares : auth.Compares call
      · have hentry := authenticate_wrong hcompares (hwrong call List.mem_cons_self hclient)
        rw [hclient] at hentry
        have hattempts : (authenticate correct auth call).2.attempts client = auth.attempts client + 1 := by
          rw [attempts, hentry, Option.getD_some]
        by_cases hlast : auth.attempts client + 1 ≥ auth.maxFailures
        · -- the last failure that is allowed: from here on the cooldowns count
          rw [if_pos hlast] at hentry
          have hnext := comparisons_blocked (authenticate correct auth call).2 hpos (hspaced.tail correct) hrest
            (by rw [hmax, hattempts]; exact hlast)
          rw [blockedUntil, hentry, Option.getD_some] at hnext
          dsimp only at hnext
          split_ifs with hinside
          · obtain ⟨hused, hnonneg⟩ := cooldownsLeft_after hpos hinside.2.1 hinside.2.2.1
              (hspaced call List.mem_cons_self hclient hinside.2.1 hinside.2.2.1)
            have hle := cooldownsLeft_le hpos first length call.now
            omega
          · have hle := cooldownsLeft_le hpos first length (auth.deadline call.now)
            omega
        · have hnext := ih (hspaced.tail correct) hrest (by rw [hmax, hattempts]; omega)
          rw [hmax, hattempts] at hnext
          split_ifs <;> omega
      · rw [authenticate_refused hcompares, if_neg fun h => hcompares h.2.2.2]
        exact ih (authenticate_refused hcompares ▸ hspaced.tail correct) hrest hleft
    · rw [if_neg fun h => hclient h.1]
      have hentry := authenticate_other correct auth hclient
      have hattempts : (authenticate correct auth call).2.attempts client = auth.attempts client := by
        rw [attempts, hentry, attempts]
      have hnext := ih (hspaced.tail correct) hrest (by rw [hmax, hattempts]; exact hleft)
      rw [hmax, hattempts] at hnext
      exact hnext

/-- Without a correct PIN, the PINs of a client that are compared in a window are as many as the failures that are allowed
and the whole cooldowns in it at most, whenever the calls are made, where a cooldown is what rounding leaves of it, and
the full one if no deadline is rounded down; and other clients do not touch its counter. -/
theorem comparisons_bounded (correct : Pin → Bool) (auth : ReviewerAuthenticator Client) (hfresh : auth.failures = fun _ => none)
    (hfailures : 0 < auth.maxFailures) (calls : List (LoginCall Client Pin)) (client : Client)
    (hwrong : ∀ call ∈ calls, call.client = client → correct call.pin = false) (first length : Rat) (hlength : 0 ≤ length)
    (hpos : 0 < auth.leastCooldown (max |first| |first + length|)) :
    (comparisons correct auth calls client first (first + length) : Int) ≤
        auth.maxFailures + ⌊length / auth.leastCooldown (max |first| |first + length|)⌋ ∧
      (Spaced auth calls client first length auth.cooldown →
        (comparisons correct auth calls client first (first + length) : Int) ≤
          auth.maxFailures + ⌊length / auth.cooldown⌋) ∧
      ∀ (state : ReviewerAuthenticator Client) (call : LoginCall Client Pin), call.client ≠ client →
        (authenticate correct state call).2.failures client = state.failures client := by
  have hzero : auth.attempts client = 0 := by rw [attempts, hfresh]; rfl
  have hbound {cooldown : Rat} (hcooldown : 0 < cooldown) (hspaced : Spaced auth calls client first length cooldown) :
      (comparisons correct auth calls client first (first + length) : Int) ≤ auth.maxFailures + ⌊length / cooldown⌋ := by
    have hle := comparisons_le hcooldown hlength hspaced hwrong (hzero ▸ hfailures)
    omega
  refine ⟨hbound hpos fun call _ _ hfirst hlast => leastCooldown_le auth (abs_le_max_abs_abs hfirst hlast),
    hbound ?_, fun state call => authenticate_other correct state⟩
  have hlatest : 0 ≤ max |first| |first + length| := (abs_nonneg _).trans (le_max_left _ _)
  unfold leastCooldown at hpos
  linarith

namespace Sample

/-- 0.3 seconds, as a float. -/
def early : Rat := 5404319552844595 / 2 ^ 54

theorem early_isFloat : toFloat early = early := by
  rw [toFloat, ulp_eq (e := -2) (by norm_num [early]) (by norm_num [early])]
  decide +kernel

theorem deadline_isFloat : toFloat (early + 60 - 51 / 2 ^ 54) = early + 60 - 51 / 2 ^ 54 := by
  rw [toFloat, ulp_eq (e := 5) (by norm_num [early]) (by norm_num [early])]
  decide +kernel

/-- Five calls at once, and one at the deadline that the last one sets. -/
def calls : List (LoginCall Nat Nat) :=
  List.replicate 5 ⟨0, 7, early, early_isFloat⟩ ++ [⟨0, 7, _, deadline_isFloat⟩]

theorem cooldown_eq : ({} : ReviewerAuthenticator Nat).cooldown = 60 := by
  exact_mod_cast @toFloat_intCast 60 (by decide)

theorem deadline_early : ({} : ReviewerAuthenticator Nat).deadline early = early + 60 - 51 / 2 ^ 54 := by
  rw [deadline, cooldown_eq, toFloat, ulp_eq (e := 5) (by norm_num [early]) (by norm_num [early])]
  decide +kernel

end Sample

theorem comparisons_bounded_once : (comparisons (fun _ : Nat => false) ({} : ReviewerAuthenticator Nat) Sample.calls 7
    Sample.early (Sample.early + (60 - 51 / 2 ^ 54)) : Int) ≤ 6 := by
  have hmax : max |Sample.early| |Sample.early + (60 - 51 / 2 ^ 54)| = Sample.early + (60 - 51 / 2 ^ 54) := by
    norm_num [Sample.early]
  have hleast : ({} : ReviewerAuthenticator Nat).leastCooldown (Sample.early + (60 - 51 / 2 ^ 54)) =
      60 - (Sample.early + (60 - 51 / 2 ^ 54) + 60) / 2 ^ 53 := by
    rw [leastCooldown, Sample.cooldown_eq]
  have h := (comparisons_bounded (fun _ : Nat => false) ({} : ReviewerAuthenticator Nat) rfl (by decide) Sample.calls 7
    (fun _ _ _ => rfl) Sample.early (60 - 51 / 2 ^ 54) (by norm_num)
    (by rw [hmax, hleast]; norm_num [Sample.early])).1
  have hfloor : ⌊(60 - 51 / 2 ^ 54 : Rat) / (60 - (Sample.early + (60 - 51 / 2 ^ 54) + 60) / 2 ^ 53)⌋ = 1 := by
    norm_num [Sample.early, Int.floor_eq_iff]
  rw [hmax, hleast, hfloor] at h
  exact h

/-- Sixty seconds after 0.3 is rounded down: a sixth PIN is compared within less than a cooldown. -/
theorem comparisons_exceeded : Sample.calls.Pairwise (fun a b => a.now ≤ b.now) ∧
    ¬ (comparisons (fun _ : Nat => false) ({} : ReviewerAuthenticator Nat) Sample.calls 7 Sample.early
      (Sample.early + (60 - 51 / 2 ^ 54)) : Int) ≤ 5 + ⌊(60 - 51 / 2 ^ 54 : Rat) / 60⌋ := by
  constructor
  · norm_num [Sample.calls, List.replicate, Sample.early]
  · have hcount : comparisons (fun _ : Nat => false) ({} : ReviewerAuthenticator Nat) Sample.calls 7 Sample.early
        (Sample.early + (60 - 51 / 2 ^ 54)) = 6 := by
      have hdeadline : toFloat (Sample.early + toFloat 60) = Sample.early + 60 - 51 / 2 ^ 54 := Sample.deadline_early
      have hearly : 0 ≤ Sample.early := by norm_num [Sample.early]
      have hlate : Sample.early ≤ Sample.early + 60 - 51 / 2 ^ 54 ∧
          Sample.early + 60 - 51 / 2 ^ 54 ≤ Sample.early + (60 - 51 / 2 ^ 54) ∧
          Sample.early ≤ Sample.early + (60 - 51 / 2 ^ 54) := by norm_num [Sample.early]
      simp [comparisons, Sample.calls, List.replicate, trace, authenticate, Compares, blockedUntil, attempts, deadline,
        ReviewerAuthenticator.cooldown, hdeadline, hearly, hlate]
    have hfloor : ⌊(60 - 51 / 2 ^ 54 : Rat) / 60⌋ = 0 := by norm_num [Int.floor_eq_iff]
    rw [hcount, hfloor]
    decide

end ReviewerAuthenticator
end PduExamObserver.Services
