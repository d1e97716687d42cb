import PduExamObserver.Authority.Ends
import PduExamObserver.Authority.RoundTrip

/-! # What happens to the leaves

Each leaf has its own order of records. A write under the contract makes at most the next step of it, or
leaves a torn text that is no record and that nothing replaces. -/

namespace PduExamObserver.Authority
set_option autoImplicit false

variable {hash : Sha256} {leaf : AuthorityLeaf}

def IsRecord (hash : Sha256) (value : Bytes) (domain : Domain) : Prop := ∃ get, Reads hash value domain get

inductive Follows (hash : Sha256) : AuthorityLeaf → Option Bytes → Bytes → Prop
  | pending {next : Bytes} (h : IsRecord hash next .pending) : Follows hash .prepared none next
  | prepared {prior next : Bytes} (hprior : IsRecord hash prior .pending) (h : IsRecord hash next .prepared) :
      Follows hash .prepared (some prior) next
  | consumed {prior next : Bytes} (hprior : IsRecord hash prior .prepared) (h : IsRecord hash next .consumed) :
      Follows hash .prepared (some prior) next
  | issued {next : Bytes} (h : IsRecord hash next .grantIssued) : Follows hash .grant none next
  | revoked {prior next : Bytes} (hprior : IsRecord hash prior .grantIssued)
      (h : IsRecord hash next .grantRevoked) : Follows hash .grant (some prior) next
  | terminal {next : Bytes} (h : IsRecord hash next .terminal) : Follows hash .terminal none next

inductive Move (hash : Sha256) (leaf : AuthorityLeaf) : Option Bytes → Option Bytes → Prop
  | next {prior : Option Bytes} {next : Bytes} (h : Follows hash leaf prior next) : Move hash leaf prior (some next)
  | torn {prior : Option Bytes} {next torn : Bytes} (h : Follows hash leaf prior next)
      (htorn : validatedRecord hash (some torn) = none) : Move hash leaf prior (some torn)

def Moves (hash : Sha256) (leaf : AuthorityLeaf) : Option Bytes → Option Bytes → Prop :=
  Relation.ReflTransGen (Move hash leaf)

theorem Moves.present {prior after : Option Bytes} (h : Moves hash leaf prior after) (hprior : prior ≠ none) :
    after ≠ none := by
  induction h with
  | refl => exact hprior
  | tail _ hmove _ => cases hmove <;> simp

theorem Written.moves {prior current : Option Bytes} {bytes : Bytes} {written : Call WriteResult × Option Bytes}
    (h : Written hash prior current bytes written) (hfollows : Follows hash leaf prior bytes) :
    Moves hash leaf current written.2 := by
  by_cases hmatch : current = prior
  · subst hmatch
    rcases h.left with hsame | hnew | ⟨torn, htorn, hinvalid⟩
    · rw [hsame]
      exact .refl
    · rw [hnew]
      exact .single (.next hfollows)
    · rw [htorn]
      exact .single (.torn hfollows hinvalid)
  · rw [h.kept hmatch]
    exact .refl

theorem Written.accepted {prior current : Option Bytes} {bytes : Bytes}
    {written : Call WriteResult × Option Bytes} (h : Written hash prior current bytes written)
    (haccepted : Accepted bytes written.1) : current = prior ∧ written.2 = some bytes := by
  obtain ⟨result, hresult, hok, hdisposition, hobserved⟩ := haccepted
  exact ⟨h.ok result hresult hok, h.presentValid result hresult hdisposition bytes hobserved⟩

end PduExamObserver.Authority
