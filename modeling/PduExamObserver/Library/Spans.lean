import Mathlib.Data.List.Induction
import Mathlib.Data.List.Pairwise
import Mathlib.Logic.Relation
import Mathlib.Order.MinMax

/-! # Merging spans that are close

Spans with a key, sorted by key and start, are merged in one pass: a span joins the last merged one if it has its key
and starts no later than a gap after its end. The merged spans are those of the connected components of the spans under
being close. -/

namespace PduExamObserver.Spans
set_option autoImplicit false

variable {κ : Type*}

/-- A span of time under a key. -/
structure Span (κ : Type*) where
  key : κ
  first : Int
  last : Int

variable {gap : Int} {spans seen : List (Span κ)} {merged : List (Span κ)} {a b s m : Span κ}

/-- Two spans of one key are no more than the gap apart. -/
structure Linked (gap : Int) (a b : Span κ) : Prop where
  key : a.key = b.key
  before : a.first ≤ b.last + gap
  after : b.first ≤ a.last + gap

theorem Linked.symm (h : Linked gap a b) : Linked gap b a := ⟨h.key.symm, h.after, h.before⟩

/-- A chain of linked spans of the list leads from one span to another. -/
def Joined (gap : Int) (spans : List (Span κ)) : Span κ → Span κ → Prop :=
  Relation.ReflTransGen fun a b => a ∈ spans ∧ b ∈ spans ∧ Linked gap a b

theorem Joined.symm (h : Joined gap spans a b) : Joined gap spans b a := by
  induction h with
  | refl => exact .refl
  | tail hjoined hlink ih => exact .head ⟨hlink.2.1, hlink.1, hlink.2.2.symm⟩ ih

theorem Joined.mono {more : List (Span κ)} (hsub : ∀ x ∈ spans, x ∈ more) (h : Joined gap spans a b) :
    Joined gap more a b :=
  Relation.ReflTransGen.mono (fun x y hxy => ⟨hsub x hxy.1, hsub y hxy.2.1, hxy.2.2⟩) _ _ h

/-- A span lies in another of its key. -/
structure Within (a m : Span κ) : Prop where
  key : a.key = m.key
  first : m.first ≤ a.first
  last : a.last ≤ m.last

/-- Two spans of one key are more than the gap apart. -/
def Apart (gap : Int) (a b : Span κ) : Prop := a.key = b.key → a.last + gap < b.first ∨ b.last + gap < a.first

instance (gap : Int) : Std.Symm (Apart gap : Span κ → Span κ → Prop) := ⟨fun _ _ h hkey => (h hkey.symm).symm⟩

/-- The merged spans are those of the components: each span lies in one, two spans in the same one exactly if they are
joined, each goes from the first start to the last end of its spans, and they are apart. -/
structure Merges (gap : Int) (spans merged : List (Span κ)) : Prop where
  covered : ∀ a ∈ spans, ∃ m ∈ merged, Within a m
  starts : ∀ m ∈ merged, ∃ a ∈ spans, Within a m ∧ a.first = m.first
  ends : ∀ m ∈ merged, ∃ a ∈ spans, Within a m ∧ a.last = m.last
  joined : ∀ m ∈ merged, ∀ a ∈ spans, ∀ b ∈ spans, Within a m → Within b m → Joined gap spans a b
  apart : merged.Pairwise (Apart gap)

/-- Spans in spans that are apart are not linked. -/
theorem not_linked_of_apart {m n : Span κ} (h : Apart gap m n) (ha : Within a m) (hb : Within b n) :
    ¬ Linked gap a b := by
  intro hlinked
  have hkey : m.key = n.key := ha.key.symm.trans (hlinked.key.trans hb.key)
  have hbefore := hlinked.before
  have hafter := hlinked.after
  have h1 := ha.first
  have h2 := ha.last
  have h3 := hb.first
  have h4 := hb.last
  rcases h hkey with hlt | hlt
  · omega
  · omega

/-- The spans in one merged span are a component. -/
theorem Merges.component (h : Merges gap spans merged) (hm : m ∈ merged) (ha : a ∈ spans) (hb : b ∈ spans)
    (hwithin : Within a m) : Within b m ↔ Joined gap spans a b := by
  constructor
  · exact h.joined m hm a ha b hb hwithin
  · intro hjoined
    induction hjoined with
    | refl => exact hwithin
    | tail hxy hlink ih =>
      rename_i x y
      obtain ⟨hx, hy, hlinked⟩ := hlink
      have hxm := ih hx
      obtain ⟨n, hn, hyn⟩ := h.covered y hy
      by_cases hsame : m = n
      · rw [hsame]
        exact hyn
      · have hapart : Apart gap m n :=
          h.apart.forall hm hn hsame
        exact absurd hlinked (not_linked_of_apart hapart hxm hyn)

/-- The order of the spans, and of the merged ones, does not matter. -/
theorem Merges.perm {others mergedOthers : List (Span κ)} (h : Merges gap spans merged) (hspans : spans.Perm others)
    (hmerged : merged.Perm mergedOthers) : Merges gap others mergedOthers := by
  refine ⟨fun a ha => ?_, fun m hm => ?_, fun m hm => ?_, fun m hm a ha b hb ham hbm => ?_, ?_⟩
  · obtain ⟨m, hm, hwithin⟩ := h.covered a (hspans.mem_iff.mpr ha)
    exact ⟨m, hmerged.mem_iff.mp hm, hwithin⟩
  · obtain ⟨a, ha, hfacts⟩ := h.starts m (hmerged.mem_iff.mpr hm)
    exact ⟨a, hspans.mem_iff.mp ha, hfacts⟩
  · obtain ⟨a, ha, hfacts⟩ := h.ends m (hmerged.mem_iff.mpr hm)
    exact ⟨a, hspans.mem_iff.mp ha, hfacts⟩
  · exact (h.joined m (hmerged.mem_iff.mpr hm) a (hspans.mem_iff.mpr ha) b (hspans.mem_iff.mpr hb) ham hbm).mono
      fun x hx => hspans.mem_iff.mp hx
  · exact hmerged.pairwise h.apart fun hapart => Std.Symm.symm _ _ hapart

/-! ## The pass -/

section Pass

variable [DecidableEq κ]

/-- One turn of the pass; the last merged span is the first of the list. -/
def mergeStep (gap : Int) (merged : List (Span κ)) (s : Span κ) : List (Span κ) :=
  match merged with
  | [] => [s]
  | previous :: rest =>
    if previous.key = s.key ∧ s.first ≤ previous.last + gap then
      ⟨s.key, previous.first, max previous.last s.last⟩ :: rest
    else s :: previous :: rest

end Pass

variable [LinearOrder κ] {coming : List (Span κ)}

/-- The order in which the spans come. -/
def Before (a b : Span κ) : Prop := a.key < b.key ∨ a.key = b.key ∧ a.first ≤ b.first

/-- A merged span before another one. -/
def Falls (gap : Int) (newer older : Span κ) : Prop :=
  older.key < newer.key ∨ older.key = newer.key ∧ older.last + gap < newer.first

theorem apart_of_falls (h : merged.Pairwise (Falls gap)) : merged.Pairwise (Apart gap) := by
  refine h.imp ?_
  rintro newer older (hlt | ⟨-, hafter⟩) hkey
  · exact absurd hkey.symm (ne_of_lt hlt)
  · exact .inr hafter

theorem not_within_of_falls {newer older : Span κ} (h : Falls gap newer older) (hgap : 0 ≤ gap)
    (hproper : a.first ≤ a.last) (holder : Within a older) : ¬ Within a newer := by
  intro hnewer
  have hlast := holder.last
  have hfirst := hnewer.first
  rcases h with hlt | ⟨-, hafter⟩
  · exact absurd (holder.key.symm.trans hnewer.key) (ne_of_lt hlt)
  · omega

/-- The spans that have been merged so far, before those to come. -/
structure Prefix (gap : Int) (seen merged coming : List (Span κ)) : Prop where
  merges : Merges gap seen merged
  proper : ∀ a ∈ seen, a.first ≤ a.last
  before : ∀ s ∈ coming, ∀ a ∈ seen, Before a s
  falls : merged.Pairwise (Falls gap)

theorem Prefix.merged_before (h : Prefix gap seen merged coming) (hs : s ∈ coming) (hm : m ∈ merged) : Before m s := by
  obtain ⟨x, hx, hwithin, hfirst⟩ := h.merges.starts m hm
  have hbefore := h.before s hs x hx
  rwa [Before, hwithin.key, hfirst] at hbefore

omit [LinearOrder κ] in
theorem mem_concat {x : Span κ} : x ∈ seen ++ [s] ↔ x ∈ seen ∨ x = s := by simp

/-- A span that comes more than the gap after all merged ones is merged alone. -/
theorem Prefix.alone (hgap : 0 ≤ gap) (h : Prefix gap seen merged (s :: coming)) (hproper : s.first ≤ s.last)
    (hsorted : ∀ t ∈ coming, Before s t) (halone : ∀ m ∈ merged, Falls gap s m) :
    Prefix gap (seen ++ [s]) (s :: merged) coming := by
  have hself : Within s s := ⟨rfl, le_refl _, le_refl _⟩
  have hfalls : (s :: merged).Pairwise (Falls gap) := List.pairwise_cons.mpr ⟨halone, h.falls⟩
  have hfresh : ∀ x ∈ seen, ¬ Within x s := by
    intro x hx
    obtain ⟨m, hm, hxm⟩ := h.merges.covered x hx
    exact not_within_of_falls (halone m hm) hgap (h.proper x hx) hxm
  have hout : ∀ m ∈ merged, ¬ Within s m := fun m hm hsm =>
    not_within_of_falls (halone m hm) hgap hproper hsm hself
  refine ⟨⟨?_, ?_, ?_, ?_, apart_of_falls hfalls⟩, ?_, ?_, hfalls⟩
  · intro x hx
    rcases mem_concat.mp hx with hx | rfl
    · obtain ⟨m, hm, hxm⟩ := h.merges.covered x hx
      exact ⟨m, List.mem_cons_of_mem _ hm, hxm⟩
    · exact ⟨x, List.mem_cons_self, hself⟩
  · intro m hm
    rcases List.mem_cons.mp hm with rfl | hm
    · exact ⟨m, mem_concat.mpr (.inr rfl), hself, rfl⟩
    · obtain ⟨x, hx, hfacts⟩ := h.merges.starts m hm
      exact ⟨x, mem_concat.mpr (.inl hx), hfacts⟩
  · intro m hm
    rcases List.mem_cons.mp hm with rfl | hm
    · exact ⟨m, mem_concat.mpr (.inr rfl), hself, rfl⟩
    · obtain ⟨x, hx, hfacts⟩ := h.merges.ends m hm
      exact ⟨x, mem_concat.mpr (.inl hx), hfacts⟩
  · intro m hm x hx y hy hxm hym
    rcases List.mem_cons.mp hm with rfl | hm
    · rcases mem_concat.mp hx with hx | rfl
      · exact absurd hxm (hfresh x hx)
      · rcases mem_concat.mp hy with hy | rfl
        · exact absurd hym (hfresh y hy)
        · exact .refl
    · rcases mem_concat.mp hx with hx | hx
      · rcases mem_concat.mp hy with hy | hy
        · exact (h.merges.joined m hm x hx y hy hxm hym).mono fun z hz => mem_concat.mpr (.inl hz)
        · exact absurd (hy ▸ hym) (hout m hm)
      · exact absurd (hx ▸ hxm) (hout m hm)
  · intro x hx
    rcases mem_concat.mp hx with hx | rfl
    · exact h.proper x hx
    · exact hproper
  · intro t ht x hx
    rcases mem_concat.mp hx with hx | rfl
    · exact h.before t (List.mem_cons_of_mem _ ht) x hx
    · exact hsorted t ht

/-- A span that starts no later than the gap after the end of the last merged one joins it. -/
theorem Prefix.join {previous : Span κ} {rest : List (Span κ)} (hgap : 0 ≤ gap)
    (h : Prefix gap seen (previous :: rest) (s :: coming)) (hproper : s.first ≤ s.last)
    (hsorted : ∀ t ∈ coming, Before s t) (hkey : previous.key = s.key) (hnear : s.first ≤ previous.last + gap) :
    Prefix gap (seen ++ [s]) (⟨s.key, previous.first, max previous.last s.last⟩ :: rest) coming := by
  obtain ⟨hfirst, hrest⟩ := List.pairwise_cons.mp h.falls
  have hstart : previous.first ≤ s.first := by
    rcases h.merged_before List.mem_cons_self List.mem_cons_self with hlt | ⟨-, hle⟩
    · exact absurd hkey (ne_of_lt hlt)
    · exact hle
  have hwide : ∀ x, Within x previous → Within x ⟨s.key, previous.first, max previous.last s.last⟩ := fun x hx =>
    ⟨hx.key.trans hkey, hx.first, hx.last.trans (le_max_left _ _)⟩
  have hnew : Within s ⟨s.key, previous.first, max previous.last s.last⟩ := ⟨rfl, hstart, le_max_right _ _⟩
  have hfalls : (⟨s.key, previous.first, max previous.last s.last⟩ :: rest).Pairwise (Falls gap) := by
    refine List.pairwise_cons.mpr ⟨fun older holder => ?_, hrest⟩
    rcases hfirst older holder with hlt | ⟨hsame, hafter⟩
    · exact .inl (hkey ▸ hlt)
    · exact .inr ⟨hsame.trans hkey, hafter⟩
  -- what lies in the joined span was in the last one, or is new
  have hback : ∀ x ∈ seen, Within x ⟨s.key, previous.first, max previous.last s.last⟩ → Within x previous := by
    intro x hx hwithin
    obtain ⟨m, hm, hxm⟩ := h.merges.covered x hx
    rcases List.mem_cons.mp hm with rfl | hm
    · exact hxm
    · have hfall := (List.pairwise_cons.mp hfalls).1 m hm
      exact absurd hwithin (not_within_of_falls hfall hgap (h.proper x hx) hxm)
  obtain ⟨anchor, hanchor, hanchorIn, hanchorEnd⟩ := h.merges.ends previous List.mem_cons_self
  have htoAnchor : ∀ x ∈ seen ++ [s], Within x ⟨s.key, previous.first, max previous.last s.last⟩ →
      Joined gap (seen ++ [s]) x anchor := by
    intro x hx hwithin
    rcases mem_concat.mp hx with hx | rfl
    · exact (h.merges.joined previous List.mem_cons_self x hx anchor hanchor (hback x hx hwithin) hanchorIn).mono
        fun z hz => mem_concat.mpr (.inl hz)
    · have hsame : anchor.key = x.key := hanchorIn.key.trans hkey
      have hearlier : anchor.first ≤ x.first := by
        rcases h.before x List.mem_cons_self anchor hanchor with hlt | ⟨-, hle⟩
        · exact absurd hsame (ne_of_lt hlt)
        · exact hle
      have hlinked : Linked gap x anchor := ⟨hsame.symm, by omega, by omega⟩
      exact .single ⟨mem_concat.mpr (.inr rfl), mem_concat.mpr (.inl hanchor), hlinked⟩
  refine ⟨⟨?_, ?_, ?_, ?_, apart_of_falls hfalls⟩, ?_, ?_, hfalls⟩
  · intro x hx
    rcases mem_concat.mp hx with hx | rfl
    · obtain ⟨m, hm, hxm⟩ := h.merges.covered x hx
      rcases List.mem_cons.mp hm with rfl | hm
      · exact ⟨_, List.mem_cons_self, hwide x hxm⟩
      · exact ⟨m, List.mem_cons_of_mem _ hm, hxm⟩
    · exact ⟨_, List.mem_cons_self, hnew⟩
  · intro m hm
    rcases List.mem_cons.mp hm with rfl | hm
    · obtain ⟨x, hx, hwithin, hsame⟩ := h.merges.starts previous List.mem_cons_self
      exact ⟨x, mem_concat.mpr (.inl hx), hwide x hwithin, hsame⟩
    · obtain ⟨x, hx, hfacts⟩ := h.merges.starts m (List.mem_cons_of_mem _ hm)
      exact ⟨x, mem_concat.mpr (.inl hx), hfacts⟩
  · intro m hm
    rcases List.mem_cons.mp hm with rfl | hm
    · -- the later of the two ends
      rcases le_total previous.last s.last with hle | hle
      · exact ⟨s, mem_concat.mpr (.inr rfl), hnew, (max_eq_right hle).symm⟩
      · exact ⟨anchor, mem_concat.mpr (.inl hanchor), hwide anchor hanchorIn, hanchorEnd.trans (max_eq_left hle).symm⟩
    · obtain ⟨x, hx, hfacts⟩ := h.merges.ends m (List.mem_cons_of_mem _ hm)
      exact ⟨x, mem_concat.mpr (.inl hx), hfacts⟩
  · intro m hm x hx y hy hxm hym
    rcases List.mem_cons.mp hm with rfl | hm
    · exact (htoAnchor x hx hxm).trans (htoAnchor y hy hym).symm
    · have hfall := (List.pairwise_cons.mp hfalls).1 m hm
      rcases mem_concat.mp hx with hx | hx
      · rcases mem_concat.mp hy with hy | hy
        · exact (h.merges.joined m (List.mem_cons_of_mem _ hm) x hx y hy hxm hym).mono fun z hz =>
            mem_concat.mpr (.inl hz)
        · subst hy
          exact absurd hnew (not_within_of_falls hfall hgap hproper hym)
      · subst hx
        exact absurd hnew (not_within_of_falls hfall hgap hproper hxm)
  · intro x hx
    rcases mem_concat.mp hx with hx | rfl
    · exact h.proper x hx
    · exact hproper
  · intro t ht x hx
    rcases mem_concat.mp hx with hx | rfl
    · exact h.before t (List.mem_cons_of_mem _ ht) x hx
    · exact hsorted t ht

theorem Prefix.step (hgap : 0 ≤ gap) (h : Prefix gap seen merged (s :: coming)) (hproper : s.first ≤ s.last)
    (hsorted : ∀ t ∈ coming, Before s t) : Prefix gap (seen ++ [s]) (mergeStep gap merged s) coming := by
  cases merged with
  | nil => exact h.alone hgap hproper hsorted fun m hm => absurd hm List.not_mem_nil
  | cons previous rest =>
    unfold mergeStep
    dsimp only
    split
    · rename_i hnear
      exact h.join hgap hproper hsorted hnear.1 hnear.2
    · rename_i hfar
      have hprevious : Falls gap s previous := by
        rcases h.merged_before List.mem_cons_self List.mem_cons_self with hlt | ⟨hsame, -⟩
        · exact .inl hlt
        · exact .inr ⟨hsame, not_le.mp fun hle => hfar ⟨hsame, hle⟩⟩
      refine h.alone hgap hproper hsorted fun m hm => ?_
      rcases List.mem_cons.mp hm with rfl | hm
      · exact hprevious
      · rcases (List.pairwise_cons.mp h.falls).1 m hm with hlt | ⟨hsame, hafter⟩
        · rcases hprevious with hlt' | ⟨hsame', -⟩
          · exact .inl (hlt.trans hlt')
          · exact .inl (hsame' ▸ hlt)
        · rcases h.merged_before List.mem_cons_self List.mem_cons_self with hlt' | ⟨hsame', hle⟩
          · exact .inl (hsame ▸ hlt')
          · exact .inr ⟨hsame.trans hsame', by omega⟩

theorem Prefix.run (hgap : 0 ≤ gap) (h : Prefix gap seen merged coming) (hproper : ∀ s ∈ coming, s.first ≤ s.last)
    (hsorted : coming.Pairwise Before) : Merges gap (seen ++ coming) (coming.foldl (mergeStep gap) merged) := by
  induction coming generalizing seen merged with
  | nil =>
    rw [List.append_nil]
    exact h.merges
  | cons s rest ih =>
    obtain ⟨hfirst, hrest⟩ := List.pairwise_cons.mp hsorted
    have hnext := ih (h.step hgap (hproper s List.mem_cons_self) hfirst)
      (fun t ht => hproper t (List.mem_cons_of_mem _ ht)) hrest
    rwa [List.append_assoc, List.singleton_append] at hnext

/-- The pass over spans in order gives the spans of the components. -/
theorem merges_of_sorted (hgap : 0 ≤ gap) (hproper : ∀ s ∈ spans, s.first ≤ s.last) (hsorted : spans.Pairwise Before) :
    Merges gap spans (spans.foldl (mergeStep gap) []) := by
  have hstart : Prefix gap [] [] spans := ⟨⟨by simp, by simp, by simp, by simp, .nil⟩, by simp, by simp, .nil⟩
  exact hstart.run hgap hproper hsorted

end PduExamObserver.Spans
