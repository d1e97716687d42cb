import Mathlib.Data.List.Rotate
import PduExamObserver.Training.Corpus

/-! # Five folds over ten people

Who is trained on, calibrated on and tested on in the folds of `build_outer_folds`. -/

namespace PduExamObserver.Training
set_option autoImplicit false

def confirmatoryOf (participants : List String) : List String := participants.filter fun person => person ∉ pilotIds

/-- `ordered` of `build_outer_folds` -/
def orderedBy (orderKey : String → String) (participants : List String) : List String :=
  (confirmatoryOf participants).mergeSort fun a b => decide (orderKey a ≤ orderKey b)

variable {orderKey : String → String → String} {participants ordered : List String} {protocolVersion : String}
  {folds : List OuterFold} {i j : Nat}

theorem orderedBy_perm (orderKey : String → String) (participants : List String) :
    (orderedBy orderKey participants).Perm (confirmatoryOf participants) := List.mergeSort_perm _ _

theorem buildOuterFolds_eq (h : buildOuterFolds orderKey participants protocolVersion = .ok folds) :
    participants.Nodup ∧ (confirmatoryOf participants).length = 10 ∧
      folds = (List.range 5).map (foldOf (orderedBy (orderKey protocolVersion) participants)) := by
  unfold buildOuterFolds at h
  simp only [bind_ok_iff, require_eq_ok, pure_eq_ok] at h
  obtain ⟨⟨⟩, -, ⟨⟩, hunique, ⟨⟩, -, ⟨⟩, ⟨hlength, -⟩, rfl⟩ := h
  exact ⟨hunique, hlength, rfl⟩

/-! ## Pairs -/

theorem pair_subset (ordered : List String) (i : Nat) : pair ordered i ⊆ ordered :=
  ((List.take_sublist _ _).trans (List.drop_sublist _ _)).subset

theorem pairs_flatten (h : ordered.length = 10) : ((List.range 5).map (pair ordered)).flatten = ordered := by
  match ordered, h with
  | [_, _, _, _, _, _, _, _, _, _], _ => rfl

theorem nextPairs_flatten (h : ordered.length = 10) :
    ((List.range 5).map fun i => pair ordered ((i + 1) % 5)).flatten = ordered.rotate 2 := by
  match ordered, h with
  | [_, _, _, _, _, _, _, _, _, _], _ => rfl

theorem pair_length (h : ordered.length = 10) (hi : i < 5) : (pair ordered i).length = 2 := by
  rw [pair, List.length_take, List.length_drop, h]
  omega

theorem pair_nodup (h : ordered.Nodup) : (pair ordered i).Nodup :=
  h.sublist ((List.take_sublist _ _).trans (List.drop_sublist _ _))

theorem pair_disjoint (h : ordered.Nodup) (hij : i < j) : (pair ordered i).Disjoint (pair ordered j) := by
  have hcut : pair ordered i = (ordered.take (2 * i + 2)).drop (2 * i) := by
    rw [List.drop_take, pair]
    congr 1
    omega
  rw [hcut]
  intro person hfirst hsecond
  exact List.disjoint_take_drop h (by omega : 2 * i + 2 ≤ 2 * j) (List.mem_of_mem_drop hfirst)
    (List.mem_of_mem_take hsecond)

theorem pair_disjoint_next (h : ordered.Nodup) : (pair ordered ((i + 1) % 5)).Disjoint (pair ordered i) := by
  rcases Nat.lt_or_ge i ((i + 1) % 5) with hlt | hge
  · exact fun person hnext hfirst => pair_disjoint h hlt hfirst hnext
  · exact pair_disjoint h (by omega)

theorem foldOf_perm (h : ordered.Nodup) :
    ((foldOf ordered i).train ++ (foldOf ordered i).calibration ++ (foldOf ordered i).test).Perm ordered := by
  have hheld : (pair ordered ((i + 1) % 5) ++ pair ordered i).Nodup :=
    List.nodup_append.mpr ⟨pair_nodup h, pair_nodup h, fun a ha b hb hab => pair_disjoint_next h ha (hab ▸ hb)⟩
  have hall : ((foldOf ordered i).train ++ ((foldOf ordered i).calibration ++ (foldOf ordered i).test)).Nodup := by
    refine List.nodup_append.mpr ⟨h.filter _, hheld, fun a ha b hb hab => ?_⟩
    have hout := (foldOf ordered i).disjoint a ha
    rcases List.mem_append.mp hb with hcal | htest
    · exact hout.1 (hab ▸ hcal)
    · exact hout.2 (hab ▸ htest)
  rw [List.append_assoc]
  refine (List.perm_ext_iff_of_nodup hall h).mpr fun person => ?_
  have hcal := @pair_subset ordered ((i + 1) % 5) person
  have htest := @pair_subset ordered i person
  simp only [foldOf, List.mem_append, List.mem_filter, decide_eq_true_eq]
  tauto

/-! ## Folds -/

theorem buildOuterFolds_tests (h : buildOuterFolds orderKey participants protocolVersion = .ok folds) :
    (confirmatoryOf participants).Nodup ∧ (folds.flatMap OuterFold.test).Perm (confirmatoryOf participants) := by
  obtain ⟨hunique, hten, rfl⟩ := buildOuterFolds_eq h
  have hperm := orderedBy_perm (orderKey protocolVersion) participants
  rw [List.flatMap_map, List.flatMap_def]
  exact ⟨hunique.filter _, (pairs_flatten (hperm.length_eq.trans hten)).symm ▸ hperm⟩

theorem buildOuterFolds_whole {fold : OuterFold} (h : buildOuterFolds orderKey participants protocolVersion = .ok folds)
    (hfold : fold ∈ folds) : (fold.train ++ fold.calibration ++ fold.test).Perm (confirmatoryOf participants) := by
  obtain ⟨hunique, -, rfl⟩ := buildOuterFolds_eq h
  have hperm := orderedBy_perm (orderKey protocolVersion) participants
  obtain ⟨i, -, rfl⟩ := List.mem_map.mp hfold
  exact (foldOf_perm (hperm.nodup_iff.mpr (hunique.filter _))).trans hperm

theorem buildOuterFolds_ids : ∃ folds, buildOuterFolds (fun _ => id) participantIds "v1" = .ok folds := by
  unfold buildOuterFolds
  simp only [bind_ok_iff, require_eq_ok, pure_eq_ok]
  exact ⟨_, (), by decide, (), by decide, (), by decide, (), by decide, rfl⟩

/-- Every confirmatory participant is tested on once and calibrated on once, a fold before, and a fold has all ten. -/
theorem buildOuterFolds_partition (h : buildOuterFolds orderKey participants protocolVersion = .ok folds) :
    (confirmatoryOf participants).Nodup ∧ folds.map OuterFold.index = List.range 5 ∧
      (folds.flatMap OuterFold.test).Perm (confirmatoryOf participants) ∧
      (folds.flatMap OuterFold.calibration).Perm (confirmatoryOf participants) ∧
      ∀ fold ∈ folds,
        (fold.train ++ fold.calibration ++ fold.test).Perm (confirmatoryOf participants) ∧
        fold.calibration.length = 2 ∧ fold.test.length = 2 ∧
        ∀ next ∈ folds, next.index = (fold.index + 1) % 5 → next.test = fold.calibration := by
  obtain ⟨hconfirmatory, htests⟩ := buildOuterFolds_tests h
  have hwhole {fold : OuterFold} (hfold : fold ∈ folds) := buildOuterFolds_whole h hfold
  obtain ⟨-, hten, rfl⟩ := buildOuterFolds_eq h
  have hperm := orderedBy_perm (orderKey protocolVersion) participants
  have hlength : (orderedBy (orderKey protocolVersion) participants).length = 10 := hperm.length_eq.trans hten
  refine ⟨hconfirmatory, rfl, htests, ?_, fun fold hfold => ?_⟩
  · rw [List.flatMap_map, List.flatMap_def]
    exact (nextPairs_flatten hlength).symm ▸ (List.rotate_perm _ 2).trans hperm
  · have hall := hwhole hfold
    obtain ⟨i, hi, rfl⟩ := List.mem_map.mp hfold
    have hcal : (foldOf (orderedBy (orderKey protocolVersion) participants) i).calibration.length = 2 :=
      pair_length hlength (by omega)
    have htest : (foldOf (orderedBy (orderKey protocolVersion) participants) i).test.length = 2 :=
      pair_length hlength (List.mem_range.mp hi)
    refine ⟨hall, hcal, htest, fun next hnext hindex => ?_⟩
    obtain ⟨j, -, rfl⟩ := List.mem_map.mp hnext
    exact congrArg (pair (orderedBy (orderKey protocolVersion) participants)) hindex

theorem buildOuterFolds_partition_sample : ∃ folds, buildOuterFolds (fun _ => id) participantIds "v1" = .ok folds ∧
    (folds.flatMap OuterFold.test).Perm (confirmatoryOf participantIds) := by
  obtain ⟨folds, h⟩ := buildOuterFolds_ids
  exact ⟨folds, h, (buildOuterFolds_partition h).2.2.1⟩

theorem orderedBy_congr {orderKey : String → String} {others : List String} (h : participants.Perm others)
    (hkey : ∀ a ∈ participants, ∀ b ∈ participants, orderKey a = orderKey b → a = b) :
    orderedBy orderKey participants = orderedBy orderKey others := by
  have hsorted (l : List String) : (orderedBy orderKey l).Pairwise fun a b => orderKey a ≤ orderKey b := by
    have hpairwise : (orderedBy orderKey l).Pairwise fun a b => decide (orderKey a ≤ orderKey b) = true :=
      List.pairwise_mergeSort (fun a b c => by simpa using String.le_trans) (fun a b => by simpa using String.le_total _ _) _
    simpa only [decide_eq_true_eq] using hpairwise
  have hsame : (orderedBy orderKey participants).Perm (orderedBy orderKey others) :=
    (orderedBy_perm _ _).trans ((h.filter _).trans (orderedBy_perm _ _).symm)
  have hmem (a : String) (ha : a ∈ orderedBy orderKey participants) : a ∈ participants :=
    List.mem_of_mem_filter ((orderedBy_perm _ _).subset ha)
  exact hsame.eq_of_pairwise (fun a b ha hb hab hba => hkey a (hmem a ha) b (hmem b (hsame.symm.subset hb))
    (String.le_antisymm hab hba)) (hsorted _) (hsorted _)

theorem buildOuterFolds_perm {others : List String} (h : participants.Perm others)
    (hkey : ∀ a ∈ participants, ∀ b ∈ participants, orderKey protocolVersion a = orderKey protocolVersion b → a = b) :
    buildOuterFolds orderKey participants protocolVersion = buildOuterFolds orderKey others protocolVersion := by
  have hordered := orderedBy_congr h hkey
  have hten : (confirmatoryOf participants).length = (confirmatoryOf others).length := (h.filter _).length_eq
  unfold orderedBy confirmatoryOf at hordered
  unfold confirmatoryOf at hten
  unfold buildOuterFolds
  simp only [h.nodup_iff, h.mem_iff, hten, hordered]

theorem buildOuterFolds_perm_sample :
    buildOuterFolds (fun _ => id) participantIds "v1" = buildOuterFolds (fun _ => id) participantIds.reverse "v1" :=
  buildOuterFolds_perm (List.reverse_perm _).symm fun _ _ _ _ h => h

end PduExamObserver.Training
