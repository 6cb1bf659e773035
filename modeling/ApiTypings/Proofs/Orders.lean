import ApiTypings.Module.Basic
import Mathlib.Data.List.Forall2
import Mathlib.Data.List.Lex
import Mathlib.Data.List.Nodup
import Mathlib.Data.Prod.Lex
import Mathlib.Data.String.Basic

/-!
# Sorted lists

Sorting by a text puts the entries in the order of the texts. Texts alone, and texts with
something that is ordered itself, are sorted in one way only, so the sorted list tells
what was sorted but not in which order it came.
-/

namespace ApiTypings

theorem pairwise_sortedBy {α : Type} (key : α → String) (items : List α) :
    (items.mergeSort fun a b => !decide (key b < key a)).Pairwise fun a b => key a ≤ key b := by
  refine (List.pairwise_mergeSort ?_ ?_ items).imp ?_
  · intro a b c hab hbc
    simp only [Bool.not_eq_true', decide_eq_false_iff_not, not_lt] at hab hbc ⊢
    exact hab.trans hbc
  · intro a b
    simp only [Bool.or_eq_true, Bool.not_eq_true', decide_eq_false_iff_not, not_lt]
    exact le_total _ _
  · intro a b hab
    simpa only [Bool.not_eq_true', decide_eq_false_iff_not, not_lt] using hab

/-- Entries of different texts are sorted in one way only. -/
theorem sortedBy_of_perm {α : Type} (key : α → String) {a b : List α} (hn : (a.map key).Nodup)
    (h : a.Perm b) : (a.mergeSort fun x y => !decide (key y < key x)) =
      b.mergeSort fun x y => !decide (key y < key x) := by
  refine List.Perm.eq_of_pairwise (fun x y hx hy hxy hyx => ?_) (pairwise_sortedBy key a)
    (pairwise_sortedBy key b) ?_
  · exact List.inj_on_of_nodup_map hn (List.mem_mergeSort.mp hx)
      (h.mem_iff.mpr (List.mem_mergeSort.mp hy)) (le_antisymm hxy hyx)
  · exact (List.mergeSort_perm a _).trans (h.trans (List.mergeSort_perm b _).symm)

/-- Lists that correspond, with the same texts in the same places, still do when they are sorted by
the texts. -/
theorem forall₂_sortedBy {α β : Type} {key : α → String} {key' : β → String} {R : α → β → Prop}
    (hkey : ∀ a b, R a b → key a = key' b) {as : List α} {bs : List β}
    (h : List.Forall₂ R as bs) :
    List.Forall₂ R (as.mergeSort fun x y => !decide (key y < key x))
      (bs.mergeSort fun x y => !decide (key' y < key' x)) := by
  obtain ⟨hlength, hzip⟩ := List.forall₂_iff_zip.mp h
  -- both lists are sorted as the list of their pairs is
  have hfst : (as.zip bs).map Prod.fst = as := List.map_fst_zip hlength.le
  have hsnd : (as.zip bs).map Prod.snd = bs := List.map_snd_zip hlength.ge
  generalize as.zip bs = pairs at hzip hfst hsnd
  have hpairs : ∀ p ∈ pairs, key p.1 = key' p.2 := fun p hp => hkey _ _ (hzip hp)
  subst hfst hsnd
  rw [← List.map_mergeSort (r := fun p q => !decide (key q.1 < key p.1)) (fun _ _ _ _ => rfl),
    ← List.map_mergeSort (r := fun p q => !decide (key q.1 < key p.1))
      (fun p hp q hq => by rw [hpairs p hp, hpairs q hq]),
    List.forall₂_map_left_iff, List.forall₂_map_right_iff, List.forall₂_same]
  exact fun p hp => hzip (List.mem_mergeSort.mp hp)

theorem sortTexts_eq_iff {a b : List String} : sortTexts a = sortTexts b ↔ a.Perm b := by
  constructor
  · intro h
    calc a.Perm (sortTexts a) := (List.mergeSort_perm a _).symm
      _ = sortTexts b := h
      List.Perm _ b := List.mergeSort_perm b _
  · intro h
    refine List.Perm.eq_of_pairwise (fun _ _ _ _ hab hba => le_antisymm hab hba)
      (pairwise_sortedBy id a) (pairwise_sortedBy id b) ?_
    exact (List.mergeSort_perm a _).trans (h.trans (List.mergeSort_perm b _).symm)

/-- The order of pairs is the lexicographic one. -/
theorem pairLe_iff {a b : String × List String} : pairLe a b = true ↔ toLex a ≤ toLex b := by
  have hle : ¬ b.2 < a.2 ↔ a.2 ≤ b.2 := @not_lt _ List.instLinearOrder _ _
  rw [Prod.Lex.toLex_le_toLex, ← hle]
  simp only [pairLe, Bool.or_eq_true, Bool.and_eq_true, Bool.not_eq_true', decide_eq_true_eq,
    decide_eq_false_iff_not]

theorem pairwise_sortPairs (entries : List (String × List String)) :
    (sortPairs entries).Pairwise fun a b => toLex a ≤ toLex b := by
  refine (List.pairwise_mergeSort ?_ ?_ entries).imp fun h => pairLe_iff.mp h
  · intro a b c hab hbc
    rw [pairLe_iff] at hab hbc ⊢
    exact hab.trans hbc
  · intro a b
    rw [Bool.or_eq_true, pairLe_iff, pairLe_iff]
    exact le_total _ _

theorem sortPairs_eq_iff {a b : List (String × List String)} :
    sortPairs a = sortPairs b ↔ a.Perm b := by
  constructor
  · intro h
    calc a.Perm (sortPairs a) := (List.mergeSort_perm a _).symm
      _ = sortPairs b := h
      List.Perm _ b := List.mergeSort_perm b _
  · intro h
    refine List.Perm.eq_of_pairwise (fun _ _ _ _ hab hba => toLex.injective (le_antisymm hab hba))
      (pairwise_sortPairs a) (pairwise_sortPairs b) ?_
    exact (List.mergeSort_perm a _).trans (h.trans (List.mergeSort_perm b _).symm)

end ApiTypings
