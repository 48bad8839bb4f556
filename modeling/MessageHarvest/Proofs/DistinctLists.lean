import MessageHarvest.Text.Basic
import Mathlib.Data.Char
import Mathlib.Data.List.Induction
import Mathlib.Data.List.Lex
import Mathlib.Data.List.Nodup
import Mathlib.Data.List.Sort

/-! # Lists without repetitions

`List.eraseDups` keeps the first of equal elements. What it leaves grows with the
list at its end, has no repetitions, and is the same up to order for lists that
are. In a sorted set of texts the order goes as well: it is the one increasing
list of its members. -/
namespace MessageHarvest

section EraseDups

variable {α : Type} [BEq α] [LawfulBEq α]

theorem eraseDups_concat (xs : List α) (a : α) :
    (xs ++ [a]).eraseDups = if a ∈ xs then xs.eraseDups else xs.eraseDups ++ [a] := by
  rw [List.eraseDups_append, List.cons_removeAll]
  by_cases h : a ∈ xs <;> simp [h, List.eraseDups_cons]

theorem nodup_eraseDups (xs : List α) : xs.eraseDups.Nodup := by
  induction xs using List.reverseRecOn with
  | nil => simp
  | append_singleton xs a ih =>
    rw [eraseDups_concat]
    split
    · exact ih
    · rename_i h
      exact List.nodup_append.mpr ⟨ih, List.nodup_singleton a, by
        intro b hb c hc he
        rw [List.mem_singleton.mp hc] at he
        exact h (List.mem_eraseDups.mp (he ▸ hb))⟩

theorem eraseDups_sublist (xs : List α) : xs.eraseDups.Sublist xs := by
  induction xs using List.reverseRecOn with
  | nil => exact List.Sublist.refl []
  | append_singleton xs a ih =>
    rw [eraseDups_concat]
    split
    · exact ih.trans (List.sublist_append_left xs [a])
    · exact ih.append_right [a]

theorem perm_eraseDups {xs ys : List α} (h : xs.Perm ys) : xs.eraseDups.Perm ys.eraseDups := by
  refine (List.perm_ext_iff_of_nodup (nodup_eraseDups xs) (nodup_eraseDups ys)).mpr fun a => ?_
  rw [List.mem_eraseDups, List.mem_eraseDups, h.mem_iff]

end EraseDups

/-! ## Sorted sets of texts -/

namespace Text

theorem le_eq_true_iff {s t : Text} : le s t = true ↔ s ≤ t := by
  rw [← not_lt]
  induction s generalizing t with
  | nil => simp [le]
  | cons a s ih =>
    cases t with
    | nil => simp [le]
    | cons b t =>
      have hle : le (a :: s) (b :: t) = true ↔ a < b ∨ a = b ∧ le s t = true := by
        simp [le, Char.lt_def]
      rw [hle, ih, List.cons_lt_cons_iff]
      rcases lt_trichotomy a b with h | rfl | h
      · simp [h, h.ne', h.not_gt]
      · simp
      · simp [h, h.ne', h.not_gt]

theorem mem_sortedSet {t : Text} {texts : List Text} : t ∈ sortedSet texts ↔ t ∈ texts := by
  simp [sortedSet, List.mem_eraseDups, List.mem_mergeSort]

theorem pairwise_sortedSet (texts : List Text) : (sortedSet texts).Pairwise (· < ·) := by
  have hsorted : (texts.mergeSort le).Pairwise fun a b => le a b = true := by
    refine List.pairwise_mergeSort (fun a b c hab hbc => ?_) (fun a b => ?_) texts
    · rw [le_eq_true_iff] at hab hbc ⊢
      exact le_trans hab hbc
    · rw [Bool.or_eq_true, le_eq_true_iff, le_eq_true_iff]
      exact le_total a b
  have hdistinct : (sortedSet texts).Pairwise (· ≠ ·) := nodup_eraseDups _
  refine ((hsorted.sublist (eraseDups_sublist _)).and hdistinct).imp ?_
  rintro a b ⟨hle, hne⟩
  exact lt_of_le_of_ne (le_eq_true_iff.mp hle) hne

/-- A sorted set depends on its members only. -/
theorem sortedSet_congr {texts others : List Text} (h : ∀ t, t ∈ texts ↔ t ∈ others) :
    sortedSet texts = sortedSet others := by
  refine (pairwise_sortedSet texts).eq_of_mem_iff (pairwise_sortedSet others) fun t => ?_
  rw [mem_sortedSet, mem_sortedSet, h]

theorem sortedSet_eq_of_perm {texts sorted : List Text} (hsorted : sorted.Pairwise (· < ·))
    (hperm : sorted.Perm texts) : sortedSet texts = sorted := by
  refine (pairwise_sortedSet texts).eq_of_mem_iff hsorted fun t => ?_
  rw [mem_sortedSet, hperm.mem_iff]

theorem sortedSet_singleton (t : Text) : sortedSet [t] = [t] :=
  sortedSet_eq_of_perm (List.pairwise_singleton _ t) (.refl [t])

end Text

end MessageHarvest
