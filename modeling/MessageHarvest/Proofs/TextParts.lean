import MessageHarvest.Text.Char
import Mathlib.Data.List.Basic

/-! # What trimming and cutting leave

A trimmed text neither starts nor ends with a character that trimming removes,
and a text of this kind is left as it is. Between the separators at which a text
is cut no separator is left, and a separator parts what is cut on its two
sides. -/
namespace MessageHarvest.Text

/-! ## Trimming -/

/-- The text does not start with a character that trimming removes. -/
def TightStart (s : Text) : Prop := ∀ c ∈ s.head?, isTrimmed c = false

/-- The text does not end with a character that trimming removes. -/
def TightEnd (s : Text) : Prop := ∀ c ∈ s.getLast?, isTrimmed c = false

instance (s : Text) : Decidable s.TightStart :=
  decidable_of_iff ((s.head?.all fun c => !isTrimmed c) = true)
    (by simp [TightStart, Option.all_eq_true])

instance (s : Text) : Decidable s.TightEnd :=
  decidable_of_iff ((s.getLast?.all fun c => !isTrimmed c) = true)
    (by simp [TightEnd, Option.all_eq_true])

theorem tightStart_dropWhile (s : Text) : TightStart (s.dropWhile isTrimmed) := by
  intro c hc
  have hnot := List.head?_dropWhile_not isTrimmed s
  rw [Option.mem_def.mp hc] at hnot
  simpa using hnot

theorem tightEnd_trimRight (s : Text) : TightEnd (trimRight s) := by
  unfold TightEnd trimRight
  rw [List.getLast?_reverse]
  exact tightStart_dropWhile s.reverse

theorem prefix_trimRight (s : Text) : trimRight s <+: s := by
  rw [← List.reverse_suffix, trimRight, List.reverse_reverse]
  exact List.dropWhile_suffix _

theorem dropWhile_eq_self {s : Text} (h : TightStart s) : s.dropWhile isTrimmed = s := by
  cases s with
  | nil => rfl
  | cons c cs => exact List.dropWhile_cons_of_neg (by simpa using h c rfl)

theorem trimRight_eq_self {s : Text} (h : TightEnd s) : trimRight s = s := by
  have hreverse : TightStart s.reverse := by
    unfold TightStart
    rw [List.head?_reverse]
    exact h
  rw [trimRight, dropWhile_eq_self hreverse, List.reverse_reverse]

theorem tightStart_trim (s : Text) : TightStart (trim s) := by
  intro c hc
  obtain ⟨rest, hrest⟩ := prefix_trimRight (s.dropWhile isTrimmed)
  have hhead : (trimRight (s.dropWhile isTrimmed)).head? = some c := hc
  apply tightStart_dropWhile s c
  rw [← hrest, List.head?_append, hhead]
  rfl

theorem tightEnd_trim (s : Text) : TightEnd (trim s) := tightEnd_trimRight _

theorem trim_eq_self {s : Text} (hstart : TightStart s) (hend : TightEnd s) : trim s = s := by
  rw [trim, dropWhile_eq_self hstart, trimRight_eq_self hend]

theorem trim_cons_of_isTrimmed {c : Char} (hc : isTrimmed c = true) (s : Text) :
    trim (c :: s) = trim s := by
  rw [trim, List.dropWhile_cons_of_pos hc, trim]

theorem mem_of_mem_trim {c : Char} {s : Text} (h : c ∈ trim s) : c ∈ s :=
  (List.dropWhile_sublist _).mem ((prefix_trimRight _).mem h)

/-! ## Cutting -/

variable {isSeparator : Char → Bool}

theorem pieces_ne_nil (isSeparator : Char → Bool) (s : Text) : pieces isSeparator s ≠ [] := by
  cases s with
  | nil => simp [pieces]
  | cons c s =>
    rw [pieces]
    split
    · simp
    · split <;> simp

theorem pieces_append {c : Char} (hc : isSeparator c = true) (s rest : Text) :
    pieces isSeparator (s ++ c :: rest) = pieces isSeparator s ++ pieces isSeparator rest := by
  induction s with
  | nil => simp [pieces, hc]
  | cons d s ih =>
    rw [List.cons_append, pieces, ih, pieces]
    split
    · rfl
    · cases hpieces : pieces isSeparator s with
      | nil => exact absurd hpieces (pieces_ne_nil isSeparator s)
      | cons piece more => rfl

theorem pieces_eq_singleton {s : Text} (h : ∀ c ∈ s, isSeparator c = false) :
    pieces isSeparator s = [s] := by
  induction s with
  | nil => rfl
  | cons c s ih =>
    obtain ⟨hc, hs⟩ := List.forall_mem_cons.mp h
    rw [pieces, ih hs, hc]
    rfl

theorem mem_of_mem_pieces {s piece : Text} {c : Char}
    (hp : piece ∈ pieces isSeparator s) (hc : c ∈ piece) : c ∈ s := by
  induction s generalizing piece with
  | nil =>
    rw [pieces, List.mem_singleton] at hp
    rw [hp] at hc
    exact hc
  | cons d s ih =>
    rw [pieces] at hp
    split at hp
    · rcases List.mem_cons.mp hp with rfl | hp
      · cases hc
      · exact List.mem_cons_of_mem d (ih hp hc)
    · split at hp
      · rw [List.mem_singleton] at hp
        rw [hp, List.mem_singleton] at hc
        exact hc ▸ List.mem_cons_self
      · rename_i first others hpieces
        rcases List.mem_cons.mp hp with rfl | hp
        · rcases List.mem_cons.mp hc with rfl | hc
          · exact List.mem_cons_self
          · exact List.mem_cons_of_mem d (ih (hpieces ▸ List.mem_cons_self) hc)
        · exact List.mem_cons_of_mem d (ih (hpieces ▸ List.mem_cons_of_mem first hp) hc)

theorem not_isSeparator_of_mem_pieces {s piece : Text} (h : piece ∈ pieces isSeparator s) :
    ∀ c ∈ piece, isSeparator c = false := by
  induction s generalizing piece with
  | nil =>
    rw [pieces, List.mem_singleton] at h
    simp [h]
  | cons d s ih =>
    rw [pieces] at h
    cases hpieces : pieces isSeparator s with
    | nil => exact absurd hpieces (pieces_ne_nil isSeparator s)
    | cons first more =>
      rw [hpieces] at h ih
      split at h
      · rcases List.mem_cons.mp h with rfl | h
        · simp
        · exact ih h
      · rename_i hd
        rcases List.mem_cons.mp h with rfl | h
        · exact List.forall_mem_cons.mpr ⟨by simpa using hd, ih List.mem_cons_self⟩
        · exact ih (List.mem_cons_of_mem first h)

end MessageHarvest.Text
