import MessageHarvest.Script.Literal
import MessageHarvest.Proofs.PhpQuoting

/-! # Where a literal embeds something

Behind a backslash a character opens nothing, and a backslash may itself be
behind one. Read from left to right this is simple: each backslash takes the
next character along, and what is left are the places where something can open
(`Text.stops`). The decoders do not read so. They look at every place that is
not right behind a backslash for an opener with pairs of backslashes before it.
The two agree since both go over a pair at once (`Text.interpolates_pair`):
behind it the search finds what it finds from there on, and behind a run of
backslashes only the parity of its length is left. -/
namespace MessageHarvest

open Text (opensHere_of_ne)

namespace Text

/-- What is left of the text at each place where a reader stands who goes from left to right and
passes over the character behind every backslash. -/
def stops : Text → List Text
  | [] => []
  | '\\' :: c :: cs => ('\\' :: c :: cs) :: stops cs
  | c :: cs => (c :: cs) :: stops cs

example : stops ['\\', '$', '$', 'a'] = [['\\', '$', '$', 'a'], ['$', 'a'], ['a']] := rfl

/-- The reader gets to a place where something opens. -/
def Embeds (Opens : Text → Prop) (s : Text) : Prop := ∃ rest ∈ stops s, Opens rest

/-- What a search looks for. It is not empty and does not start with a backslash. -/
structure IsOpener (opener : Text → Bool) (Opens : Text → Prop) : Prop where
  opens_iff : ∀ s, opener s = true ↔ Opens s
  nil : opener [] = false
  backslash : ∀ cs, opener ('\\' :: cs) = false

variable {opener : Text → Bool} {Opens : Text → Prop}

theorem stops_cons {c : Char} (hc : c ≠ '\\') (cs : Text) :
    stops (c :: cs) = (c :: cs) :: stops cs := by
  rw [stops]
  intro d ds hd
  exact absurd hd hc

theorem suffix_of_mem_stops {s rest : Text} (h : rest ∈ stops s) : rest <:+ s := by
  fun_induction stops s with
  | case1 => cases h
  | case2 c cs ih =>
    rcases List.mem_cons.mp h with rfl | hlater
    · exact List.suffix_rfl
    · exact (ih hlater).trans ((List.suffix_cons c cs).trans (List.suffix_cons _ _))
  | case3 c cs _ ih =>
    rcases List.mem_cons.mp h with rfl | hlater
    · exact List.suffix_rfl
    · exact (ih hlater).trans (List.suffix_cons c cs)

theorem embeds_cons {c : Char} (hc : c ≠ '\\') (cs : Text) :
    Embeds Opens (c :: cs) ↔ Opens (c :: cs) ∨ Embeds Opens cs := by
  rw [Embeds, stops_cons hc, List.exists_mem_cons_iff]
  rfl

namespace IsOpener

theorem not_opens_backslash (h : IsOpener opener Opens) (cs : Text) : ¬ Opens ('\\' :: cs) :=
  fun hopens => Bool.eq_false_iff.mp (h.backslash cs) ((h.opens_iff _).mpr hopens)

theorem embeds_pair (h : IsOpener opener Opens) (c : Char) (cs : Text) :
    Embeds Opens ('\\' :: c :: cs) ↔ Embeds Opens cs := by
  rw [Embeds, stops, List.exists_mem_cons_iff]
  exact or_iff_right (h.not_opens_backslash _)

end IsOpener

/-! ## The search -/

theorem interpolates_cons {c : Char} (hc : c ≠ '\\') (cs : Text) :
    interpolates opener false (c :: cs) = (opener (c :: cs) || interpolates opener false cs) := by
  have hhere : opensHere opener (c :: cs) = opener (c :: cs) :=
    opensHere_of_ne opener (by simp [hc])
  have hafter : (c == '\\') = false := beq_false_of_ne hc
  rw [interpolates, hhere, hafter]
  rfl

/-- The place right behind a backslash is the only one that the search leaves out. -/
theorem opensHere_or_interpolates (h : IsOpener opener Opens) (s : Text) :
    (opensHere opener s || interpolates opener true s) = interpolates opener false s := by
  cases s with
  | nil => exact congrArg (· || false) h.nil
  | cons c cs => rfl

/-- The search goes over a backslash together with the character behind it. -/
theorem interpolates_pair (h : IsOpener opener Opens) (c : Char) (cs : Text) :
    interpolates opener false ('\\' :: c :: cs) = interpolates opener false cs := by
  have hstep : interpolates opener false ('\\' :: c :: cs) =
      (opensHere opener ('\\' :: c :: cs) || interpolates opener (c == '\\') cs) := rfl
  by_cases hc : c = '\\'
  · -- a pair of backslashes: an opener may follow it, also behind more pairs
    subst hc
    rw [hstep, opensHere]
    exact opensHere_or_interpolates h cs
  · have hhere : opensHere opener ('\\' :: c :: cs) = false := by
      rw [opensHere_of_ne opener (by simp [hc])]
      exact h.backslash _
    rw [hstep, hhere, beq_false_of_ne hc, Bool.false_or]

/-- **The search finds what the reader gets to.** -/
theorem interpolates_iff (h : IsOpener opener Opens) (s : Text) :
    interpolates opener false s = true ↔ Embeds Opens s := by
  fun_induction stops s with
  | case1 =>
    constructor
    · intro hfound
      cases hfound
    · rintro ⟨rest, hmem, _⟩
      cases hmem
  | case2 c cs ih => rw [interpolates_pair h, ih, h.embeds_pair]
  | case3 c cs hpair ih =>
    by_cases hc : c = '\\'
    · -- a backslash at the very end
      subst hc
      cases cs with
      | nil =>
        have hhere : opensHere opener ['\\'] = false := h.backslash []
        have hleft : ¬ Embeds Opens ['\\'] := by
          rintro ⟨rest, hmem, hopens⟩
          obtain rfl := List.mem_singleton.mp hmem
          exact h.not_opens_backslash [] hopens
        simp [interpolates, hhere, hleft]
      | cons d ds => exact absurd rfl (hpair d ds rfl)
    · rw [interpolates_cons hc, Bool.or_eq_true, h.opens_iff, ih, embeds_cons hc]

end Text

/-! ## Variables in double quotes -/

namespace Php

/-- A variable or an expression in braces starts the text. -/
inductive OpensVariable : Text → Prop
  | name {c : Char} (hc : Text.isNameStart c = true) (cs : Text) : OpensVariable ('$' :: c :: cs)
  | dollarBrace (cs : Text) : OpensVariable ('$' :: '{' :: cs)
  | braceDollar (cs : Text) : OpensVariable ('{' :: '$' :: cs)

theorem isOpener : Text.IsOpener opensVariable OpensVariable where
  opens_iff s := by
    constructor
    · intro h
      unfold opensVariable at h
      split at h
      · rename_i c cs
        rcases Bool.or_eq_true_iff.mp h with hname | hbrace
        · exact .name hname cs
        · obtain rfl := of_decide_eq_true hbrace
          exact .dollarBrace cs
      · exact .braceDollar _
      · cases h
    · intro h
      cases h with
      | name hc cs => exact Bool.or_eq_true_iff.mpr (.inl hc)
      | dollarBrace cs => simp [opensVariable]
      | braceDollar cs => rfl
  nil := rfl
  backslash _ := rfl

theorem decodeDouble_of_embeds {s : Text} (h : Text.Embeds OpensVariable (Text.inner s)) :
    decodeDouble s = .ok none := by
  rw [decodeDouble, (Text.interpolates_iff isOpener _).mpr h]
  rfl

/-- Where nothing is embedded a literal has a value, unless a number in it is too large. -/
theorem decodeDouble_of_not_embeds {s : Text} (h : ¬ Text.Embeds OpensVariable (Text.inner s)) :
    decodeDouble s = (Text.tooLarge? (codes (Text.inner s))).elim
      (.ok (some ((codes (Text.inner s)).map Text.charOf))) .error := by
  have hnone : Text.interpolates opensVariable false (Text.inner s) = false :=
    Bool.eq_false_iff.mpr fun hfound => h ((Text.interpolates_iff isOpener _).mp hfound)
  rw [decodeDouble, hnone]
  cases Text.tooLarge? (codes (Text.inner s)) <;> rfl

theorem decodeDouble_eq_none_iff (s : Text) :
    decodeDouble s = .ok none ↔ Text.Embeds OpensVariable (Text.inner s) := by
  refine ⟨fun hnone => ?_, decodeDouble_of_embeds⟩
  by_contra hnot
  rw [decodeDouble_of_not_embeds hnot] at hnone
  cases hlarge : Text.tooLarge? (codes (Text.inner s)) <;> simp [hlarge] at hnone

end Php

/-! ## Expressions in templates -/

namespace Script

/-- An expression starts the text. -/
inductive OpensExpression : Text → Prop
  | mk (cs : Text) : OpensExpression ('$' :: '{' :: cs)

theorem isOpener : Text.IsOpener opensExpression OpensExpression where
  opens_iff s := by
    constructor
    · intro h
      unfold opensExpression at h
      split at h
      · exact .mk _
      · cases h
    · rintro ⟨cs⟩
      rfl
  nil := rfl
  backslash _ := rfl

theorem dollar_mem_of_embeds {s : Text} (h : Text.Embeds OpensExpression s) : '$' ∈ s := by
  obtain ⟨_, hmem, ⟨cs⟩⟩ := h
  exact (Text.suffix_of_mem_stops hmem).mem List.mem_cons_self

/-- The literal is a template that embeds an expression. -/
def EmbedsExpression (s : Text) : Prop :=
  s.head? = some '\x60' ∧ Text.Embeds OpensExpression (Text.inner s)

theorem decode_of_embeds {s : Text} (h : EmbedsExpression s) : decode s = .ok none := by
  rw [decode, h.1, (Text.interpolates_iff isOpener _).mpr h.2]
  rfl

/-- Where nothing is embedded a literal has a value, unless a number in it is too large. -/
theorem decode_of_not_embeds {s : Text} (h : ¬ EmbedsExpression s) :
    decode s = (Text.tooLarge? (codes (Text.inner s))).elim
      (.ok (some (Text.joinSurrogates (codes (Text.inner s))))) .error := by
  have hnone : (decide (s.head? = some '\x60') &&
      Text.interpolates opensExpression false (Text.inner s)) = false := by
    refine Bool.eq_false_iff.mpr fun hfound => h ?_
    obtain ⟨hhead, hembeds⟩ := Bool.and_eq_true_iff.mp hfound
    exact ⟨of_decide_eq_true hhead, (Text.interpolates_iff isOpener _).mp hembeds⟩
  rw [decode, hnone]
  cases Text.tooLarge? (codes (Text.inner s)) <;> rfl

theorem decode_eq_none_iff (s : Text) : decode s = .ok none ↔ EmbedsExpression s := by
  refine ⟨fun hnone => ?_, decode_of_embeds⟩
  by_contra hnot
  rw [decode_of_not_embeds hnot] at hnone
  cases hlarge : Text.tooLarge? (codes (Text.inner s)) <;> simp [hlarge] at hnone

end Script

/-- **What is embedded is found, and nothing else.** A literal in double quotes has no value just if
the reader gets to a dollar sign before a name or a brace, or to a brace before a dollar sign. Of
the other literals only a template can be without a value, and is just if the reader gets to a
dollar sign before a brace. -/
theorem interpolation_found_exactly (s : Text) :
    (Php.decodeDouble s = .ok none ↔ Text.Embeds Php.OpensVariable (Text.inner s)) ∧
      (Script.decode s = .ok none ↔
        s.head? = some '\x60' ∧ Text.Embeds Script.OpensExpression (Text.inner s)) :=
  ⟨Php.decodeDouble_eq_none_iff s, Script.decode_eq_none_iff s⟩

end MessageHarvest
