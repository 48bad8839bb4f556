import MessageHarvest.Script.Lexer
import MessageHarvest.Proofs.PhpQuoting

/-! # Texts written as JavaScript literals

Any text can be written between apostrophes, between double quotes or as a
template. A backslash stands before the characters that mean something there,
and between quotes a line feed is written as its escape. What is written so is
one lexeme, whatever stands around it, and stands for the text
(`lexeme_literal`). For the closing quote and for what is embedded it matters
only that a character is written as itself or as a backslash and one character
(`Escapes`). -/
namespace MessageHarvest.Text

open Text (opensHere_of_ne toNat_cases charOf_toNat)

/-! ## Text between quotes -/

/-- Between the quotes a character is written as itself, or as a backslash and one character. -/
structure Escapes (mark : Char) (write : Char → Text) : Prop where
  mark_ne : mark ≠ '\\'
  cases : ∀ c, (write c = [c] ∧ c ≠ '\\' ∧ c ≠ mark) ∨ ∃ d, write c = ['\\', d]

namespace Escapes

variable {mark : Char} {write : Char → Text}

/-- The closing quote is the one that was written last. -/
theorem closingQuote?_eq (h : Escapes mark write) {oneLine : Bool}
    (hline : oneLine = true → ∀ c, write c ≠ ['\n']) (s rest : Text) :
    closingQuote? mark oneLine (s.flatMap write ++ mark :: rest) =
      some ((s.flatMap write).length + 1) := by
  induction s with
  | nil => rw [List.flatMap_nil, List.nil_append, closingQuote?_cons _ _ h.mark_ne, if_pos rfl]; rfl
  | cons c s ih =>
    rw [List.flatMap_cons, List.append_assoc]
    rcases h.cases c with ⟨hself, hback, hmark⟩ | ⟨d, hd⟩
    · have hfeed : ¬ (oneLine && decide (c = '\n')) = true := by
        intro hboth
        simp only [Bool.and_eq_true, decide_eq_true_eq] at hboth
        exact hline hboth.1 c (hself.trans (by rw [hboth.2]))
      rw [hself, List.singleton_append, closingQuote?_cons _ _ hback, if_neg hmark, if_neg hfeed, ih]
      rfl
    · rw [hd, List.cons_append, List.cons_append, List.nil_append, closingQuote?, ih]
      rfl

/-- Where a character is written nothing is embedded, also behind backslashes. -/
theorem opensHere_eq_false (h : Escapes mark write) {opener : Text → Bool}
    (hnil : opener [] = false) (hback : ∀ cs, opener ('\\' :: cs) = false)
    (hself : ∀ (c : Char) (s : Text), write c = [c] → opener (c :: s.flatMap write) = false) (s : Text) :
    opensHere opener (s.flatMap write) = false := by
  induction s with
  | nil => exact hnil
  | cons c s ih =>
    rw [List.flatMap_cons]
    rcases h.cases c with ⟨hplain, hne, _⟩ | ⟨d, hd⟩
    · rw [hplain, List.singleton_append, opensHere_of_ne _ (by simp [hne])]
      exact hself c s hplain
    · rw [hd, List.cons_append, List.cons_append, List.nil_append]
      by_cases hb : d = '\\'
      · rw [hb, opensHere, ih]
      · rw [opensHere_of_ne _ (by simp [hb])]
        exact hback _

theorem interpolates_eq_false (h : Escapes mark write) {opener : Text → Bool}
    (hnil : opener [] = false) (hback : ∀ cs, opener ('\\' :: cs) = false)
    (hself : ∀ (c : Char) (s : Text), write c = [c] → opener (c :: s.flatMap write) = false)
    (afterBackslash : Bool) (s : Text) :
    interpolates opener afterBackslash (s.flatMap write) = false := by
  induction s generalizing afterBackslash with
  | nil => rfl
  | cons c s ih =>
    have hhere := h.opensHere_eq_false hnil hback hself (c :: s)
    rw [List.flatMap_cons] at hhere ⊢
    rcases h.cases c with ⟨hplain, _, _⟩ | ⟨d, hd⟩
    · rw [hplain, List.singleton_append] at hhere ⊢
      rw [interpolates, hhere, ih, Bool.and_false, Bool.or_false]
    · -- the second character of the pair stands right after its backslash
      rw [hd, List.cons_append, List.cons_append, List.nil_append] at hhere ⊢
      simp [interpolates, hhere, ih]

end Escapes

theorem not_isHighSurrogate (c : Char) : isHighSurrogate c.toNat = false := by
  have hvalid := toNat_cases c
  simp only [isHighSurrogate, Bool.and_eq_false_iff, decide_eq_false_iff_not]
  omega

/-- No two characters are halves of one. -/
theorem joinSurrogates_map_toNat (s : Text) : joinSurrogates (s.map Char.toNat) = s := by
  induction s with
  | nil => rfl
  | cons c s ih =>
    cases s with
    | nil => rw [List.map_singleton, joinSurrogates, charOf_toNat]
    | cons d s =>
      rw [List.map_cons, List.map_cons, joinSurrogates, not_isHighSurrogate, charOf_toNat]
      rw [List.map_cons] at ih
      rw [ih]
      rfl

end MessageHarvest.Text

namespace MessageHarvest.Script

/-! ## The three kinds of quotes -/

/-- The quotes in which a text can be written. -/
inductive Quoting where
  | single
  | double
  | template
deriving DecidableEq

namespace Quoting

/-- The character that stands on both sides of the text. -/
def mark : Quoting → Char
  | single => '\''
  | double => '"'
  | template => '\x60'

/-- Characters that are written with a backslash. -/
def special : Quoting → Char → Bool
  | single, c => c = '\\' || c = '\''
  | double, c => c = '\\' || c = '"'
  | template, c => c = '\\' || c = '\x60' || c = '$'

/-- A character as it stands between the quotes. -/
def escapeChar (q : Quoting) (c : Char) : Text :=
  if q.special c then ['\\', c]
  else if q ≠ template ∧ c = '\n' then ['\\', 'n']
  else [c]

/-- The text as it stands between the quotes. -/
def escape (q : Quoting) (s : Text) : Text := s.flatMap q.escapeChar

/-- The text as a literal. -/
def literal (q : Quoting) (s : Text) : Text := q.mark :: (q.escape s ++ [q.mark])

theorem ne_of_not_special {q : Quoting} {c : Char} (h : q.special c = false) :
    c ≠ '\\' ∧ c ≠ q.mark := by
  refine ⟨?_, ?_⟩
  · rintro rfl
    cases q <;> cases h
  · rintro rfl
    cases q <;> cases h

/-- What is written with a backslash is read as the character that was meant. -/
theorem escapeChar_cases (q : Quoting) (c : Char) :
    (q.escapeChar c = [c] ∧ q.special c = false ∧ (q ≠ template → c ≠ '\n')) ∨
      ∃ d, q.escapeChar c = ['\\', d] ∧ ∀ cs, escape? (d :: cs) = some ([c.toNat], 1) := by
  unfold escapeChar
  split
  · rename_i hspecial
    refine .inr ⟨c, rfl, fun cs => ?_⟩
    cases q <;> simp only [special, Bool.or_eq_true, decide_eq_true_eq] at hspecial
    · rcases hspecial with rfl | rfl <;> rfl
    · rcases hspecial with rfl | rfl <;> rfl
    · rcases hspecial with (rfl | rfl) | rfl <;> rfl
  · rename_i hspecial
    split
    · rename_i hfeed
      obtain ⟨_, rfl⟩ := hfeed
      exact .inr ⟨'n', rfl, fun _ => rfl⟩
    · rename_i hfeed
      exact .inl ⟨rfl, Bool.eq_false_iff.mpr hspecial, fun hq hc => hfeed ⟨hq, hc⟩⟩

theorem escapes (q : Quoting) : Text.Escapes q.mark q.escapeChar where
  mark_ne := by cases q <;> decide
  cases c := by
    rcases q.escapeChar_cases c with ⟨hself, hplain, _⟩ | ⟨d, hd, _⟩
    · exact .inl ⟨hself, ne_of_not_special hplain⟩
    · exact .inr ⟨d, hd⟩

/-- Only a template goes over a line feed, and only there one is written. -/
theorem closingQuote?_escape (q : Quoting) (s rest : Text) :
    Text.closingQuote? q.mark (q.mark ≠ '\x60') (q.escape s ++ q.mark :: rest) =
      some ((q.escape s).length + 1) := by
  refine q.escapes.closingQuote?_eq (fun hline c hfeed => ?_) s rest
  have hq : q ≠ template := by
    rintro rfl
    exact absurd hline (by decide)
  rcases q.escapeChar_cases c with ⟨hself, _, hne⟩ | ⟨d, hd, _⟩
  · exact hne hq (List.cons.inj (hself.symm.trans hfeed)).1
  · exact absurd (hd.symm.trans hfeed) (by simp)

end Quoting

/-- Every character stands for itself again. -/
theorem codes_escape (q : Quoting) (s : Text) : codes (q.escape s) = s.map Char.toNat := by
  induction s with
  | nil => exact codes.eq_1
  | cons c s ih =>
    have hcons : q.escape (c :: s) = q.escapeChar c ++ q.escape s := List.flatMap_cons
    rw [hcons]
    rcases q.escapeChar_cases c with ⟨hself, hplain, _⟩ | ⟨d, hd, hescape⟩
    · rw [hself, List.singleton_append, codes, if_neg (Quoting.ne_of_not_special hplain).1, ih]
      rfl
    · rw [hd, List.cons_append, List.singleton_append, codes, if_pos rfl, hescape]
      simp [ih]

/-- No expression starts in a template: a dollar sign has its backslash before it. -/
theorem interpolates_escape (s : Text) :
    Text.interpolates opensExpression false (Quoting.template.escape s) = false := by
  refine Quoting.template.escapes.interpolates_eq_false rfl (fun _ => rfl) (fun c s hc => ?_)
    false s
  have hdollar : c ≠ '$' := by
    rintro rfl
    cases hc
  unfold opensExpression
  split
  · simp_all
  · rfl

theorem inner_literal (q : Quoting) (s : Text) : Text.inner (q.literal s) = q.escape s := by
  simp [Text.inner, Quoting.literal]

theorem decode_literal (q : Quoting) (s : Text) : decode (q.literal s) = .ok (some s) := by
  have hembeds : (decide ((q.literal s).head? = some '\x60') &&
      Text.interpolates opensExpression false (q.escape s)) = false := by
    cases q with
    | single => rfl
    | double => rfl
    | template => rw [interpolates_escape, Bool.and_false]
  simp only [decode, inner_literal, hembeds, codes_escape, Text.tooLarge?_map_toNat,
    Text.joinSurrogates_map_toNat]
  rfl

theorem stringShape_literal (q : Quoting) (s : Text) :
    stringShape (q.literal s) = .token (.literal s) := by
  have hvalid : hasInvalidEscape (q.literal s) = false := by
    rw [hasInvalidEscape, inner_literal, codes_escape, Text.tooLarge?_map_toNat]
    rfl
  rw [stringShape, hvalid, decode_literal]

theorem string?_literal (q : Quoting) (s rest : Text) :
    string? q.mark (q.escape s ++ q.mark :: rest) =
      some (.token (.literal s), (q.escape s).length + 1) := by
  have htake : q.mark :: (q.escape s ++ q.mark :: rest).take ((q.escape s).length + 1) =
      q.literal s := by
    rw [Quoting.literal, List.take_append, List.take_of_length_le (Nat.le_succ _)]
    simp
  have hquote : isQuote q.mark = true := by
    cases q <;> rfl
  rw [string?, if_pos hquote, q.closingQuote?_escape, Option.map_some, htake, stringShape_literal]

/-- **A written text is read back.** As a literal it is one lexeme that stands for the text,
whatever stands before and behind it. -/
theorem lexeme_literal (mayStart : Bool) (q : Quoting) (s rest : Text) :
    lexeme mayStart q.mark (q.escape s ++ q.mark :: rest) =
      (.token (.literal s), (q.escape s).length + 1) := by
  have hstring := string?_literal q s rest
  have hslash : (decide (q.mark = '/') && mayStart) = false := by
    cases q <;> rfl
  have hcomment : comment? q.mark (q.escape s ++ q.mark :: rest) = none := by
    cases q <;> rfl
  have hspace : Text.isSpace q.mark = false := by
    cases q <;> decide
  simp only [lexeme, hslash, hspace, hcomment, hstring, Bool.false_eq_true, if_false]

end MessageHarvest.Script
