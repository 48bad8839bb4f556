import MessageHarvest.Php.Lexer
import MessageHarvest.Proofs.LineBoundary

/-! # Texts written as PHP literals

Any text can be written between apostrophes or between double quotes, with a
backslash before the characters that mean something there. What is written so
is one lexeme, whatever follows it, and stands for the text: the escapes are
undone, no variable is embedded and no escape is invalid
(`lexeme_literal`). -/
namespace MessageHarvest.Php

/-- The quotes in which a text can be written. -/
inductive Quoting where
  | single
  | double
deriving DecidableEq

namespace Quoting

/-- The character that stands on both sides of the text. -/
def mark : Quoting → Char
  | single => '\''
  | double => '"'

/-- Characters that are written with a backslash. -/
def special : Quoting → Char → Bool
  | single, c => c = '\\' || c = '\''
  | double, c => c = '\\' || c = '"' || c = '$'

/-- The text as it stands between the quotes. -/
def escape (q : Quoting) (s : Text) : Text :=
  s.flatMap fun c => if q.special c then ['\\', c] else [c]

/-- The text as a literal. -/
def literal (q : Quoting) (s : Text) : Text := q.mark :: (q.escape s ++ [q.mark])

theorem escape_nil (q : Quoting) : q.escape [] = [] := rfl

theorem escape_special {q : Quoting} {c : Char} (h : q.special c = true) (s : Text) :
    q.escape (c :: s) = '\\' :: c :: q.escape s := by
  simp [escape, h]

theorem escape_plain {q : Quoting} {c : Char} (h : q.special c = false) (s : Text) :
    q.escape (c :: s) = c :: q.escape s := by
  simp [escape, h]

theorem ne_backslash {q : Quoting} {c : Char} (h : q.special c = false) : c ≠ '\\' := by
  rintro rfl
  cases q <;> cases h

theorem ne_mark {q : Quoting} {c : Char} (h : q.special c = false) : c ≠ q.mark := by
  rintro rfl
  cases q <;> cases h

theorem mark_ne_backslash (q : Quoting) : q.mark ≠ '\\' := by
  cases q <;> decide

/-- The closing quote is the one that was written last. -/
theorem closingQuote?_escape (q : Quoting) (s rest : Text) :
    Text.closingQuote? q.mark false (q.escape s ++ q.mark :: rest) =
      some ((q.escape s).length + 1) := by
  induction s with
  | nil => rw [escape_nil, List.nil_append, Text.closingQuote?_cons _ _ q.mark_ne_backslash,
      if_pos rfl]; rfl
  | cons c s ih =>
    cases hc : q.special c with
    | true =>
      rw [escape_special hc, List.cons_append, List.cons_append, Text.closingQuote?, ih]
      simp
    | false =>
      rw [escape_plain hc, List.cons_append, Text.closingQuote?_cons _ _ (ne_backslash hc),
        if_neg (ne_mark hc), ih]
      simp

end Quoting

open Quoting (escape_nil escape_special escape_plain ne_backslash)

/-! ## Between apostrophes -/

theorem unescape_escape (s : Text) :
    Text.unescape (fun c => c = '\\' || c = '\'') (Quoting.single.escape s) = s := by
  induction s with
  | nil => rfl
  | cons c s ih =>
    cases hc : Quoting.single.special c with
    | true =>
      rw [escape_special hc, Text.unescape, ih]
      exact if_pos hc
    | false =>
      have hb := ne_backslash hc
      rw [escape_plain hc, Text.unescape, ih]
      simp [hb]

theorem inner_literal (q : Quoting) (s : Text) : Text.inner (q.literal s) = q.escape s := by
  simp [Text.inner, Quoting.literal]

theorem decodeSingle_literal (s : Text) : decodeSingle (Quoting.single.literal s) = s := by
  rw [decodeSingle, inner_literal, unescape_escape]

/-! ## Between double quotes -/

theorem escape?_special {c : Char} (h : Quoting.double.special c = true) (cs : Text) :
    escape? (c :: cs) = some (c.toNat, 1) := by
  simp only [Quoting.special, Bool.or_eq_true, decide_eq_true_eq] at h
  rcases h with (rfl | rfl) | rfl <;> rfl

/-- Every character stands for itself again. -/
theorem codes_escape (s : Text) : codes (Quoting.double.escape s) = s.map Char.toNat := by
  induction s with
  | nil => rw [escape_nil, codes]; rfl
  | cons c s ih =>
    cases hc : Quoting.double.special c with
    | true =>
      rw [escape_special hc, codes, if_pos rfl, escape?_special hc]
      simp [ih]
    | false => rw [escape_plain hc, codes, if_neg (ne_backslash hc), ih, List.map_cons]

theorem head?_escape_ne_dollar (s : Text) : (Quoting.double.escape s).head? ≠ some '$' := by
  cases s with
  | nil => simp [escape_nil]
  | cons c s =>
    cases hc : Quoting.double.special c with
    | true => simp [escape_special hc]
    | false =>
      have hne : c ≠ '$' := by
        rintro rfl
        cases hc
      simpa [escape_plain hc] using hne

theorem opensVariable_cons {c : Char} {cs : Text} (hc : c ≠ '$') (hcs : cs.head? ≠ some '$') :
    opensVariable (c :: cs) = false := by
  unfold opensVariable
  split <;> simp_all

/-- Where a character is written no variable starts: a dollar sign has its backslash before it. -/
theorem opensHere_escape (s : Text) :
    Text.opensHere opensVariable (Quoting.double.escape s) = false := by
  induction s with
  | nil => rfl
  | cons c s ih =>
    cases hc : Quoting.double.special c with
    | true =>
      rw [escape_special hc]
      by_cases hb : c = '\\'
      · rw [hb, Text.opensHere, ih]
      · rw [Text.opensHere_of_ne _ (by simp [hb])]
        rfl
    | false =>
      have hb := ne_backslash hc
      have hdollar : c ≠ '$' := by
        rintro rfl
        cases hc
      rw [escape_plain hc, Text.opensHere_of_ne _ (by simp [hb]),
        opensVariable_cons hdollar (head?_escape_ne_dollar s)]

theorem interpolates_escape (afterBackslash : Bool) (s : Text) :
    Text.interpolates opensVariable afterBackslash (Quoting.double.escape s) = false := by
  induction s generalizing afterBackslash with
  | nil => rfl
  | cons c s ih =>
    have hhere := opensHere_escape (c :: s)
    cases hc : Quoting.double.special c with
    | true =>
      rw [escape_special hc] at hhere ⊢
      simp [Text.interpolates, hhere, ih]
    | false =>
      rw [escape_plain hc] at hhere ⊢
      simp [Text.interpolates, hhere, ih]

theorem decodeDouble_literal (s : Text) :
    decodeDouble (Quoting.double.literal s) = .ok (some s) := by
  have hchars : (s.map Char.toNat).map Text.charOf = s := by
    rw [List.map_map]
    exact (List.map_congr_left fun c _ => Text.charOf_toNat c).trans (List.map_id s)
  simp only [decodeDouble, inner_literal, interpolates_escape, codes_escape, Text.tooLarge?_map_toNat,
    hchars]
  rfl

theorem hasInvalidEscape_literal (s : Text) :
    hasInvalidEscape (Quoting.double.literal s) = false := by
  rw [hasInvalidEscape, inner_literal, codes_escape, Text.tooLarge?_map_toNat]
  rfl

/-! ## The lexeme -/

theorem string?_literal (q : Quoting) (s rest : Text) :
    string? q.mark (q.escape s ++ q.mark :: rest) =
      some (.token (.literal s), (q.escape s).length + 1) := by
  have hclose := q.closingQuote?_escape s rest
  have htake : q.mark :: (q.escape s ++ q.mark :: rest).take ((q.escape s).length + 1) =
      q.literal s := by
    rw [Quoting.literal, List.take_append, List.take_of_length_le (Nat.le_succ _)]
    simp
  cases q with
  | single =>
    simp only [Quoting.mark] at hclose htake ⊢
    simp only [string?, hclose, Option.map_some, htake, decodeSingle_literal]
  | double =>
    have hshape : doubleShape (Quoting.double.literal s) = .token (.literal s) := by
      rw [doubleShape, hasInvalidEscape_literal, decodeDouble_literal]
    simp only [Quoting.mark] at hclose htake ⊢
    simp only [string?, hclose, Option.map_some, htake, hshape]

/-- **A written text is read back.** As a literal it is one lexeme that stands for the text,
whatever follows it. -/
theorem lexeme_literal (q : Quoting) (s rest : Text) :
    lexeme q.mark (q.escape s ++ q.mark :: rest) =
      (.token (.literal s), (q.escape s).length + 1) := by
  have hstring := string?_literal q s rest
  have hcomment : comment? q.mark (q.escape s ++ q.mark :: rest) = none := by
    cases q <;> rfl
  have hclose : (q.mark = '?' && (q.escape s ++ q.mark :: rest).head? = some '>') = false := by
    cases q <;> rfl
  have hspace : Text.isSpace q.mark = false := by
    cases q <;> decide
  simp only [lexeme, hclose, hspace, hcomment, hstring, Bool.false_eq_true, if_false]

end MessageHarvest.Php
