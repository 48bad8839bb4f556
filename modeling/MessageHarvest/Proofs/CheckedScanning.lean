import MessageHarvest.Catalog.Adding
import MessageHarvest.Text.Integer
import MessageHarvest.Proofs.PhpBoundary
import MessageHarvest.Proofs.ScriptBoundary
import Mathlib.Data.List.Induction

/-! # Scanning with escapes that may name no character

An escape writes a character by its number, and not every number is one of a
character. A literal is looked through for such numbers before it is decoded,
and only those in braces are looked at. Here a literal is decoded with a
conversion that fails on a number beyond the last code point, and the scan ends
with that failure. `Php.checkedScan_eq` and `Script.checkedScan_eq` show that it
never does: the escapes that are not looked at have too few digits to go so far
(`Text.Numbered`), and the others were. -/
namespace MessageHarvest

/-- Why reading a file could end early. -/
inductive Failure where
  | tooLarge (cause : TooLarge)
  | outOfRange (cause : OutOfRange)
  | emptyStack
  | insertion (cause : InsertError)
  | tooManyDigits (cause : TooManyDigits)
deriving DecidableEq

/-- What an operation gives, unless it fails. -/
abbrev Checked (α : Type) := Except Failure α

namespace Checked

theorem ok_bind {α β : Type} (x : α) (f : α → Checked β) :
    ((.ok x : Checked α) >>= f) = f x := rfl

theorem map_ok {α β : Type} (x : α) (f : α → β) :
    (Except.map f (.ok x) : Checked β) = .ok (f x) := rfl

/-- Where no step fails, a list is gone through to its end. -/
theorem mapM_ok {α β : Type} {f : α → Checked β} {g : α → β} {xs : List α}
    (h : ∀ x ∈ xs, f x = .ok (g x)) : xs.mapM f = .ok (xs.map g) := by
  induction xs with
  | nil => rfl
  | cons x xs ih =>
    have htail := ih fun y hy => h y (List.mem_cons_of_mem x hy)
    rw [List.mapM_cons, h x List.mem_cons_self, ok_bind, htail]
    rfl

end Checked

/-! ## Escapes by number -/

namespace Text

/-- The number in braces that an escape writes. -/
def bracedNumber? : Text → Option Nat
  | 'u' :: cs => (braced? cs).map Prod.fst
  | _ => none

/-- The escape that starts with a character. -/
def escapeAt? (escape? : Text → Option (List Nat × Nat)) (c : Char) (cs : Text) :
    Option (List Nat × Nat) :=
  if c = '\\' then escape? cs else none

/-- An escape writes a number in braces that is beyond the last code point. -/
def bracesTooLarge (escape? : Text → Option (List Nat × Nat)) : Text → Bool
  | [] => false
  | c :: cs =>
    match escapeAt? escape? c cs with
    | some e =>
      (bracedNumber? cs).any (fun n => maxCodePoint < n) || bracesTooLarge escape? (cs.drop e.2)
    | none => bracesTooLarge escape? cs
termination_by s => s.length
decreasing_by all_goals simp only [List.length_cons, List.length_drop]; omega

/-- The code point of a number. -/
def checkedCode (n : Nat) : Checked Nat :=
  if maxCodePoint < n then .error (.tooLarge ⟨n⟩) else .ok n

/-- The code points of a text, where the number of each escape is converted. -/
def checkedCodes (escape? : Text → Option (List Nat × Nat)) : Text → Checked (List Nat)
  | [] => pure []
  | c :: cs =>
    match escapeAt? escape? c cs with
    | some e => do
      let written ← e.1.mapM checkedCode
      let rest ← checkedCodes escape? (cs.drop e.2)
      pure (written ++ rest)
    | none => do
      let rest ← checkedCodes escape? cs
      pure (c.toNat :: rest)
termination_by s => s.length
decreasing_by all_goals simp only [List.length_cons, List.length_drop]; omega

/-- How the escapes of a language write numbers: in braces any, and otherwise only small ones. -/
structure Numbered (escape? : Text → Option (List Nat × Nat)) (codes : Text → List Nat) :
    Prop where
  nil : codes [] = []
  cons : ∀ c cs, codes (c :: cs) =
    match escapeAt? escape? c cs with
    | some e => e.1 ++ codes (cs.drop e.2)
    | none => c.toNat :: codes cs
  braced : ∀ cs n, bracedNumber? cs = some n → ∃ k, escape? cs = some ([n], k)
  small : ∀ cs e, escape? cs = some e → bracedNumber? cs = none → ∀ n ∈ e.1, n ≤ maxCodePoint

theorem toNat_le_maxCodePoint (c : Char) : c.toNat ≤ maxCodePoint := by
  have hvalid := c.valid
  simp only [UInt32.isValidChar, Nat.isValidChar] at hvalid
  show c.val.toNat ≤ 0x10FFFF
  omega

theorem isSome_tooLarge? (codes : List Nat) :
    (tooLarge? codes).isSome = codes.any fun n => maxCodePoint < n := by
  rw [tooLarge?, Option.isSome_map, List.isSome_find?]

namespace Numbered

variable {escape? : Text → Option (List Nat × Nat)} {codes : Text → List Nat}

/-- Of the numbers of one escape, the one in braces alone can be too large. -/
theorem any_written (h : Numbered escape? codes) {c : Char} {cs : Text} {e : List Nat × Nat}
    (he : escapeAt? escape? c cs = some e) :
    e.1.any (fun n => maxCodePoint < n) =
      (bracedNumber? cs).any (fun n => maxCodePoint < n) := by
  have hescape : escape? cs = some e := by
    rw [escapeAt?] at he
    split at he
    · exact he
    · cases he
  cases hbraced : bracedNumber? cs with
  | some n =>
    obtain ⟨k, hk⟩ := h.braced cs n hbraced
    rw [hescape] at hk
    cases hk
    simp
  | none =>
    have hsmall := h.small cs e hescape hbraced
    simp only [Option.any_none, List.any_eq_false, decide_eq_true_eq]
    intro n hn
    exact Nat.not_lt.mpr (hsmall n hn)

/-- To look at the numbers in braces is to look at all. -/
theorem bracesTooLarge_eq (h : Numbered escape? codes) (s : Text) :
    bracesTooLarge escape? s = (codes s).any fun n => maxCodePoint < n := by
  fun_induction bracesTooLarge escape? s with
  | case1 => rw [h.nil]; rfl
  | case2 c cs e he ih =>
    rw [h.cons, he]
    simp only [List.any_append, h.any_written he, ih]
  | case3 c cs he ih =>
    have hnot := Nat.not_lt.mpr (toNat_le_maxCodePoint c)
    rw [h.cons, he, ih]
    simp [hnot]

theorem mapM_checkedCode {ns : List Nat} (h : ns.any (fun n => maxCodePoint < n) = false) :
    ns.mapM checkedCode = .ok ns := by
  have hall : ∀ n ∈ ns, checkedCode n = .ok n := by
    intro n hn
    have hle := List.any_eq_false.mp h n hn
    rw [checkedCode, if_neg (by simpa using hle)]
  rw [Checked.mapM_ok hall, List.map_id']

/-- A text that was looked through is decoded to its end. -/
theorem checkedCodes_eq (h : Numbered escape? codes) {s : Text}
    (hs : bracesTooLarge escape? s = false) : checkedCodes escape? s = .ok (codes s) := by
  fun_induction checkedCodes escape? s with
  | case1 => rw [h.nil]; rfl
  | case2 c cs e he ih =>
    rw [bracesTooLarge, he] at hs
    obtain ⟨hhere, hrest⟩ := Bool.or_eq_false_iff.mp hs
    rw [mapM_checkedCode ((h.any_written he).trans hhere), Checked.ok_bind, ih hrest, h.cons, he]
    rfl
  | case3 c cs he ih =>
    rw [bracesTooLarge, he] at hs
    rw [ih hs, h.cons, he]
    rfl

end Numbered

/-! ## Numbers of few digits -/

theorem hexDigitValue_le {c : Char} (h : isHexDigit c = true) : hexDigitValue c ≤ 15 := by
  simp only [isHexDigit, Char.isDigit, Bool.or_eq_true, Bool.and_eq_true, decide_eq_true_eq,
    Char.le_def, UInt32.le_iff_toNat_le] at h
  simp only [hexDigitValue, Char.isDigit, Bool.and_eq_true, decide_eq_true_eq, Char.le_def,
    UInt32.le_iff_toNat_le, Char.toNat]
  have h0 : '0'.val.toNat = 48 := rfl
  have h9 : '9'.val.toNat = 57 := rfl
  have ha : 'a'.val.toNat = 97 := rfl
  have hf : 'f'.val.toNat = 102 := rfl
  have hA : 'A'.val.toNat = 65 := rfl
  have hF : 'F'.val.toNat = 70 := rfl
  split
  · omega
  · split <;> omega

/-- So many hexadecimal digits write no more than the largest number of so many digits. -/
theorem hexValue_lt {digits : Text} (h : ∀ c ∈ digits, isHexDigit c = true) :
    hexValue digits < Nat.pow 16 digits.length := by
  induction digits using List.reverseRecOn with
  | nil => exact Nat.zero_lt_one
  | append_singleton digits c ih =>
    have hdigit := hexDigitValue_le (h c (by simp))
    have hbefore := ih fun d hd => h d (by simp [hd])
    have hvalue : hexValue (digits ++ [c]) = 16 * hexValue digits + hexDigitValue c := by
      rw [hexValue, List.foldl_append]
      rfl
    have hpow : Nat.pow 16 (digits ++ [c]).length = Nat.pow 16 digits.length * 16 := by
      rw [List.length_append, List.length_singleton]
      rfl
    rw [hvalue, hpow]
    omega

/-- Up to four hexadecimal digits write a code point. -/
theorem hexValue_le_maxCodePoint {digits : Text} (h : ∀ c ∈ digits, isHexDigit c = true)
    (hlen : digits.length ≤ 4) : hexValue digits ≤ maxCodePoint := by
  have hlt := hexValue_lt h
  have hpow : Nat.pow 16 digits.length ≤ Nat.pow 16 4 := Nat.pow_le_pow_right (by decide) hlen
  have hfour : Nat.pow 16 4 ≤ maxCodePoint := by decide
  omega

theorem fixedHex?_le {width n : Nat} {s : Text} (h : fixedHex? width s = some n)
    (hwidth : width ≤ 4) : n ≤ maxCodePoint := by
  rw [fixedHex?] at h
  split at h
  · rename_i hdigits
    cases h
    simp only [Bool.and_eq_true, decide_eq_true_eq, List.all_eq_true] at hdigits
    exact hexValue_le_maxCodePoint hdigits.2 (by omega)
  · cases h

end Text

/-! ## Literals and lexemes -/

/-- The kind of a string in quotes. It is decoded only if it was looked through. -/
def checkedShape (escape? : Text → Option (List Nat × Nat)) (embeds : Bool)
    (join : List Nat → Text) (inner : Text) : Checked Shape :=
  if Text.bracesTooLarge escape? inner then pure (.broken .badEscape)
  else if embeds then pure (.token .interpolated)
  else do
    let codes ← Text.checkedCodes escape? inner
    pure (.token (.literal (join codes)))

theorem Text.Numbered.checkedShape_eq {escape? : Text → Option (List Nat × Nat)}
    {codes : Text → List Nat} (h : Text.Numbered escape? codes) (embeds : Bool)
    (join : List Nat → Text) (inner : Text) :
    checkedShape escape? embeds join inner = .ok
      (if (Text.tooLarge? (codes inner)).isSome then .broken .badEscape
        else if embeds then .token .interpolated
        else .token (.literal (join (codes inner)))) := by
  rw [checkedShape, Text.isSome_tooLarge?, ← h.bracesTooLarge_eq]
  cases hbraces : Text.bracesTooLarge escape? inner with
  | true => rfl
  | false =>
    rw [h.checkedCodes_eq hbraces]
    cases embeds <;> rfl

/-- Cuts a source into lexemes, one after another from the front. -/
def checkedLexemes {σ : Type} (front : σ → Char → Text → Checked (Shape × Nat))
    (after : σ → Lexeme → σ) : σ → Text → Checked (List Lexeme)
  | _, [] => pure []
  | s, c :: cs => do
    let found ← front s c cs
    match found.1 with
    | .broken fault => pure [⟨.broken fault, c :: cs⟩]
    | shape =>
      let l : Lexeme := ⟨shape, c :: cs.take found.2⟩
      let rest ← checkedLexemes front after (after s l) (cs.drop found.2)
      pure (l :: rest)
termination_by _ s => s.length
decreasing_by all_goals simp only [List.length_cons, List.length_drop]; omega

/-- If the front can be read everywhere, so can the source. -/
theorem Scan.Cuts.checkedLexemes_eq {σ : Type} {lexemes : σ → Text → List Lexeme}
    {front : σ → Char → Text → Shape × Nat} {after : σ → Lexeme → σ}
    (cuts : Scan.Cuts lexemes front after) {checked : σ → Char → Text → Checked (Shape × Nat)}
    (h : ∀ s c cs, checked s c cs = .ok (front s c cs)) (s : σ) (source : Text) :
    checkedLexemes checked after s source = .ok (lexemes s source) := by
  induction hlen : source.length using Nat.strongRecOn generalizing s source with
  | ind n ih =>
    subst hlen
    cases source with
    | nil =>
      rw [checkedLexemes, cuts.nil]
      rfl
    | cons c cs =>
      have hlt : (cs.drop (front s c cs).2).length < (c :: cs).length := by
        rw [List.length_drop, List.length_cons]
        omega
      rw [checkedLexemes, h, Checked.ok_bind]
      split
      · rename_i fault hfault
        rw [cuts.broken s c cs fault hfault]
        rfl
      · rename_i hbroken
        dsimp only
        rw [ih _ hlt _ _ rfl, Checked.ok_bind, cuts.cons s c cs hbroken]
        rfl

namespace Php

/-- The escapes in double quotes. -/
def numberedEscape? (cs : Text) : Option (List Nat × Nat) :=
  (escape? cs).map fun e => ([e.1], e.2)

theorem namedEscape?_le {c : Char} {n : Nat} (h : namedEscape? c = some n) :
    n ≤ Text.maxCodePoint := by
  unfold namedEscape? at h
  split at h <;> cases h <;> decide

/-- An escape that is not in braces has few digits. -/
theorem escape?_le {cs : Text} {e : Nat × Nat} (h : escape? cs = some e)
    (hbraced : Text.bracedNumber? cs = none) : e.1 ≤ Text.maxCodePoint := by
  unfold escape? at h
  split at h
  · cases h
  · rename_i cs
    have hnone : Text.braced? cs = none := Option.map_eq_none_iff.mp hbraced
    rw [hnone] at h
    cases h
  · rename_i cs
    dsimp only at h
    split at h
    · cases h
    · cases h
      have hlen := (List.takeWhile_prefix (p := Text.isHexDigit) (l := cs.take 2)).length_le
      have htwo := List.length_take_le 2 cs
      exact Text.hexValue_le_maxCodePoint (fun c hc => List.mem_takeWhile_imp hc) (by omega)
  · rename_i c cs _ _
    split at h
    · rename_i n hnamed
      cases h
      exact namedEscape?_le hnamed
    · dsimp only at h
      split at h
      · cases h
      · cases h
        have hbyte : octalValue (((c :: cs).take 3).takeWhile isOctalDigit) < 0x100 :=
          Nat.mod_lt _ (by decide)
        have hmax : 0x100 ≤ Text.maxCodePoint := by decide
        dsimp only
        omega

theorem numbered : Text.Numbered numberedEscape? codes where
  nil := by simp [codes]
  cons c cs := by
    rw [codes, Text.escapeAt?, numberedEscape?]
    split
    · cases escape? cs <;> rfl
    · rfl
  braced cs n h := by
    unfold Text.bracedNumber? at h
    split at h
    · rename_i cs
      obtain ⟨found, hfound, rfl⟩ := Option.map_eq_some_iff.mp h
      exact ⟨found.2 + 1, by rw [numberedEscape?, escape?, hfound]; rfl⟩
    · cases h
  small cs e h hbraced := by
    obtain ⟨found, hfound, rfl⟩ := Option.map_eq_some_iff.mp h
    intro n hn
    rw [List.mem_singleton.mp hn]
    exact escape?_le hfound hbraced

/-- What starts with this character inside code. A string in double quotes is decoded with
escapes that may fail. -/
def checkedLexeme (c : Char) (cs : Text) : Checked (Shape × Nat) :=
  match if c = '"' then Text.closingQuote? '"' false cs else none with
  | some n => do
    let inner := Text.inner (c :: cs.take n)
    let shape ← checkedShape numberedEscape? (Text.interpolates opensVariable false inner)
      (fun codes => codes.map Text.charOf) inner
    pure (shape, n)
  | none => pure (lexeme c cs)

theorem doubleShape_eq (s : Text) :
    doubleShape s =
      if (Text.tooLarge? (codes (Text.inner s))).isSome then .broken .badEscape
      else if Text.interpolates opensVariable false (Text.inner s) then .token .interpolated
      else .token (.literal ((codes (Text.inner s)).map Text.charOf)) := by
  rw [doubleShape, hasInvalidEscape, decodeDouble]
  cases Text.tooLarge? (codes (Text.inner s)) with
  | some e => rfl
  | none => cases Text.interpolates opensVariable false (Text.inner s) <;> simp

theorem checkedLexeme_eq (c : Char) (cs : Text) : checkedLexeme c cs = .ok (lexeme c cs) := by
  unfold checkedLexeme
  split
  · rename_i n hclose
    split at hclose
    · rename_i hc
      subst hc
      have hlexeme : lexeme '"' cs = (doubleShape ('"' :: cs.take n), n) := by
        have hstring : string? '"' cs = some (doubleShape ('"' :: cs.take n), n) := by
          rw [string?, hclose]
          rfl
        have hspace : Text.isSpace '"' = false := by decide
        simp [lexeme, hspace, comment?, hstring]
      dsimp only
      rw [hlexeme, doubleShape_eq, numbered.checkedShape_eq]
      rfl
    · cases hclose
  · rfl

/-- The lexeme in front, inside or outside code. -/
def checkedFront : Bool → Char → Text → Checked (Shape × Nat)
  | true, c, cs => checkedLexeme c cs
  | false, c, cs => pure (.markup, markupLength (c :: cs) - 1)

theorem checkedFront_eq (inCode : Bool) (c : Char) (cs : Text) :
    checkedFront inCode c cs = .ok (front inCode c cs) := by
  cases inCode with
  | true => exact checkedLexeme_eq c cs
  | false => rfl

/-- Scans a source from a line on. -/
def checkedScan (inCode : Bool) (line : Int) (source : Text) : Checked Scan := do
  let lexemes ← checkedLexemes checkedFront (fun _ l => leavesInCode l) inCode source
  pure (Scan.ofLexemes line lexemes)

theorem checkedScan_eq (inCode : Bool) (line : Int) (source : Text) :
    checkedScan inCode line source = .ok (scan inCode line source) := by
  rw [checkedScan, cuts.checkedLexemes_eq checkedFront_eq]
  rfl

end Php

namespace Script

theorem namedEscape_le (c : Char) : namedEscape c ≤ Text.maxCodePoint := by
  unfold namedEscape
  split
  iterate 7 · decide
  · exact Text.toNat_le_maxCodePoint c

/-- An escape that is not in braces has few digits, or stands for a character. -/
theorem escape?_le {cs : Text} {e : List Nat × Nat} (h : escape? cs = some e)
    (hbraced : Text.bracedNumber? cs = none) : ∀ n ∈ e.1, n ≤ Text.maxCodePoint := by
  intro n hn
  unfold escape? at h
  split at h
  · cases h
  · rename_i cs
    have hnone : Text.braced? cs = none := Option.map_eq_none_iff.mp hbraced
    rw [hnone] at h
    cases hfixed : Text.fixedHex? 4 cs with
    | some m =>
      rw [hfixed] at h
      cases h
      rw [List.mem_singleton.mp hn]
      exact Text.fixedHex?_le hfixed (Nat.le_refl 4)
    | none =>
      rw [hfixed] at h
      cases h
      rw [List.mem_singleton.mp hn]
      exact Text.toNat_le_maxCodePoint 'u'
  · rename_i cs
    cases hfixed : Text.fixedHex? 2 cs with
    | some m =>
      rw [hfixed] at h
      cases h
      rw [List.mem_singleton.mp hn]
      exact Text.fixedHex?_le hfixed (by decide)
    | none =>
      rw [hfixed] at h
      cases h
      rw [List.mem_singleton.mp hn]
      exact Text.toNat_le_maxCodePoint 'x'
  · cases h
    cases hn
  · cases h
    cases hn
  · cases h
    cases hn
  · rename_i c _ _ _ _ _ _
    cases h
    rw [List.mem_singleton.mp hn]
    exact namedEscape_le c

theorem numbered : Text.Numbered escape? codes where
  nil := by simp [codes]
  cons c cs := by
    rw [codes, Text.escapeAt?]
    split <;> rfl
  braced cs n h := by
    unfold Text.bracedNumber? at h
    split at h
    · rename_i cs
      obtain ⟨found, hfound, rfl⟩ := Option.map_eq_some_iff.mp h
      exact ⟨found.2 + 1, by rw [escape?, hfound]⟩
    · cases h
  small cs e h hbraced := escape?_le h hbraced

/-- What starts with this character. A string is decoded with escapes that may fail. -/
def checkedLexeme (mayStart : Bool) (c : Char) (cs : Text) : Checked (Shape × Nat) :=
  match if isQuote c then Text.closingQuote? c (c ≠ '\x60') cs else none with
  | some n => do
    let inner := Text.inner (c :: cs.take n)
    let shape ← checkedShape escape?
      (c = '\x60' && Text.interpolates opensExpression false inner) Text.joinSurrogates inner
    pure (shape, n)
  | none => pure (lexeme mayStart c cs)

theorem stringShape_eq (c : Char) (cs : Text) :
    stringShape (c :: cs) =
      if (Text.tooLarge? (codes (Text.inner (c :: cs)))).isSome then .broken .badEscape
      else if c = '\x60' && Text.interpolates opensExpression false (Text.inner (c :: cs)) then
        .token .interpolated
      else .token (.literal (Text.joinSurrogates (codes (Text.inner (c :: cs))))) := by
  rw [stringShape, hasInvalidEscape, decode, List.head?_cons]
  simp only [Option.some.injEq]
  cases Text.tooLarge? (codes (Text.inner (c :: cs))) with
  | some e => rfl
  | none =>
    cases decide (c = '\x60') &&
      Text.interpolates opensExpression false (Text.inner (c :: cs)) <;> simp

theorem checkedLexeme_eq (mayStart : Bool) (c : Char) (cs : Text) :
    checkedLexeme mayStart c cs = .ok (lexeme mayStart c cs) := by
  unfold checkedLexeme
  split
  · rename_i n hclose
    split at hclose
    · rename_i hquote
      have hlexeme : lexeme mayStart c cs = (stringShape (c :: cs.take n), n) := by
        have hstring : string? c cs = some (stringShape (c :: cs.take n), n) := by
          rw [string?, if_pos hquote, hclose]
          rfl
        have hcases : c = '\'' ∨ c = '"' ∨ c = '\x60' := by
          simpa [isQuote, or_assoc] using hquote
        have hspace : Text.isSpace c = false := by
          rcases hcases with rfl | rfl | rfl <;> decide
        have hslash : c ≠ '/' := by
          rcases hcases with rfl | rfl | rfl <;> decide
        simp [lexeme, hslash, hspace, comment?, hstring]
      dsimp only
      rw [hlexeme, stringShape_eq, numbered.checkedShape_eq]
      rfl
    · cases hclose
  · rfl

/-- Scans a script from a line on. -/
def checkedScan (line : Int) (source : Text) : Checked Scan := do
  let lexemes ← checkedLexemes checkedLexeme (fun mayStart l => mayStartAfter l mayStart) true
    source
  pure (Scan.ofLexemes line lexemes)

theorem checkedScan_eq (line : Int) (source : Text) :
    checkedScan line source = .ok (scan line source) := by
  rw [checkedScan, cuts.checkedLexemes_eq checkedLexeme_eq]
  rfl

end Script

end MessageHarvest
