import MessageHarvest.Text.Char

/-!
# Code points written as numbers

Escape sequences write characters by number. A number may be too large for any character, or may
be a surrogate, which is half of a character written in two 16-bit units. A surrogate that is left
alone shows as U+FFFD.
-/
namespace MessageHarvest

/-- A number beyond the last code point. -/
structure TooLarge where
  value : Nat
deriving DecidableEq

namespace Text

/-- The last code point. -/
def maxCodePoint : Nat := 0x10FFFF

/-- The first half of a character in two units. -/
def isHighSurrogate (n : Nat) : Bool := 0xD800 ≤ n && n ≤ 0xDBFF

/-- The second half of a character in two units. -/
def isLowSurrogate (n : Nat) : Bool := 0xDC00 ≤ n && n ≤ 0xDFFF

/-- The character of a code point, and U+FFFD for a surrogate. -/
def charOf (n : Nat) : Char :=
  if isHighSurrogate n || isLowSurrogate n then Char.ofNat 0xFFFD else Char.ofNat n

/-- The character that two halves make. -/
def joinPair (high low : Nat) : Char :=
  Char.ofNat (0x10000 + (high - 0xD800) * 0x400 + (low - 0xDC00))

/-- The text of a row of code points, in which a high surrogate and the low one directly after it
make one character. -/
def joinSurrogates : List Nat → Text
  | high :: low :: ns =>
    if isHighSurrogate high && isLowSurrogate low then joinPair high low :: joinSurrogates ns
    else charOf high :: joinSurrogates (low :: ns)
  | [n] => [charOf n]
  | [] => []

/-- The first number that is no code point. -/
def tooLarge? (codes : List Nat) : Option TooLarge :=
  (codes.find? fun n => maxCodePoint < n).map TooLarge.mk

/-- A hexadecimal number in braces: its value, and how many characters it takes. -/
def braced? : Text → Option (Nat × Nat)
  | '{' :: cs =>
    let digits := cs.takeWhile isHexDigit
    if !digits.isEmpty && (cs.drop digits.length).head? = some '}' then
      some (hexValue digits, digits.length + 2)
    else none
  | _ => none

/-- Exactly `width` hexadecimal digits. -/
def fixedHex? (width : Nat) (s : Text) : Option Nat :=
  let digits := s.take width
  if digits.length = width && digits.all isHexDigit then some (hexValue digits) else none

/-- A character is a code point and no surrogate. -/
theorem toNat_cases (c : Char) :
    c.toNat < 0xD800 ∨ (0xDFFF < c.toNat ∧ c.toNat < 0x110000) := c.valid

theorem tooLarge?_map_toNat (s : Text) : tooLarge? (s.map Char.toNat) = none := by
  have hfind : (s.map Char.toNat).find? (fun n => maxCodePoint < n) = none := by
    rw [List.find?_eq_none]
    intro n hn
    obtain ⟨c, _, rfl⟩ := List.mem_map.mp hn
    have hvalid := toNat_cases c
    have hmax : ¬ maxCodePoint < c.toNat := by
      unfold maxCodePoint
      omega
    simpa using hmax
  rw [tooLarge?, hfind]
  rfl

theorem charOf_toNat (c : Char) : charOf c.toNat = c := by
  have hvalid := toNat_cases c
  have hhigh : isHighSurrogate c.toNat = false := by
    simp only [isHighSurrogate, Bool.and_eq_false_iff, decide_eq_false_iff_not]
    omega
  have hlow : isLowSurrogate c.toNat = false := by
    simp only [isLowSurrogate, Bool.and_eq_false_iff, decide_eq_false_iff_not]
    omega
  simp [charOf, hhigh, hlow]

end Text

end MessageHarvest
