import MessageHarvest.Text.CodePoint
import MessageHarvest.Token.Lexeme

/-!
# PHP string literals

Between apostrophes only the backslash and the apostrophe are escaped. Between double quotes there
are escapes by name and by number, and variables may be embedded.
-/
namespace MessageHarvest.Php

/-- The value of a literal in apostrophes, given with its quotes. -/
def decodeSingle (s : Text) : Text :=
  Text.unescape (fun c => c = '\\' || c = '\'') (Text.inner s)

/-- The code point of an escape by name. -/
def namedEscape? (c : Char) : Option Nat :=
  match c with
  | 'n' => some 0x0A
  | 'r' => some 0x0D
  | 't' => some 0x09
  | 'v' => some 0x0B
  | 'e' => some 0x1B
  | 'f' => some 0x0C
  | '\\' => some 0x5C
  | '$' => some 0x24
  | '"' => some 0x22
  | _ => none

/-- An octal digit. -/
def isOctalDigit (c : Char) : Bool := '0' ≤ c && c ≤ '7'

/-- The number that octal digits write, kept to one byte. -/
def octalValue (digits : Text) : Nat :=
  digits.foldl (fun n c => 8 * n + (c.toNat - 48)) 0 % 0x100

/-- The escape after a backslash: its code point, and how many characters it takes. -/
def escape? (s : Text) : Option (Nat × Nat) :=
  match s with
  | [] => none
  | 'u' :: cs => (Text.braced? cs).map fun e => (e.1, e.2 + 1)
  | 'x' :: cs =>
    let digits := (cs.take 2).takeWhile Text.isHexDigit
    if digits.isEmpty then none else some (Text.hexValue digits, digits.length + 1)
  | c :: _ =>
    match namedEscape? c with
    | some n => some (n, 1)
    | none =>
      let digits := (s.take 3).takeWhile isOctalDigit
      if digits.isEmpty then none else some (octalValue digits, digits.length)

/-- The code points that the text between double quotes stands for. A backslash that starts no
escape stands for itself. -/
def codes : Text → List Nat
  | [] => []
  | c :: cs =>
    if c = '\\' then
      match escape? cs with
      | some e => e.1 :: codes (cs.drop e.2)
      | none => c.toNat :: codes cs
    else c.toNat :: codes cs
termination_by s => s.length
decreasing_by all_goals simp only [List.length_cons, List.length_drop]; omega

/-- A literal in double quotes has an escape beyond the last code point. -/
def hasInvalidEscape (s : Text) : Bool := (Text.tooLarge? (codes (Text.inner s))).isSome

/-- A variable or an expression in braces starts here. -/
def opensVariable : Text → Bool
  | '$' :: c :: _ => Text.isNameStart c || c = '{'
  | '{' :: '$' :: _ => true
  | _ => false

/-- The value of a literal in double quotes, given with its quotes; none if it embeds a
variable. -/
def decodeDouble (s : Text) : Except TooLarge (Option Text) :=
  let inner := Text.inner s
  if Text.interpolates opensVariable false inner then .ok none
  else match Text.tooLarge? (codes inner) with
    | some e => .error e
    | none => .ok (some ((codes inner).map Text.charOf))

end MessageHarvest.Php
