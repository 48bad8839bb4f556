import MessageHarvest.Text.CodePoint
import MessageHarvest.Token.Lexeme

/-!
# JavaScript string literals

All three kinds of quotes share one set of escapes. Numbers in escapes are 16-bit units as well as
code points, so the value is joined from surrogates. Only a template, between backticks, can embed
expressions.
-/
namespace MessageHarvest.Script

/-- The character that an escaped one stands for. -/
def namedEscape (c : Char) : Nat :=
  match c with
  | 'n' => 0x0A
  | 'r' => 0x0D
  | 't' => 0x09
  | 'b' => 0x08
  | 'f' => 0x0C
  | 'v' => 0x0B
  | '0' => 0x00
  | c => c.toNat

/-- The escape after a backslash: what it stands for, and how many characters it takes. An
escaped line break stands for nothing. -/
def escape? (s : Text) : Option (List Nat × Nat) :=
  match s with
  | [] => none
  | 'u' :: cs =>
    match Text.braced? cs, Text.fixedHex? 4 cs with
    | some e, _ => some ([e.1], e.2 + 1)
    | none, some n => some ([n], 5)
    | none, none => some (['u'.toNat], 1)
  | 'x' :: cs =>
    match Text.fixedHex? 2 cs with
    | some n => some ([n], 3)
    | none => some (['x'.toNat], 1)
  | '\r' :: '\n' :: _ => some ([], 2)
  | '\r' :: _ => some ([], 1)
  | '\n' :: _ => some ([], 1)
  | c :: _ => some ([namedEscape c], 1)

/-- The code points and units that the text between the quotes stands for. -/
def codes : Text → List Nat
  | [] => []
  | c :: cs =>
    if c = '\\' then
      match escape? cs with
      | some e => e.1 ++ codes (cs.drop e.2)
      | none => c.toNat :: codes cs
    else c.toNat :: codes cs
termination_by s => s.length
decreasing_by all_goals simp only [List.length_cons, List.length_drop]; omega

/-- The literal has an escape beyond the last code point. -/
def hasInvalidEscape (s : Text) : Bool := (Text.tooLarge? (codes (Text.inner s))).isSome

/-- An embedded expression starts here. -/
def opensExpression : Text → Bool
  | '$' :: '{' :: _ => true
  | _ => false

/-- The value of a literal given with its quotes; none for a template that embeds an
expression. -/
def decode (s : Text) : Except TooLarge (Option Text) :=
  let inner := Text.inner s
  if s.head? = some '\x60' && Text.interpolates opensExpression false inner then .ok none
  else match Text.tooLarge? (codes inner) with
    | some e => .error e
    | none => .ok (some (Text.joinSurrogates (codes inner)))

end MessageHarvest.Script
