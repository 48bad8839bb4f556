import MessageHarvest.Script.Literal

/-!
# JavaScript lexemes

A slash starts a regular expression where no operand stands before it, and divides otherwise, so
the scan carries whether an expression may start. Apart from that the first character and what
follows it decide the lexeme.
-/
namespace MessageHarvest.Script

/-- The number of characters up to and including the slash that ends a regular expression, inside
or outside a class in square brackets. It does not go beyond its line. -/
def patternLength? : Bool → Text → Option Nat
  | _, [] => none
  | inClass, '\\' :: c :: cs =>
    if c = '\n' then none else (patternLength? inClass cs).map (· + 2)
  | inClass, c :: cs =>
    if c = '\n' || c = '\\' then none
    else if c = '/' && !inClass then some 1
    else
      let inClass := if inClass then c ≠ ']' else c = '['
      (patternLength? inClass cs).map (· + 1)

/-- A regular expression after its first slash, with its flags. -/
def pattern? (cs : Text) : Option Nat :=
  match cs with
  | '*' :: _ => none
  | '/' :: _ => none
  | cs => (patternLength? false cs).map fun n =>
      n + ((cs.drop n).takeWhile Char.isAlpha).length

/-- A comment that starts with these characters, by the number of characters after the first. -/
def comment? (c : Char) (cs : Text) : Option Nat :=
  match c, cs with
  | '/', '/' :: cs => some (1 + (cs.takeWhile (· ≠ '\n')).length)
  | '/', '*' :: cs => (Text.closingComment? cs).map (1 + ·)
  | _, _ => none

/-- The kind of a string, or why it cannot be read. -/
def stringShape (s : Text) : Shape :=
  match hasInvalidEscape s, decode s with
  | false, .ok (some value) => .token (.literal value)
  | false, .ok none => .token .interpolated
  | _, _ => .broken .badEscape

/-- A character that quotes a string. -/
def isQuote (c : Char) : Bool := c = '\'' || c = '"' || c = '\x60'

/-- A string that starts with these characters: its shape, and the number of characters after the
first. Only a template may go over a line feed. -/
def string? (c : Char) (cs : Text) : Option (Shape × Nat) :=
  if isQuote c then
    (Text.closingQuote? c (c ≠ '\x60') cs).map fun n => (stringShape (c :: cs.take n), n)
  else none

/-- A string or a block comment would start here. -/
def opensRegion (c : Char) (cs : Text) : Bool := isQuote c || (c = '/' && cs.head? = some '*')

/-- A character of a name after the first. -/
def isNamePart (c : Char) : Bool := Text.isWord c || c = '$'

/-- A number that starts with these characters, by the number of characters after the first. -/
def number? (c : Char) (cs : Text) : Option Nat :=
  if Text.isDigit c then some (cs.takeWhile fun d => Text.isWord d || d = '.').length
  else
    match c, cs with
    | '.', d :: ds => if Text.isDigit d then some (1 + (ds.takeWhile Text.isWord).length) else none
    | _, _ => none

/-- The number of characters after the first in a mark of punctuation. -/
def punctLength (c : Char) (cs : Text) : Nat :=
  match c, cs with
  | '=', '>' :: _ => 1
  | '.', '.' :: '.' :: _ => 2
  | '?', '.' :: _ => 1
  | _, _ => 0

/-- What starts with this character: its shape, and the number of characters after the first. -/
def lexeme (mayStart : Bool) (c : Char) (cs : Text) : Shape × Nat :=
  match if c = '/' && mayStart then pattern? cs else none with
  | some n => (.token .interpolated, n)
  | none =>
    if Text.isSpace c then (.space, (cs.takeWhile Text.isSpace).length)
    else
      match comment? c cs, string? c cs with
      | some n, _ => (.comment, n)
      | none, some found => found
      | none, none =>
        if opensRegion c cs then (.broken .unterminated, cs.length)
        else if Text.isNameStart c || c = '$' then
          (.token .name, (cs.takeWhile isNamePart).length)
        else
          match number? c cs with
          | some n => (.token .number, n)
          | none => (.token .punct, punctLength c cs)

/-- Words after which an expression starts. -/
def operatorWords : List Text :=
  ["return", "typeof", "case", "do", "else", "in", "instanceof", "new", "delete", "void", "throw",
    "yield", "await"].map String.toList

/-- Whether an expression may start after this lexeme. White space and comments do not matter. -/
def mayStartAfter (l : Lexeme) (mayStart : Bool) : Bool :=
  match l.shape with
  | .token .punct => !([[')'], [']'], ['}']].contains l.text)
  | .token .name => operatorWords.contains l.text
  | .token _ => false
  | _ => mayStart

/-- Cuts a script into lexemes. -/
def lexemes : Bool → Text → List Lexeme
  | _, [] => []
  | mayStart, c :: cs =>
    let found := lexeme mayStart c cs
    match found.1 with
    | .broken fault => [⟨.broken fault, c :: cs⟩]
    | shape =>
      let l : Lexeme := ⟨shape, c :: cs.take found.2⟩
      l :: lexemes (mayStartAfter l mayStart) (cs.drop found.2)
termination_by _ s => s.length
decreasing_by all_goals simp only [List.length_cons, List.length_drop]; omega

/-- Scans a script from a line on. -/
def scan (line : Int) (source : Text) : Scan := Scan.ofLexemes line (lexemes true source)

end MessageHarvest.Script
