import MessageHarvest.Php.Literal

/-!
# PHP lexemes

Outside code everything up to and including the next open tag is one lexeme. Inside code the first
character and what follows it decide the lexeme, in this order: close tag, white space, comment,
string, heredoc, variable, name, number, punctuation. The scan ends at a string, comment or heredoc
that is not closed, and at a string with an invalid escape.
-/
namespace MessageHarvest.Php

/-- The number of characters of a line comment: it ends before a line feed, a close tag or the end
of the source. -/
def lineCommentLength : Text → Nat
  | [] => 0
  | '\n' :: _ => 0
  | '?' :: '>' :: _ => 0
  | _ :: cs => lineCommentLength cs + 1

/-- Where `label` stands here after blanks, and is not part of a longer word: the number of
characters up to its end. -/
def labelHere? (label s : Text) : Option Nat :=
  let blanks := (s.takeWhile Text.isBlank).length
  let rest := s.drop blanks
  if label.isPrefixOf rest && Text.endsWord (rest.drop label.length) then
    some (blanks + label.length)
  else none

/-- The number of characters up to the end of the first line start at which the label stands. -/
def closingLabel? (label : Text) : Bool → Text → Option Nat
  | _, [] => none
  | atStart, c :: cs =>
    match if atStart then labelHere? label (c :: cs) else none with
    | some n => some n
    | none => (closingLabel? label (c == '\n') cs).map (· + 1)

/-- Drops one quote from the beginning, if there is one. -/
def dropQuote : Text → Text
  | c :: cs => if c = '"' || c = '\'' then cs else c :: cs
  | [] => []

/-- The number of characters of a heredoc after `<<<`: blanks, a label that may be quoted, a line
break, and everything up to the label at the start of a line. -/
def heredocLength? (s : Text) : Option Nat :=
  let opened := dropQuote (s.dropWhile Text.isBlank)
  match opened with
  | [] => none
  | c :: _ =>
    if Text.isNameStart c then
      let label := opened.takeWhile Text.isWord
      let body? := match dropQuote (opened.drop label.length) with
        | '\n' :: body => some body
        | '\r' :: '\n' :: body => some body
        | _ => none
      body?.bind fun body =>
        (closingLabel? label true body).map fun n => s.length - body.length + n
    else none

/-- The number of characters of the open tag after `<?`. -/
def openTagLength (s : Text) : Nat :=
  if Text.asciiLower (s.take 3) = "php".toList && Text.endsWord (s.drop 3) then 3
  else if s.head? = some '=' then 1
  else 0

/-- The number of characters up to the end of the first open tag, or of the whole text if there
is none. -/
def markupLength (s : Text) : Nat :=
  match Text.position? "<?".toList s with
  | some n => n + 2 + openTagLength (s.drop (n + 2))
  | none => s.length

/-- The number of characters of a qualified name after its first segment: backslashes, each with a
segment of its own. -/
def segmentsLength : Text → Nat
  | '\\' :: c :: cs =>
    if Text.isNameStart c then
      let n := (cs.takeWhile Text.isWord).length
      n + 2 + segmentsLength (cs.drop n)
    else 0
  | _ => 0
termination_by s => s.length
decreasing_by simp only [List.length_cons, List.length_drop]; omega

/-- A name that starts with this first character goes on for so many characters. -/
def nameLength (cs : Text) : Nat :=
  let n := (cs.takeWhile Text.isWord).length
  n + segmentsLength (cs.drop n)

/-- The kind of a string in double quotes, or why it cannot be read. -/
def doubleShape (s : Text) : Shape :=
  match hasInvalidEscape s, decodeDouble s with
  | false, .ok (some value) => .token (.literal value)
  | false, .ok none => .token .interpolated
  | _, _ => .broken .badEscape

/-- A comment that starts with these characters, by the number of characters after the first. -/
def comment? (c : Char) (cs : Text) : Option Nat :=
  match c, cs with
  | '/', '/' :: cs => some (1 + lineCommentLength cs)
  | '/', '*' :: cs => (Text.closingComment? cs).map (1 + ·)
  | '#', '[' :: _ => none
  | '#', cs => some (lineCommentLength cs)
  | _, _ => none

/-- A string that starts with these characters: its shape, and the number of characters after
the first. -/
def string? (c : Char) (cs : Text) : Option (Shape × Nat) :=
  match c with
  | '\'' => (Text.closingQuote? '\'' false cs).map fun n =>
      (.token (.literal (decodeSingle (c :: cs.take n))), n)
  | '"' => (Text.closingQuote? '"' false cs).map fun n => (doubleShape (c :: cs.take n), n)
  | '\x60' => (Text.closingQuote? '\x60' false cs).map fun n => (.token .interpolated, n)
  | '<' =>
    match cs with
    | '<' :: '<' :: cs => (heredocLength? cs).map fun n => (.token .interpolated, n + 2)
    | _ => none
  | _ => none

/-- A string, a block comment or a heredoc would start here. -/
def opensRegion (c : Char) (cs : Text) : Bool :=
  c = '\'' || c = '"' || c = '\x60' || (c = '/' && cs.head? = some '*') ||
    (c = '<' && "<<".toList.isPrefixOf cs)

/-- A variable that starts with these characters, by the number of characters after the first:
dollar signs and a name. -/
def varName? (c : Char) (cs : Text) : Option Nat :=
  if c = '$' then
    let dollars := (cs.takeWhile (· = '$')).length
    match cs.drop dollars with
    | d :: ds =>
      if Text.isNameStart d then some (dollars + 1 + (ds.takeWhile Text.isWord).length) else none
    | [] => none
  else none

/-- A name that starts with these characters, by the number of characters after the first. It may
start with a backslash. -/
def name? (c : Char) (cs : Text) : Option Nat :=
  if Text.isNameStart c then some (nameLength cs)
  else if c = '\\' then
    match cs with
    | d :: ds => if Text.isNameStart d then some (nameLength ds + 1) else none
    | [] => none
  else none

/-- The number of characters after the first in a mark of punctuation. -/
def punctLength (c : Char) (cs : Text) : Nat :=
  match c, cs with
  | '?', '-' :: '>' :: _ => 2
  | '=', '>' :: _ => 1
  | ':', ':' :: _ => 1
  | '-', '>' :: _ => 1
  | '.', '.' :: '.' :: _ => 2
  | _, _ => 0

/-- What starts with this character inside code: its shape, and the number of characters after
the first. -/
def lexeme (c : Char) (cs : Text) : Shape × Nat :=
  if c = '?' && cs.head? = some '>' then
    (.close, if (cs.drop 1).head? = some '\n' then 2 else 1)
  else if Text.isSpace c then (.space, (cs.takeWhile Text.isSpace).length)
  else
    match comment? c cs, string? c cs with
    | some n, _ => (.comment, n)
    | none, some found => found
    | none, none =>
      if opensRegion c cs then (.broken .unterminated, cs.length)
      else
        match varName? c cs, name? c cs with
        | some n, _ => (.token .var, n)
        | none, some n => (.token .name, n)
        | none, none =>
          if Text.isDigit c then
            (.token .number, (cs.takeWhile fun d => Text.isWord d || d = '.').length)
          else (.token .punct, punctLength c cs)

/-- Cuts a source into lexemes, starting inside or outside code. -/
def lexemes : Bool → Text → List Lexeme
  | _, [] => []
  | false, c :: cs =>
    let n := markupLength (c :: cs) - 1
    ⟨.markup, c :: cs.take n⟩ :: lexemes true (cs.drop n)
  | true, c :: cs =>
    let found := lexeme c cs
    match found.1 with
    | .broken fault => [⟨.broken fault, c :: cs⟩]
    | shape => ⟨shape, c :: cs.take found.2⟩ :: lexemes (shape != .close) (cs.drop found.2)
termination_by _ s => s.length
decreasing_by all_goals simp only [List.length_cons, List.length_drop]; omega

/-- Scans a source from a line on. With `inCode` all of it is code; otherwise code starts at an
open tag. -/
def scan (inCode : Bool) (line : Int) (source : Text) : Scan :=
  Scan.ofLexemes line (lexemes inCode source)

end MessageHarvest.Php
