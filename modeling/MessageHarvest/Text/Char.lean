import MessageHarvest.Text.Basic
import MessageHarvest.Text.Ranges

/-!
# Classes of characters

White space is the property of that name. Trimming takes four separators more, and lines end at
a third set. A character starts a name if it belongs to a word and is no decimal digit, so each
character is white space, starts a name, is a digit, or is punctuation.
-/
namespace MessageHarvest.Text

/-- White space. -/
def isSpace (c : Char) : Bool :=
  let n := c.toNat
  (0x09 ≤ n && n ≤ 0x0D) || n == 0x20 || n == 0x85 || n == 0xA0 || n == 0x1680 ||
    (0x2000 ≤ n && n ≤ 0x200A) || n == 0x2028 || n == 0x2029 || n == 0x202F || n == 0x205F ||
    n == 0x3000

/-- White space and the four information separators: what trimming removes. -/
def isTrimmed (c : Char) : Bool := isSpace c || (0x1C ≤ c.toNat && c.toNat ≤ 0x1F)

/-- Characters that end a line. A carriage return and the line feed after it end one line. -/
def isLineBreak (c : Char) : Bool :=
  let n := c.toNat
  (0x0A ≤ n && n ≤ 0x0D) || (0x1C ≤ n && n ≤ 0x1E) || n == 0x85 || n == 0x2028 || n == 0x2029

/-- A blank within a line. -/
def isBlank (c : Char) : Bool := c == ' ' || c == '\t'

/-- A decimal digit of any script, in source text. -/
def isDigit (c : Char) : Bool :=
  if c.toNat < 0x80 then c.isDigit else Ranges.mem Ranges.digits c.toNat

/-- A decimal digit of any script with which numbers are read. -/
def isNumeral (c : Char) : Bool :=
  if c.toNat < 0x80 then c.isDigit else Ranges.mem Ranges.numerals c.toNat

/-- A digit of any kind, also one that numbers are not read with. -/
def isFigure (c : Char) : Bool := isNumeral c || Ranges.mem Ranges.figures c.toNat

/-- A character of a word. -/
def isWord (c : Char) : Bool :=
  if c.toNat < 0x80 then c.isAlphanum || c == '_' else Ranges.mem Ranges.word c.toNat

/-- A character that may start a name. -/
def isNameStart (c : Char) : Bool := isWord c && !isDigit c

/-- A letter of any script. -/
def isLetter (c : Char) : Bool :=
  if c.toNat < 0x80 then c.isAlpha else Ranges.mem Ranges.letters c.toNat

/-- A character that shows something when printed; the space does. -/
def isPrintable (c : Char) : Bool :=
  if c.toNat < 0x80 then 0x20 ≤ c.toNat && c.toNat < 0x7F
  else !Ranges.mem Ranges.hidden c.toNat

/-- The text does not go on with a character of a word. -/
def endsWord : Text → Bool
  | [] => true
  | c :: _ => !isWord c

/-- The digit's value; every range of digits starts at a zero. -/
def numeralValue (c : Char) : Nat :=
  match Ranges.numerals.find? fun r => r.1 ≤ c.toNat && c.toNat ≤ r.2 with
  | some r => (c.toNat - r.1) % 10
  | none => 0

/-- A hexadecimal digit. -/
def isHexDigit (c : Char) : Bool :=
  c.isDigit || ('a' ≤ c && c ≤ 'f') || ('A' ≤ c && c ≤ 'F')

/-- The value of a hexadecimal digit. -/
def hexDigitValue (c : Char) : Nat :=
  if c.isDigit then c.toNat - 48 else if 'a' ≤ c then c.toNat - 87 else c.toNat - 55

/-- The number that hexadecimal digits write. -/
def hexValue (s : Text) : Nat := s.foldl (fun n c => 16 * n + hexDigitValue c) 0

/-- ASCII letters in lower case. Beside them only the kelvin sign has one of them as its lower
case, so this is enough to compare with a lower-case ASCII word without k. -/
def asciiLower (s : Text) : Text := s.map Char.toLower

/-- Drops what trimming removes from the end. -/
def trimRight (s : Text) : Text := (s.reverse.dropWhile isTrimmed).reverse

/-- Drops what trimming removes from both ends. -/
def trim (s : Text) : Text := trimRight (s.dropWhile isTrimmed)

/-- The lines without what ends them. After the last line break there is a line only if there
is text. -/
def lines : Text → List Text
  | [] => []
  | '\r' :: '\n' :: cs => [] :: lines cs
  | c :: cs =>
    if isLineBreak c then [] :: lines cs
    else match lines cs with
      | [] => [[c]]
      | line :: more => (c :: line) :: more

end MessageHarvest.Text
