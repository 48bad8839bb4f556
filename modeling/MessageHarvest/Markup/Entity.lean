import MessageHarvest.Markup.EntityNames
import MessageHarvest.Text.CodePoint
import MessageHarvest.Text.Integer

/-!
# Character references

`&#…;`, `&#x…;` and `&name;` in the value of an attribute. The semicolon may be missing, and then
the longest name that the text starts with counts. A decimal number has a limit of length.
-/
namespace MessageHarvest.Markup

/-- What the numbers 0x80 to 0x9F stand for: the characters of an old code page. -/
def codePage : List Nat :=
  [0x20AC, 0x81, 0x201A, 0x192, 0x201E, 0x2026, 0x2020, 0x2021, 0x2C6, 0x2030, 0x160, 0x2039,
    0x152, 0x8D, 0x17D, 0x8F, 0x90, 0x2018, 0x2019, 0x201C, 0x201D, 0x2022, 0x2013, 0x2014, 0x2DC,
    0x2122, 0x161, 0x203A, 0x153, 0x9D, 0x17E, 0x178]

/-- Numbers that stand for nothing: controls and code points that are no characters. -/
def isVoid (n : Nat) : Bool :=
  (1 ≤ n && n ≤ 8) || n == 0x0B || (0x0E ≤ n && n ≤ 0x1F) || n == 0x7F ||
    (0xFDD0 ≤ n && n ≤ 0xFDEF) || 0xFFFE ≤ n % 0x10000

/-- What a number stands for. -/
def numberText (n : Nat) : Text :=
  if n = 0 then [Char.ofNat 0xFFFD]
  else if 0x80 ≤ n && n ≤ 0x9F then [Char.ofNat (codePage.getD (n - 0x80) 0)]
  else if Text.maxCodePoint < n then [Char.ofNat 0xFFFD]
  else if isVoid n then []
  else [Text.charOf n]

/-- The longest beginning of at least two and fewer than `n + 1` characters that is a name: what
it stands for, followed by the rest. -/
def shortenedName? (name : Text) : Nat → Option Text
  | 0 => none
  | n + 1 =>
    if n < 1 then none
    else match entities.get? (name.take (n + 1)) with
      | some value => some (value ++ name.drop (n + 1))
      | none => shortenedName? name n

/-- What a name stands for, given with its semicolon if it has one. -/
def nameText (name : Text) : Text :=
  match entities.get? name with
  | some value => value
  | none => (shortenedName? name (name.length - 1)).getD ('&' :: name)

/-- A character of a name. -/
def isEntityNameChar (c : Char) : Bool :=
  !(['\t', '\n', '\x0c', ' ', '<', '&', '#', ';'].contains c)

/-- Counts a semicolon that follows. -/
def semicolon (s : Text) : Nat := if s.head? = some ';' then 1 else 0

/-- The reference after an ampersand: how many characters it takes, and what it stands for. -/
def reference? (s : Text) : Option (Nat × Except TooManyDigits Text) :=
  match s with
  | [] => none
  | '#' :: cs =>
    let decimal := cs.takeWhile Char.isDigit
    if !decimal.isEmpty then
      let length := 1 + decimal.length + semicolon (cs.drop decimal.length)
      some (length,
        if decimal.length ≤ TooManyDigits.limit then .ok (numberText (Nat.ofDigitChars 10 decimal 0))
        else .error ⟨decimal.length⟩)
    else
      match cs with
      | x :: cs =>
        let digits := cs.takeWhile Text.isHexDigit
        if (x = 'x' || x = 'X') && !digits.isEmpty then
          some (2 + digits.length + semicolon (cs.drop digits.length),
            .ok (numberText (Text.hexValue digits)))
        else none
      | [] => none
  | s =>
    let name := (s.take 32).takeWhile isEntityNameChar
    if name.isEmpty then none
    else
      let length := name.length + semicolon (s.drop name.length)
      some (length, .ok (nameText (s.take length)))

/-- The text with its references resolved, in one pass. -/
def unescape : Text → Except TooManyDigits Text
  | [] => .ok []
  | c :: cs =>
    if c = '&' then
      match reference? cs with
      | some r =>
        match r.2, unescape (cs.drop r.1) with
        | .error e, _ => .error e
        | .ok value, rest => rest.map (value ++ ·)
      | none => (unescape cs).map (c :: ·)
    else (unescape cs).map (c :: ·)
termination_by s => s.length
decreasing_by all_goals simp only [List.length_cons, List.length_drop]; omega

end MessageHarvest.Markup
