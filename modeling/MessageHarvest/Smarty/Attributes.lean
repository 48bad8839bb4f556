import MessageHarvest.Keyed
import MessageHarvest.Token.Lexeme
import MessageHarvest.Text.Char

/-!
# Attributes and block text of Smarty tags

The value of an attribute is a literal text or depends on variables; then it is none. The text of a
block is literal if the only tags in it are those that write braces.
-/
namespace MessageHarvest.Smarty

/-- A variable or an embedded expression stands in the text. -/
def hasVariable : Text → Bool
  | [] => false
  | '\x60' :: _ => true
  | '$' :: c :: cs => Text.isNameStart c || hasVariable (c :: cs)
  | _ :: cs => hasVariable cs

/-- The value between double quotes, where variables are embedded. -/
def doubleValue (s : Text) : Option Text :=
  if hasVariable s then none else some (Text.unescape (fun c => c = '"' || c = '\\') s)

/-- The value between apostrophes. -/
def singleValue (s : Text) : Text := Text.unescape (fun c => c = '\'' || c = '\\') s

/-- The value without quotes; one that starts with a dollar sign is a variable. -/
def bareValue (s : Text) : Option Text := if s.head? = some '$' then none else some s

/-- The value at the beginning: what it is, and how many characters it takes. -/
def value? (s : Text) : Option (Option Text × Nat) :=
  match s with
  | '"' :: cs => (Text.closingQuote? '"' false cs).map fun n =>
      (doubleValue (cs.take (n - 1)), n + 1)
  | '\'' :: cs => (Text.closingQuote? '\'' false cs).map fun n =>
      (some (singleValue (cs.take (n - 1))), n + 1)
  | s =>
    let bare := s.takeWhile fun c => !Text.isSpace c && c ≠ '"' && c ≠ '\''
    if bare.isEmpty then none else some (bareValue bare, bare.length)

/-- A character of an attribute's name. -/
def isNamePart (c : Char) : Bool := Text.isWord c || c = '.' || c = '-'

/-- The attribute at the beginning: its name, its value, and how many characters it takes. -/
def attribute? (s : Text) : Option ((Text × Option Text) × Nat) :=
  let name := s.takeWhile isNamePart
  let afterName := s.drop name.length
  let gap := (afterName.takeWhile Text.isSpace).length
  match name, afterName.drop gap with
  | _ :: _, '=' :: cs =>
    let start := (cs.takeWhile Text.isSpace).length
    (value? (cs.drop start)).map fun found =>
      ((name, found.1), name.length + gap + 1 + start + found.2)
  | _, _ => none

/-- The attributes in the order of the text; what is no attribute is passed over. -/
def attributeList : Text → List (Text × Option Text)
  | [] => []
  | c :: cs =>
    match attribute? (c :: cs) with
    | some found => found.1 :: attributeList (cs.drop (found.2 - 1))
    | none => attributeList cs
termination_by s => s.length
decreasing_by all_goals simp only [List.length_cons, List.length_drop]; omega

/-- The attributes; of two with one name the later counts. -/
def attributes (s : Text) : Keyed (Option Text) := Keyed.putAll [] (attributeList s)

/-- Writes an opening brace. -/
def leftBraceTag : Text := "\x7bldelim\x7d".toList

/-- Writes a closing brace. -/
def rightBraceTag : Text := "\x7brdelim\x7d".toList

/-- A brace that opens a tag other than those that write braces. -/
def opensTag (c : Char) (cs : Text) : Bool :=
  c = '{' && !cs.head?.any Text.isSpace && !(leftBraceTag.drop 1).isPrefixOf cs &&
    !(rightBraceTag.drop 1).isPrefixOf cs

/-- A tag other than those that write braces stands in the text. -/
def hasTag : Text → Bool
  | [] => false
  | c :: cs => opensTag c cs || hasTag cs

/-- The literal text of a block; none if it has other tags. -/
def blockText? (body : Text) : Option Text :=
  if hasTag body then none
  else some (Text.replaceAll rightBraceTag ['}'] (Text.replaceAll leftBraceTag ['{'] body))

end MessageHarvest.Smarty
