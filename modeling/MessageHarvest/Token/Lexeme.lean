import MessageHarvest.Notice
import MessageHarvest.Token.Basic

/-!
# Lexemes

A scanner of program code first cuts the whole source into lexemes, so that their texts put
together are the source again. Lines are counted afterwards, over the lexemes. Where the source
is malformed one last lexeme holds all that is left.
-/
namespace MessageHarvest

/-- What a stretch of the source is. -/
inductive Shape where
  | markup
  | close
  | space
  | comment
  | token (kind : Token.Kind)
  | broken (fault : Fault)
deriving DecidableEq

/-- A stretch of the source. -/
structure Lexeme where
  shape : Shape
  text : Text
deriving DecidableEq

/-- What the lexeme reports if it starts on this line. -/
def Lexeme.item? (l : Lexeme) (line : Int) : Option Item :=
  match l.shape with
  | .comment => some (.comment ⟨l.text, line⟩)
  | .token kind => some (.token ⟨kind, l.text, line, none⟩)
  | _ => none

/-- The items of a source, and where the scan broke off if it did. -/
structure Scan where
  items : List Item
  broken : Option (Fault × Int)
deriving DecidableEq

/-- Counts lines over the lexemes, from the line on which the first one starts. -/
def Scan.ofLexemes : Int → List Lexeme → Scan
  | _, [] => ⟨[], none⟩
  | line, l :: ls =>
    match l.shape with
    | .broken fault => ⟨[], some (fault, line)⟩
    | _ =>
      let rest := ofLexemes (line + Text.lineFeeds l.text) ls
      ⟨(l.item? line).toList ++ rest.items, rest.broken⟩

/-- The notice about a scan that broke off. -/
def Scan.notices (language : Language) (scan : Scan) : List Notice :=
  scan.broken.toList.map fun b => .brokenOff language b.1 b.2

namespace Text

/-- The number of characters up to and including the closing quote, where a backslash takes the
character after it along. In a string of one line a line feed may only stand after a backslash. -/
def closingQuote? (quote : Char) (oneLine : Bool) : Text → Option Nat
  | [] => none
  | '\\' :: _ :: cs => (closingQuote? quote oneLine cs).map (· + 2)
  | c :: cs =>
    if c = quote then some 1
    else if c = '\\' || (oneLine && c = '\n') then none
    else (closingQuote? quote oneLine cs).map (· + 1)

/-- The number of characters up to and including the first `*/`. -/
def closingComment? (s : Text) : Option Nat := (position? "*/".toList s).map (· + 2)

/-- There is an opener behind an even number of backslashes. -/
def opensHere (opener : Text → Bool) : Text → Bool
  | '\\' :: '\\' :: cs => opensHere opener cs
  | s => opener s

/-- Somewhere, and not right after a backslash, `opensHere` holds. -/
def interpolates (opener : Text → Bool) : Bool → Text → Bool
  | _, [] => false
  | afterBackslash, c :: cs =>
    (!afterBackslash && opensHere opener (c :: cs)) || interpolates opener (c == '\\') cs

theorem opensHere_of_ne (opener : Text → Bool) {s : Text} (h : ∀ cs, s ≠ '\\' :: '\\' :: cs) :
    opensHere opener s = opener s := by
  unfold opensHere
  split
  · exact absurd rfl (h _)
  · rfl

end Text

end MessageHarvest
