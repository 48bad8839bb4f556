/-!
# Text

Source text, paths and messages are lists of characters, so offsets and lengths count code points
and every scanner is a recursion on the list. Searching gives the number of characters before the
place found; what stands before and after it is then `take` and `drop`, which lose nothing.
-/
namespace MessageHarvest

/-- A text is the list of its characters. -/
abbrev Text := List Char

namespace Text

/-- The number of characters before the first place where `word` stands. -/
def position? (word : Text) : Text → Option Nat
  | [] => if word.isEmpty then some 0 else none
  | c :: cs => if word.isPrefixOf (c :: cs) then some 0 else (position? word cs).map (· + 1)

/-- Somewhere in the text `word` stands. -/
def occurs (word s : Text) : Bool := (position? word s).isSome

/-- Puts `new` in place of each `old`, from left to right; what was put in is not read again. -/
def replaceAll (old new : Text) : Text → Text
  | [] => []
  | c :: cs =>
    if old.isPrefixOf (c :: cs) then new ++ replaceAll old new (cs.drop (old.length - 1))
    else c :: replaceAll old new cs
termination_by s => s.length
decreasing_by all_goals simp only [List.length_cons, List.length_drop]; omega

/-- The text between its first and its last character, whatever these are. -/
def inner (s : Text) : Text := (s.drop 1).dropLast

/-- A backslash before a character of the given kind is dropped; any other one stays. -/
def unescape (special : Char → Bool) : Text → Text
  | '\\' :: c :: cs =>
    if special c then c :: unescape special cs else '\\' :: unescape special (c :: cs)
  | c :: cs => c :: unescape special cs
  | [] => []

/-- The number of line feeds in the text. -/
def lineFeeds (s : Text) : Nat := s.count '\n'

/-- The line on which the character at an offset stands, if the text starts on line `first`.
A negative offset counts from the end. -/
def lineAt (s : Text) (offset : Int) (first : Int) : Int :=
  first + lineFeeds (s.take (if offset < 0 then s.length + offset else offset).toNat)

/-- The pieces between the separators; there is always one more piece than separators. -/
def pieces (isSeparator : Char → Bool) : Text → List Text
  | [] => [[]]
  | c :: cs =>
    if isSeparator c then [] :: pieces isSeparator cs
    else match pieces isSeparator cs with
      | [] => [[c]]
      | piece :: pieces => (c :: piece) :: pieces

/-- The pieces with `separator` between them. -/
def joinWith (separator : Text) (pieces : List Text) : Text := List.intercalate separator pieces

/-- Order by code point of the first difference, a beginning before its continuations. -/
def le : Text → Text → Bool
  | [], _ => true
  | _ :: _, [] => false
  | a :: as, b :: bs => a.val < b.val || (a = b && le as bs)

/-- The texts without repetitions, in increasing order. -/
def sortedSet (texts : List Text) : List Text := (texts.mergeSort le).eraseDups

end Text

end MessageHarvest
