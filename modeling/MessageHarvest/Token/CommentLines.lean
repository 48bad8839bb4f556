import MessageHarvest.Text.Char
import MessageHarvest.Token.Basic

/-!
# Comments for translators

A comment is kept for translators if its first line with text starts with a tag. Its lines are
taken without the asterisk that leads them, without blank ends, and without empty lines.
-/
namespace MessageHarvest

/-- A line of a comment without its leading white space, one asterisk and one blank after it, and
without what trimming removes at its end. -/
def commentLine (line : Text) : Text :=
  Text.trimRight <|
    match line.dropWhile Text.isSpace with
    | '*' :: c :: cs => if Text.isSpace c then cs else c :: cs
    | ['*'] => []
    | cs => cs

/-- The lines of a comment without its delimiters, if it starts with the tag. -/
def taggedLines (tag : Option Text) (s : Text) : List Text :=
  let lines := ((Text.lines (Text.trim s)).map commentLine).filter fun l => !l.isEmpty
  match tag, lines with
  | some (t :: ts), first :: _ => if (t :: ts).isPrefixOf first then lines else []
  | _, _ => []

/-- The text between the delimiters of a comment in program code. -/
def Comment.body (c : Comment) : Text :=
  match c.text with
  | '/' :: '*' :: cs =>
    if "*/".toList.isSuffixOf c.text then (c.text.take (c.text.length - 2)).drop 2 else cs
  | '/' :: '/' :: cs => cs
  | '#' :: cs => cs
  | s => s

/-- The lines that a comment in program code has for translators. -/
def commentLines (tag : Option Text) (comment : Option Comment) : List Text :=
  match comment with
  | some c => taggedLines tag c.body
  | none => []

end MessageHarvest
