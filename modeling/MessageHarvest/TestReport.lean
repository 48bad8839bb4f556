import MessageHarvest.Notice
import MessageHarvest.Text.Char

/-!
# Reports of test cases

A test case is reported by its input, then what was expected and what came out, each line behind a
mark of ten characters.
-/
namespace MessageHarvest.TestReport

/-- A line between cases. -/
def rule : Notice := .plain .info (List.replicate 60 '-')

/-- The lines of a text, each behind a mark. Blank ends of the text are dropped. -/
def marked (level : Level) (mark s : Text) : List Notice :=
  (Text.lines (Text.trim s)).map fun line => .plain level (mark ++ line)

/-- A mark, filled up to ten characters. -/
def filled (mark : Text) : Text := mark ++ List.replicate (10 - mark.length) ' '

/-- The name of a test between two rules. -/
def banner (name : Text) : List Notice := rule :: marked .info [] name ++ [rule]

/-- A case: its input, what was expected and what came out. -/
def case (input expected actual : Text) : List Notice :=
  marked .info (filled []) input ++ marked .info (filled "===".toList) expected ++
    marked .info (filled "-->".toList) actual ++
    (if expected = actual then []
      else marked .error (filled "!!!".toList) "*** UNEXPECTED RESULT! ***".toList) ++ [rule]

end MessageHarvest.TestReport
