import MessageHarvest.Text.Basic

/-!
# Problems

What goes wrong in a run is about a source file, about the catalog, about the output, or about
nothing in particular. A problem may have a cause, and then the cause speaks for it.
-/
namespace MessageHarvest

/-- What a problem is about. -/
inductive ProblemKind where
  | general
  | source
  | catalog
  | output
deriving DecidableEq

/-- A problem has a path if it is about a file. -/
def ProblemKind.hasPath : ProblemKind → Bool
  | source | output => true
  | general | catalog => false

/-- A problem: what is said of it, the text of its cause, and the file it is about. -/
structure Problem where
  kind : ProblemKind
  message : Option Text
  cause : Option Text
  path : Option Text
deriving DecidableEq

namespace Problem

/-- A problem about a path, which is kept only where it matters. -/
def about (kind : ProblemKind) (message cause path : Option Text) : Problem :=
  ⟨kind, message, cause, if kind.hasPath then path else none⟩

/-- The text of a problem: that of its cause if there is one, else its message. -/
def text (p : Problem) : Text := (p.cause.or p.message).getD "None".toList

end Problem

end MessageHarvest
