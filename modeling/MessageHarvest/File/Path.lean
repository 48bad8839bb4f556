import MessageHarvest.Text.Basic

/-!
# Paths

A path is text; its names stand between slashes. A location is the list of names that lead to it
from the root, with nothing left to resolve.
-/
namespace MessageHarvest.File

/-- The names from the root on. -/
abbrev Location := List Text

/-- The names in a path. Empty ones stand where slashes meet or end the path. -/
def names (path : Text) : List Text := Text.pieces (· = '/') path

/-- The path starts at the root. -/
def isAbsolute (path : Text) : Bool := path.head? = some '/'

/-- The path without slashes at its end. -/
def stripSlashes (path : Text) : Text := (path.reverse.dropWhile (· = '/')).reverse

/-- The last name of a path. -/
def baseName (path : Text) : Text := (path.reverse.takeWhile (· ≠ '/')).reverse

/-- The number of bytes of a name or a path in UTF-8. -/
def byteLength (s : Text) : Nat := s.foldl (fun n c => n + c.utf8Size) 0

/-- The most bytes of a name. -/
def maxNameBytes : Nat := 255

/-- The most bytes of a path. -/
def maxPathBytes : Nat := 4095

/-- One step from a location, by the meaning of the name alone: an empty name and `.` stay, `..`
goes up, and at the root there is no further up. -/
def Location.step (dir : Location) (name : Text) : Location :=
  if name = [] || name = ['.'] then dir
  else if name = ['.', '.'] then dir.dropLast
  else dir ++ [name]

/-- Where names lead from a location, by their meaning alone. Names that start with an empty one
and go on are those of a path from the root. -/
def Location.follow (dir : Location) (path : List Text) : Location :=
  match path with
  | [] :: _ :: _ => path.foldl Location.step []
  | _ => path.foldl Location.step dir

/-- The names that lead from one location to another: up from the base as far as the two differ,
then down. -/
def Location.relativeTo : Location → Location → List Text
  | b :: base, n :: location =>
    if b = n then relativeTo base location
    else (b :: base).map (fun _ => "..".toList) ++ (n :: location)
  | base, location => base.map (fun _ => "..".toList) ++ location

/-- Names as a path; no names are the directory itself. -/
def showNames (path : List Text) : Text :=
  if path.isEmpty then ['.'] else Text.joinWith ['/'] path

end MessageHarvest.File
