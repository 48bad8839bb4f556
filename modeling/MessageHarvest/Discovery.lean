import MessageHarvest.File.Tree
import MessageHarvest.Notice
import MessageHarvest.Text.Char

/-!
# Finding files

Paths are expanded to the files that they name or hold: in increasing order at each level, each
directory visited once, and none whose name is excluded. Paths that lead nowhere are dropped.
-/
namespace MessageHarvest.Discovery

/-- Directories that are not searched, if no others are named. -/
def defaultExcluded : List Text :=
  ["node_modules".toList, "vendor".toList, "bower_components".toList, ".git".toList, ".svn".toList]

/-- Stands for the paths listed on the standard input. -/
def inputMark : Text := ['-']

/-- The paths in a list with one path to a line. Blank lines are dropped. -/
def pathList (s : Text) : List Text :=
  ((Text.lines s).map Text.trim).filter fun path => !path.isEmpty

/-- The files found so far, what was reported, and the directories visited. -/
structure Search where
  files : List Text
  notices : List Notice
  visited : List File.Location
deriving DecidableEq

namespace Search

/-- Nothing found yet. -/
def empty : Search := ⟨[], [], []⟩

/-- Reports something. -/
def report (s : Search) (n : Notice) : Search := { s with notices := s.notices ++ [n] }

/-- Visits a directory. One that cannot be listed is reported, and counts as empty. -/
def enter (s : Search) (tree : File.Tree) (path : Text) : Search :=
  let entered := { s with visited := tree.realLocation path :: s.visited }
  if tree.isLocked path then entered.report (.unlisted ⟨.noAccess, path⟩) else entered

end Search

/-- The name by which a directory is excluded. -/
def directoryName (path : Text) : Text :=
  let name := File.baseName (File.stripSlashes path)
  if name.isEmpty then path else name

/-- The paths of what a directory holds, in increasing order. -/
def children (tree : File.Tree) (path : Text) : List Text :=
  Text.sortedSet ((tree.list path).map fun name => File.stripSlashes path ++ '/' :: name)

/-- Adds what one path names or holds. Each level of the search visits a directory that no level
above it has visited, so `depth` need not exceed their number. -/
def visit (tree : File.Tree) (excluded : List Text) : Nat → Search → Text → Search
  | depth, s, path =>
    if tree.isDirectory path then
      if excluded.contains (directoryName path) then s.report (.excludedDirectory path)
      else if s.visited.contains (tree.realLocation path) then s.report (.visitedDirectory path)
      else
        match depth with
        | 0 => s
        | depth + 1 =>
          (children tree path).foldl (visit tree excluded depth) (s.enter tree path)
    else if tree.isFile path then { s with files := s.files ++ [path] }
    else if path = inputMark then s
    else s.report (.notFound path)

/-- The files that the paths name or hold, each once, and what was reported on the way. -/
def findFiles (tree : File.Tree) (excluded paths : List Text) : List Text × List Notice :=
  let found := (Text.sortedSet paths).foldl (visit tree excluded (tree.nodes.length + 1))
    Search.empty
  (found.files.eraseDups, found.notices)

end MessageHarvest.Discovery
