import MessageHarvest.File.Tree
import MessageHarvest.Text.Charset

/-!
# Resolving paths

To find the real location of a path, the system is asked about one name after the other. It cannot
be asked about a name that has no encoding or holds a NUL. `Tree.realLocation` is for paths without
such names. What a link names comes from the system, which takes it back as it is.
-/
namespace MessageHarvest.File

/-- Why the system cannot be asked about a name. -/
inductive NameFault where
  | unencodable (e : Unencodable)
  | embeddedNul
deriving DecidableEq

/-- What is reported. -/
def NameFault.message : NameFault → Text
  | unencodable e => e.message
  | embeddedNul => Fault.embeddedNul.message

/-- Whether the system cannot be asked about a name, whose characters need an encoding. -/
def nameFault? (chars : Charset) (name : Text) : Option NameFault :=
  match chars.lacking? name with
  | some e => some (.unencodable e)
  | none => if name.contains '\x00' then some .embeddedNul else none

namespace Tree

/-- What is wrong with a name on the way. About no name, `.` and `..` nobody is asked. -/
def stepFault? (chars : Charset) (name : Text) : Option NameFault :=
  if name = [] || name = ['.'] || name = ['.', '.'] then none else nameFault? chars name

/-- Follows names as `realFollow` does. At a link that leads to itself the rest is taken by its
meaning alone, and nobody is asked. -/
def resolveNames (chars : Charset) (tree : Tree) : Location → List Text → Except NameFault Location
  | dir, [] => .ok dir
  | dir, name :: rest =>
    match stepFault? chars name with
    | some fault => .error fault
    | none =>
      match tree.linkTarget? dir name with
      | none => resolveNames chars tree (dir.step name) rest
      | some target =>
        let found := tree.realWalk tree.nodes.length [dir.step name]
          (if isAbsolute target then [] else dir) (names target)
        if found.2 then resolveNames chars tree found.1 rest else .ok (found.1.follow rest)

/-- The location that a path really names. -/
def resolve (chars : Charset) (tree : Tree) (path : Text) : Except NameFault Location :=
  resolveNames chars tree (tree.start path) (names path)

/-- A path as seen from a base directory. The path is resolved first. -/
def reference (chars : Charset) (tree : Tree) (base path : Text) : Except NameFault Text :=
  (tree.resolve chars path).bind fun there =>
    (tree.resolve chars base).map fun here => showNames (here.relativeTo there)

end Tree

end MessageHarvest.File
