import MessageHarvest.File.Error
import MessageHarvest.File.Path

/-!
# File trees

Directories, files and symbolic links by location, with a working directory from which relative
paths start. Opening a path follows links as far as a limit; finding the real location of a path
also works where nothing is, and stops at a link that leads to itself.
-/
namespace MessageHarvest.File

/-- What stands at a location. -/
inductive Node where
  | directory
  | file (content : List UInt8)
  | link (target : Text)
deriving DecidableEq

/-- A tree of files. The root is a directory without being listed. What the directories at
`locked` hold can be used by name, and cannot be listed. -/
structure Tree where
  nodes : List (Location × Node)
  workDir : Location
  locked : List Location := []
deriving DecidableEq

namespace Tree

/-- No files, and the root as working directory. -/
def empty : Tree := { nodes := [], workDir := [] }

/-- What stands at a location. -/
def node? (tree : Tree) (l : Location) : Option Node :=
  if l = [] then some .directory else tree.nodes.lookup l

/-- Where a path starts. -/
def start (tree : Tree) (path : Text) : Location := if isAbsolute path then [] else tree.workDir

/-- What a path leads to. Nothing may stand there although its directory does. -/
inductive Target where
  | directory (l : Location)
  | file (l : Location) (content : List UInt8)
  | absent (l : Location)
deriving DecidableEq

/-- How far names lead: to their end, or to a link, with the names that are left to be followed
from the given directory once the link has been put in. -/
inductive Way where
  | ends (target : Target)
  | link (dir : Location) (left : List Text)
deriving DecidableEq

/-- Follows names from a directory up to the first link. Where a file may be created, a name with
nothing but slashes after it can only be that of a directory. -/
def advance (tree : Tree) (creating : Bool) : Location → List Text → Except Fault Way
  | dir, [] => .ok (.ends (.directory dir))
  | dir, name :: rest =>
    if name = [] || name = ['.'] || name = ['.', '.'] then advance tree creating (dir.step name) rest
    else if creating && rest ≠ [] && rest.all List.isEmpty then .error .isDirectory
    else if maxNameBytes < byteLength name then .error .nameTooLong
    else
      match tree.node? (dir ++ [name]) with
      | none => if rest = [] then .ok (.ends (.absent (dir ++ [name]))) else .error .missing
      | some .directory => advance tree creating (dir ++ [name]) rest
      | some (.file content) =>
        if rest = [] then .ok (.ends (.file (dir ++ [name]) content)) else .error .notDirectory
      | some (.link target) =>
        .ok (.link (if isAbsolute target then [] else dir) (names target ++ rest))

/-- The most links that are followed on the way. -/
def maxLinks : Nat := 40

/-- Follows names from a directory through so many links. -/
def walk (tree : Tree) (creating : Bool) : Nat → Location → List Text → Except Fault Target
  | links, dir, names =>
    match advance tree creating dir names with
    | .error fault => .error fault
    | .ok (.ends target) => .ok target
    | .ok (.link dir left) =>
      match links with
      | 0 => .error .tooManyLinks
      | links + 1 => walk tree creating links dir left

/-- Why a path is not looked up at all. -/
def pathFault? (path : Text) : Option Fault :=
  if path = [] then some .missing
  else if path.contains '\x00' then some .embeddedNul
  else if maxPathBytes < byteLength path then some .nameTooLong
  else none

/-- What a path leads to, links followed. -/
def target (tree : Tree) (creating : Bool) (path : Text) : Except Fault Target :=
  match pathFault? path with
  | some fault => .error fault
  | none => walk tree creating maxLinks (tree.start path) (names path)

/-- The path leads to a directory. -/
def isDirectory (tree : Tree) (path : Text) : Bool :=
  match tree.target false path with
  | .ok (.directory _) => true
  | _ => false

/-- The path leads to a file. -/
def isFile (tree : Tree) (path : Text) : Bool :=
  match tree.target false path with
  | .ok (.file ..) => true
  | _ => false

/-- Something stands where the path leads. -/
def pathExists (tree : Tree) (path : Text) : Bool := tree.isDirectory path || tree.isFile path

/-- The names in the directory at a location. -/
def childNames (tree : Tree) (l : Location) : List Text :=
  tree.nodes.filterMap fun entry =>
    if entry.1 ≠ [] ∧ entry.1.dropLast = l then entry.1.getLast? else none

/-- The path leads to a directory that cannot be listed. -/
def isLocked (tree : Tree) (path : Text) : Bool :=
  match tree.target false path with
  | .ok (.directory l) => tree.locked.contains l
  | _ => false

/-- The names that can be listed in the directory that a path leads to. -/
def list (tree : Tree) (path : Text) : List Text :=
  match tree.target false path with
  | .ok (.directory l) => if tree.locked.contains l then [] else tree.childNames l
  | _ => []

/-- The link that stands under a name. -/
def linkTarget? (tree : Tree) (dir : Location) (name : Text) : Option Text :=
  if name = [] || name = ['.'] || name = ['.', '.'] then none
  else match tree.node? (dir ++ [name]) with
    | some (.link target) => some target
    | _ => none

/-- Follows names as far as anything stands there, and beyond by their meaning. `active` are the
links that are being followed; at one of them the rest is taken by its meaning alone, and the
second part of the result is false. `resolve` follows what another link names. -/
def realFollow (tree : Tree) (active : List Location)
    (resolve : Location → Location → List Text → Location × Bool) :
    Location → List Text → Location × Bool
  | dir, [] => (dir, true)
  | dir, name :: rest =>
    let here := dir.step name
    match tree.linkTarget? dir name with
    | none => realFollow tree active resolve here rest
    | some target =>
      if here ∈ active then (here.follow rest, false)
      else
        let found := resolve here (if isAbsolute target then [] else dir) (names target)
        if found.2 then realFollow tree active resolve found.1 rest
        else (found.1.follow rest, false)

/-- Follows names where so many links may stand one inside the other. -/
def realWalk (tree : Tree) : Nat → List Location → Location → List Text → Location × Bool
  | 0, active => realFollow tree active fun here _ _ => (here, true)
  | depth + 1, active =>
    realFollow tree active fun here => realWalk tree depth (here :: active)

/-- The location that a path really names. Links that are followed one inside the other are all
different, so the number of nodes is depth enough. -/
def realLocation (tree : Tree) (path : Text) : Location :=
  (realWalk tree (tree.nodes.length + 1) [] (tree.start path) (names path)).1

/-- A path as seen from a base directory, both by their real locations. -/
def relativePath (tree : Tree) (base path : Text) : Text :=
  showNames ((tree.realLocation base).relativeTo (tree.realLocation path))

/-- The content of the file that a path leads to. -/
def read (tree : Tree) (path : Text) : Except Error (List UInt8) :=
  match tree.target false path with
  | .ok (.file _ content) => .ok content
  | .ok (.directory _) => .error ⟨.isDirectory, path⟩
  | .ok (.absent _) => .error ⟨.missing, path⟩
  | .error fault => .error ⟨fault, path⟩

/-- Puts a node at a location, in place of the one that stands there. -/
def put (tree : Tree) (l : Location) (node : Node) : Tree :=
  if (tree.nodes.lookup l).isSome then
    { tree with nodes := tree.nodes.map fun entry => if entry.1 = l then (l, node) else entry }
  else { tree with nodes := tree.nodes ++ [(l, node)] }

/-- Where a file is written that is opened by this path. -/
def writeLocation (tree : Tree) (path : Text) : Except Error Location :=
  match tree.target true path with
  | .error fault => .error ⟨fault, path⟩
  | .ok (.directory _) => .error ⟨.isDirectory, path⟩
  | .ok (.file l _) | .ok (.absent l) => .ok l

/-- The content of the file at a location. Nothing else has any. -/
def content (tree : Tree) (l : Location) : List UInt8 :=
  match tree.node? l with
  | some (.file bytes) => bytes
  | _ => []

/-- Opens a file to be written. It is there from then on, and empty unless it is to be added to. -/
def openFile (tree : Tree) (path : Text) (append : Bool) : Except Error (Tree × Location) :=
  (tree.writeLocation path).map fun l =>
    (tree.put l (.file (if append then tree.content l else [])), l)

/-- Puts bytes at the end of the file at a location. -/
def extend (tree : Tree) (l : Location) (bytes : List UInt8) : Tree :=
  tree.put l (.file (tree.content l ++ bytes))

/-- Writes a file, over or after its old content. -/
def write (tree : Tree) (path : Text) (append : Bool) (bytes : List UInt8) :
    Except Error Tree :=
  (tree.openFile path append).map fun opened => opened.1.extend opened.2 bytes

/-- Makes the directories that lead to a location, where nothing stands yet. -/
def makeParents (tree : Tree) (l : Location) : Tree :=
  (List.range (l.length - 1)).foldl (fun tree n =>
    let parent := l.take (n + 1)
    if (tree.node? parent).isSome then tree else tree.put parent .directory) tree

/-- Puts a node where a path leads by its meaning, together with the directories above it. -/
def plant (tree : Tree) (path : Text) (node : Node) : Tree :=
  let l := (tree.start path).follow (names path)
  (tree.makeParents l).put l node

end Tree

end MessageHarvest.File
