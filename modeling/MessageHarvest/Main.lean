import MessageHarvest.CommandLine.Run

/-!
# The program

Reads what the arguments can reach into a tree of files, runs the command on that tree, and writes
back the files that differ afterwards. Every decision is the command's; here only the system is
asked and told.
-/
namespace MessageHarvest.Program

/-- A text as the system takes it. -/
def native (s : Text) : String := String.ofList s

/-- The location of a path from the root. -/
def locationOf (path : String) : File.Location :=
  (File.names path.toList).filter fun name => !name.isEmpty

/-- What has been read: the files, and the directories whose content is among them. -/
structure Snapshot where
  tree : File.Tree
  complete : List File.Location

/-- Where something really stands, if anything is there. -/
def realLocation? (l : File.Location) : IO (Option File.Location) := do
  match ← (IO.FS.realPath (native (Extraction.locationPath l))).toBaseIO with
  | .ok path => return some (locationOf path.toString)
  | .error _ => return none

/-- Reads what stands at a real location, without what a directory holds. -/
def readNode (tree : File.Tree) (l : File.Location) : IO File.Tree := do
  if (tree.node? l).isSome then return tree
  let path ← IO.FS.realPath (native (Extraction.locationPath l))
  let node ← match (← path.metadata).type with
    | .dir => pure (some File.Node.directory)
    | .file => do
      match ← (IO.FS.readBinFile path).toBaseIO with
      | .ok content => pure (some (.file content.data.toList))
      | .error _ => pure none
    | _ => pure none
  return match node with
    | some node => (tree.makeParents l).put l node
    | none => tree

/-- Reads what has a name in a real directory. The second part is where names go on from there. -/
def enter (tree : File.Tree) (dir : File.Location) (name : Text) :
    IO (File.Tree × File.Location) := do
  let here := dir.step name
  match ← realLocation? here with
  | none => return (tree, here)
  | some real =>
    let tree ← readNode tree real
    if real = here then return (tree, real)
    return ((tree.makeParents here).put here (.link (Extraction.locationPath real)), real)

/-- Reads a directory with all that it holds. What has an excluded name is not opened. -/
partial def complete (excluded : List Text) (s : Snapshot) (l : File.Location) : IO Snapshot := do
  if s.complete.contains l || s.tree.node? l != some .directory then return s
  let path ← IO.FS.realPath (native (Extraction.locationPath l))
  match ← path.readDir.toBaseIO with
  | .error _ => return { s with tree := { s.tree with locked := l :: s.tree.locked } }
  | .ok entries =>
    entries.foldlM (fun s entry => do
      let name := entry.fileName.toList
      let found ← enter s.tree l name
      let s := { s with tree := found.1 }
      if excluded.contains name then return s else complete excluded s found.2)
      { s with complete := l :: s.complete }

/-- Reads what a path leads to, and what stands on the way. The second part is its location. -/
def follow (tree : File.Tree) (path : Text) : IO (File.Tree × File.Location) :=
  (File.names path).foldlM (fun found name => enter found.1 found.2 name) (tree, tree.start path)

/-- Reads what a path leads to, with all that it holds if it is a directory. -/
def load (excluded : List Text) (s : Snapshot) (path : Text) : IO Snapshot := do
  let found ← follow s.tree path
  let s := { s with tree := found.1 }
  if excluded.contains (Discovery.directoryName path) then return s
  complete excluded s found.2

/-- Writes the files that differ from what was read. -/
def store (before after : File.Tree) : IO Unit :=
  after.nodes.forM fun entry => do
    match entry.2 with
    | .file content =>
      if before.node? entry.1 ≠ some entry.2 then
        IO.FS.writeBinFile (native (Extraction.locationPath entry.1)) ⟨content.toArray⟩
    | _ => pure ()

/-- The variables that are set, of those that matter. -/
def environment : IO Environment :=
  Defaults.variableNames.filterMapM fun name => do
    return (← IO.getEnv (native name)).map fun value => (name, value.toList)

/-- Prints the log, and keeps it in the user's directory for settings. -/
def keepLog (log : Text) : IO Unit := do
  IO.eprint (native log)
  let home := (← IO.getEnv "HOME").getD ""
  let settings := (← IO.getEnv "XDG_CONFIG_HOME").getD (home ++ "/.config")
  let path := settings ++ "/CiviStrings/civistrings.log"
  try
    IO.FS.createDirAll (settings ++ "/CiviStrings")
    IO.FS.writeFile path (native log)
  catch e => IO.eprintln ("WARNING: Unable to create log file at " ++ path ++ ": " ++ toString e)

/-- Runs the command with arguments that could be read. -/
def execute (a : CommandLine.Arguments) : IO UInt32 := do
  let input ← if a.files.contains Discovery.inputMark then (← IO.getStdin).readToEnd else pure ""
  let defaults := Defaults.ofEnvironment (← environment)
  let start : File.Tree := { nodes := [], workDir := locationOf (← IO.currentDir).toString }
  let options := Options.ofSettings defaults.settings (a.settings start)
  let excluded := match options.excludeDirs with
    | .ok names => names
    | .error _ => []
  let named := match a.base with
    | some (.value path) => [path]
    | _ => []
  let single := named ++ options.headerFile.toList ++ options.output.toList ++
    [options.baseDir ['.']]
  let tree ← single.foldlM (fun tree path => do return (← follow tree path).1)
    (← readNode start start.workDir)
  let files := a.files ++ Discovery.pathList input.toList
  let read ← files.foldlM (load excluded) ⟨tree, []⟩
  let level := (← IO.getEnv "LOG_LEVEL").map String.toList
  let result := CommandLine.runArguments .sound defaults.settings level read.tree input.toList a
  IO.print (native result.stdout)
  store read.tree result.tree
  keepLog result.log
  match result.status with
  | .ok status => return status.toUInt32
  | .error e =>
    IO.eprintln (native e.message)
    return 1

end MessageHarvest.Program

/-- The command line. -/
def main (words : List String) : IO UInt32 := do
  match MessageHarvest.CommandLine.Arguments.parse (words.map String.toList) with
  | .ok a => MessageHarvest.Program.execute a
  | .error .help =>
    IO.println (String.ofList MessageHarvest.CommandLine.usage)
    return 0
  | .error (.usage e) =>
    IO.eprintln (String.ofList MessageHarvest.CommandLine.usage)
    IO.eprintln (String.ofList e.message)
    return 2
