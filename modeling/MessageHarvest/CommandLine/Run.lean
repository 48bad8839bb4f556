import MessageHarvest.CommandLine.Arguments
import MessageHarvest.Output

/-!
# The command

Reads the arguments, extracts, and writes the catalog. Notices that matter enough go to the log.
-/
namespace MessageHarvest.CommandLine

/-- What an option is given as a setting; no value makes an empty list. -/
def Given.setting {α : Type} (toValue : α → Value) : Given α → Value
  | .value a => toValue a
  | .nothing => .list []

/-- The options that the arguments give. The base directory is made real at once. -/
def Arguments.settings (a : Arguments) (tree : File.Tree) : Settings :=
  let text (given : Option (Given Text)) : Value := (given.map (Given.setting .text)).getD .null
  let flag (b : Bool) : Value := if b then .bool true else .null
  let realPath (path : Text) : Value :=
    .text (if path.isEmpty then path else Extraction.locationPath (tree.realLocation path))
  [("base_dir".toList, (a.base.map (Given.setting realPath)).getD .null),
    ("output".toList, text a.out),
    ("append".toList, flag a.append),
    ("header_file".toList, text a.header),
    ("msgctxt".toList, text a.msgctxt),
    ("language".toList, text a.language),
    ("plural_forms".toList, (a.pluralForms.map (Given.setting .int)).getD .null),
    ("exclude_dirs".toList,
      (a.exclude.map fun names => Value.list (names.map (Given.setting .text))).getD .null),
    ("warn_unrecognised".toList, flag a.warnUnrecognised)]

/-- The ranks of thresholds by name. -/
def thresholds : List (String × Nat) :=
  [("CRITICAL", 50), ("FATAL", 50), ("ERROR", 40), ("WARNING", 30), ("WARN", 30), ("INFO", 20),
    ("DEBUG", 10), ("NOTSET", 0)]

/-- The rank from which on notices are logged. The name of a threshold may be given in any case;
another name counts as the usual one. -/
def threshold (debug : Bool) (name : Option Text) : Nat :=
  if debug then Level.debug.rank
  else
    let wanted := (name.map Text.toUpper).getD "WARNING".toList
    ((thresholds.find? fun t => t.1.toList = wanted).map (·.2)).getD Level.warning.rank

/-- The log of the notices from a rank on, one line to each. -/
def logText (rank : Nat) (notices : List Notice) : Text :=
  (notices.filter fun n => rank ≤ n.level.rank).flatMap fun n =>
    n.level.name ++ ": ".toList ++ n.message ++ ['\n']

/-- How the command ends: with a status, or by an error that nobody expects. -/
structure Result where
  status : Except WriteError Nat
  stdout : Text
  log : Text
  tree : File.Tree

/-- Extracts and writes as the arguments ask. -/
def runArguments (system : System) (defaults : Settings) (logLevel : Option Text)
    (tree : File.Tree) (input : Text) (a : Arguments) : Result :=
  let log := logText (threshold a.debug logLevel)
  match Extraction.new tree (Options.ofSettings defaults (a.settings tree)) with
  | .error e => ⟨.error (.setting e), [], log [], tree⟩
  | .ok (run, started) =>
    let done := run.extractPaths tree a.files input
    let notices := started ++ done.notices
    match done.result with
    | .error e => ⟨.error (.setting e), [], log notices, tree⟩
    | .ok _ =>
      match (done.run.write none).run ⟨tree, [], system⟩ with
      | .ok more left => ⟨.ok 0, left.stream, log (notices ++ more), left.tree⟩
      | .error (.output e) left =>
        let report := .outputFailed (WriteError.output e).message
        ⟨.ok 1, left.stream, log (notices ++ [report]), left.tree⟩
      | .error e left => ⟨.error e, left.stream, log notices, left.tree⟩

/-- Runs the command. -/
def run (system : System) (defaults : Settings) (logLevel : Option Text) (tree : File.Tree)
    (input : Text) (words : List Text) : Except Stop Result :=
  (Arguments.parse words).map (runArguments system defaults logLevel tree input)

end MessageHarvest.CommandLine
