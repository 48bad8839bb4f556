import MessageHarvest.Catalog.Basic
import MessageHarvest.Dialect
import MessageHarvest.Discovery
import MessageHarvest.Options.Basic
import MessageHarvest.Text.Utf8

/-!
# Extraction

A run finds the files, reads each in its dialect, and gathers what they contribute. A file that
cannot be read counts as empty, and one whose parser gives up keeps what was found before that.
-/
namespace MessageHarvest

/-- A run of the extraction: its options, the strings so far, and what became of the files. -/
structure Extraction where
  options : Options
  tag : Option Text
  keys : List Text
  catalog : Catalog
  parsed : Nat
  skipped : Nat
  failed : Nat

/-- What a step of a run leaves: the run, what was reported, and the result or why there is
none. -/
structure Outcome (α : Type) where
  run : Extraction
  notices : List Notice
  result : Except SettingError α

namespace Extraction

/-- The location as a path. -/
def locationPath (l : File.Location) : Text := '/' :: Text.joinWith ['/'] l

/-- A run that has not read anything. -/
def new (tree : File.Tree) (options : Options) :
    Except SettingError (Extraction × List Notice) :=
  options.settingKeys.bind fun keys =>
    (options.pluralForms Plurals.known).map fun forms =>
      (⟨options, options.commentTag, keys,
        Catalog.empty (options.baseDir (locationPath tree.workDir)) options.defaultContext forms.1,
        0, 0, 0⟩, forms.2)

/-- The text of a file: what is no UTF-8 is replaced, and line breaks are made line feeds. -/
def readSource (tree : File.Tree) (path : Text) : Except File.Error Text :=
  (tree.read path).map fun bytes => Text.plainLineBreaks (Text.ofUtf8Lossy bytes)

/-- The text of a file, where one that cannot be read is empty. -/
def readOrEmpty (tree : File.Tree) (path : Text) : Text × List Notice :=
  match readSource tree path with
  | .ok content => (content, [])
  | .error e => ([], [.unreadable e])

/-- Adds what a file contributes in its dialect. -/
def parse (run : Extraction) (tree : File.Tree) (path content : Text) (dialect : Dialect) :
    Outcome Bool :=
  let found := dialect.findings run.tag run.keys path content
  let added := run.catalog.apply tree path found.events
  let start := [.parsing path dialect.parserName]
  match found.failure with
  | none =>
    ⟨{ run with catalog := added.1, parsed := run.parsed + 1 }, start ++ added.2, .ok true⟩
  | some e =>
    ⟨{ run with catalog := added.1, failed := run.failed + 1 },
      start ++ added.2 ++ [.parseFailed path e.message], .ok false⟩

/-- Passes over a file that nobody reads. -/
def skip (run : Extraction) (path : Text) : Outcome Bool :=
  let counted := { run with skipped := run.skipped + 1 }
  match run.options.warnUnrecognised with
  | .error e => ⟨counted, [], .error e⟩
  | .ok warn => ⟨counted, [.noParser path (warn && !Dialect.isBackup path)], .ok false⟩

/-- Reads one file. The result tells whether its parser came to the end. -/
def extractFile (run : Extraction) (tree : File.Tree) (path : Text) : Outcome Bool :=
  let content := readOrEmpty tree path
  let done := match Dialect.ofFile? path content.1 with
    | some dialect => run.parse tree path content.1 dialect
    | none => run.skip path
  { done with notices := content.2 ++ done.notices }

/-- Reads files one after the other. -/
def extractFiles (tree : File.Tree) : Extraction → List Text → Outcome Unit
  | run, [] => ⟨run, [], .ok ()⟩
  | run, path :: paths =>
    let done := run.extractFile tree path
    match done.result with
    | .error e => ⟨done.run, done.notices, .error e⟩
    | .ok _ =>
      let rest := extractFiles tree done.run paths
      { rest with notices := done.notices ++ rest.notices }

/-- The files under the paths. The mark for the standard input adds the paths listed there. -/
def findFiles (run : Extraction) (tree : File.Tree) (paths : List Text) (input : Text) :
    Except SettingError (List Text × List Notice) :=
  let all := if paths.contains Discovery.inputMark then paths ++ Discovery.pathList input else paths
  run.options.excludeDirs.map fun excluded => Discovery.findFiles tree excluded all

/-- Reads every file under the paths. -/
def extractPaths (run : Extraction) (tree : File.Tree) (paths : List Text) (input : Text) :
    Outcome Unit :=
  match run.findFiles tree paths input with
  | .error e => ⟨run, [], .error e⟩
  | .ok (files, notices) =>
    let done := extractFiles tree run files
    let started := notices ++ .scanning files.length :: done.notices
    match done.result with
    | .error e => ⟨done.run, started, .error e⟩
    | .ok _ =>
      let run := done.run
      ⟨run, started ++ [.finished run.parsed run.skipped run.failed run.catalog.entries.length],
        .ok ()⟩

end Extraction

end MessageHarvest
