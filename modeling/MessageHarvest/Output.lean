import MessageHarvest.Extraction
import MessageHarvest.Text.Charset

/-!
# Writing the catalog

The catalog goes to a file, or to the standard output if none is named. A header goes before a new
catalog. When a catalog is added to a file, the header is left out, and a line feed is put in if the
file does not end with a line break. Writing may fail at every step, also when the file is open: a
character may have no encoding, or the system may take only a part of the bytes.
-/
namespace MessageHarvest

/-- What was to be done with a file. -/
inductive OutputStep where
  | readHeader
  | readExisting
  | openFile
  | extendFile
deriving DecidableEq

/-- A file could not be used for the output. -/
structure OutputError where
  step : OutputStep
  cause : File.Error
deriving DecidableEq

/-- What is reported, apart from the cause. -/
def OutputError.message (e : OutputError) : Text :=
  (match e.step with
    | .readHeader => "Unable to read header file ".toList
    | .readExisting => "Unable to read existing catalog ".toList
    | .openFile | .extendFile => "Unable to write catalog to ".toList) ++ e.cause.path

/-- The cause in words. Of an open file the system does not know the path. -/
def OutputError.reason (e : OutputError) : Text :=
  match e.step with
  | .extendFile => e.cause.fault.message
  | _ => e.cause.message

/-- Why a catalog was not written. -/
inductive WriteError where
  | setting (e : SettingError)
  | output (e : OutputError)
  | encoding (e : Utf8Error)
  | unencodable (e : Unencodable)
  | embeddedNul
  | stream (fault : File.Fault)

namespace WriteError

/-- The error about a file. A path that holds a NUL is refused before the system is asked, and that
is not taken for a problem with the output. -/
def ofFile (step : OutputStep) (cause : File.Error) : WriteError :=
  match cause.fault.system? with
  | some _ => .output ⟨step, cause⟩
  | none => .embeddedNul

/-- What is reported. -/
def message : WriteError → Text
  | setting e => e.message
  | output e => e.message ++ ": ".toList ++ e.reason
  | encoding e => e.message
  | unencodable e => e.message
  | embeddedNul => File.Fault.embeddedNul.message
  | stream fault => fault.message

end WriteError

/-- How the system refuses what is written: after it has taken so much of it. -/
structure Refusal where
  taken : Nat
  fault : File.Fault

/-- What the system makes of what is written: the characters that have an encoding in files and on
the standard output, and when bytes for a file or a text for the standard output are refused. -/
structure System where
  fileChars : Charset
  streamChars : Charset
  fileRefusal? : File.Tree → File.Location → List UInt8 → Option Refusal
  streamRefusal? : Text → Text → Option Refusal

/-- All characters have an encoding, and nothing is refused. -/
def System.sound : System := ⟨.unicode, .unicode, fun _ _ _ => none, fun _ _ => none⟩

/-- What writing works on: the files, what went to the standard output, and the system, which
decides on both. -/
structure Devices where
  tree : File.Tree
  stream : Text
  system : System

/-- A part of writing. What it has done by the time of an error stays done. -/
abbrev Writing := EStateM WriteError Devices

namespace Writing

/-- Asks for something that depends on the files. -/
def consult {α : Type} (question : File.Tree → Except WriteError α) : Writing α := fun d =>
  match question d.tree with
  | .ok answer => .ok answer d
  | .error e => .error e d

/-- Writes to the standard output. -/
def print (text : Text) : Writing Unit := fun d =>
  match d.system.streamChars.encode text with
  | .error e => .error (.unencodable e) d
  | .ok _ =>
    match d.system.streamRefusal? d.stream text with
    | none => .ok () { d with stream := d.stream ++ text }
    | some r => .error (.stream r.fault) { d with stream := d.stream ++ text.take r.taken }

/-- Opens a file to be written, and gives its location. -/
def openFile (path : Text) (append : Bool) : Writing File.Location := fun d =>
  match d.tree.openFile path append with
  | .ok opened => .ok opened.2 { d with tree := opened.1 }
  | .error cause => .error (.ofFile .openFile cause) d

/-- Writes at the end of an open file. What was done to open it is not undone by an error. -/
def extendFile (path : Text) (l : File.Location) (text : Text) : Writing Unit := fun d =>
  match d.system.fileChars.encode text with
  | .error e => .error (.unencodable e) d
  | .ok bytes =>
    match d.system.fileRefusal? d.tree l bytes with
    | none => .ok () { d with tree := d.tree.extend l bytes }
    | some r => .error (.output ⟨.extendFile, r.fault, path⟩)
        { d with tree := d.tree.extend l (bytes.take r.taken) }

end Writing

namespace Extraction

/-- The header, which must be UTF-8. -/
def readHeader (run : Extraction) (tree : File.Tree) : Except WriteError Text :=
  match run.options.headerFile with
  | none | some [] => .ok []
  | some path =>
    match tree.read path with
    | .error cause => .error (.ofFile .readHeader cause)
    | .ok bytes =>
      match Text.ofUtf8 bytes with
      | .error e => .error (.encoding e)
      | .ok s => .ok (Text.plainLineBreaks s)

/-- The bytes are those of a file to which a line can be added. -/
def endsLine (bytes : List UInt8) : Bool :=
  match bytes.getLast? with
  | none => true
  | some b => b = 0x0A || b = 0x0D

/-- What is put between the content of a file and a catalog that is added to it. -/
def separator (tree : File.Tree) (path catalog : Text) : Except WriteError Text :=
  if catalog.isEmpty then .ok []
  else match tree.read path with
    | .error cause => .error (.ofFile .readExisting cause)
    | .ok bytes => .ok (if endsLine bytes then [] else ['\n'])

/-- What is put before the catalog in a file: a header if the file is new, else a separator. -/
def preamble (run : Extraction) (tree : File.Tree) (path catalog : Text) (append : Bool) :
    Except WriteError Text :=
  if append && tree.pathExists path then separator tree path catalog else run.readHeader tree

/-- Writes the catalog to a file. All that has to be read is read before the file is opened. -/
def writeFile (run : Extraction) (path : Text) (append : Bool) : Writing (List Notice) := do
  let catalog := run.catalog.text
  let before ← Writing.consult fun tree => run.preamble tree path catalog append
  let l ← Writing.openFile path append
  Writing.extendFile path l (before ++ catalog)
  return [.wrote append run.catalog.entries.length path]

/-- The file that the catalog goes to: the one that is named here, or else in the options. -/
def outputPath? (run : Extraction) (output : Option Text) : Option Text :=
  (nonEmpty? output).or (nonEmpty? run.options.output)

/-- Writes the catalog to its file, or to the standard output if there is none, and gives what is
to be reported. -/
def write (run : Extraction) (output : Option Text) : Writing (List Notice) := do
  let append ← Writing.consult fun _ => run.options.append.mapError .setting
  match run.outputPath? output with
  | none =>
    let header ← Writing.consult run.readHeader
    Writing.print (header ++ run.catalog.text)
    return []
  | some path => run.writeFile path append

end Extraction

end MessageHarvest
