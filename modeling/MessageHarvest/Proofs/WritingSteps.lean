import MessageHarvest.Output
import MessageHarvest.Proofs.FileWriting

/-! # The ways in which writing ends

What goes before the catalog is read first, and then the catalog is printed, or
a file is opened and extended. Each of these steps can fail, and what has been
done by then stays done: a file that was opened to be written anew is empty,
and one that the system stopped taking holds a first part. `Ends` has one case
for each way, and writing ends in just these (`write_eq_iff`). -/
namespace MessageHarvest

/-! ## The steps -/

theorem Writing.run_consult {α : Type} (question : File.Tree → Except WriteError α) (d : Devices) :
    (Writing.consult question).run d = match question d.tree with
      | .ok answer => .ok answer d
      | .error e => .error e d := rfl

theorem Writing.run_print (text : Text) (d : Devices) :
    (Writing.print text).run d = match d.system.streamChars.encode text with
      | .error e => .error (.unencodable e) d
      | .ok _ =>
        match d.system.streamRefusal? d.stream text with
        | none => .ok () { d with stream := d.stream ++ text }
        | some r =>
          .error (.stream r.fault) { d with stream := d.stream ++ text.take r.taken } := rfl

theorem Writing.run_openFile (path : Text) (append : Bool) (d : Devices) :
    (Writing.openFile path append).run d = match d.tree.openFile path append with
      | .ok opened => .ok opened.2 { d with tree := opened.1 }
      | .error cause => .error (.ofFile .openFile cause) d := rfl

theorem Writing.run_extendFile (path : Text) (l : File.Location) (text : Text) (d : Devices) :
    (Writing.extendFile path l text).run d = match d.system.fileChars.encode text with
      | .error e => .error (.unencodable e) d
      | .ok bytes =>
        match d.system.fileRefusal? d.tree l bytes with
        | none => .ok () { d with tree := d.tree.extend l bytes }
        | some r => .error (.output ⟨.extendFile, r.fault, path⟩)
            { d with tree := d.tree.extend l (bytes.take r.taken) } := rfl

namespace Extraction

/-- The file that holds the header, if one is named. -/
def headerPath? (run : Extraction) : Option Text := nonEmpty? run.options.headerFile

theorem readHeader_none {run : Extraction} {tree : File.Tree} (h : run.headerPath? = none) :
    run.readHeader tree = .ok [] := by
  unfold headerPath? nonEmpty? at h
  unfold readHeader
  cases hfile : run.options.headerFile with
  | none => rfl
  | some path =>
    cases path with
    | nil => rfl
    | cons c cs =>
      rw [hfile] at h
      cases h

theorem readHeader_some {run : Extraction} {tree : File.Tree} {path : Text}
    (h : run.headerPath? = some path) :
    run.readHeader tree = match tree.read path with
      | .error cause => .error (.ofFile .readHeader cause)
      | .ok bytes =>
        match Text.ofUtf8 bytes with
        | .error e => .error (.encoding e)
        | .ok s => .ok (Text.plainLineBreaks s) := by
  unfold headerPath? nonEmpty? at h
  unfold readHeader
  cases hfile : run.options.headerFile with
  | none =>
    rw [hfile] at h
    cases h
  | some other =>
    rw [hfile] at h
    cases other with
    | nil => cases h
    | cons c cs =>
      cases h
      rfl

/-- What goes before the catalog, if all that has to be read for it can be read. -/
def front (run : Extraction) (output : Option Text) (append : Bool) (tree : File.Tree) :
    Except WriteError Text :=
  match run.outputPath? output with
  | none => run.readHeader tree
  | some path => run.preamble tree path run.catalog.text append

/-- How writing ends. The catalog with what goes before it is `before ++ run.catalog.text`; the file
that was opened for it is at `l` in `opened`. -/
inductive Ends (run : Extraction) (output : Option Text) (d : Devices) :
    EStateM.Result WriteError Devices (List Notice) → Prop
  | setting {e : SettingError} (happend : run.options.append = .error e) :
    Ends run output d (.error (.setting e) d)
  | reading {append : Bool} {e : WriteError} (happend : run.options.append = .ok append)
    (hfront : run.front output append d.tree = .error e) : Ends run output d (.error e d)
  | opening {append : Bool} {before path : Text} {cause : File.Error}
    (happend : run.options.append = .ok append)
    (hfront : run.front output append d.tree = .ok before)
    (hpath : run.outputPath? output = some path)
    (hopen : d.tree.openFile path append = .error cause) :
    Ends run output d (.error (.ofFile .openFile cause) d)
  | unencodable {append : Bool} {before path : Text} {opened : File.Tree} {l : File.Location}
    {e : Unencodable} (happend : run.options.append = .ok append)
    (hfront : run.front output append d.tree = .ok before)
    (hpath : run.outputPath? output = some path)
    (hopen : d.tree.openFile path append = .ok (opened, l))
    (hchars : d.system.fileChars.encode (before ++ run.catalog.text) = .error e) :
    Ends run output d (.error (.unencodable e) { d with tree := opened })
  | refused {append : Bool} {before path : Text} {opened : File.Tree} {l : File.Location}
    {bytes : List UInt8} {r : Refusal} (happend : run.options.append = .ok append)
    (hfront : run.front output append d.tree = .ok before)
    (hpath : run.outputPath? output = some path)
    (hopen : d.tree.openFile path append = .ok (opened, l))
    (hchars : d.system.fileChars.encode (before ++ run.catalog.text) = .ok bytes)
    (hrefused : d.system.fileRefusal? opened l bytes = some r) :
    Ends run output d (.error (.output ⟨.extendFile, r.fault, path⟩)
      { d with tree := opened.extend l (bytes.take r.taken) })
  | written {append : Bool} {before path : Text} {opened : File.Tree} {l : File.Location}
    {bytes : List UInt8} (happend : run.options.append = .ok append)
    (hfront : run.front output append d.tree = .ok before)
    (hpath : run.outputPath? output = some path)
    (hopen : d.tree.openFile path append = .ok (opened, l))
    (hchars : d.system.fileChars.encode (before ++ run.catalog.text) = .ok bytes)
    (htaken : d.system.fileRefusal? opened l bytes = none) :
    Ends run output d (.ok [.wrote append run.catalog.entries.length path]
      { d with tree := opened.extend l bytes })
  | unprintable {append : Bool} {before : Text} {e : Unencodable}
    (happend : run.options.append = .ok append)
    (hfront : run.front output append d.tree = .ok before) (hpath : run.outputPath? output = none)
    (hchars : d.system.streamChars.encode (before ++ run.catalog.text) = .error e) :
    Ends run output d (.error (.unencodable e) d)
  | unprinted {append : Bool} {before : Text} {bytes : List UInt8} {r : Refusal}
    (happend : run.options.append = .ok append)
    (hfront : run.front output append d.tree = .ok before) (hpath : run.outputPath? output = none)
    (hchars : d.system.streamChars.encode (before ++ run.catalog.text) = .ok bytes)
    (hrefused : d.system.streamRefusal? d.stream (before ++ run.catalog.text) = some r) :
    Ends run output d (.error (.stream r.fault)
      { d with stream := d.stream ++ (before ++ run.catalog.text).take r.taken })
  | printed {append : Bool} {before : Text} {bytes : List UInt8}
    (happend : run.options.append = .ok append)
    (hfront : run.front output append d.tree = .ok before) (hpath : run.outputPath? output = none)
    (hchars : d.system.streamChars.encode (before ++ run.catalog.text) = .ok bytes)
    (htaken : d.system.streamRefusal? d.stream (before ++ run.catalog.text) = none) :
    Ends run output d (.ok [] { d with stream := d.stream ++ (before ++ run.catalog.text) })

variable {run : Extraction} {output : Option Text} {d : Devices} {append : Bool} {path : Text}

/-- A file is opened and extended after the reading. -/
theorem writeFile_run (append : Bool) :
    (run.writeFile path append).run d =
      match run.preamble d.tree path run.catalog.text append with
      | .error e => .error e d
      | .ok before =>
        match d.tree.openFile path append with
        | .error cause => .error (.ofFile .openFile cause) d
        | .ok opened =>
          match (Writing.extendFile path opened.2 (before ++ run.catalog.text)).run
              { d with tree := opened.1 } with
          | .error e left => .error e left
          | .ok _ left => .ok [.wrote append run.catalog.entries.length path] left := by
  simp only [writeFile, EStateM.run_bind, Writing.run_consult]
  cases run.preamble d.tree path run.catalog.text append with
  | error e => rfl
  | ok before =>
    simp only [Writing.run_openFile]
    cases d.tree.openFile path append with
    | error cause => rfl
    | ok opened =>
      dsimp only
      cases (Writing.extendFile path opened.2 (before ++ run.catalog.text)).run
        { d with tree := opened.1 } <;> rfl

theorem write_run (output : Option Text) :
    (run.write output).run d =
      match run.options.append with
      | .error e => .error (.setting e) d
      | .ok append =>
        match run.outputPath? output with
        | some path => (run.writeFile path append).run d
        | none =>
          match run.readHeader d.tree with
          | .error e => .error e d
          | .ok header =>
            match (Writing.print (header ++ run.catalog.text)).run d with
            | .error e left => .error e left
            | .ok _ left => .ok [] left := by
  simp only [write, EStateM.run_bind, Writing.run_consult]
  cases run.options.append with
  | error e => rfl
  | ok append =>
    cases run.outputPath? output with
    | some path => rfl
    | none =>
      simp only [Except.mapError, EStateM.run_bind, Writing.run_consult]
      cases run.readHeader d.tree with
      | error e => rfl
      | ok header =>
        dsimp only
        cases (Writing.print (header ++ run.catalog.text)).run d <;> rfl

/-- Writing always ends in one of these ways. -/
theorem ends_write (run : Extraction) (output : Option Text) (d : Devices) :
    run.Ends output d ((run.write output).run d) := by
  rw [write_run]
  cases happend : run.options.append with
  | error e => exact .setting happend
  | ok append =>
    dsimp only
    cases hpath : run.outputPath? output with
    | some path =>
      dsimp only
      have hfront : run.front output append d.tree =
          run.preamble d.tree path run.catalog.text append := by rw [front, hpath]
      rw [writeFile_run]
      cases hbefore : run.preamble d.tree path run.catalog.text append with
      | error e => exact .reading happend (hfront.trans hbefore)
      | ok before =>
        dsimp only
        cases hopen : d.tree.openFile path append with
        | error cause => exact .opening happend (hfront.trans hbefore) hpath hopen
        | ok opened =>
          dsimp only
          rw [Writing.run_extendFile]
          dsimp only
          cases hchars : d.system.fileChars.encode (before ++ run.catalog.text) with
          | error e => exact .unencodable happend (hfront.trans hbefore) hpath hopen hchars
          | ok bytes =>
            dsimp only
            cases htaken : d.system.fileRefusal? opened.1 opened.2 bytes with
            | some r => exact .refused happend (hfront.trans hbefore) hpath hopen hchars htaken
            | none => exact .written happend (hfront.trans hbefore) hpath hopen hchars htaken
    | none =>
      dsimp only
      have hfront : run.front output append d.tree = run.readHeader d.tree := by rw [front, hpath]
      cases hheader : run.readHeader d.tree with
      | error e => exact .reading happend (hfront.trans hheader)
      | ok header =>
        dsimp only
        rw [Writing.run_print]
        cases hchars : d.system.streamChars.encode (header ++ run.catalog.text) with
        | error e => exact .unprintable happend (hfront.trans hheader) hpath hchars
        | ok bytes =>
          dsimp only
          cases htaken : d.system.streamRefusal? d.stream (header ++ run.catalog.text) with
          | some r => exact .unprinted happend (hfront.trans hheader) hpath hchars htaken
          | none => exact .printed happend (hfront.trans hheader) hpath hchars htaken

/-- The ways exclude each other. -/
theorem Ends.write_eq {r : EStateM.Result WriteError Devices (List Notice)}
    (h : run.Ends output d r) : (run.write output).run d = r := by
  rw [write_run]
  cases h with
  | setting happend => rw [happend]
  | reading happend hfront =>
    unfold front at hfront
    rw [happend]
    cases hpath : run.outputPath? output with
    | some path =>
      simp only [hpath] at hfront
      simp only [writeFile_run, hfront]
    | none =>
      simp only [hpath] at hfront
      simp only [hfront]
  | opening happend hfront hpath hopen =>
    simp only [front, hpath] at hfront
    simp only [happend, hpath, writeFile_run, hfront, hopen]
  | unencodable happend hfront hpath hopen hchars =>
    simp only [front, hpath] at hfront
    simp only [happend, hpath, writeFile_run, hfront, hopen, Writing.run_extendFile, hchars]
  | refused happend hfront hpath hopen hchars hrefused =>
    simp only [front, hpath] at hfront
    simp only [happend, hpath, writeFile_run, hfront, hopen, Writing.run_extendFile, hchars,
      hrefused]
  | written happend hfront hpath hopen hchars htaken =>
    simp only [front, hpath] at hfront
    simp only [happend, hpath, writeFile_run, hfront, hopen, Writing.run_extendFile, hchars, htaken]
  | unprintable happend hfront hpath hchars =>
    simp only [front, hpath] at hfront
    simp only [happend, hpath, hfront, Writing.run_print, hchars]
  | unprinted happend hfront hpath hchars hrefused =>
    simp only [front, hpath] at hfront
    simp only [happend, hpath, hfront, Writing.run_print, hchars, hrefused]
  | printed happend hfront hpath hchars htaken =>
    simp only [front, hpath] at hfront
    simp only [happend, hpath, hfront, Writing.run_print, hchars, htaken]

theorem write_eq_iff {r : EStateM.Result WriteError Devices (List Notice)} :
    (run.write output).run d = r ↔ run.Ends output d r := by
  refine ⟨?_, Ends.write_eq⟩
  rintro rfl
  exact ends_write run output d

end Extraction

end MessageHarvest
