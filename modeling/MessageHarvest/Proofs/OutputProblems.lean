import MessageHarvest.CommandLine.Run
import MessageHarvest.Proofs.CatalogOutput

/-! # How a catalog that cannot be written is reported

Writing uses files in up to four ways. A header is read if it goes before the
catalog, else the end of the file that the catalog is added to is looked at;
then a file is opened, and extended. Each of them has its own error about the
output, which the command answers with the status 1, and what fails first is
reported (`Fails`). Some errors are none about the output and end the command
(`Escapes`): a header that can be read but is not in UTF-8, a path that holds a
NUL, a character that has no encoding, and whatever goes wrong on the standard
output. On a sound system, with paths that can be asked for, only the first of
them is left. -/
namespace MessageHarvest

namespace Extraction

/-! ## What can go wrong -/

/-- Something that has to be read before the catalog is written cannot be read: the header, if it
goes before the catalog, or else the file that the catalog is added to. -/
inductive FailsToRead (run : Extraction) (output : Option Text) (d : Devices) : WriteError → Prop
  | header {path : Text} {cause : File.Error} (hneeded : ¬ run.Extends output d)
    (hpath : run.headerPath? = some path) (hread : d.tree.read path = .error cause) :
    FailsToRead run output d (.ofFile .readHeader cause)
  | encoding {path : Text} {bytes : List UInt8} {e : Utf8Error} (hneeded : ¬ run.Extends output d)
    (hpath : run.headerPath? = some path) (hread : d.tree.read path = .ok bytes)
    (hbytes : Text.ofUtf8 bytes = .error e) : FailsToRead run output d (.encoding e)
  | existing {path : Text} {cause : File.Error} (hextends : run.Extends output d)
    (hpath : run.outputPath? output = some path) (hentries : run.catalog.entries ≠ [])
    (hread : d.tree.read path = .error cause) :
    FailsToRead run output d (.ofFile .readExisting cause)

/-- A header goes before the catalog whose file can be read and is not in UTF-8. -/
def MisreadsHeader (run : Extraction) (output : Option Text) (d : Devices) : Prop :=
  ¬ run.Extends output d ∧ ∃ path bytes, run.headerPath? = some path ∧
    d.tree.read path = .ok bytes ∧ ∀ s, bytes ≠ Text.utf8 s

/-- A file cannot be used for the output, and what is left then. What has to be read is read before
anything is opened, and a file that the system stops taking holds a part. -/
inductive Fails (run : Extraction) (append : Bool) (output : Option Text) (d : Devices) :
    OutputError → Devices → Prop
  | reading {e : OutputError} (hread : run.FailsToRead output d (.output e)) :
    Fails run append output d e d
  | opening {before path : Text} {cause : File.Error}
    (hfront : run.front output append d.tree = .ok before)
    (hpath : run.outputPath? output = some path) (hnul : '\x00' ∉ path)
    (hopen : d.tree.writeLocation path = .error cause) :
    Fails run append output d ⟨.openFile, cause⟩ d
  | extending {before path : Text} {opened : File.Tree} {l : File.Location} {r : Refusal}
    (hfront : run.front output append d.tree = .ok before)
    (hpath : run.outputPath? output = some path)
    (hopen : d.tree.openFile path append = .ok (opened, l))
    (hchars : ∀ c ∈ before ++ run.catalog.text, d.system.fileChars.has c = true)
    (hrefused : d.system.fileRefusal? opened l (Text.utf8 (before ++ run.catalog.text)) = some r) :
    Fails run append output d ⟨.extendFile, r.fault, path⟩
      { d with tree := opened.extend l ((Text.utf8 (before ++ run.catalog.text)).take r.taken) }

/-- Something goes wrong that is not taken for a problem with the output. -/
inductive Escapes (run : Extraction) (append : Bool) (output : Option Text) (d : Devices) : Prop
  | misread (h : run.MisreadsHeader output d)
  | header {path : Text} (hneeded : ¬ run.Extends output d) (hpath : run.headerPath? = some path)
    (hnul : '\x00' ∈ path)
  | opening {before path : Text} (hfront : run.front output append d.tree = .ok before)
    (hpath : run.outputPath? output = some path) (hnul : '\x00' ∈ path)
  | unencodable {before path : Text} {l : File.Location} {c : Char}
    (hfront : run.front output append d.tree = .ok before)
    (hpath : run.outputPath? output = some path) (hopen : d.tree.writeLocation path = .ok l)
    (hc : c ∈ before ++ run.catalog.text) (hlacks : d.system.fileChars.has c = false)
  | unprintable {before : Text} {c : Char} (hfront : run.front output append d.tree = .ok before)
    (hpath : run.outputPath? output = none) (hc : c ∈ before ++ run.catalog.text)
    (hlacks : d.system.streamChars.has c = false)
  | unprinted {before : Text} {r : Refusal} (hfront : run.front output append d.tree = .ok before)
    (hpath : run.outputPath? output = none)
    (hchars : ∀ c ∈ before ++ run.catalog.text, d.system.streamChars.has c = true)
    (hrefused : d.system.streamRefusal? d.stream (before ++ run.catalog.text) = some r)

/-! ## What is read first -/

variable {run : Extraction} {output : Option Text} {d after : Devices} {append : Bool}

theorem front_of_extends (hextends : run.Extends output d) {path : Text}
    (happend : run.options.append = .ok append)
    (hpath : run.outputPath? output = some path) :
    run.front output append d.tree = separator d.tree path run.catalog.text := by
  obtain ⟨hadd, other, hother, hexists⟩ := hextends
  obtain rfl : other = path := Option.some.inj (hother.symm.trans hpath)
  obtain rfl : append = true := Except.ok.inj (happend.symm.trans hadd)
  simp only [front, hpath, preamble, hexists, Bool.and_true, if_true]

theorem front_of_not_extends (happend : run.options.append = .ok append)
    (hneeded : ¬ run.Extends output d) :
    run.front output append d.tree = run.readHeader d.tree := by
  unfold front
  cases hpath : run.outputPath? output with
  | none => rfl
  | some path =>
    have hnew : (append && d.tree.pathExists path) = false := by
      rw [Bool.and_eq_false_imp]
      rintro rfl
      by_contra hexists
      exact hneeded ⟨happend, path, hpath, by simpa using hexists⟩
    simp only [preamble, hnew]
    rfl

theorem readHeader_eq_error_iff {tree : File.Tree} {e : WriteError} :
    run.readHeader tree = .error e ↔ ∃ path, run.headerPath? = some path ∧
      ((∃ cause, tree.read path = .error cause ∧ e = .ofFile .readHeader cause) ∨
        ∃ bytes fault, tree.read path = .ok bytes ∧ Text.ofUtf8 bytes = .error fault ∧
          e = .encoding fault) := by
  cases hpath : run.headerPath? with
  | none => simp [readHeader_none hpath]
  | some path =>
    rw [readHeader_some hpath]
    cases hread : tree.read path with
    | error cause => simp [hread, eq_comm]
    | ok bytes =>
      cases hbytes : Text.ofUtf8 bytes with
      | error fault => simp [hread, hbytes, eq_comm]
      | ok s => simp [hread, hbytes]

theorem separator_eq_error_iff {tree : File.Tree} {path text : Text} {e : WriteError} :
    separator tree path text = .error e ↔
      text ≠ [] ∧ ∃ cause, tree.read path = .error cause ∧ e = .ofFile .readExisting cause := by
  unfold separator
  cases text with
  | nil => simp
  | cons c cs =>
    cases hread : tree.read path with
    | error cause => simp [eq_comm]
    | ok bytes => simp

/-- Nothing else can fail before a file is opened. -/
theorem front_eq_error_iff (happend : run.options.append = .ok append) {e : WriteError} :
    run.front output append d.tree = .error e ↔ run.FailsToRead output d e := by
  by_cases hextends : run.Extends output d
  · obtain ⟨_, path, hpath, _⟩ := id hextends
    rw [front_of_extends hextends happend hpath, separator_eq_error_iff, Ne,
      run.catalog.text_eq_nil_iff]
    constructor
    · rintro ⟨hentries, cause, hread, rfl⟩
      exact .existing hextends hpath hentries hread
    · intro h
      cases h with
      | header hneeded _ _ => exact absurd hextends hneeded
      | encoding hneeded _ _ _ => exact absurd hextends hneeded
      | existing _ hother hentries hread =>
        obtain rfl := Option.some.inj (hother.symm.trans hpath)
        exact ⟨hentries, _, hread, rfl⟩
  · rw [front_of_not_extends happend hextends, readHeader_eq_error_iff]
    constructor
    · rintro ⟨path, hpath, ⟨cause, hread, rfl⟩ | ⟨bytes, fault, hread, hbytes, rfl⟩⟩
      · exact .header hextends hpath hread
      · exact .encoding hextends hpath hread hbytes
    · intro h
      cases h with
      | header _ hpath hread => exact ⟨_, hpath, .inl ⟨_, hread, rfl⟩⟩
      | encoding _ hpath hread hbytes => exact ⟨_, hpath, .inr ⟨_, _, hread, hbytes, rfl⟩⟩
      | existing hadds _ _ _ => exact absurd hadds hextends

/-- The error about a file is one about the output, unless its path holds a NUL. -/
theorem ofFile_eq (step : OutputStep) (cause : File.Error) :
    WriteError.ofFile step cause =
      if cause.fault = .embeddedNul then .embeddedNul else .output ⟨step, cause⟩ := by
  unfold WriteError.ofFile
  cases cause.fault <;> rfl

theorem misreadsHeader_iff :
    run.MisreadsHeader output d ↔ ∃ e, run.FailsToRead output d (.encoding e) := by
  constructor
  · rintro ⟨hneeded, path, bytes, hpath, hread, hbytes⟩
    cases htext : Text.ofUtf8 bytes with
    | error e => exact ⟨e, .encoding hneeded hpath hread htext⟩
    | ok s => exact absurd (Text.ofUtf8_eq_ok_iff.mp htext) (hbytes s)
  · rintro ⟨e, h⟩
    generalize hw : WriteError.encoding e = w at h
    cases h with
    | header _ _ _ =>
      rw [ofFile_eq] at hw
      split at hw <;> cases hw
    | encoding hneeded hpath hread htext =>
      refine ⟨hneeded, _, _, hpath, hread, ?_⟩
      intro s hs
      rw [Text.ofUtf8_eq_ok_iff.mpr hs] at htext
      cases htext
    | existing _ _ _ _ =>
      rw [ofFile_eq] at hw
      split at hw <;> cases hw

/-! ## The errors of writing -/

theorem openFile_eq_error_iff {path : Text} {cause : File.Error} :
    d.tree.openFile path append = .error cause ↔ d.tree.writeLocation path = .error cause := by
  rw [File.Tree.openFile]
  cases d.tree.writeLocation path with
  | error other => simp [Except.map]
  | ok l => simp [Except.map]

/-- Writing ends by an error about the output just where a file cannot be used. -/
theorem write_eq_output_iff (happend : run.options.append = .ok append) {e : OutputError} :
    (run.write output).run d = .error (.output e) after ↔
      run.Fails append output d e after := by
  rw [write_eq_iff]
  constructor
  · intro h
    generalize hr : EStateM.Result.error (WriteError.output e) after = r at h
    cases h with
    | setting _ => cases hr
    | reading _ hfront =>
      cases hr
      obtain rfl := Except.ok.inj (happend.symm.trans ‹_›)
      exact .reading ((front_eq_error_iff happend).mp hfront)
    | opening _ hfront hpath hopen =>
      obtain rfl := Except.ok.inj (happend.symm.trans ‹_›)
      rw [openFile_eq_error_iff] at hopen
      rw [ofFile_eq] at hr
      split at hr
      · cases hr
      · rename_i hfault
        cases hr
        exact .opening hfront hpath
          (fun hnul => hfault ((File.Tree.embeddedNul_of_writeLocation hopen).mpr hnul)) hopen
    | unencodable _ _ _ _ _ => cases hr
    | refused _ hfront hpath hopen hchars hrefused =>
      cases hr
      obtain rfl := Except.ok.inj (happend.symm.trans ‹_›)
      obtain ⟨hhas, rfl⟩ := Charset.encode_eq_ok_iff.mp hchars
      exact .extending hfront hpath hopen hhas hrefused
    | written _ _ _ _ _ _ => cases hr
    | unprintable _ _ _ _ => cases hr
    | unprinted _ _ _ _ _ => cases hr
    | printed _ _ _ _ _ => cases hr
  · intro h
    cases h with
    | reading hread => exact .reading happend ((front_eq_error_iff happend).mpr hread)
    | @opening _ path cause hfront hpath hnul hopen =>
      have hfault : ¬ cause.fault = .embeddedNul := fun hfault =>
        hnul ((File.Tree.embeddedNul_of_writeLocation hopen).mp hfault)
      have hends := Ends.opening happend hfront hpath (openFile_eq_error_iff.mpr hopen)
      rw [ofFile_eq, if_neg hfault] at hends
      exact hends
    | extending hfront hpath hopen hchars hrefused =>
      have hencoded := Charset.encode_eq_ok_iff.mpr ⟨hchars, rfl⟩
      exact .refused happend hfront hpath hopen hencoded hrefused

end Extraction

/-- Writing has succeeded, or has failed by an error about the output. -/
def Reported (r : EStateM.Result WriteError Devices (List Notice)) : Prop :=
  (∃ notices d, r = .ok notices d) ∨ ∃ e d, r = .error (.output e) d

theorem reported_ok (notices : List Notice) (d : Devices) : Reported (.ok notices d) :=
  .inl ⟨notices, d, rfl⟩

theorem reported_error_iff {e : WriteError} {d : Devices} :
    Reported (.error e d) ↔ ∃ o, e = .output o := by
  simp [Reported]

theorem reported_ofFile_iff {step : OutputStep} {cause : File.Error} {d : Devices} :
    Reported (.error (.ofFile step cause) d) ↔ cause.fault ≠ .embeddedNul := by
  rw [reported_error_iff, Extraction.ofFile_eq]
  by_cases hfault : cause.fault = .embeddedNul
  · simp [hfault]
  · simp [hfault]

namespace Extraction

variable {run : Extraction} {output : Option Text} {d : Devices} {append : Bool}

theorem not_mem_of_pathExists {tree : File.Tree} {path : Text} (h : tree.pathExists path = true) :
    '\x00' ∉ path := by
  rw [← File.Tree.target_eq_embeddedNul_iff tree false]
  intro htarget
  simp [File.Tree.pathExists, File.Tree.isDirectory, File.Tree.isFile, htarget] at h

/-- Something that cannot be read is reported unless it is one of the two problems with a header. -/
theorem FailsToRead.reported_or_escapes {e : WriteError} (h : run.FailsToRead output d e) :
    Reported (.error e d) ∨ run.Escapes append output d := by
  cases h with
  | @header path cause hneeded hpath hread =>
    by_cases hnul : '\x00' ∈ path
    · exact .inr (.header hneeded hpath hnul)
    · refine .inl (reported_ofFile_iff.mpr fun hfault => hnul ?_)
      exact (File.Tree.embeddedNul_of_read hread).mp hfault
  | encoding hneeded hpath hread hbytes =>
    exact .inr (.misread (misreadsHeader_iff.mpr ⟨_, .encoding hneeded hpath hread hbytes⟩))
  | existing hextends hpath _ hread =>
    obtain ⟨_, path, hsome, hexists⟩ := hextends
    obtain rfl := Option.some.inj (hsome.symm.trans hpath)
    refine .inl (reported_ofFile_iff.mpr fun hfault => ?_)
    exact not_mem_of_pathExists hexists ((File.Tree.embeddedNul_of_read hread).mp hfault)

theorem exists_lacking {cs : Charset} {s : Text} {e : Unencodable} (h : cs.encode s = .error e) :
    ∃ c ∈ s, cs.has c = false := by
  by_contra hall
  have hok : cs.encode s = .ok (Text.utf8 s) := by
    refine Charset.encode_eq_ok_iff.mpr ⟨fun c hc => ?_, rfl⟩
    by_contra hlacks
    exact hall ⟨c, hc, Bool.eq_false_iff.mpr hlacks⟩
  rw [hok] at h
  cases h

theorem exists_encode_error {cs : Charset} {s : Text} {c : Char} (hc : c ∈ s)
    (hlacks : cs.has c = false) : ∃ e, cs.encode s = .error e := by
  cases h : cs.encode s with
  | error e => exact ⟨e, rfl⟩
  | ok bytes =>
    rw [(Charset.encode_eq_ok_iff.mp h).1 c hc] at hlacks
    cases hlacks

/-- Writing is reported unless something escapes. -/
theorem reported_or_escapes (happend : run.options.append = .ok append) :
    Reported ((run.write output).run d) ∨ run.Escapes append output d := by
  have h := run.ends_write output d
  generalize (run.write output).run d = r at h
  cases h with
  | setting herror =>
    rw [happend] at herror
    cases herror
  | reading _ hfront =>
    obtain rfl := Except.ok.inj (happend.symm.trans ‹_›)
    exact ((front_eq_error_iff happend).mp hfront).reported_or_escapes
  | @opening _ _ path cause _ hfront hpath hopen =>
    obtain rfl := Except.ok.inj (happend.symm.trans ‹_›)
    by_cases hnul : '\x00' ∈ path
    · exact .inr (.opening hfront hpath hnul)
    · refine .inl (reported_ofFile_iff.mpr fun hfault => hnul ?_)
      exact (File.Tree.embeddedNul_of_writeLocation (openFile_eq_error_iff.mp hopen)).mp hfault
  | unencodable _ hfront hpath hopen hchars =>
    obtain rfl := Except.ok.inj (happend.symm.trans ‹_›)
    obtain ⟨c, hc, hlacks⟩ := exists_lacking hchars
    exact .inr (.unencodable hfront hpath (updated_of_openFile hopen).1 hc hlacks)
  | refused _ _ _ _ _ _ => exact .inl (reported_error_iff.mpr ⟨_, rfl⟩)
  | written _ _ _ _ _ _ => exact .inl (reported_ok _ _)
  | unprintable _ hfront hpath hchars =>
    obtain rfl := Except.ok.inj (happend.symm.trans ‹_›)
    obtain ⟨c, hc, hlacks⟩ := exists_lacking hchars
    exact .inr (.unprintable hfront hpath hc hlacks)
  | unprinted _ hfront hpath hchars hrefused =>
    obtain rfl := Except.ok.inj (happend.symm.trans ‹_›)
    exact .inr (.unprinted hfront hpath (Charset.encode_eq_ok_iff.mp hchars).1 hrefused)
  | printed _ _ _ _ _ => exact .inl (reported_ok _ _)

theorem Ends.not_reported {e : WriteError} {after : Devices}
    (h : run.Ends output d (.error e after)) (he : ∀ o, e ≠ .output o) :
    ¬ Reported ((run.write output).run d) := by
  rw [h.write_eq, reported_error_iff]
  rintro ⟨o, ho⟩
  exact he o ho

/-- What escapes is an error, and none about the output. -/
theorem Escapes.not_reported (happend : run.options.append = .ok append)
    (h : run.Escapes append output d) : ¬ Reported ((run.write output).run d) := by
  cases h with
  | misread h =>
    obtain ⟨e, hread⟩ := misreadsHeader_iff.mp h
    exact (Ends.reading happend ((front_eq_error_iff happend).mpr hread)).not_reported (by simp)
  | @header path hneeded hpath hnul =>
    cases hread : d.tree.read path with
    | ok bytes =>
      obtain ⟨l, htarget⟩ := File.Tree.read_eq_ok_iff.mp hread
      rw [(File.Tree.target_eq_embeddedNul_iff d.tree false).mpr hnul] at htarget
      cases htarget
    | error cause =>
      have hfails : run.FailsToRead output d _ := .header hneeded hpath hread
      rw [(Ends.reading happend ((front_eq_error_iff happend).mpr hfails)).write_eq,
        reported_ofFile_iff, not_not]
      exact (File.Tree.embeddedNul_of_read hread).mpr hnul
  | @opening before path hfront hpath hnul =>
    cases hopen : d.tree.writeLocation path with
    | ok l =>
      obtain ⟨old, htarget⟩ := File.Tree.writeLocation_eq_ok_iff.mp hopen
      rw [(File.Tree.target_eq_embeddedNul_iff d.tree false).mpr hnul] at htarget
      cases htarget
    | error cause =>
      rw [(Ends.opening happend hfront hpath (openFile_eq_error_iff.mpr hopen)).write_eq,
        reported_ofFile_iff, not_not]
      exact (File.Tree.embeddedNul_of_writeLocation hopen).mpr hnul
  | unencodable hfront hpath hopen hc hlacks =>
    obtain ⟨opened, hopened, _⟩ := File.Tree.openFile_eq hopen append
    obtain ⟨e, hchars⟩ := exists_encode_error hc hlacks
    exact (Ends.unencodable happend hfront hpath hopened hchars).not_reported (by simp)
  | unprintable hfront hpath hc hlacks =>
    obtain ⟨e, hchars⟩ := exists_encode_error hc hlacks
    exact (Ends.unprintable happend hfront hpath hchars).not_reported (by simp)
  | unprinted hfront hpath hchars hrefused =>
    have hencoded := Charset.encode_eq_ok_iff.mpr ⟨hchars, rfl⟩
    exact (Ends.unprinted happend hfront hpath hencoded hrefused).not_reported (by simp)

theorem reported_write_iff (happend : run.options.append = .ok append) :
    Reported ((run.write output).run d) ↔ ¬ run.Escapes append output d :=
  ⟨fun hreported hescapes => hescapes.not_reported happend hreported,
    (reported_or_escapes happend).resolve_right⟩

/-- On a sound system, and with paths that can be asked for, only a header can escape. -/
theorem escapes_sound_iff (hsystem : d.system = .sound)
    (hheader : ∀ path, run.headerPath? = some path → '\x00' ∉ path)
    (houtput : ∀ path, run.outputPath? output = some path → '\x00' ∉ path) :
    run.Escapes append output d ↔ run.MisreadsHeader output d := by
  refine ⟨fun h => ?_, .misread⟩
  cases h with
  | misread h => exact h
  | header _ hpath hnul => exact absurd hnul (hheader _ hpath)
  | opening _ hpath hnul => exact absurd hnul (houtput _ hpath)
  | unencodable _ _ _ _ hlacks =>
    rw [hsystem] at hlacks
    cases hlacks
  | unprintable _ _ _ hlacks =>
    rw [hsystem] at hlacks
    cases hlacks
  | unprinted _ _ _ hrefused =>
    rw [hsystem] at hrefused
    cases hrefused

end Extraction

namespace CommandLine

/-- The arguments make a run that comes to the end of its files, and is then as given. -/
def Gathers (defaults : Settings) (tree : File.Tree) (input : Text) (a : Arguments)
    (run : Extraction) : Prop :=
  ∃ start notices, Extraction.new tree (Options.ofSettings defaults (a.settings tree)) =
      .ok (start, notices) ∧
    (start.extractPaths tree a.files input).result = .ok () ∧
    (start.extractPaths tree a.files input).run = run

/-- How the command ends when the catalog has been written, or has not. -/
def statusOf : EStateM.Result WriteError Devices (List Notice) → Except WriteError Nat
  | .ok _ _ => .ok 0
  | .error (.output _) _ => .ok 1
  | .error e _ => .error e

/-- Once all files have been read, the status depends on writing alone. -/
theorem status_of_gathers {system : System} {defaults : Settings} {logLevel : Option Text}
    {tree : File.Tree} {input : Text} {a : Arguments} {run : Extraction}
    (h : Gathers defaults tree input a run) :
    (runArguments system defaults logLevel tree input a).status =
      statusOf ((run.write none).run ⟨tree, [], system⟩) := by
  obtain ⟨start, notices, hnew, hresult, rfl⟩ := h
  unfold runArguments
  simp only [hnew, hresult]
  cases ((start.extractPaths tree a.files input).run.write none).run ⟨tree, [], system⟩ with
  | ok more left => rfl
  | error e left => cases e <;> rfl

theorem exists_statusOf_iff (r : EStateM.Result WriteError Devices (List Notice)) :
    (∃ n, statusOf r = .ok n) ↔ Reported r := by
  unfold Reported
  cases r with
  | ok notices d => simp [statusOf]
  | error e d => cases e <;> simp [statusOf]

theorem statusOf_eq_one_iff (r : EStateM.Result WriteError Devices (List Notice)) :
    statusOf r = .ok 1 ↔ ∃ e d, r = .error (.output e) d := by
  cases r with
  | ok notices d => simp [statusOf]
  | error e d => cases e <;> simp [statusOf]

end CommandLine

/-- **Problems with the output are reported as such, unless they are of another kind.** Whatever
the files hold, whatever has been gathered and whatever the system does, writing succeeds or fails
by an error about the output, except where a header is misread, a path holds a NUL, a character has
no encoding or the standard output fails. An error about the output arises just where the header or
the file that is added to cannot be read, or else the file cannot be opened, or else the system
stops taking what is written; in the last case a part is left, and in the others everything is as
it was. The command ends with a status except in the same cases, and with the status 1 just for
these errors. On a sound system and with paths that can be asked for, a misread header is the only
exception. -/
theorem problems_reported_unless_header_misread {run : Extraction} {append : Bool}
    (happend : run.options.append = .ok append) :
    (∀ output d, (Reported ((run.write output).run d) ↔ ¬ run.Escapes append output d) ∧
      (∀ e after, (run.write output).run d = .error (.output e) after ↔
        run.Fails append output d e after) ∧
      (d.system = .sound → (∀ path, run.headerPath? = some path → '\x00' ∉ path) →
        (∀ path, run.outputPath? output = some path → '\x00' ∉ path) →
        (run.Escapes append output d ↔ run.MisreadsHeader output d))) ∧
    ∀ system defaults logLevel tree input a, CommandLine.Gathers defaults tree input a run →
      let status := (CommandLine.runArguments system defaults logLevel tree input a).status
      ((∃ n, status = .ok n) ↔ ¬ run.Escapes append none ⟨tree, [], system⟩) ∧
      (status = .ok 1 ↔ ∃ e after, run.Fails append none ⟨tree, [], system⟩ e after) := by
  refine ⟨?_, ?_⟩
  · intro output d
    exact ⟨Extraction.reported_write_iff happend,
      fun e after => Extraction.write_eq_output_iff happend, Extraction.escapes_sound_iff⟩
  · intro system defaults logLevel tree input a hgathers status
    have hstatus : status = _ := CommandLine.status_of_gathers hgathers
    rw [hstatus, CommandLine.exists_statusOf_iff, CommandLine.statusOf_eq_one_iff]
    refine ⟨Extraction.reported_write_iff happend, ?_⟩
    simp [Extraction.write_eq_output_iff happend]

/-- The arguments that name a header in the file `h`, and no file to read. -/
def headed : CommandLine.Arguments :=
  { CommandLine.Arguments.empty with header := some (.value ['h']) }

/-- The run that these arguments make. -/
def headedStart (tree : File.Tree) : Extraction where
  options := .ofSettings [] (headed.settings tree)
  tag := none
  keys := []
  catalog := ⟨Extraction.locationPath tree.workDir, none, 2, []⟩
  parsed := 0
  skipped := 0
  failed := 0

theorem gathers_headed (tree : File.Tree) :
    CommandLine.Gathers [] tree [] headed (headedStart tree) := by
  have hnone : Discovery.findFiles tree [] [] = ([], []) := by
    simp [Discovery.findFiles, Text.sortedSet, Discovery.Search.empty]
  have hfiles : (headedStart tree).findFiles tree headed.files [] = .ok ([], []) :=
    congrArg Except.ok hnone
  refine ⟨headedStart tree, [], rfl, ?_, ?_⟩
  · simp only [Extraction.extractPaths, hfiles]
    rfl
  · simp only [Extraction.extractPaths, hfiles]
    rfl

theorem append_headedStart (tree : File.Tree) : (headedStart tree).options.append = .ok false := rfl

theorem headerPath?_headedStart (tree : File.Tree) : (headedStart tree).headerPath? = some ['h'] :=
  rfl

theorem not_extends_headedStart (tree : File.Tree) (d : Devices) :
    ¬ (headedStart tree).Extends none d := by
  rintro ⟨hadd, _⟩
  cases hadd

/-- A system whose standard output takes nothing. -/
def fullSystem : System := { System.sound with streamRefusal? := fun _ _ => some ⟨0, .noSpace⟩ }

/-- The header is missing, and the status tells of it. Where the header is there and the standard
output is full, nothing does. -/
theorem problems_reported_unless_header_misread_missing :
    let missing := headedStart .empty
    let there : File.Tree := { nodes := [([['h']], .file [])], workDir := [] }
    (missing.options.append = .ok false ∧ CommandLine.Gathers [] .empty [] headed missing ∧
      Reported ((missing.write none).run ⟨.empty, [], .sound⟩) ∧
      (missing.write none).run ⟨.empty, [], .sound⟩ =
        .error (.output ⟨.readHeader, ⟨.missing, ['h']⟩⟩) ⟨.empty, [], .sound⟩ ∧
      (CommandLine.runArguments .sound [] none .empty [] headed).status = .ok 1) ∧
    (headedStart there).options.append = .ok false ∧
      ¬ Reported (((headedStart there).write none).run ⟨there, [], fullSystem⟩) := by
  intro missing there
  have happend := append_headedStart .empty
  have hgathers := gathers_headed .empty
  have hneeded := not_extends_headedStart .empty ⟨.empty, [], .sound⟩
  have hpath := headerPath?_headedStart .empty
  have hread : File.Tree.empty.read ['h'] = .error ⟨.missing, ['h']⟩ := by decide +kernel
  have hfails : missing.Fails false none ⟨.empty, [], .sound⟩ ⟨.readHeader, ⟨.missing, ['h']⟩⟩
      ⟨.empty, [], .sound⟩ := .reading (.header hneeded hpath hread)
  have hmisread : ¬ missing.MisreadsHeader none ⟨.empty, [], .sound⟩ := by
    rintro ⟨_, path, bytes, hpath, hbytes, _⟩
    cases hpath
    cases hread.symm.trans hbytes
  obtain ⟨hwrite, hstatus⟩ := problems_reported_unless_header_misread happend
  obtain ⟨hreported, houtput, hsound⟩ := hwrite none ⟨.empty, [], .sound⟩
  have hescapes : ¬ missing.Escapes false none ⟨.empty, [], .sound⟩ := by
    rw [hsound rfl]
    · exact hmisread
    · intro path h
      obtain rfl := Option.some.inj (hpath.symm.trans h)
      decide
    · intro path h
      cases h
  have hfront : (headedStart there).front none false there = .ok [] := by
    have hread : there.read ['h'] = .ok [] := by decide +kernel
    have htext : Text.ofUtf8 [] = .ok [] := by decide +kernel
    rw [Extraction.front_of_not_extends (d := ⟨there, [], fullSystem⟩) (append_headedStart there)
      (not_extends_headedStart there _), Extraction.readHeader_some (headerPath?_headedStart there),
      hread]
    simp only [htext]
    rfl
  refine ⟨⟨happend, hgathers, hreported.mpr hescapes, (houtput _ _).mpr hfails, ?_⟩,
    append_headedStart there, ?_⟩
  · exact (hstatus .sound [] none .empty [] headed hgathers).2.mpr ⟨_, _, hfails⟩
  · rw [((problems_reported_unless_header_misread (append_headedStart there)).1 none _).1, not_not]
    exact .unprinted hfront rfl (fun _ _ => rfl) rfl

/-- Of a header that is not in UTF-8 neither an error about the output nor the status tells, though
the system is sound and no path holds a NUL. -/
theorem undecodable_header_unreported :
    ¬ (∀ (run : Extraction) (append : Bool) (output : Option Text) (d : Devices),
        run.options.append = .ok append → d.system = .sound →
        Reported ((run.write output).run d)) ∧
      ¬ ∀ (defaults : Settings) (logLevel : Option Text) (tree : File.Tree) (input : Text)
        (a : CommandLine.Arguments) (run : Extraction) (append : Bool),
        CommandLine.Gathers defaults tree input a run → run.options.append = .ok append →
        ∃ n, (CommandLine.runArguments .sound defaults logLevel tree input a).status = .ok n := by
  let tree : File.Tree := { nodes := [([['h']], .file [0xFF])], workDir := [] }
  have happend := append_headedStart tree
  have hread : tree.read ['h'] = .ok [0xFF] := by decide +kernel
  have hbytes : Text.ofUtf8 [0xFF] = .error ⟨.badStart, 0xFF, 0, 1⟩ := by decide +kernel
  have hneeded := not_extends_headedStart tree ⟨tree, [], .sound⟩
  have hmisread : (headedStart tree).MisreadsHeader none ⟨tree, [], .sound⟩ :=
    Extraction.misreadsHeader_iff.mpr
      ⟨_, .encoding hneeded (headerPath?_headedStart tree) hread hbytes⟩
  have hunreported : ¬ Reported (((headedStart tree).write none).run ⟨tree, [], .sound⟩) :=
    (Extraction.Escapes.misread hmisread).not_reported happend
  refine ⟨?_, ?_⟩
  · intro hall
    exact hunreported (hall _ _ none ⟨tree, [], .sound⟩ happend rfl)
  · intro hall
    have hstatus := hall [] none tree [] headed _ _ (gathers_headed tree) happend
    rw [CommandLine.status_of_gathers (gathers_headed tree), CommandLine.exists_statusOf_iff]
      at hstatus
    exact hunreported hstatus

end MessageHarvest
