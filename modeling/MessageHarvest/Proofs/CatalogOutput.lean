import MessageHarvest.Proofs.LineBoundary
import MessageHarvest.Proofs.Utf8Spelling
import MessageHarvest.Proofs.WritingSteps
import Mathlib.Data.List.Induction

/-! # What is left where catalogs are written

Whatever has to be read is read before the file is opened, so an error up to the
opening leaves no trace. Once the file is open two things can still go wrong: a
character may have no encoding, and the system may stop taking what is written.
Then a first part is left, in a file that was emptied if it was to be written
anew (`Extraction.LeavesPart`). A series of catalogs of which none meets these
errors (`Request.Taken`), and which are all added to one file, only adds: the
header stands before the first catalog if the file is new, and at most one line
feed is put in, behind what the file held at first, since a catalog ends its own
last line. The header is written as it was read, with its line breaks made line
feeds, so a catalog behind it starts a line only if the header ends one. -/
namespace MessageHarvest

/-! ## Ends of lines in bytes -/

namespace Text

theorem utf8_append (s t : Text) : utf8 (s ++ t) = utf8 s ++ utf8 t := List.flatMap_append

theorem getLast?_utf8EncodeChar (c : Char) : (String.utf8EncodeChar c).getLast? =
    some (UInt8.ofNat (if c.toNat ≤ 127 then c.toNat else c.toNat % 64 + 128)) := by
  unfold String.utf8EncodeChar
  change (if c.toNat ≤ 127 then _ else if c.toNat ≤ 2047 then _ else if c.toNat ≤ 65535 then _
    else _ : List UInt8).getLast? = _
  split
  · rfl
  · split
    · rfl
    · split <;> rfl

theorem utf8_eq_nil_iff {s : Text} : utf8 s = [] ↔ s = [] := by
  have hchar : ∀ c, String.utf8EncodeChar c ≠ [] := by
    intro c hc
    have hlast := getLast?_utf8EncodeChar c
    rw [hc] at hlast
    cases hlast
  cases s with
  | nil => simp [utf8]
  | cons c s => simp [utf8, hchar]

/-- A text ends in the byte of a mark just if it ends in the mark. -/
theorem getLast?_utf8_eq {s : Text} (mark : Char) (hmark : mark.toNat ≤ 127) :
    (utf8 s).getLast? = some (UInt8.ofNat mark.toNat) ↔ s.getLast? = some mark := by
  cases s using List.reverseRecOn with
  | nil => simp [utf8]
  | append_singleton s c =>
    have hlast : (utf8 (s ++ [c])).getLast? = (String.utf8EncodeChar c).getLast? := by
      rw [utf8_append, List.getLast?_append]
      simp [utf8, getLast?_utf8EncodeChar]
    rw [hlast, getLast?_utf8EncodeChar, List.getLast?_concat, Option.some_inj, Option.some_inj,
      ← UInt8.toNat_inj, Char.ext_iff, ← UInt32.toNat_inj]
    change _ ↔ c.toNat = mark.toNat
    simp only [UInt8.toNat_ofNat', Nat.reducePow]
    split <;> omega

theorem EndsInFeed.getLast?_utf8 {s : Text} (h : s.EndsInFeed) :
    (utf8 s).getLast? = some 0x0A :=
  (getLast?_utf8_eq '\n' (by decide)).mpr h

theorem not_mem_plainLineBreaks (s : Text) : '\r' ∉ plainLineBreaks s := by
  fun_induction plainLineBreaks s with
  | case1 => simp
  | case2 cs ih => simpa using ih
  | case3 cs _ ih => simpa using ih
  | case4 c cs _ hc ih =>
    simp only [List.mem_cons, not_or]
    exact ⟨fun h => hc h.symm, ih⟩

end Text

/-- A catalog ends its last line. -/
theorem Catalog.wholeLines_text (c : Catalog) : c.text.WholeLines := by
  unfold Catalog.text
  cases c.entries using List.reverseRecOn with
  | nil => exact .inl rfl
  | append_singleton entries e =>
    right
    unfold Text.EndsInFeed
    simp [List.getLast?_append]

theorem Catalog.text_eq_nil_iff (c : Catalog) : c.text = [] ↔ c.entries = [] := by
  unfold Catalog.text
  cases c.entries with
  | nil => simp
  | cons e entries => simp

/-! ## A file that is written -/

/-- The system takes the whole text into any file. -/
def System.TakesWhole (system : System) (text : Text) : Prop :=
  (∀ c ∈ text, system.fileChars.has c = true) ∧
    ∀ tree l, system.fileRefusal? tree l (Text.utf8 text) = none

theorem System.takesWhole_sound (text : Text) : System.sound.TakesWhole text :=
  ⟨fun _ _ => rfl, fun _ _ => rfl⟩

namespace Extraction

variable {run : Extraction} {path : Text} {d : Devices} {l : File.Location}

/-- A file that can be opened holds the catalog behind what goes before it. -/
theorem writeFile_ok {append : Bool} {before : Text}
    (hpath : d.tree.writeLocation path = .ok l)
    (hbefore : run.preamble d.tree path run.catalog.text append = .ok before)
    (htakes : d.system.TakesWhole (before ++ run.catalog.text)) :
    ∃ tree, (run.writeFile path append).run d =
        .ok [.wrote append run.catalog.entries.length path] { d with tree := tree } ∧
      d.tree.Updated l ((if append then d.tree.content l else []) ++
        Text.utf8 (before ++ run.catalog.text)) tree := by
  obtain ⟨opened, hopen, hupdated⟩ := File.Tree.openFile_eq hpath append
  have hchars := Charset.encode_eq_ok_iff.mpr ⟨htakes.1, rfl⟩
  refine ⟨opened.extend l (Text.utf8 (before ++ run.catalog.text)), ?_, ?_⟩
  · simp only [writeFile_run, hbefore, hopen, Writing.run_extendFile, hchars, htakes.2]
  · exact hupdated.extend (File.Tree.node?_of_writeLocation hpath).1 _

/-- A file that cannot be opened for writing takes no catalog. -/
theorem writeFile_refused {append : Bool} {cause : File.Error}
    (hpath : d.tree.writeLocation path = .error cause) :
    ∃ e, (run.writeFile path append).run d = .error e d := by
  have hopen : d.tree.openFile path append = .error cause := by
    rw [File.Tree.openFile, hpath]
    rfl
  rw [writeFile_run]
  cases run.preamble d.tree path run.catalog.text append with
  | error e => exact ⟨e, rfl⟩
  | ok before => exact ⟨_, by simp only [hopen]; rfl⟩

theorem updated_of_openFile {append : Bool} {opened : File.Tree}
    (hopen : d.tree.openFile path append = .ok (opened, l)) :
    d.tree.writeLocation path = .ok l ∧ l ≠ [] ∧
      d.tree.Updated l (if append then d.tree.content l else []) opened := by
  cases hpath : d.tree.writeLocation path with
  | error cause =>
    rw [File.Tree.openFile, hpath] at hopen
    cases hopen
  | ok k =>
    obtain ⟨tree, htree, hupdated⟩ := File.Tree.openFile_eq hpath append
    cases htree.symm.trans hopen
    exact ⟨rfl, (File.Tree.node?_of_writeLocation hpath).1, hupdated⟩

end Extraction

/-- The error arises when the output is open. -/
def WriteError.IsLate : WriteError → Prop
  | .unencodable _ | .stream _ => True
  | .output e => e.step = .extendFile
  | .setting _ | .encoding _ | .embeddedNul => False

theorem WriteError.not_isLate_ofFile {step : OutputStep} (h : step ≠ .extendFile)
    (cause : File.Error) : ¬ (WriteError.ofFile step cause).IsLate := by
  unfold ofFile
  split
  · exact h
  · exact id

/-- What a catalog leaves that was not written to its end: in its file or on the standard output a
first part of what was to be written, behind what is kept of the file, and else nothing new. -/
def Extraction.LeavesPart (run : Extraction) (output : Option Text) (d after : Devices) : Prop :=
  ∃ append before n, run.options.append = .ok append ∧
    run.front output append d.tree = .ok before ∧
    match run.outputPath? output with
    | none => after = { d with stream := d.stream ++ (before ++ run.catalog.text).take n }
    | some path => ∃ l tree, after = { d with tree := tree } ∧
        d.tree.writeLocation path = .ok l ∧
        d.tree.Updated l ((if append then d.tree.content l else []) ++
          (Text.utf8 (before ++ run.catalog.text)).take n) tree

namespace Extraction

variable {run : Extraction} {output : Option Text} {d after : Devices} {e : WriteError}

theorem not_isLate_of_readHeader {tree : File.Tree} (h : run.readHeader tree = .error e) :
    ¬ e.IsLate := by
  unfold readHeader at h
  repeat' split at h
  all_goals cases h
  · exact WriteError.not_isLate_ofFile (by decide) _
  · exact id

theorem not_isLate_of_front {append : Bool} {tree : File.Tree}
    (h : run.front output append tree = .error e) : ¬ e.IsLate := by
  unfold front at h
  split at h
  · exact not_isLate_of_readHeader h
  · unfold preamble at h
    split at h
    · unfold separator at h
      repeat' split at h
      all_goals cases h
      exact WriteError.not_isLate_ofFile (by decide) _
    · exact not_isLate_of_readHeader h

/-- An error before the output is open leaves everything as it was, and a later one a part. -/
theorem left_of_write_error (h : (run.write output).run d = .error e after) :
    (¬ e.IsLate → after = d) ∧ (e.IsLate → run.LeavesPart output d after) := by
  cases write_eq_iff.mp h with
  | setting _ => exact ⟨fun _ => rfl, False.elim⟩
  | reading _ hfront => exact ⟨fun _ => rfl, fun hlate => absurd hlate (not_isLate_of_front hfront)⟩
  | opening _ _ _ _ =>
    exact ⟨fun _ => rfl, fun hlate => absurd hlate (WriteError.not_isLate_ofFile (by decide) _)⟩
  | unencodable happend hfront hpath hopen _ =>
    refine ⟨fun hearly => absurd trivial hearly, fun _ => ⟨_, _, 0, happend, hfront, ?_⟩⟩
    obtain ⟨hlocation, _, hupdated⟩ := updated_of_openFile hopen
    rw [hpath]
    exact ⟨_, _, rfl, hlocation, by simpa using hupdated⟩
  | @refused _ _ _ _ _ bytes r happend hfront hpath hopen hchars _ =>
    refine ⟨fun hearly => absurd rfl hearly, fun _ => ⟨_, _, r.taken, happend, hfront, ?_⟩⟩
    obtain ⟨hlocation, hne, hupdated⟩ := updated_of_openFile hopen
    obtain ⟨_, rfl⟩ := Charset.encode_eq_ok_iff.mp hchars
    rw [hpath]
    exact ⟨_, _, rfl, hlocation, hupdated.extend hne _⟩
  | unprintable happend hfront hpath _ =>
    refine ⟨fun hearly => absurd trivial hearly, fun _ => ⟨_, _, 0, happend, hfront, ?_⟩⟩
    rw [hpath]
    simp
  | @unprinted _ _ _ r happend hfront hpath _ _ =>
    refine ⟨fun hearly => absurd trivial hearly, fun _ => ⟨_, _, r.taken, happend, hfront, ?_⟩⟩
    rw [hpath]

end Extraction

/-! ## Catalogs added to one file -/

/-- What stands between the content of a file and the texts that are added to it: a line feed if
the content leaves a line open and there is a text to add. -/
def seam (content : List UInt8) (texts : List Text) : List UInt8 :=
  match content.getLast? with
  | none => []
  | some b => if b = 0x0A ∨ b = 0x0D ∨ texts.flatten = [] then [] else [0x0A]

/-- What a file holds after texts were added to its content. -/
def extended (content : List UInt8) (texts : List Text) : List UInt8 :=
  content ++ seam content texts ++ Text.utf8 texts.flatten

theorem extended_nil (content : List UInt8) : extended content [] = content := by
  unfold extended seam
  split <;> simp [Text.utf8]

/-- Texts of whole lines can be added one after the other. -/
theorem extended_cons (content : List UInt8) {text : Text} (htext : text.WholeLines)
    (texts : List Text) :
    extended content (text :: texts) = extended (extended content [text]) texts := by
  rcases htext with rfl | hfeed
  · -- nothing is added, and nothing is put in
    have hsame : extended content [[]] = content := by
      unfold extended seam
      split <;> simp [Text.utf8]
    rw [hsame]
    rfl
  · -- the line is closed from here on
    have hlast : (extended content [text]).getLast? = some 0x0A := by
      unfold extended
      rw [List.getLast?_append, List.flatten_singleton, hfeed.getLast?_utf8]
      rfl
    have hclosed : seam (extended content [text]) texts = [] := by
      simp [seam, hlast]
    have hseam : seam content (text :: texts) = seam content [text] := by
      simp [seam, hfeed.ne_nil]
    rw [extended, hseam, extended, hclosed, extended, List.flatten_cons, List.flatten_singleton,
      Text.utf8_append]
    simp

/-- What is put before a catalog in a file that is there is the seam. -/
theorem Extraction.separator_eq {tree : File.Tree} {path : Text} {old : List UInt8}
    (h : tree.read path = .ok old) (text : Text) :
    ∃ before ∈ [[], ['\n']], Extraction.separator tree path text = .ok before ∧
      Text.utf8 before = seam old [text] := by
  unfold Extraction.separator seam Extraction.endsLine
  cases text with
  | nil => exact ⟨[], List.mem_cons_self, rfl, by split <;> simp [Text.utf8]⟩
  | cons c cs =>
    simp only [List.isEmpty_cons, h, List.flatten_singleton]
    cases old.getLast? with
    | none => exact ⟨[], List.mem_cons_self, rfl, rfl⟩
    | some b =>
      by_cases hb : b = 0x0A ∨ b = 0x0D
      · have hends : (decide (b = 0x0A) || decide (b = 0x0D)) = true := by simpa using hb
        refine ⟨[], List.mem_cons_self, congrArg Except.ok (if_pos hends), ?_⟩
        exact (if_pos (by simpa using hb)).symm
      · have hopen : ¬ (decide (b = 0x0A) || decide (b = 0x0D)) = true := by simpa using hb
        refine ⟨['\n'], List.mem_cons_of_mem _ List.mem_cons_self,
          congrArg Except.ok (if_neg hopen), ?_⟩
        exact (if_neg (by simpa using hb)).symm

/-- A catalog that is to be written: the run that has gathered it, and the file that is named. -/
structure Request where
  run : Extraction
  output : Option Text

namespace Request

/-- The text of the catalog. -/
def text (r : Request) : Text := r.run.catalog.text

theorem wholeLines_text (r : Request) : r.text.WholeLines := r.run.catalog.wholeLines_text

/-- Writes the catalog. -/
def perform (r : Request) : Writing (List Notice) := r.run.write r.output

/-- The catalog is to be added to the file that this path leads to. -/
structure AppendsTo (path : Text) (r : Request) : Prop where
  append : r.run.options.append = .ok true
  path : r.run.outputPath? r.output = some path

/-- The system takes the catalog whole, whichever of these goes before it. -/
def Taken (system : System) (fronts : List Text) (r : Request) : Prop :=
  ∀ before ∈ fronts, system.TakesWhole (before ++ r.text)

/-- What is reported when the catalog has been added. -/
def report (path : Text) (r : Request) : List Notice :=
  [.wrote true r.run.catalog.entries.length path]

/-- Performs requests one after the other, also after errors. The first part tells for each what it
reports or why it failed. -/
def performAll : List Request → Devices → List (Except WriteError (List Notice)) × Devices
  | [], d => ([], d)
  | r :: requests, d =>
    match r.perform.run d with
    | .ok notices d' => (.ok notices :: (performAll requests d').1, (performAll requests d').2)
    | .error e d' => (.error e :: (performAll requests d').1, (performAll requests d').2)

variable {r : Request} {path : Text} {d : Devices} {l : File.Location}

theorem AppendsTo.perform_eq (h : r.AppendsTo path) (d : Devices) :
    r.perform.run d = (r.run.writeFile path true).run d := by
  unfold perform
  rw [Extraction.write_run, h.append, h.path]

/-- One catalog is added to a file that is there. -/
theorem AppendsTo.perform_existing (h : r.AppendsTo path) (htaken : r.Taken d.system [[], ['\n']])
    (hpath : d.tree.writeLocation path = .ok l) {old : List UInt8}
    (hold : d.tree.node? l = some (.file old)) :
    ∃ tree, r.perform.run d = .ok (r.report path) { d with tree := tree } ∧
      d.tree.Updated l (extended old [r.text]) tree := by
  obtain ⟨_, hnone | ⟨hexists, bytes, hnode, hread⟩⟩ := File.Tree.node?_of_writeLocation hpath
  · rw [hold] at hnone
    cases hnone.2
  · obtain rfl : bytes = old := by
      rw [hold] at hnode
      cases hnode
      rfl
    obtain ⟨before, hmem, hseparator, hbefore⟩ := Extraction.separator_eq hread r.text
    have hpreamble : r.run.preamble d.tree path r.run.catalog.text true = .ok before := by
      rw [Extraction.preamble, hexists]
      exact hseparator
    obtain ⟨tree, hrun, hupdated⟩ :=
      Extraction.writeFile_ok hpath hpreamble (htaken before hmem)
    refine ⟨tree, (h.perform_eq d).trans hrun, ?_⟩
    rw [if_pos rfl, File.Tree.content_of_file hold, Text.utf8_append, hbefore,
      ← List.append_assoc] at hupdated
    rw [extended, List.flatten_singleton]
    exact hupdated

/-- A catalog is the first content of a new file, behind the header. -/
theorem AppendsTo.perform_new (h : r.AppendsTo path) (hpath : d.tree.writeLocation path = .ok l)
    (hnew : d.tree.pathExists path = false) {header : Text}
    (hheader : r.run.readHeader d.tree = .ok header) (htaken : r.Taken d.system [header]) :
    ∃ tree, r.perform.run d = .ok (r.report path) { d with tree := tree } ∧
      d.tree.Updated l (Text.utf8 (header ++ r.text)) tree := by
  obtain ⟨_, ⟨_, hnone⟩ | ⟨hexists, _⟩⟩ := File.Tree.node?_of_writeLocation hpath
  · have hpreamble : r.run.preamble d.tree path r.run.catalog.text true = .ok header := by
      rw [Extraction.preamble, hnew]
      exact hheader
    obtain ⟨tree, hrun, hupdated⟩ :=
      Extraction.writeFile_ok hpath hpreamble (htaken header List.mem_cons_self)
    refine ⟨tree, (h.perform_eq d).trans hrun, ?_⟩
    rw [if_pos rfl, File.Tree.content_of_none hnone, List.nil_append] at hupdated
    exact hupdated
  · rw [hnew] at hexists
    cases hexists

/-- Catalogs are added to a file that is there, one after the other. -/
theorem performAll_existing (d : Devices) {requests : List Request}
    (h : ∀ r ∈ requests, r.AppendsTo path)
    (htaken : ∀ r ∈ requests, r.Taken d.system [[], ['\n']])
    (hpath : d.tree.writeLocation path = .ok l)
    {old : List UInt8} (hold : d.tree.node? l = some (.file old)) :
    ∃ tree, performAll requests d =
        (requests.map fun r => .ok (r.report path), { d with tree := tree }) ∧
      d.tree.Updated l (extended old (requests.map text)) tree := by
  induction requests generalizing d old with
  | nil =>
    refine ⟨d.tree, rfl, ?_, fun _ _ => rfl, rfl, rfl⟩
    rw [List.map_nil, extended_nil]
    exact hold
  | cons r requests ih =>
    obtain ⟨hr, hothers⟩ := List.forall_mem_cons.mp h
    obtain ⟨hfirst, hlater⟩ := List.forall_mem_cons.mp htaken
    obtain ⟨tree, hrun, hupdated⟩ := hr.perform_existing hfirst hpath hold
    obtain ⟨final, hall, hfinal⟩ :=
      ih { d with tree := tree } hothers hlater (hupdated.writeLocation hpath) hupdated.here
    refine ⟨final, ?_, ?_⟩
    · rw [performAll, hrun]
      simp only [hall]
      rfl
    · rw [List.map_cons, extended_cons old r.wholeLines_text]
      exact hupdated.trans hfinal

/-- No catalog is added where the path cannot be opened for writing. -/
theorem performAll_refused {requests : List Request} (h : ∀ r ∈ requests, r.AppendsTo path)
    {cause : File.Error} (hpath : d.tree.writeLocation path = .error cause) :
    (∀ outcome ∈ (performAll requests d).1, ∃ e, outcome = .error e) ∧
      (performAll requests d).2 = d := by
  induction requests with
  | nil => exact ⟨by simp [performAll], rfl⟩
  | cons r requests ih =>
    obtain ⟨hr, hothers⟩ := List.forall_mem_cons.mp h
    obtain ⟨e, he⟩ := r.run.writeFile_refused hpath
    obtain ⟨hfail, hsame⟩ := ih hothers
    rw [performAll, hr.perform_eq, he]
    exact ⟨List.forall_mem_cons.mpr ⟨⟨e, rfl⟩, hfail⟩, hsame⟩

/-- All requests succeed. What they change is one file, and the path leads to it and to these bytes
in the end. -/
def LeaveFile (requests : List Request) (d : Devices) (path : Text) (bytes : List UInt8) : Prop :=
  ∃ l tree, performAll requests d =
      (requests.map fun r => .ok (r.report path), { d with tree := tree }) ∧
    d.tree.Updated l bytes tree ∧ tree.read path = .ok bytes

theorem leaveFile_existing {requests : List Request} (h : ∀ r ∈ requests, r.AppendsTo path)
    (htaken : ∀ r ∈ requests, r.Taken d.system [[], ['\n']]) {old : List UInt8}
    (hold : d.tree.read path = .ok old) :
    LeaveFile requests d path (extended old (requests.map text)) := by
  obtain ⟨l, hpath, hnode⟩ := File.Tree.writeLocation_of_read hold
  obtain ⟨tree, hall, hupdated⟩ := performAll_existing d h htaken hpath hnode
  exact ⟨l, tree, hall, hupdated, File.Tree.read_eq_ok_iff.mpr ⟨l, hupdated.target hpath⟩⟩

theorem leaveFile_new {requests : List Request} (h : ∀ r' ∈ r :: requests, r'.AppendsTo path)
    (hpath : d.tree.writeLocation path = .ok l) (hnew : d.tree.pathExists path = false)
    {header : Text} (hheader : r.run.readHeader d.tree = .ok header)
    (hfirst : r.Taken d.system [header])
    (hlater : ∀ r' ∈ requests, r'.Taken d.system [[], ['\n']]) :
    LeaveFile (r :: requests) d path
      (extended (Text.utf8 (header ++ r.text)) (requests.map text)) := by
  obtain ⟨hr, hothers⟩ := List.forall_mem_cons.mp h
  obtain ⟨tree, hrun, hupdated⟩ := hr.perform_new hpath hnew hheader hfirst
  -- from here on the file is there, and what it holds is its old content
  obtain ⟨final, hall, hfinal⟩ := performAll_existing { d with tree := tree } hothers hlater
    (hupdated.writeLocation hpath) hupdated.here
  refine ⟨l, final, ?_, hupdated.trans hfinal, ?_⟩
  · rw [performAll, hrun]
    simp only [hall]
    rfl
  · exact File.Tree.read_eq_ok_iff.mpr ⟨l, (hupdated.trans hfinal).target hpath⟩

end Request

open Request (performAll LeaveFile)

/-- The header is what the file of that name holds, with all its line breaks made line feeds. -/
theorem Extraction.readHeader_of_headerPath {run : Extraction} {tree : File.Tree}
    {header path : Text} (hheader : run.readHeader tree = .ok header)
    (hpath : run.headerPath? = some path) :
    ∃ s, tree.read path = .ok (Text.utf8 s) ∧ header = Text.plainLineBreaks s := by
  rw [readHeader_some hpath] at hheader
  cases hread : tree.read path with
  | error cause => rw [hread] at hheader; cases hheader
  | ok bytes =>
    rw [hread] at hheader
    dsimp only at hheader
    cases hbytes : Text.ofUtf8 bytes with
    | error e => rw [hbytes] at hheader; cases hheader
    | ok s =>
      rw [hbytes] at hheader
      cases hheader
      exact ⟨s, congrArg Except.ok (Text.ofUtf8_eq_ok_iff.mp hbytes), rfl⟩

/-- **Catalogs that are added to a file only add to it.** Let catalogs be written one after the
other, all of them added to the file of one path, and let the system take them. If the file is
there, they all succeed, and in the end it holds its old content and the texts of the catalogs, with
a line feed between the two if the content left a line open. If it is new, the header and the first
catalog take the place of the old content, and the header is the content of its file with all line
breaks made line feeds. If the path cannot be opened for writing, they all fail and change nothing.
In whatever mode a catalog is written, an error leaves the files and the standard output as they
were if it arises before the output is open. Where a character has no encoding, or the system stops
taking what is written, a first part of it is left. -/
theorem appending_only_adds {path header : Text} {d : Devices} {first : Request}
    {later : List Request} (happends : ∀ r ∈ first :: later, r.AppendsTo path)
    (hheader : first.run.readHeader d.tree = .ok header)
    (htaken : ∀ r ∈ first :: later, r.Taken d.system [[], ['\n'], header]) :
    (∀ old, d.tree.read path = .ok old → LeaveFile (first :: later) d path
      (extended old ((first :: later).map Request.text))) ∧
    (∀ l, d.tree.writeLocation path = .ok l → d.tree.pathExists path = false →
      LeaveFile (first :: later) d path
        (extended (Text.utf8 (header ++ first.text)) (later.map Request.text))) ∧
    (∀ file, first.run.headerPath? = some file →
      ∃ s, d.tree.read file = .ok (Text.utf8 s) ∧ header = Text.plainLineBreaks s) ∧
    (∀ cause, d.tree.writeLocation path = .error cause →
      (∀ outcome ∈ (performAll (first :: later) d).1, ∃ e, outcome = .error e) ∧
        (performAll (first :: later) d).2 = d) ∧
    (∀ (r : Request) (before after : Devices) (e : WriteError),
      r.perform.run before = .error e after →
        (¬ e.IsLate → after = before) ∧
        (e.IsLate → r.run.LeavesPart r.output before after)) := by
  have hexisting : ∀ r ∈ first :: later, r.Taken d.system [[], ['\n']] :=
    fun r hr before hbefore => htaken r hr before (List.mem_append_left [header] hbefore)
  refine ⟨?_, ?_, ?_, ?_, ?_⟩
  · intro old hold
    exact Request.leaveFile_existing happends hexisting hold
  · intro l hpath hnew
    have hfirst : first.Taken d.system [header] := fun before hbefore =>
      htaken first List.mem_cons_self before (List.mem_append_right [[], ['\n']] hbefore)
    exact Request.leaveFile_new happends hpath hnew hheader hfirst
      (List.forall_mem_cons.mp hexisting).2
  · intro file hfile
    exact Extraction.readHeader_of_headerPath hheader hfile
  · intro cause hpath
    exact Request.performAll_refused happends hpath
  · intro r before after e h
    exact Extraction.left_of_write_error h

/-- A run that has gathered these strings and has a header in the file `h`. -/
def headedRun (others : Settings) (entries : List Entry) : Extraction :=
  ⟨⟨("header_file".toList, .text ['h']) :: others⟩, none, [], ⟨['/'], none, 2, entries⟩, 0, 0, 0⟩

/-- The strings are to be added to the file `o`. -/
def addition (entries : List Entry) : Request :=
  ⟨headedRun [("output".toList, .text ['o']), ("append".toList, .bool true)] entries, none⟩

/-- A header that leaves its line open, and a link from `o` to `p`, where a file may be. -/
def linkedTree (p : Option (List UInt8)) : File.Tree where
  nodes := [([['h']], .file (Text.utf8 ['H'])), ([['o']], .link ['p'])] ++
    p.toList.map fun bytes => ([['p']], .file bytes)
  workDir := []

theorem appendsTo_addition (entries : List Entry) : (addition entries).AppendsTo ['o'] := ⟨rfl, rfl⟩

theorem readHeader_headedRun (others : Settings) (entries : List Entry) (p : Option (List UInt8)) :
    (headedRun others entries).readHeader (linkedTree p) = .ok ['H'] := by
  have hfile : (headedRun others entries).options.headerFile = some ['h'] := rfl
  have hread : (linkedTree p).read ['h'] = .ok (Text.utf8 ['H']) := rfl
  have hdecode : Text.ofUtf8 (Text.utf8 ['H']) = .ok ['H'] := by decide +kernel
  simp only [Extraction.readHeader, hfile, hread, hdecode]
  rfl

/-- A file with an open line to which no string, one and another one are added, and a new file to
which they are added. -/
theorem appending_only_adds_open_line :
    let a : Entry := ⟨['a'], none, none, [⟨1, ['f']⟩], [], []⟩
    let b : Entry := ⟨['b'], none, none, [⟨2, ['f']⟩], [], []⟩
    let requests := [[], [a], [b]].map addition
    let x := Text.utf8 ['x']
    (∀ r ∈ requests, r.AppendsTo ['o']) ∧
      (∀ p, (addition []).run.readHeader (linkedTree p) = .ok ['H']) ∧
      (∀ r ∈ requests, r.Taken .sound [[], ['\n'], ['H']]) ∧
      (linkedTree (some x)).read ['o'] = .ok x ∧
      LeaveFile requests ⟨linkedTree (some x), [], .sound⟩ ['o']
        (Text.utf8 ("x\n".toList ++ (addition [a]).text ++ (addition [b]).text)) ∧
      (linkedTree none).writeLocation ['o'] = .ok [['p']] ∧
      (linkedTree none).pathExists ['o'] = false ∧
      LeaveFile requests ⟨linkedTree none, [], .sound⟩ ['o']
        (Text.utf8 ("H\n".toList ++ (addition [a]).text ++ (addition [b]).text)) := by
  intro a b requests x
  have happends : ∀ r ∈ requests, r.AppendsTo ['o'] :=
    List.forall_mem_map.mpr fun entries _ => appendsTo_addition entries
  have hheader : ∀ p, (addition []).run.readHeader (linkedTree p) = .ok ['H'] :=
    readHeader_headedRun _ []
  have htaken : ∀ r ∈ requests, r.Taken .sound [[], ['\n'], ['H']] :=
    fun r _ before _ => System.takesWhole_sound (before ++ r.text)
  have hread : (linkedTree (some x)).read ['o'] = .ok x := by decide +kernel
  have hpath : (linkedTree none).writeLocation ['o'] = .ok [['p']] := by decide +kernel
  have hnew : (linkedTree none).pathExists ['o'] = false := by decide +kernel
  have hold : extended x (requests.map Request.text) =
      Text.utf8 ("x\n".toList ++ (addition [a]).text ++ (addition [b]).text) := by decide +kernel
  have hfresh : extended (Text.utf8 (['H'] ++ (addition []).text))
      ([addition [a], addition [b]].map Request.text) =
      Text.utf8 ("H\n".toList ++ (addition [a]).text ++ (addition [b]).text) := by decide +kernel
  refine ⟨happends, hheader, htaken, hread, ?_, hpath, hnew, ?_⟩
  · rw [← hold]
    exact (appending_only_adds (d := ⟨linkedTree (some x), [], .sound⟩) happends (hheader _)
      htaken).1 x hread
  · rw [← hfresh]
    exact (appending_only_adds (d := ⟨linkedTree none, [], .sound⟩) happends (hheader _)
      htaken).2.1 _ hpath hnew

/-- A catalog with a character that has no encoding empties the file that was to be written anew.
And a header whose line ends in a carriage return and a line feed is not copied as it is. -/
theorem failed_write_empties_file :
    ¬ (∀ (r : Request) (before after : Devices) (e : WriteError) (path : Text),
        r.perform.run before = .error e after →
          after.tree.read path = before.tree.read path) ∧
      ¬ ∀ (r : Request) (before after : Devices) (notices : List Notice) (path file : Text)
        (header : List UInt8), r.AppendsTo path → before.tree.pathExists path = false →
          r.run.headerPath? = some file → before.tree.read file = .ok header →
          r.perform.run before = .ok notices after →
          after.tree.read path = .ok (header ++ Text.utf8 r.text) := by
  refine ⟨?_, ?_⟩
  · intro hall
    let r : Request := ⟨headedRun [("output".toList, .text ['o'])]
      [⟨['é'], none, none, [⟨1, ['f']⟩], [], []⟩], none⟩
    let d : Devices := ⟨linkedTree (some (Text.utf8 ['x'])), [], { System.sound with
      fileChars := .ascii }⟩
    have hold : d.tree.read ['o'] = .ok (Text.utf8 ['x']) := by decide +kernel
    have hpath : d.tree.writeLocation ['o'] = .ok [['p']] := by decide +kernel
    have hheader : r.run.readHeader d.tree = .ok ['H'] := readHeader_headedRun _ _ _
    have hfront : r.run.front none false d.tree = .ok ['H'] := hheader
    have hchars : ∃ e, d.system.fileChars.encode (['H'] ++ r.run.catalog.text) = .error e :=
      ⟨⟨'é', 15⟩, by decide +kernel⟩
    obtain ⟨e, hchars⟩ := hchars
    obtain ⟨opened, hopen, hupdated⟩ := File.Tree.openFile_eq hpath false
    have hends : r.run.Ends none d _ := .unencodable rfl hfront rfl hopen hchars
    have hwrite := hends.write_eq
    have hempty : opened.read ['o'] = .ok [] :=
      File.Tree.read_eq_ok_iff.mpr ⟨_, hupdated.target hpath⟩
    have hsame : opened.read ['o'] = d.tree.read ['o'] := hall r d _ _ ['o'] hwrite
    rw [hempty, hold] at hsame
    exact absurd hsame (by decide)
  · intro hall
    let d : Devices := ⟨{ nodes := [([['h']], .file (Text.utf8 ['H', '\r', '\n']))], workDir := [] },
      [], .sound⟩
    have hread : d.tree.read ['h'] = .ok (Text.utf8 ['H', '\r', '\n']) := by decide +kernel
    have hpath : d.tree.writeLocation ['o'] = .ok [['o']] := by decide +kernel
    have hnew : d.tree.pathExists ['o'] = false := by decide +kernel
    have hheader : (addition []).run.readHeader d.tree = .ok ['H', '\n'] := by
      have hdecode : Text.ofUtf8 (Text.utf8 ['H', '\r', '\n']) = .ok ['H', '\r', '\n'] := by
        decide +kernel
      have hfile : (addition []).run.headerPath? = some ['h'] := rfl
      rw [Extraction.readHeader_some hfile, hread]
      simp only [hdecode]
      rfl
    have hadds := appendsTo_addition []
    obtain ⟨tree, hrun, hupdated⟩ := hadds.perform_new hpath hnew hheader
      fun before _ => System.takesWhole_sound (before ++ (addition []).text)
    have hkept := hall _ d _ _ ['o'] ['h'] _ hadds hnew rfl hread hrun
    have hleft : tree.read ['o'] = _ := File.Tree.read_eq_ok_iff.mpr ⟨_, hupdated.target hpath⟩
    rw [hleft] at hkept
    exact absurd hkept (by decide +kernel)

/-! ## Where the catalog starts -/

/-- No line is left open at the end of the bytes. -/
def ClosesLine (bytes : List UInt8) : Prop :=
  bytes = [] ∨ bytes.getLast? = some 0x0A ∨ bytes.getLast? = some 0x0D

theorem closesLine_utf8_iff {s : Text} (h : '\r' ∉ s) : ClosesLine (Text.utf8 s) ↔ s.WholeLines := by
  have hfeed : (Text.utf8 s).getLast? = some 0x0A ↔ s.EndsInFeed :=
    Text.getLast?_utf8_eq '\n' (by decide)
  have hreturn : (Text.utf8 s).getLast? = some 0x0D ↔ s.getLast? = some '\r' :=
    Text.getLast?_utf8_eq '\r' (by decide)
  have hnot : s.getLast? ≠ some '\r' := fun hlast => h (List.mem_of_getLast? hlast)
  unfold ClosesLine Text.WholeLines
  rw [Text.utf8_eq_nil_iff, hfeed, hreturn]
  simp [hnot]

/-- The seam closes the line that the content of a file leaves open. -/
theorem closesLine_seam (content : List UInt8) {text : Text} (htext : text ≠ []) :
    ClosesLine (content ++ seam content [text]) := by
  unfold seam
  split
  · rename_i hlast
    left
    rw [List.append_nil]
    exact List.getLast?_eq_none_iff.mp hlast
  · rename_i b hlast
    right
    split
    · rename_i hb
      rw [List.append_nil, hlast]
      simpa [htext] using hb
    · left
      simp

namespace Extraction

variable {run : Extraction} {output : Option Text} {d d' : Devices} {notices : List Notice}

theorem not_mem_of_readHeader {tree : File.Tree} {header : Text}
    (h : run.readHeader tree = .ok header) : '\r' ∉ header := by
  unfold readHeader at h
  repeat' split at h
  all_goals cases h
  · simp
  · simp
  · exact Text.not_mem_plainLineBreaks _

/-- The catalog goes behind the content of a file that is there. -/
def Extends (run : Extraction) (output : Option Text) (d : Devices) : Prop :=
  run.options.append = .ok true ∧
    ∃ path, run.outputPath? output = some path ∧ d.tree.pathExists path = true

/-- After writing, the file holds these bytes, or they have gone to the standard output. -/
def Holds (run : Extraction) (output : Option Text) (d d' : Devices) (bytes : List UInt8) : Prop :=
  match run.outputPath? output with
  | some path => d'.tree.read path = .ok bytes
  | none => Text.utf8 d'.stream = Text.utf8 d.stream ++ bytes

/-- Before the catalog stands the content of the file with its seam, or else the header. -/
theorem holds_of_written {path before : Text} {append : Bool} {l : File.Location}
    {tree : File.Tree} (hpath : d.tree.writeLocation path = .ok l)
    (hpreamble : run.preamble d.tree path run.catalog.text append = .ok before)
    (hupdated : d.tree.Updated l ((if append then d.tree.content l else []) ++
      Text.utf8 (before ++ run.catalog.text)) tree) :
    ∃ bytes, tree.read path = .ok (bytes ++ Text.utf8 run.catalog.text) ∧
      if append && d.tree.pathExists path then ∃ old, bytes = old ++ seam old [run.catalog.text]
      else ∃ header, run.readHeader d.tree = .ok header ∧ bytes = Text.utf8 header := by
  refine ⟨(if append then d.tree.content l else []) ++ Text.utf8 before, ?_, ?_⟩
  · rw [List.append_assoc, ← Text.utf8_append]
    exact File.Tree.read_eq_ok_iff.mpr ⟨l, hupdated.target hpath⟩
  · unfold preamble at hpreamble
    obtain ⟨_, ⟨hnew, hnone⟩ | ⟨hexists, old, hold, hread⟩⟩ :=
      File.Tree.node?_of_writeLocation hpath
    · -- a new file: nothing stood there, so nothing is kept
      rw [hnew, Bool.and_false] at hpreamble ⊢
      refine ⟨before, hpreamble, ?_⟩
      rw [File.Tree.content_of_none hnone, ite_self, List.nil_append]
    · cases append with
      | false => exact ⟨before, hpreamble, by simp⟩
      | true =>
        rw [hexists] at hpreamble ⊢
        obtain ⟨front, _, hseparator, hfront⟩ := separator_eq hread run.catalog.text
        obtain rfl := Except.ok.inj (hseparator.symm.trans hpreamble)
        refine ⟨old, ?_⟩
        rw [if_pos rfl, File.Tree.content_of_file hold, hfront]

theorem holds_of_write (h : (run.write output).run d = .ok notices d') :
    ∃ before, run.Holds output d d' (before ++ Text.utf8 run.catalog.text) ∧
      ((run.Extends output d ∧ ∃ old, before = old ++ seam old [run.catalog.text]) ∨
        (¬ run.Extends output d ∧
          ∃ header, run.readHeader d.tree = .ok header ∧ before = Text.utf8 header)) := by
  cases write_eq_iff.mp h with
  | @printed append header _ _ hfront hpath _ _ =>
    have hnot : ¬ run.Extends output d := by
      rintro ⟨_, path, hsome, _⟩
      rw [hpath] at hsome
      cases hsome
    rw [front, hpath] at hfront
    refine ⟨Text.utf8 header, ?_, .inr ⟨hnot, header, hfront, rfl⟩⟩
    simp [Holds, hpath, Text.utf8_append]
  | @written append before path opened l _ happend hfront hpath hopen hchars _ =>
    obtain ⟨hlocation, hne, hupdated⟩ := updated_of_openFile hopen
    obtain ⟨_, rfl⟩ := Charset.encode_eq_ok_iff.mp hchars
    rw [front, hpath] at hfront
    obtain ⟨bytes, hread, hbefore⟩ :=
      holds_of_written hlocation hfront (hupdated.extend hne _)
    have hextends : run.Extends output d ↔ (append && d.tree.pathExists path) = true := by
      simp [Extends, happend, hpath]
    refine ⟨bytes, by simpa [Holds, hpath] using hread, ?_⟩
    rw [hextends]
    split at hbefore
    · rename_i hkeep
      exact .inl ⟨hkeep, hbefore⟩
    · rename_i hkeep
      exact .inr ⟨hkeep, hbefore⟩

end Extraction

/-- **A catalog starts a line, unless an open header stands before it.** When a catalog with entries
has been written, what stands before it in its file or on the standard output is empty or ends in a
line break if the catalog was added to a file that was there, whatever that held. Elsewhere it is
the header that stands before it, as it is, and the same holds just if the header is empty or ends
in a line feed. -/
theorem catalog_starts_line_iff {run : Extraction} {output : Option Text} {d d' : Devices}
    {notices : List Notice} (hwrite : (run.write output).run d = .ok notices d')
    (hentries : run.catalog.entries ≠ []) :
    ∃ before, run.Holds output d d' (before ++ Text.utf8 run.catalog.text) ∧
      (ClosesLine before ↔ run.Extends output d ∨
        ∃ header, run.readHeader d.tree = .ok header ∧ header.WholeLines) := by
  have htext : run.catalog.text ≠ [] := fun h => hentries (run.catalog.text_eq_nil_iff.mp h)
  obtain ⟨before, hholds, ⟨hextends, old, rfl⟩ | ⟨hnot, header, hheader, rfl⟩⟩ :=
    Extraction.holds_of_write hwrite
  · refine ⟨_, hholds, ?_⟩
    exact iff_of_true (closesLine_seam old htext) (.inl hextends)
  · refine ⟨_, hholds, ?_⟩
    rw [closesLine_utf8_iff (Extraction.not_mem_of_readHeader hheader)]
    simp [hnot, hheader]

/-- A string is added to a file that leaves its line open. -/
theorem catalog_starts_line_iff_open_line :
    let run := (addition [⟨['a'], none, none, [⟨1, ['f']⟩], [], []⟩]).run
    let d : Devices := ⟨linkedTree (some (Text.utf8 ['x'])), [], .sound⟩
    ∃ notices d', (run.write none).run d = .ok notices d' ∧ run.catalog.entries ≠ [] ∧
      run.Extends none d ∧
      ∃ before, run.Holds none d d' (before ++ Text.utf8 run.catalog.text) ∧ ClosesLine before := by
  intro run d
  have hpath : d.tree.writeLocation ['o'] = .ok [['p']] := by decide +kernel
  have hold : d.tree.node? [['p']] = some (.file (Text.utf8 ['x'])) := by decide +kernel
  have hextends : run.Extends none d := ⟨rfl, ['o'], rfl, by decide +kernel⟩
  have hentries : run.catalog.entries ≠ [] := List.cons_ne_nil _ _
  have htaken : (addition [⟨['a'], none, none, [⟨1, ['f']⟩], [], []⟩]).Taken d.system [[], ['\n']] :=
    fun before _ => System.takesWhole_sound _
  obtain ⟨tree, hwrite, _⟩ := (appendsTo_addition _).perform_existing htaken hpath hold
  obtain ⟨before, hholds, hcloses⟩ := catalog_starts_line_iff hwrite hentries
  exact ⟨_, _, hwrite, hentries, hextends, before, hholds, hcloses.mpr (.inl hextends)⟩

/-- Behind a header that leaves its line open, a string on the standard output does not start a
line. -/
theorem open_header_joins_catalog :
    ¬ ∀ (run : Extraction) (output : Option Text) (d d' : Devices) (notices : List Notice),
      (run.write output).run d = .ok notices d' → run.catalog.entries ≠ [] →
      ∃ before, run.Holds output d d' (before ++ Text.utf8 run.catalog.text) ∧
        ClosesLine before := by
  intro hall
  let run := headedRun [] [⟨['a'], none, none, [⟨1, ['f']⟩], [], []⟩]
  have happend : run.options.append = .ok false := rfl
  have hpath : run.outputPath? none = none := rfl
  let d : Devices := ⟨linkedTree none, [], .sound⟩
  have hheader : run.readHeader d.tree = .ok ['H'] := readHeader_headedRun _ _ _
  have hfront : run.front none false d.tree = .ok ['H'] := hheader
  have hchars : d.system.streamChars.encode (['H'] ++ run.catalog.text) = .ok _ :=
    Charset.encode_eq_ok_iff.mpr ⟨fun _ _ => rfl, rfl⟩
  have hwrite := (Extraction.Ends.printed happend hfront hpath hchars rfl).write_eq
  obtain ⟨before, hholds, hcloses⟩ := hall run none d _ _ hwrite (List.cons_ne_nil _ _)
  simp only [Extraction.Holds, hpath, Text.utf8_append] at hholds
  have hbefore : before = Text.utf8 ['H'] := (List.append_cancel_right hholds).symm
  rw [hbefore, closesLine_utf8_iff (by decide)] at hcloses
  exact absurd hcloses (by decide)

end MessageHarvest
