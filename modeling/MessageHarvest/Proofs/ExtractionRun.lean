import MessageHarvest.Extraction
import MessageHarvest.Proofs.CheckedParsing
import MessageHarvest.Proofs.InsertionOrder
import MessageHarvest.Proofs.RepeatedInsertion

/-! # What a run gathers

A parser inserts strings into the catalog of the whole run while it reads, and
may give up in the middle. `Parsing` says so literally: it works on a catalog,
and keeps it on a failure. What a parser inserts does not depend on the catalog
it finds, and neither does whether it gives up (`Dialect.parsing_run`). The
place of a string can always be told in a run: what cannot be resolved cannot be
read either, and counts as empty. So each
file has a `Contribution` of its own, and a run adds the contributions of its
files, one after the other (`extractFiles_run`), and counts them. -/
namespace MessageHarvest

open Event (insertions occurrences)

/-! ## Reading into a catalog -/

namespace Parsing

/-- Inserts what was found into the catalog, where the place of a string can always be told. -/
def insertOne (tree : File.Tree) (path : Text) : Event → Parsing Catalog Unit
  | .notice _ => pure ()
  | .found o => fun c =>
    match c.insert tree ⟨o, path, []⟩ with
    | .ok added => .ok () added.1
    | .error e => .error (.insertion (.emptyMessage e)) c

theorem run_insertOne (tree : File.Tree) (path : Text) {e : Event} (he : e.HasText) (c : Catalog) :
    (insertOne tree path e).run c = .ok () (c.addAll tree (insertions path [e])) := by
  cases e with
  | notice n => rfl
  | found o =>
    have hinsert := Catalog.insert_eq tree c ⟨o, path, []⟩
    rw [if_neg he] at hinsert
    obtain ⟨notices, hinsert⟩ := hinsert
    simp only [insertOne, EStateM.run, hinsert]
    rfl

theorem run_forM_insertOne (tree : File.Tree) (path : Text) {events : List Event}
    (h : ∀ e ∈ events, e.HasText) (c : Catalog) :
    (events.forM (insertOne tree path)).run c =
      .ok () (c.addAll tree (insertions path events)) := by
  induction events generalizing c with
  | nil => rfl
  | cons e events ih =>
    obtain ⟨he, hevents⟩ := List.forall_mem_cons.mp h
    rw [List.forM, EStateM.run_bind, run_insertOne tree path he]
    dsimp only
    rw [ih hevents, ← Catalog.addAll_append, ← Event.insertions_append, List.singleton_append]

end Parsing

namespace Dialect

/-- Reads a file in the dialect, and inserts the strings that are found. -/
def parsing (tree : File.Tree) (tag : Option Text) (keys : List Text) (path content : Text)
    (d : Dialect) : Parsing Catalog Unit :=
  (Reader.file d).parsing (.insertOne tree path) tag keys path content

/-- Whatever the catalog holds, the parser makes the same insertions and ends in the same way. -/
theorem parsing_run (tree : File.Tree) (tag : Option Text) (keys : List Text)
    (path content : Text) (d : Dialect) (c : Catalog) :
    (d.parsing tree tag keys path content).run c =
      Parsing.ended (d.findings tag keys path content)
        (c.addAll tree (insertions path (d.findings tag keys path content).events)) := by
  rw [parsing, Reader.parsing_eq]
  exact Parsing.run_ofFindings
    (Parsing.run_forM_insertOne tree path (d.hasText_findings tag keys path content) c)

end Dialect

/-! ## What a file contributes -/

/-- What becomes of a file. -/
inductive Fate where
  | parsed
  | skipped
  | failed
deriving DecidableEq

/-- What becomes of a file, and what it adds to the catalog. -/
structure Contribution where
  fate : Fate
  insertions : List Insertion

/-- The contribution of a file with this content: nothing if nobody reads it, and otherwise what its
parser inserts. -/
def contribution (tag : Option Text) (keys : List Text) (path content : Text) : Contribution :=
  match Dialect.ofFile? path content with
  | none => ⟨.skipped, []⟩
  | some d =>
    let found := d.findings tag keys path content
    ⟨if found.failure.isSome then .failed else .parsed, insertions path found.events⟩

/-- How the file is read, into whatever catalog: by nobody, to its end, or up to a failure. -/
inductive ReadsAs (tree : File.Tree) (tag : Option Text) (keys : List Text)
    (path content : Text) : Contribution → Prop
  | skipped (hd : Dialect.ofFile? path content = none) :
    ReadsAs tree tag keys path content ⟨.skipped, []⟩
  | parsed {d : Dialect} {calls : List Insertion} (hd : Dialect.ofFile? path content = some d)
    (hrun : ∀ c : Catalog, (d.parsing tree tag keys path content).run c =
      .ok () (c.addAll tree calls)) : ReadsAs tree tag keys path content ⟨.parsed, calls⟩
  | failed {d : Dialect} {calls : List Insertion} {e : Failure}
    (hd : Dialect.ofFile? path content = some d)
    (hrun : ∀ c : Catalog, (d.parsing tree tag keys path content).run c =
      .error e (c.addAll tree calls)) : ReadsAs tree tag keys path content ⟨.failed, calls⟩

theorem readsAs_contribution (tree : File.Tree) (tag : Option Text) (keys : List Text)
    (path content : Text) :
    ReadsAs tree tag keys path content (contribution tag keys path content) := by
  rw [contribution]
  cases hd : Dialect.ofFile? path content with
  | none => exact .skipped hd
  | some d =>
    have hrun := d.parsing_run tree tag keys path content
    dsimp only
    cases hfailure : (d.findings tag keys path content).failure with
    | none =>
      simp only [Parsing.ended, hfailure] at hrun
      exact .parsed hd hrun
    | some e =>
      simp only [Parsing.ended, hfailure] at hrun
      exact .failed hd hrun

theorem msgid_of_mem_contribution {tag : Option Text} {keys : List Text} {path content : Text}
    {i : Insertion} (h : i ∈ (contribution tag keys path content).insertions) : i.msgid ≠ [] := by
  rw [contribution] at h
  cases hd : Dialect.ofFile? path content with
  | none =>
    rw [hd] at h
    cases h
  | some d =>
    rw [hd] at h
    obtain ⟨o, ho, rfl⟩ := List.mem_map.mp h
    obtain ⟨e, he, hfound⟩ := List.mem_filterMap.mp ho
    have htext := Dialect.hasText_findings tag keys path content d e he
    cases e with
    | notice n => cases hfound
    | found o' =>
      cases hfound
      exact htext

/-! ## Runs -/

namespace Extraction

/-- The contribution of a file in the tree. One that cannot be read counts as empty. -/
def contributionOf (run : Extraction) (tree : File.Tree) (path : Text) : Contribution :=
  contribution run.tag run.keys path (readOrEmpty tree path).1

/-- The run after a file with this contribution. -/
def after (tree : File.Tree) (run : Extraction) (k : Contribution) : Extraction :=
  { run with
    catalog := run.catalog.addAll tree k.insertions
    parsed := run.parsed + if k.fate = .parsed then 1 else 0
    skipped := run.skipped + if k.fate = .skipped then 1 else 0
    failed := run.failed + if k.fate = .failed then 1 else 0 }

theorem extractFile_run (run : Extraction) (tree : File.Tree) (path : Text) :
    (run.extractFile tree path).run = run.after tree (run.contributionOf tree path) := by
  rw [extractFile, contributionOf, contribution]
  cases hd : Dialect.ofFile? path (readOrEmpty tree path).1 with
  | none =>
    show (run.skip path).run = _
    rw [skip]
    split <;> rfl
  | some d =>
    show (run.parse tree path (readOrEmpty tree path).1 d).run = _
    simp only [parse, Catalog.apply_fst]
    cases (d.findings run.tag run.keys path (readOrEmpty tree path).1).failure <;> rfl

/-- The reading of one file ends the run only if nobody reads the file, and the option that tells
whether to warn of this is not one. -/
theorem extractFile_result (run : Extraction) (tree : File.Tree) (path : Text) :
    (run.extractFile tree path).result =
      match (run.contributionOf tree path).fate with
      | .parsed => .ok true
      | .failed => .ok false
      | .skipped => run.options.warnUnrecognised.map fun _ => false := by
  rw [extractFile, contributionOf, contribution]
  cases hd : Dialect.ofFile? path (readOrEmpty tree path).1 with
  | none =>
    show (run.skip path).result = run.options.warnUnrecognised.map fun _ => false
    rw [skip]
    cases run.options.warnUnrecognised <;> rfl
  | some d =>
    show (run.parse tree path (readOrEmpty tree path).1 d).result = _
    simp only [parse]
    cases (d.findings run.tag run.keys path (readOrEmpty tree path).1).failure <;> rfl

/-- How far a run came in a list of files, and how it ended: at the end of the list, or at the first
file that nobody reads if the option about such files cannot be read. -/
inductive Came (option : Except SettingError Bool) (fate : Text → Fate) :
    List Text → List Text → Except SettingError Unit → Prop
  | all {files : List Text}
    (h : (∃ warn, option = .ok warn) ∨ ∀ path ∈ files, fate path ≠ .skipped) :
    Came option fate files files (.ok ())
  | stopped (before : List Text) {path : Text} {after : List Text} {e : SettingError}
    (hoption : option = .error e) (hbefore : ∀ p ∈ before, fate p ≠ .skipped)
    (hpath : fate path = .skipped) :
    Came option fate (before ++ path :: after) (before ++ [path]) (.error e)

theorem Came.cons {option : Except SettingError Bool} {fate : Text → Fate}
    {files came : List Text} {result : Except SettingError Unit}
    (h : Came option fate files came result) {path : Text}
    (hpath : (∃ warn, option = .ok warn) ∨ fate path ≠ .skipped) :
    Came option fate (path :: files) (path :: came) result := by
  cases h with
  | all h =>
    refine .all ?_
    rcases hpath with hwarn | hpath
    · exact .inl hwarn
    · exact h.imp_right fun hfiles => List.forall_mem_cons.mpr ⟨hpath, hfiles⟩
  | stopped before hoption hbefore hstop =>
    rcases hpath with ⟨warn, hwarn⟩ | hpath
    · rw [hoption] at hwarn
      cases hwarn
    · exact .stopped (path :: before) hoption (List.forall_mem_cons.mpr ⟨hpath, hbefore⟩) hstop

theorem Came.complete {option : Except SettingError Bool} {fate : Text → Fate}
    {files came : List Text} {result : Except SettingError Unit}
    (h : Came option fate files came result) {warn : Bool} (hwarn : option = .ok warn) :
    result = .ok () ∧ came = files := by
  cases h with
  | all _ => exact ⟨rfl, rfl⟩
  | stopped before hoption =>
    rw [hwarn] at hoption
    cases hoption

/-- A run adds the contributions of the files it comes to, one after the other. -/
theorem extractFiles_run (tree : File.Tree) (run : Extraction) (files : List Text) :
    ∃ came, Came run.options.warnUnrecognised (fun path => (run.contributionOf tree path).fate)
        files came (extractFiles tree run files).result ∧
      (extractFiles tree run files).run =
        (came.map (run.contributionOf tree)).foldl (after tree) run := by
  induction files generalizing run with
  | nil => exact ⟨[], .all (.inr fun _ h => nomatch h), rfl⟩
  | cons path files ih =>
    have hrun := run.extractFile_run tree path
    have hresult := run.extractFile_result tree path
    -- after one file the options are the same, so the other files contribute the same
    obtain ⟨came, hcame, hrest⟩ := ih (run.extractFile tree path).run
    rw [extractFiles]
    cases hdone : (run.extractFile tree path).result with
    | error e =>
      rw [hdone] at hresult
      cases hfate : (run.contributionOf tree path).fate with
      | parsed => rw [hfate] at hresult; cases hresult
      | failed => rw [hfate] at hresult; cases hresult
      | skipped =>
        rw [hfate] at hresult
        cases hoption : run.options.warnUnrecognised with
        | ok warn => rw [hoption] at hresult; cases hresult
        | error e' =>
          rw [hoption] at hresult
          cases hresult
          exact ⟨[path], .stopped [] rfl (fun _ h => nomatch h) hfate, hrun⟩
    | ok parsed =>
      have hpath : (∃ warn, run.options.warnUnrecognised = .ok warn) ∨
          (run.contributionOf tree path).fate ≠ .skipped := by
        rw [hdone] at hresult
        cases hoption : run.options.warnUnrecognised with
        | ok warn => exact .inl ⟨warn, rfl⟩
        | error e =>
          refine .inr fun hfate => ?_
          rw [hfate, hoption] at hresult
          cases hresult
      rw [hrun] at hcame hrest
      dsimp only
      rw [hrun]
      exact ⟨path :: came, hcame.cons hpath, hrest⟩

/-- The run after contributions: all insertions in their order, and each fate counted. -/
theorem foldl_after (tree : File.Tree) (run : Extraction) (ks : List Contribution) :
    ks.foldl (after tree) run =
      { run with
        catalog := run.catalog.addAll tree (ks.flatMap Contribution.insertions)
        parsed := run.parsed + ks.countP fun k => k.fate = .parsed
        skipped := run.skipped + ks.countP fun k => k.fate = .skipped
        failed := run.failed + ks.countP fun k => k.fate = .failed } := by
  induction ks generalizing run with
  | nil => rfl
  | cons k ks ih =>
    rw [List.foldl_cons, ih, List.flatMap_cons, Catalog.addAll_append]
    simp only [after, List.countP_cons, decide_eq_true_eq, Nat.add_assoc, Nat.add_comm]

theorem countP_fates (ks : List Contribution) :
    (ks.countP fun k => k.fate = .parsed) + (ks.countP fun k => k.fate = .skipped) +
      (ks.countP fun k => k.fate = .failed) = ks.length := by
  induction ks with
  | nil => rfl
  | cons k ks ih =>
    simp only [List.countP_cons, decide_eq_true_eq, List.length_cons]
    cases k.fate <;> simp <;> omega

/-- A catalog that is empty takes all contributions, and refuses no insertion. -/
theorem insertAll_contributions (tree : File.Tree) (base : Text) (context : Option Text)
    (forms : Int) (run : Extraction) (came : List Text) :
    ∃ notices, (Catalog.empty base context forms).insertAll tree
        ((came.map (run.contributionOf tree)).flatMap Contribution.insertions) =
      .ok ((Catalog.empty base context forms).addAll tree
        ((came.map (run.contributionOf tree)).flatMap Contribution.insertions), notices) := by
  have htext : ∀ i ∈ (came.map (run.contributionOf tree)).flatMap Contribution.insertions,
      i.hasText = true := by
    intro i hi
    obtain ⟨k, hk, hi⟩ := List.mem_flatMap.mp hi
    obtain ⟨path, _, rfl⟩ := List.mem_map.mp hk
    simpa [Insertion.hasText] using msgid_of_mem_contribution hi
  obtain ⟨notices, hinsert, _⟩ := Catalog.insertAll_grouping tree base context forms [] _ htext
  rw [Catalog.addAll_empty]
  exact ⟨notices, hinsert⟩

/-- A run that has not read anything has an empty catalog, and has counted nothing. -/
theorem eq_of_new {tree : File.Tree} {options : Options} {run : Extraction} {log : List Notice}
    (h : new tree options = .ok (run, log)) :
    run.options = options ∧ run.parsed = 0 ∧ run.skipped = 0 ∧ run.failed = 0 ∧
      run.catalog = Catalog.empty run.catalog.base run.catalog.defaultContext
        run.catalog.pluralForms := by
  rw [new] at h
  cases hkeys : options.settingKeys with
  | error e => rw [hkeys] at h; cases h
  | ok keys =>
    cases hforms : options.pluralForms Plurals.known with
    | error e => rw [hkeys, hforms] at h; cases h
    | ok forms =>
      rw [hkeys, hforms] at h
      cases h
      refine ⟨rfl, rfl, rfl, rfl, ?_⟩
      simp only [Catalog.empty, Catalog.mk.injEq, true_and, and_true]
      omega

/-- Beside what it reports, a run over paths is one over the files found under them. -/
theorem extractPaths_eq (run : Extraction) (tree : File.Tree) (paths : List Text) (input : Text) :
    match run.findFiles tree paths input with
    | .error e => run.extractPaths tree paths input = ⟨run, [], .error e⟩
    | .ok (files, _) =>
      (run.extractPaths tree paths input).run = (extractFiles tree run files).run ∧
      (run.extractPaths tree paths input).result = (extractFiles tree run files).result := by
  rw [extractPaths]
  cases hfound : run.findFiles tree paths input with
  | error e => rfl
  | ok found =>
    obtain ⟨files, notices⟩ := found
    dsimp only
    cases hresult : (extractFiles tree run files).result with
    | error e => exact ⟨rfl, rfl⟩
    | ok u => exact ⟨rfl, rfl⟩

/-- **A run gathers what each file contributes.** A fresh run over paths comes to the files found
under them, and over any files, readable or not, it does this: it reads them in their order, up to
the last one if its options can be read. Each file is parsed, skipped or failed, and these are
counted. The catalog is what the contributions of the files make of the empty one, in order, and no
insertion is refused. What a file contributes depends on its own path and content alone: its parser
makes the same insertions into whatever catalog it finds, and those before a failure are all it
makes. -/
theorem extraction_gathers_contributions {tree : File.Tree} {options : Options} {run : Extraction}
    {log : List Notice} (hnew : new tree options = .ok (run, log)) :
    (∀ paths input, match run.findFiles tree paths input with
      | .error e => run.extractPaths tree paths input = ⟨run, [], .error e⟩
      | .ok (files, _) =>
        (run.extractPaths tree paths input).run = (extractFiles tree run files).run ∧
        (run.extractPaths tree paths input).result = (extractFiles tree run files).result) ∧
    (∀ path content, ReadsAs tree run.tag run.keys path content
      (contribution run.tag run.keys path content)) ∧
    ∀ files, let done := extractFiles tree run files
      ∃ came ks,
        ks = came.map (fun path => contribution run.tag run.keys path (readOrEmpty tree path).1) ∧
        Came options.warnUnrecognised
          (fun path => (contribution run.tag run.keys path (readOrEmpty tree path).1).fate)
          files came done.result ∧
        (∀ warn, options.warnUnrecognised = .ok warn → done.result = .ok () ∧ came = files) ∧
        done.run.parsed + done.run.skipped + done.run.failed = came.length ∧
        done.run.parsed = (ks.countP fun k => k.fate = .parsed) ∧
        done.run.skipped = (ks.countP fun k => k.fate = .skipped) ∧
        done.run.failed = (ks.countP fun k => k.fate = .failed) ∧
        ∃ notices, (Catalog.empty run.catalog.base run.catalog.defaultContext
            run.catalog.pluralForms).insertAll tree (ks.flatMap Contribution.insertions) =
          .ok (done.run.catalog, notices) := by
  obtain ⟨hoptions, hparsed, hskipped, hfailed, hcatalog⟩ := eq_of_new hnew
  refine ⟨run.extractPaths_eq tree, readsAs_contribution tree run.tag run.keys, ?_⟩
  intro files done
  obtain ⟨came, hcame, hrun⟩ := extractFiles_run tree run files
  rw [foldl_after, hparsed, hskipped, hfailed, Nat.zero_add, Nat.zero_add, Nat.zero_add] at hrun
  obtain ⟨notices, hinsert⟩ := insertAll_contributions tree run.catalog.base
    run.catalog.defaultContext run.catalog.pluralForms run came
  rw [← hcatalog] at hinsert
  refine ⟨came, came.map (run.contributionOf tree), rfl, hoptions ▸ hcame, ?_, ?_,
    congrArg parsed hrun, congrArg skipped hrun, congrArg failed hrun, notices, ?_⟩
  · intro warn hwarn
    exact hcame.complete (hoptions ▸ hwarn)
  · have hcount := countP_fates (came.map (run.contributionOf tree))
    rw [List.length_map] at hcount
    exact hrun ▸ hcount
  · rw [← hcatalog, hinsert]
    exact congrArg (fun r => Except.ok (r.catalog, notices)) hrun.symm

/-- A document with a string, and behind it a character reference of too many digits. -/
def longReference : Text :=
  "<a b=\"ts('y')\" c=\"&#".toList ++ List.replicate (TooManyDigits.limit + 1) '1' ++ "\">".toList

/-- A file with a string, one that nobody reads, and one whose reading fails. -/
def smallTree : File.Tree where
  nodes := [(["a.php".toList], .file (Text.utf8 "<?php ts('x');".toList)),
    (["b.md".toList], .file []), (["c.html".toList], .file (Text.utf8 longReference))]
  workDir := []

/-- These files, and one that is not there. The one that fails is not the last. -/
def smallFiles : List Text :=
  ["c.html".toList, "a.php".toList, "gone.php".toList, "b.md".toList]

/-- The options where nothing is set. -/
def plainOptions : Options := .ofSettings (Defaults.ofEnvironment []).settings []

-- the long reference is read digit by digit
set_option maxRecDepth 100000 in
/-- Of the four files one is not there, so it counts as empty. One fails after its first string,
which stays, and the others contribute all the same. -/
theorem extraction_gathers_contributions_small :
    ∃ run log, new smallTree plainOptions = .ok (run, log) ∧
      let done := extractFiles smallTree run smallFiles
      done.result = .ok () ∧ done.run.parsed + done.run.skipped + done.run.failed = 4 ∧
      done.run.parsed = 2 ∧ done.run.failed = 1 ∧
      done.run.catalog.entries.map Entry.msgid = [['y'], ['x']] ∧
      (run.extractPaths smallTree ["a.php".toList] []).run.parsed = 1 := by
  have hfresh : (new smallTree plainOptions).toOption.map (fun fresh =>
      let done := extractFiles smallTree fresh.1 smallFiles
      (done.run.parsed, done.run.failed, done.run.catalog.entries.map Entry.msgid,
        (fresh.1.extractPaths smallTree ["a.php".toList] []).run.parsed)) =
      some (2, 1, [['y'], ['x']], 1) := by
    decide +kernel
  cases hnew : new smallTree plainOptions with
  | error e =>
    rw [hnew] at hfresh
    cases hfresh
  | ok fresh =>
    obtain ⟨run, log⟩ := fresh
    rw [hnew] at hfresh
    obtain ⟨hparsed, hfailed, hentries, hpaths⟩ : _ ∧ _ ∧ _ ∧ _ := by
      simpa only [Except.toOption, Option.map_some, Option.some.injEq, Prod.mk.injEq] using hfresh
    obtain ⟨_, _, hfiles⟩ := extraction_gathers_contributions hnew
    obtain ⟨came, ks, _, _, hcomplete, htotal, _⟩ := hfiles smallFiles
    obtain ⟨hresult, rfl⟩ := hcomplete false rfl
    exact ⟨run, log, rfl, hresult, htotal, hparsed, hfailed, hentries, hpaths⟩

end Extraction

end MessageHarvest
