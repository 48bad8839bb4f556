import MessageHarvest.Dialect
import MessageHarvest.Proofs.SettingsMetadata

/-! # Insertions that are made again

A file may be found under two spellings of its path, and is then read twice.
Nothing is counted twice: once an insertion has been made, the entry of its
key has all that it brings (`Entry.Covers`), and whatever is inserted later
only adds to the entry. So the catalog knows the insertion from then on
(`Knows.add`), and one that it knows changes nothing (`Knows.insert_eq`). Late
plurals and plurals that disagree are no exception, since an entry that has a
plural keeps it. -/
namespace MessageHarvest

/-- What the events of a file insert, in their order. -/
def Event.insertions (path : Text) (events : List Event) : List Insertion :=
  (occurrences events).map fun o => ⟨o, path, []⟩

theorem Event.insertions_append (path : Text) (first second : List Event) :
    insertions path (first ++ second) = insertions path first ++ insertions path second := by
  rw [insertions, occurrences_append, List.map_append]
  rfl

/-! ## What an entry has -/

/-- The entry has all that the insertion brings at this reference: an empty comment or flag is never
kept, and a plural may be another one that came before. -/
structure Entry.Covers (r : Reference) (i : Insertion) (e : Entry) : Prop where
  reference : r ∈ e.references
  comments : ∀ t ∈ i.comments, t = [] ∨ t ∈ e.comments
  flags : ∀ t ∈ i.flags, t = [] ∨ t ∈ e.flags
  plural : i.plural.isSome = true → e.plural.isSome = true

namespace Entry

theorem addNew_cons (known : List Text) (t : Text) (new : List Text) :
    addNew known (t :: new) =
      addNew (if t.isEmpty || known.contains t then known else known ++ [t]) new := rfl

theorem subset_addNew (known new : List Text) : known ⊆ addNew known new := by
  induction new generalizing known with
  | nil => exact List.Subset.refl known
  | cons t new ih =>
    rw [addNew_cons]
    refine List.Subset.trans ?_ (ih _)
    split
    · exact List.Subset.refl known
    · exact List.subset_append_left known [t]

theorem mem_addNew {t : Text} {new : List Text} (h : t ∈ new) (known : List Text) :
    t = [] ∨ t ∈ addNew known new := by
  induction new generalizing known with
  | nil => cases h
  | cons u new ih =>
    rw [addNew_cons]
    rcases List.mem_cons.mp h with rfl | h
    · split
      · rename_i hknown
        rcases Bool.or_eq_true_iff.mp hknown with hempty | hknown
        · exact .inl (List.isEmpty_iff.mp hempty)
        · exact .inr (subset_addNew known new (List.contains_iff_mem.mp hknown))
      · exact .inr (subset_addNew _ new (List.mem_append_right known List.mem_cons_self))
    · exact ih h _

/-- Texts that are empty or known add nothing. -/
theorem addNew_eq_self {known new : List Text} (h : ∀ t ∈ new, t = [] ∨ t ∈ known) :
    addNew known new = known := by
  induction new with
  | nil => rfl
  | cons t new ih =>
    obtain ⟨ht, hnew⟩ := List.forall_mem_cons.mp h
    have hskip : (t.isEmpty || known.contains t) = true := by
      rcases ht with rfl | ht
      · rfl
      · rw [List.contains_iff_mem.mpr ht, Bool.or_true]
    rw [addNew_cons, if_pos hskip]
    exact ih hnew

end Entry

namespace Catalog

theorem extend_key (r : Reference) (i : Insertion) (e : Entry) : (extend r i e).key = e.key := by
  rw [extend, addReference_eq]
  rfl

/-- What an insertion brings is in the entry afterwards. -/
theorem covers_extend (r : Reference) (i : Insertion) (e : Entry) :
    (extend r i e).Covers r i := by
  rw [extend, addReference_eq]
  refine ⟨?_, fun t ht => Entry.mem_addNew ht _, fun t ht => Entry.mem_addNew ht _, ?_⟩
  · show r ∈ if r ∈ e.references then e.references else e.references ++ [r]
    split
    · assumption
    · exact List.mem_append_right _ List.mem_cons_self
  · intro hplural
    show (e.plural.or i.plural).isSome = true
    rw [Option.isSome_or, hplural, Bool.or_true]

/-- A later insertion takes nothing from an entry. -/
theorem covers_extend_of_covers {r : Reference} {i : Insertion} {e : Entry} (h : e.Covers r i)
    (r' : Reference) (j : Insertion) : (extend r' j e).Covers r i := by
  rw [extend, addReference_eq]
  refine ⟨?_, ?_, ?_, ?_⟩
  · show r ∈ if r' ∈ e.references then e.references else e.references ++ [r']
    split
    · exact h.reference
    · exact List.mem_append_left _ h.reference
  · intro t ht
    exact (h.comments t ht).imp_right fun hmem => Entry.subset_addNew _ _ hmem
  · intro t ht
    exact (h.flags t ht).imp_right fun hmem => Entry.subset_addNew _ _ hmem
  · intro hplural
    show (e.plural.or j.plural).isSome = true
    rw [Option.isSome_or, h.plural hplural, Bool.true_or]

/-- An entry that has all that an insertion brings is not changed by it. -/
theorem extend_eq_self {r : Reference} {i : Insertion} {e : Entry} (h : e.Covers r i) :
    extend r i e = e := by
  have hplural : e.plural.or i.plural = e.plural := by
    cases hi : i.plural with
    | none => exact Option.or_none
    | some p =>
      obtain ⟨q, hq⟩ := Option.isSome_iff_exists.mp (h.plural (by rw [hi]; rfl))
      rw [hq]
      rfl
  simp only [extend, addReference_eq, Entry.fillPlural, Entry.addComments, Entry.addFlags, hplural,
    h.reference, if_true, Entry.addNew_eq_self h.comments, Entry.addNew_eq_self h.flags]

/-! ## What a catalog knows -/

/-- The insertion has been made: its key has an entry, which has all that the insertion brings. -/
structure Knows (tree : File.Tree) (c : Catalog) (i : Insertion) : Prop where
  entry : ∃ e ∈ c.entries, e.key = i.keyIn c.defaultContext
  covers : ∀ e ∈ c.entries, e.key = i.keyIn c.defaultContext → e.Covers (i.reference tree c.base) i

theorem addAll_append (tree : File.Tree) (c : Catalog) (first second : List Insertion) :
    c.addAll tree (first ++ second) = (c.addAll tree first).addAll tree second :=
  List.foldl_append

theorem isSome_get? {c : Catalog} {key : Key} :
    (c.get? key).isSome = true ↔ ∃ e ∈ c.entries, e.key = key := by
  simp [get?, List.find?_isSome]

theorem entries_record_known {c : Catalog} {i : Insertion}
    (h : ∃ e ∈ c.entries, e.key = i.keyIn c.defaultContext) (r : Reference) :
    (c.record r i).entries = c.entries.map fun e =>
      if e.key = i.keyIn c.defaultContext then extend r i e else e :=
  if_pos (isSome_get?.mpr h)

theorem entries_record_new {c : Catalog} {i : Insertion}
    (h : ¬ ∃ e ∈ c.entries, e.key = i.keyIn c.defaultContext) (r : Reference) :
    (c.record r i).entries =
      c.entries ++ [extend r i (Entry.new (i.keyIn c.defaultContext) i.plural)] :=
  if_neg (mt isSome_get?.mp h)

/-- An insertion that has been made is known. -/
theorem knows_record (tree : File.Tree) (c : Catalog) (i : Insertion) :
    Knows tree (c.record (i.reference tree c.base) i) i := by
  by_cases hknown : ∃ e ∈ c.entries, e.key = i.keyIn c.defaultContext
  · have hentries := entries_record_known hknown (i.reference tree c.base)
    constructor
    · obtain ⟨e, he, hkey⟩ := hknown
      refine ⟨extend (i.reference tree c.base) i e, ?_, (extend_key _ i e).trans hkey⟩
      rw [hentries]
      exact List.mem_map.mpr ⟨e, he, if_pos hkey⟩
    · intro e he hkey
      rw [hentries] at he
      obtain ⟨e', _, rfl⟩ := List.mem_map.mp he
      split
      · exact covers_extend _ i e'
      · rename_i hne
        rw [if_neg hne] at hkey
        exact absurd hkey hne
  · have hentries := entries_record_new hknown (i.reference tree c.base)
    constructor
    · refine ⟨extend (i.reference tree c.base) i (Entry.new (i.keyIn c.defaultContext) i.plural),
        ?_, extend_key _ i _⟩
      rw [hentries]
      exact List.mem_append_right _ List.mem_cons_self
    · intro e he hkey
      rw [hentries] at he
      rcases List.mem_append.mp he with he | he
      · exact absurd ⟨e, he, hkey⟩ hknown
      · rw [List.mem_singleton.mp he]
        exact covers_extend _ i _

/-- What the catalog knows it still knows after another insertion. -/
theorem Knows.record {tree : File.Tree} {c : Catalog} {i : Insertion} (h : Knows tree c i)
    (r : Reference) (j : Insertion) : Knows tree (c.record r j) i := by
  by_cases hknown : ∃ e ∈ c.entries, e.key = j.keyIn c.defaultContext
  · have hentries := entries_record_known hknown r
    constructor
    · obtain ⟨e, he, hkey⟩ := h.entry
      refine ⟨_, by rw [hentries]; exact List.mem_map_of_mem he, ?_⟩
      split
      · exact (extend_key r j e).trans hkey
      · exact hkey
    · intro e he hkey
      rw [hentries] at he
      obtain ⟨e', he', rfl⟩ := List.mem_map.mp he
      split
      · rename_i hsame
        rw [if_pos hsame, extend_key] at hkey
        exact covers_extend_of_covers (h.covers e' he' hkey) r j
      · rename_i hother
        rw [if_neg hother] at hkey
        exact h.covers e' he' hkey
  · have hentries := entries_record_new hknown r
    constructor
    · obtain ⟨e, he, hkey⟩ := h.entry
      exact ⟨e, by rw [hentries]; exact List.mem_append_left _ he, hkey⟩
    · intro e he hkey
      rw [hentries] at he
      rcases List.mem_append.mp he with he | he
      · exact h.covers e he hkey
      · -- a new entry has a key that no entry had, so it is not that of `i`
        rw [List.mem_singleton.mp he, extend_key] at hkey
        obtain ⟨e', he', hkey'⟩ := h.entry
        exact absurd ⟨e', he', hkey'.trans hkey.symm⟩ hknown

theorem Knows.add {tree : File.Tree} {c : Catalog} {i : Insertion} (h : Knows tree c i)
    (j : Insertion) : Knows tree (c.add tree j) i := by
  cases hj : j.hasText with
  | true =>
    rw [add_of_hasText tree hj]
    exact h.record _ j
  | false =>
    rw [add_of_not_hasText tree hj]
    exact h

theorem Knows.addAll {tree : File.Tree} {c : Catalog} {i : Insertion} (h : Knows tree c i)
    (calls : List Insertion) : Knows tree (c.addAll tree calls) i := by
  induction calls generalizing c with
  | nil => exact h
  | cons j calls ih => exact ih (h.add j)

/-- Every insertion of a run is known at its end. -/
theorem knows_addAll {tree : File.Tree} {i : Insertion} (hi : i.hasText = true)
    {calls : List Insertion} (hmem : i ∈ calls) (c : Catalog) :
    Knows tree (c.addAll tree calls) i := by
  obtain ⟨before, after, rfl⟩ := List.append_of_mem hmem
  have hmade : Knows tree ((c.addAll tree before).add tree i) i := by
    rw [add_of_hasText tree hi]
    exact knows_record tree _ i
  rw [addAll_append]
  exact hmade.addAll after

/-- The same insertion under another spelling of its path. -/
theorem Knows.respell {tree : File.Tree} {c : Catalog} {i : Insertion} (h : Knows tree c i)
    {path : Text} (hpath : tree.realLocation path = tree.realLocation i.path) :
    Knows tree c { i with path := path } := by
  have hreference : Insertion.reference tree c.base { i with path := path } =
      i.reference tree c.base := by
    simp only [Insertion.reference, File.Tree.relativePath, hpath]
  refine ⟨h.entry, fun e he hkey => ?_⟩
  obtain ⟨hmem, hcomments, hflags, hplural⟩ := h.covers e he hkey
  exact ⟨hreference ▸ hmem, hcomments, hflags, hplural⟩

/-- An insertion that the catalog knows leaves it as it is. -/
theorem Knows.add_eq {tree : File.Tree} {c : Catalog} {i : Insertion} (h : Knows tree c i)
    (hi : i.hasText = true) : c.add tree i = c := by
  have hentries : (c.record (i.reference tree c.base) i).entries = c.entries := by
    rw [entries_record_known h.entry]
    refine (List.map_congr_left fun e he => ?_).trans (List.map_id c.entries)
    split
    · rename_i hkey
      exact extend_eq_self (h.covers e he hkey)
    · rfl
  rw [add_of_hasText tree hi]
  exact congrArg (fun entries => { c with entries := entries }) hentries

theorem Knows.insert_eq {tree : File.Tree} {c : Catalog} {i : Insertion} (h : Knows tree c i)
    (hi : i.msgid ≠ []) : ∃ notices, c.insert tree i = .ok (c, notices) := by
  have hinsert := Catalog.insert_eq tree c i
  rw [if_neg hi, h.add_eq (by simpa [Insertion.hasText] using hi)] at hinsert
  exact hinsert

/-- Insertions that the catalog knows, as far as they have text, leave it as it is. -/
theorem addAll_eq_self {tree : File.Tree} {c : Catalog} {calls : List Insertion}
    (h : ∀ i ∈ calls, i.hasText = true → Knows tree c i) : c.addAll tree calls = c := by
  induction calls with
  | nil => rfl
  | cons i calls ih =>
    obtain ⟨hknows, hcalls⟩ := List.forall_mem_cons.mp h
    have hadd : c.add tree i = c := by
      cases hi : i.hasText with
      | true => exact (hknows hi).add_eq hi
      | false => exact add_of_not_hasText tree hi
    rw [addAll, List.foldl_cons, hadd]
    exact ih hcalls

/-! ## Runs of insertions and files -/

/-- What changes a catalog: a string that is inserted, or a file that is read in some dialect. -/
inductive Step where
  | insert (i : Insertion)
  | parse (tag : Option Text) (keys : List Text) (dialect : Dialect) (path content : Text)

/-- The insertions that are made, in their order. -/
def Step.insertions : Step → List Insertion
  | insert i => [i]
  | parse tag keys dialect path content =>
    Event.insertions path (dialect.findings tag keys path content).events

/-- The catalog after a step. An insertion that is refused leaves it as it was, and a file that
cannot be read to its end has been read up to that place. -/
def Step.perform (tree : File.Tree) (c : Catalog) : Step → Catalog
  | insert i => c.add tree i
  | parse tag keys dialect path content =>
    (c.apply tree path (dialect.findings tag keys path content).events).1

/-- The catalog after steps, one after the other. -/
def performAll (tree : File.Tree) (c : Catalog) (steps : List Step) : Catalog :=
  steps.foldl (Step.perform tree) c

theorem Step.perform_eq (tree : File.Tree) (c : Catalog) (step : Step) :
    step.perform tree c = c.addAll tree step.insertions := by
  cases step with
  | insert i => rfl
  | parse tag keys dialect path content => exact apply_fst tree path c _

theorem performAll_eq (tree : File.Tree) (c : Catalog) (steps : List Step) :
    c.performAll tree steps = c.addAll tree (steps.flatMap Step.insertions) := by
  induction steps generalizing c with
  | nil => rfl
  | cons step steps ih =>
    rw [performAll, List.foldl_cons, List.flatMap_cons, addAll_append, Step.perform_eq]
    exact ih _

/-- **What has been inserted before changes nothing.** After any run of insertions and files that
are read in any of the dialects, whatever the catalog held before the run: an insertion with text
that was made at any point of the run, by itself or for a file, succeeds again and leaves the
catalog as it is, entries, their order and text, under every spelling of its path that leads to the
same place. And a file that was read at any point of the run leaves the catalog as it is when it is
read again. -/
theorem repetition_unchanged (tree : File.Tree) (c : Catalog) (steps : List Step) :
    (∀ step ∈ steps, ∀ i ∈ step.insertions, i.msgid ≠ [] →
      ∀ path, tree.realLocation path = tree.realLocation i.path →
        ∃ notices, (c.performAll tree steps).insert tree { i with path := path } =
          .ok (c.performAll tree steps, notices)) ∧
    (∀ step ∈ steps, step.perform tree (c.performAll tree steps) = c.performAll tree steps) := by
  have hknows : ∀ step ∈ steps, ∀ i ∈ step.insertions, i.hasText = true →
      Knows tree (c.performAll tree steps) i := by
    intro step hstep i hi htext
    rw [performAll_eq]
    exact knows_addAll htext (List.mem_flatMap.mpr ⟨step, hstep, hi⟩) c
  constructor
  · intro step hstep i hi htext path hpath
    have hmade := hknows step hstep i hi (by simpa [Insertion.hasText] using htext)
    exact (hmade.respell hpath).insert_eq htext
  · intro step hstep
    rw [Step.perform_eq]
    exact addAll_eq_self fun i hi htext => hknows step hstep i hi htext

/-- A directory with a file, and a link to the directory. -/
def linkedTree : File.Tree where
  nodes := [(["p".toList], .directory), (["p".toList, "a".toList], .file []),
    (["q".toList], .link "/p".toList)]
  workDir := []

/-- A string without a plural. -/
def earlyInsertion : Insertion := ⟨⟨⟨"m".toList, 3, none, none⟩, ["c".toList]⟩, "/p/a".toList, []⟩

/-- A file that gives the string a plural. -/
def pluralFile : Step := .parse none [] .script "/p/b".toList "ts('m', \x7bplural: 'n'\x7d)".toList

/-- The string gets a plural late, and then one that disagrees. -/
def disputedSteps : List Step :=
  [.insert earlyInsertion, pluralFile,
    .insert ⟨⟨⟨"m".toList, 5, some "o".toList, none⟩, []⟩, "/p/a".toList, []⟩]

/-- The entry has been changed since, and the path goes through a link. -/
theorem repetition_unchanged_disputed :
    let c := (empty "/".toList none 2).performAll linkedTree disputedSteps
    (c.get? ⟨none, "m".toList⟩).map (fun e => (e.plural, e.references.length)) =
      some (some "n".toList, 3) ∧
    linkedTree.realLocation "/q/./a".toList = linkedTree.realLocation "/p/a".toList ∧
    (∃ notices, c.insert linkedTree { earlyInsertion with path := "/q/./a".toList } =
      .ok (c, notices)) ∧
    pluralFile.perform linkedTree c = c := by
  have hplace : linkedTree.realLocation "/q/./a".toList =
      linkedTree.realLocation "/p/a".toList := by decide +kernel
  obtain ⟨hinsert, hperform⟩ :=
    repetition_unchanged linkedTree (empty "/".toList none 2) disputedSteps
  refine ⟨by decide +kernel, hplace, ?_, ?_⟩
  · exact hinsert (.insert earlyInsertion) List.mem_cons_self earlyInsertion List.mem_cons_self
      (by decide) _ hplace
  · exact hperform pluralFile (List.mem_cons_of_mem _ List.mem_cons_self)

end Catalog

end MessageHarvest
