import MessageHarvest.Proofs.CatalogDecoding
import MessageHarvest.Proofs.MarkupLines
import MessageHarvest.Proofs.RepeatedInsertion

/-! # Comments as lines of a catalog

A comment in source text can be anything, also many lines, while a catalog
writes each comment behind `#. ` and ends it with a line feed. What keeps the
two apart is that comments are cut into lines before they are kept: every line
shows something, ends where its text ends and has no line break of any kind
(`SafeLine`). All dialects take their comments from there
(`Dialect.fromComment_findings`), a catalog adds nothing to them
(`SafeComments.add`), and so each comment takes one line of the text of a
catalog, however the lines of that are told (`CutsLines.cut_text`). -/
namespace MessageHarvest

open Event (occurrences occurrences_append)

namespace Text

/-! ## Lines -/

/-- The text can stand at the end of a line as it is: there is something to see, it does not end in
what trimming removes, and no line ends in it. -/
structure SafeLine (s : Text) : Prop where
  nonempty : s ≠ []
  tight : s.TightEnd
  unbroken : ∀ c ∈ s, isLineBreak c = false

theorem not_isLineBreak_of_mem_lines {s line : Text} (h : line ∈ lines s) :
    ∀ c ∈ line, isLineBreak c = false := by
  fun_induction lines s generalizing line with
  | case1 => cases h
  | case2 cs ih =>
    rcases List.mem_cons.mp h with rfl | h
    · simp
    · exact ih h
  | case3 c cs _ _ ih =>
    rcases List.mem_cons.mp h with rfl | h
    · simp
    · exact ih h
  | case4 c cs _ hc hlines =>
    obtain rfl := List.mem_singleton.mp h
    simpa using hc
  | case5 c cs _ hc first more hlines ih =>
    rw [hlines] at ih
    rcases List.mem_cons.mp h with rfl | h
    · exact List.forall_mem_cons.mpr ⟨by simpa using hc, ih List.mem_cons_self⟩
    · exact ih (List.mem_cons_of_mem first h)

theorem lines_ne_nil {s : Text} (h : s ≠ []) : lines s ≠ [] := by
  fun_cases lines s with
  | case1 => exact absurd rfl h
  | _ => exact List.cons_ne_nil _ _

theorem lines_cons_break {c : Char} {s : Text} (hc : isLineBreak c = true)
    (h : c = '\r' → s.head? ≠ some '\n') : lines (c :: s) = [] :: lines s := by
  rw [lines, if_pos hc]
  intro cs hreturn hs
  exact h hreturn (hs ▸ rfl)

theorem lines_cons_unbroken {c : Char} {s first : Text} {more : List Text}
    (hc : isLineBreak c = false) (h : lines s = first :: more) :
    lines (c :: s) = (c :: first) :: more := by
  rw [lines, hc, h]
  · rfl
  · rintro cs rfl -
    exact absurd hc (by decide)

/-- A carriage return before a line feed ends no line of its own. -/
theorem lines_return_feed (rest : Text) : lines ('\r' :: '\n' :: rest) = lines ('\n' :: rest) := by
  rw [lines, lines_cons_break (by decide) (by simp)]

/-- A line feed ends the lines before it, whatever follows. -/
theorem lines_append_feed (s rest : Text) :
    lines (s ++ '\n' :: rest) = lines (s ++ ['\n']) ++ lines rest := by
  induction s with
  | nil =>
    rw [List.nil_append, List.nil_append, lines_cons_break (by decide) (by simp),
      lines_cons_break (by decide) (by simp)]
    rfl
  | cons c s ih =>
    rw [List.cons_append, List.cons_append]
    cases hc : isLineBreak c with
    | false =>
      obtain ⟨first, more, hlines⟩ := List.exists_cons_of_ne_nil
        (lines_ne_nil (List.append_ne_nil_of_right_ne_nil s (List.cons_ne_nil '\n' [])))
      rw [hlines] at ih
      rw [lines_cons_unbroken hc ih, lines_cons_unbroken hc hlines]
      rfl
    | true =>
      -- a carriage return may stand right before the line feed of the cut, and then it ends no line
      by_cases hpair : c = '\r' ∧ (s = [] ∨ s.head? = some '\n')
      · obtain ⟨rfl, rfl | hfeed⟩ := hpair
        · rw [List.nil_append, List.nil_append, lines_return_feed, lines_return_feed]
          exact ih
        · obtain ⟨s, rfl⟩ := List.head?_eq_some_iff.mp hfeed
          rw [List.cons_append, List.cons_append, lines_return_feed, lines_return_feed]
          exact ih
      · have hnext : ∀ t : Text, c = '\r' → (s ++ '\n' :: t).head? ≠ some '\n' := by
          intro t hreturn hhead
          refine hpair ⟨hreturn, ?_⟩
          cases s with
          | nil => exact .inl rfl
          | cons d s => exact .inr hhead
        rw [lines_cons_break hc (hnext rest), lines_cons_break hc (hnext []), ih]
        rfl

theorem lines_unbroken {s : Text} (h : ∀ c ∈ s, isLineBreak c = false) :
    lines (s ++ ['\n']) = [s] := by
  induction s with
  | nil => exact lines_cons_break (by decide) (by decide)
  | cons c s ih =>
    obtain ⟨hc, hs⟩ := List.forall_mem_cons.mp h
    exact lines_cons_unbroken hc (ih hs)

/-- A way to tell the lines of a text, and those of a text that a line feed ends: the lines behind
the line feed are told anew, and a text without any line break is one line. -/
structure CutsLines (cut ended : Text → List Text) : Prop where
  feed : ∀ s rest, cut (s ++ '\n' :: rest) = ended s ++ cut rest
  unbroken : ∀ s, (∀ c ∈ s, isLineBreak c = false) → ended s = [s]

/-- Lines end at every kind of line break. -/
theorem cutsLines_lines : CutsLines lines fun s => lines (s ++ ['\n']) :=
  ⟨lines_append_feed, fun _ h => lines_unbroken h⟩

/-- Lines end at line feeds alone. -/
theorem cutsLines_pieces : CutsLines (pieces (· = '\n')) (pieces (· = '\n')) := by
  refine ⟨pieces_append (by decide), fun s h => pieces_eq_singleton fun c hc => ?_⟩
  refine decide_eq_false ?_
  rintro rfl
  exact absurd (h _ hc) (by decide)

end Text

/-! ## Lines of comments -/

theorem mem_of_mem_commentLine {c : Char} {line : Text} (h : c ∈ commentLine line) : c ∈ line := by
  refine (List.dropWhile_sublist Text.isSpace).mem ?_
  have hkept := (Text.prefix_trimRight _).mem h
  split at hkept
  · rename_i d cs hline
    rw [hline]
    split at hkept <;> simp_all
  · cases hkept
  · exact hkept

/-- What the tag lets through are safe lines, and the first of them starts with the tag. -/
structure TaggedSafely (tag : Option Text) (found : List Text) : Prop where
  safe : ∀ line ∈ found, line.SafeLine
  tagged : ∀ first ∈ found.head?, ∃ t, tag = some t ∧ t ≠ [] ∧ t <+: first
  untagged : tag = none ∨ tag = some [] → found = []

theorem safeLine_of_mem_filter {s line : Text}
    (h : line ∈ ((Text.lines s).map commentLine).filter fun l => !l.isEmpty) : line.SafeLine := by
  obtain ⟨hmem, hline⟩ := List.mem_filter.mp h
  obtain ⟨source, hsource, rfl⟩ := List.mem_map.mp hmem
  refine ⟨by simpa using hline, Text.tightEnd_trimRight _, ?_⟩
  intro c hc
  exact Text.not_isLineBreak_of_mem_lines hsource c (mem_of_mem_commentLine hc)

theorem taggedSafely_taggedLines (tag : Option Text) (s : Text) :
    TaggedSafely tag (taggedLines tag s) := by
  unfold taggedLines
  dsimp only
  split
  · rename_i t ts first more hlines
    split
    · rename_i hfirst
      refine ⟨fun line hline => safeLine_of_mem_filter hline, ?_, ?_⟩
      · intro line hline
        rw [hlines] at hline
        obtain rfl := Option.some.inj hline
        exact ⟨t :: ts, rfl, List.cons_ne_nil t ts, List.isPrefixOf_iff_prefix.mp hfirst⟩
      · rintro (h | h) <;> cases h
    · exact ⟨by simp, by simp, fun _ => rfl⟩
  · exact ⟨by simp, by simp, fun _ => rfl⟩

/-! ## Comments of strings -/

/-- The lines are those that a comment has for translators. -/
def FromComment (tag : Option Text) (found : List Text) : Prop := ∃ s, found = taggedLines tag s

theorem fromComment_nil (tag : Option Text) : FromComment tag [] := by
  refine ⟨[], ?_⟩
  rcases tag with _ | _ | ⟨t, ts⟩ <;> rfl

theorem fromComment_commentLines (tag : Option Text) (comment : Option Comment) :
    FromComment tag (commentLines tag comment) := by
  cases comment with
  | none => exact fromComment_nil tag
  | some c => exact ⟨c.body, rfl⟩

theorem comments_of_mem_occurrences {comments : List Text} {r : Reading} {o : Occurrence}
    (h : o ∈ occurrences (Event.ofReading comments r)) : o.comments = comments := by
  cases r with
  | found call =>
    obtain rfl := List.mem_singleton.mp h
    rfl
  | refused why => cases h
  | nothing => cases h

namespace Php

theorem fromComment_callEvents {tag : Option Text} {before : List Token} {t : Token}
    {after : List Token} {o : Occurrence} (h : o ∈ occurrences (callEvents tag before t after)) :
    FromComment tag o.comments := by
  rw [comments_of_mem_occurrences h]
  exact fromComment_commentLines tag _

theorem fromComment_scanEvents {tag : Option Text} {scan : Scan} {o : Occurrence}
    (h : o ∈ occurrences (scanEvents tag scan)) : FromComment tag o.comments := by
  rw [occurrences_scanEvents] at h
  obtain ⟨before, t, after, -, hmem⟩ := mem_occurrences_walk (fun _ => rfl) (fun _ _ _ => rfl) h
  exact fromComment_callEvents hmem

theorem fromComment_settingFileEvents {tag : Option Text} {keys : List Text} {source : Text}
    {o : Occurrence} (h : o ∈ occurrences (settingFileEvents tag keys source)) :
    FromComment tag o.comments := by
  rw [occurrences_settingFileEvents] at h
  obtain ⟨before, t, after, -, hmem⟩ := mem_occurrences_walk (fun _ => rfl) (fun _ _ _ => rfl) h
  rcases mem_occurrences_metadataEvents hmem with hcall | hsetting
  · exact fromComment_callEvents hcall
  · cases mem_occurrences_settingEvents.mp hsetting
    exact fromComment_commentLines tag _

end Php

theorem Script.fromComment_events {tag : Option Text} {line : Int} {source : Text}
    {o : Occurrence} (h : o ∈ occurrences (events tag line source)) :
    FromComment tag o.comments := by
  rw [occurrences_events] at h
  obtain ⟨before, t, after, -, hmem⟩ := mem_occurrences_walk (fun _ => rfl) (fun _ _ _ => rfl) h
  rw [comments_of_mem_occurrences hmem]
  exact fromComment_commentLines tag _

/-- What a template carries along up to the next tag are lines of a comment at every point. -/
theorem Smarty.fromComment_eventsFrom {path : Text} {tag : Option Text} {line : Int}
    {comments : List Text} {s : Text} (hcomments : FromComment tag comments) {o : Occurrence}
    (h : o ∈ occurrences (eventsFrom path tag line comments s)) : FromComment tag o.comments := by
  fun_induction eventsFrom path tag line comments s with
  | case1 => cases h
  | case2 line comments c cs _ ih =>
    refine ih ?_ h
    split
    · exact hcomments
    · exact fromComment_nil tag
  | case3 line comments c cs found _ after afterLine text _ ih => exact ih ⟨text, rfl⟩ h
  | case4 line comments c cs found _ after afterLine _ ih => exact ih (fromComment_nil tag) h
  | case5 line comments c cs found _ after afterLine code _ ih =>
    rw [occurrences_append] at h
    rcases List.mem_append.mp h with h | h
    · exact Php.fromComment_scanEvents h
    · exact ih (fromComment_nil tag) h
  | case6 line comments c cs found _ after afterLine source _ attributes msgid _ ih =>
    rw [occurrences_append] at h
    rcases List.mem_append.mp h with h | h
    · exact (mem_occurrences_tagEvents h).2.1 ▸ hcomments
    · exact ih (fromComment_nil tag) h
  | case7 => cases h
  | case8 line comments c cs found _ after afterLine source _ attributes _ n _ block ih =>
    rw [occurrences_append] at h
    rcases List.mem_append.mp h with h | h
    · exact (mem_occurrences_tagEvents h).2.1 ▸ hcomments
    · exact ih (fromComment_nil tag) h

/-- All dialects have their comments from the lines that the tag lets through. -/
theorem Dialect.fromComment_findings {tag : Option Text} {keys : List Text} {path content : Text}
    {d : Dialect} {o : Occurrence}
    (h : o ∈ occurrences (d.findings tag keys path content).events) :
    FromComment tag o.comments := by
  cases d with
  | script =>
    rw [findings] at h
    split at h
    · obtain ⟨f, -, script, -, hmem⟩ := Markup.exists_fragment_of_mem h
      exact Script.fromComment_events hmem
    · exact Script.fromComment_events h
  | setting => exact Php.fromComment_settingFileEvents h
  | template => exact Smarty.fromComment_eventsFrom (fromComment_nil tag) h
  | php => exact Php.fromComment_scanEvents h

theorem FromComment.taggedSafely {tag : Option Text} {found : List Text}
    (h : FromComment tag found) : TaggedSafely tag found := by
  obtain ⟨s, rfl⟩ := h
  exact taggedSafely_taggedLines tag s

/-! ## Comments of entries -/

/-- The comments of the entry are safe lines, and none is there twice. -/
structure Entry.SafeComments (e : Entry) : Prop where
  distinct : e.comments.Nodup
  safe : ∀ t ∈ e.comments, t.SafeLine

theorem Entry.nodup_addNew {known : List Text} (h : known.Nodup) (new : List Text) :
    (addNew known new).Nodup := by
  induction new generalizing known with
  | nil => exact h
  | cons t new ih =>
    rw [addNew_cons]
    apply ih
    split
    · exact h
    · rename_i hnew
      have ht : t ∉ known := fun hmem => hnew (by simp [hmem])
      rw [← List.concat_eq_append]
      exact h.concat ht

theorem Entry.forall_mem_addNew {p : Text → Prop} {known new : List Text}
    (hknown : ∀ t ∈ known, p t) (hnew : ∀ t ∈ new, p t) : ∀ t ∈ addNew known new, p t := by
  induction new generalizing known with
  | nil => exact hknown
  | cons t new ih =>
    obtain ⟨ht, hnew⟩ := List.forall_mem_cons.mp hnew
    rw [addNew_cons]
    refine ih ?_ hnew
    split
    · exact hknown
    · exact List.forall_mem_append.mpr ⟨hknown, by simpa using ht⟩

namespace Catalog

/-- All entries have safe comments. -/
def SafeComments (c : Catalog) : Prop := ∀ e ∈ c.entries, e.SafeComments

theorem comments_extend (r : Reference) (i : Insertion) (e : Entry) :
    (extend r i e).comments = Entry.addNew e.comments i.comments := by
  rw [extend, addReference_eq]
  rfl

theorem safeComments_extend {i : Insertion} (hi : ∀ t ∈ i.comments, t.SafeLine) {e : Entry}
    (he : e.SafeComments) (r : Reference) : (extend r i e).SafeComments := by
  refine ⟨?_, ?_⟩
  · rw [comments_extend]
    exact Entry.nodup_addNew he.distinct i.comments
  · rw [comments_extend]
    exact Entry.forall_mem_addNew he.safe hi

theorem SafeComments.record {c : Catalog} (h : c.SafeComments) {i : Insertion}
    (hi : ∀ t ∈ i.comments, t.SafeLine) (r : Reference) : (c.record r i).SafeComments := by
  intro e he
  by_cases hknown : ∃ e ∈ c.entries, e.key = i.keyIn c.defaultContext
  · rw [entries_record_known hknown] at he
    obtain ⟨old, hold, rfl⟩ := List.mem_map.mp he
    split
    · exact safeComments_extend hi (h old hold) r
    · exact h old hold
  · rw [entries_record_new hknown] at he
    rcases List.mem_append.mp he with he | he
    · exact h e he
    · obtain rfl := List.mem_singleton.mp he
      exact safeComments_extend hi ⟨List.nodup_nil, List.forall_mem_nil _⟩ r

theorem SafeComments.add {c : Catalog} (h : c.SafeComments) {i : Insertion}
    (hi : ∀ t ∈ i.comments, t.SafeLine) (tree : File.Tree) : (c.add tree i).SafeComments := by
  cases htext : i.hasText with
  | true =>
    rw [add_of_hasText tree htext]
    exact h.record hi _
  | false =>
    rw [add_of_not_hasText tree htext]
    exact h

theorem SafeComments.addAll {c : Catalog} (h : c.SafeComments) {calls : List Insertion}
    (hcalls : ∀ i ∈ calls, ∀ t ∈ i.comments, t.SafeLine) (tree : File.Tree) :
    (c.addAll tree calls).SafeComments := by
  induction calls generalizing c with
  | nil => exact h
  | cons i calls ih =>
    obtain ⟨hi, hcalls⟩ := List.forall_mem_cons.mp hcalls
    exact ih (h.add hi tree) hcalls

/-- A file brings safe comments only. So a run has to mind what is inserted by itself. -/
theorem safe_of_mem_insertions {steps : List Step}
    (h : ∀ i, Step.insert i ∈ steps → ∀ t ∈ i.comments, t.SafeLine) :
    ∀ i ∈ steps.flatMap Step.insertions, ∀ t ∈ i.comments, t.SafeLine := by
  intro i hi
  obtain ⟨step, hstep, hi⟩ := List.mem_flatMap.mp hi
  cases step with
  | insert j =>
    obtain rfl := List.mem_singleton.mp hi
    exact h i hstep
  | parse tag keys d path content =>
    obtain ⟨o, ho, rfl⟩ := List.mem_map.mp hi
    exact (Dialect.fromComment_findings ho).taggedSafely.safe

theorem SafeComments.performAll {c : Catalog} (h : c.SafeComments) {steps : List Step}
    (hsteps : ∀ i, Step.insert i ∈ steps → ∀ t ∈ i.comments, t.SafeLine) (tree : File.Tree) :
    (c.performAll tree steps).SafeComments := by
  rw [performAll_eq]
  exact h.addAll (safe_of_mem_insertions hsteps) tree

end Catalog

/-! ## Comments in the text of a catalog -/

namespace Entry

/-- The lines of the entry with its comments left out, as one text. -/
def uncommented (forms : Int) (e : Entry) : Text :=
  Text.joinWith ['\n'] (lines { e with comments := [] } forms)

theorem lines_eq_append (forms : Int) (e : Entry) :
    e.lines forms =
      e.comments.map ("#. ".toList ++ ·) ++ lines { e with comments := [] } forms := by
  simp [lines]

end Entry

namespace Text

theorem joinWith_append (separator : Text) (first : List Text) {second : List Text}
    (h : second ≠ []) : joinWith separator (first ++ second) =
      first.flatMap (· ++ separator) ++ joinWith separator second := by
  induction first with
  | nil => rfl
  | cons s first ih =>
    obtain ⟨t, rest, hrest⟩ :=
      List.exists_cons_of_ne_nil (List.append_ne_nil_of_right_ne_nil first h)
    rw [List.cons_append, hrest, joinWith_cons_cons, ← hrest, ih, List.flatMap_cons,
      List.append_assoc (s ++ separator)]

variable {cut ended : Text → List Text}

theorem CutsLines.cut_flatMap (h : CutsLines cut ended) {lines : List Text}
    (hlines : ∀ l ∈ lines, ∀ c ∈ l, isLineBreak c = false) (rest : Text) :
    cut (lines.flatMap (· ++ ['\n']) ++ rest) = lines ++ cut rest := by
  induction lines with
  | nil => rfl
  | cons l lines ih =>
    obtain ⟨hl, hlines⟩ := List.forall_mem_cons.mp hlines
    rw [List.flatMap_cons, List.append_assoc, List.append_assoc, List.singleton_append, h.feed,
      h.unbroken l hl, ih hlines]
    rfl

/-- The block of an entry is a line for each comment, and the lines that it has without them. -/
theorem CutsLines.cut_block (h : CutsLines cut ended) {e : Entry} (he : e.SafeComments)
    (forms : Int) (rest : Text) :
    cut (joinWith ['\n'] (e.lines forms) ++ ['\n', '\n'] ++ rest) =
      e.comments.map ("#. ".toList ++ ·) ++ (ended (e.uncommented forms) ++ [[]]) ++ cut rest := by
  have hmark : ("#. ".toList.all fun d => !isLineBreak d) = true := by decide
  have hlines : ∀ l ∈ e.comments.map ("#. ".toList ++ ·), ∀ d ∈ l, isLineBreak d = false := by
    intro l hl
    obtain ⟨t, ht, rfl⟩ := List.mem_map.mp hl
    refine List.forall_mem_append.mpr ⟨fun d hd => ?_, (he.safe t ht).unbroken⟩
    simpa using List.all_eq_true.mp hmark d hd
  have hblank : cut ('\n' :: rest) = [[]] ++ cut rest := by
    rw [← h.unbroken [] (List.forall_mem_nil _), ← h.feed]
    rfl
  have hrest : cut (e.uncommented forms ++ (['\n', '\n'] ++ rest)) =
      ended (e.uncommented forms) ++ ([[]] ++ cut rest) := by
    rw [← hblank, ← h.feed]
    rfl
  rw [e.lines_eq_append, joinWith_append _ _ (Entry.lines_ne_nil forms _), List.append_assoc,
    List.append_assoc, h.cut_flatMap hlines, List.append_assoc, List.append_assoc]
  exact congrArg _ hrest

/-- In the text of a catalog each comment is a line, and the other lines are what they would be
without comments. -/
theorem CutsLines.cut_text (h : CutsLines cut ended) {c : Catalog} (hc : c.SafeComments) :
    cut c.text = (c.entries.flatMap fun e => e.comments.map ("#. ".toList ++ ·) ++
      (ended (e.uncommented c.pluralForms) ++ [[]])) ++ cut [] := by
  have hentries : ∀ entries : List Entry, (∀ e ∈ entries, e.SafeComments) →
      cut (entries.flatMap fun e =>
        joinWith ['\n'] (e.lines c.pluralForms) ++ ['\n', '\n']) =
      (entries.flatMap fun e => e.comments.map ("#. ".toList ++ ·) ++
        (ended (e.uncommented c.pluralForms) ++ [[]])) ++ cut [] := by
    intro entries hsafe
    induction entries with
    | nil => rfl
    | cons e entries ih =>
      obtain ⟨he, hsafe⟩ := List.forall_mem_cons.mp hsafe
      rw [List.flatMap_cons, List.flatMap_cons, h.cut_block he, ih hsafe, ← List.append_assoc]
  exact hentries c.entries hc

end Text

namespace Entry

theorem pieces_uncommented {e : Entry} (h : OneLine { e with comments := [] }) (forms : Int) :
    Text.pieces (· = '\n') (e.uncommented forms) = lines { e with comments := [] } forms := by
  have hpieces := Text.pieces_joinWith [] (lines_ne_nil forms _) (h.lines forms)
  rw [Text.pieces_append (by decide)] at hpieces
  exact List.append_cancel_right hpieces

/-- Only comments start as comments do. -/
theorem filter_lines_uncommented (forms : Int) (e : Entry) :
    (lines { e with comments := [] } forms).filter ("#. ".toList).isPrefixOf = [] := by
  rw [lines_eq_partLines]
  simp (disch := decide) only [partLines, parts, List.flatMap_cons, List.flatMap_nil,
    List.append_nil, List.map_nil, List.filter_append, List.filter_nil, Record.filter_map_apart]

end Entry

/-- Where no place and no flag has a line feed, the lines that start as comments do are the
comments. -/
theorem Catalog.SafeComments.filter_pieces_text {c : Catalog} (hc : c.SafeComments)
    (hplain : ∀ e ∈ c.entries, Entry.OneLine { e with comments := [] }) :
    (Text.pieces (· = '\n') c.text).filter ("#. ".toList).isPrefixOf =
      c.entries.flatMap fun e => e.comments.map ("#. ".toList ++ ·) := by
  have hblank : ∀ l : List Text, (l ++ [[]]).filter ("#. ".toList).isPrefixOf =
      l.filter ("#. ".toList).isPrefixOf := by
    intro l
    rw [List.filter_append]
    exact List.append_nil _
  rw [Text.cutsLines_pieces.cut_text hc]
  show ((_ : List Text) ++ [[]]).filter _ = _
  rw [hblank, List.filter_flatMap]
  refine List.flatMap_congr fun e he => ?_
  rw [List.filter_append, Record.filter_map_self, hblank,
    Entry.pieces_uncommented (hplain e he), Entry.filter_lines_uncommented, List.append_nil]

/-- **Comments are safe lines of a catalog.** Whatever a comment is and whatever the tag, the lines
that are kept of it are not empty, do not end in white space and have no line break of any kind,
the first starts with the tag, and without a tag none is kept. The comments of all strings that are
found, in any dialect, are such lines. So a run that reads any files in any of the dialects, among
insertions whose comments are safe, leaves only safe comments in the catalog, and none twice for an
entry. In its text each of them is one line, behind `#. ` and before the lines that the entry has
without comments, both where lines end at every line break and where they end at line feeds alone;
and if no path and no flag has a line feed, then no other line starts that way. -/
theorem comments_take_one_line_each :
    (∀ tag s, TaggedSafely tag (taggedLines tag s)) ∧
    (∀ tag comment, TaggedSafely tag (commentLines tag comment)) ∧
    (∀ (tag : Option Text) (keys : List Text) (path content : Text) (d : Dialect),
      ∀ o ∈ occurrences (d.findings tag keys path content).events,
        TaggedSafely tag o.comments) ∧
    ∀ (tree : File.Tree) (before : Catalog) (steps : List Catalog.Step), before.SafeComments →
      (∀ i, .insert i ∈ steps → ∀ t ∈ i.comments, t.SafeLine) →
      let c := before.performAll tree steps
      c.SafeComments ∧
      Text.lines c.text =
        (c.entries.flatMap fun e => e.comments.map ("#. ".toList ++ ·) ++
          (Text.lines (e.uncommented c.pluralForms ++ ['\n']) ++ [[]])) ∧
      Text.pieces (· = '\n') c.text =
        (c.entries.flatMap fun e => e.comments.map ("#. ".toList ++ ·) ++
          (Text.pieces (· = '\n') (e.uncommented c.pluralForms) ++ [[]])) ++ [[]] ∧
      ((∀ e ∈ c.entries, Entry.OneLine { e with comments := [] }) →
        (Text.pieces (· = '\n') c.text).filter ("#. ".toList).isPrefixOf =
          c.entries.flatMap fun e => e.comments.map ("#. ".toList ++ ·)) := by
  refine ⟨taggedSafely_taggedLines, ?_, ?_, ?_⟩
  · intro tag comment
    exact (fromComment_commentLines tag comment).taggedSafely
  · intro tag keys path content d o ho
    exact (Dialect.fromComment_findings ho).taggedSafely
  · intro tree before steps hbefore hsteps c
    have hc : c.SafeComments := hbefore.performAll hsteps tree
    refine ⟨hc, ?_, Text.cutsLines_pieces.cut_text hc, hc.filter_pieces_text⟩
    rw [Text.cutsLines_lines.cut_text hc]
    exact List.append_nil _

/-- Files whose comments have a line of blanks, asterisks, and lines that end at a carriage return
with a line feed and at a line separator. -/
def commentedFiles : List Catalog.Step :=
  [.parse (some "NB".toList) [] .php "/a.php".toList
      "<?php /** NB: x \t\r\n  \n * y\u2028** z */ ts('m');".toList,
    .parse (some "NB".toList) [] .template "/b.tpl".toList
      "\x7b* NB: x\x0c w *\x7d \x7bts\x7dm\x7b/ts\x7d".toList]

/-- Two files have comments for one string, of which the second repeats a line of the first. -/
theorem comments_take_one_line_each_breaks :
    let before := Catalog.empty "/".toList none 2
    let c := before.performAll .empty commentedFiles
    before.SafeComments ∧
      c.entries.map Entry.comments =
        [["NB: x".toList, "y".toList, "* z".toList, "w".toList]] ∧
      (∀ e ∈ c.entries, Entry.OneLine { e with comments := [] }) ∧
      c.SafeComments ∧
      (Text.pieces (· = '\n') c.text).filter ("#. ".toList).isPrefixOf =
        ["#. NB: x".toList, "#. y".toList, "#. * z".toList, "#. w".toList] := by
  intro before c
  have hbefore : before.SafeComments := List.forall_mem_nil _
  have hentries : c.entries = [⟨"m".toList, none, none,
      [⟨3, "a.php".toList⟩, ⟨1, "b.tpl".toList⟩],
      ["NB: x".toList, "y".toList, "* z".toList, "w".toList], []⟩] := by decide +kernel
  have hplain : ∀ e ∈ c.entries, Entry.OneLine { e with comments := [] } := by
    rw [hentries]
    intro e he
    obtain rfl := List.mem_singleton.mp he
    exact ⟨by decide, by decide, by decide⟩
  obtain ⟨hc, -, -, hfilter⟩ := comments_take_one_line_each.2.2.2 .empty before commentedFiles
    hbefore (fun i hi => by simp [commentedFiles] at hi)
  refine ⟨hbefore, by rw [hentries]; rfl, hplain, hc, ?_⟩
  rw [hfilter hplain]
  show c.entries.flatMap _ = _
  rw [hentries]
  rfl

end MessageHarvest
