import MessageHarvest.Proofs.CatalogGrouping
import MessageHarvest.Proofs.RealLocation
import MessageHarvest.Proofs.TextParts

/-! # Catalog text can be read back

A decoder for catalog text: lines end at line feeds, a blank line ends the
block of an entry, and every line of a block starts with the keyword of its
field. The decoder knows neither the catalog nor its number of plural forms.
Reading what a catalog writes gives back its entries field by field, so the
text of a catalog says all about it but where one flag ends and the next one
starts: flags are written on one line with commas between them. -/
namespace MessageHarvest

namespace Text

/-! ## The decoder -/

/-- What follows a keyword at the start of a line. -/
def after? (word line : Text) : Option Text :=
  if word.isPrefixOf line then some (line.drop word.length) else none

/-- The character that an escaped one stands for in a catalog. -/
def catalogEscaped? (c : Char) : Option Char :=
  match c with
  | '\\' => some '\\'
  | '"' => some '"'
  | 'n' => some '\n'
  | 'r' => some '\r'
  | 't' => some '\t'
  | _ => none

/-- Reads up to the closing quote, which must be the last character. -/
def catalogUnescape? : Text → Option Text
  | [] => none
  | ['"'] => some []
  | '\\' :: c :: cs => (catalogEscaped? c).bind fun d => (catalogUnescape? cs).map (d :: ·)
  | c :: cs => if c = '"' || c = '\\' then none else (catalogUnescape? cs).map (c :: ·)

/-- Reads a text in the double quotes of a catalog. -/
def catalogUnquote? : Text → Option Text
  | '"' :: cs => catalogUnescape? cs
  | _ => none

/-- The integer that decimal digits write, with a minus sign or without. -/
def toInt : Text → Int
  | '-' :: digits => -(Nat.ofDigitChars 10 digits 0)
  | digits => Nat.ofDigitChars 10 digits 0

/-- The blocks of lines that blank lines end, and what is left after the last of them. -/
def blocks : List Text → List (List Text)
  | [] => [[]]
  | l :: ls =>
    if l = [] then [] :: blocks ls
    else match blocks ls with
      | [] => [[l]]
      | block :: blocks => (l :: block) :: blocks

end Text

/-- Reads a path and a line number, which stands after the last colon. -/
def Reference.ofText (s : Text) : Reference :=
  let digits := (s.reverse.takeWhile (· ≠ ':')).reverse
  ⟨Text.toInt digits, s.take (s.length - digits.length - 1)⟩

/-- What a block of catalog text says. Flags are one text, and `forms` are the lines that leave
room for the translations. -/
structure Record where
  comments : List Text
  references : List Reference
  flags : Option Text
  context : Option Text
  msgid : Text
  plural : Option Text
  forms : List Text
deriving DecidableEq

namespace Record

/-- What the lines with a keyword say. -/
def field (word : Text) (lines : List Text) : List Text := lines.filterMap (Text.after? word)

/-- Reads the lines of a block. -/
def ofLines? (lines : List Text) : Option Record :=
  ((field "msgid ".toList lines).head?.bind Text.catalogUnquote?).map fun msgid =>
    { comments := field "#. ".toList lines
      references := (field "#: ".toList lines).map Reference.ofText
      flags := (field "#, ".toList lines).head?
      context := (field "msgctxt ".toList lines).head?.bind Text.catalogUnquote?
      msgid
      plural := (field "msgid_plural ".toList lines).head?.bind Text.catalogUnquote?
      forms := lines.filter ("msgstr".toList).isPrefixOf }

end Record

/-- Reads catalog text. -/
def Catalog.decode (s : Text) : Option (List Record) :=
  ((Text.blocks (Text.pieces (· = '\n') s)).filter (· ≠ [])).mapM Record.ofLines?

/-- What a reader can tell of an entry in a catalog with so many plural forms. -/
def Entry.record (forms : Int) (e : Entry) : Record where
  comments := e.comments
  references := e.references
  flags := if e.flags = [] then none else some (Text.joinWith ", ".toList e.flags)
  context := e.context
  msgid := e.msgid
  plural := e.plural
  forms :=
    if e.plural.isSome then (List.range (max forms 1).toNat).map Entry.formLine
    else ["msgstr \"\"".toList]

/-! ## Quoted texts and numbers -/

namespace Text

theorem catalogUnescape?_cons {c : Char} (hq : c ≠ '"') (hb : c ≠ '\\') (cs : Text) :
    catalogUnescape? (c :: cs) = (catalogUnescape? cs).map (c :: ·) := by
  rw [catalogUnescape?.eq_def]
  split <;> simp_all

theorem catalogUnescape?_catalogChar (c : Char) (rest : Text) :
    catalogUnescape? (catalogChar c ++ rest) = (catalogUnescape? rest).map (c :: ·) := by
  fun_cases catalogChar c with
  | case6 _ hb hq _ _ _ => exact catalogUnescape?_cons hq hb rest
  | _ => rfl

theorem catalogUnquote?_catalogQuote (s : Text) : catalogUnquote? (catalogQuote s) = some s := by
  change catalogUnescape? (catalogEscape s ++ ['"']) = some s
  induction s with
  | nil => rfl
  | cons c s ih =>
    have he : catalogEscape (c :: s) = catalogChar c ++ catalogEscape s := rfl
    rw [he, List.append_assoc, catalogUnescape?_catalogChar, ih]
    rfl

theorem not_lineFeed_catalogQuote (s : Text) : '\n' ∉ catalogQuote s := by
  have hchar : ∀ c : Char, '\n' ∉ catalogChar c := by
    intro c
    fun_cases catalogChar c with
    | case6 _ _ _ hn _ _ => simpa using Ne.symm hn
    | _ => decide
  simp [catalogQuote, catalogEscape, hchar]

theorem isDigit_of_mem_ofNat {n : Nat} {c : Char} (h : c ∈ ofNat n) : c.isDigit = true :=
  Nat.isDigit_of_mem_toDigits (by decide) (by decide) h

theorem toInt_ofInt (n : Int) : toInt (ofInt n) = n := by
  unfold ofInt
  split
  · rename_i h
    simp only [toInt, ofNat, Nat.ofDigitChars_ten_toDigits]
    omega
  · rename_i h
    have hhead : ∀ ds, ofNat n.natAbs ≠ '-' :: ds := by
      intro ds he
      have := isDigit_of_mem_ofNat (he ▸ List.mem_cons_self : '-' ∈ ofNat n.natAbs)
      exact absurd this (by decide)
    have : toInt (ofNat n.natAbs) = Nat.ofDigitChars 10 (ofNat n.natAbs) 0 := by
      rw [toInt.eq_def]
      split
      · rename_i he; exact absurd he (hhead _)
      · rfl
    rw [this, ofNat, Nat.ofDigitChars_ten_toDigits]
    omega

theorem not_mem_ofInt {c : Char} (hd : c.isDigit = false) (hm : c ≠ '-') (n : Int) :
    c ∉ ofInt n := by
  have hnat : ∀ k, c ∉ ofNat k := by
    intro k h
    rw [isDigit_of_mem_ofNat h] at hd
    cases hd
  unfold ofInt
  split
  · simpa using ⟨hm, hnat _⟩
  · exact hnat _

end Text

theorem Reference.ofText_eq (r : Reference) :
    Reference.ofText (r.path ++ ':' :: Text.ofInt r.line) = r := by
  have htake : ((r.path ++ ':' :: Text.ofInt r.line).reverse.takeWhile (· ≠ ':')).reverse =
      Text.ofInt r.line := by
    have hno : ∀ c ∈ (Text.ofInt r.line).reverse, (decide (c ≠ ':')) = true := by
      intro c hc
      have := Text.not_mem_ofInt (c := ':') (by decide) (by decide) r.line
      simp only [decide_eq_true_eq]
      rintro rfl
      exact this (List.mem_reverse.mp hc)
    rw [List.reverse_append, List.reverse_cons, List.append_assoc,
      List.takeWhile_append_of_pos hno]
    simp
  unfold Reference.ofText
  simp only [htake, Text.toInt_ofInt]
  have : (r.path ++ ':' :: Text.ofInt r.line).length - (Text.ofInt r.line).length - 1 =
      r.path.length := by
    simp only [List.length_append, List.length_cons]
    omega
  rw [this, List.take_left]

/-! ## The lines of an entry -/

namespace Entry

/-- What stands after the keyword on each line that leaves room for a translation. -/
def formTexts (forms : Int) (e : Entry) : List Text :=
  if e.plural.isSome then
    (List.range (max forms 1).toNat).map fun n => '[' :: Text.ofNat n ++ "] \"\"".toList
  else [" \"\"".toList]

/-- The keywords of a block, each with what its lines say. -/
def parts (forms : Int) (e : Entry) : List (Text × List Text) :=
  [("#. ".toList, e.comments),
    ("#: ".toList, e.references.map fun r => r.path ++ ':' :: Text.ofInt r.line),
    ("#, ".toList, (e.record forms).flags.toList),
    ("msgctxt ".toList, e.context.toList.map Text.catalogQuote),
    ("msgid ".toList, [Text.catalogQuote e.msgid]),
    ("msgid_plural ".toList, e.plural.toList.map Text.catalogQuote),
    ("msgstr".toList, e.formTexts forms)]

/-- The lines of a block, keyword by keyword. -/
def partLines (parts : List (Text × List Text)) : List Text :=
  parts.flatMap fun part => part.2.map (part.1 ++ ·)

theorem map_formTexts (forms : Int) (e : Entry) :
    (e.formTexts forms).map ("msgstr".toList ++ ·) = (e.record forms).forms := by
  simp only [formTexts, record]
  by_cases hp : e.plural.isSome = true
  · rw [if_pos hp, if_pos hp, List.map_map]
    rfl
  · rw [if_neg hp, if_neg hp]
    rfl

theorem lines_eq_partLines (forms : Int) (e : Entry) :
    e.lines forms = partLines (e.parts forms) := by
  unfold lines partLines parts
  simp only [List.flatMap_cons, List.flatMap_nil, List.append_nil, map_formTexts]
  cases hf : e.flags <;> cases hp : e.plural <;>
    simp [record, hf, hp, List.map_map, Function.comp_def]

end Entry

/-! ## One keyword among others -/

namespace Record

/-- Neither word starts with the other. -/
def apart (v w : Text) : Bool := !v.isPrefixOf w && !w.isPrefixOf v

theorem field_map_self (word : Text) (texts : List Text) :
    field word (texts.map (word ++ ·)) = texts := by
  unfold field
  rw [List.filterMap_map]
  have : Text.after? word ∘ (word ++ ·) = some := by
    funext t
    simp [Text.after?, List.isPrefixOf_iff_prefix]
  rw [this, List.filterMap_some]

theorem not_isPrefixOf_append {v w : Text} (h : apart v w = true) (t : Text) :
    v.isPrefixOf (w ++ t) = false := by
  rw [apart, Bool.and_eq_true, Bool.not_eq_true', Bool.not_eq_true'] at h
  rw [Bool.eq_false_iff]
  intro hv
  rcases List.prefix_or_prefix_of_prefix (List.isPrefixOf_iff_prefix.mp hv)
    (List.prefix_append w t) with hp | hp
  · rw [List.isPrefixOf_iff_prefix.mpr hp] at h; cases h.1
  · rw [List.isPrefixOf_iff_prefix.mpr hp] at h; cases h.2

theorem field_map_apart {v w : Text} (h : apart v w = true) (texts : List Text) :
    field v (texts.map (w ++ ·)) = [] := by
  unfold field
  rw [List.filterMap_map, List.filterMap_eq_nil_iff]
  intro t _
  simp [Text.after?, not_isPrefixOf_append h]

theorem filter_map_apart {v w : Text} (h : apart v w = true) (texts : List Text) :
    (texts.map (w ++ ·)).filter v.isPrefixOf = [] := by
  rw [List.filter_eq_nil_iff]
  intro l hl
  obtain ⟨t, _, rfl⟩ := List.mem_map.mp hl
  rw [not_isPrefixOf_append h]
  decide

theorem field_append (word : Text) (ls ms : List Text) :
    field word (ls ++ ms) = field word ls ++ field word ms := List.filterMap_append

theorem filter_map_self (word : Text) (texts : List Text) :
    (texts.map (word ++ ·)).filter word.isPrefixOf = texts.map (word ++ ·) := by
  rw [List.filter_eq_self]
  intro l hl
  obtain ⟨t, _, rfl⟩ := List.mem_map.mp hl
  exact List.isPrefixOf_iff_prefix.mpr (List.prefix_append word t)

/-- Each field of a block is read from the lines of its own keyword. -/
theorem ofLines?_lines (forms : Int) (e : Entry) :
    ofLines? (e.lines forms) = some (e.record forms) := by
  have hquote : ∀ s : Option Text,
      (s.toList.map Text.catalogQuote).head?.bind Text.catalogUnquote? = s := by
    intro s
    cases s with
    | none => rfl
    | some t => exact Text.catalogUnquote?_catalogQuote t
  have hrefs : (e.references.map fun r => r.path ++ ':' :: Text.ofInt r.line).map
      Reference.ofText = e.references := by
    simp [List.map_map, Function.comp_def, Reference.ofText_eq]
  rw [Entry.lines_eq_partLines]
  unfold ofLines?
  simp (disch := decide) only [Entry.partLines, Entry.parts, List.flatMap_cons, List.flatMap_nil,
    List.append_nil, field_append, List.filter_append, field_map_self, field_map_apart,
    filter_map_apart, filter_map_self, List.nil_append, List.head?_cons, Option.bind_some,
    Text.catalogUnquote?_catalogQuote, Option.map_some, hquote, hrefs, Option.head?_toList]
  rw [Entry.map_formTexts]
  rfl

end Record

/-! ## Lines and blocks -/

namespace Text

theorem pieces_append_cons {isSeparator : Char → Bool} {s : Text} {c : Char} (rest : Text)
    (hs : ∀ d ∈ s, isSeparator d = false) (hc : isSeparator c = true) :
    pieces isSeparator (s ++ c :: rest) = s :: pieces isSeparator rest := by
  rw [pieces_append hc, pieces_eq_singleton hs, List.singleton_append]

theorem joinWith_cons_cons (separator s t : Text) (texts : List Text) :
    joinWith separator (s :: t :: texts) = s ++ separator ++ joinWith separator (t :: texts) := by
  simp [joinWith]

theorem pieces_joinWith {lines : List Text} (rest : Text) (hne : lines ≠ [])
    (hl : ∀ l ∈ lines, '\n' ∉ l) :
    pieces (· = '\n') (joinWith ['\n'] lines ++ '\n' :: rest) =
      lines ++ pieces (· = '\n') rest := by
  have hfree : ∀ l ∈ lines, ∀ d ∈ l, decide (d = '\n') = false := by
    intro l hm d hd
    exact decide_eq_false fun he => hl l hm (he ▸ hd)
  induction lines with
  | nil => exact absurd rfl hne
  | cons l lines ih =>
    cases lines with
    | nil =>
      simpa [joinWith] using pieces_append_cons rest (hfree l List.mem_cons_self) (by decide)
    | cons m lines =>
      rw [joinWith_cons_cons, List.append_assoc, List.append_assoc, List.singleton_append,
        pieces_append_cons _ (hfree l List.mem_cons_self) (by decide),
        ih (List.cons_ne_nil m lines) (fun l hm => hl l (List.mem_cons_of_mem _ hm))
          (fun l hm => hfree l (List.mem_cons_of_mem _ hm))]
      rfl

theorem mem_joinWith {separator : Text} {texts : List Text} {c : Char}
    (h : c ∈ joinWith separator texts) : c ∈ separator ∨ ∃ t ∈ texts, c ∈ t := by
  induction texts with
  | nil => simp [joinWith] at h
  | cons s texts ih =>
    cases texts with
    | nil => exact .inr ⟨s, List.mem_cons_self, by simpa [joinWith] using h⟩
    | cons t texts =>
      rw [joinWith_cons_cons, List.mem_append, List.mem_append] at h
      rcases h with (h | h) | h
      · exact .inr ⟨s, List.mem_cons_self, h⟩
      · exact .inl h
      · rcases ih h with h | ⟨u, hu, hc⟩
        · exact .inl h
        · exact .inr ⟨u, List.mem_cons_of_mem s hu, hc⟩

theorem blocks_append_blank {lines : List Text} (rest : List Text) (hl : [] ∉ lines) :
    blocks (lines ++ [] :: rest) = lines :: blocks rest := by
  induction lines with
  | nil => simp [blocks]
  | cons l lines ih =>
    obtain ⟨hne, hrest⟩ := List.ne_and_not_mem_of_not_mem_cons hl
    rw [List.cons_append, blocks, ih hrest, if_neg (Ne.symm hne)]

end Text

namespace Entry

/-- The comments, the places and the flags of the entry stand on one line each. -/
structure OneLine (e : Entry) : Prop where
  comments : ∀ t ∈ e.comments, '\n' ∉ t
  references : ∀ r ∈ e.references, '\n' ∉ r.path
  flags : ∀ t ∈ e.flags, '\n' ∉ t

theorem lines_ne_nil (forms : Int) (e : Entry) : e.lines forms ≠ [] := by
  simp [lines]

theorem nil_not_mem_lines (forms : Int) (e : Entry) : [] ∉ e.lines forms := by
  rw [lines_eq_partLines]
  simp [partLines, parts]

/-- No part of the block has a line feed. -/
theorem OneLine.parts {e : Entry} (h : e.OneLine) (forms : Int) :
    ∀ part ∈ e.parts forms, '\n' ∉ part.1 ∧ ∀ t ∈ part.2, '\n' ∉ t := by
  have hquote : ∀ (s : List Text), ∀ t ∈ s.map Text.catalogQuote, '\n' ∉ t := by
    intro s t ht
    obtain ⟨u, _, rfl⟩ := List.mem_map.mp ht
    exact Text.not_lineFeed_catalogQuote u
  have hint : ∀ n, '\n' ∉ Text.ofInt n := Text.not_mem_ofInt (by decide) (by decide)
  unfold Entry.parts
  simp only [List.forall_mem_cons, List.not_mem_nil, false_implies, implies_true, and_true]
  refine ⟨⟨by decide, h.comments⟩, ⟨by decide, ?_⟩, ⟨by decide, ?_⟩, ⟨by decide, hquote _⟩,
    ⟨by decide, Text.not_lineFeed_catalogQuote e.msgid⟩, ⟨by decide, hquote _⟩,
    ⟨by decide, ?_⟩⟩
  · intro t ht
    obtain ⟨r, hr, rfl⟩ := List.mem_map.mp ht
    simp [h.references r hr, hint]
  · intro t ht hn
    unfold record at ht
    split at ht
    · cases ht
    · obtain rfl := List.mem_singleton.mp ht
      rcases Text.mem_joinWith hn with hn | ⟨f, hf, hn⟩
      · exact absurd hn (by decide)
      · exact h.flags f hf hn
  · intro t ht hn
    have hnat : ∀ n, '\n' ∉ Text.ofNat n := fun n hm =>
      absurd (Text.isDigit_of_mem_ofNat hm) (by decide)
    unfold formTexts at ht
    split at ht
    · obtain ⟨n, _, rfl⟩ := List.mem_map.mp ht
      simp [hnat] at hn
    · obtain rfl := List.mem_singleton.mp ht
      exact absurd hn (by decide)

theorem OneLine.lines {e : Entry} (h : e.OneLine) (forms : Int) :
    ∀ l ∈ e.lines forms, '\n' ∉ l := by
  rw [lines_eq_partLines]
  intro l hl
  obtain ⟨part, hpart, hl⟩ := List.mem_flatMap.mp hl
  obtain ⟨t, ht, rfl⟩ := List.mem_map.mp hl
  obtain ⟨hword, htexts⟩ := h.parts forms part hpart
  rw [List.mem_append, not_or]
  exact ⟨hword, htexts t ht⟩

end Entry

/-! ## Reading a catalog -/

namespace Catalog

theorem blocks_entries {entries : List Entry} (forms : Int) (h : ∀ e ∈ entries, e.OneLine) :
    Text.blocks (Text.pieces (· = '\n') (entries.flatMap fun e =>
      Text.joinWith ['\n'] (e.lines forms) ++ ['\n', '\n'])) =
      entries.map (Entry.lines · forms) ++ [[], []] := by
  induction entries with
  | nil => rfl
  | cons e entries ih =>
    rw [List.flatMap_cons, List.append_assoc, List.cons_append,
      Text.pieces_joinWith _ (e.lines_ne_nil forms) ((h e List.mem_cons_self).lines forms),
      List.singleton_append, ← List.nil_append (_ :: _),
      Text.pieces_append_cons _ (by simp) (by decide),
      Text.blocks_append_blank _ (e.nil_not_mem_lines forms),
      ih fun e he => h e (List.mem_cons_of_mem _ he)]
    rfl

theorem mapM_ofLines? (forms : Int) (entries : List Entry) :
    (entries.map (Entry.lines · forms)).mapM Record.ofLines? =
      some (entries.map (Entry.record forms)) := by
  induction entries with
  | nil => rfl
  | cons e entries ih =>
    rw [List.map_cons, List.mapM_cons, Record.ofLines?_lines, ih]
    rfl

/-- The decoder gives back what a catalog of one-line entries says. -/
theorem decode_text {c : Catalog} (h : ∀ e ∈ c.entries, e.OneLine) :
    decode c.text = some (c.entries.map (Entry.record c.pluralForms)) := by
  have hlines : ((c.entries.map (Entry.lines · c.pluralForms)) ++ [[], []]).filter (· ≠ []) =
      c.entries.map (Entry.lines · c.pluralForms) := by
    have hne : ∀ l ∈ c.entries.map (Entry.lines · c.pluralForms), decide (l ≠ []) = true := by
      intro l hl
      obtain ⟨e, _, rfl⟩ := List.mem_map.mp hl
      exact decide_eq_true (e.lines_ne_nil c.pluralForms)
    rw [List.filter_append, List.filter_eq_self.mpr hne]
    simp
  rw [decode, text, blocks_entries c.pluralForms h, hlines, mapM_ofLines?]

end Catalog

/-! ## Runs of insertions -/

/-- The comments and the flags of an insertion have no line feed, and neither has the path that
the catalog refers to it by. -/
structure Insertion.OneLine (tree : File.Tree) (base : Text) (i : Insertion) : Prop where
  path : '\n' ∉ tree.relativePath base i.path
  comments : ∀ t ∈ i.comments, '\n' ∉ t
  flags : ∀ t ∈ i.flags, '\n' ∉ t

/-- A path without line feeds is enough where neither the working directory nor a link has one. -/
theorem Insertion.oneLine_of_path {tree : File.Tree} {i : Insertion}
    (hl : tree.LinksHold ('\n' ∉ ·)) (hw : ∀ n ∈ tree.workDir, '\n' ∉ n) (base : Text)
    (hp : '\n' ∉ i.path) (hc : ∀ t ∈ i.comments, '\n' ∉ t) (hf : ∀ t ∈ i.flags, '\n' ∉ t) :
    i.OneLine tree base := by
  refine ⟨?_, hc, hf⟩
  have hnames : ∀ n ∈ File.names i.path, '\n' ∉ n :=
    fun n hn hm => hp (Text.mem_of_mem_pieces hn hm)
  have hreal := File.Tree.forall_mem_realLocation hl hw hnames
  unfold File.Tree.relativePath File.showNames
  split
  · decide
  · intro hm
    rcases Text.mem_joinWith hm with hm | ⟨n, hn, hm⟩
    · exact absurd hm (by decide)
    · rcases File.Location.mem_relativeTo hn with rfl | hn
      · exact absurd hm (by decide)
      · exact hreal n hn hm

namespace Catalog

theorem mem_distinct {t : Text} {texts : List Text} :
    t ∈ distinct texts ↔ t ∈ texts ∧ t ≠ [] := by
  simp [distinct]

theorem oneLine_entryOf {tree : File.Tree} {base : Text} {key : Key} {group : List Insertion}
    (h : ∀ i ∈ group, i.OneLine tree base) : (entryOf tree base key group).OneLine where
  comments := by
    intro t ht
    obtain ⟨i, hi, ht⟩ := List.mem_flatMap.mp (mem_distinct.mp ht).1
    exact (h i hi).comments t ht
  references := by
    intro r hr
    obtain ⟨i, hi, rfl⟩ := List.mem_map.mp (List.mem_eraseDups.mp hr)
    exact (h i hi).path
  flags := by
    intro t ht
    obtain ⟨i, hi, ht⟩ := List.mem_flatMap.mp (mem_distinct.mp ht).1
    exact (h i hi).flags t ht

theorem mem_entries_grouping {tree : File.Tree} {base : Text} {context : Option Text}
    {forms : Int} {calls : List Insertion} {e : Entry}
    (h : e ∈ (grouping tree base context forms calls).entries) :
    ∃ key, e = entryOf tree base key (groupOf context key calls) := by
  obtain ⟨key, _, rfl⟩ := List.mem_map.mp h
  exact ⟨key, rfl⟩

theorem oneLine_of_mem_grouping {tree : File.Tree} {base : Text} {context : Option Text}
    {forms : Int} {calls : List Insertion} (h : ∀ i ∈ calls, i.OneLine tree base) :
    ∀ e ∈ (grouping tree base context forms calls).entries, e.OneLine := by
  intro e he
  obtain ⟨key, rfl⟩ := mem_entries_grouping he
  exact oneLine_entryOf fun i hi => h i (List.mem_filter.mp hi).1

end Catalog

/-! ## Flags on one line -/

namespace Text

/-- A comma and a blank after it stand nowhere in the text. -/
def CommaFree (s : Text) : Prop := ¬ ", ".toList <:+: s

theorem length_le_of_append_comma {s t x y : Text} (ht : t.CommaFree)
    (h : s ++ (", ".toList ++ x) = t ++ (", ".toList ++ y)) : t.length ≤ s.length := by
  rcases List.append_eq_append_iff.mp h with ⟨r, rfl, hr⟩ | ⟨r, rfl, _⟩
  · -- what `t` has more than `s` would start with the separator, or meet it halfway
    match r, hr with
    | [], _ => simp
    | [a], hr => simp at hr
    | a :: b :: r, hr =>
      change ',' :: ' ' :: x = a :: b :: (r ++ (", ".toList ++ y)) at hr
      simp only [List.cons.injEq] at hr
      obtain ⟨rfl, rfl, _⟩ := hr
      exact absurd (List.infix_append' s ", ".toList r) ht
  · simp

theorem append_comma_inj {s t x y : Text} (hs : s.CommaFree) (ht : t.CommaFree)
    (h : s ++ (", ".toList ++ x) = t ++ (", ".toList ++ y)) : s = t ∧ x = y := by
  have hlen := Nat.le_antisymm (length_le_of_append_comma hs h.symm)
    (length_le_of_append_comma ht h)
  obtain ⟨hst, hxy⟩ := List.append_inj h hlen
  exact ⟨hst, List.append_cancel_left hxy⟩

theorem not_commaFree_joinWith (s t : Text) (texts : List Text) :
    ¬ CommaFree (joinWith ", ".toList (s :: t :: texts)) := by
  rw [joinWith_cons_cons]
  exact fun h => h (List.infix_append s ", ".toList _)

/-- Flags without a separator in them are known from the line that joins them. -/
theorem joinWith_comma_inj {texts others : List Text} (h : ∀ t ∈ texts, t.CommaFree)
    (ho : ∀ t ∈ others, t.CommaFree) (hne : texts ≠ []) (hone : others ≠ [])
    (he : joinWith ", ".toList texts = joinWith ", ".toList others) : texts = others := by
  induction texts generalizing others with
  | nil => exact absurd rfl hne
  | cons s texts ih =>
    have hs := h s List.mem_cons_self
    match texts, others with
    | _, [] => exact absurd rfl hone
    | [], [t] => simpa [joinWith] using he
    | [], t :: u :: others =>
      exact absurd (he ▸ by simpa [joinWith] using hs) (not_commaFree_joinWith t u others)
    | u :: texts, [t] =>
      have ht := ho t List.mem_cons_self
      exact absurd (he ▸ by simpa [joinWith] using ht) (not_commaFree_joinWith s u texts)
    | u :: texts, t :: v :: others =>
      rw [joinWith_cons_cons, joinWith_cons_cons, List.append_assoc, List.append_assoc] at he
      obtain ⟨rfl, hrest⟩ := append_comma_inj hs (ho t List.mem_cons_self) he
      rw [ih (fun t ht => h t (List.mem_cons_of_mem s ht))
        (fun t ht => ho t (List.mem_cons_of_mem _ ht)) (List.cons_ne_nil u texts)
        (List.cons_ne_nil v others) hrest]

end Text

/-! ## What the text tells -/

namespace Entry

/-- The entry without its flags. -/
def withoutFlags (e : Entry) : Entry := { e with flags := [] }

/-- How the flags of the entry are written, if there are any. -/
def flagText (e : Entry) : Option Text :=
  if e.flags = [] then none else some (Text.joinWith ", ".toList e.flags)

/-- A record as an entry without flags. -/
def ofRecord (r : Record) : Entry :=
  ⟨r.msgid, r.plural, r.context, r.references, r.comments, []⟩

theorem ofRecord_record (forms : Int) (e : Entry) : ofRecord (e.record forms) = e.withoutFlags :=
  rfl

theorem flags_record (forms : Int) (e : Entry) : (e.record forms).flags = e.flagText := rfl

theorem record_max (forms : Int) (e : Entry) : e.record (max forms 1) = e.record forms := by
  unfold record
  rw [Int.max_assoc, Int.max_self]

theorem flags_inj {e e' : Entry} (h : ∀ t ∈ e.flags, t.CommaFree)
    (h' : ∀ t ∈ e'.flags, t.CommaFree) (he : e.flagText = e'.flagText) : e.flags = e'.flags := by
  unfold flagText at he
  split at he <;> split at he
  · simp_all
  · cases he
  · cases he
  · rename_i hne hne'
    exact Text.joinWith_comma_inj h h' hne hne' (Option.some.inj he)

theorem record_inj {forms forms' : Int} {e e' : Entry} (h : ∀ t ∈ e.flags, t.CommaFree)
    (h' : ∀ t ∈ e'.flags, t.CommaFree) (he : e.record forms = e'.record forms') : e = e' := by
  have hbare : e.withoutFlags = e'.withoutFlags := congrArg ofRecord he
  have hflags := flags_inj h h' (congrArg Record.flags he)
  cases e; cases e'
  simp_all [withoutFlags]

theorem map_record_inj {forms forms' : Int} {es es' : List Entry}
    (h : ∀ e ∈ es, ∀ t ∈ e.flags, t.CommaFree) (h' : ∀ e ∈ es', ∀ t ∈ e.flags, t.CommaFree)
    (he : es.map (record forms) = es'.map (record forms')) : es = es' := by
  induction es generalizing es' with
  | nil => simpa using he.symm
  | cons e es ih =>
    cases es' with
    | nil => simp at he
    | cons e' es' =>
      rw [List.map_cons, List.map_cons, List.cons.injEq] at he
      rw [record_inj (h e List.mem_cons_self) (h' e' List.mem_cons_self) he.1,
        ih (fun e he => h e (List.mem_cons_of_mem _ he))
          (fun e he => h' e (List.mem_cons_of_mem _ he)) he.2]

end Entry

namespace Catalog

theorem decode_text_grouping {tree : File.Tree} {base : Text} {context : Option Text}
    {forms : Int} {calls : List Insertion} (h : ∀ i ∈ calls, i.OneLine tree base) :
    decode (grouping tree base context forms calls).text =
      some ((grouping tree base context forms calls).entries.map (Entry.record forms)) := by
  have hforms : Entry.record (max forms 1) = Entry.record forms :=
    funext (Entry.record_max forms)
  rw [decode_text (oneLine_of_mem_grouping h), ← hforms]
  rfl

theorem commaFree_of_mem_grouping {tree : File.Tree} {base : Text} {context : Option Text}
    {forms : Int} {calls : List Insertion} (h : ∀ i ∈ calls, ∀ t ∈ i.flags, t.CommaFree) :
    ∀ e ∈ (grouping tree base context forms calls).entries, ∀ t ∈ e.flags, t.CommaFree := by
  intro e he t ht
  obtain ⟨key, rfl⟩ := mem_entries_grouping he
  obtain ⟨i, hi, ht⟩ := List.mem_flatMap.mp (mem_distinct.mp ht).1
  exact h i (List.mem_filter.mp hi).1 t ht

/-- **The text of a catalog can be read back.** After any run of insertions
that stand on one line each, the decoder gives every entry in order: comments,
references, context, text and plural, with what is absent told from what is
empty, its line of flags, and the lines for translations: one for each plural
form if there is a plural, and one otherwise. Two catalogs with equal text
therefore have the same entries, with flags that are written the same way; and
the same flags too, where no flag has the separator in it. -/
theorem decode_text_addAll {tree : File.Tree} {base : Text} {context : Option Text}
    {forms : Int} {calls : List Insertion} (h : ∀ i ∈ calls, i.OneLine tree base) :
    decode ((empty base context forms).addAll tree calls).text =
      some (((empty base context forms).addAll tree calls).entries.map (Entry.record forms)) ∧
    ∀ (tree' : File.Tree) (base' : Text) (context' : Option Text) (forms' : Int)
      (calls' : List Insertion), (∀ i ∈ calls', i.OneLine tree' base') →
      ((empty base context forms).addAll tree calls).text =
        ((empty base' context' forms').addAll tree' calls').text →
      ((empty base context forms).addAll tree calls).entries.map Entry.withoutFlags =
        ((empty base' context' forms').addAll tree' calls').entries.map Entry.withoutFlags ∧
      ((empty base context forms).addAll tree calls).entries.map Entry.flagText =
        ((empty base' context' forms').addAll tree' calls').entries.map Entry.flagText ∧
      ((∀ i ∈ calls ++ calls', ∀ t ∈ i.flags, t.CommaFree) →
        ((empty base context forms).addAll tree calls).entries =
          ((empty base' context' forms').addAll tree' calls').entries) := by
  simp only [addAll_empty]
  refine ⟨decode_text_grouping h, ?_⟩
  intro tree' base' context' forms' calls' h' htext
  have hrecords := congrArg decode htext
  rw [decode_text_grouping h, decode_text_grouping h'] at hrecords
  replace hrecords := Option.some.inj hrecords
  refine ⟨?_, ?_, ?_⟩
  · simpa [List.map_map, Function.comp_def, Entry.ofRecord_record] using
      congrArg (List.map Entry.ofRecord) hrecords
  · simpa [List.map_map, Function.comp_def, Entry.flags_record] using
      congrArg (List.map Record.flags) hrecords
  · intro hfree
    exact Entry.map_record_inj
      (commaFree_of_mem_grouping fun i hi => hfree i (List.mem_append_left _ hi))
      (commaFree_of_mem_grouping fun i hi => hfree i (List.mem_append_right _ hi)) hrecords

/-- Quotes, escapes, colons and keywords in the texts do not mislead the decoder. -/
theorem decode_text_addAll_hostile :
    (∀ i ∈ [(⟨⟨⟨"msgid \"\\\n\t".toList, -3, some [], some []⟩, ["#: a:1".toList]⟩,
        "a:2/b".toList, ["x,".toList]⟩ : Insertion)],
      i.OneLine File.Tree.empty "/p".toList) ∧
    decode ((empty "/p".toList none 2).addAll File.Tree.empty
      [⟨⟨⟨"msgid \"\\\n\t".toList, -3, some [], some []⟩, ["#: a:1".toList]⟩,
        "a:2/b".toList, ["x,".toList]⟩]).text =
      some [⟨["#: a:1".toList], [⟨-3, "../a:2/b".toList⟩], some "x,".toList, some [],
        "msgid \"\\\n\t".toList, some [],
        ["msgstr[0] \"\"".toList, "msgstr[1] \"\"".toList]⟩] := by
  have h : ∀ i ∈ [(⟨⟨⟨"msgid \"\\\n\t".toList, -3, some [], some []⟩, ["#: a:1".toList]⟩,
      "a:2/b".toList, ["x,".toList]⟩ : Insertion)], i.OneLine File.Tree.empty "/p".toList := by
    intro i hi
    obtain rfl := List.mem_singleton.mp hi
    exact Insertion.oneLine_of_path (by simp [File.Tree.LinksHold, File.Tree.empty])
      (by simp [File.Tree.empty]) _ (by decide) (by decide) (by decide)
  exact ⟨h, (decode_text_addAll h).1.trans (by decide +kernel)⟩

/-- Flags that hold the separator can be told apart in no way: the catalogs of one flag and of two
have the same text. -/
theorem equal_text_different_flags :
    ¬ ∀ calls calls' : List Insertion,
      (∀ i ∈ calls, i.OneLine File.Tree.empty "/p".toList) →
      (∀ i ∈ calls', i.OneLine File.Tree.empty "/p".toList) →
      ((empty "/p".toList none 2).addAll File.Tree.empty calls).text =
        ((empty "/p".toList none 2).addAll File.Tree.empty calls').text →
      ((empty "/p".toList none 2).addAll File.Tree.empty calls).entries =
        ((empty "/p".toList none 2).addAll File.Tree.empty calls').entries := by
  intro h
  have hline : ∀ flags : List Text, (∀ t ∈ flags, '\n' ∉ t) →
      ∀ i ∈ [(⟨⟨⟨"m".toList, 1, none, none⟩, []⟩, "/p/a".toList, flags⟩ : Insertion)],
        i.OneLine File.Tree.empty "/p".toList := by
    intro flags hf i hi
    obtain rfl := List.mem_singleton.mp hi
    exact Insertion.oneLine_of_path (by simp [File.Tree.LinksHold, File.Tree.empty])
      (by simp [File.Tree.empty]) _ (by simp) (by simp) hf
  have := h _ _ (hline ["a, b".toList] (by decide)) (hline ["a".toList, "b".toList] (by decide))
    (by decide +kernel)
  exact absurd this (by decide +kernel)

end Catalog

end MessageHarvest
