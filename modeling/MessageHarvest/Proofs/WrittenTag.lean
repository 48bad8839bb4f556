import MessageHarvest.Proofs.BraceTags
import MessageHarvest.Proofs.BalancedTokens
import MessageHarvest.Proofs.PhpQuoting
import MessageHarvest.Proofs.SkippedRegions

/-! # Tags of templates that are written and read back

A tag is written with its attributes in any order, each behind white space and
with its value between apostrophes, and its text is an attribute or stands in a
block, where each brace is written by its tag. Reading gives exactly one
string, with the text, context and plural that were written. The attributes
stay in step, since each is read as a whole whatever its value looks like
(`attribute?_source`), and no end of a tag or of a block is written by the way
(`not_mem_source`, `not_infix_of_closeTag`). -/
namespace MessageHarvest

theorem Keyed.get?_perm {α : Type} {items other : Keyed α} (h : items.Perm other)
    (hkeys : (items.map Prod.fst).Nodup) (key : Text) : items.get? key = other.get? key := by
  induction h with
  | nil => rfl
  | cons item _ ih =>
    have hrest := ih (List.nodup_cons.mp hkeys).2
    unfold Keyed.get? at hrest ⊢
    rw [List.lookup_cons, List.lookup_cons, hrest]
  | swap first second items =>
    have hne : second.1 ≠ first.1 := fun heq =>
      (List.nodup_cons.mp hkeys).1 (List.mem_cons.mpr (.inl heq))
    unfold Keyed.get?
    rw [List.lookup_cons, List.lookup_cons, List.lookup_cons, List.lookup_cons]
    cases hfirst : key == first.1 with
    | false => rfl
    | true =>
      have hsecond : (key == second.1) = false := by
        rw [beq_iff_eq.mp hfirst]
        exact beq_false_of_ne hne.symm
      rw [hsecond]
  | trans h _ ihfirst ihsecond =>
    rw [ihfirst hkeys, ihsecond ((h.map Prod.fst).nodup_iff.mp hkeys)]

namespace Smarty

/-! ## What is written -/

/-- An attribute as it is written: behind white space, with its value between apostrophes. -/
structure WrittenAttribute where
  gap : Text
  name : Text
  value : Text
  gap_ne_nil : gap ≠ []
  gap_isSpace : ∀ c ∈ gap, Text.isSpace c = true

namespace WrittenAttribute

/-- Name and value. -/
def pair (a : WrittenAttribute) : Text × Text := (a.name, a.value)

/-- The attribute without the white space before it. Apostrophes and backslashes of the value have a
backslash before them. -/
def assignment (a : WrittenAttribute) : Text :=
  a.name ++ '=' :: Php.Quoting.single.literal a.value

/-- The attribute. -/
def source (a : WrittenAttribute) : Text := a.gap ++ a.assignment

end WrittenAttribute

/-- The attributes one after the other. -/
def attributeSource (written : List WrittenAttribute) : Text :=
  written.flatMap WrittenAttribute.source

/-- A tag with its attributes. -/
def tagSource (written : List WrittenAttribute) : Text :=
  "\x7bts".toList ++ attributeSource written ++ "\x7d".toList

/-- The text with its braces written by tags. -/
def bracedText (text : Text) : Text :=
  text.flatMap fun c => if c = '{' then leftBraceTag else if c = '}' then rightBraceTag else [c]

/-- A tag, the text of its block, and the end of the block. -/
def blockSource (written : List WrittenAttribute) (text : Text) : Text :=
  tagSource written ++ bracedText text ++ closeTag

/-- The attributes for a context and a plural, of which each may be absent. -/
def optionPairs (context plural : Option Text) : List (Text × Text) :=
  (context.toList.map fun text => ("context".toList, text)) ++
    plural.toList.map fun text => ("plural".toList, text)

/-! ## The attributes -/

/-- The code points of white space. -/
def spaceCodes : List Nat :=
  [0x09, 0x0A, 0x0B, 0x0C, 0x0D, 0x20, 0x85, 0xA0, 0x1680, 0x2000, 0x2001, 0x2002, 0x2003, 0x2004,
    0x2005, 0x2006, 0x2007, 0x2008, 0x2009, 0x200A, 0x2028, 0x2029, 0x202F, 0x205F, 0x3000]

theorem toNat_mem_spaceCodes {c : Char} (h : Text.isSpace c = true) : c.toNat ∈ spaceCodes := by
  simp only [Text.isSpace, Bool.or_eq_true, Bool.and_eq_true, decide_eq_true_eq, beq_iff_eq] at h
  simp only [spaceCodes, List.mem_cons, List.not_mem_nil, or_false]
  omega

/-- White space is no part of a name, and no brace. -/
theorem isNamePart_of_isSpace {c : Char} (h : Text.isSpace c = true) :
    isNamePart c = false ∧ c ≠ '}' := by
  have hall : ∀ n ∈ spaceCodes, isNamePart (Char.ofNat n) = false ∧ Char.ofNat n ≠ '}' := by
    decide +kernel
  have hc := hall c.toNat (toNat_mem_spaceCodes h)
  rwa [Char.ofNat_toNat] at hc

theorem singleValue_escape (s : Text) : singleValue (Php.Quoting.single.escape s) = s := by
  have hspecial : (fun c : Char => (c = '\'' || c = '\\' : Bool)) =
      fun c => c = '\\' || c = '\'' := by
    funext c
    exact Bool.or_comm _ _
  rw [singleValue, hspecial, Php.unescape_escape]

/-- A value between apostrophes is read as what was written, whatever follows it. -/
theorem value?_literal (s rest : Text) :
    value? (Php.Quoting.single.literal s ++ rest) =
      some (some s, (Php.Quoting.single.literal s).length) := by
  have hclose := Php.Quoting.single.closingQuote?_escape s rest
  have hsource : Php.Quoting.single.literal s ++ rest =
      '\'' :: (Php.Quoting.single.escape s ++ '\'' :: rest) := by
    simp [Php.Quoting.literal, Php.Quoting.mark]
  have hlength : (Php.Quoting.single.literal s).length =
      (Php.Quoting.single.escape s).length + 1 + 1 := by
    simp [Php.Quoting.literal]
  simp only [Php.Quoting.mark] at hclose
  rw [hsource, hlength]
  simp only [value?, hclose, Option.map_some, Nat.add_sub_cancel, List.take_left,
    singleValue_escape]

theorem takeWhile_append_stop {p : Char → Bool} {w : Text} (hw : ∀ c ∈ w, p c = true) {d : Char}
    (hd : p d = false) (rest : Text) : (w ++ d :: rest).takeWhile p = w := by
  rw [List.takeWhile_append_of_pos hw, List.takeWhile_cons_of_neg (by simp [hd]), List.append_nil]

/-- An attribute is read as a whole, whatever its value looks like. -/
theorem attribute?_source {a : WrittenAttribute} (hne : a.name ≠ [])
    (hname : ∀ c ∈ a.name, isNamePart c = true) (rest : Text) :
    attribute? (a.assignment ++ rest) = some ((a.name, some a.value), a.assignment.length) := by
  have hsource : a.assignment ++ rest =
      a.name ++ '=' :: (Php.Quoting.single.literal a.value ++ rest) := by
    simp [WrittenAttribute.assignment]
  have hlength : a.assignment.length =
      a.name.length + 0 + 1 + 0 + (Php.Quoting.single.literal a.value).length := by
    simp only [WrittenAttribute.assignment, List.length_append, List.length_cons]
    omega
  have htake : (a.name ++ '=' :: (Php.Quoting.single.literal a.value ++ rest)).takeWhile
      isNamePart = a.name := takeWhile_append_stop hname (by decide +kernel) _
  have hstart : ((Php.Quoting.single.literal a.value ++ rest).takeWhile Text.isSpace).length = 0 :=
    rfl
  obtain ⟨c, cs, hcons⟩ := List.exists_cons_of_ne_nil hne
  rw [hsource, hlength, attribute?]
  simp only [htake, List.drop_left]
  rw [hcons]
  show (value? ((Php.Quoting.single.literal a.value ++ rest).drop _)).map _ = _
  rw [hstart, List.drop_zero, value?_literal]
  rfl

/-- White space between attributes is passed over. -/
theorem attributeList_gap {gap : Text} (hgap : ∀ c ∈ gap, Text.isSpace c = true) (s : Text) :
    attributeList (gap ++ s) = attributeList s := by
  induction gap with
  | nil => rfl
  | cons c gap ih =>
    obtain ⟨hc, hgap⟩ := List.forall_mem_cons.mp hgap
    have hnone : attribute? (c :: (gap ++ s)) = none := by
      have hname : (c :: (gap ++ s)).takeWhile isNamePart = [] :=
        List.takeWhile_cons_of_neg (by simp [(isNamePart_of_isSpace hc).1])
      simp only [attribute?, hname]
    rw [List.cons_append, attributeList, hnone]
    exact ih hgap

theorem attributeList_source {a : WrittenAttribute} (hne : a.name ≠ [])
    (hname : ∀ c ∈ a.name, isNamePart c = true) (rest : Text) :
    attributeList (a.source ++ rest) = (a.name, some a.value) :: attributeList rest := by
  have hread := attribute?_source hne hname rest
  rw [WrittenAttribute.source, List.append_assoc, attributeList_gap a.gap_isSpace]
  obtain ⟨c, cs, hcons⟩ : ∃ c cs, a.assignment = c :: cs := by
    obtain ⟨c, cs, hcons⟩ := List.exists_cons_of_ne_nil hne
    exact ⟨c, _, by rw [WrittenAttribute.assignment, hcons, List.cons_append]⟩
  rw [hcons, List.cons_append] at hread ⊢
  rw [attributeList, hread]
  simp

/-- The attributes are read in the order in which they are written. -/
theorem attributeList_attributeSource {written : List WrittenAttribute}
    (hnames : ∀ a ∈ written, a.name ≠ [] ∧ ∀ c ∈ a.name, isNamePart c = true) :
    attributeList (attributeSource written) = written.map fun a => (a.name, some a.value) := by
  induction written with
  | nil => rw [attributeSource, List.flatMap_nil, attributeList]; rfl
  | cons a written ih =>
    obtain ⟨⟨hne, hname⟩, hrest⟩ := List.forall_mem_cons.mp hnames
    have htail := ih hrest
    rw [attributeSource] at htail ⊢
    rw [List.flatMap_cons, attributeList_source hne hname, htail, List.map_cons]

/-- In attributes that are written nothing ends the tag, if the values do not. -/
theorem not_mem_source {written : List WrittenAttribute} (hnames : ∀ a ∈ written, '}' ∉ a.name)
    (hvalues : ∀ a ∈ written, '}' ∉ a.value) : '}' ∉ attributeSource written := by
  intro hmem
  obtain ⟨a, ha, hmem⟩ := List.mem_flatMap.mp hmem
  have hgap : '}' ∉ a.gap := fun h => (isNamePart_of_isSpace (a.gap_isSpace _ h)).2 rfl
  have hvalue : '}' ∉ Php.Quoting.single.escape a.value := by
    intro h
    obtain ⟨c, hc, hmem⟩ := List.mem_flatMap.mp h
    have hne : c ≠ '}' := fun heq => hvalues a ha (heq ▸ hc)
    split at hmem
    · simp [hne.symm] at hmem
    · simp [hne.symm] at hmem
  simp [WrittenAttribute.source, WrittenAttribute.assignment, Php.Quoting.literal,
    Php.Quoting.mark, hgap, hnames a ha, hvalue] at hmem

/-- The attributes that matter are found under their names, in whatever order they are written. -/
theorem get?_attributes {written : List WrittenAttribute} {pairs : List (Text × Text)}
    (hperm : (written.map WrittenAttribute.pair).Perm pairs)
    (hnames : ∀ p ∈ pairs, p.1 ≠ [] ∧ ∀ c ∈ p.1, isNamePart c = true)
    (hkeys : (pairs.map Prod.fst).Nodup) (key : Text) :
    (attributes (attributeSource written)).get? key = (Keyed.get? pairs key).map some := by
  have hread : attributeList (attributeSource written) =
      (written.map WrittenAttribute.pair).map fun p => (p.1, some p.2) := by
    rw [List.map_map]
    refine attributeList_attributeSource fun a ha => ?_
    exact hnames a.pair (hperm.subset (List.mem_map_of_mem ha))
  have hnodup : (((written.map WrittenAttribute.pair).map
      fun p => (p.1, some p.2)).map Prod.fst).Nodup := by
    rw [List.map_map]
    exact (hperm.map Prod.fst).nodup_iff.mpr hkeys
  rw [attributes, hread, Keyed.putAll_eq_append hnodup, List.nil_append,
    Keyed.get?_perm (hperm.map _) hnodup, Keyed.get?_map]

/-! ## The block -/

theorem bracedText_cons (c : Char) (text : Text) :
    bracedText (c :: text) =
      (if c = '{' then leftBraceTag else if c = '}' then rightBraceTag else [c]) ++
        bracedText text :=
  List.flatMap_cons

theorem hasTag_leftBraceTag (s : Text) : hasTag (leftBraceTag ++ s) = hasTag s := rfl

theorem hasTag_rightBraceTag (s : Text) : hasTag (rightBraceTag ++ s) = hasTag s := rfl

theorem hasTag_bracedText (text : Text) : hasTag (bracedText text) = false := by
  induction text with
  | nil => rfl
  | cons c text ih =>
    rw [bracedText_cons]
    split
    · rw [hasTag_leftBraceTag, ih]
    · rename_i hc
      split
      · rw [hasTag_rightBraceTag, ih]
      · simp [hasTag, opensTag, hc, ih]

/-- Up to its first tag a written block has no closing brace. -/
theorem not_mem_of_prefix_bracedText {w text : Text} (hw : '{' ∉ w) (h : w <+: bracedText text) :
    '}' ∉ w := by
  induction w generalizing text with
  | nil => exact List.not_mem_nil
  | cons d w ih =>
    obtain ⟨hd, hw⟩ := not_or.mp (mt List.mem_cons.mpr hw)
    cases text with
    | nil => exact absurd (List.prefix_nil.mp h) (List.cons_ne_nil d w)
    | cons c text =>
      rw [bracedText_cons] at h
      split at h
      · exact absurd (List.cons_prefix_cons.mp h).1.symm hd
      · split at h
        · exact absurd (List.cons_prefix_cons.mp h).1.symm hd
        · rename_i hc
          obtain ⟨rfl, hrest⟩ := List.cons_prefix_cons.mp h
          exact fun hmem => (List.mem_cons.mp hmem).elim (fun heq => hc heq.symm) (ih hw hrest)

/-- The two passes over a written block give its text: no brace that is written has the word of a
tag behind it. -/
theorem readJoined_bracedText (text : Text) :
    readWords joinedBraceTags (bracedText text) = text := by
  induction text with
  | nil => rw [bracedText, List.flatMap_nil, readWords]
  | cons c text ih =>
    rw [bracedText_cons]
    split
    · rename_i hc
      have hword : ¬ rightBraceTag.drop 1 <+: bracedText text := fun h =>
        not_mem_of_prefix_bracedText (by decide) h (by decide)
      rw [readJoined_left hword, ih, hc]
    · rename_i hopen
      split
      · rename_i hc
        rw [readJoined_right, ih, hc]
      · rw [readWords_plain (by decide) (by simpa using Ne.symm hopen), ih, List.singleton_append]

theorem blockText?_bracedText (text : Text) : blockText? (bracedText text) = some text := by
  rw [blockText?, hasTag_bracedText, replaceAll_replaceAll, readJoined_bracedText]
  rfl

/-- The end of a block is a tag of another kind. -/
theorem not_infix_of_closeTag {s : Text} (h : hasTag s = false) : ¬ closeTag <:+: s := by
  rintro ⟨before, after, rfl⟩
  rw [← Bool.not_eq_true, hasTag_eq_true_iff] at h
  refine h ⟨before, "/ts\x7d".toList ++ after, by rw [List.append_assoc]; rfl, ?_⟩
  rintro (⟨c, rest, hcons, hspace⟩ | hleft | hright)
  · obtain ⟨rfl, _⟩ := List.cons.inj hcons
    cases hspace
  · cases List.isPrefixOf_iff_prefix.mpr hleft
  · cases List.isPrefixOf_iff_prefix.mpr hright

/-! ## The tag -/

theorem attributeSource_head (written : List WrittenAttribute) :
    attributeSource written = [] ∨
      ∃ c rest, attributeSource written = c :: rest ∧ Text.isSpace c = true := by
  cases written with
  | nil => exact .inl rfl
  | cons a written =>
    obtain ⟨c, gap, hgap⟩ := List.exists_cons_of_ne_nil a.gap_ne_nil
    refine .inr ⟨c, gap ++ a.assignment ++ attributeSource written, ?_,
      a.gap_isSpace c (hgap ▸ List.mem_cons_self)⟩
    rw [attributeSource, List.flatMap_cons, WrittenAttribute.source, hgap]
    rfl

/-- Behind white space a tag goes up to the next closing brace. -/
theorem construct?_ts {c : Char} (hspace : Text.isSpace c = true) (s : Text) :
    construct? ('t' :: 's' :: c :: s) =
      (upTo? ['}'] (c :: s)).map fun found => (.ts found.1, found.2 + 2) := by
  unfold construct?
  split
  · rename_i hstar
    cases hstar
  · rw [if_neg (by exact Bool.false_ne_true), if_neg (by exact Bool.false_ne_true), if_pos (by rfl)]
    split
    · rename_i hbrace
      obtain ⟨rfl, _⟩ := List.cons.inj hbrace
      cases hspace
    · rename_i hcons
      obtain ⟨rfl, rfl⟩ := List.cons.inj hcons
      rw [if_pos hspace]
    · rename_i hnil
      cases hnil

/-- The tag is read up to the brace that was written last. -/
theorem construct?_tag {written : List WrittenAttribute} (hend : '}' ∉ attributeSource written)
    (rest : Text) :
    construct? ("ts".toList ++ attributeSource written ++ "\x7d".toList ++ rest) =
      some (.ts (attributeSource written),
        ("ts".toList ++ attributeSource written ++ "\x7d".toList).length) := by
  rcases attributeSource_head written with hnil | ⟨c, cs, hcons, hspace⟩
  · rw [hnil]
    rfl
  · have hfound : upTo? ['}'] (attributeSource written ++ (['}'] ++ rest)) =
        some (attributeSource written, (attributeSource written ++ ['}']).length) :=
      upTo?_append_word (by decide) (fun h => hend (h.subset List.mem_cons_self)) rest
    have hsource : "ts".toList ++ attributeSource written ++ "\x7d".toList ++ rest =
        't' :: 's' :: (attributeSource written ++ (['}'] ++ rest)) := by
      simp
    rw [hsource]
    rw [hcons, List.cons_append] at hfound ⊢
    rw [construct?_ts hspace, hfound]
    simp

/-- What a tag with a text contributes, if its options are literal. -/
theorem tagEvents_found {attributes : Keyed (Option Text)} {context plural : Option Text}
    (hcontext : attributes.get? "context".toList = context.map some)
    (hplural : attributes.get? "plural".toList = plural.map some) {text : Text} (htext : text ≠ [])
    (path : Text) (line : Int) (comments : List Text) :
    tagEvents path line comments attributes (some text) =
      [.found ⟨⟨text, line, plural.filter (· ≠ []), context⟩, comments⟩] := by
  obtain ⟨c, cs, rfl⟩ := List.exists_cons_of_ne_nil htext
  rw [← nonEmpty?_eq_filter, tagEvents, hcontext, hplural]
  cases context <;> cases plural <;> rfl

/-- Text without an opening brace contributes nothing. -/
theorem eventsFrom_of_not_mem {post : Text} (hpost : '{' ∉ post) (path : Text) (tag : Option Text)
    (line : Int) : eventsFrom path tag line [] post = [] := by
  have hplain := eventsFrom_plain hpost path tag line []
  rw [List.append_nil] at hplain
  rw [hplain, eventsFrom]

/-- A tag whose text is an attribute contributes that text. -/
theorem eventsFrom_tagSource {written : List WrittenAttribute}
    (hend : '}' ∉ attributeSource written) {msgid : Option Text}
    (hmsgid : (attributes (attributeSource written)).get? "msgid".toList = some msgid) {post : Text}
    (hpost : '{' ∉ post) (path : Text) (tag : Option Text) (line : Int) :
    eventsFrom path tag line [] (tagSource written ++ post) =
      tagEvents path line [] (attributes (attributeSource written)) msgid := by
  have hsource : tagSource written ++ post =
      '{' :: ("ts".toList ++ attributeSource written ++ "\x7d".toList ++ post) := rfl
  rw [hsource, eventsFrom, if_pos rfl, construct?_tag hend]
  simp only [List.drop_left, hmsgid, eventsFrom_of_not_mem hpost, List.append_nil]

/-- A tag without such an attribute contributes the text of its block. -/
theorem eventsFrom_blockSource {written : List WrittenAttribute}
    (hend : '}' ∉ attributeSource written)
    (hmsgid : (attributes (attributeSource written)).get? "msgid".toList = none) (text : Text)
    {post : Text} (hpost : '{' ∉ post) (path : Text) (tag : Option Text) (line : Int) :
    eventsFrom path tag line [] (blockSource written text ++ post) =
      tagEvents path line [] (attributes (attributeSource written)) (some text) := by
  have hsource : blockSource written text ++ post =
      '{' :: ("ts".toList ++ attributeSource written ++ "\x7d".toList ++
        (bracedText text ++ (closeTag ++ post))) := by
    simp [blockSource, tagSource]
  have hclose : Text.position? closeTag (bracedText text ++ (closeTag ++ post)) =
      some (bracedText text).length :=
    Text.position?_append_word (by decide) (not_infix_of_closeTag (hasTag_bracedText text)) post
  rw [hsource, eventsFrom, if_pos rfl, construct?_tag hend]
  simp only [List.drop_left, hmsgid, hclose, List.take_left, blockText?_bracedText]
  rw [← List.drop_drop, List.drop_left, List.drop_left, eventsFrom_of_not_mem hpost,
    List.append_nil]

/-! ## What is found -/

/-- The names that matter. -/
def attributeNames : List Text := ["msgid".toList, "context".toList, "plural".toList]

theorem attributeNames_plain : ∀ name ∈ attributeNames,
    name ≠ [] ∧ (∀ c ∈ name, isNamePart c = true) ∧ '}' ∉ name := by
  have hall : ∀ name ∈ attributeNames, name ≠ [] ∧ name.all isNamePart = true ∧ '}' ∉ name := by
    decide +kernel
  intro name hname
  obtain ⟨hne, hparts, hclose⟩ := hall name hname
  exact ⟨hne, List.all_eq_true.mp hparts, hclose⟩

/-- Attributes under different names that matter, written in any order, do not end their tag and are
found under their names. -/
theorem attributes_written {written : List WrittenAttribute} {pairs : List (Text × Text)}
    (hperm : (written.map WrittenAttribute.pair).Perm pairs)
    (hnames : ∀ p ∈ pairs, p.1 ∈ attributeNames) (hkeys : (pairs.map Prod.fst).Nodup)
    (hvalues : ∀ p ∈ pairs, '}' ∉ p.2) :
    '}' ∉ attributeSource written ∧
      ∀ key, (attributes (attributeSource written)).get? key = (Keyed.get? pairs key).map some := by
  have hmem : ∀ a ∈ written, a.pair ∈ pairs := fun a ha => hperm.subset (List.mem_map_of_mem ha)
  have hplain : ∀ p ∈ pairs, p.1 ≠ [] ∧ (∀ c ∈ p.1, isNamePart c = true) ∧ '}' ∉ p.1 :=
    fun p hp => attributeNames_plain p.1 (hnames p hp)
  constructor
  · exact not_mem_source (fun a ha => (hplain a.pair (hmem a ha)).2.2)
      fun a ha => hvalues a.pair (hmem a ha)
  · exact get?_attributes hperm (fun p hp => ⟨(hplain p hp).1, (hplain p hp).2.1⟩) hkeys

theorem optionPairs_names (context plural : Option Text) :
    ∀ p ∈ optionPairs context plural, p.1 ∈ attributeNames := by
  cases context <;> cases plural <;> simp [optionPairs, attributeNames]

theorem nodup_optionPairs (context plural : Option Text) :
    ("msgid".toList :: (optionPairs context plural).map Prod.fst).Nodup := by
  cases context <;> cases plural <;> simp [optionPairs]

theorem optionPairs_values {context plural : Option Text}
    (h : ∀ s ∈ context.toList ++ plural.toList, '}' ∉ s) :
    ∀ p ∈ optionPairs context plural, '}' ∉ p.2 := by
  intro p hp
  rcases List.mem_append.mp hp with hp | hp
  · obtain ⟨s, hs, rfl⟩ := List.mem_map.mp hp
    exact h s (List.mem_append_left _ hs)
  · obtain ⟨s, hs, rfl⟩ := List.mem_map.mp hp
    exact h s (List.mem_append_right _ hs)

theorem get?_optionPairs (context plural : Option Text) :
    Keyed.get? (optionPairs context plural) "msgid".toList = none ∧
      Keyed.get? (optionPairs context plural) "context".toList = context ∧
      Keyed.get? (optionPairs context plural) "plural".toList = plural := by
  cases context <;> cases plural <;> exact ⟨rfl, rfl, rfl⟩

/-- **What is written in a template is found.** For a text that is not empty, with or without a
context and a plural that do not end the tag, and with the attributes in any order, a tag with the
text in its block and a tag with the text as an attribute each give exactly one string and nothing
else, among text without an opening brace: the text itself, on the line of the tag, with the
context as it was written and the plural unless it is empty. -/
theorem events_tag_written (path : Text) (tag : Option Text) {text : Text} (htext : text ≠ [])
    {context plural : Option Text} (hoptions : ∀ s ∈ context.toList ++ plural.toList, '}' ∉ s)
    {pre post : Text} (hpre : '{' ∉ pre) (hpost : '{' ∉ post) (written : List WrittenAttribute) :
    ((written.map WrittenAttribute.pair).Perm (optionPairs context plural) →
      events path tag (pre ++ blockSource written text ++ post) =
        [.found ⟨⟨text, 1 + Text.lineFeeds pre, plural.filter (· ≠ []), context⟩, []⟩]) ∧
    ('}' ∉ text →
      (written.map WrittenAttribute.pair).Perm
        (("msgid".toList, text) :: optionPairs context plural) →
      events path tag (pre ++ tagSource written ++ post) =
        [.found ⟨⟨text, 1 + Text.lineFeeds pre, plural.filter (· ≠ []), context⟩, []⟩]) := by
  have hnames := optionPairs_names context plural
  have hkeys := nodup_optionPairs context plural
  have hvalues := optionPairs_values hoptions
  obtain ⟨hmsgid, hcontext, hplural⟩ := get?_optionPairs context plural
  constructor
  · intro hperm
    obtain ⟨hend, hget⟩ :=
      attributes_written hperm hnames (List.nodup_cons.mp hkeys).2 hvalues
    have hnone : (attributes (attributeSource written)).get? "msgid".toList = none := by
      rw [hget, hmsgid]
      rfl
    rw [events, List.append_assoc, eventsFrom_plain hpre,
      eventsFrom_blockSource hend hnone text hpost]
    exact tagEvents_found (by rw [hget, hcontext]) (by rw [hget, hplural]) htext path _ []
  · intro hclosed hperm
    obtain ⟨hend, hget⟩ := attributes_written hperm
      (List.forall_mem_cons.mpr ⟨List.mem_cons_self, hnames⟩) hkeys
      (List.forall_mem_cons.mpr ⟨hclosed, hvalues⟩)
    rw [events, List.append_assoc, eventsFrom_plain hpre, eventsFrom_tagSource hend (hget _) hpost]
    -- under the other names the attributes are those without the first
    exact tagEvents_found ((hget _).trans (congrArg (Option.map some) hcontext))
      ((hget _).trans (congrArg (Option.map some) hplural)) htext path _ []

/-- Texts that look like the ends of tags and blocks and like other attributes, written with the
plural first, over two lines. -/
theorem events_tag_written_hostile :
    let context : Text := "a' plural='x\\".toList
    let plural : Text := "%1=\"".toList
    let block : Text := "\x7brdelim\x7d\x7b/ts\x7d".toList
    let text : Text := "b' msgid=\"c\" \x7bts".toList
    let first : WrittenAttribute :=
      ⟨"\n ".toList, "plural".toList, plural, by decide, List.all_eq_true.mp (by decide)⟩
    let second : WrittenAttribute :=
      ⟨"\t".toList, "context".toList, context, by decide, List.all_eq_true.mp (by decide)⟩
    let third : WrittenAttribute :=
      ⟨" ".toList, "msgid".toList, text, by decide, List.all_eq_true.mp (by decide)⟩
    ((∀ s ∈ (some context).toList ++ (some plural).toList, '}' ∉ s) ∧ '}' ∉ text) ∧
    blockSource [first, second] block =
      "\x7bts\n plural='%1=\"'\tcontext='a\\' plural=\\'x\\\\'\x7d".toList ++
        "\x7bldelim\x7drdelim\x7brdelim\x7d".toList ++
        "\x7bldelim\x7d/ts\x7brdelim\x7d\x7b/ts\x7d".toList ∧
    events "t.tpl".toList none ("\n".toList ++ blockSource [first, second] block ++ "\x7d".toList) =
      [.found ⟨⟨block, 2, some plural, some context⟩, []⟩] ∧
    events "t.tpl".toList none ("\n".toList ++ tagSource [first, third, second] ++ "\x7d".toList) =
      [.found ⟨⟨text, 2, some plural, some context⟩, []⟩] := by
  intro context plural block text first second third
  have hoptions : ∀ s ∈ (some context).toList ++ (some plural).toList, '}' ∉ s := by
    decide +kernel
  have htext : '}' ∉ text := by decide +kernel
  have hpre : '{' ∉ "\n".toList := by decide
  have hpost : '{' ∉ "\x7d".toList := by decide
  refine ⟨⟨hoptions, htext⟩, by decide +kernel, ?_, ?_⟩
  · exact (events_tag_written "t.tpl".toList none (by decide) hoptions hpre hpost
      [first, second]).1 (.swap _ _ _)
  · exact (events_tag_written "t.tpl".toList none (by decide) hoptions hpre hpost
      [first, third, second]).2 htext ((List.Perm.swap _ _ _).trans (.cons _ (.swap _ _ _)))

end Smarty

end MessageHarvest
