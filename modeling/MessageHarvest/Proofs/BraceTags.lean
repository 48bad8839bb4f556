import MessageHarvest.Smarty.Attributes
import MessageHarvest.Proofs.LineBoundary

/-! # Tags that write braces

A block has a literal text if no tag stands in it but `{ldelim}` and
`{rdelim}`. That text should be what one pass over the block gives, in which
each such tag is read once (`readWords braceTags`). The reader makes two passes
instead, one for each tag, and the second reads what the first has written: the
brace of `{ldelim}` makes a tag again with `rdelim}` behind it. So the two
passes are one pass with one more word (`replaceAll_replaceAll`), and they give
the literal text unless that word stands in the block. -/
namespace MessageHarvest.Smarty

/-! ## One pass over a text -/

/-- Reads the text from left to right. Where words of the table stand, what the first of them writes
is put in its place; every other character is copied. -/
def readWords (table : List (Text × Text)) : Text → Text
  | [] => []
  | c :: cs =>
    match table.find? fun entry => entry.1.isPrefixOf (c :: cs) with
    | some entry => entry.2 ++ readWords table (cs.drop (entry.1.length - 1))
    | none => c :: readWords table cs
termination_by s => s.length
decreasing_by all_goals simp only [List.length_cons, List.length_drop]; omega

/-- The two tags and the braces they write. -/
def braceTags : List (Text × Text) := [(leftBraceTag, ['{']), (rightBraceTag, ['}'])]

/-- A tag that writes a brace with which the text behind it would be a tag. -/
def joinedTag : Text := leftBraceTag ++ rightBraceTag.drop 1

/-- The tags, with the joined one read at once. -/
def joinedBraceTags : List (Text × Text) := (joinedTag, ['}']) :: braceTags

theorem readWords_copy {table : List (Text × Text)} {c : Char} {cs : Text}
    (h : ∀ entry ∈ table, ¬ entry.1 <+: c :: cs) :
    readWords table (c :: cs) = c :: readWords table cs := by
  have hnone : table.find? (fun entry => entry.1.isPrefixOf (c :: cs)) = none := by
    rw [List.find?_eq_none]
    exact fun entry hentry hprefix => h entry hentry (List.isPrefixOf_iff_prefix.mp hprefix)
  rw [readWords, hnone]

/-- A word of the table is read where none of the words before it in the table stands. -/
theorem readWords_word (before : List (Text × Text)) {word new : Text} (after : List (Text × Text))
    (hne : word ≠ []) {s : Text} (hbefore : ∀ entry ∈ before, ¬ entry.1 <+: word ++ s) :
    readWords (before ++ (word, new) :: after) (word ++ s) =
      new ++ readWords (before ++ (word, new) :: after) s := by
  have hfind : (before ++ (word, new) :: after).find? (fun entry =>
      entry.1.isPrefixOf (word ++ s)) = some (word, new) := by
    have hnone : before.find? (fun entry => entry.1.isPrefixOf (word ++ s)) = none := by
      rw [List.find?_eq_none]
      exact fun entry hentry hp => hbefore entry hentry (List.isPrefixOf_iff_prefix.mp hp)
    have hhere : word.isPrefixOf (word ++ s) = true :=
      List.isPrefixOf_iff_prefix.mpr (List.prefix_append word s)
    simp only [List.find?_append, hnone, Option.none_or, List.find?_cons, hhere]
  cases word with
  | nil => exact absurd rfl hne
  | cons c word =>
    rw [List.cons_append] at hfind ⊢
    rw [readWords, hfind]
    simp

/-- Text without an opening brace is copied, since every tag starts with one. -/
theorem readWords_plain {table : List (Text × Text)}
    (htable : ∀ entry ∈ table, entry.1.head? = some '{') {w : Text} (hw : '{' ∉ w) (s : Text) :
    readWords table (w ++ s) = w ++ readWords table s := by
  induction w with
  | nil => rfl
  | cons c w ih =>
    obtain ⟨hc, hw⟩ := not_or.mp (mt List.mem_cons.mpr hw)
    have hcopy : ∀ entry ∈ table, ¬ entry.1 <+: c :: (w ++ s) := by
      intro entry hentry hprefix
      obtain ⟨tail, htail⟩ := List.head?_eq_some_iff.mp (htable entry hentry)
      rw [htail] at hprefix
      exact hc (List.cons_prefix_cons.mp hprefix).1
    rw [List.cons_append, readWords_copy hcopy, ih hw, List.cons_append]

/-- A replacement is a pass with one word. -/
theorem replaceAll_eq_readWords (old new s : Text) :
    Text.replaceAll old new s = readWords [(old, new)] s := by
  fun_induction Text.replaceAll old new s with
  | case1 => rw [readWords]
  | case2 c cs h ih => simp only [readWords, List.find?_cons, h, ih]
  | case3 c cs h ih => simp only [readWords, List.find?_cons, h, ih, List.find?_nil]

/-- Text without an opening brace is not made by a pass that writes only such braces. -/
theorem prefix_of_readWords {table : List (Text × Text)}
    (htable : ∀ entry ∈ table, entry.2.head? = some '{') {w s : Text} (hw : '{' ∉ w)
    (h : w <+: readWords table s) : w <+: s := by
  induction w generalizing s with
  | nil => exact List.nil_prefix
  | cons c w ih =>
    obtain ⟨hc, hw⟩ := not_or.mp (mt List.mem_cons.mpr hw)
    cases s with
    | nil =>
      rw [readWords] at h
      exact absurd (List.prefix_nil.mp h) (List.cons_ne_nil c w)
    | cons d ds =>
      rw [readWords] at h
      split at h
      · rename_i entry hfind
        obtain ⟨tail, htail⟩ :=
          List.head?_eq_some_iff.mp (htable entry (List.mem_of_find?_eq_some hfind))
        rw [htail, List.cons_append] at h
        exact absurd (List.cons_prefix_cons.mp h).1.symm hc
      · obtain ⟨rfl, hrest⟩ := List.cons_prefix_cons.mp h
        exact List.cons_prefix_cons.mpr ⟨rfl, ih hw hrest⟩

/-! ## The parts of a block -/

/-- Every text is taken apart from the front: joined tags, other tags and characters. -/
@[elab_as_elim]
theorem brace_induction {motive : Text → Prop} (nil : motive [])
    (joined : ∀ s, motive s → motive (joinedTag ++ s))
    (left : ∀ s, ¬ rightBraceTag.drop 1 <+: s → motive s → motive (leftBraceTag ++ s))
    (right : ∀ s, motive s → motive (rightBraceTag ++ s))
    (char : ∀ c s, ¬ leftBraceTag <+: c :: s → ¬ rightBraceTag <+: c :: s → motive s →
      motive (c :: s)) (s : Text) : motive s := by
  induction hlen : s.length using Nat.strongRecOn generalizing s with
  | ind n ih =>
    subst hlen
    have hrest : ∀ tag t : Text, tag ≠ [] → s = tag ++ t → motive t := by
      intro tag t htag hs
      have hpos := List.length_pos_iff.mpr htag
      refine ih t.length ?_ t rfl
      rw [hs, List.length_append]
      omega
    by_cases hleft : leftBraceTag <+: s
    · obtain ⟨t, rfl⟩ := hleft
      by_cases hjoined : rightBraceTag.drop 1 <+: t
      · obtain ⟨u, rfl⟩ := hjoined
        rw [← List.append_assoc] at hrest ⊢
        exact joined u (hrest joinedTag u (by decide) rfl)
      · exact left t hjoined (hrest leftBraceTag t (by decide) rfl)
    · by_cases hright : rightBraceTag <+: s
      · obtain ⟨t, rfl⟩ := hright
        exact right t (hrest rightBraceTag t (by decide) rfl)
      · cases s with
        | nil => exact nil
        | cons c t => exact char c t hleft hright (hrest [c] t (List.cons_ne_nil c []) rfl)

theorem not_prefix_leftBraceTag (s : Text) : ¬ leftBraceTag <+: rightBraceTag ++ s := by
  intro h
  cases List.isPrefixOf_iff_prefix.mpr h

/-- A closing-brace tag behind a first character is the word behind an opening brace. -/
theorem rightBraceTag_prefix_cons {c : Char} {s : Text} :
    rightBraceTag <+: c :: s ↔ '{' = c ∧ rightBraceTag.drop 1 <+: s :=
  List.cons_prefix_cons

theorem joinedTag_prefix_append {s : Text} :
    joinedTag <+: leftBraceTag ++ s ↔ rightBraceTag.drop 1 <+: s :=
  List.prefix_append_right_inj leftBraceTag

/-- Where the joined tag stands the other one does too. -/
theorem leftBraceTag_of_joinedTag {s : Text} (h : joinedTag <+: s) : leftBraceTag <+: s :=
  (List.prefix_append leftBraceTag _).trans h

/-! ## Each part in a pass -/

theorem readOnce_left (s : Text) :
    readWords braceTags (leftBraceTag ++ s) = '{' :: readWords braceTags s :=
  readWords_word [] [(rightBraceTag, ['}'])] (by decide) (List.forall_mem_nil _)

theorem readOnce_right (s : Text) :
    readWords braceTags (rightBraceTag ++ s) = '}' :: readWords braceTags s :=
  readWords_word [(leftBraceTag, ['{'])] [] (by decide)
    (List.forall_mem_singleton.mpr (not_prefix_leftBraceTag s))

theorem readOnce_char {c : Char} {s : Text} (hleft : ¬ leftBraceTag <+: c :: s)
    (hright : ¬ rightBraceTag <+: c :: s) :
    readWords braceTags (c :: s) = c :: readWords braceTags s :=
  readWords_copy (List.forall_mem_cons.mpr ⟨hleft, List.forall_mem_singleton.mpr hright⟩)

/-- In one pass the word behind a tag is copied like any other text. -/
theorem readOnce_joined (s : Text) :
    readWords braceTags (joinedTag ++ s) =
      '{' :: (rightBraceTag.drop 1 ++ readWords braceTags s) := by
  rw [joinedTag, List.append_assoc, readOnce_left, readWords_plain (by decide) (by decide)]

theorem readJoined_joined (s : Text) :
    readWords joinedBraceTags (joinedTag ++ s) = '}' :: readWords joinedBraceTags s :=
  readWords_word [] braceTags (by decide) (List.forall_mem_nil _)

theorem readJoined_left {s : Text} (h : ¬ rightBraceTag.drop 1 <+: s) :
    readWords joinedBraceTags (leftBraceTag ++ s) = '{' :: readWords joinedBraceTags s :=
  readWords_word [(joinedTag, ['}'])] [(rightBraceTag, ['}'])] (by decide)
    (List.forall_mem_singleton.mpr (mt joinedTag_prefix_append.mp h))

theorem readJoined_right (s : Text) :
    readWords joinedBraceTags (rightBraceTag ++ s) = '}' :: readWords joinedBraceTags s := by
  have hleft := not_prefix_leftBraceTag s
  exact readWords_word [(joinedTag, ['}']), (leftBraceTag, ['{'])] [] (by decide)
    (List.forall_mem_cons.mpr
      ⟨mt leftBraceTag_of_joinedTag hleft, List.forall_mem_singleton.mpr hleft⟩)

theorem readJoined_char {c : Char} {s : Text} (hleft : ¬ leftBraceTag <+: c :: s)
    (hright : ¬ rightBraceTag <+: c :: s) :
    readWords joinedBraceTags (c :: s) = c :: readWords joinedBraceTags s :=
  readWords_copy (List.forall_mem_cons.mpr ⟨mt leftBraceTag_of_joinedTag hleft,
    List.forall_mem_cons.mpr ⟨hleft, List.forall_mem_singleton.mpr hright⟩⟩)

/-! ## Two passes -/

/-- **Two passes are one.** Replacing first the one tag and then the other reads the joined tag as
one more word, and otherwise each tag once. -/
theorem replaceAll_replaceAll (s : Text) :
    Text.replaceAll rightBraceTag ['}'] (Text.replaceAll leftBraceTag ['{'] s) =
      readWords joinedBraceTags s := by
  rw [replaceAll_eq_readWords, replaceAll_eq_readWords]
  -- what the first pass leaves of a tag of the second is not changed by it
  have hplain : ∀ s, readWords [(leftBraceTag, ['{'])] (rightBraceTag.drop 1 ++ s) =
      rightBraceTag.drop 1 ++ readWords [(leftBraceTag, ['{'])] s :=
    readWords_plain (by decide) (by decide)
  have hfirst : ∀ s, readWords [(leftBraceTag, ['{'])] (leftBraceTag ++ s) =
      '{' :: readWords [(leftBraceTag, ['{'])] s :=
    fun s => readWords_word [] [] (by decide) (List.forall_mem_nil _)
  have hsecond : ∀ s, readWords [(rightBraceTag, ['}'])] (rightBraceTag ++ s) =
      '}' :: readWords [(rightBraceTag, ['}'])] s :=
    fun s => readWords_word [] [] (by decide) (List.forall_mem_nil _)
  induction s using brace_induction with
  | nil => simp only [readWords]
  | joined s ih =>
    have hwritten : readWords [(leftBraceTag, ['{'])] (joinedTag ++ s) =
        rightBraceTag ++ readWords [(leftBraceTag, ['{'])] s := by
      rw [joinedTag, List.append_assoc, hfirst, hplain]
      rfl
    rw [hwritten, hsecond, readJoined_joined, ih]
  | left s h ih =>
    have hbrace : ¬ rightBraceTag <+: '{' :: readWords [(leftBraceTag, ['{'])] s := fun hp =>
      h (prefix_of_readWords (by decide) (by decide) (rightBraceTag_prefix_cons.mp hp).2)
    rw [hfirst, readWords_copy (List.forall_mem_singleton.mpr hbrace), readJoined_left h, ih]
  | right s ih =>
    have hcopied : readWords [(leftBraceTag, ['{'])] (rightBraceTag ++ s) =
        rightBraceTag ++ readWords [(leftBraceTag, ['{'])] s := by
      show readWords [(leftBraceTag, ['{'])] ('{' :: (rightBraceTag.drop 1 ++ s)) = _
      rw [readWords_copy (List.forall_mem_singleton.mpr (not_prefix_leftBraceTag s)), hplain]
      rfl
    rw [hcopied, hsecond, readJoined_right, ih]
  | char c s hleft hright ih =>
    have hother : ¬ rightBraceTag <+: c :: readWords [(leftBraceTag, ['{'])] s := by
      intro hp
      obtain ⟨hc, hword⟩ := rightBraceTag_prefix_cons.mp hp
      exact hright (rightBraceTag_prefix_cons.mpr
        ⟨hc, prefix_of_readWords (by decide) (by decide) hword⟩)
    rw [readWords_copy (List.forall_mem_singleton.mpr hleft),
      readWords_copy (List.forall_mem_singleton.mpr hother), readJoined_char hleft hright, ih]

/-- A word that starts with an opening brace does not start inside text without one. -/
theorem infix_of_infix_append {word w s : Text} (hword : word.head? = some '{') (hw : '{' ∉ w)
    (h : word <:+: w ++ s) : word <:+: s := by
  induction w with
  | nil => exact h
  | cons c w ih =>
    obtain ⟨hc, hw⟩ := not_or.mp (mt List.mem_cons.mpr hw)
    rcases List.infix_cons_iff.mp h with hstart | hlater
    · obtain ⟨tail, rfl⟩ := List.head?_eq_some_iff.mp hword
      exact absurd (List.cons_prefix_cons.mp hstart).1 hc
    · exact ih hw hlater

/-- Behind a tag at the front, the joined tag stands in the rest. -/
theorem infix_of_infix_tag {tag s : Text} (htag : '{' ∉ tag.drop 1)
    (hstart : ¬ joinedTag <+: tag ++ s) (h : joinedTag <:+: tag ++ s) : joinedTag <:+: s := by
  cases tag with
  | nil => exact h
  | cons c tag =>
    rcases List.infix_cons_iff.mp h with hhere | hlater
    · exact absurd hhere hstart
    · exact infix_of_infix_append (by decide) htag hlater

/-- Without the joined tag both passes give the same. -/
theorem readJoined_eq_readOnce {s : Text} (h : ¬ joinedTag <:+: s) :
    readWords joinedBraceTags s = readWords braceTags s := by
  induction s using brace_induction with
  | nil => simp only [readWords]
  | joined s ih => exact absurd (List.prefix_append joinedTag s).isInfix h
  | left s hword ih =>
    have hs : ¬ joinedTag <:+: s := fun hs => h (hs.trans (List.suffix_append _ s).isInfix)
    rw [readJoined_left hword, readOnce_left, ih hs]
  | right s ih =>
    have hs : ¬ joinedTag <:+: s := fun hs => h (hs.trans (List.suffix_append _ s).isInfix)
    rw [readJoined_right, readOnce_right, ih hs]
  | char c s hleft hright ih =>
    have hs : ¬ joinedTag <:+: s := fun hs => h (List.infix_cons hs)
    rw [readJoined_char hleft hright, readOnce_char hleft hright, ih hs]

/-- Each joined tag makes the text shorter than one pass does. -/
theorem length_readJoined (s : Text) :
    (readWords joinedBraceTags s).length ≤ (readWords braceTags s).length ∧
      (joinedTag <:+: s →
        (readWords joinedBraceTags s).length < (readWords braceTags s).length) := by
  induction s using brace_induction with
  | nil =>
    rw [readWords, readWords]
    exact ⟨Nat.le_refl _, fun h => absurd (List.infix_nil.mp h) (by decide)⟩
  | joined s ih =>
    rw [readJoined_joined, readOnce_joined, List.length_cons, List.length_cons, List.length_append]
    have hword : (rightBraceTag.drop 1).length = 7 := by decide
    omega
  | left s hword ih =>
    rw [readJoined_left hword, readOnce_left, List.length_cons, List.length_cons]
    refine ⟨Nat.succ_le_succ ih.1, fun h => Nat.succ_lt_succ (ih.2 ?_)⟩
    exact infix_of_infix_tag (by decide) (mt joinedTag_prefix_append.mp hword) h
  | right s ih =>
    rw [readJoined_right, readOnce_right, List.length_cons, List.length_cons]
    refine ⟨Nat.succ_le_succ ih.1, fun h => Nat.succ_lt_succ (ih.2 ?_)⟩
    exact infix_of_infix_tag (by decide)
      (mt leftBraceTag_of_joinedTag (not_prefix_leftBraceTag s)) h
  | char c s hleft hright ih =>
    rw [readJoined_char hleft hright, readOnce_char hleft hright, List.length_cons,
      List.length_cons]
    refine ⟨Nat.succ_le_succ ih.1, fun h => Nat.succ_lt_succ (ih.2 ?_)⟩
    exact (List.infix_cons_iff.mp h).resolve_left (mt leftBraceTag_of_joinedTag hleft)

/-! ## The text of a block -/

/-- What may stand behind an opening brace in a literal text: white space, or the rest of a tag that
writes a brace. -/
def StaysLiteral (after : Text) : Prop :=
  (∃ c rest, after = c :: rest ∧ Text.isSpace c = true) ∨ leftBraceTag.drop 1 <+: after ∨
    rightBraceTag.drop 1 <+: after

theorem opensTag_eq_true_iff {c : Char} {cs : Text} :
    opensTag c cs = true ↔ c = '{' ∧ ¬ StaysLiteral cs := by
  have hspace : cs.head?.any Text.isSpace = true ↔
      ∃ c rest, cs = c :: rest ∧ Text.isSpace c = true := by
    cases cs with
    | nil => simp
    | cons d ds => simp
  simp only [opensTag, StaysLiteral, Bool.and_eq_true, decide_eq_true_eq, Bool.not_eq_true',
    ← Bool.not_eq_true, hspace, List.isPrefixOf_iff_prefix, not_or, and_assoc]

theorem hasTag_eq_true_iff {body : Text} :
    hasTag body = true ↔
      ∃ before after, body = before ++ '{' :: after ∧ ¬ StaysLiteral after := by
  induction body with
  | nil => simp [hasTag]
  | cons c body ih =>
    rw [hasTag, Bool.or_eq_true, opensTag_eq_true_iff, ih]
    constructor
    · rintro (⟨rfl, hother⟩ | ⟨before, after, rfl, hother⟩)
      · exact ⟨[], body, rfl, hother⟩
      · exact ⟨c :: before, after, rfl, hother⟩
    · rintro ⟨before, after, hbody, hother⟩
      cases before with
      | nil =>
        obtain ⟨rfl, rfl⟩ := List.cons.inj hbody
        exact .inl ⟨rfl, hother⟩
      | cons d before =>
        obtain ⟨rfl, rfl⟩ := List.cons.inj hbody
        exact .inr ⟨before, after, rfl, hother⟩

/-- **When a block has its literal text.** It has no text exactly if a tag of another kind stands in
it. Else its text is that of a pass in which the joined tag is one more word. That is the text in
which each tag is read once exactly if the joined tag does not stand in the block. -/
theorem blockText?_reads_braces (body : Text) :
    (blockText? body = none ↔
      ∃ before after, body = before ++ '{' :: after ∧ ¬ StaysLiteral after) ∧
    (∀ text, blockText? body = some text →
      text = readWords joinedBraceTags body ∧
      (text = readWords braceTags body ↔ ¬ "\x7bldelim\x7drdelim\x7d".toList <:+: body)) := by
  constructor
  · rw [← hasTag_eq_true_iff, blockText?]
    split <;> simp_all
  · intro text htext
    rw [blockText?] at htext
    split at htext
    · cases htext
    · obtain rfl := Option.some.inj htext
      refine ⟨replaceAll_replaceAll body, ?_⟩
      rw [replaceAll_replaceAll]
      constructor
      · intro hequal hjoined
        have hshorter := (length_readJoined body).2 hjoined
        rw [hequal] at hshorter
        exact Nat.lt_irrefl _ hshorter
      · exact readJoined_eq_readOnce

/-- A block whose text looks like a tag, and one that is read as another tag. -/
theorem blockText?_reads_braces_like_tags :
    let plain : Text := "\x7bldelim\x7drdelim\x7brdelim\x7d \x7b x".toList
    let joined : Text := "a\x7bldelim\x7drdelim\x7d".toList
    (blockText? plain = some "\x7brdelim\x7d \x7b x".toList ∧
      "\x7brdelim\x7d \x7b x".toList = readWords braceTags plain) ∧
    (blockText? joined = some "a\x7d".toList ∧
      "a\x7d".toList = readWords joinedBraceTags joined ∧
      "a\x7d".toList ≠ readWords braceTags joined) := by
  intro plain joined
  have hplain : blockText? plain = some "\x7brdelim\x7d \x7b x".toList := by decide +kernel
  have hjoined : blockText? joined = some "a\x7d".toList := by decide +kernel
  have hno : ¬ "\x7bldelim\x7drdelim\x7d".toList <:+: plain := by decide +kernel
  have hthere : "\x7bldelim\x7drdelim\x7d".toList <:+: joined := by decide +kernel
  obtain ⟨_, hfirst⟩ := blockText?_reads_braces plain
  obtain ⟨_, hsecond⟩ := blockText?_reads_braces joined
  exact ⟨⟨hplain, (hfirst _ hplain).2.mpr hno⟩, hjoined, (hsecond _ hjoined).1,
    fun hequal => (hsecond _ hjoined).2.mp hequal hthere⟩

/-- The brace that the first tag writes is taken as part of another tag: no other kind of tag stands
in the block, and its text is a closing brace where one pass gives the name of the tag in braces. -/
theorem written_brace_is_read_again :
    let body : Text := "\x7bldelim\x7drdelim\x7d".toList
    (¬ ∃ before after, body = before ++ '{' :: after ∧ ¬ StaysLiteral after) ∧
      blockText? body = some "\x7d".toList ∧
      readWords braceTags body = "\x7brdelim\x7d".toList := by
  intro body
  refine ⟨?_, by decide +kernel, by decide +kernel⟩
  rw [← hasTag_eq_true_iff]
  decide +kernel

end MessageHarvest.Smarty
