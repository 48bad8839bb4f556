import MessageHarvest.Proofs.ReferenceLines

/-! # Comments for the tags of a template

A template is cut into regions: single characters of text, comments, literal
regions, blocks of code and tags, each with the source that it is written as,
and together they are the template (`flatMap_source_regions`). The reader
carries the lines of the last comment along and drops them at anything but
white space. What it carries is told by the regions before it alone
(`adjacentLines_concat`): the lines of the last comment, if only white space
stands behind that. So a comment is never paired with a tag that it does not
stand next to. -/
namespace MessageHarvest.Smarty

open Event (occurrences)

/-! ## The regions of a template -/

/-- A region of a template. A tag has a block of text if no attribute says what is to be translated,
and the block of an open tag has no end. -/
inductive Region where
  | plain (c : Char)
  | comment (text : Text)
  | literal (inside : Text)
  | php (code : Text)
  | tag (attributes : Text) (block : Option Text)
  | openTag (attributes rest : Text)
deriving DecidableEq

/-- What the region is written as. -/
def Region.source : Region → Text
  | plain c => [c]
  | comment text => "\x7b*".toList ++ (text ++ "*\x7d".toList)
  | literal inside => "\x7bliteral\x7d".toList ++ (inside ++ "\x7b/literal\x7d".toList)
  | php code => "\x7bphp\x7d".toList ++ (code ++ "\x7b/php\x7d".toList)
  | tag attributes none => "\x7bts".toList ++ (attributes ++ ['}'])
  | tag attributes (some block) => "\x7bts".toList ++ (attributes ++ ['}']) ++ (block ++ closeTag)
  | openTag attributes rest => "\x7bts".toList ++ (attributes ++ ['}']) ++ rest

/-- The region of a construct that takes this text behind its brace. -/
def Construct.region (taken : Text) : Construct → Region
  | comment text => .comment text
  | literal => .literal ((taken.take (taken.length - 10)).drop 8)
  | php code => .php code
  | ts attributes => .tag attributes none

/-- The first region, and the text behind it. -/
def nextRegion (c : Char) (cs : Text) : Region × Text :=
  match if c = '{' then construct? cs else none with
  | none => (.plain c, cs)
  | some found =>
    let after := cs.drop found.2
    match found.1 with
    | .ts source =>
      match (attributes source).get? "msgid".toList with
      | some _ => (.tag source none, after)
      | none =>
        match Text.position? closeTag after with
        | none => (.openTag source after, [])
        | some n => (.tag source (some (after.take n)), after.drop (n + closeTag.length))
    | other => (other.region (cs.take found.2), after)

theorem take_of_position? {stop s : Text} {n : Nat} (h : Text.position? stop s = some n) :
    s.take (n + stop.length) = s.take n ++ stop := by
  obtain ⟨rest, hrest⟩ := Text.prefix_drop_of_position? h
  rw [List.take_add, ← hrest, List.take_left]

theorem take_of_upTo? {stop s text : Text} {n : Nat} (h : upTo? stop s = some (text, n)) :
    s.take n = text ++ stop := by
  obtain ⟨m, hm, heq⟩ := Option.map_eq_some_iff.mp h
  obtain ⟨rfl, rfl⟩ := Prod.mk.inj heq
  exact take_of_position? hm

/-- A construct is written as its region. -/
theorem source_region {cs : Text} {found : Construct × Nat} (h : construct? cs = some found) :
    (found.1.region (cs.take found.2)).source = '{' :: cs.take found.2 := by
  unfold construct? at h
  split at h
  · obtain ⟨⟨text, n⟩, hpart, rfl⟩ := Option.map_eq_some_iff.mp h
    dsimp only
    rw [List.take_succ_cons, take_of_upTo? hpart]
    rfl
  · split at h
    · rename_i hopen
      obtain ⟨rest, rfl⟩ := List.isPrefixOf_iff_prefix.mp hopen
      obtain ⟨⟨text, n⟩, hpart, rfl⟩ := Option.map_eq_some_iff.mp h
      have htaken : ("literal\x7d".toList ++ rest).take (n + 8) =
          "literal\x7d".toList ++ (text ++ "\x7b/literal\x7d".toList) := by
        rw [← take_of_upTo? hpart]
        rfl
      have hinside : (("literal\x7d".toList ++ (text ++ "\x7b/literal\x7d".toList)).take
          (("literal\x7d".toList ++ (text ++ "\x7b/literal\x7d".toList)).length - 10)).drop 8 =
            text := by
        rw [← List.append_assoc]
        simp
      dsimp only
      rw [htaken, Construct.region, hinside]
      rfl
    · split at h
      · rename_i hopen
        obtain ⟨rest, rfl⟩ := List.isPrefixOf_iff_prefix.mp hopen
        obtain ⟨⟨code, n⟩, hpart, rfl⟩ := Option.map_eq_some_iff.mp h
        have htaken : ("php\x7d".toList ++ rest).take (n + 4) =
            "php\x7d".toList ++ (code ++ "\x7b/php\x7d".toList) := by
          rw [← take_of_upTo? hpart]
          rfl
        dsimp only
        rw [htaken]
        rfl
      · split at h
        · rename_i hopen
          obtain ⟨rest, rfl⟩ := List.isPrefixOf_iff_prefix.mp hopen
          split at h
          · rename_i s hrest
            obtain rfl : rest = '}' :: s := hrest
            obtain rfl := Option.some.inj h
            rfl
          · rename_i c s _ hrest
            obtain rfl : rest = c :: s := hrest
            split at h
            · obtain ⟨⟨attributes, n⟩, hpart, rfl⟩ := Option.map_eq_some_iff.mp h
              have htaken : ("ts".toList ++ c :: s).take (n + 2) =
                  "ts".toList ++ (attributes ++ ['}']) := by
                rw [← take_of_upTo? hpart]
                rfl
              dsimp only
              rw [htaken]
              rfl
            · cases h
          · cases h
        · cases h

/-! ## Reading region by region -/

/-- What a tag has to be translated: its block, or else what its attribute says. -/
def tagText (source : Text) : Option Text → Option Text
  | some block => blockText? block
  | none => ((attributes source).get? "msgid".toList).join

/-- What a region contributes that starts on this line, with these lines for translators. -/
def Region.events (path : Text) (tag : Option Text) (line : Int) (comments : List Text) :
    Region → List Event
  | php code => Php.codeEvents tag line code
  | .tag source block => tagEvents path line comments (attributes source) (tagText source block)
  | openTag _ _ => [.notice (.openTag path line)]
  | _ => []

/-- The lines that are carried on behind a region. -/
def Region.pending (tag : Option Text) (comments : List Text) : Region → List Text
  | plain c => if Text.isTrimmed c then comments else []
  | comment text => taggedLines tag text
  | _ => []

/-- The text starts with the region, and the reader takes that as a whole and goes on behind it. -/
structure ReadFirst (s : Text) (first : Region × Text) : Prop where
  whole : first.1.source ++ first.2 = s
  events : ∀ path tag line comments, eventsFrom path tag line comments s =
    first.1.events path tag line comments ++
      eventsFrom path tag (line + Text.lineFeeds first.1.source) (first.1.pending tag comments)
        first.2

theorem readFirst_plain {c : Char} {cs : Text}
    (hnone : (if c = '{' then construct? cs else none) = none) :
    ReadFirst (c :: cs) (.plain c, cs) where
  whole := rfl
  events := fun path tag line comments => by
    rw [eventsFrom, hnone]
    rfl

section

variable {cs : Text} {n : Nat}

theorem cons_take_append_drop (c : Char) (cs : Text) (n : Nat) :
    c :: cs.take n ++ cs.drop n = c :: cs :=
  congrArg (c :: ·) (List.take_append_drop n cs)

theorem lineFeeds_brace (s : Text) : Text.lineFeeds ('{' :: s) = Text.lineFeeds s :=
  List.count_cons_of_ne (by decide)

theorem readFirst_construct {construct : Construct} (hfound : construct? cs = some (construct, n))
    (hother : ∀ source, construct ≠ .ts source) :
    ReadFirst ('{' :: cs) (construct.region (cs.take n), cs.drop n) where
  whole := by
    rw [source_region hfound]
    exact cons_take_append_drop '{' cs n
  events := fun path tag line comments => by
    rw [source_region hfound, lineFeeds_brace, eventsFrom, if_pos rfl, hfound]
    cases construct with
    | ts source => exact absurd rfl (hother source)
    | _ => rfl

/-! A tag ends behind its attributes, at the end of its block, or not at all. -/

variable {source : Text} (hfound : construct? cs = some (.ts source, n))

include hfound

theorem source_tag : (Region.tag source none).source = '{' :: cs.take n := source_region hfound

theorem readFirst_tag {msgid : Option Text}
    (hmsgid : (attributes source).get? "msgid".toList = some msgid) :
    ReadFirst ('{' :: cs) (.tag source none, cs.drop n) where
  whole := by
    rw [source_tag hfound]
    exact cons_take_append_drop '{' cs n
  events := fun path tag line comments => by
    rw [source_tag hfound, lineFeeds_brace, eventsFrom, if_pos rfl, hfound, Region.events, tagText]
    dsimp only
    rw [hmsgid]
    rfl

theorem readFirst_block {m : Nat} (hmsgid : (attributes source).get? "msgid".toList = none)
    (hclose : Text.position? closeTag (cs.drop n) = some m) :
    ReadFirst ('{' :: cs) (.tag source (some ((cs.drop n).take m)),
      (cs.drop n).drop (m + closeTag.length)) := by
  have hsource : (Region.tag source (some ((cs.drop n).take m))).source =
      '{' :: cs.take n ++ (cs.drop n).take (m + closeTag.length) := by
    rw [take_of_position? hclose, ← source_tag hfound]
    rfl
  refine ⟨?_, fun path tag line comments => ?_⟩
  · rw [hsource, List.append_assoc, List.take_append_drop]
    exact cons_take_append_drop '{' cs n
  · rw [hsource, Text.lineFeeds_append, lineFeeds_brace, Int.natCast_add, ← Int.add_assoc,
      eventsFrom, if_pos rfl, hfound]
    dsimp only
    rw [hmsgid, hclose]
    rfl

theorem readFirst_openTag (hmsgid : (attributes source).get? "msgid".toList = none)
    (hclose : Text.position? closeTag (cs.drop n) = none) :
    ReadFirst ('{' :: cs) (.openTag source (cs.drop n), []) := by
  have hsource : (Region.openTag source (cs.drop n)).source = '{' :: cs.take n ++ cs.drop n := by
    rw [← source_tag hfound]
    rfl
  refine ⟨?_, fun path tag line comments => ?_⟩
  · rw [hsource, List.append_nil]
    exact cons_take_append_drop '{' cs n
  · rw [eventsFrom, List.append_nil, eventsFrom, if_pos rfl, hfound]
    dsimp only
    rw [hmsgid, hclose]
    rfl

end

theorem readFirst_nextRegion (c : Char) (cs : Text) : ReadFirst (c :: cs) (nextRegion c cs) := by
  unfold nextRegion
  split
  · rename_i hnone
    exact readFirst_plain hnone
  · rename_i found hfound
    obtain ⟨rfl, hconstruct⟩ := opens_of_construct hfound
    dsimp only
    split
    · rename_i source hsource
      rw [hsource] at hconstruct
      split
      · rename_i msgid hmsgid
        exact readFirst_tag hconstruct hmsgid
      · rename_i hmsgid
        split
        · rename_i hclose
          exact readFirst_openTag hconstruct hmsgid hclose
        · rename_i hclose
          exact readFirst_block hconstruct hmsgid hclose
    · rename_i hother
      exact readFirst_construct hconstruct hother

theorem Region.source_ne_nil (r : Region) : r.source ≠ [] := by
  cases r with
  | tag source block => cases block <;> exact List.cons_ne_nil _ _
  | _ => exact List.cons_ne_nil _ _

theorem length_nextRegion_lt (c : Char) (cs : Text) :
    (nextRegion c cs).2.length < (c :: cs).length := by
  rw [← (readFirst_nextRegion c cs).whole, List.length_append]
  exact Nat.lt_add_of_pos_left (List.length_pos_iff.mpr (Region.source_ne_nil _))

/-- The regions of a template. -/
def regions : Text → List Region
  | [] => []
  | c :: cs => (nextRegion c cs).1 :: regions (nextRegion c cs).2
termination_by s => s.length
decreasing_by exact length_nextRegion_lt c cs

theorem flatMap_source_regions (s : Text) : (regions s).flatMap Region.source = s := by
  induction hlen : s.length using Nat.strongRecOn generalizing s with
  | ind n ih =>
    subst hlen
    cases s with
    | nil =>
      rw [regions]
      rfl
    | cons c cs =>
      rw [regions, List.flatMap_cons, ih _ (length_nextRegion_lt c cs) _ rfl,
        (readFirst_nextRegion c cs).whole]

/-! ## What is carried along -/

/-- The text of a comment. -/
def Region.commentText? : Region → Option Text
  | comment text => some text
  | _ => none

/-- The text of the last comment, and the source behind it. -/
def lastComment? : List Region → Option (Text × Text)
  | [] => none
  | r :: rs =>
    (lastComment? rs).or (r.commentText?.map fun text => (text, rs.flatMap Region.source))

/-- The lines for translators of a tag behind these regions: those of the last comment, if nothing
is left of the source behind it once it is trimmed. -/
def adjacentLines (tag : Option Text) (before : List Region) : List Text :=
  match lastComment? before with
  | some found => if (Text.trim found.2).isEmpty then taggedLines tag found.1 else []
  | none => []

theorem lastComment?_concat_comment (rs : List Region) (text : Text) :
    lastComment? (rs ++ [.comment text]) = some (text, []) := by
  induction rs with
  | nil => rfl
  | cons r rs ih =>
    rw [List.cons_append, lastComment?, ih]
    rfl

theorem lastComment?_concat {r : Region} (hr : r.commentText? = none) (rs : List Region) :
    lastComment? (rs ++ [r]) = (lastComment? rs).map fun found => (found.1, found.2 ++ r.source) := by
  induction rs with
  | nil => simp [lastComment?, hr]
  | cons first rs ih =>
    rw [List.cons_append, lastComment?, ih, lastComment?, List.flatMap_append]
    cases lastComment? rs with
    | some found => rfl
    | none => cases first.commentText? <;> simp

theorem isEmpty_trim_iff {s : Text} :
    (Text.trim s).isEmpty = true ↔ ∀ c ∈ s, Text.isTrimmed c = true := by
  rw [List.isEmpty_iff, Text.trim, Text.trimRight, List.reverse_eq_nil_iff,
    List.dropWhile_eq_nil_iff]
  simp only [List.mem_reverse]
  constructor
  · intro h c hc
    rw [← List.takeWhile_append_dropWhile (p := Text.isTrimmed) (l := s)] at hc
    rcases List.mem_append.mp hc with hc | hc
    · exact List.mem_takeWhile_imp hc
    · exact h c hc
  · exact fun h c hc => h c ((List.dropWhile_suffix _).subset hc)

/-- Text that is not white space parts a comment from what follows. -/
theorem adjacentLines_concat_of_mem {r : Region} (hr : r.commentText? = none) {c : Char}
    (hc : c ∈ r.source) (hnot : Text.isTrimmed c = false) (tag : Option Text) (rs : List Region) :
    adjacentLines tag (rs ++ [r]) = [] := by
  rw [adjacentLines, lastComment?_concat hr]
  cases lastComment? rs with
  | none => rfl
  | some found =>
    have hstays : ¬ (Text.trim (found.2 ++ r.source)).isEmpty = true := fun hempty =>
      Bool.eq_false_iff.mp hnot (isEmpty_trim_iff.mp hempty c (List.mem_append_right _ hc))
    exact if_neg hstays

/-- What the reader carries along is told by the regions before. -/
theorem adjacentLines_concat (tag : Option Text) (rs : List Region) (r : Region) :
    adjacentLines tag (rs ++ [r]) = r.pending tag (adjacentLines tag rs) := by
  have hbrace : Text.isTrimmed '{' = false := by decide
  cases r with
  | plain c =>
    cases hc : Text.isTrimmed c with
    | false =>
      rw [adjacentLines_concat_of_mem rfl (List.mem_singleton_self c) hc, Region.pending, hc]
      rfl
    | true =>
      rw [Region.pending, hc, adjacentLines, lastComment?_concat rfl, adjacentLines]
      cases lastComment? rs with
      | none => rfl
      | some found =>
        have hsame : (Text.trim (found.2 ++ [c])).isEmpty = (Text.trim found.2).isEmpty := by
          rw [Bool.eq_iff_iff, isEmpty_trim_iff, isEmpty_trim_iff, List.forall_mem_append,
            List.forall_mem_singleton]
          exact and_iff_left hc
        show (if (Text.trim (found.2 ++ [c])).isEmpty then _ else _) = _
        rw [hsame]
        rfl
  | comment text =>
    rw [adjacentLines, lastComment?_concat_comment]
    rfl
  | tag source block =>
    cases block <;> exact adjacentLines_concat_of_mem rfl List.mem_cons_self hbrace tag rs
  | _ => exact adjacentLines_concat_of_mem rfl List.mem_cons_self hbrace tag rs

/-- What a region contributes behind the others: on the line that these lead to, with the lines of
the comment that stands next to it. -/
def Region.eventsBehind (path : Text) (tag : Option Text) (before : List Region) (r : Region) :
    List Event :=
  r.events path tag (1 + Text.lineFeeds (before.flatMap Region.source)) (adjacentLines tag before)

/-- Induction on the length of the text: one region is read, and stands before the others then. -/
theorem eventsFrom_regions (path : Text) (tag : Option Text) (before : List Region) (s : Text) :
    eventsFrom path tag (1 + Text.lineFeeds (before.flatMap Region.source))
        (adjacentLines tag before) s =
      ((regions s).zipIdx before.length).flatMap fun part =>
        part.1.eventsBehind path tag ((before ++ regions s).take part.2) := by
  induction hlen : s.length using Nat.strongRecOn generalizing before s with
  | ind n ih =>
    subst hlen
    cases s with
    | nil =>
      rw [eventsFrom, regions]
      rfl
    | cons c cs =>
      have hrest := ih _ (length_nextRegion_lt c cs) (before ++ [(nextRegion c cs).1]) _ rfl
      rw [List.flatMap_append, List.flatMap_singleton, Text.lineFeeds_append, Int.natCast_add,
        ← Int.add_assoc, adjacentLines_concat, List.length_append, List.length_singleton,
        List.append_assoc, List.singleton_append] at hrest
      rw [(readFirst_nextRegion c cs).events, regions, List.zipIdx_cons, List.flatMap_cons, hrest]
      dsimp only
      rw [List.take_left]
      rfl

/-! ## Which comment reaches which tag -/

/-- The regions between these two are all white space. -/
structure Adjacent (rs : List Region) (i k : Nat) : Prop where
  lt : i < k
  blank : ∀ m, i < m → m < k → ∃ c, rs[m]? = some (.plain c) ∧ Text.isTrimmed c = true

theorem adjacent_succ_iff {rs : List Region} {i k : Nat} (hne : i ≠ k) :
    Adjacent rs i (k + 1) ↔
      Adjacent rs i k ∧ ∃ c, rs[k]? = some (.plain c) ∧ Text.isTrimmed c = true := by
  constructor
  · intro h
    have hlt : i < k := Nat.lt_of_le_of_ne (Nat.le_of_lt_succ h.lt) hne
    exact ⟨⟨hlt, fun m him hmk => h.blank m him (Nat.lt_succ_of_lt hmk)⟩,
      h.blank k hlt (Nat.lt_succ_self k)⟩
  · rintro ⟨h, hk⟩
    refine ⟨Nat.lt_succ_of_lt h.lt, fun m him hmk => ?_⟩
    rcases Nat.lt_succ_iff_lt_or_eq.mp hmk with hmk | rfl
    · exact h.blank m him hmk
    · exact hk

/-- The lines come from a comment next to the place, or there is none and no line either. -/
def LinesFrom (tag : Option Text) (rs : List Region) (k : Nat) (lines : List Text) : Prop :=
  (∃ i text, rs[i]? = some (.comment text) ∧ Adjacent rs i k ∧ lines = taggedLines tag text) ∨
  ((∀ i text, rs[i]? = some (.comment text) → ¬ Adjacent rs i k) ∧ lines = [])

section

variable {tag : Option Text} {rs : List Region} {k : Nat} {r : Region}

theorem ne_of_comment (hr : rs[k]? = some r) (hother : r.commentText? = none) {i : Nat}
    {text : Text} (hi : rs[i]? = some (.comment text)) : i ≠ k := by
  rintro rfl
  obtain rfl := Option.some.inj (hr.symm.trans hi)
  cases hother

/-- Behind text, or a region that is no comment, there is nothing next to the place. -/
theorem linesFrom_parted (hr : rs[k]? = some r) (hother : r.commentText? = none)
    (hparts : ∀ c, r = .plain c → Text.isTrimmed c = false) : LinesFrom tag rs (k + 1) [] := by
  refine .inr ⟨fun i text hi hadjacent => ?_, rfl⟩
  obtain ⟨_, c, hc, hblank⟩ := (adjacent_succ_iff (ne_of_comment hr hother hi)).mp hadjacent
  rw [hparts c (Option.some.inj (hr.symm.trans hc))] at hblank
  cases hblank

/-- Behind a region the lines are those that the reader carries on. -/
theorem LinesFrom.step {lines : List Text} (h : LinesFrom tag rs k lines)
    (hr : rs[k]? = some r) : LinesFrom tag rs (k + 1) (r.pending tag lines) := by
  cases r with
  | plain c =>
    rw [Region.pending]
    cases hc : Text.isTrimmed c with
    | false =>
      refine linesFrom_parted hr rfl fun d hd => ?_
      rw [← Region.plain.inj hd, hc]
    | true =>
      rcases h with ⟨i, text, hi, hadjacent, hlines⟩ | ⟨hnone, hlines⟩
      · exact .inl ⟨i, text, hi, (adjacent_succ_iff (Nat.ne_of_lt hadjacent.lt)).mpr
          ⟨hadjacent, c, hr, hc⟩, hlines⟩
      · refine .inr ⟨fun i text hi hadjacent => hnone i text hi ?_, hlines⟩
        exact ((adjacent_succ_iff (ne_of_comment hr rfl hi)).mp hadjacent).1
  | comment text =>
    exact .inl ⟨k, text, hr, ⟨Nat.lt_succ_self k, fun m hkm hmk => by omega⟩, rfl⟩
  | _ => exact linesFrom_parted hr rfl fun _ hplain => by cases hplain

/-- Induction on the place: what is carried there comes from a comment next to it. -/
theorem linesFrom_adjacentLines (tag : Option Text) (rs : List Region) {k : Nat}
    (hk : k ≤ rs.length) : LinesFrom tag rs k (adjacentLines tag (rs.take k)) := by
  induction k with
  | zero => exact .inr ⟨fun i _ _ h => absurd h.lt (Nat.not_lt_zero i), rfl⟩
  | succ k ih =>
    have hr : rs[k]? = some rs[k] := List.getElem?_eq_getElem hk
    rw [List.take_add_one, hr, Option.toList_some, adjacentLines_concat]
    exact (ih (Nat.le_of_succ_le hk)).step hr

/-- A comment stands next to one tag at most. -/
theorem Adjacent.unique {i k k' : Nat} {a a' : Text} {block block' : Option Text}
    (h : Adjacent rs i k) (h' : Adjacent rs i k') (hk : rs[k]? = some (.tag a block))
    (hk' : rs[k']? = some (.tag a' block')) : k = k' := by
  rcases Nat.lt_trichotomy k k' with hlt | rfl | hlt
  · obtain ⟨c, hc, _⟩ := h'.blank k h.lt hlt
    cases hk.symm.trans hc
  · rfl
  · obtain ⟨c, hc, _⟩ := h.blank k' h'.lt hlt
    cases hk'.symm.trans hc

end

/-- **Comments reach the tag next to them.** The regions are the template, and each contributes on
its line. What a tag contributes has the lines of the last comment before it, if only white
space stands between the two, and else none. So these lines come from a comment with nothing
but white space between it and the tag, no text, no other region and no other tag, or there is
no such comment and no line; and no comment reaches two tags. -/
theorem comments_reach_next_tag (path : Text) (tag : Option Text) (source : Text) :
    (regions source).flatMap Region.source = source ∧
    events path tag source = ((regions source).zipIdx.flatMap fun part =>
      part.1.eventsBehind path tag ((regions source).take part.2)) ∧
    (∀ k a block, (regions source)[k]? = some (.tag a block) →
      (∀ o ∈ occurrences
          (Region.eventsBehind path tag ((regions source).take k) (.tag a block)),
        o.comments = adjacentLines tag ((regions source).take k)) ∧
      LinesFrom tag (regions source) k (adjacentLines tag ((regions source).take k))) ∧
    (∀ i k k' a a' block block', (regions source)[k]? = some (.tag a block) →
      (regions source)[k']? = some (.tag a' block') → Adjacent (regions source) i k →
      Adjacent (regions source) i k' → k = k') := by
  refine ⟨flatMap_source_regions source, ?_, fun k a block hk => ?_, ?_⟩
  · exact eventsFrom_regions path tag [] source
  · obtain ⟨hlt, _⟩ := List.getElem?_eq_some_iff.mp hk
    exact ⟨fun o ho => (mem_occurrences_tagEvents ho).2.1,
      linesFrom_adjacentLines tag _ (Nat.le_of_lt hlt)⟩
  · intro i k k' a a' block block' hk hk' h h'
    exact h.unique h' hk hk'

/-- A comment for two tags, of which the first has a variable in its text. -/
def sharedComment : Text :=
  "\x7b* T: a *\x7d\n\x7bts\x7d\x7b$x\x7d\x7b/ts\x7d\x7bts\x7dy\x7b/ts\x7d".toList

/-- The tag with the variable takes the comment, though it contributes nothing itself. -/
theorem comments_reach_next_tag_shared :
    regions sharedComment = [.comment " T: a ".toList, .plain '\n',
      .tag [] (some "\x7b$x\x7d".toList), .tag [] (some "y".toList)] ∧
    adjacentLines (some "T:".toList) ((regions sharedComment).take 2) = ["T: a".toList] ∧
    (∀ o ∈ occurrences (Region.eventsBehind "p".toList (some "T:".toList)
        ((regions sharedComment).take 3) (.tag [] (some "y".toList))), o.comments = []) ∧
    occurrences (events "p".toList (some "T:".toList) sharedComment) ≠ [] := by
  have hregions : regions sharedComment = [.comment " T: a ".toList, .plain '\n',
      .tag [] (some "\x7b$x\x7d".toList), .tag [] (some "y".toList)] := by decide +kernel
  obtain ⟨_, _, htag, _⟩ := comments_reach_next_tag "p".toList (some "T:".toList) sharedComment
  have hlines : adjacentLines (some "T:".toList) ((regions sharedComment).take 3) = [] := by
    decide +kernel
  refine ⟨hregions, by decide +kernel, fun o ho => ?_, by decide +kernel⟩
  rw [← hlines]
  exact (htag 3 [] (some "y".toList) (by rw [hregions]; rfl)).1 o ho

end MessageHarvest.Smarty
