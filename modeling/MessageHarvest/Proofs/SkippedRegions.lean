import MessageHarvest.Proofs.MalformedText
import MessageHarvest.Proofs.RepeatedInsertion
import MessageHarvest.Proofs.ShiftedLines

/-! # Skipped regions of templates and markup

Literal regions and comments are passed over, whatever stands in them. Such a
region ends at the first place of its closing word, and behind it the reader is
where it starts: no comment is pending, and only the line is another one. So
the source behind the region contributes what it contributes alone, moved down
by the lines before it. -/
namespace MessageHarvest

/-- The line behind a text is the line behind its first character and the others. -/
theorem Text.line_cons (line : Int) (c : Char) (s : Text) :
    line + lineFeeds (c :: s) = line + lineFeeds [c] + lineFeeds s := by
  rw [← List.singleton_append, lineFeeds_append, Int.natCast_add, Int.add_assoc]

/-! ## Insertions further down -/

/-- The insertion so many lines further down. -/
def Insertion.down (k : Int) (i : Insertion) : Insertion := { i with line := i.line + k }

theorem Event.insertions_down (path : Text) (k : Int) (events : List Event) :
    insertions path (events.map (Event.down k)) =
      (insertions path events).map (Insertion.down k) := by
  induction events with
  | nil => rfl
  | cons e events ih =>
    cases e with
    | found o => exact congrArg (_ :: ·) ih
    | notice n => exact ih

/-! ## Templates -/

namespace Smarty

/-- Regions of a template that are passed over: literal ones, and comments that are not tagged. -/
inductive Skipped (tag : Option Text) : Text → Prop
  | literal {x : Text} (hx : ¬ "\x7b/literal\x7d".toList <:+: x) :
      Skipped tag ("\x7bliteral\x7d".toList ++ (x ++ "\x7b/literal\x7d".toList))
  | comment {x : Text} (hx : ¬ "*\x7d".toList <:+: x) (htag : taggedLines tag x = []) :
      Skipped tag ("\x7b*".toList ++ (x ++ "*\x7d".toList))

/-- Text without a brace only moves the line, if no comment is pending. -/
theorem eventsFrom_plain {pre : Text} (hpre : '{' ∉ pre) (path : Text) (tag : Option Text)
    (line : Int) (s : Text) :
    eventsFrom path tag line [] (pre ++ s) =
      eventsFrom path tag (line + Text.lineFeeds pre) [] s := by
  induction pre generalizing line with
  | nil => simp [Text.lineFeeds]
  | cons c pre ih =>
    obtain ⟨hc, hrest⟩ := not_or.mp (mt List.mem_cons.mpr hpre)
    rw [List.cons_append, eventsFrom, if_neg (Ne.symm hc)]
    simp only [ite_self]
    rw [ih hrest, Text.line_cons line c pre]

theorem upTo?_append_word {stop x : Text} (hstop : Text.isUnbordered stop = true)
    (hx : ¬ stop <:+: x) (rest : Text) :
    upTo? stop (x ++ (stop ++ rest)) = some (x, (x ++ stop).length) := by
  rw [upTo?, Text.position?_append_word hstop hx]
  simp

/-- A region that is passed over only moves the line. -/
theorem Skipped.eventsFrom {tag : Option Text} {region : Text} (h : Skipped tag region)
    (path : Text) (line : Int) (post : Text) :
    Smarty.eventsFrom path tag line [] (region ++ post) =
      Smarty.eventsFrom path tag (line + Text.lineFeeds region) [] post := by
  have hfeeds : ∀ body, Text.lineFeeds ('{' :: body) = Text.lineFeeds body :=
    fun body => List.count_cons_of_ne (by decide)
  cases h with
  | @literal x hx =>
    have hfound : construct? ("literal\x7d".toList ++ (x ++ "\x7b/literal\x7d".toList) ++ post) =
        some (.literal, ("literal\x7d".toList ++ (x ++ "\x7b/literal\x7d".toList)).length) := by
      show (upTo? "\x7b/literal\x7d".toList (x ++ "\x7b/literal\x7d".toList ++ post)).map _ = _
      rw [List.append_assoc, upTo?_append_word (by decide) hx]
      simp
    show Smarty.eventsFrom path tag line []
      ('{' :: ("literal\x7d".toList ++ (x ++ "\x7b/literal\x7d".toList) ++ post)) = _
    rw [Smarty.eventsFrom, if_pos rfl, hfound]
    simp only [List.take_left, List.drop_left]
    rw [← hfeeds]
    rfl
  | @comment x hx htag =>
    have hfound : construct? ('*' :: (x ++ "*\x7d".toList) ++ post) =
        some (.comment x, ('*' :: (x ++ "*\x7d".toList)).length) := by
      show (upTo? "*\x7d".toList (x ++ "*\x7d".toList ++ post)).map _ = _
      rw [List.append_assoc, upTo?_append_word (by decide) hx]
      rfl
    show Smarty.eventsFrom path tag line [] ('{' :: ('*' :: (x ++ "*\x7d".toList) ++ post)) = _
    rw [Smarty.eventsFrom, if_pos rfl, hfound]
    simp only [List.take_left, List.drop_left, htag]
    rw [← hfeeds]
    rfl

/-- A region that is passed over contributes nothing. -/
theorem Skipped.events {tag : Option Text} {region pre : Text} (h : Skipped tag region)
    (hpre : '{' ∉ pre) (path post : Text) :
    Smarty.events path tag (pre ++ region ++ post) =
      (Smarty.events path tag post).map (Event.down (Text.lineFeeds (pre ++ region))) := by
  rw [Smarty.events, List.append_assoc, eventsFrom_plain hpre, h.eventsFrom, Int.add_assoc,
    ← Int.natCast_add, ← Text.lineFeeds_append, eventsFrom_down, Smarty.events]

end Smarty

/-! ## Markup -/

namespace Markup

theorem drop_tagRests (n : Nat) (s : Text) : (tagRests s).drop n = tagRests (s.drop n) := by
  induction s generalizing n with
  | nil => simp [tagRests]
  | cons c s ih =>
    cases n with
    | zero => rfl
    | succ n => exact ih n

/-- A document goes on behind a piece as if it started there. -/
theorem pieces_cons_some {c : Char} {cs : Text} {found : Piece × Nat}
    (h : piece? c cs (tagRests cs) = some found) :
    pieces (c :: cs) = found.1 :: pieces (cs.drop found.2) := by
  have hrests : (tagRests (c :: cs)).drop (found.2 + 1) = tagRests (cs.drop found.2) :=
    drop_tagRests found.2 cs
  have hhere : piece? c cs ((tagRests (c :: cs)).drop 1) = some found := h
  rw [pieces, piecesWith, hhere]
  simp only [hrests]
  rfl

theorem pieces_cons_none {c : Char} {cs : Text} (h : piece? c cs (tagRests cs) = none) :
    pieces (c :: cs) = .plain c :: pieces cs := by
  have hhere : piece? c cs ((tagRests (c :: cs)).drop 1) = none := h
  rw [pieces, piecesWith, hhere]
  rfl

/-- Text in which nothing can start only moves the line. -/
theorem fragments_plain {pre : Text} (hangle : '<' ∉ pre) (hbrace : '{' ∉ pre) (line : Int)
    (s : Text) :
    fragments line (pieces (pre ++ s)) = fragments (line + Text.lineFeeds pre) (pieces s) := by
  induction pre generalizing line with
  | nil => simp [Text.lineFeeds]
  | cons c pre ih =>
    obtain ⟨hc, hangle⟩ := not_or.mp (mt List.mem_cons.mpr hangle)
    obtain ⟨hc', hbrace⟩ := not_or.mp (mt List.mem_cons.mpr hbrace)
    have hplain : piece? c (pre ++ s) (tagRests (pre ++ s)) = none := by
      rw [piece?, if_neg (Ne.symm hc), if_neg (Ne.symm hc')]
    rw [List.cons_append, pieces_cons_none hplain, fragments, ih hangle hbrace,
      Text.line_cons line c pre]
    rfl

/-- The comment around a text. -/
def commentSource (x : Text) : Text := "<!--".toList ++ (x ++ "-->".toList)

/-- A comment only moves the line. -/
theorem fragments_comment {x : Text} (hx : ¬ "-->".toList <:+: x) (line : Int) (post : Text) :
    fragments line (pieces (commentSource x ++ post)) =
      fragments (line + Text.lineFeeds (commentSource x)) (pieces post) := by
  have hfound : comment? ("!--".toList ++ (x ++ "-->".toList) ++ post) =
      some (.comment (commentSource x), ("!--".toList ++ (x ++ "-->".toList)).length) := by
    have hend : Text.position? "-->".toList (x ++ "-->".toList ++ post) = some x.length := by
      rw [List.append_assoc]
      exact Text.position?_append_word (by decide) hx post
    have hlength : x.length + 6 = ("!--".toList ++ (x ++ "-->".toList)).length := by
      simp
    show (Text.position? "-->".toList (x ++ "-->".toList ++ post)).map _ = _
    rw [hend, Option.map_some, hlength, List.take_left]
    rfl
  have hpiece : piece? '<' ("!--".toList ++ (x ++ "-->".toList) ++ post)
      (tagRests ("!--".toList ++ (x ++ "-->".toList) ++ post)) =
        some (.comment (commentSource x), ("!--".toList ++ (x ++ "-->".toList)).length) := by
    rw [piece?, if_pos rfl, hfound, Option.some_or]
  show fragments line (pieces ('<' :: ("!--".toList ++ (x ++ "-->".toList) ++ post))) = _
  rw [pieces_cons_some hpiece, List.drop_left]
  rfl

/-- A comment contributes nothing. -/
theorem findings_comment {pre x : Text} (hangle : '<' ∉ pre) (hbrace : '{' ∉ pre)
    (hx : ¬ "-->".toList <:+: x) (tag : Option Text) (post : Text) :
    findings tag (pre ++ commentSource x ++ post) =
      (findings tag post).down (Text.lineFeeds (pre ++ commentSource x)) := by
  rw [findings, List.append_assoc, fragments_plain hangle hbrace, fragments_comment hx,
    Int.add_assoc, ← Int.natCast_add, ← Text.lineFeeds_append, fragments_down,
    fragmentEvents_down, findings]

end Markup

/-- **Skipped regions contribute nothing.** Behind text in which nothing can start, a literal
region or an untagged comment of a template, and a comment of markup, leave what the rest
contributes as it is alone, on lines that are moved down by those before it. -/
theorem skipped_regions_contribute_nothing (path : Text) (tag : Option Text) {pre : Text}
    (hbrace : '{' ∉ pre) (hangle : '<' ∉ pre) (post : Text) :
    (∀ region : Text, Smarty.Skipped tag region →
      Smarty.events path tag (pre ++ region ++ post) =
          (Smarty.events path tag post).map (Event.down (Text.lineFeeds (pre ++ region))) ∧
        Event.insertions path (Smarty.events path tag (pre ++ region ++ post)) =
          (Event.insertions path (Smarty.events path tag post)).map
            (Insertion.down (Text.lineFeeds (pre ++ region)))) ∧
    (∀ x : Text, ¬ "-->".toList <:+: x →
      Markup.findings tag (pre ++ Markup.commentSource x ++ post) =
          (Markup.findings tag post).down (Text.lineFeeds (pre ++ Markup.commentSource x)) ∧
        Event.insertions path
            (Markup.findings tag (pre ++ Markup.commentSource x ++ post)).events =
          (Event.insertions path (Markup.findings tag post).events).map
            (Insertion.down (Text.lineFeeds (pre ++ Markup.commentSource x)))) := by
  constructor
  · intro region hregion
    have hevents := hregion.events hbrace path post
    refine ⟨hevents, ?_⟩
    rw [hevents, Event.insertions_down]
  · intro x hx
    have hfindings := Markup.findings_comment hangle hbrace hx tag post
    refine ⟨hfindings, ?_⟩
    rw [hfindings]
    exact Event.insertions_down path _ _

/-- A literal region of a template and a comment of markup that hold marked texts and words like
their own end. Only the text behind them is found. -/
theorem skipped_regions_contribute_nothing_marked :
    ('{' ∉ "a\n\x7d".toList ∧ '<' ∉ "a\n\x7d".toList) ∧
    (Smarty.Skipped (some "i18n".toList)
        "\x7bliteral\x7d\x7bts\x7dx\x7b/ts\x7d\n\x7b/literal \x7d\x7b/literal\x7d".toList ∧
      Smarty.events "t.tpl".toList (some "i18n".toList)
          ("a\n\x7d".toList ++
            "\x7bliteral\x7d\x7bts\x7dx\x7b/ts\x7d\n\x7b/literal \x7d\x7b/literal\x7d".toList ++
            "\x7bts\x7db\x7b/ts\x7d".toList) =
        [.found ⟨⟨"b".toList, 3, none, none⟩, []⟩]) ∧
    (¬ "-->".toList <:+: "<script>ts('x')</script>\n-- >-".toList ∧
      Markup.findings (some "i18n".toList)
          ("a\n\x7d".toList ++ Markup.commentSource "<script>ts('x')</script>\n-- >-".toList ++
            "\x7b\x7bts('b')\x7d\x7d".toList) =
        ⟨[.found ⟨⟨"b".toList, 3, none, none⟩, []⟩], none⟩) := by
  have hbrace : '{' ∉ "a\n\x7d".toList := by decide +kernel
  have hangle : '<' ∉ "a\n\x7d".toList := by decide +kernel
  have hcomment : ¬ "-->".toList <:+: "<script>ts('x')</script>\n-- >-".toList := by decide +kernel
  have hend : ¬ "\x7b/literal\x7d".toList <:+:
      "\x7bts\x7dx\x7b/ts\x7d\n\x7b/literal \x7d".toList := by
    decide +kernel
  have hparts :
      "\x7bliteral\x7d\x7bts\x7dx\x7b/ts\x7d\n\x7b/literal \x7d\x7b/literal\x7d".toList =
      "\x7bliteral\x7d".toList ++ ("\x7bts\x7dx\x7b/ts\x7d\n\x7b/literal \x7d".toList ++
        "\x7b/literal\x7d".toList) := by
    decide +kernel
  have hregion : Smarty.Skipped (some "i18n".toList)
      "\x7bliteral\x7d\x7bts\x7dx\x7b/ts\x7d\n\x7b/literal \x7d\x7b/literal\x7d".toList := by
    rw [hparts]
    exact .literal hend
  refine ⟨⟨hbrace, hangle⟩, ⟨hregion, ?_⟩, ⟨hcomment, ?_⟩⟩
  · rw [((skipped_regions_contribute_nothing "t.tpl".toList (some "i18n".toList) hbrace hangle
      "\x7bts\x7db\x7b/ts\x7d".toList).1 _ hregion).1]
    decide +kernel
  · rw [((skipped_regions_contribute_nothing "t.html".toList (some "i18n".toList) hbrace hangle
      "\x7b\x7bts('b')\x7d\x7d".toList).2 _ hcomment).1]
    decide +kernel

end MessageHarvest
