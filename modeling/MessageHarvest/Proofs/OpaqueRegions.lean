import MessageHarvest.Proofs.EarlierStrings
import MessageHarvest.Proofs.PhpLayout

/-! # Opaque regions of PHP

What stands in a block comment, in backticks or in a heredoc is not read as
code. Such a region is one item, however its text looks, and the scan goes on
behind it as if the rest were all there is. The end of the region is the first
place that can end it, and the hypotheses say that this is the place meant: the
text holds no end of a comment, no backtick, no line with the label.

For the strings that are found this means that a region changes nothing, apart
from a comment that is tagged for translators. A call depends on the tokens
before it only by what `Background` compares. -/
namespace MessageHarvest

/-- What is reported without the comments for translators. -/
def Event.withoutComments : Event → Event
  | found o => found { o with comments := [] }
  | notice n => notice n

namespace Php

/-! ## Regions -/

/-- The block comment around a text. -/
def blockComment (x : Text) : Text := "/*".toList ++ (x ++ "*/".toList)

/-- The line starts, after blanks, with the label as a whole word. -/
def IsLabelLine (label line : Text) : Prop :=
  ∃ blanks after, line = blanks ++ (label ++ after) ∧
    (∀ c ∈ blanks, Text.isBlank c = true) ∧ Text.endsWord after = true

/-- Strings that are not read as literals. What follows must not make the label at the end of a
heredoc a longer word. -/
inductive OpaqueString (rest : Text) : Text → Prop
  | backticks {x : Text} (htick : '\x60' ∉ x) (hslash : '\\' ∉ x) :
      OpaqueString rest ('\x60' :: (x ++ ['\x60']))
  | heredoc {quote label quote' x : Text} (hquote : OptionalQuote quote) (hlabel : IsLabel label)
      (hquote' : OptionalQuote quote')
      (hx : ∀ line ∈ Text.pieces (· = '\n') x, ¬ IsLabelLine label line)
      (hrest : Text.endsWord rest = true) :
      OpaqueString rest
        ("<<<".toList ++ (quote ++ (label ++ (quote' ++ ('\n' :: (x ++ '\n' :: label))))))

/-! ## The end of a heredoc -/

theorem IsLabel.not_mem {label : Text} (h : IsLabel label) : '\n' ∉ label := by
  obtain ⟨c, cs, rfl, hc, hcs⟩ := h
  intro hmem
  rcases List.mem_cons.mp hmem with hfeed | hfeed
  · exact ne_feed_of_isNameStart hc hfeed.symm
  · exact absurd (hcs '\n' hfeed) (by decide)

/-- A word that starts a line, and holds no line feed, stands on the line. -/
theorem prefix_of_line {word line rest : Text} (hword : '\n' ∉ word)
    (h : word <+: line ++ '\n' :: rest) : word <+: line := by
  obtain ⟨r, hr⟩ := h
  rcases List.append_eq_append_iff.mp hr with ⟨after, hline, -⟩ | ⟨extra, rfl, hextra⟩
  · exact ⟨after, hline.symm⟩
  · cases extra with
    | nil => exact ⟨[], by simp⟩
    | cons c extra =>
      obtain ⟨rfl, -⟩ := List.cons.inj hextra
      exact absurd (by simp) hword

/-- Where the label is not found, the line is not the label's. -/
theorem IsLabel.not_isLabelLine {label line : Text} (hlabel : IsLabel label)
    (h : Php.labelHere? label line = none) : ¬ IsLabelLine label line := by
  rintro ⟨blanks, after, rfl, hblanks, hafter⟩
  rw [hlabel.labelHere? hblanks hafter] at h
  cases h

/-- Where the label is found at the start of a line, that line is the label's. -/
theorem isLabelLine_of_labelHere? {label line rest : Text} {n : Nat} (hlabel : '\n' ∉ label)
    (h : labelHere? label (line ++ '\n' :: rest) = some n) : IsLabelLine label line := by
  have hsplit := List.takeWhile_append_dropWhile (p := Text.isBlank) (l := line)
  have hblanks : ∀ c ∈ line.takeWhile Text.isBlank, Text.isBlank c = true :=
    fun c hc => List.mem_takeWhile_imp hc
  generalize line.takeWhile Text.isBlank = blanks at hsplit hblanks
  have hstop : (line.dropWhile Text.isBlank ++ '\n' :: rest).takeWhile Text.isBlank = [] := by
    cases htail : line.dropWhile Text.isBlank with
    | nil => rfl
    | cons c tail =>
      have hc := List.head?_dropWhile_not Text.isBlank line
      rw [htail] at hc
      exact List.takeWhile_cons_of_neg (by simpa using hc)
  generalize line.dropWhile Text.isBlank = tail at hsplit hstop
  subst hsplit
  simp only [labelHere?, List.append_assoc, List.takeWhile_append_of_pos hblanks, hstop,
    List.append_nil, List.drop_left] at h
  split at h
  · rename_i hfound
    obtain ⟨hstarts, hends⟩ := Bool.and_eq_true_iff.mp hfound
    obtain ⟨after, rfl⟩ := prefix_of_line hlabel (List.isPrefixOf_iff_prefix.mp hstarts)
    refine ⟨blanks, after, rfl, hblanks, ?_⟩
    rw [List.append_assoc, List.drop_left] at hends
    cases after with
    | nil => rfl
    | cons c after => exact hends
  · cases h

theorem pieces_eq_cons (s : Text) :
    Text.pieces (· = '\n') s =
      s.takeWhile (· ≠ '\n') :: (Text.pieces (· = '\n') s).tail := by
  induction s with
  | nil => rfl
  | cons c s ih =>
    by_cases hc : c = '\n'
    · subst hc
      rfl
    · rw [Text.pieces, ih]
      simp [hc]

theorem tail_pieces_cons (c : Char) (s : Text) :
    (Text.pieces (· = '\n') (c :: s)).tail =
      if c == '\n' then Text.pieces (· = '\n') s else (Text.pieces (· = '\n') s).tail := by
  by_cases hc : c = '\n'
  · subst hc
    rfl
  · rw [Text.pieces, pieces_eq_cons s]
    simp [hc]

/-- A text and a line feed behind it start with the first line of the text. -/
theorem first_line (s rest : Text) :
    ∃ more, s ++ '\n' :: rest = s.takeWhile (· ≠ '\n') ++ '\n' :: more := by
  induction s with
  | nil => exact ⟨rest, rfl⟩
  | cons c s ih =>
    by_cases hc : c = '\n'
    · subst hc
      exact ⟨s ++ '\n' :: rest, rfl⟩
    · obtain ⟨more, hmore⟩ := ih
      refine ⟨more, ?_⟩
      rw [List.cons_append, hmore, List.takeWhile_cons_of_pos (by simp [hc]), List.cons_append]

/-- No label is found at the start of a text whose first line is not the label's. -/
theorem labelHere?_eq_none {label x : Text} {atStart : Bool} (rest : Text) (hlabel : '\n' ∉ label)
    (hx : ∀ line ∈ (if atStart then Text.pieces (· = '\n') x
      else (Text.pieces (· = '\n') x).tail), ¬ IsLabelLine label line) :
    (if atStart then labelHere? label (x ++ '\n' :: rest) else none) = none := by
  cases atStart with
  | false => rfl
  | true =>
    obtain ⟨more, hmore⟩ := first_line x rest
    rw [if_pos rfl, pieces_eq_cons] at hx
    rw [if_pos rfl, hmore, Option.eq_none_iff_forall_ne_some]
    intro n hn
    exact hx _ List.mem_cons_self (isLabelLine_of_labelHere? hlabel hn)

/-- A heredoc ends at its label, if the label stands on no line before. -/
theorem closingLabel?_of_pieces {label rest : Text} (hlabel : IsLabel label)
    (hrest : Text.endsWord rest = true) {x : Text} {atStart : Bool}
    (hx : ∀ line ∈ (if atStart then Text.pieces (· = '\n') x
      else (Text.pieces (· = '\n') x).tail), ¬ IsLabelLine label line) :
    closingLabel? label atStart (x ++ '\n' :: (label ++ rest)) =
      some (x.length + 1 + label.length) := by
  -- on the text before the label; its first line counts only if the text starts with the line
  induction x generalizing atStart with
  | nil =>
    have hfound : labelHere? label ([] ++ (label ++ rest)) = some (0 + label.length) :=
      hlabel.labelHere? (List.forall_mem_nil _) hrest
    have hclosed : closingLabel? label true (label ++ rest) = some label.length := by
      obtain ⟨c, cs, rfl, -⟩ := hlabel
      rw [List.nil_append, Nat.zero_add, List.cons_append] at hfound
      rw [List.cons_append, closingLabel?, if_pos rfl, hfound]
    have hhere := labelHere?_eq_none (label ++ rest) hlabel.not_mem hx
    rw [List.nil_append] at hhere ⊢
    rw [closingLabel?, hhere]
    show (closingLabel? label true (label ++ rest)).map (· + 1) = _
    rw [hclosed]
    simp [Nat.add_comm]
  | cons c x ih =>
    have hlater : ∀ line ∈ (if c == '\n' then Text.pieces (· = '\n') x
        else (Text.pieces (· = '\n') x).tail), ¬ IsLabelLine label line := by
      intro line hline
      rw [← tail_pieces_cons] at hline
      refine hx line ?_
      split
      · exact List.mem_of_mem_tail hline
      · exact hline
    have hhere := labelHere?_eq_none (label ++ rest) hlabel.not_mem hx
    rw [List.cons_append] at hhere ⊢
    rw [closingLabel?, hhere]
    show (closingLabel? label (c == '\n') (x ++ '\n' :: (label ++ rest))).map (· + 1) = _
    rw [ih hlater, Option.map_some, List.length_cons]
    congr 1
    omega

/-! ## Regions in front of a source -/

/-- What is read in front of a source, and ends before its rest, is one lexeme. -/
theorem scan_front {c : Char} {cs q : Text} {shape : Shape}
    (h : lexeme c (cs ++ q) = (shape, cs.length)) (hwhole : ∀ fault, shape ≠ .broken fault)
    (hcode : leavesInCode ⟨shape, c :: cs⟩ = true) (line : Int) :
    scan true line (c :: cs ++ q) =
      Scan.append ⟨(Lexeme.item? ⟨shape, c :: cs⟩ line).toList, none⟩
        (scan true (line + Text.lineFeeds (c :: cs)) q) := by
  have hfront : front true c (cs ++ q) = (shape, cs.length) := h
  rw [scan, List.cons_append, cuts.scan_cons (s := true) (by rw [hfront]; exact hwhole), hfront]
  simp only [List.take_left, List.drop_left, hcode]
  rfl

theorem lexeme_of_comment? {c : Char} {cs : Text} {n : Nat} (hc : Text.isSpace c = false)
    (hclose : c ≠ '?') (h : comment? c cs = some n) : lexeme c cs = (.comment, n) := by
  rw [lexeme, if_neg (by simp [hclose]), if_neg (by simp [hc]), h]

theorem lexeme_of_string? {c : Char} {cs : Text} {found : Shape × Nat}
    (hc : Text.isSpace c = false) (hclose : c ≠ '?') (h : string? c cs = some found) :
    lexeme c cs = found := by
  rw [lexeme, if_neg (by simp [hclose]), if_neg (by simp [hc]), comment?_of_string? h, h]

theorem scan_blockComment {x : Text} (hx : ¬ "*/".toList <:+: x) (line : Int) (q : Text) :
    scan true line (blockComment x ++ q) =
      Scan.append ⟨[.comment ⟨blockComment x, line⟩], none⟩
        (scan true (line + Text.lineFeeds (blockComment x)) q) := by
  have hend : comment? '/' ('*' :: (x ++ "*/".toList) ++ q) =
      some ('*' :: (x ++ "*/".toList)).length := by
    show (Text.closingComment? (x ++ "*/".toList ++ q)).map (1 + ·) = _
    rw [Text.closingComment?, List.append_assoc, Text.position?_append_word (by decide) hx]
    simp
    omega
  exact scan_front (lexeme_of_comment? (by decide) (by decide) hend) (by simp) rfl line

/-- A heredoc is read up to its label. -/
theorem heredocLength?_of_pieces {quote label quote' x rest : Text} (hquote : OptionalQuote quote)
    (hlabel : IsLabel label) (hquote' : OptionalQuote quote')
    (hx : ∀ line ∈ Text.pieces (· = '\n') x, ¬ IsLabelLine label line)
    (hrest : Text.endsWord rest = true) :
    heredocLength? (quote ++ (label ++ (quote' ++ ('\n' :: (x ++ '\n' :: label)))) ++ rest) =
      some (quote ++ (label ++ (quote' ++ ('\n' :: (x ++ '\n' :: label))))).length := by
  have hclosed : closingLabel? label true (x ++ '\n' :: (label ++ rest)) =
      some (x.length + 1 + label.length) := closingLabel?_of_pieces hlabel hrest hx
  obtain ⟨hword, hbody⟩ := hquote'.heredocBody? (.inl rfl) (x ++ '\n' :: (label ++ rest))
  have hlength : heredocLength?
      ([] ++ (quote ++ (label ++ (quote' ++ (['\n'] ++ (x ++ '\n' :: (label ++ rest))))))) = _ :=
    heredocLength?_of_label (List.forall_mem_nil _) hquote hlabel hword hbody hclosed
  simp only [List.append_assoc, List.cons_append, List.nil_append] at hlength ⊢
  rw [hlength]
  simp only [List.length_append, List.length_cons]
  congr 1
  omega

theorem scan_opaqueString {region q : Text} (h : OpaqueString q region) (line : Int) :
    scan true line (region ++ q) =
      Scan.append ⟨[.token ⟨.interpolated, region, line, none⟩], none⟩
        (scan true (line + Text.lineFeeds region) q) := by
  cases h with
  | @backticks x htick hslash =>
    have hplain : Text.Escaped (Text.InQuotes '\x60' false) x :=
      .of_forall fun c hc =>
        ⟨fun heq => hslash (heq ▸ hc), fun heq => htick (heq ▸ hc), Bool.noConfusion⟩
    have hend : string? '\x60' (x ++ ['\x60'] ++ q) =
        some (.token .interpolated, (x ++ ['\x60']).length) := by
      have hclosed := Text.closingQuote?_of_escaped (by decide) hplain q
      show (Text.closingQuote? '\x60' false (x ++ ['\x60'] ++ q)).map _ = _
      rw [List.append_assoc, List.singleton_append, hclosed, List.length_append]
      rfl
    exact scan_front (lexeme_of_string? (by decide) (by decide) hend) (by simp) rfl line
  | @heredoc quote label quote' x hquote hlabel hquote' hx hrest =>
    have hlength := heredocLength?_of_pieces hquote hlabel hquote' hx hrest
    generalize quote ++ (label ++ (quote' ++ ('\n' :: (x ++ '\n' :: label)))) = body at hlength ⊢
    have hend : string? '<' ('<' :: '<' :: body ++ q) =
        some (.token .interpolated, ('<' :: '<' :: body).length) := by
      show (heredocLength? (body ++ q)).map _ = _
      rw [hlength]
      rfl
    exact scan_front (lexeme_of_string? (by decide) (by decide) hend) (by simp) rfl line

/-- Inline text goes up to the open tag behind it. -/
theorem scan_inline {text : Text} (htext : ¬ "<?".toList <:+: text) (line : Int) (q : Text) :
    scan false line (text ++ "<?php ".toList ++ q) =
      scan true (line + Text.lineFeeds text) q := by
  have hsource : text ++ "<?php ".toList ++ q = text ++ "<?php".toList ++ ([' '] ++ q) := by
    simp
  have hopen : Text.position? "<?".toList (text ++ "<?php".toList ++ ([' '] ++ q)) =
      some text.length := by
    rw [List.append_assoc]
    exact Text.position?_append_word (by decide) htext ("php ".toList ++ q)
  have hlength : markupLength (text ++ "<?php".toList ++ ([' '] ++ q)) =
      (text ++ "<?php".toList).length := by
    rw [markupLength, hopen]
    have hbehind : (text ++ "<?php".toList ++ ([' '] ++ q)).drop (text.length + 2) =
        "php ".toList ++ q := by
      rw [List.append_assoc, List.drop_length_add_append]
      rfl
    simp only [hbehind, List.length_append]
    rfl
  have hfeeds : Text.lineFeeds (text ++ "<?php".toList) = Text.lineFeeds text := by
    rw [Text.lineFeeds_append]
    rfl
  have hblank : scan true (line + Text.lineFeeds text) ([' '] ++ q) =
      scan true (line + Text.lineFeeds text + Text.lineFeeds [' ']) q :=
    (cuts.runsOn_space (s := true) (fun _ cs hc => lexeme_space hc cs) (fun _ => rfl)
      (List.forall_mem_singleton.mpr (by decide)) q).scan _
  rw [hsource, scan_markup, hlength, List.take_left, List.drop_left, hfeeds, hblank]
  simp [Text.lineFeeds]

/-! ## What is found behind a region -/

/-- Two lists of tokens, the nearest first, before which a call is read the same and gets the same
comments. -/
structure Background (tag : Option Text) (before before' : List Token) : Prop where
  named : before.head?.any (·.kind = .name) = before'.head?.any (·.kind = .name)
  mayFollow : mayFollow before = Php.mayFollow before'
  comments : ∀ t : Token, commentLines tag (t.precedingComment? before) =
    commentLines tag (t.precedingComment? before')

theorem Background.cons {tag : Option Text} {before before' : List Token}
    (h : Background tag before before') (p : Token) :
    Background tag (p :: before) (p :: before') := by
  refine ⟨rfl, ?_, ?_⟩
  · rw [Php.mayFollow, Php.mayFollow, h.named]
  · intro t
    rw [Token.precedingComment?, Token.precedingComment?]
    cases t.comment with
    | some c => rfl
    | none =>
      cases p.endsStatement with
      | true => rfl
      | false => exact h.comments p

/-- The same is found behind two lists of tokens that a call does not tell apart. -/
theorem Background.tokenEvents {tag : Option Text} {before before' : List Token}
    (h : Background tag before before') (ts : List Token) :
    Php.tokenEvents tag before ts = Php.tokenEvents tag before' ts := by
  induction ts generalizing before before' with
  | nil => rfl
  | cons t ts ih =>
    have hread : readCall before t ts = readCall before' t ts := by
      rw [readCall, readCall, isCall, isCall, h.mayFollow]
    rw [Php.tokenEvents, Php.tokenEvents, callEvents, callEvents, hread, h.comments, ih (h.cons t)]

/-- An opaque string in front changes nothing about what is found. -/
theorem scanEvents_interpolated (tag : Option Text) (region : Text) (line : Int) (found : Scan) :
    scanEvents tag (Scan.append ⟨[.token ⟨.interpolated, region, line, none⟩], none⟩ found) =
      scanEvents tag found := by
  have hbackground : Background tag [⟨.interpolated, region, line, none⟩] [] := by
    refine ⟨rfl, rfl, ?_⟩
    intro t
    rw [Token.precedingComment?, Token.precedingComment?]
    cases t.comment <;> rfl
  exact congrArg (_ ++ ·) (hbackground.tokenEvents (Item.significant found.items))

/-- A comment in front changes nothing about what is found, if it is not tagged. -/
theorem scanEvents_comment {tag : Option Text} {c : Comment} (hc : taggedLines tag c.body = [])
    (found : Scan) :
    scanEvents tag (Scan.append ⟨[.comment c], none⟩ found) = scanEvents tag found := by
  obtain ⟨items, broken⟩ := found
  refine congrArg (_ ++ ·) ?_
  show tokenEvents tag [] (Item.attach (some c) items) = tokenEvents tag [] (Item.attach none items)
  cases items with
  | nil => rfl
  | cons item items =>
    cases item with
    | comment c' => rfl
    | token t =>
      -- only the first token got the comment
      have hbackground : Background tag [{ t with comment := some c }]
          [{ t with comment := none }] := by
        refine ⟨rfl, rfl, ?_⟩
        intro t'
        simp only [Token.precedingComment?]
        cases t'.comment with
        | some c' => rfl
        | none =>
          show commentLines tag (if t.endsStatement then none else some c) =
            commentLines tag (if t.endsStatement then none else none)
          cases t.endsStatement with
          | true => rfl
          | false => exact hc
      have hfirst : callEvents tag [] { t with comment := some c } (Item.attach none items) =
          callEvents tag [] { t with comment := none } (Item.attach none items) := by
        show Event.ofReading (taggedLines tag c.body) _ = Event.ofReading [] _
        rw [hc]
        rfl
      rw [Item.attach, Item.attach, tokenEvents, tokenEvents, hfirst, hbackground.tokenEvents]

/-- Without a tag the same is found, and no comments. -/
theorem scanEvents_none (tag : Option Text) (found : Scan) :
    scanEvents none found = (scanEvents tag found).map Event.withoutComments := by
  have htokens : ∀ before ts, tokenEvents none before ts =
      (tokenEvents tag before ts).map Event.withoutComments := by
    intro before ts
    induction ts generalizing before with
    | nil => rfl
    | cons t ts ih =>
      have hhere : callEvents none before t ts =
          (callEvents tag before t ts).map Event.withoutComments := by
        have hnone : commentLines none (t.precedingComment? before) = [] := by
          cases t.precedingComment? before <;> rfl
        rw [callEvents, callEvents, hnone]
        cases readCall before t ts <;> rfl
      rw [tokenEvents, tokenEvents, hhere, ih, List.map_append]
  rw [scanEvents, scanEvents, htokens, List.map_append, List.map_map]
  rfl

theorem body_blockComment (x : Text) (line : Int) : Comment.body ⟨blockComment x, line⟩ = x := by
  have hsuffix : "*/".toList.isSuffixOf (blockComment x) = true := by
    rw [List.isSuffixOf_iff_suffix]
    exact (List.suffix_append x _).trans (List.suffix_append _ _)
  have hinner : ((blockComment x).take ((blockComment x).length - 2)).drop 2 = x := by
    simp [blockComment]
  show (if "*/".toList.isSuffixOf (blockComment x) then
    ((blockComment x).take ((blockComment x).length - 2)).drop 2 else _) = x
  rw [if_pos hsuffix, hinner]

/-- **An opaque region is one item and nothing in it is found.** In front of a source a block
comment or an opaque string is a single item, and the source is scanned as without it, on its own
lines. What is found is the same, except that a tagged comment goes to a call behind it. Inline
text goes up to the first open tag, and the code behind that is scanned as code alone. -/
theorem opaque_regions_are_single_items (tag : Option Text) (line : Int) (q : Text) :
    (∀ x : Text, ¬ "*/".toList <:+: x →
      scan true line (blockComment x ++ q) =
          Scan.append ⟨[.comment ⟨blockComment x, line⟩], none⟩
            (scan true (line + Text.lineFeeds (blockComment x)) q) ∧
        (codeEvents tag line (blockComment x ++ q)).map Event.withoutComments =
          (codeEvents tag (line + Text.lineFeeds (blockComment x)) q).map
            Event.withoutComments ∧
        (taggedLines tag x = [] → codeEvents tag line (blockComment x ++ q) =
          codeEvents tag (line + Text.lineFeeds (blockComment x)) q)) ∧
    (∀ region : Text, OpaqueString q region →
      scan true line (region ++ q) =
          Scan.append ⟨[.token ⟨.interpolated, region, line, none⟩], none⟩
            (scan true (line + Text.lineFeeds region) q) ∧
        codeEvents tag line (region ++ q) = codeEvents tag (line + Text.lineFeeds region) q) ∧
    (∀ text : Text, ¬ "<?".toList <:+: text →
      scan false line (text ++ "<?php ".toList ++ q) =
          scan true (line + Text.lineFeeds text) q ∧
        events tag (text ++ "<?php ".toList ++ q) =
          codeEvents tag (1 + Text.lineFeeds text) q) := by
  refine ⟨?_, ?_, ?_⟩
  · intro x hx
    have hscan := scan_blockComment hx line q
    have huntagged : ∀ tag, taggedLines tag x = [] → codeEvents tag line (blockComment x ++ q) =
        codeEvents tag (line + Text.lineFeeds (blockComment x)) q := by
      intro tag htag
      rw [codeEvents, hscan, scanEvents_comment (by rw [body_blockComment, htag]), codeEvents]
    refine ⟨hscan, ?_, huntagged tag⟩
    rw [codeEvents, codeEvents, ← scanEvents_none, ← scanEvents_none]
    exact huntagged none rfl
  · intro region hregion
    have hscan := scan_opaqueString hregion line
    refine ⟨hscan, ?_⟩
    rw [codeEvents, hscan, scanEvents_interpolated, codeEvents]
  · intro text htext
    refine ⟨scan_inline htext line q, ?_⟩
    rw [events, scan_inline htext, codeEvents]

/-- A comment, a heredoc and inline text that hold a call and look like the start of something
else. Only the call behind them is found. -/
theorem opaque_regions_are_single_items_calls :
    (¬ "*/".toList <:+: "ts('a') \" ?>\n* /".toList ∧
      codeEvents (some "i18n".toList) 1
          (blockComment "ts('a') \" ?>\n* /".toList ++ ";ts('b')".toList) =
        [.found ⟨⟨"b".toList, 2, none, none⟩, []⟩]) ∧
    (OpaqueString ";ts('b')".toList "<<<'TXT'\nts('a') /*\n TXTS <?php\nTXT".toList ∧
      codeEvents (some "i18n".toList) 1
          ("<<<'TXT'\nts('a') /*\n TXTS <?php\nTXT".toList ++ ";ts('b')".toList) =
        [.found ⟨⟨"b".toList, 4, none, none⟩, []⟩]) ∧
    (¬ "<?".toList <:+: "ts('a') ?> <\n".toList ∧
      events (some "i18n".toList)
          ("ts('a') ?> <\n".toList ++ "<?php ".toList ++ ";ts('b')".toList) =
        [.found ⟨⟨"b".toList, 2, none, none⟩, []⟩]) := by
  have hlabel : IsLabel "TXT".toList :=
    ⟨'T', "XT".toList, rfl, by decide, List.all_eq_true.mp (by decide)⟩
  have hlines : ∀ line ∈ Text.pieces (· = '\n') "ts('a') /*\n TXTS <?php".toList,
      ¬ IsLabelLine "TXT".toList line := by
    intro line hline
    have hnone : (Text.pieces (· = '\n') "ts('a') /*\n TXTS <?php".toList).all
        (labelHere? "TXT".toList · == none) = true := by decide
    exact hlabel.not_isLabelLine (beq_iff_eq.mp (List.all_eq_true.mp hnone line hline))
  have hparts : "<<<'TXT'\nts('a') /*\n TXTS <?php\nTXT".toList =
      "<<<".toList ++ (['\''] ++ ("TXT".toList ++ (['\''] ++
        ('\n' :: ("ts('a') /*\n TXTS <?php".toList ++ '\n' :: "TXT".toList))))) := by
    decide +kernel
  have hregion : OpaqueString ";ts('b')".toList
      "<<<'TXT'\nts('a') /*\n TXTS <?php\nTXT".toList := by
    rw [hparts]
    exact .heredoc (.inr (.inr rfl)) hlabel (.inr (.inr rfl)) hlines (by decide)
  have hcomment : ¬ "*/".toList <:+: "ts('a') \" ?>\n* /".toList := by decide +kernel
  have hinline : ¬ "<?".toList <:+: "ts('a') ?> <\n".toList := by decide +kernel
  obtain ⟨hblock, hstring, htext⟩ :=
    opaque_regions_are_single_items (some "i18n".toList) 1 ";ts('b')".toList
  refine ⟨⟨hcomment, ?_⟩, ⟨hregion, ?_⟩, ⟨hinline, ?_⟩⟩
  · have huntagged : taggedLines (some "i18n".toList) "ts('a') \" ?>\n* /".toList = [] := by
      decide +kernel
    rw [(hblock _ hcomment).2.2 huntagged]
    decide +kernel
  · rw [(hstring _ hregion).2]
    decide +kernel
  · rw [(htext _ hinline).2]
    decide +kernel

end Php

end MessageHarvest
