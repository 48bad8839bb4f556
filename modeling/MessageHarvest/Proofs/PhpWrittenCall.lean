import MessageHarvest.Php.Calls
import MessageHarvest.Proofs.PhpBoundary
import MessageHarvest.Proofs.PhpQuoting
import MessageHarvest.Proofs.WrittenCode

/-! # Calls that are written and read back

A call of the marking function is written as `ts(…)` with its text in pieces,
and with its context and plural in an array. Reading the written source gives
exactly one string, with the text, context and plural that were written, for
any texts at all. Behind an open tag PHP is code like any other (`reader`), so
what is shown here is how a literal, a name and the marks are read, and that an
array is found in both of its forms. -/
namespace MessageHarvest.Php

/-! ## What is written -/

/-- A text and the quotes in which it is written. -/
structure Piece where
  quoting : Quoting
  text : Text
deriving DecidableEq

/-- The piece as a literal. -/
def Piece.source (p : Piece) : Text := p.quoting.literal p.text

/-- The two ways to write an array. -/
inductive ArrayStyle where
  | brackets
  | function
deriving DecidableEq

/-- What stands before the items of an array. -/
def ArrayStyle.opening : ArrayStyle → Text
  | brackets => "[".toList
  | function => "array(".toList

/-- What stands after the items of an array. -/
def ArrayStyle.closing : ArrayStyle → Text
  | brackets => "]".toList
  | function => ")".toList

/-- The options of a call as they are written. -/
structure OptionArray where
  style : ArrayStyle
  context : Option Piece
  plural : Option Piece
  pluralFirst : Bool
deriving DecidableEq

namespace OptionArray

/-- The options with their keys, in the order in which they are written. -/
def items (o : OptionArray) : List (Text × Piece) :=
  let context := o.context.toList.map fun p => ("context".toList, p)
  let plural := o.plural.toList.map fun p => ("plural".toList, p)
  if o.pluralFirst then plural ++ context else context ++ plural

/-- One option with its key. -/
def itemSource (item : Text × Piece) : Text :=
  Quoting.single.literal item.1 ++ " => ".toList ++ item.2.source

/-- The array. -/
def source (o : OptionArray) : Text :=
  o.style.opening ++ Text.joinWith ", ".toList (o.items.map itemSource) ++ o.style.closing

end OptionArray

/-- The text of a call in pieces. -/
def expressionSource (pieces : List Piece) : Text :=
  Text.joinWith " . ".toList (pieces.map Piece.source)

/-- The second argument of a call, if it has options. -/
def optionsSource : Option OptionArray → Text
  | none => []
  | some o => ", ".toList ++ o.source

/-- A file with one call. -/
def callSource (pieces : List Piece) (options : Option OptionArray) : Text :=
  "<?php ts(".toList ++ expressionSource pieces ++ optionsSource options ++ ");".toList

/-! ## Reading part by part -/

/-- How PHP is read: as code behind an open tag. -/
def reader : CodeReader where
  State := Bool
  lexemes := lexemes
  front := front
  after := fun _ l => leavesInCode l
  inCode := fun inCode => inCode = true
  isCall := isCall
  grammar := grammar
  tokenEvents := tokenEvents
  cuts := cuts
  front_space := by
    rintro _ rfl c cs hc
    exact lexeme_space hc cs
  after_space := by
    rintro _ rfl text
    rfl
  inCode_after := fun _ _ _ => rfl
  kind_of_isCall := by
    intro before t after h
    simp only [isCall, Bool.and_eq_true, decide_eq_true_eq] at h
    exact h.1.1.1
  isCall_first := by
    intro name left after hkind htext hopen
    simp [isCall, hkind, htext, hopen, mayFollow]
  events_nil := fun _ _ => rfl
  events_uncalled := by
    intro tag before t after hcall
    rw [tokenEvents, callEvents, readCall, hcall]
    rfl
  events_called := by
    intro tag before t after call hcall hread
    rw [tokenEvents, callEvents, readCall, if_pos hcall, hread]
    rfl

theorem front_inCode {state : reader.State} (h : reader.inCode state) (c : Char) (cs : Text) :
    reader.front state c cs = lexeme c cs := by
  cases h
  rfl

theorem readsLiteral_literal (q : Quoting) (s : Text) : ReadsLiteral reader (q.literal s) s := by
  have hlexeme : ∀ rest, lexeme q.mark (q.escape s ++ [q.mark] ++ rest) =
      (.token (.literal s), (q.escape s ++ [q.mark]).length) := by
    intro rest
    rw [List.append_assoc, List.singleton_append, lexeme_literal, List.length_append]
    rfl
  exact fun line =>
    ⟨_, Reads.single line fun h rest => (front_inCode h _ _).trans (hlexeme rest), rfl⟩

theorem segmentsLength_of_ne {d : Char} (hd : d ≠ '\\') (rest : Text) :
    segmentsLength (d :: rest) = 0 := by
  rw [segmentsLength.eq_def]
  split
  · simp_all
  · rfl

/-- A word before a character that does not go on with it is a name. -/
theorem lexeme_name {c : Char} {cs : Text} {d : Char} (hc : Text.isNameStart c = true)
    (hspace : Text.isSpace c = false) (hcs : ∀ x ∈ cs, Text.isWord x = true)
    (hd : Text.isWord d = false) (hb : d ≠ '\\') (rest : Text) :
    lexeme c (cs ++ d :: rest) = (.token .name, cs.length) := by
  have hne : ∀ e, Text.isNameStart e = false → c ≠ e := by
    rintro e he rfl
    rw [hc] at he
    cases he
  have hlen : nameLength (cs ++ d :: rest) = cs.length := by
    have htake : (cs ++ d :: rest).takeWhile Text.isWord = cs := by
      rw [List.takeWhile_append_of_pos hcs]
      simp [hd]
    simp only [nameLength, htake]
    rw [List.drop_left, segmentsLength_of_ne hb, Nat.add_zero]
  have hcomment : comment? c (cs ++ d :: rest) = none := by
    unfold comment?
    split
    · exact absurd rfl (hne '/' (by decide))
    · exact absurd rfl (hne '/' (by decide))
    · exact absurd rfl (hne '#' (by decide))
    · exact absurd rfl (hne '#' (by decide))
    · rfl
  have hopen : opensRegion c (cs ++ d :: rest) = false := by
    simp [opensRegion, hne '\'' (by decide), hne '"' (by decide), hne '\x60' (by decide),
      hne '/' (by decide), hne '<' (by decide)]
  have hstring := string?_of_not_opensRegion hopen
  simp [lexeme, hne '?' (by decide), hspace, hcomment, hstring, hopen, varName?,
    hne '$' (by decide), name?, hc, hlen]

/-- A word before an opening bracket is a name. -/
theorem reads_name {c : Char} {cs s : Text} {line : Int} {ts : List Token}
    (hc : Text.isNameStart c = true) (hspace : Text.isSpace c = false)
    (hcs : ∀ x ∈ cs, Text.isWord x = true)
    (h : Reads reader ('(' :: s) (line + Text.lineFeeds (c :: cs)) ts) :
    Reads reader (c :: cs ++ '(' :: s) line (⟨.name, c :: cs, line, none⟩ :: ts) := by
  have hlexeme : ∀ rest, lexeme c (cs ++ ('(' :: s ++ rest)) = (.token .name, cs.length) :=
    fun rest => lexeme_name hc hspace hcs (by decide) (by decide) (s ++ rest)
  exact Reads.token (fun h rest => (front_inCode h _ _).trans (hlexeme rest)) h

theorem readsMark_of_lexeme {c : Char} (h : ∀ rest, lexeme c rest = (.token .punct, 0)) :
    ReadsMark reader [c] [c] :=
  readsMark_single fun hstate rest => (front_inCode hstate c rest).trans (h rest)

theorem readsMark_comma : ReadsMark reader ", ".toList ",".toList :=
  readsMark_blank ',' [] fun h _ => front_inCode h _ _

theorem readsMark_dot : ReadsMark reader " . ".toList ".".toList :=
  (readsMark_blank '.' [] fun h _ => front_inCode h _ _).after_blank

theorem readsMark_arrow : ReadsMark reader " => ".toList "=>".toList :=
  (readsMark_blank '=' ['>'] fun h _ => front_inCode h _ _).after_blank

/-! ## The options -/

theorem readsArgument_itemSource (item : Text × Piece) :
    ReadsArgument reader (OptionArray.itemSource item)
      (IsItem "=>".toList false (item.1, item.2.text)) :=
  readsArgument_item (readsKey_literal false (readsLiteral_literal .single item.1) readsMark_arrow)
    (by decide) (readsLiteral_literal item.2.quoting item.2.text)

theorem OptionArray.nodup_items (o : OptionArray) :
    ((o.items.map fun item => (item.1, item.2.text)).map Prod.fst).Nodup := by
  obtain ⟨style, context, plural, pluralFirst⟩ := o
  cases context <;> cases plural <;> cases pluralFirst <;>
    simp [OptionArray.items]

/-- What is read under the option names is what was written, in whatever order. -/
theorem OptionArray.ofItems_items (o : OptionArray) :
    CallOptions.ofItems optionNames (o.items.map fun item => (item.1, item.2.text)) =
      ⟨o.context.map Piece.text, o.plural.map Piece.text⟩ := by
  obtain ⟨style, context, plural, pluralFirst⟩ := o
  cases context <;> cases plural <;> cases pluralFirst <;> rfl

theorem arrayItems?_brackets (ts : List Token) (h : ts.head?.any (·.isPunct ['[']) = true) :
    arrayItems? ts = keyedItems? "=>".toList false ts := by
  cases ts with
  | nil => cases h
  | cons left ts =>
    have hopen : left.isPunct ['['] = true := h
    have hkind : left.kind ≠ .name := by
      simp only [Token.isPunct, Bool.and_eq_true, decide_eq_true_eq] at hopen
      simp [hopen.1]
    rw [arrayItems?, if_neg (by simp [hkind]), if_pos hopen]

theorem arrayItems?_function {name : Token} (hname : name.kind = .name)
    (harray : Text.asciiLower name.text = "array".toList) (ts : List Token)
    (h : ts.head?.any (·.isPunct ['(']) = true) :
    arrayItems? (name :: ts) = keyedItems? "=>".toList false ts := by
  rw [arrayItems?, hname, harray, h]
  rfl

/-- The array is one argument, and says what was written. -/
theorem readsArgument_array (o : OptionArray) :
    ReadsArgument reader o.source fun ts =>
      callOptions? ts = some ⟨o.context.map Piece.text, o.plural.map Piece.text⟩ := by
  intro line
  have hitems := fun item (_ : item ∈ o.items) => readsArgument_itemSource item
  cases hstyle : o.style with
  | brackets =>
    obtain ⟨ts, hread, hne, harg, hquiet, hhead, items, hkeyed, hoptions⟩ :=
      readsArgument_options '[' ']' rfl rfl (readsMark_of_lexeme fun _ => rfl)
        (readsMark_of_lexeme fun _ => rfl) readsMark_comma hitems o.nodup_items ".".toList
        optionNames line
    refine ⟨ts, ?_, hne, harg, hquiet, ?_⟩
    · rw [OptionArray.source, hstyle]
      exact hread
    · show callOptions? ts = _
      rw [callOptions?, arrayItems?_brackets ts hhead, hkeyed, ← o.ofItems_items]
      exact hoptions
  | function =>
    obtain ⟨ts, hread, _, harg, hquiet, hhead, items, hkeyed, hoptions⟩ :=
      readsArgument_options '(' ')' rfl rfl (readsMark_of_lexeme fun _ => rfl)
        (readsMark_of_lexeme fun _ => rfl) readsMark_comma hitems o.nodup_items ".".toList
        optionNames (line + Text.lineFeeds "array".toList)
    have hname : Reads reader ("array".toList ++ '(' :: _) line
        (⟨.name, "array".toList, line, none⟩ :: ts) :=
      reads_name (by decide) (by decide) (List.all_eq_true.mp (by decide)) hread
    refine ⟨⟨.name, "array".toList, line, none⟩ :: ts, ?_, List.cons_ne_nil _ _,
      .plain rfl rfl rfl harg, uncalled_cons (fun _ _ => rfl) hquiet, ?_⟩
    · rw [OptionArray.source, hstyle]
      exact hname
    · show callOptions? _ = _
      rw [callOptions?, arrayItems?_function rfl rfl ts hhead, hkeyed, ← o.ofItems_items]
      exact hoptions

/-! ## The call -/

theorem optionsSource_eq (options : Option OptionArray) :
    optionsSource options = (options.map OptionArray.source).elim [] (", ".toList ++ ·) := by
  cases options <;> rfl

/-- The arguments say what was written. -/
theorem reads_arguments {pieces : List Piece} (hne : pieces.flatMap Piece.text ≠ [])
    (options : Option OptionArray) (line : Int) :
    ∃ args ts, Reads reader (expressionSource pieces ++ optionsSource options) line ts ∧
      CommaJoined args ts ∧ Uncalled reader ts ∧
      ∀ name, grammar.readArguments name args =
        .found ⟨pieces.flatMap Piece.text, name.line,
          nonEmpty? ((options.bind OptionArray.plural).map Piece.text),
          (options.bind OptionArray.context).map Piece.text⟩ := by
  obtain ⟨p, ps, rfl⟩ : ∃ p ps, pieces = p :: ps := by
    cases pieces with
    | nil => exact absurd rfl hne
    | cons p ps => exact ⟨p, ps, rfl⟩
  have hexpression := readsArgument_literals
    (fun p : Piece => readsLiteral_literal p.quoting p.text) readsMark_dot (by decide) p ps
  rw [optionsSource_eq]
  refine reads_callArguments (r := reader) ⟨(options.bind OptionArray.context).map Piece.text,
    (options.bind OptionArray.plural).map Piece.text⟩ hne readsMark_comma hexpression ?_ ?_ line
  · intro source hsome
    obtain ⟨o, rfl, rfl⟩ := Option.map_eq_some_iff.mp hsome
    exact readsArgument_array o
  · intro hnone
    rw [Option.map_eq_none_iff.mp hnone]
    rfl

/-- The whole call is read as one string. -/
theorem reads_call {pieces : List Piece} (hne : pieces.flatMap Piece.text ≠ [])
    (options : Option OptionArray) (line : Int) :
    ∃ ts, Reads reader ("ts".toList ++
        '(' :: (expressionSource pieces ++ optionsSource options ++ [')']) ++ [';']) line ts ∧
      ∀ tag, tokenEvents tag [] ts = [.found ⟨⟨pieces.flatMap Piece.text, line,
        nonEmpty? ((options.bind OptionArray.plural).map Piece.text),
        (options.bind OptionArray.context).map Piece.text⟩, []⟩] := by
  refine statement_events (fun hs => ?_) (fun c hc => ?_) fun line' => ?_
  · exact reads_name (by decide) (by decide) (List.all_eq_true.mp (by decide)) hs
  · simp only [List.mem_cons, List.not_mem_nil, or_false] at hc
    rcases hc with rfl | rfl | rfl <;> exact readsMark_of_lexeme fun _ => rfl
  · obtain ⟨args, ts, hread, hjoined, hquiet, hfound⟩ := reads_arguments hne options line'
    exact ⟨args, ts, hread, hjoined, hquiet, hfound _⟩

theorem scanEvents_reads (tag : Option Text) {s : Text} {line : Int} {ts : List Token}
    (h : Reads reader s line ts) : scanEvents tag (scan true line s) = tokenEvents tag [] ts := by
  have hscan : scan true line s = ⟨ts.map .token, none⟩ := h.scan_eq true rfl
  rw [hscan, scanEvents, Item.significant_bare h.bare]
  rfl

theorem scan_open (s : Text) : scan false 1 ("<?php ".toList ++ s) = scan true 1 (' ' :: s) := by
  have hlen : markupLength ("<?php ".toList ++ s) = 5 := rfl
  rw [scan_markup, hlen]
  rfl

theorem callSource_eq (pieces : List Piece) (options : Option OptionArray) :
    callSource pieces options = "<?php ".toList ++ ("ts".toList ++
      '(' :: (expressionSource pieces ++ optionsSource options ++ [')']) ++ [';']) := by
  have hstop : ∀ s t : Text, s ++ t ++ ");".toList = s ++ t ++ [')'] ++ [';'] := by simp
  unfold callSource
  generalize expressionSource pieces = expression
  generalize optionsSource options = array
  rw [List.append_assoc "<?php ts(".toList, List.append_assoc, hstop]
  rfl

example : callSource [⟨.single, "it's".toList⟩, ⟨.double, "$x".toList⟩]
    (some ⟨.function, some ⟨.double, []⟩, some ⟨.single, "\\".toList⟩, true⟩) =
    "<?php ts('it\\'s' . \"\\$x\", array('plural' => '\\\\', 'context' => \"\"));".toList := by
  decide

/-- **What is written is found.** For a text in any pieces, in any quotes, with or without a
context and a plural, the file with the call gives exactly one string and nothing else: the text
itself, on the line of the call, with the context as it was written and the plural unless it is
empty. -/
theorem events_callSource (tag : Option Text) {pieces : List Piece}
    (hne : pieces.flatMap Piece.text ≠ []) (options : Option OptionArray) :
    events tag (callSource pieces options) =
      [.found ⟨⟨pieces.flatMap Piece.text, 1,
        ((options.bind OptionArray.plural).map Piece.text).filter (· ≠ []),
        (options.bind OptionArray.context).map Piece.text⟩, []⟩] := by
  obtain ⟨ts, hread, hfound⟩ := reads_call hne options (1 + Text.lineFeeds [' '])
  rw [events, callSource_eq, scan_open, ← List.singleton_append,
    scanEvents_reads tag ((reads_space 1).append hread), List.nil_append, hfound,
    nonEmpty?_eq_filter]
  rfl

/-- Texts that hold quotes, backslashes, variables, a close tag and another call. -/
theorem events_callSource_hostile :
    let pieces : List Piece :=
      [⟨.double, "\x7b$a\x7d \\\"?>\n".toList⟩, ⟨.single, "'); ts('\\".toList⟩]
    let options : OptionArray := ⟨.function, some ⟨.single, []⟩, some ⟨.double, "$b]".toList⟩, true⟩
    pieces.flatMap Piece.text ≠ [] ∧
      events (some "A".toList) (callSource pieces (some options)) =
        [.found ⟨⟨"\x7b$a\x7d \\\"?>\n'); ts('\\".toList, 1, some "$b]".toList, some []⟩,
          []⟩] := by
  intro pieces options
  have hne : pieces.flatMap Piece.text ≠ [] := by decide
  exact ⟨hne, events_callSource (some "A".toList) hne (some options)⟩

end MessageHarvest.Php
