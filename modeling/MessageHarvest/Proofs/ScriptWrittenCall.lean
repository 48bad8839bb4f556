import MessageHarvest.Script.Calls
import MessageHarvest.Proofs.ScriptBoundary
import MessageHarvest.Proofs.ScriptQuoting
import MessageHarvest.Proofs.WrittenCode

/-! # Calls in scripts that are written and read back

A call of the marking function is written with its text in pieces, joined by
plus signs, and with its context and plural in an object whose keys are bare
names or literals. Reading the written script gives exactly one string, with
the text, context and plural that were written. Whether an expression may
start does not matter on the way: no part of the call has a slash outside its
quotes, so the parts are read alike in both states. -/
namespace MessageHarvest.Script

/-! ## What is written -/

/-- A text and the quotes in which it is written. -/
structure Piece where
  quoting : Quoting
  text : Text
deriving DecidableEq

/-- The piece as a literal. -/
def Piece.source (p : Piece) : Text := p.quoting.literal p.text

/-- The two ways to write a key. -/
inductive KeyStyle where
  | bare
  | quoted (q : Quoting)
deriving DecidableEq

/-- The key as it is written. -/
def KeyStyle.source : KeyStyle → Text → Text
  | bare, key => key
  | quoted q, key => q.literal key

/-- The value of an option, and how its key is written. -/
structure Property where
  key : KeyStyle
  value : Piece
deriving DecidableEq

/-- The options of a call as they are written. -/
structure OptionObject where
  context : Option Property
  plural : Option Property
  pluralFirst : Bool
deriving DecidableEq

namespace OptionObject

/-- The options with their keys, in the order in which they are written. -/
def items (o : OptionObject) : List (Text × Property) :=
  let context := o.context.toList.map fun p => ("context".toList, p)
  let plural := o.plural.toList.map fun p => ("plural".toList, p)
  if o.pluralFirst then plural ++ context else context ++ plural

/-- One option with its key. -/
def itemSource (item : Text × Property) : Text :=
  item.2.key.source item.1 ++ ": ".toList ++ item.2.value.source

/-- The object. -/
def source (o : OptionObject) : Text :=
  '{' :: (Text.joinWith ", ".toList (o.items.map itemSource) ++ ['}'])

/-- The context that is written. -/
def contextText (o : OptionObject) : Option Text := o.context.map (·.value.text)

/-- The plural that is written. -/
def pluralText (o : OptionObject) : Option Text := o.plural.map (·.value.text)

end OptionObject

/-- The text of a call in pieces. -/
def expressionSource (pieces : List Piece) : Text :=
  Text.joinWith " + ".toList (pieces.map Piece.source)

/-- The second argument of a call, if it has options. -/
def optionsSource (options : Option OptionObject) : Text :=
  (options.map OptionObject.source).elim [] (", ".toList ++ ·)

/-- A script with one call. -/
def callSource (pieces : List Piece) (options : Option OptionObject) : Text :=
  "ts(".toList ++ expressionSource pieces ++ optionsSource options ++ ");".toList

/-! ## Reading part by part -/

/-- How scripts are read: as code in both states. -/
def reader : CodeReader where
  State := Bool
  lexemes := lexemes
  front := lexeme
  after := fun mayStart l => mayStartAfter l mayStart
  inCode := fun _ => True
  isCall := isCall
  grammar := grammar
  tokenEvents := tokenEvents
  cuts := cuts
  front_space := fun _ _ cs hc => lexeme_space _ hc cs
  after_space := fun _ _ => rfl
  inCode_after := fun _ _ _ => trivial
  kind_of_isCall := by
    intro before t after h
    simp only [isCall, Bool.and_eq_true, decide_eq_true_eq] at h
    exact h.1.1.1
  isCall_first := by
    intro name left after hkind htext hopen
    simp [isCall, hkind, htext, hopen, mayFollow]
  events_nil := fun _ _ => rfl
  events_uncalled := by
    intro tag before t after hcall
    rw [tokenEvents, callEvents, readCall, hcall]
    rfl
  events_called := by
    intro tag before t after call hcall hread
    rw [tokenEvents, callEvents, readCall, if_pos hcall, hread]
    rfl

theorem readsLiteral_literal (q : Quoting) (s : Text) : ReadsLiteral reader (q.literal s) s := by
  have hlexeme : ∀ mayStart rest, lexeme mayStart q.mark (q.escape s ++ [q.mark] ++ rest) =
      (.token (.literal s), (q.escape s ++ [q.mark]).length) := by
    intro mayStart rest
    rw [List.append_assoc, List.singleton_append, lexeme_literal, List.length_append]
    rfl
  exact fun line => ⟨_, Reads.single line fun _ rest => hlexeme _ rest, rfl⟩

/-- A word before a character that does not go on with it is a name. -/
theorem lexeme_name (mayStart : Bool) {c : Char} {cs : Text} {d : Char}
    (hc : Text.isNameStart c = true) (hspace : Text.isSpace c = false)
    (hcs : ∀ x ∈ cs, isNamePart x = true) (hd : isNamePart d = false) (rest : Text) :
    lexeme mayStart c (cs ++ d :: rest) = (.token .name, cs.length) := by
  have hne : ∀ e, Text.isNameStart e = false → c ≠ e := by
    rintro e he rfl
    rw [hc] at he
    cases he
  have hslash : c ≠ '/' := hne '/' (by decide)
  have htake : (cs ++ d :: rest).takeWhile isNamePart = cs := by
    rw [List.takeWhile_append_of_pos hcs]
    simp [hd]
  have hcomment : comment? c (cs ++ d :: rest) = none := by
    unfold comment?
    split
    · exact absurd rfl hslash
    · exact absurd rfl hslash
    · rfl
  have hquote : isQuote c = false := by
    simp [isQuote, hne '\'' (by decide), hne '"' (by decide), hne '\x60' (by decide)]
  simp [lexeme, hslash, hspace, hcomment, string?, hquote, opensRegion, hc, htake]

/-- A word before a mark is a name. -/
theorem reads_name {c : Char} {cs : Text} {d : Char} {s : Text} {line : Int} {ts : List Token}
    (hc : Text.isNameStart c = true) (hspace : Text.isSpace c = false)
    (hcs : ∀ x ∈ cs, isNamePart x = true) (hd : isNamePart d = false)
    (h : Reads reader (d :: s) (line + Text.lineFeeds (c :: cs)) ts) :
    Reads reader (c :: cs ++ d :: s) line (⟨.name, c :: cs, line, none⟩ :: ts) :=
  Reads.token (fun _ rest => lexeme_name _ hc hspace hcs hd (s ++ rest)) h

theorem readsMark_of_lexeme {c : Char}
    (h : ∀ mayStart rest, lexeme mayStart c rest = (.token .punct, 0)) :
    ReadsMark reader [c] [c] :=
  readsMark_single fun _ rest => h _ rest

theorem readsMark_comma : ReadsMark reader ", ".toList ",".toList :=
  readsMark_blank ',' [] fun _ _ => rfl

theorem readsMark_plus : ReadsMark reader " + ".toList "+".toList :=
  (readsMark_blank '+' [] fun _ _ => rfl).after_blank

theorem readsMark_colon : ReadsMark reader ": ".toList ":".toList :=
  readsMark_blank ':' [] fun _ _ => rfl

/-! ## The options -/

/-- A bare key is a name that the colon ends. It is read as a key, and not as a call. -/
theorem readsKey_bare {c : Char} {cs : Text} (hc : Text.isNameStart c = true)
    (hspace : Text.isSpace c = false) (hcs : ∀ x ∈ cs, isNamePart x = true)
    (hts : c :: cs ≠ "ts".toList) :
    ReadsKey reader ":".toList true (c :: cs ++ ": ".toList) (c :: cs) := by
  intro line
  obtain ⟨mark, hread, hcolon⟩ := readsMark_colon (line + Text.lineFeeds (c :: cs))
  refine ⟨_, mark, reads_name hc hspace hcs (by decide) hread, by simp, ?_, rfl, hcolon⟩
  refine uncalled_cons (fun before after => ?_) uncalled_nil
  show isCall before _ after = false
  simp only [isCall, hts, decide_false, Bool.and_false, Bool.false_and]

theorem readsKey_source {c : Char} {cs : Text} (style : KeyStyle)
    (hc : Text.isNameStart c = true) (hspace : Text.isSpace c = false)
    (hcs : ∀ x ∈ cs, isNamePart x = true) (hts : c :: cs ≠ "ts".toList) :
    ReadsKey reader ":".toList true (style.source (c :: cs) ++ ": ".toList) (c :: cs) := by
  cases style with
  | bare => exact readsKey_bare hc hspace hcs hts
  | quoted q => exact readsKey_literal true (readsLiteral_literal q _) readsMark_colon

theorem OptionObject.key_of_mem_items {o : OptionObject} {item : Text × Property}
    (h : item ∈ o.items) : item.1 = "context".toList ∨ item.1 = "plural".toList := by
  have hkeys : item ∈ (o.context.toList.map fun p => ("context".toList, p)) ∨
      item ∈ (o.plural.toList.map fun p => ("plural".toList, p)) := by
    unfold OptionObject.items at h
    split at h
    · exact (List.mem_append.mp h).symm
    · exact List.mem_append.mp h
  rcases hkeys with hmem | hmem
  · obtain ⟨p, _, rfl⟩ := List.mem_map.mp hmem
    exact .inl rfl
  · obtain ⟨p, _, rfl⟩ := List.mem_map.mp hmem
    exact .inr rfl

theorem readsArgument_itemSource {o : OptionObject} {item : Text × Property}
    (h : item ∈ o.items) :
    ReadsArgument reader (OptionObject.itemSource item)
      (IsItem ":".toList true (item.1, item.2.value.text)) := by
  refine readsArgument_item ?_ (by decide) (readsLiteral_literal _ _)
  rcases OptionObject.key_of_mem_items h with hkey | hkey
  · rw [hkey]
    exact readsKey_source item.2.key (by decide) (by decide) (List.all_eq_true.mp (by decide))
      (by decide)
  · rw [hkey]
    exact readsKey_source item.2.key (by decide) (by decide) (List.all_eq_true.mp (by decide))
      (by decide)

theorem OptionObject.nodup_items (o : OptionObject) :
    ((o.items.map fun item => (item.1, item.2.value.text)).map Prod.fst).Nodup := by
  obtain ⟨context, plural, pluralFirst⟩ := o
  cases context <;> cases plural <;> cases pluralFirst <;>
    simp [OptionObject.items]

/-- What is read under the option names is what was written, in whatever order. -/
theorem OptionObject.ofItems_items (o : OptionObject) :
    CallOptions.ofItems optionNames (o.items.map fun item => (item.1, item.2.value.text)) =
      ⟨o.contextText, o.pluralText⟩ := by
  obtain ⟨context, plural, pluralFirst⟩ := o
  cases context <;> cases plural <;> cases pluralFirst <;> rfl

/-- The object is one argument, and says what was written. -/
theorem readsArgument_object (o : OptionObject) :
    ReadsArgument reader o.source fun ts =>
      callOptions? ts = some ⟨o.contextText, o.pluralText⟩ := by
  intro line
  obtain ⟨ts, hread, hne, harg, hquiet, hhead, items, hitems, hoptions⟩ :=
    readsArgument_options '{' '}' rfl rfl (readsMark_of_lexeme fun _ _ => rfl)
      (readsMark_of_lexeme fun _ _ => rfl) readsMark_comma
      (fun _ hitem => readsArgument_itemSource hitem) o.nodup_items "+".toList optionNames line
  refine ⟨ts, hread, hne, harg, hquiet, ?_⟩
  show callOptions? ts = _
  rw [callOptions?, if_pos hhead, hitems, ← o.ofItems_items]
  exact hoptions

/-! ## The call -/

/-- The arguments say what was written. -/
theorem reads_arguments {pieces : List Piece} (hne : pieces.flatMap Piece.text ≠ [])
    (options : Option OptionObject) (line : Int) :
    ∃ args ts, Reads reader (expressionSource pieces ++ optionsSource options) line ts ∧
      CommaJoined args ts ∧ Uncalled reader ts ∧
      ∀ name, grammar.readArguments name args =
        .found ⟨pieces.flatMap Piece.text, name.line,
          nonEmpty? (options.bind OptionObject.pluralText),
          options.bind OptionObject.contextText⟩ := by
  obtain ⟨p, ps, rfl⟩ : ∃ p ps, pieces = p :: ps := by
    cases pieces with
    | nil => exact absurd rfl hne
    | cons p ps => exact ⟨p, ps, rfl⟩
  have hexpression := readsArgument_literals
    (fun p : Piece => readsLiteral_literal p.quoting p.text) readsMark_plus (by decide) p ps
  refine reads_callArguments (r := reader)
    ⟨options.bind OptionObject.contextText, options.bind OptionObject.pluralText⟩ hne
    readsMark_comma hexpression ?_ ?_ line
  · intro source hsome
    obtain ⟨o, rfl, rfl⟩ := Option.map_eq_some_iff.mp hsome
    exact readsArgument_object o
  · intro hnone
    rw [Option.map_eq_none_iff.mp hnone]
    rfl

/-- The whole call is read as one string. -/
theorem reads_call {pieces : List Piece} (hne : pieces.flatMap Piece.text ≠ [])
    (options : Option OptionObject) (line : Int) :
    ∃ ts, Reads reader ("ts".toList ++
        '(' :: (expressionSource pieces ++ optionsSource options ++ [')']) ++ [';']) line ts ∧
      ∀ tag, tokenEvents tag [] ts = [.found ⟨⟨pieces.flatMap Piece.text, line,
        nonEmpty? (options.bind OptionObject.pluralText),
        options.bind OptionObject.contextText⟩, []⟩] := by
  refine statement_events (fun hs => ?_) (fun c hc => ?_) fun line' => ?_
  · exact reads_name (by decide) (by decide) (List.all_eq_true.mp (by decide)) (by decide) hs
  · simp only [List.mem_cons, List.not_mem_nil, or_false] at hc
    rcases hc with rfl | rfl | rfl <;> exact readsMark_of_lexeme fun _ _ => rfl
  · obtain ⟨args, ts, hread, hjoined, hquiet, hfound⟩ := reads_arguments hne options line'
    exact ⟨args, ts, hread, hjoined, hquiet, hfound _⟩

theorem events_reads (tag : Option Text) {s : Text} {line : Int} {ts : List Token}
    (h : Reads reader s line ts) : events tag line s = tokenEvents tag [] ts := by
  have hscan : scan line s = ⟨ts.map .token, none⟩ := h.scan_eq true trivial
  rw [events, hscan, Item.significant_bare h.bare]
  rfl

theorem callSource_eq (pieces : List Piece) (options : Option OptionObject) :
    callSource pieces options = "ts".toList ++
      '(' :: (expressionSource pieces ++ optionsSource options ++ [')']) ++ [';'] := by
  unfold callSource
  generalize expressionSource pieces = expression
  generalize optionsSource options = object
  simp

example : callSource [⟨.template, "`$\n".toList⟩, ⟨.double, "a\n\"".toList⟩]
    (some ⟨some ⟨.bare, .single, []⟩, some ⟨.quoted .double, .template, "\\".toList⟩, true⟩) =
    "ts(`\\`\\$\n` + \"a\\n\\\"\", \x7b\"plural\": `\\\\`, context: ''\x7d);".toList := by
  decide

/-- **What is written in a script is found.** For a text in any pieces, in any quotes, with or
without a context and a plural, the script with the call gives exactly one string and nothing
else: the text itself, on the line of the call, with the context as it was written and the plural
unless it is empty. -/
theorem events_script_callSource (tag : Option Text) (line : Int) {pieces : List Piece}
    (hne : pieces.flatMap Piece.text ≠ []) (options : Option OptionObject) :
    events tag line (callSource pieces options) =
      [.found ⟨⟨pieces.flatMap Piece.text, line,
        (options.bind OptionObject.pluralText).filter (· ≠ []),
        options.bind OptionObject.contextText⟩, []⟩] := by
  obtain ⟨ts, hread, hfound⟩ := reads_call hne options line
  rw [callSource_eq, events_reads tag hread, hfound, nonEmpty?_eq_filter]

/-- Texts that hold quotes, backslashes, an embedded expression, a line feed and another call. -/
theorem events_script_callSource_hostile :
    let pieces : List Piece := [⟨.template, "$\x7ba\x7d`\n\\".toList⟩, ⟨.single, "'\n".toList⟩,
      ⟨.double, "\"); ts(\"\\u0041/".toList⟩]
    let options : OptionObject :=
      ⟨some ⟨.quoted .single, .double, []⟩, some ⟨.bare, .template, "%count\x7d".toList⟩, true⟩
    pieces.flatMap Piece.text ≠ [] ∧
      events (some "A".toList) 7 (callSource pieces (some options)) =
        [.found ⟨⟨"$\x7ba\x7d`\n\\'\n\"); ts(\"\\u0041/".toList, 7, some "%count\x7d".toList,
          some []⟩, []⟩] := by
  intro pieces options
  have hne : pieces.flatMap Piece.text ≠ [] := by decide
  exact ⟨hne, events_script_callSource (some "A".toList) 7 hne (some options)⟩

end MessageHarvest.Script
