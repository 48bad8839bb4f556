import MessageHarvest.Proofs.CheckedScanning
import MessageHarvest.Proofs.EarlierStrings

/-! # Reading tokens by index

Calls and settings are read from a list of tokens with an index that moves
through it, and with a stack of the brackets that are open. Here this is
written with indexing that fails outside the list and a stack that fails when
it is empty. Each definition is shown equal to the one over the tokens before
and behind, so none of them fails: an index is compared with the length before
it is used, and the outer bracket stays on the stack until the walk ends
(`closing_eq`). -/
namespace MessageHarvest

namespace Checked

/-! ## Elements at indices -/

/-- The element at an index. -/
def get {α : Type} (xs : List α) (i : Nat) : Checked α := (elementAt xs i).mapError .outOfRange

theorem get_eq {α : Type} {xs : List α} {i : Nat} {x : α} (h : xs[i]? = some x) :
    get xs i = .ok x := by
  have hnonneg : ¬ ((i : Int) < 0) := by omega
  rw [get, elementAt, if_neg hnonneg, Int.toNat_natCast, h]
  rfl

theorem get_append {α : Type} (before : List α) (x : α) (after : List α) :
    get (before ++ x :: after) before.length = .ok x :=
  get_eq (by simp)

theorem get_append_succ {α : Type} (before : List α) (x y : α) (after : List α) :
    get (before ++ x :: y :: after) (before.length + 1) = .ok y :=
  get_eq (by simp)

/-! ## Brackets -/

/-- The number of tokens before the one that closes the last of the open brackets. The innermost
one is on top of the stack. -/
def closing : List Bracket → List Token → Checked (Option Nat)
  | _, [] => pure none
  | stack, t :: ts =>
    match t.opens?, t.closes? with
    | some b, _ => (closing (b :: stack) ts).map (Option.map (· + 1))
    | none, some b =>
      match stack with
      | [] => .error .emptyStack
      | top :: rest =>
        if b ≠ top then pure none
        else if rest.isEmpty then pure (some 0)
        else (closing rest ts).map (Option.map (· + 1))
    | none, none => (closing stack ts).map (Option.map (· + 1))

/-- The outer bracket lies at the bottom of the stack until the walk ends. -/
theorem closing_eq (outer : Bracket) (inner : List Bracket) (ts : List Token) :
    closing (inner ++ [outer]) ts = .ok (closingIndex? outer inner ts) := by
  induction ts generalizing inner with
  | nil => rfl
  | cons t ts ih =>
    rw [closing, closingIndex?]
    cases t.opens? with
    | some b =>
      have hpushed := ih (b :: inner)
      rw [List.cons_append] at hpushed
      simp only [hpushed, map_ok]
    | none =>
      cases t.closes? with
      | none => simp only [ih inner, map_ok]
      | some b =>
        cases inner with
        | nil => by_cases hb : b = outer <;> simp [hb] <;> rfl
        | cons top inner =>
          by_cases hb : b = top
          · simp only [List.cons_append, hb, ne_eq, not_true_eq_false, if_false, if_true,
              ih inner, map_ok]
            simp
          · simp [hb]
            rfl

/-- The arguments of the list that opens at an index. -/
def split (tokens : List Token) (i : Nat) : Checked (Option (List (List Token))) := do
  let t ← get tokens i
  match Bracket.opening? t.text with
  | none => pure none
  | some outer => do
    let close ← closing [outer] (tokens.drop (i + 1))
    pure (close.map fun n => argumentsOf ((tokens.drop (i + 1)).take n))

theorem split_eq {tokens : List Token} {i : Nat} {t : Token} (h : tokens[i]? = some t)
    (hkind : t.kind = .punct) :
    split tokens i = .ok (t.opens?.bind fun outer =>
      (readBracketed? outer (tokens.drop (i + 1))).map Prod.fst) := by
  rw [split, get_eq h, ok_bind, Token.opens?, if_pos hkind]
  cases Bracket.opening? t.text with
  | none => rfl
  | some outer =>
    have hclosing : closing [outer] (tokens.drop (i + 1)) = _ :=
      closing_eq outer [] (tokens.drop (i + 1))
    dsimp only
    rw [hclosing, ok_bind, Option.bind_some, readBracketed?, Option.map_map]
    rfl

/-! ## Keyed items -/

/-- Key and value of an item. -/
def keyedItem (separator : Text) (bareKeys : Bool) (item : List Token) :
    Checked (Option (Text × List Token)) :=
  if item.length < 3 then pure none
  else do
    let mark ← get item 1
    if mark.isPunct separator then do
      let key ← get item 0
      pure ((itemKey? bareKeys key).map (·, item.drop 2))
    else pure none

theorem keyedItem_eq (separator : Text) (bareKeys : Bool) (item : List Token) :
    keyedItem separator bareKeys item = .ok (keyedItem? separator bareKeys item) := by
  match item with
  | [] => rfl
  | [_] => rfl
  | [_, _] => rfl
  | key :: mark :: v :: vs =>
    have hlong : ¬ (key :: mark :: v :: vs).length < 3 := by simp
    have hmark : get (key :: mark :: v :: vs) 1 = .ok mark := get_eq rfl
    have hkey : get (key :: mark :: v :: vs) 0 = .ok key := get_eq rfl
    rw [keyedItem, if_neg hlong, hmark, ok_bind, hkey, ok_bind, keyedItem?]
    split <;> rfl

/-- The keyed items of the bracketed list that the tokens start with. -/
def keyedItems (separator : Text) (bareKeys : Bool) (tokens : List Token) :
    Checked (Option (Keyed (List Token))) :=
  if tokens.isEmpty then pure none
  else do
    let t ← get tokens 0
    if t.kind = .punct then do
      match ← split tokens 0 with
      | none => pure none
      | some arguments => do
        let items ← arguments.mapM (keyedItem separator bareKeys)
        pure (some (Keyed.putAll [] (items.filterMap id)))
    else pure none

theorem keyedItems_eq (separator : Text) (bareKeys : Bool) (tokens : List Token) :
    keyedItems separator bareKeys tokens = .ok (keyedItems? separator bareKeys tokens) := by
  cases tokens with
  | nil => rfl
  | cons t ts =>
    have hfirst : get (t :: ts) 0 = .ok t := get_eq rfl
    rw [keyedItems, if_neg (by simp), hfirst, ok_bind, keyedItems?]
    by_cases hkind : t.kind = .punct
    · have hsplit : split (t :: ts) 0 = .ok (t.opens?.bind fun outer =>
          (readBracketed? outer ts).map Prod.fst) := split_eq (i := 0) rfl hkind
      rw [if_pos hkind, hsplit, ok_bind]
      cases t.opens? with
      | none => rfl
      | some outer =>
        dsimp only [Option.bind_some]
        cases readBracketed? outer ts with
        | none => rfl
        | some read =>
          have hitems : read.1.mapM (keyedItem separator bareKeys) = _ :=
            mapM_ok fun item _ => keyedItem_eq separator bareKeys item
          dsimp only [Option.map_some]
          rw [hitems, ok_bind, List.filterMap_map]
          rfl
    · rw [if_neg hkind, Token.opens?, if_neg hkind]
      rfl

/-! ## Calls -/

/-- The options of a call, which are its second argument. -/
def secondOptions (options : List Token → Checked (Option CallOptions))
    (args : List (List Token)) : Checked (Option CallOptions) :=
  if args.length ≤ 1 then pure (some .empty)
  else do
    let second ← get args 1
    options second

/-- Reads the arguments of a call. -/
def arguments (operator : Text) (options : List Token → Checked (Option CallOptions))
    (name : Token) (args : List (List Token)) : Checked Reading :=
  if args.isEmpty then pure (.refused (.emptyCall name.text name.line))
  else do
    let first ← get args 0
    match literalValue? operator first with
    | none => pure (.refused (.dynamicArgument name.text name.line))
    | some [] => pure .nothing
    | some (c :: cs) => do
      match ← secondOptions options args with
      | none => pure (.refused (.dynamicOptions name.text name.line))
      | some read => pure (.found ⟨c :: cs, name.line, nonEmpty? read.plural, read.context⟩)

theorem arguments_eq {g : CallGrammar} {options : List Token → Checked (Option CallOptions)}
    (hoptions : ∀ ts, options ts = .ok (g.options? ts)) (name : Token) (args : List (List Token)) :
    arguments g.operator options name args = .ok (g.readArguments name args) := by
  cases args with
  | nil => rfl
  | cons first others =>
    have hfirst : get (first :: others) 0 = .ok first := get_eq rfl
    rw [arguments, if_neg (by simp), hfirst, ok_bind]
    simp only [CallGrammar.readArguments]
    cases literalValue? g.operator first with
    | none => rfl
    | some value =>
      cases value with
      | nil => rfl
      | cons c cs =>
        cases others with
        | nil => rfl
        | cons second more =>
          have hsecond : get (first :: second :: more) 1 = .ok second := get_eq rfl
          dsimp only
          rw [secondOptions, if_neg (by simp), hsecond, ok_bind, hoptions, ok_bind]
          cases g.options? second <;> rfl

/-- Reads the call of the name at an index. -/
def call (operator : Text) (options : List Token → Checked (Option CallOptions))
    (tokens : List Token) (i : Nat) : Checked Reading := do
  let name ← get tokens i
  if tokens.length ≤ i + 1 then pure .nothing
  else do
    let t ← get tokens (i + 1)
    if t.isPunct ['('] then do
      match ← split tokens (i + 1) with
      | none => pure (.refused (.openCall name.text name.line))
      | some args => arguments operator options name args
    else pure .nothing

theorem call_eq {g : CallGrammar} {options : List Token → Checked (Option CallOptions)}
    (hoptions : ∀ ts, options ts = .ok (g.options? ts)) (before : List Token) (name : Token)
    (after : List Token) :
    call g.operator options (before ++ name :: after) before.length = .ok (g.read name after) := by
  rw [call, get_append, ok_bind]
  cases after with
  | nil =>
    rw [if_pos (by simp)]
    rfl
  | cons t ts =>
    rw [if_neg (by simp), get_append_succ, ok_bind, CallGrammar.read]
    by_cases hopen : t.isPunct ['('] = true
    · obtain ⟨hkind, htext⟩ : t.kind = .punct ∧ t.text = ['('] := by
        simpa [Token.isPunct] using hopen
      have hat : (before ++ name :: t :: ts)[before.length + 1]? = some t := by simp
      have hround : t.opens? = some .round := by
        rw [Token.opens?, if_pos hkind, htext]
        rfl
      have hdrop : (before ++ name :: t :: ts).drop (before.length + 1 + 1) = ts := by
        rw [Nat.add_assoc, ← List.drop_drop, List.drop_left]
        rfl
      rw [if_pos hopen, if_pos hopen, split_eq hat hkind, ok_bind, hround, hdrop, Option.bind_some]
      cases readBracketed? .round ts with
      | none => rfl
      | some read => exact arguments_eq hoptions name read.1
    · rw [if_neg hopen, if_neg hopen]
      rfl

/-- The token at an index has one of the names and is called. -/
def isCall (names : List Text) (mayFollow : List Token → Nat → Checked Bool)
    (tokens : List Token) (i : Nat) : Checked Bool := do
  let t ← get tokens i
  if t.kind = .name && names.contains t.text then
    if tokens.length ≤ i + 1 then pure false
    else do
      let next ← get tokens (i + 1)
      if next.isPunct ['('] then mayFollow tokens i else pure false
  else pure false

theorem isCall_eq (names : List Text) {mayFollow : List Token → Nat → Checked Bool}
    {before : List Token} {t : Token} {after : List Token} {follows : Bool}
    (h : mayFollow (before ++ t :: after) before.length = .ok follows) :
    isCall names mayFollow (before ++ t :: after) before.length =
      .ok (t.kind = .name && names.contains t.text && after.head?.any (·.isPunct ['(']) &&
        follows) := by
  rw [isCall, get_append, ok_bind]
  cases (t.kind = .name && names.contains t.text : Bool) with
  | false => rfl
  | true =>
    cases after with
    | nil =>
      rw [if_pos rfl, if_pos (by simp)]
      rfl
    | cons next after =>
      rw [if_pos rfl, if_neg (by simp), get_append_succ, ok_bind, h, List.head?_cons,
        Option.any_some]
      cases next.isPunct ['('] <;> rfl

/-- Reads the call that the token at an index may start. -/
def readCall (names : List Text) (mayFollow : List Token → Nat → Checked Bool) (operator : Text)
    (options : List Token → Checked (Option CallOptions)) (tokens : List Token) (i : Nat) :
    Checked Reading := do
  if ← isCall names mayFollow tokens i then call operator options tokens i else pure .nothing

theorem readCall_eq {g : CallGrammar} {options : List Token → Checked (Option CallOptions)}
    (hoptions : ∀ ts, options ts = .ok (g.options? ts)) (names : List Text)
    {mayFollow : List Token → Nat → Checked Bool} {before : List Token} {t : Token}
    {after : List Token} {follows : Bool}
    (h : mayFollow (before ++ t :: after) before.length = .ok follows) :
    readCall names mayFollow g.operator options (before ++ t :: after) before.length =
      .ok (if t.kind = .name && names.contains t.text && after.head?.any (·.isPunct ['(']) &&
          follows then g.read t after else .nothing) := by
  rw [readCall, isCall_eq names h, ok_bind, call_eq hoptions]
  split <;> rfl

/-! ## Comments -/

/-- The comment of the token at an index, or of the tokens that lead up to it. -/
def comment (tokens : List Token) : Nat → Checked (Option Comment)
  | 0 => do
    let t ← get tokens 0
    pure t.comment
  | i + 1 => do
    let t ← get tokens (i + 1)
    match t.comment with
    | some c => pure (some c)
    | none => do
      let p ← get tokens i
      if p.endsStatement then pure none else comment tokens i

theorem comment_eq (before : List Token) (t : Token) (after : List Token) :
    comment (before ++ t :: after) before.length = .ok (t.precedingComment? before.reverse) := by
  induction before using List.reverseRecOn generalizing t after with
  | nil => rfl
  | append_singleton before p ih =>
    have hjoin : before ++ [p] ++ t :: after = before ++ p :: t :: after := by simp
    rw [List.length_append, List.length_singleton, hjoin, comment, get_append_succ, ok_bind,
      get_append, ok_bind, ih p (t :: after), List.reverse_append, List.reverse_singleton,
      List.singleton_append, Token.precedingComment?]
    cases t.comment with
    | some c => rfl
    | none => cases p.endsStatement <;> rfl

/-- What a reading at an index contributes. -/
def report (tag : Option Text) (tokens : List Token) (i : Nat) : Reading → Checked (List Event)
  | .found call => do
    let c ← comment tokens i
    pure [.found ⟨call, commentLines tag c⟩]
  | .refused why => pure [.notice why]
  | .nothing => pure []

theorem report_eq (tag : Option Text) (before : List Token) (t : Token) (after : List Token)
    (r : Reading) :
    report tag (before ++ t :: after) before.length r =
      .ok (Event.ofReading (commentLines tag (t.precedingComment? before.reverse)) r) := by
  cases r with
  | found call =>
    rw [report, comment_eq]
    rfl
  | refused why => rfl
  | nothing => rfl

/-- What the token at an index contributes as a call. -/
def callEvents (readCall : List Token → Nat → Checked Reading) (tag : Option Text)
    (tokens : List Token) (i : Nat) : Checked (List Event) := do
  let reading ← readCall tokens i
  report tag tokens i reading

theorem callEvents_eq {readCall : List Token → Nat → Checked Reading} {before : List Token}
    {t : Token} {after : List Token} {r : Reading}
    (h : readCall (before ++ t :: after) before.length = .ok r) (tag : Option Text) :
    callEvents readCall tag (before ++ t :: after) before.length =
      .ok (Event.ofReading (commentLines tag (t.precedingComment? before.reverse)) r) := by
  rw [callEvents, h, ok_bind, report_eq]

/-! ## Walks over the tokens -/

/-- What the tokens contribute, one index after another. -/
def walk (step : List Token → Nat → Checked (List Event)) (tokens : List Token) :
    Checked (List Event) := do
  let parts ← (List.range tokens.length).mapM (step tokens)
  pure parts.flatten

/-- A walk by index is the walk over the tokens before and behind, if each step is. -/
theorem walk_eq {step : List Token → Nat → Checked (List Event)}
    {events : List Token → List Token → List Event}
    {here : List Token → Token → List Token → List Event}
    (hnil : ∀ before, events before [] = [])
    (hcons : ∀ before t after,
      events before (t :: after) = here before t after ++ events (t :: before) after)
    (hstep : ∀ before t after,
      step (before ++ t :: after) before.length = .ok (here before.reverse t after))
    (tokens : List Token) : walk step tokens = .ok (events [] tokens) := by
  have hrest : ∀ ts before, before ++ ts = tokens →
      ∃ parts, (List.range' before.length ts.length).mapM (step tokens) = .ok parts ∧
        parts.flatten = events before.reverse ts := by
    intro ts
    induction ts with
    | nil => exact fun before _ => ⟨[], rfl, (hnil _).symm⟩
    | cons t ts ih =>
      intro before hall
      obtain ⟨parts, hparts, hflat⟩ := ih (before ++ [t]) (by simpa using hall)
      rw [List.length_append, List.length_singleton] at hparts
      refine ⟨here before.reverse t ts :: parts, ?_, ?_⟩
      · rw [List.length_cons, List.range'_succ, List.mapM_cons, ← hall, hstep, ok_bind, hall,
          hparts]
        rfl
      · rw [List.flatten_cons, hflat, hcons, List.reverse_append, List.reverse_singleton,
          List.singleton_append]
  obtain ⟨parts, hparts, hflat⟩ := hrest tokens [] rfl
  rw [walk, List.range_eq_range']
  rw [List.length_nil] at hparts
  rw [hparts, ok_bind, hflat]
  rfl

end Checked

namespace Php

/-- The second argument is an array in the long form. -/
def checkedIsArray (tokens : List Token) : Checked Bool :=
  if tokens.length ≤ 1 then pure false
  else do
    let t ← Checked.get tokens 0
    let next ← Checked.get tokens 1
    pure (t.kind = .name && Text.asciiLower t.text = "array".toList && next.isPunct ['('])

/-- Items of `array(…)` or `[…]`. -/
def checkedArrayItems (tokens : List Token) : Checked (Option (Keyed (List Token))) := do
  if ← checkedIsArray tokens then Checked.keyedItems "=>".toList false (tokens.drop 1)
  else if tokens.isEmpty then pure none
  else do
    let t ← Checked.get tokens 0
    if t.isPunct ['['] then Checked.keyedItems "=>".toList false tokens else pure none

theorem checkedArrayItems_eq (tokens : List Token) :
    checkedArrayItems tokens = .ok (arrayItems? tokens) := by
  cases tokens with
  | nil => rfl
  | cons t ts =>
    have hfirst : Checked.get (t :: ts) 0 = .ok t := Checked.get_eq rfl
    have harray : checkedIsArray (t :: ts) = .ok (t.kind = .name &&
        Text.asciiLower t.text = "array".toList && ts.head?.any (·.isPunct ['('])) := by
      cases ts with
      | nil => simp [checkedIsArray, pure, Except.pure]
      | cons next ts =>
        have hlong : ¬ (t :: next :: ts).length ≤ 1 := by simp
        have hnext : Checked.get (t :: next :: ts) 1 = .ok next := Checked.get_eq rfl
        rw [checkedIsArray, if_neg hlong, hfirst, Checked.ok_bind, hnext, Checked.ok_bind]
        rfl
    rw [checkedArrayItems, harray, Checked.ok_bind, arrayItems?, List.drop_one, List.tail_cons,
      Checked.keyedItems_eq, Checked.keyedItems_eq, hfirst, Checked.ok_bind]
    split
    · rfl
    · rw [if_neg (by simp)]
      split <;> rfl

/-- The options of a call. -/
def checkedOptions (tokens : List Token) : Checked (Option CallOptions) := do
  match ← checkedArrayItems tokens with
  | none => pure (some .empty)
  | some items => pure (CallOptions.read? ".".toList optionNames items)

theorem checkedOptions_eq (tokens : List Token) :
    checkedOptions tokens = .ok (callOptions? tokens) := by
  rw [checkedOptions, checkedArrayItems_eq, Checked.ok_bind, callOptions?]
  cases arrayItems? tokens <;> rfl

/-- The token before an index lets a name be a function's. -/
def checkedMayFollow (tokens : List Token) (i : Nat) : Checked Bool :=
  if i = 0 then pure true
  else do
    let p ← Checked.get tokens (i - 1)
    if p.isOneOf ["->".toList, "?->".toList] then pure false
    else if p.kind = .name &&
        ["function".toList, "fn".toList, "new".toList].contains (Text.asciiLower p.text) then
      pure false
    else if p.isPunct "::".toList then
      if i < 2 then pure false
      else do
        let q ← Checked.get tokens (i - 2)
        pure (q.kind = .name)
    else pure true

theorem checkedMayFollow_eq (before after : List Token) :
    checkedMayFollow (before ++ after) before.length = .ok (mayFollow before.reverse) := by
  rcases List.eq_nil_or_concat before with rfl | ⟨earlier, p, rfl⟩
  · rfl
  · have hp : Checked.get (earlier.concat p ++ after) (earlier.length + 1 - 1) = .ok p :=
      Checked.get_eq (by simp)
    have hreverse : (earlier.concat p).reverse = p :: earlier.reverse := by simp
    rw [checkedMayFollow, List.length_concat, if_neg (Nat.succ_ne_zero _), hp, Checked.ok_bind,
      hreverse, mayFollow]
    split
    · rfl
    split
    · rfl
    split
    · rcases List.eq_nil_or_concat earlier with rfl | ⟨first, q, rfl⟩
      · rfl
      · have hq : Checked.get ((first.concat q).concat p ++ after)
            ((first.concat q).length + 1 - 2) = .ok q :=
          Checked.get_eq (by simp)
        have hlong : ¬ (first.concat q).length + 1 < 2 := by simp
        rw [if_neg hlong, hq, Checked.ok_bind]
        simp
        rfl
    · rfl

/-- Reads the call that the token at an index may start. -/
def checkedReadCall : List Token → Nat → Checked Reading :=
  Checked.readCall ["ts".toList, "\\ts".toList] checkedMayFollow grammar.operator checkedOptions

theorem checkedReadCall_eq (before : List Token) (t : Token) (after : List Token) :
    checkedReadCall (before ++ t :: after) before.length =
      .ok (readCall before.reverse t after) :=
  Checked.readCall_eq checkedOptions_eq _ (checkedMayFollow_eq before (t :: after))

/-! ## Settings -/

/-- The index behind the literal value that starts at an index. -/
def valueEnd (tokens : List Token) (i : Nat) : Checked Nat :=
  if i < tokens.length then do
    let t ← Checked.get tokens i
    if isValuePart t then valueEnd tokens (i + 1) else pure i
  else pure i
termination_by tokens.length - i

theorem valueEnd_eq (before ts : List Token) :
    valueEnd (before ++ ts) before.length =
      .ok (before.length + (ts.takeWhile isValuePart).length) := by
  induction ts generalizing before with
  | nil =>
    rw [valueEnd, if_neg (by simp)]
    rfl
  | cons t ts ih =>
    rw [valueEnd, if_pos (by simp), Checked.get_append, Checked.ok_bind]
    by_cases hpart : isValuePart t = true
    · have hrest := ih (before ++ [t])
      rw [List.append_assoc, List.singleton_append, List.length_append,
        List.length_singleton] at hrest
      rw [if_pos hpart, hrest, List.takeWhile_cons_of_pos hpart, List.length_cons]
      congr 1
      omega
    · rw [if_neg hpart, List.takeWhile_cons_of_neg hpart]
      rfl

/-- The tokens of the literal value that starts at an index. -/
def checkedValue (tokens : List Token) (start : Nat) :
    Checked (Except (Option Notice) (List Token)) := do
  let stop ← valueEnd tokens start
  if stop = start || tokens.length ≤ stop then pure (.error none)
  else do
    let next ← Checked.get tokens stop
    if next.isOneOf [",".toList, ")".toList, "]".toList] then
      pure (.ok ((tokens.drop start).take (stop - start)))
    else do
      let first ← Checked.get tokens start
      pure (.error (some (.dynamicSetting first.line)))

theorem checkedValue_eq (before ts : List Token) :
    checkedValue (before ++ ts) before.length = .ok (settingValue ts) := by
  -- The value is what is taken from the front, and the rest tells whether it is ended.
  obtain ⟨value, rest, hts, hvalue⟩ : ∃ value rest, ts = value ++ rest ∧
      ts.takeWhile isValuePart = value :=
    ⟨_, _, List.takeWhile_append_dropWhile.symm, rfl⟩
  rw [checkedValue, valueEnd_eq, Checked.ok_bind, settingValue, hvalue]
  subst hts
  cases value with
  | nil => simp [pure, Except.pure]
  | cons first value =>
    cases rest with
    | nil => simp [pure, Except.pure]
    | cons next rest =>
      have hnext : Checked.get (before ++ (first :: value ++ next :: rest))
          (before.length + (first :: value).length) = .ok next :=
        Checked.get_eq (by simp)
      have hfirst : Checked.get (before ++ (first :: value ++ next :: rest)) before.length =
          .ok first :=
        Checked.get_eq (by simp)
      have hinside : ¬ ((before.length + (first :: value).length = before.length ||
          (before ++ (first :: value ++ next :: rest)).length ≤
            before.length + (first :: value).length : Bool) = true) := by
        simp
      rw [if_neg hinside, hnext, Checked.ok_bind, hfirst, Checked.ok_bind, List.drop_left,
        Nat.add_sub_cancel_left, List.take_left, List.drop_left]
      dsimp only
      split <;> rfl

/-- What a literal value contributes, or what is read in its place. -/
def checkedValueEvents (tag : Option Text) (key : Token) :
    Except (Option Notice) (List Token) → Checked (List Event)
  | .error why => pure (why.toList.map .notice)
  | .ok value =>
    match literalValue? ".".toList value with
    | some (c :: cs) => do
      let first ← Checked.get value 0
      pure [.found ⟨⟨c :: cs, first.line, none, none⟩, commentLines tag key.comment⟩]
    | _ => pure []

/-- A literal value has a first token. -/
theorem checkedValueEvents_eq (tag : Option Text) (key : Token)
    (read : Except (Option Notice) (List Token)) :
    checkedValueEvents tag key read = .ok (match read with
      | .error why => why.toList.map .notice
      | .ok tokens =>
        match literalValue? ".".toList tokens with
        | some (c :: cs) =>
          tokens.head?.toList.map fun first =>
            .found ⟨⟨c :: cs, first.line, none, none⟩, commentLines tag key.comment⟩
        | _ => []) := by
  rw [checkedValueEvents.eq_def]
  match read with
  | .error why => rfl
  | .ok [] => rfl
  | .ok (first :: more) =>
    have hfirst : Checked.get (first :: more) 0 = .ok first := Checked.get_eq rfl
    dsimp only
    rw [hfirst]
    cases literalValue? ".".toList (first :: more) with
    | none => rfl
    | some value => cases value <;> rfl

/-- What the token at an index contributes as the key of a literal value. -/
def checkedSettingEvents (tag : Option Text) (keys : List Text) (tokens : List Token) (i : Nat) :
    Checked (List Event) := do
  let t ← Checked.get tokens i
  if !t.value?.any keys.contains || tokens.length ≤ i + 2 then pure []
  else do
    let arrow ← Checked.get tokens (i + 1)
    if arrow.isPunct "=>".toList then do
      let value ← checkedValue tokens (i + 2)
      checkedValueEvents tag t value
    else pure []

theorem checkedSettingEvents_eq (tag : Option Text) (keys : List Text) (before : List Token)
    (t : Token) (after : List Token) :
    checkedSettingEvents tag keys (before ++ t :: after) before.length =
      .ok (settingEvents tag keys t after) := by
  rw [checkedSettingEvents, Checked.get_append, Checked.ok_bind]
  unfold settingEvents
  cases t.value? with
  | none => rfl
  | some key =>
    rw [Option.any_some]
    match after with
    | [] =>
      rw [if_pos (by simp)]
      rfl
    | [arrow] =>
      rw [if_pos (by simp)]
      dsimp only
      split <;> rfl
    | arrow :: first :: rest =>
      have hvalue : checkedValue (before ++ t :: arrow :: first :: rest) (before.length + 2) =
          .ok (settingValue (first :: rest)) := by
        have hread := checkedValue_eq (before ++ [t, arrow]) (first :: rest)
        rwa [List.append_assoc, List.length_append] at hread
      have hlong : ¬ (before ++ t :: arrow :: first :: rest).length ≤ before.length + 2 := by simp
      rw [decide_eq_false hlong, Bool.or_false, Checked.get_append_succ, Checked.ok_bind, hvalue,
        Checked.ok_bind, checkedValueEvents_eq]
      dsimp only
      cases keys.contains key with
      | false => rfl
      | true => cases arrow.isPunct "=>".toList <;> rfl

/-- What the token at an index contributes: the string of a call, or else that of a setting. -/
def checkedMetadataEvents (tag : Option Text) (keys : List Text) (tokens : List Token) (i : Nat) :
    Checked (List Event) := do
  let reading ← checkedReadCall tokens i
  let events ← Checked.report tag tokens i reading
  match reading with
  | .found _ => pure events
  | _ => do
    let setting ← checkedSettingEvents tag keys tokens i
    pure (events ++ setting)

theorem checkedMetadataEvents_eq (tag : Option Text) (keys : List Text) (before : List Token)
    (t : Token) (after : List Token) :
    checkedMetadataEvents tag keys (before ++ t :: after) before.length =
      .ok (metadataEvents tag keys before.reverse t after) := by
  rw [checkedMetadataEvents, checkedReadCall_eq, Checked.ok_bind, Checked.report_eq,
    Checked.ok_bind, checkedSettingEvents_eq, metadataEvents, callEvents]
  cases readCall before.reverse t after <;> rfl

end Php

namespace Script

/-- The options of a call. -/
def checkedOptions (tokens : List Token) : Checked (Option CallOptions) :=
  if tokens.isEmpty then pure (some .empty)
  else do
    let t ← Checked.get tokens 0
    if t.isPunct ['{'] then do
      match ← Checked.keyedItems ":".toList true tokens with
      | none => pure (some .empty)
      | some items => pure (CallOptions.read? "+".toList optionNames items)
    else pure (some .empty)

theorem checkedOptions_eq (tokens : List Token) :
    checkedOptions tokens = .ok (callOptions? tokens) := by
  cases tokens with
  | nil => rfl
  | cons t ts =>
    have hfirst : Checked.get (t :: ts) 0 = .ok t := Checked.get_eq rfl
    rw [checkedOptions, if_neg (by simp), hfirst, Checked.ok_bind, Checked.keyedItems_eq,
      Checked.ok_bind, callOptions?, List.head?_cons, Option.any_some]
    cases t.isPunct ['{'] with
    | false => rfl
    | true =>
      rw [if_pos rfl, if_pos rfl]
      cases keyedItems? ":".toList true (t :: ts) <;> rfl

/-- The token before an index lets a name be a function's. -/
def checkedMayFollow (tokens : List Token) (i : Nat) : Checked Bool :=
  if i = 0 then pure true
  else do
    let p ← Checked.get tokens (i - 1)
    pure (!p.isOneOf [".".toList, "?.".toList] &&
      !(p.kind = .name && p.text = "function".toList))

theorem checkedMayFollow_eq (before after : List Token) :
    checkedMayFollow (before ++ after) before.length = .ok (mayFollow before.reverse) := by
  rcases List.eq_nil_or_concat before with rfl | ⟨earlier, p, rfl⟩
  · rfl
  · have hp : Checked.get (earlier.concat p ++ after) (earlier.length + 1 - 1) = .ok p :=
      Checked.get_eq (by simp)
    have hreverse : (earlier.concat p).reverse = p :: earlier.reverse := by simp
    rw [checkedMayFollow, List.length_concat, if_neg (Nat.succ_ne_zero _), hp, Checked.ok_bind,
      hreverse, mayFollow]
    rfl

/-- Reads the call that the token at an index may start. -/
def checkedReadCall : List Token → Nat → Checked Reading :=
  Checked.readCall ["ts".toList] checkedMayFollow grammar.operator checkedOptions

theorem checkedReadCall_eq (before : List Token) (t : Token) (after : List Token) :
    checkedReadCall (before ++ t :: after) before.length =
      .ok (readCall before.reverse t after) := by
  have hname : ["ts".toList].contains t.text = decide (t.text = "ts".toList) := by
    rw [List.contains_cons, List.contains_nil, Bool.or_false, beq_eq_decide]
  rw [checkedReadCall,
    Checked.readCall_eq checkedOptions_eq _ (checkedMayFollow_eq before (t :: after)), hname]
  rfl

end Script

end MessageHarvest
