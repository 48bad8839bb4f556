import MessageHarvest.Dialect
import MessageHarvest.Proofs.EarlierStrings

/-! # The same source further down

Where a source starts decides about the lines that are reported for it, and
about nothing else. The scanners only add to the line they are given, and a
call is read from the kinds and the texts of its tokens: it is read the same
from tokens that were moved or have lost their comments (`Token.Moves`). So
what a source contributes from a later line on is what it contributes from an
earlier one, moved down (`eventsFrom_down`, `fragmentEvents_down`). -/
namespace MessageHarvest

/-! ## Lines moved down -/

/-- The comment so many lines further down. -/
def Comment.down (k : Int) (c : Comment) : Comment := { c with line := c.line + k }

/-- The token and its comment so many lines further down. -/
def Token.down (k : Int) (t : Token) : Token :=
  { t with line := t.line + k, comment := t.comment.map (Comment.down k) }

/-- The token or the comment so many lines further down. -/
def Item.down (k : Int) : Item → Item
  | token t => token (t.down k)
  | comment c => comment (c.down k)

/-- The scan of the same source that starts so many lines further down. -/
def Scan.down (k : Int) (scan : Scan) : Scan :=
  ⟨scan.items.map (Item.down k), scan.broken.map fun b => (b.1, b.2 + k)⟩

/-- The notice about a place so many lines further down. A notice that names no place in a source
stays as it is. -/
def Notice.down (k : Int) : Notice → Notice
  | brokenOff language fault line => brokenOff language fault (line + k)
  | openCall name line => openCall name (line + k)
  | emptyCall name line => emptyCall name (line + k)
  | dynamicArgument name line => dynamicArgument name (line + k)
  | dynamicOptions name line => dynamicOptions name (line + k)
  | dynamicSetting line => dynamicSetting (line + k)
  | openTag path line => openTag path (line + k)
  | dynamicTagText path line => dynamicTagText path (line + k)
  | dynamicTagOption path line => dynamicTagOption path (line + k)
  | pluralConflict msgid path line kept ignored => pluralConflict msgid path (line + k) kept ignored
  | n => n

/-- The marked string so many lines further down. -/
def Call.down (k : Int) (call : Call) : Call := { call with line := call.line + k }

/-- The outcome of reading the same call so many lines further down. -/
def Reading.down (k : Int) : Reading → Reading
  | found call => found (call.down k)
  | refused why => refused (why.down k)
  | nothing => nothing

/-- What is reported for the same source so many lines further down. -/
def Event.down (k : Int) : Event → Event
  | found o => found { o with line := o.line + k }
  | notice n => notice (n.down k)

/-- What is found in the same source so many lines further down. -/
def Findings.down (k : Int) (findings : Findings) : Findings :=
  ⟨findings.events.map (Event.down k), findings.failure⟩

/-! ## Scans -/

theorem Lexeme.item?_down (l : Lexeme) (line k : Int) :
    l.item? (line + k) = (l.item? line).map (Item.down k) := by
  obtain ⟨shape, text⟩ := l
  cases shape <;> rfl

namespace Scan

/-- Lines are counted from the line on which the source starts. -/
theorem ofLexemes_down (ls : List Lexeme) (line k : Int) :
    ofLexemes (line + k) ls = (ofLexemes line ls).down k := by
  induction ls generalizing line with
  | nil => rfl
  | cons l ls ih =>
    by_cases hbroken : ∃ fault, l.shape = .broken fault
    · obtain ⟨fault, hfault⟩ := hbroken
      simp only [ofLexemes, hfault]
      rfl
    · have hl := not_exists.mp hbroken
      rw [ofLexemes_cons hl, ofLexemes_cons hl, Int.add_right_comm, ih, l.item?_down]
      simp [append, down, Option.toList_map]

theorem notices_down (scan : Scan) (language : Language) (k : Int) :
    (scan.down k).notices language = (scan.notices language).map (Notice.down k) := by
  simp [notices, down, Notice.down, Function.comp_def, Option.toList_map]

end Scan

theorem Item.attach_down (k : Int) (pending : Option Comment) (items : List Item) :
    attach (pending.map (Comment.down k)) (items.map (Item.down k)) =
      (attach pending items).map (Token.down k) := by
  induction items generalizing pending with
  | nil => rfl
  | cons item items ih =>
    cases item with
    | comment c => exact ih (some c)
    | token t => exact congrArg (_ :: ·) (ih none)

theorem Item.significant_down (k : Int) (items : List Item) :
    significant (items.map (Item.down k)) = (significant items).map (Token.down k) :=
  attach_down k none items

/-! ## Keyed values under a map -/

namespace Keyed

variable {α β : Type} (f : α → β)

theorem put_map (key : Text) (value : α) (items : Keyed α) :
    put key (f value) (items.map fun item => (item.1, f item.2)) =
      (put key value items).map fun item => (item.1, f item.2) := by
  induction items with
  | nil => rfl
  | cons item items ih =>
    simp only [List.map_cons, put, ih]
    split <;> rfl

theorem putAll_map (items : Keyed α) (new : List (Text × α)) :
    putAll (items.map fun item => (item.1, f item.2)) (new.map fun item => (item.1, f item.2)) =
      (putAll items new).map fun item => (item.1, f item.2) := by
  induction new generalizing items with
  | nil => rfl
  | cons item new ih =>
    have hput := put_map f item.1 item.2 items
    have hrest := ih (put item.1 item.2 items)
    rw [← hput] at hrest
    exact hrest

theorem get?_map (items : Keyed α) (key : Text) :
    get? (items.map fun item => (item.1, f item.2)) key = (get? items key).map f := by
  induction items with
  | nil => rfl
  | cons item items ih =>
    obtain ⟨name, value⟩ := item
    simp only [get?, List.map_cons, List.lookup_cons] at ih ⊢
    cases key == name with
    | true => rfl
    | false => exact ih

end Keyed

/-! ## Calls -/

/-- The map moves the lines of tokens, and changes neither what they are nor how they are
written. It may do anything with comments. -/
structure Token.Moves (k : Int) (m : Token → Token) : Prop where
  kind : ∀ t, (m t).kind = t.kind
  text : ∀ t, (m t).text = t.text
  line : ∀ t, (m t).line = t.line + k

theorem Token.moves_down (k : Int) : Token.Moves k (Token.down k) :=
  ⟨fun _ => rfl, fun _ => rfl, fun _ => rfl⟩

namespace Token.Moves

variable {k : Int} {m : Token → Token} (h : Token.Moves k m)
include h

theorem isPunct (t : Token) (mark : Text) : (m t).isPunct mark = t.isPunct mark := by
  rw [Token.isPunct, h.kind, h.text, Token.isPunct]

theorem isOneOf (t : Token) (marks : List Text) : (m t).isOneOf marks = t.isOneOf marks := by
  rw [Token.isOneOf, h.kind, h.text, Token.isOneOf]

theorem value? (t : Token) : (m t).value? = t.value? := by
  rw [Token.value?, h.kind, Token.value?]

theorem opens? (t : Token) : (m t).opens? = t.opens? := by
  rw [Token.opens?, h.kind, h.text, Token.opens?]

theorem closes? (t : Token) : (m t).closes? = t.closes? := by
  rw [Token.closes?, h.kind, h.text, Token.closes?]

theorem any_isPunct (ts : List Token) (mark : Text) :
    (ts.map m).head?.any (·.isPunct mark) = ts.head?.any (·.isPunct mark) := by
  cases ts with
  | nil => rfl
  | cons t ts => exact h.isPunct t mark

theorem closingIndex? (outer : Bracket) (inner : List Bracket) (ts : List Token) :
    MessageHarvest.closingIndex? outer inner (ts.map m) =
      MessageHarvest.closingIndex? outer inner ts := by
  induction ts generalizing inner with
  | nil => rfl
  | cons t ts ih =>
    rw [List.map_cons, MessageHarvest.closingIndex?, MessageHarvest.closingIndex?, h.opens?,
      h.closes?]
    simp only [ih]

theorem cutAtCommas (depth : Nat) (ts : List Token) :
    MessageHarvest.cutAtCommas depth (ts.map m) =
      (MessageHarvest.cutAtCommas depth ts).map (List.map m) := by
  induction ts generalizing depth with
  | nil => rfl
  | cons t ts ih =>
    have hdepth : (m t).depthAfter depth = t.depthAfter depth := by
      rw [Token.depthAfter, h.opens?, h.closes?, Token.depthAfter]
    rw [List.map_cons, MessageHarvest.cutAtCommas, MessageHarvest.cutAtCommas, h.isPunct, hdepth,
      ih, ih]
    split
    · rfl
    · cases MessageHarvest.cutAtCommas (t.depthAfter depth) ts <;> rfl

theorem argumentsOf (ts : List Token) :
    MessageHarvest.argumentsOf (ts.map m) = (MessageHarvest.argumentsOf ts).map (List.map m) := by
  have hlast : ((MessageHarvest.cutAtCommas 0 ts).map (List.map m)).getLast? = some [] ↔
      (MessageHarvest.cutAtCommas 0 ts).getLast? = some [] := by
    rw [List.getLast?_map]
    cases (MessageHarvest.cutAtCommas 0 ts).getLast? with
    | none => simp
    | some piece => simp
  simp only [MessageHarvest.argumentsOf, h.cutAtCommas, hlast]
  split
  · exact (List.map_dropLast ..).symm
  · rfl

theorem readBracketed? (outer : Bracket) (ts : List Token) :
    MessageHarvest.readBracketed? outer (ts.map m) =
      (MessageHarvest.readBracketed? outer ts).map fun r => (r.1.map (List.map m), r.2) := by
  rw [MessageHarvest.readBracketed?, MessageHarvest.readBracketed?, h.closingIndex?, Option.map_map]
  refine Option.map_congr fun n _ => ?_
  rw [← List.map_take, h.argumentsOf]
  rfl

theorem literalValue? (operator : Text) : ∀ ts : List Token,
    MessageHarvest.literalValue? operator (ts.map m) = MessageHarvest.literalValue? operator ts
  | [] => rfl
  | [t] => h.value? t
  | t :: o :: ts => by
    rw [List.map_cons, List.map_cons, MessageHarvest.literalValue?, h.value?, h.isPunct,
      literalValue? operator ts]
    rfl

theorem keyedItem? (separator : Text) (bareKeys : Bool) (ts : List Token) :
    MessageHarvest.keyedItem? separator bareKeys (ts.map m) =
      (MessageHarvest.keyedItem? separator bareKeys ts).map fun item => (item.1, item.2.map m) := by
  have hkey : ∀ t, itemKey? bareKeys (m t) = itemKey? bareKeys t := by
    intro t
    rw [itemKey?, h.kind, h.text, itemKey?]
  match ts with
  | [] => rfl
  | [_] => rfl
  | [_, _] => rfl
  | key :: mark :: v :: vs =>
    simp only [List.map_cons, MessageHarvest.keyedItem?, h.isPunct, hkey]
    split
    · rw [Option.map_map]
      rfl
    · rfl

theorem keyedItems? (separator : Text) (bareKeys : Bool) (ts : List Token) :
    MessageHarvest.keyedItems? separator bareKeys (ts.map m) =
      (MessageHarvest.keyedItems? separator bareKeys ts).map
        (List.map fun item => (item.1, item.2.map m)) := by
  cases ts with
  | nil => rfl
  | cons t ts =>
    rw [List.map_cons, MessageHarvest.keyedItems?, MessageHarvest.keyedItems?, h.opens?]
    cases t.opens? with
    | none => rfl
    | some outer =>
      rw [Option.bind_some, Option.bind_some, h.readBracketed?, Option.map_map, Option.map_map]
      refine Option.map_congr fun r _ => ?_
      have hitems :
          (r.1.map (List.map m)).filterMap (MessageHarvest.keyedItem? separator bareKeys) =
          (r.1.filterMap (MessageHarvest.keyedItem? separator bareKeys)).map
            fun item => (item.1, item.2.map m) := by
        rw [List.filterMap_map, List.map_filterMap]
        exact List.filterMap_congr fun ts _ => h.keyedItem? separator bareKeys ts
      show Keyed.putAll [] ((r.1.map (List.map m)).filterMap _) = List.map _ (Keyed.putAll [] _)
      rw [hitems]
      exact Keyed.putAll_map (List.map m) [] _

theorem readOptions? (operator : Text) (names : List (Text × OptionRole))
    (items : Keyed (List Token)) :
    CallOptions.read? operator names (items.map fun item => (item.1, item.2.map m)) =
      CallOptions.read? operator names items := by
  simp only [CallOptions.read?, Keyed.get?_map]
  congr 1
  funext options name
  cases items.get? name.1 with
  | none => rfl
  | some ts =>
    show (MessageHarvest.literalValue? operator (ts.map m)).map _ = _
    rw [h.literalValue?]

/-- A call is read from kinds and texts, and reported on the line of its name. -/
theorem readArguments {g : CallGrammar} (hoptions : ∀ ts, g.options? (ts.map m) = g.options? ts)
    (name : Token) (args : List (List Token)) :
    g.readArguments (m name) (args.map (List.map m)) = (g.readArguments name args).down k := by
  cases args with
  | nil =>
    rw [List.map_nil, CallGrammar.readArguments, CallGrammar.readArguments, h.text, h.line]
    rfl
  | cons first others =>
    unfold CallGrammar.readArguments
    simp only [List.map_cons, h.literalValue?, h.text, h.line]
    cases MessageHarvest.literalValue? g.operator first with
    | none => rfl
    | some v =>
      cases v with
      | nil => rfl
      | cons c cs =>
        cases others with
        | nil => rfl
        | cons second others =>
          simp only [List.map_cons, hoptions]
          cases g.options? second <;> rfl

theorem read {g : CallGrammar} (hoptions : ∀ ts, g.options? (ts.map m) = g.options? ts)
    (name : Token) (after : List Token) :
    g.read (m name) (after.map m) = (g.read name after).down k := by
  cases after with
  | nil => rfl
  | cons t ts =>
    rw [List.map_cons, CallGrammar.read, CallGrammar.read, h.isPunct, h.readBracketed?]
    split
    · cases MessageHarvest.readBracketed? .round ts with
      | none =>
        rw [h.text, h.line]
        rfl
      | some r => exact h.readArguments hoptions name r.1
    · rfl

end Token.Moves

/-! ## Events -/

theorem Token.precedingComment?_down (k : Int) (t : Token) (before : List Token) :
    (t.down k).precedingComment? (before.map (Token.down k)) =
      (t.precedingComment? before).map (Comment.down k) := by
  induction before generalizing t with
  | nil => rfl
  | cons p before ih =>
    have hcomment : (t.down k).comment = t.comment.map (Comment.down k) := rfl
    have hends : (p.down k).endsStatement = p.endsStatement := rfl
    rw [List.map_cons, Token.precedingComment?, Token.precedingComment?, ih, hcomment, hends]
    cases t.comment with
    | some c => rfl
    | none => cases p.endsStatement <;> rfl

theorem commentLines_down (tag : Option Text) (k : Int) (c : Option Comment) :
    commentLines tag (c.map (Comment.down k)) = commentLines tag c := by
  cases c <;> rfl

namespace Event

theorem ofReading_down (comments : List Text) (r : Reading) (k : Int) :
    ofReading comments (r.down k) = (ofReading comments r).map (Event.down k) := by
  cases r <;> rfl

theorem map_notice_down (notices : List Notice) (k : Int) :
    (notices.map (Notice.down k)).map notice = (notices.map notice).map (Event.down k) := by
  rw [List.map_map, List.map_map]
  rfl

/-- A walk over moved tokens finds the same, if each step does. -/
theorem walk_down (walk : List Token → List Token → List Event)
    {step : List Token → Token → List Token → List Event} {k : Int}
    (hnil : ∀ before, walk before [] = [])
    (hcons : ∀ before t after,
      walk before (t :: after) = step before t after ++ walk (t :: before) after)
    (hstep : ∀ before t after,
      step (before.map (Token.down k)) (t.down k) (after.map (Token.down k)) =
        (step before t after).map (Event.down k))
    (before ts : List Token) :
    walk (before.map (Token.down k)) (ts.map (Token.down k)) =
      (walk before ts).map (Event.down k) := by
  induction ts generalizing before with
  | nil => rw [List.map_nil, hnil, hnil, List.map_nil]
  | cons t ts ih =>
    have hrest := ih (t :: before)
    rw [List.map_cons] at hrest
    rw [List.map_cons, hcons, hcons, hstep, hrest, List.map_append]

end Event

namespace Php

section

variable {k : Int} {m : Token → Token} (h : Token.Moves k m)
include h

theorem arrayItems?_map (ts : List Token) :
    arrayItems? (ts.map m) =
      (arrayItems? ts).map (List.map fun item => (item.1, item.2.map m)) := by
  cases ts with
  | nil => rfl
  | cons t ts =>
    have hbracket := h.keyedItems? "=>".toList false (t :: ts)
    rw [List.map_cons] at hbracket
    simp only [List.map_cons, arrayItems?, h.kind, h.text, h.any_isPunct, h.isPunct,
      h.keyedItems?, hbracket]
    split
    · rfl
    · split <;> rfl

theorem callOptions?_map (ts : List Token) : callOptions? (ts.map m) = callOptions? ts := by
  rw [callOptions?, callOptions?, arrayItems?_map h]
  cases arrayItems? ts with
  | none => rfl
  | some items => exact h.readOptions? ".".toList optionNames items

theorem mayFollow_map (before : List Token) : mayFollow (before.map m) = mayFollow before := by
  cases before with
  | nil => rfl
  | cons p before =>
    have hname : (before.map m).head?.any (·.kind = .name) = before.head?.any (·.kind = .name) := by
      cases before with
      | nil => rfl
      | cons q before => simp [h.kind]
    simp only [List.map_cons, mayFollow, h.isOneOf, h.kind, h.text, h.isPunct, hname]

/-- A call is read from the kinds and the texts of the tokens around it. -/
theorem readCall_map (before : List Token) (t : Token) (after : List Token) :
    readCall (before.map m) (m t) (after.map m) = (readCall before t after).down k := by
  have hcall : isCall (before.map m) (m t) (after.map m) = isCall before t after := by
    rw [isCall, h.kind, h.text, h.any_isPunct, mayFollow_map h, isCall]
  rw [readCall, readCall, hcall]
  split
  · exact h.read (callOptions?_map h) t after
  · rfl

end

theorem callEvents_down (tag : Option Text) (k : Int) (before : List Token) (t : Token)
    (after : List Token) :
    callEvents tag (before.map (Token.down k)) (t.down k) (after.map (Token.down k)) =
      (callEvents tag before t after).map (Event.down k) := by
  show Event.ofReading _ (readCall _ _ _) = (Event.ofReading _ _).map _
  rw [readCall_map (Token.moves_down k), t.precedingComment?_down, commentLines_down,
    Event.ofReading_down]

theorem scanEvents_down (tag : Option Text) (scan : Scan) (k : Int) :
    scanEvents tag (scan.down k) = (scanEvents tag scan).map (Event.down k) := by
  have htokens := Event.walk_down (tokenEvents tag) (fun _ => rfl) (fun _ _ _ => rfl)
    (callEvents_down tag k) [] (Item.significant scan.items)
  rw [List.map_nil, ← Item.significant_down] at htokens
  rw [scanEvents, scanEvents, Scan.notices_down, Event.map_notice_down, List.map_append, ← htokens]
  rfl

/-- Code contributes the same from a later line on. -/
theorem codeEvents_down (tag : Option Text) (line k : Int) (code : Text) :
    codeEvents tag (line + k) code = (codeEvents tag line code).map (Event.down k) := by
  rw [codeEvents, scan, Scan.ofLexemes_down, scanEvents_down]
  rfl

end Php

namespace Script

section

variable {k : Int} {m : Token → Token} (h : Token.Moves k m)
include h

theorem callOptions?_map (ts : List Token) : callOptions? (ts.map m) = callOptions? ts := by
  rw [callOptions?, callOptions?, h.any_isPunct, h.keyedItems?]
  cases ts.head?.any (·.isPunct ['{']) with
  | false => rfl
  | true =>
    cases keyedItems? ":".toList true ts with
    | none => rfl
    | some items => exact h.readOptions? "+".toList optionNames items

theorem readCall_map (before : List Token) (t : Token) (after : List Token) :
    readCall (before.map m) (m t) (after.map m) = (readCall before t after).down k := by
  have hfollow : mayFollow (before.map m) = mayFollow before := by
    cases before with
    | nil => rfl
    | cons p before => simp only [List.map_cons, mayFollow, h.isOneOf, h.kind, h.text]
  have hcall : isCall (before.map m) (m t) (after.map m) = isCall before t after := by
    rw [isCall, h.kind, h.text, h.any_isPunct, hfollow, isCall]
  rw [readCall, readCall, hcall]
  split
  · exact h.read (callOptions?_map h) t after
  · rfl

end

theorem callEvents_down (tag : Option Text) (k : Int) (before : List Token) (t : Token)
    (after : List Token) :
    callEvents tag (before.map (Token.down k)) (t.down k) (after.map (Token.down k)) =
      (callEvents tag before t after).map (Event.down k) := by
  show Event.ofReading _ (readCall _ _ _) = (Event.ofReading _ _).map _
  rw [readCall_map (Token.moves_down k), t.precedingComment?_down, commentLines_down,
    Event.ofReading_down]

/-- A script contributes the same from a later line on. -/
theorem events_down (tag : Option Text) (line k : Int) (source : Text) :
    events tag (line + k) source = (events tag line source).map (Event.down k) := by
  have htokens := Event.walk_down (tokenEvents tag) (fun _ => rfl) (fun _ _ _ => rfl)
    (callEvents_down tag k) [] (Item.significant (scan line source).items)
  rw [List.map_nil, ← Item.significant_down] at htokens
  rw [events, events, scan, Scan.ofLexemes_down, Scan.notices_down, Event.map_notice_down,
    List.map_append]
  exact congrArg _ htokens

end Script

/-! ## Templates -/

namespace Smarty

theorem tagEvents_down (path : Text) (line k : Int) (comments : List Text)
    (attributes : Keyed (Option Text)) (text : Option Text) :
    tagEvents path (line + k) comments attributes text =
      (tagEvents path line comments attributes text).map (Event.down k) := by
  unfold tagEvents
  split
  · rfl
  · rfl
  · split <;> rfl

/-- A template contributes the same from a later line on. -/
theorem eventsFrom_down (path : Text) (tag : Option Text) (line k : Int) (comments : List Text)
    (s : Text) : eventsFrom path tag (line + k) comments s =
      (eventsFrom path tag line comments s).map (Event.down k) := by
  -- on the length of the text, construct by construct
  induction hlen : s.length using Nat.strongRecOn generalizing line comments s with
  | ind n ih =>
    subst hlen
    cases s with
    | nil =>
      rw [eventsFrom, eventsFrom]
      rfl
    | cons c cs =>
      have hrest : ∀ (line : Int) (comments : List Text) (n : Nat),
          eventsFrom path tag (line + k) comments (cs.drop n) =
            (eventsFrom path tag line comments (cs.drop n)).map (Event.down k) := by
        intro line comments n
        refine ih _ ?_ line comments _ rfl
        rw [List.length_drop, List.length_cons]
        omega
      rw [eventsFrom, eventsFrom]
      cases (if c = '{' then construct? cs else none) with
      | none =>
        rw [Int.add_right_comm]
        exact hrest _ _ 0
      | some found =>
        obtain ⟨construct, n⟩ := found
        cases construct with
        | comment text => simp only [Int.add_right_comm _ k, hrest]
        | literal => simp only [Int.add_right_comm _ k, hrest]
        | php code =>
          simp only [Int.add_right_comm _ k, Php.codeEvents_down, hrest, List.map_append]
        | ts source =>
          simp only [Int.add_right_comm _ k, tagEvents_down, hrest]
          cases (attributes source).get? "msgid".toList with
          | some msgid => exact List.map_append.symm
          | none =>
            cases Text.position? closeTag (cs.drop n) with
            | none => rfl
            | some m =>
              simp only [List.drop_drop, hrest, List.map_append]

end Smarty

/-! ## Markup -/

namespace Markup

/-- The fragment so many lines further down. -/
def Fragment.down (k : Int) (f : Fragment) : Fragment := { f with line := f.line + k }

theorem attributeFragments_down (line k : Int) (s : Text) :
    attributeFragments (line + k) s = (attributeFragments line s).map (Fragment.down k) := by
  fun_induction attributeFragments line s with
  | case1 =>
    rw [attributeFragments]
    rfl
  | case2 line c cs found hfound start ih =>
    have hvalue : (if c = '=' then quotedValue? cs else none) = some found := hfound
    rw [attributeFragments, hvalue]
    simp only [Int.add_right_comm _ k]
    exact congrArg (_ :: ·) ih
  | case3 line c cs hnone ih =>
    have hplain : (if c = '=' then quotedValue? cs else none) = none := hnone
    rw [attributeFragments, hplain]
    simp only [Int.add_right_comm _ k]
    exact ih

theorem fragments_down (line k : Int) (pieces : List Piece) :
    fragments (line + k) pieces = (fragments line pieces).map (Fragment.down k) := by
  induction pieces generalizing line with
  | nil => rfl
  | cons p ps ih =>
    have hhere : p.fragments (line + k) = (p.fragments line).map (Fragment.down k) := by
      cases p with
      | plain c => rfl
      | comment text => rfl
      | script opening body closing =>
        rw [Piece.fragments, Int.add_right_comm]
        rfl
      | tag text => exact attributeFragments_down line k text
      | expression text => rfl
    rw [fragments, fragments, hhere, Int.add_right_comm, ih, List.map_append]

theorem scriptEvents_down (tag : Option Text) (line k : Int) (script : Text) :
    scriptEvents tag (line + k) script = (scriptEvents tag line script).map (Event.down k) := by
  unfold scriptEvents
  split
  · exact Script.events_down tag line k script
  · rfl

/-- A document contributes the same from fragments further down. What cannot be read is the same. -/
theorem fragmentEvents_down (tag : Option Text) (k : Int) (fs : List Fragment) :
    fragmentEvents tag (fs.map (Fragment.down k)) = (fragmentEvents tag fs).down k := by
  induction fs with
  | nil => rfl
  | cons f fs ih =>
    have hscript : (f.down k).script = f.script := rfl
    rw [List.map_cons, fragmentEvents, fragmentEvents, hscript, ih]
    cases f.script with
    | error e => rfl
    | ok script =>
      show Findings.mk (scriptEvents tag (f.line + k) script ++ _) _ = _
      rw [scriptEvents_down]
      simp [Findings.down]

end Markup

end MessageHarvest
