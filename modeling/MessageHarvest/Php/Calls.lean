import MessageHarvest.Php.Lexer
import MessageHarvest.Token.Call

/-!
# Marking calls in PHP

`ts(…)` counts as a function call, also in a namespace or as a static method of a named class,
and not as a method of an object, a definition or an instance.
-/
namespace MessageHarvest.Php

/-- Names under which an option can be given. Of the two for the context the second counts. -/
def optionNames : List (Text × OptionRole) :=
  [("context".toList, .context), ("msgctxt".toList, .context), ("plural".toList, .plural)]

/-- Items of `array(…)` or `[…]`. -/
def arrayItems? : List Token → Option (Keyed (List Token))
  | [] => none
  | t :: ts =>
    if t.kind = .name && Text.asciiLower t.text = "array".toList &&
        ts.head?.any (·.isPunct ['(']) then
      keyedItems? "=>".toList false ts
    else if t.isPunct ['['] then keyedItems? "=>".toList false (t :: ts)
    else none

/-- The options of a call. What is no array has none. -/
def callOptions? (tokens : List Token) : Option CallOptions :=
  match arrayItems? tokens with
  | none => some .empty
  | some items => CallOptions.read? ".".toList optionNames items

/-- How calls are written. -/
def grammar : CallGrammar := ⟨".".toList, callOptions?⟩

/-- The token before lets a name be a function's. -/
def mayFollow : List Token → Bool
  | [] => true
  | p :: before =>
    if p.isOneOf ["->".toList, "?->".toList] then false
    else if p.kind = .name &&
        ["function".toList, "fn".toList, "new".toList].contains (Text.asciiLower p.text) then false
    else if p.isPunct "::".toList then before.head?.any (·.kind = .name)
    else true

/-- The token names the marking function and is called. `before` holds the preceding tokens,
the nearest first. -/
def isCall (before : List Token) (t : Token) (after : List Token) : Bool :=
  t.kind = .name && ["ts".toList, "\\ts".toList].contains t.text &&
    after.head?.any (·.isPunct ['(']) && mayFollow before

/-- Reads the call that a token may start. -/
def readCall (before : List Token) (t : Token) (after : List Token) : Reading :=
  if isCall before t after then grammar.read t after else .nothing

/-- What the token contributes: a string, or the notice about a call that cannot be read. -/
def callEvents (tag : Option Text) (before : List Token) (t : Token) (after : List Token) :
    List Event :=
  match readCall before t after with
  | .found call => [.found ⟨call, commentLines tag (t.precedingComment? before)⟩]
  | .refused why => [.notice why]
  | .nothing => []

/-- What the calls among the tokens contribute. -/
def tokenEvents (tag : Option Text) : List Token → List Token → List Event
  | _, [] => []
  | before, t :: after => callEvents tag before t after ++ tokenEvents tag (t :: before) after

/-- What a scan contributes: first the notice if it broke off, then its calls. -/
def scanEvents (tag : Option Text) (scan : Scan) : List Event :=
  (scan.notices .code).map .notice ++ tokenEvents tag [] (Item.significant scan.items)

/-- What a PHP file contributes. -/
def events (tag : Option Text) (source : Text) : List Event :=
  scanEvents tag (scan false 1 source)

/-- What code without open tag contributes, if it starts on the given line. -/
def codeEvents (tag : Option Text) (line : Int) (code : Text) : List Event :=
  scanEvents tag (scan true line code)

end MessageHarvest.Php
