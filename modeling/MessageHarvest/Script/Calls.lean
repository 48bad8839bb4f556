import MessageHarvest.Script.Lexer
import MessageHarvest.Token.Call

/-!
# Marking calls in JavaScript

`ts(…)` counts as a function call, and not as a method or a definition.
-/
namespace MessageHarvest.Script

/-- Names under which an option can be given. -/
def optionNames : List (Text × OptionRole) :=
  [("context".toList, .context), ("plural".toList, .plural)]

/-- The options of a call. What is no object literal has none. -/
def callOptions? (tokens : List Token) : Option CallOptions :=
  match if tokens.head?.any (·.isPunct ['{']) then
      keyedItems? ":".toList true tokens else none with
  | none => some .empty
  | some items => CallOptions.read? "+".toList optionNames items

/-- How calls are written. -/
def grammar : CallGrammar := ⟨"+".toList, callOptions?⟩

/-- The token before lets a name be a function's. -/
def mayFollow : List Token → Bool
  | [] => true
  | p :: _ =>
    !p.isOneOf [".".toList, "?.".toList] &&
      !(p.kind = .name && p.text = "function".toList)

/-- The token names the marking function and is called. `before` holds the preceding tokens,
the nearest first. -/
def isCall (before : List Token) (t : Token) (after : List Token) : Bool :=
  t.kind = .name && t.text = "ts".toList && after.head?.any (·.isPunct ['(']) &&
    mayFollow before

/-- Reads the call that a token may start. -/
def readCall (before : List Token) (t : Token) (after : List Token) : Reading :=
  if isCall before t after then grammar.read t after else .nothing

/-- What the token contributes: a string, or the notice about a call that cannot be read. -/
def callEvents (tag : Option Text) (before : List Token) (t : Token) (after : List Token) :
    List Event :=
  match readCall before t after with
  | .found call => [.found ⟨call, commentLines tag (t.precedingComment? before)⟩]
  | .refused why => [.notice why]
  | .nothing => []

/-- What the calls among the tokens contribute. -/
def tokenEvents (tag : Option Text) : List Token → List Token → List Event
  | _, [] => []
  | before, t :: after => callEvents tag before t after ++ tokenEvents tag (t :: before) after

/-- What a script contributes, if it starts on the given line: first the notice if the scan broke
off, then its calls. -/
def events (tag : Option Text) (line : Int) (source : Text) : List Event :=
  let found := scan line source
  (found.notices .script).map .notice ++ tokenEvents tag [] (Item.significant found.items)

end MessageHarvest.Script
