import MessageHarvest.Token.Basic
import MessageHarvest.Keyed

/-!
# Bracketed lists

The tokens between an opening bracket and the one that closes it, cut at the commas that stand in
no inner bracket. On them rest literal expressions, which are strings joined by an operator, and
keyed items such as `'a' => 'b'`.
-/
namespace MessageHarvest

/-- The three kinds of bracket. -/
inductive Bracket where
  | round
  | square
  | curly
deriving DecidableEq

namespace Bracket

/-- The kind of bracket that a mark opens. -/
def opening? (mark : Text) : Option Bracket :=
  match mark with
  | ['('] => some .round
  | ['['] => some .square
  | ['{'] => some .curly
  | _ => none

/-- The kind of bracket that a mark closes. -/
def closing? (mark : Text) : Option Bracket :=
  match mark with
  | [')'] => some .round
  | [']'] => some .square
  | ['}'] => some .curly
  | _ => none

end Bracket

namespace Token

/-- The kind of bracket that the token opens. -/
def opens? (t : Token) : Option Bracket := if t.kind = .punct then Bracket.opening? t.text else none

/-- The kind of bracket that the token closes. -/
def closes? (t : Token) : Option Bracket := if t.kind = .punct then Bracket.closing? t.text else none

end Token

/-- The number of tokens before the one that closes `outer`, while the brackets `inner` are open,
the innermost first. There is none if a bracket is closed by the wrong kind, or the tokens end. -/
def closingIndex? (outer : Bracket) : List Bracket → List Token → Option Nat
  | _, [] => none
  | inner, t :: ts =>
    match t.opens?, t.closes? with
    | some b, _ => (closingIndex? outer (b :: inner) ts).map (· + 1)
    | none, some b =>
      match inner with
      | [] => if b = outer then some 0 else none
      | i :: inner => if b = i then (closingIndex? outer inner ts).map (· + 1) else none
    | none, none => (closingIndex? outer inner ts).map (· + 1)

/-- How many brackets are open after a token. -/
def Token.depthAfter (t : Token) (depth : Nat) : Nat :=
  if t.opens?.isSome then depth + 1 else if t.closes?.isSome then depth - 1 else depth

/-- Cuts at each comma that stands in no bracket. There is always a last piece. -/
def cutAtCommas : Nat → List Token → List (List Token)
  | _, [] => [[]]
  | depth, t :: ts =>
    if depth = 0 && t.isPunct ",".toList then [] :: cutAtCommas 0 ts
    else match cutAtCommas (t.depthAfter depth) ts with
      | [] => [[t]]
      | piece :: pieces => (t :: piece) :: pieces

/-- The arguments in a bracket: the pieces between commas, where an empty last piece is none. -/
def argumentsOf (inner : List Token) : List (List Token) :=
  let pieces := cutAtCommas 0 inner
  if pieces.getLast? = some [] then pieces.dropLast else pieces

/-- Reads a list in brackets of the given kind from the tokens after its opening one: the
arguments, and the number of tokens before the closing bracket. -/
def readBracketed? (outer : Bracket) (after : List Token) : Option (List (List Token) × Nat) :=
  (closingIndex? outer [] after).map fun n => (argumentsOf (after.take n), n)

/-- The arguments of the list that opens at an index, and the index of its closing bracket.
Whether a list opens there is told by the text of the token alone. -/
def splitArguments (tokens : List Token) (i : Int) :
    Except OutOfRange (Option (List (List Token) × Int)) :=
  (elementAt tokens i).map fun t =>
    (Bracket.opening? t.text).bind fun outer =>
      (readBracketed? outer (elementsAfter tokens i)).map fun r => (r.1, i + 1 + r.2)

/-- The text of literals joined by an operator; nothing else has one. -/
def literalValue? (operator : Text) : List Token → Option Text
  | [] => none
  | [t] => t.value?
  | t :: o :: ts =>
    match t.value?, o.isPunct operator, literalValue? operator ts with
    | some v, true, some w => some (v ++ w)
    | _, _, _ => none

/-- The key of an item: a literal, or where they are allowed a bare name. -/
def itemKey? (bareKeys : Bool) (t : Token) : Option Text :=
  match t.kind with
  | .literal v => some v
  | .name => if bareKeys then some t.text else none
  | _ => none

/-- Key and value of an item `key separator value…`. -/
def keyedItem? (separator : Text) (bareKeys : Bool) : List Token → Option (Text × List Token)
  | key :: mark :: v :: vs =>
    if mark.isPunct separator then (itemKey? bareKeys key).map (·, v :: vs) else none
  | _ => none

/-- The keyed items of the bracketed list that the tokens start with. Items of another form are
passed over; of two items with one key the later counts. -/
def keyedItems? (separator : Text) (bareKeys : Bool) :
    List Token → Option (Keyed (List Token))
  | [] => none
  | t :: ts =>
    t.opens?.bind fun outer =>
      (readBracketed? outer ts).map fun r =>
        Keyed.putAll [] (r.1.filterMap (keyedItem? separator bareKeys))

end MessageHarvest
