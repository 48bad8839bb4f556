import MessageHarvest.Notice
import MessageHarvest.Token.Arguments
import MessageHarvest.Token.CommentLines

/-!
# Calls that mark a string for translators

`ts('text', options)`: the first argument must be a literal expression, and of the options only
context and plural are read. A call that cannot be read is passed over with a notice.
-/
namespace MessageHarvest

/-- What the options of a call say. -/
structure CallOptions where
  context : Option Text
  plural : Option Text
deriving DecidableEq

/-- What an option of a call is for. -/
inductive OptionRole where
  | context
  | plural
deriving DecidableEq

namespace CallOptions

/-- No options. -/
def empty : CallOptions := ⟨none, none⟩

/-- Sets one option. -/
def set (options : CallOptions) (role : OptionRole) (value : Text) : CallOptions :=
  match role with
  | .context => { options with context := some value }
  | .plural => { options with plural := some value }

/-- Reads the options that have a name in the list, in its order; a later one of the same role
counts. There are none if one of them is not a literal expression. -/
def read? (operator : Text) (names : List (Text × OptionRole)) (items : Keyed (List Token)) :
    Option CallOptions :=
  names.foldlM (fun options name =>
    match items.get? name.1 with
    | none => some options
    | some tokens => (literalValue? operator tokens).map (options.set name.2)) empty

end CallOptions

/-- The parts of a call's grammar that differ between languages. -/
structure CallGrammar where
  operator : Text
  options? : List Token → Option CallOptions

/-- A marked string, and the line on which it is marked. -/
structure Call where
  msgid : Text
  line : Int
  plural : Option Text
  context : Option Text
deriving DecidableEq

/-- A string found in a file, with the comments for its translators. -/
structure Occurrence extends Call where
  comments : List Text
deriving DecidableEq

/-- The outcome of reading a call. -/
inductive Reading where
  | found (call : Call)
  | refused (why : Notice)
  | nothing
deriving DecidableEq

/-- A text that is there and not empty. -/
def nonEmpty? (s : Option Text) : Option Text := s.filter fun t => !t.isEmpty

theorem nonEmpty?_eq_filter (s : Option Text) : nonEmpty? s = s.filter (· ≠ []) := by
  cases s with
  | none => rfl
  | some t => cases t <;> rfl

/-- Reads the arguments of a call. An empty string is not worth a notice: there is nothing to
translate in it. -/
def CallGrammar.readArguments (g : CallGrammar) (name : Token) :
    List (List Token) → Reading
  | [] => .refused (.emptyCall name.text name.line)
  | first :: others =>
    match literalValue? g.operator first with
    | none => .refused (.dynamicArgument name.text name.line)
    | some [] => .nothing
    | some (c :: cs) =>
      match match others with
        | [] => some CallOptions.empty
        | second :: _ => g.options? second with
      | none => .refused (.dynamicOptions name.text name.line)
      | some options =>
        .found ⟨c :: cs, name.line, nonEmpty? options.plural, options.context⟩

/-- Reads the call of a name from the tokens after the name. -/
def CallGrammar.read (g : CallGrammar) (name : Token) : List Token → Reading
  | [] => .nothing
  | t :: ts =>
    if t.isPunct ['('] then
      match readBracketed? .round ts with
      | none => .refused (.openCall name.text name.line)
      | some r => g.readArguments name r.1
    else .nothing

/-- Reads the call of the name at an index. -/
def CallGrammar.readAt (g : CallGrammar) (tokens : List Token) (i : Int) :
    Except OutOfRange Reading :=
  (elementAt tokens i).map fun name => g.read name (elementsAfter tokens i)

/-- What a parser reports, in the order of the file. -/
inductive Event where
  | found (occurrence : Occurrence)
  | notice (n : Notice)
deriving DecidableEq

end MessageHarvest
