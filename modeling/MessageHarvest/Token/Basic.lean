import MessageHarvest.Text.Basic

/-!
# Tokens

What a scanner of program code reports: tokens and comments, each with its text and the line it
starts on. For reading calls the comments are taken out again, and each token keeps the comment
that stands nearest before it.
-/
namespace MessageHarvest

/-- A comment with its delimiters. -/
structure Comment where
  text : Text
  line : Int
deriving DecidableEq

namespace Token

/-- What a token is. A literal carries the text it stands for; a string that embeds expressions
stands for no fixed text. -/
inductive Kind where
  | literal (value : Text)
  | interpolated
  | name
  | var
  | number
  | punct
deriving DecidableEq

end Token

/-- A token, and the comment between it and the token before it. -/
structure Token where
  kind : Token.Kind
  text : Text
  line : Int
  comment : Option Comment := none
deriving DecidableEq

namespace Token

/-- The token is this punctuation. -/
def isPunct (t : Token) (mark : Text) : Bool := t.kind = .punct && t.text = mark

/-- The token is one of these marks. -/
def isOneOf (t : Token) (marks : List Text) : Bool := t.kind = .punct && marks.contains t.text

/-- The text a literal stands for. -/
def value? (t : Token) : Option Text :=
  match t.kind with
  | .literal v => some v
  | _ => none

/-- A statement or a list item ends here, so the next token starts another one. -/
def endsStatement (t : Token) : Bool :=
  t.isOneOf [";".toList, ",".toList, ['{'], ['}']]

end Token

/-- What stands in program code: a token or a comment. -/
inductive Item where
  | token (t : Token)
  | comment (c : Comment)
deriving DecidableEq

namespace Item

/-- Gives each token the comment that stands last between it and the token before. -/
def attach : Option Comment → List Item → List Token
  | _, [] => []
  | _, .comment c :: items => attach (some c) items
  | pending, .token t :: items => { t with comment := pending } :: attach none items

/-- The tokens, with their comments attached. -/
def significant (items : List Item) : List Token := attach none items

theorem significant_bare {ts : List Token} (h : ∀ t ∈ ts, t.comment = none) :
    significant (ts.map .token) = ts := by
  unfold significant
  induction ts with
  | nil => rfl
  | cons t ts ih =>
    have ht := h t List.mem_cons_self
    rw [List.map_cons, attach, ih fun u hu => h u (List.mem_cons_of_mem t hu)]
    rw [← ht]

end Item

namespace Token

/-- The comment before a token, or else the nearest one before the tokens that lead up to it from
the start of its statement or list item. `before` holds the preceding tokens, the nearest first. -/
def precedingComment? (t : Token) : List Token → Option Comment
  | [] => t.comment
  | p :: before =>
    match t.comment with
    | some c => some c
    | none => if p.endsStatement then none else precedingComment? p before

end Token

/-- No token has the index asked for. -/
structure OutOfRange where
deriving DecidableEq

/-- The element at an index; a negative one counts from the end. -/
def elementAt {α : Type} (xs : List α) (i : Int) : Except OutOfRange α :=
  match if i < 0 then (if xs.length + i < 0 then none else xs[(xs.length + i).toNat]?)
    else xs[i.toNat]? with
  | some x => .ok x
  | none => .error ⟨⟩

/-- The elements that follow an index, up to the end. From a negative index the reading goes on at
the beginning once the end is reached. -/
def elementsAfter {α : Type} (xs : List α) (i : Int) : List α :=
  if i < 0 then xs.drop (xs.length + i + 1).toNat ++ xs else xs.drop (i + 1).toNat

/-- The comment that `Token.precedingComment?` finds for the token at an index. Before the first
token there is none. -/
def precedingCommentAt (tokens : List Token) (i : Int) : Except OutOfRange (Option Comment) :=
  if i < 0 then .ok none
  else (elementAt tokens i).map fun t => t.precedingComment? (tokens.take i.toNat).reverse

end MessageHarvest
