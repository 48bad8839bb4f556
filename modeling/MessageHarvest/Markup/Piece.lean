import MessageHarvest.Text.Char

/-!
# Pieces of markup

A document is cut into comments, scripts, tags, expressions in double braces, and single
characters between them. Where several could start the first of this list that is complete counts.
-/
namespace MessageHarvest.Markup

/-- A piece of a document. -/
inductive Piece where
  | plain (c : Char)
  | comment (text : Text)
  | script (opening body closing : Text)
  | tag (text : Text)
  | expression (text : Text)
deriving DecidableEq

/-- The part of the document that the piece is. -/
def Piece.source : Piece → Text
  | plain c => [c]
  | comment text => text
  | script opening body closing => opening ++ body ++ closing
  | tag text => text
  | expression text => ['{', '{'] ++ text ++ ['}', '}']

/-- The character is this lower-case letter in either case. The long s and the kelvin sign count
as cases of s and k, and the capital I with a dot as one of i. -/
def isLetterOf (letter c : Char) : Bool :=
  c.toLower = letter || (letter = 's' && c.toNat = 0x17F) || (letter = 'k' && c.toNat = 0x212A) ||
    (letter = 'i' && c.toNat = 0x130)

/-- A letter that may start the name of a tag: one of a to z, in any of its cases. The small i
without a dot has the usual capital. -/
def startsTagName (c : Char) : Bool :=
  c.isAlpha || [0x17F, 0x212A, 0x130, 0x131].contains c.toNat

/-- The text starts with this lower-case word in any case. -/
def startsWithWord : Text → Text → Bool
  | [], _ => true
  | _ :: _, [] => false
  | letter :: word, c :: cs => isLetterOf letter c && startsWithWord word cs

/-- The number of characters of a closing script tag at the beginning. -/
def scriptEndLength? (s : Text) : Option Nat :=
  match s with
  | '<' :: '/' :: cs =>
    if startsWithWord "script".toList cs then
      let blanks := ((cs.drop 6).takeWhile Text.isSpace).length
      if (cs.drop (6 + blanks)).head? = some '>' then some (9 + blanks) else none
    else none
  | _ => none

/-- The first closing script tag: the number of characters before it, and of its own. -/
def scriptEnd? : Text → Option (Nat × Nat)
  | [] => none
  | c :: cs =>
    match scriptEndLength? (c :: cs) with
    | some n => some (0, n)
    | none => (scriptEnd? cs).map fun found => (found.1 + 1, found.2)

/-- A script from its opening to its closing tag, where `<` has been read. -/
def script? (cs : Text) : Option (Piece × Nat) :=
  if startsWithWord "script".toList cs && Text.endsWord (cs.drop 6) then
    (Text.position? ['>'] (cs.drop 6)).bind fun n =>
      let opening := n + 7
      (scriptEnd? (cs.drop opening)).map fun found =>
        let body := cs.drop opening
        (.script ('<' :: cs.take opening) (body.take found.1) ((body.drop found.1).take found.2),
          opening + found.1 + found.2)
  else none

/-- A comment, where `<` has been read. -/
def comment? (cs : Text) : Option (Piece × Nat) :=
  if "!--".toList.isPrefixOf cs then
    (Text.position? "-->".toList (cs.drop 3)).map fun n =>
      (.comment ('<' :: cs.take (n + 6)), n + 6)
  else none

/-- A character of the name of a tag after the first. -/
def isTagNamePart (c : Char) : Bool := Text.isWord c || c = ':' || c = '.' || c = '-'

/-- A character of the name of an attribute. -/
def isAttributeNamePart (c : Char) : Bool := !Text.isSpace c && c ≠ '=' && c ≠ '>' && c ≠ '/'

/-- The ends that the value at the beginning may have, the preferred one first: at the closing
quote if it is quoted, else, or if the tag cannot go on there, before white space or `>`. -/
def valueEnds (s : Text) : List Nat :=
  let bare := (s.takeWhile fun c => !Text.isSpace c && c ≠ '>').length
  let quoted := match s with
    | '"' :: cs => (Text.position? ['"'] cs).map (· + 2)
    | '\'' :: cs => (Text.position? ['\''] cs).map (· + 2)
    | _ => none
  match quoted with
  | some n => if n = bare || bare = 0 then [n] else [n, bare]
  | none => if bare = 0 then [] else [bare]

/-- The ends that the attribute at the beginning may have, white space before it included. -/
def attributeEnds (s : Text) : List Nat :=
  let blanks := (s.takeWhile Text.isSpace).length
  let name := ((s.drop blanks).takeWhile isAttributeNamePart).length
  if name = 0 then []
  else
    let afterName := s.drop (blanks + name)
    let gap := (afterName.takeWhile Text.isSpace).length
    match afterName.drop gap with
    | '=' :: cs =>
      let start := (cs.takeWhile Text.isSpace).length
      (valueEnds (cs.drop start)).map fun n => blanks + name + gap + 1 + start + n
    | _ => [blanks + name]

/-- The number of characters of a tag after its name: attributes and the end. `later` holds the same
for the text from each of the following characters on. -/
def tagRest? (c : Char) (cs : Text) (later : List (Option Nat)) : Option Nat :=
  let blanks := ((c :: cs).takeWhile Text.isSpace).length
  match (c :: cs).drop blanks with
  | '>' :: _ => some (blanks + 1)
  | '/' :: '>' :: _ => some (blanks + 2)
  | _ =>
    if blanks = 0 then none
    else (attributeEnds (c :: cs)).findSome? fun n => later[n - 1]?.join.map (· + n)

/-- The value of `tagRest?` from each character on. An attribute that may end in two ways makes many
ways through a tag, but each place is looked at once. -/
def tagRests : Text → List (Option Nat)
  | [] => []
  | c :: cs =>
    let later := tagRests cs
    tagRest? c cs later :: later

/-- A tag, where `<` has been read; `rests` are the `tagRests` of what follows. -/
def tag? (cs : Text) (rests : List (Option Nat)) : Option (Piece × Nat) :=
  if cs.head?.any startsTagName then
    let name := 1 + ((cs.drop 1).takeWhile isTagNamePart).length
    rests[name]?.join.map fun n => (.tag ('<' :: cs.take (name + n)), name + n)
  else none

/-- An expression, where `{` has been read. -/
def expression? (cs : Text) : Option (Piece × Nat) :=
  match cs with
  | '{' :: cs => (Text.position? ['}', '}'] cs).map fun n => (.expression (cs.take n), n + 3)
  | _ => none

/-- The piece of more than one character that starts here, and the number of characters after
its first. -/
def piece? (c : Char) (cs : Text) (rests : List (Option Nat)) : Option (Piece × Nat) :=
  if c = '<' then (comment? cs).or ((script? cs).or (tag? cs rests))
  else if c = '{' then expression? cs
  else none

/-- Cuts a document with its `tagRests` into pieces. -/
def piecesWith : Text → List (Option Nat) → List Piece
  | [], _ => []
  | c :: cs, rests =>
    match piece? c cs (rests.drop 1) with
    | some found => found.1 :: piecesWith (cs.drop found.2) (rests.drop (found.2 + 1))
    | none => .plain c :: piecesWith cs (rests.drop 1)
termination_by s => s.length
decreasing_by all_goals simp only [List.length_cons, List.length_drop]; omega

/-- Cuts a document into pieces. -/
def pieces (s : Text) : List Piece := piecesWith s (tagRests s)

end MessageHarvest.Markup
