import MessageHarvest.Markup.Entity
import MessageHarvest.Markup.Piece
import MessageHarvest.Script.Calls

/-!
# Scripts in markup

The parts of a document that can hold script: the bodies of script elements, the quoted values of
attributes, with references resolved, and expressions in double braces. A part in which the name of
the marking function does not occur is not scanned.
-/
namespace MessageHarvest

/-- What a parser found, and why it gave up if it did. -/
structure Findings where
  events : List Event
  failure : Option TooManyDigits
deriving DecidableEq

namespace Markup

/-- A part of a document that can hold script, and the line it starts on. -/
structure Fragment where
  line : Int
  text : Text
  hasReferences : Bool
deriving DecidableEq

/-- The quoted value after an equals sign: the number of characters before it, and the value. -/
def quotedValue? (s : Text) : Option (Nat × Text) :=
  let blanks := (s.takeWhile Text.isSpace).length
  match s.drop blanks with
  | quote :: cs =>
    if quote = '"' || quote = '\'' then
      (Text.position? [quote] cs).map fun n => (blanks + 1, cs.take n)
    else none
  | [] => none

/-- The quoted values in a tag, each with the line it starts on. -/
def attributeFragments : Int → Text → List Fragment
  | _, [] => []
  | line, c :: cs =>
    match if c = '=' then quotedValue? cs else none with
    | some found =>
      let start := line + Text.lineFeeds (cs.take found.1)
      ⟨start, found.2, true⟩ ::
        attributeFragments (start + Text.lineFeeds found.2)
          (cs.drop (found.1 + found.2.length + 1))
    | none => attributeFragments (line + Text.lineFeeds [c]) cs
termination_by _ s => s.length
decreasing_by all_goals simp only [List.length_cons, List.length_drop]; omega

/-- The fragments of a piece that starts on the given line. -/
def Piece.fragments (line : Int) : Piece → List Fragment
  | .script opening body _ => [⟨line + Text.lineFeeds opening, body, false⟩]
  | .tag text => attributeFragments line text
  | .expression text => [⟨line, text, false⟩]
  | _ => []

/-- The fragments of a document, in its order. -/
def fragments : Int → List Piece → List Fragment
  | _, [] => []
  | line, p :: ps => p.fragments line ++ fragments (line + Text.lineFeeds p.source) ps

/-- The script in a fragment. -/
def Fragment.script (f : Fragment) : Except TooManyDigits Text :=
  if f.hasReferences then unescape f.text else .ok f.text

/-- What a script found in markup contributes. -/
def scriptEvents (tag : Option Text) (line : Int) (script : Text) : List Event :=
  if Text.occurs "ts".toList script then Script.events tag line script else []

/-- What the fragments contribute, up to one that cannot be read. -/
def fragmentEvents (tag : Option Text) : List Fragment → Findings
  | [] => ⟨[], none⟩
  | f :: fs =>
    match f.script with
    | .error e => ⟨[], some e⟩
    | .ok script =>
      let rest := fragmentEvents tag fs
      ⟨scriptEvents tag f.line script ++ rest.events, rest.failure⟩

/-- What a document contributes. -/
def findings (tag : Option Text) (source : Text) : Findings :=
  fragmentEvents tag (fragments 1 (pieces source))

end Markup

end MessageHarvest
