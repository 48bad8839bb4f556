import MessageHarvest.Php.Calls
import MessageHarvest.Smarty.Attributes

/-!
# Marked texts in Smarty templates

`{ts}…{/ts}` marks the text of a block, and `{ts msgid="…"}` the value of an attribute. Comments
and literal regions are passed over, and blocks of PHP code are scanned as such. A comment belongs
to the tag after it if only white space stands between them.
-/
namespace MessageHarvest.Smarty

/-- What starts at a brace. -/
inductive Construct where
  | comment (text : Text)
  | literal
  | php (code : Text)
  | ts (attributes : Text)
deriving DecidableEq

/-- The text between a beginning that has been read and the first `stop`, with the number of
characters up to the end of `stop`. -/
def upTo? (stop s : Text) : Option (Text × Nat) :=
  (Text.position? stop s).map fun n => (s.take n, n + stop.length)

/-- The construct after an opening brace, and how many characters it takes. -/
def construct? (cs : Text) : Option (Construct × Nat) :=
  match cs with
  | '*' :: s => (upTo? "*\x7d".toList s).map fun found => (.comment found.1, found.2 + 1)
  | cs =>
    if "literal\x7d".toList.isPrefixOf cs then
      (upTo? "\x7b/literal\x7d".toList (cs.drop 8)).map fun found => (.literal, found.2 + 8)
    else if "php\x7d".toList.isPrefixOf cs then
      (upTo? "\x7b/php\x7d".toList (cs.drop 4)).map fun found => (.php found.1, found.2 + 4)
    else if "ts".toList.isPrefixOf cs then
      match cs.drop 2 with
      | '}' :: _ => some (.ts [], 3)
      | c :: s =>
        if Text.isSpace c then
          (upTo? ['}'] (c :: s)).map fun found => (.ts found.1, found.2 + 2)
        else none
      | [] => none
    else none

/-- Ends a block. -/
def closeTag : Text := "\x7b/ts\x7d".toList

/-- What a tag with this text contributes. -/
def tagEvents (path : Text) (line : Int) (comments : List Text) (attributes : Keyed (Option Text)) :
    Option Text → List Event
  | none => [.notice (.dynamicTagText path line)]
  | some [] => []
  | some (c :: cs) =>
    match attributes.get? "context".toList, attributes.get? "plural".toList with
    | some none, _ => [.notice (.dynamicTagOption path line)]
    | _, some none => [.notice (.dynamicTagOption path line)]
    | context, plural =>
      [.found ⟨⟨c :: cs, line, nonEmpty? plural.join, context.join⟩, comments⟩]

/-- What the text contributes from the given line on. `comments` are the lines of the comment that
ended here, with nothing but white space after it. -/
def eventsFrom (path : Text) (tag : Option Text) : Int → List Text → Text → List Event
  | _, _, [] => []
  | line, comments, c :: cs =>
    match if c = '{' then construct? cs else none with
    | none =>
      eventsFrom path tag (line + Text.lineFeeds [c])
        (if Text.isTrimmed c then comments else []) cs
    | some found =>
      let after := cs.drop found.2
      let afterLine := line + Text.lineFeeds (cs.take found.2)
      match found.1 with
      | .comment text => eventsFrom path tag afterLine (taggedLines tag text) after
      | .literal => eventsFrom path tag afterLine [] after
      | .php code => Php.codeEvents tag line code ++ eventsFrom path tag afterLine [] after
      | .ts source =>
        let attributes := attributes source
        match attributes.get? "msgid".toList with
        | some msgid =>
          tagEvents path line comments attributes msgid ++ eventsFrom path tag afterLine [] after
        | none =>
          match Text.position? closeTag after with
          | none => [.notice (.openTag path line)]
          | some n =>
            let block := after.take (n + closeTag.length)
            tagEvents path line comments attributes (blockText? (after.take n)) ++
              eventsFrom path tag (afterLine + Text.lineFeeds block) []
                (after.drop (n + closeTag.length))
termination_by _ _ s => s.length
decreasing_by all_goals simp only [List.length_cons, List.length_drop]; omega

/-- What a template contributes. -/
def events (path : Text) (tag : Option Text) (source : Text) : List Event :=
  eventsFrom path tag 1 [] source

end MessageHarvest.Smarty
