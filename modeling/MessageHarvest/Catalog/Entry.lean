import MessageHarvest.Text.Quoted

/-!
# Catalog entries

A string for translators with its context, its plural and the places where it was found, and how
it is written in a catalog: comments, references and flags first, then the string, and an empty
place for each plural form.
-/
namespace MessageHarvest

namespace Text

/-- How a character is written between the double quotes of a catalog. -/
def catalogChar (c : Char) : Text :=
  match c with
  | '\\' => ['\\', '\\']
  | '"' => ['\\', '"']
  | '\n' => ['\\', 'n']
  | '\r' => ['\\', 'r']
  | '\t' => ['\\', 't']
  | c => [c]

/-- How a text is written between the double quotes of a catalog. -/
def catalogEscape (s : Text) : Text := s.flatMap catalogChar

/-- A text in the double quotes of a catalog. -/
def catalogQuote (s : Text) : Text := '"' :: catalogEscape s ++ ['"']

end Text

/-- A place in a file. -/
structure Reference where
  line : Int
  path : Text
deriving DecidableEq

/-- A string for translators. -/
structure Entry where
  msgid : Text
  plural : Option Text
  context : Option Text
  references : List Reference
  comments : List Text
  flags : List Text
deriving DecidableEq

/-- What tells one entry from another: the same text in two contexts is two strings. -/
structure Key where
  context : Option Text
  msgid : Text
deriving DecidableEq

namespace Entry

/-- An entry that has not been found anywhere yet. -/
def new (key : Key) (plural : Option Text) : Entry := ⟨key.msgid, plural, key.context, [], [], []⟩

/-- What tells the entry from others. -/
def key (e : Entry) : Key := ⟨e.context, e.msgid⟩

/-- Adds a place, unless it is known. -/
def addReference (e : Entry) (r : Reference) : Entry :=
  if r ∈ e.references then e else { e with references := e.references ++ [r] }

/-- Adds the texts that are not empty and not known. -/
def addNew (known new : List Text) : List Text :=
  new.foldl (fun known t => if t.isEmpty || known.contains t then known else known ++ [t]) known

/-- Adds comments. -/
def addComments (e : Entry) (comments : List Text) : Entry :=
  { e with comments := addNew e.comments comments }

/-- Adds flags. -/
def addFlags (e : Entry) (flags : List Text) : Entry := { e with flags := addNew e.flags flags }

/-- Sets the plural, unless the entry has one. -/
def fillPlural (e : Entry) (plural : Option Text) : Entry := { e with plural := e.plural.or plural }

/-- The empty place for one plural form. -/
def formLine (n : Nat) : Text := "msgstr[".toList ++ Text.ofNat n ++ "] \"\"".toList

/-- The lines of the entry in a catalog with so many plural forms, of which there is always one. -/
def lines (e : Entry) (forms : Int) : List Text :=
  e.comments.map ("#. ".toList ++ ·) ++
    e.references.map (fun r => "#: ".toList ++ r.path ++ ':' :: Text.ofInt r.line) ++
    (if e.flags.isEmpty then [] else ["#, ".toList ++ Text.joinWith ", ".toList e.flags]) ++
    (e.context.toList.map fun c => "msgctxt ".toList ++ Text.catalogQuote c) ++
    ["msgid ".toList ++ Text.catalogQuote e.msgid] ++
    match e.plural with
    | some p =>
      ("msgid_plural ".toList ++ Text.catalogQuote p) ::
        (List.range (max forms 1).toNat).map formLine
    | none => ["msgstr \"\"".toList]

/-- The entry in short. -/
def label (e : Entry) : Text :=
  match e.context with
  | some c => c ++ '|' :: e.msgid
  | none => e.msgid

/-- A text in quotes, or that there is none. -/
def quotedOption (s : Option Text) : Text :=
  match s with
  | some t => Text.quoted t
  | none => "None".toList

/-- The entry for a reader of logs. -/
def describe (e : Entry) : Text :=
  "CatalogEntry(".toList ++ Text.quoted e.msgid ++ ", msgid_plural=".toList ++
    quotedOption e.plural ++ ", msgctxt=".toList ++ quotedOption e.context ++
    ", references=".toList ++ Text.ofNat e.references.length ++ ")".toList

end Entry

end MessageHarvest
