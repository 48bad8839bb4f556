import MessageHarvest.Catalog.Entry
import MessageHarvest.File.Tree
import MessageHarvest.Token.Call

/-!
# The catalog

One entry for each string and context, in the order in which they were first found. A string that
is found again gains a reference; of two different plurals the first is kept.
-/
namespace MessageHarvest

/-- The strings found so far. References are given from `base`, and a string without a context
gets the default one. -/
structure Catalog where
  base : Text
  defaultContext : Option Text
  pluralForms : Int
  entries : List Entry
deriving DecidableEq

/-- A string without text was to be added. -/
structure EmptyMessage where
  path : Text
  line : Int
deriving DecidableEq

/-- What is reported. -/
def EmptyMessage.message (e : EmptyMessage) : Text :=
  "Cannot add an empty msgid to the catalog (".toList ++ Notice.place e.path e.line ++ ")".toList

/-- A string to be added, as it was found in a file. -/
structure Insertion extends Occurrence where
  path : Text
  flags : List Text
deriving DecidableEq

namespace Catalog

/-- A catalog without entries. There is at least one plural form. -/
def empty (base : Text) (defaultContext : Option Text) (pluralForms : Int) : Catalog :=
  ⟨base, defaultContext, max pluralForms 1, []⟩

/-- The entry of a key. -/
def get? (c : Catalog) (key : Key) : Option Entry := c.entries.find? fun e => e.key = key

/-- The key under which an occurrence is kept. -/
def keyOf (c : Catalog) (call : Call) : Key := ⟨call.context.or c.defaultContext, call.msgid⟩

/-- Adds to an entry what an occurrence brings. -/
def extend (reference : Reference) (i : Insertion) (e : Entry) : Entry :=
  (((e.fillPlural i.plural).addReference reference).addComments i.comments).addFlags i.flags

/-- The notice about a plural that differs from the one the entry has. -/
def conflict? (i : Insertion) (e : Entry) : Option Notice :=
  match e.plural, i.plural with
  | some kept, some other =>
    if kept = other then none else some (.pluralConflict i.msgid i.path i.line kept other)
  | _, _ => none

/-- Adds an occurrence at the given reference. -/
def record (c : Catalog) (reference : Reference) (i : Insertion) : Catalog :=
  let key := c.keyOf i.toCall
  { c with entries :=
      if (c.get? key).isSome then
        c.entries.map fun e => if e.key = key then extend reference i e else e
      else c.entries ++ [extend reference i (Entry.new key i.plural)] }

/-- Adds an occurrence to the catalog, unless it has no text. The path and the base are taken to be
some that can be resolved. -/
def insert (tree : File.Tree) (c : Catalog) (i : Insertion) :
    Except EmptyMessage (Catalog × List Notice) :=
  if i.msgid.isEmpty then .error ⟨i.path, i.line⟩
  else
    .ok (c.record ⟨i.line, tree.relativePath c.base i.path⟩ i,
      ((c.get? (c.keyOf i.toCall)).bind (conflict? i)).toList)

/-- Adds what was found in a file, in order, and collects the notices. -/
def apply (tree : File.Tree) (path : Text) : Catalog → List Event → Catalog × List Notice
  | c, [] => (c, [])
  | c, .notice n :: events =>
    let rest := apply tree path c events
    (rest.1, n :: rest.2)
  | c, .found o :: events =>
    match c.insert tree ⟨o, path, []⟩ with
    | .ok (c, notices) =>
      let rest := apply tree path c events
      (rest.1, notices ++ rest.2)
    | .error _ => apply tree path c events

/-- The text of a catalog: its entries, each followed by an empty line. -/
def text (c : Catalog) : Text :=
  c.entries.flatMap fun e => Text.joinWith ['\n'] (e.lines c.pluralForms) ++ ['\n', '\n']

end Catalog

end MessageHarvest
