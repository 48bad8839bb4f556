import MessageHarvest.Catalog.Basic
import MessageHarvest.File.Resolve

/-!
# Adding to a catalog

The place of a string is found after it has got its entry. So where the path or the base directory
cannot be resolved, the entry stays in the catalog, without a reference.
-/
namespace MessageHarvest

/-- Why an occurrence was not added, or not all of it. -/
inductive InsertError where
  | emptyMessage (e : EmptyMessage)
  | name (fault : File.NameFault)
deriving DecidableEq

/-- What is reported. -/
def InsertError.message : InsertError → Text
  | emptyMessage e => e.message
  | name fault => fault.message

/-- A catalog, and what has been reported. -/
structure Ledger where
  catalog : Catalog
  notices : List Notice

/-- A part of adding. What it has done by the time of an error stays done. -/
abbrev Adding := EStateM InsertError Ledger

/-- The catalog with an entry for the occurrence, to which it has added its plural only. -/
def Catalog.enter (c : Catalog) (i : Insertion) : Catalog :=
  let key := c.keyOf i.toCall
  { c with entries :=
      if (c.get? key).isSome then
        c.entries.map fun e => if e.key = key then e.fillPlural i.plural else e
      else c.entries ++ [Entry.new key i.plural] }

namespace Adding

/-- Reports something. -/
def report (n : Notice) : Adding Unit := modify fun l => { l with notices := l.notices ++ [n] }

/-- Adds an occurrence. -/
def insert (chars : Charset) (tree : File.Tree) (i : Insertion) : Adding Unit := fun l =>
  let c := l.catalog
  let notices := l.notices ++ ((c.get? (c.keyOf i.toCall)).bind (Catalog.conflict? i)).toList
  if i.msgid.isEmpty then .error (.emptyMessage ⟨i.path, i.line⟩) l
  else
    match tree.reference chars c.base i.path with
    | .error fault => .error (.name fault) ⟨c.enter i, notices⟩
    | .ok path => .ok () ⟨c.record ⟨i.line, path⟩ i, notices⟩

/-- Takes one thing that was found in a file. -/
def event (chars : Charset) (tree : File.Tree) (path : Text) : Event → Adding Unit
  | .notice n => report n
  | .found o => insert chars tree ⟨o, path, []⟩

end Adding

end MessageHarvest
