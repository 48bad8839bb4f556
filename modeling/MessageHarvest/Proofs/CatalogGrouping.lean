import MessageHarvest.Catalog.Basic
import MessageHarvest.Proofs.DistinctLists

/-! # A catalog is the grouping of its insertions

The catalog is changed one insertion at a time, along several branches: a new
key, a known key, a plural that comes late or disagrees, a reference or a
comment that is known. Here the catalog after any run of insertions is told
from the run alone: the insertions with text, grouped by key. The grouping is
a definition of its own that never looks at a catalog; `addAll_empty` shows
that every run arrives at it, one insertion (`add_grouping`) at a time. -/
namespace MessageHarvest

/-! ## The grouping -/

/-- The insertion brings a text. -/
def Insertion.hasText (i : Insertion) : Bool := !i.msgid.isEmpty

/-- The key of an insertion where `context` is the default one. -/
def Insertion.keyIn (context : Option Text) (i : Insertion) : Key :=
  ⟨i.context.or context, i.msgid⟩

/-- The place that an insertion refers to, as seen from `base`. -/
def Insertion.reference (tree : File.Tree) (base : Text) (i : Insertion) : Reference :=
  ⟨i.line, tree.relativePath base i.path⟩

namespace Catalog

/-- The texts that are not empty, each where it first stands. -/
def distinct (texts : List Text) : List Text := (texts.filter fun t => !t.isEmpty).eraseDups

/-- The keys of the insertions with text, each where it first stands. -/
def keysOf (context : Option Text) (calls : List Insertion) : List Key :=
  ((calls.filter Insertion.hasText).map (Insertion.keyIn context)).eraseDups

/-- The insertions with text under one key. -/
def groupOf (context : Option Text) (key : Key) (calls : List Insertion) : List Insertion :=
  calls.filter fun i => i.hasText && i.keyIn context = key

/-- What a group of insertions under one key amounts to. -/
def entryOf (tree : File.Tree) (base : Text) (key : Key) (group : List Insertion) : Entry where
  msgid := key.msgid
  plural := group.findSome? (·.plural)
  context := key.context
  references := (group.map (Insertion.reference tree base)).eraseDups
  comments := distinct (group.flatMap (·.comments))
  flags := distinct (group.flatMap (·.flags))

/-- The catalog that groups the insertions. -/
def grouping (tree : File.Tree) (base : Text) (context : Option Text) (forms : Int)
    (calls : List Insertion) : Catalog where
  base := base
  defaultContext := context
  pluralForms := max forms 1
  entries := (keysOf context calls).map fun key =>
    entryOf tree base key (groupOf context key calls)

/-- The catalog after an insertion. One that is refused leaves it as it was. -/
def add (tree : File.Tree) (c : Catalog) (i : Insertion) : Catalog :=
  match c.insert tree i with
  | .ok added => added.1
  | .error _ => c

/-- The catalog after insertions, one after the other. -/
def addAll (tree : File.Tree) (c : Catalog) (calls : List Insertion) : Catalog :=
  calls.foldl (add tree) c

/-! ## Distinct texts -/

theorem distinct_concat (known : List Text) (t : Text) :
    distinct (known ++ [t]) =
      if t.isEmpty || (distinct known).contains t then distinct known else distinct known ++ [t] := by
  by_cases ht : t.isEmpty = true
  · simp [distinct, ht]
  · simp only [distinct, List.filter_append, List.filter_singleton, ht, Bool.not_false,
      Bool.false_or, cond_true, eraseDups_concat, List.contains_iff_mem, List.mem_eraseDups]

theorem addNew_distinct (known new : List Text) :
    Entry.addNew (distinct known) new = distinct (known ++ new) := by
  induction new generalizing known with
  | nil => simp [Entry.addNew]
  | cons t new ih =>
    rw [List.append_cons, ← ih, distinct_concat]
    rfl

/-! ## One more insertion -/

section Step

variable (tree : File.Tree) (base : Text) (context : Option Text)

theorem addReference_eq (e : Entry) (r : Reference) : e.addReference r =
    { e with references := if r ∈ e.references then e.references else e.references ++ [r] } := by
  unfold Entry.addReference
  split <;> rfl

theorem entryOf_concat (key : Key) (group : List Insertion) (i : Insertion) :
    entryOf tree base key (group ++ [i]) =
      extend (i.reference tree base) i (entryOf tree base key group) := by
  have hplural : (group ++ [i]).findSome? (·.plural) =
      (group.findSome? (·.plural)).or i.plural := by
    rw [List.findSome?_append, List.findSome?_singleton]
  simp only [extend, Entry.fillPlural, Entry.addFlags, Entry.addComments, addReference_eq, entryOf,
    addNew_distinct, hplural, List.map_append, List.map_singleton, eraseDups_concat,
    List.mem_eraseDups, List.flatMap_append, List.flatMap_singleton]

theorem keysOf_concat (calls : List Insertion) (i : Insertion) :
    keysOf context (calls ++ [i]) =
      if i.hasText ∧ i.keyIn context ∉ keysOf context calls then
        keysOf context calls ++ [i.keyIn context]
      else keysOf context calls := by
  unfold keysOf
  rw [List.filter_append, List.map_append]
  cases hi : i.hasText with
  | false => simp [hi]
  | true =>
    rw [List.filter_cons_of_pos hi, List.filter_nil, List.map_singleton, eraseDups_concat]
    split <;> simp_all

theorem groupOf_concat (key : Key) (calls : List Insertion) (i : Insertion) :
    groupOf context key (calls ++ [i]) =
      if i.hasText ∧ i.keyIn context = key then groupOf context key calls ++ [i]
      else groupOf context key calls := by
  unfold groupOf
  rw [List.filter_append, List.filter_singleton]
  by_cases h : i.hasText ∧ i.keyIn context = key
  · simp [h]
  · have hi : (i.hasText && decide (i.keyIn context = key)) = false := by simpa using h
    rw [if_neg h, hi, cond_false, List.append_nil]

theorem mem_keysOf {key : Key} {calls : List Insertion} :
    key ∈ keysOf context calls ↔ groupOf context key calls ≠ [] := by
  simp [keysOf, groupOf, List.filter_eq_nil_iff, and_assoc]

theorem entryOf_key (key : Key) (group : List Insertion) :
    (entryOf tree base key group).key = key := rfl

theorem find?_eq_self (keys : List Key) (key : Key) :
    keys.find? (fun k => k = key) = if key ∈ keys then some key else none := by
  induction keys with
  | nil => rfl
  | cons k keys ih =>
    rw [List.find?_cons, ih]
    by_cases hk : k = key
    · simp [hk]
    · simp [hk, Ne.symm hk]

/-- The entry of a key in the grouping is what its group amounts to. -/
theorem get?_grouping (forms : Int) (calls : List Insertion) (key : Key) :
    (grouping tree base context forms calls).get? key =
      if key ∈ keysOf context calls then
        some (entryOf tree base key (groupOf context key calls))
      else none := by
  unfold get? grouping
  rw [List.find?_map]
  change ((keysOf context calls).find? fun k => k = key).map _ = _
  rw [find?_eq_self]
  split <;> rfl

theorem extend_new (r : Reference) (i : Insertion) (key : Key) :
    extend r i (Entry.new key i.plural) = extend r i (Entry.new key none) := by
  cases hp : i.plural <;> simp [extend, Entry.fillPlural, Entry.new, hp]

theorem entryOf_groupOf_concat (key : Key) (calls : List Insertion) (i : Insertion) :
    entryOf tree base key (groupOf context key (calls ++ [i])) =
      if i.hasText ∧ i.keyIn context = key then
        extend (i.reference tree base) i (entryOf tree base key (groupOf context key calls))
      else entryOf tree base key (groupOf context key calls) := by
  rw [groupOf_concat]
  split
  · exact entryOf_concat tree base key _ i
  · rfl

theorem add_of_hasText {c : Catalog} {i : Insertion} (h : i.hasText = true) :
    c.add tree i = c.record (i.reference tree c.base) i := by
  have hm : i.msgid.isEmpty = false := by simpa [Insertion.hasText] using h
  simp only [add, insert, hm]
  rfl

theorem add_of_not_hasText {c : Catalog} {i : Insertion} (h : i.hasText = false) :
    c.add tree i = c := by
  have hm : i.msgid.isEmpty = true := by simpa [Insertion.hasText] using h
  simp [add, insert, hm]

/-- One more insertion leads from the grouping of a run to that of the longer run. -/
theorem add_grouping (forms : Int) (calls : List Insertion) (i : Insertion) :
    (grouping tree base context forms calls).add tree i =
      grouping tree base context forms (calls ++ [i]) := by
  cases hi : i.hasText with
  | false =>
    rw [add_of_not_hasText tree hi]
    simp [grouping, keysOf_concat, groupOf_concat, hi]
  | true =>
    rw [add_of_hasText tree hi]
    have hkey : (grouping tree base context forms calls).keyOf i.toCall = i.keyIn context := rfl
    simp only [record, hkey, get?_grouping]
    by_cases hk : i.keyIn context ∈ keysOf context calls
    · -- a known key: its entry alone is extended
      simp only [hk, if_true, Option.isSome_some]
      simp only [grouping, keysOf_concat, hi, hk, not_true, and_false, if_false, List.map_map,
        entryOf_groupOf_concat, true_and]
      congr 1
      apply List.map_congr_left
      intro key _
      by_cases he : i.keyIn context = key
      · simp [entryOf_key, he]
      · simp [entryOf_key, he, Ne.symm he]
    · -- a new key: its group was empty, and the other keys are not concerned
      have hempty : groupOf context (i.keyIn context) calls = [] :=
        Classical.byContradiction fun h => hk ((mem_keysOf context).mpr h)
      simp only [hk, if_false, Option.isSome_none, Bool.false_eq_true]
      simp only [grouping, keysOf_concat, hi, hk, not_false_iff, and_self, if_true, List.map_append,
        List.map_singleton, entryOf_groupOf_concat, true_and, hempty, extend_new]
      congr 2
      apply List.map_congr_left
      intro key hkey
      rw [if_neg]
      intro he
      exact hk (he ▸ hkey)

/-- Every run of insertions into an empty catalog arrives at their grouping. -/
theorem addAll_empty (forms : Int) (calls : List Insertion) :
    (empty base context forms).addAll tree calls = grouping tree base context forms calls := by
  induction calls using List.reverseRecOn with
  | nil => rfl
  | append_singleton calls i ih =>
    unfold addAll at ih ⊢
    rw [List.foldl_append, ih]
    exact add_grouping tree base context forms calls i

end Step

/-! ## Whole runs -/

section Run

variable (tree : File.Tree) (base : Text) (context : Option Text) (forms : Int)

/-- An insertion is refused if it has no text. That its place can be told is assumed of the path and
the base, as in all of `Catalog.insert`: see `Parsing.run_add` for what can be resolved. -/
theorem insert_eq (c : Catalog) (i : Insertion) :
    if i.msgid = [] then c.insert tree i = .error ⟨i.path, i.line⟩ ∧ c.add tree i = c
    else ∃ notices, c.insert tree i = .ok (c.add tree i, notices) := by
  split
  · rename_i h
    exact ⟨by simp [insert, h], add_of_not_hasText tree (by simp [Insertion.hasText, h])⟩
  · rename_i h
    have hm : i.msgid.isEmpty = false := by simpa using h
    rw [add_of_hasText tree (by simp [Insertion.hasText, hm])]
    exact ⟨_, by simp only [insert, hm]; rfl⟩

theorem entries_key_grouping (calls : List Insertion) :
    (grouping tree base context forms calls).entries.map Entry.key = keysOf context calls := by
  simp only [grouping, List.map_map]
  exact List.map_id _

/-- The first plural that came for a key stays, whatever is inserted later. -/
theorem get?_grouping_plural {calls : List Insertion} {key : Key} {e : Entry} {p : Text}
    (he : (grouping tree base context forms calls).get? key = some e) (hp : e.plural = some p)
    (later : List Insertion) :
    ∃ e', (grouping tree base context forms (calls ++ later)).get? key = some e' ∧
      e'.plural = some p := by
  rw [get?_grouping] at he
  split at he
  · rename_i hk
    obtain rfl := Option.some.inj he
    have hgroup : groupOf context key (calls ++ later) =
        groupOf context key calls ++ groupOf context key later := List.filter_append ..
    have hk' : key ∈ keysOf context (calls ++ later) := by
      rw [mem_keysOf] at hk ⊢
      rw [hgroup]
      exact List.append_ne_nil_of_left_ne_nil hk _
    refine ⟨_, by rw [get?_grouping, if_pos hk'], ?_⟩
    change (groupOf context key calls).findSome? (·.plural) = some p at hp
    change (groupOf context key (calls ++ later)).findSome? (·.plural) = some p
    rw [hgroup, List.findSome?_append, hp]
    rfl
  · cases he

/-- **The catalog after any run of insertions is their grouping.** An insertion
without text is refused and changes nothing, in whatever state. The others are
grouped by key: one entry for each key, in the order of first insertions, found
under its own key and under no other, with the distinct references, comments
and flags of the group and its first plural, which later insertions keep. -/
theorem addAll_eq_grouping (calls : List Insertion) :
    (∀ (c : Catalog) (i : Insertion),
      if i.msgid = [] then c.insert tree i = .error ⟨i.path, i.line⟩ ∧ c.add tree i = c
      else ∃ notices, c.insert tree i = .ok (c.add tree i, notices)) ∧
    (empty base context forms).addAll tree calls = grouping tree base context forms calls ∧
    ((empty base context forms).addAll tree calls).entries.map Entry.key =
      keysOf context calls ∧
    (keysOf context calls).Nodup ∧
    (∀ key, ((empty base context forms).addAll tree calls).get? key =
      if key ∈ keysOf context calls then
        some (entryOf tree base key (groupOf context key calls))
      else none) ∧
    (∀ key e p, ((empty base context forms).addAll tree calls).get? key = some e →
      e.plural = some p → ∀ later, ∃ e',
        ((empty base context forms).addAll tree (calls ++ later)).get? key = some e' ∧
          e'.plural = some p) := by
  refine ⟨insert_eq tree, ?_⟩
  simp only [addAll_empty]
  refine ⟨trivial, entries_key_grouping tree base context forms calls, nodup_eraseDups _,
    get?_grouping tree base context forms calls, ?_⟩
  intro key e p he hp later
  exact get?_grouping_plural tree base context forms he hp later

end Run

end Catalog

end MessageHarvest
