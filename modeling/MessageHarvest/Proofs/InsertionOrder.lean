import MessageHarvest.Proofs.CatalogGrouping

/-! # The order of insertions

Of two plurals for a key the one that comes first is kept, and whether the
other is reported depends on what the catalog holds at that time. What is
reported at all does not: a run is silent just if the insertions under each key
bring one plural at most (`PluralsAgree`), which says nothing of their order.
So a rearranged run gives the same groups, rearranged, and if it is silent the
same plurals. -/
namespace MessageHarvest

/-- The entries have one key, and the same references, comments and flags in some order. -/
structure Entry.Rearranged (e e' : Entry) : Prop where
  key : e.key = e'.key
  references : e.references.Perm e'.references
  comments : e.comments.Perm e'.comments
  flags : e.flags.Perm e'.flags

namespace Catalog

/-- The catalog after insertions, one after the other, and all notices. An insertion that is refused
ends the run. -/
def insertAll (tree : File.Tree) :
    Catalog → List Insertion → Except EmptyMessage (Catalog × List Notice)
  | c, [] => .ok (c, [])
  | c, i :: calls => do
    let (c, notices) ← c.insert tree i
    let (c, later) ← insertAll tree c calls
    return (c, notices ++ later)

/-! ## Plurals that agree -/

/-- The insertions bring one plural at most. -/
def OnePlural (group : List Insertion) : Prop :=
  ∀ i ∈ group, ∀ j ∈ group, ∀ p q, i.plural = some p → j.plural = some q → p = q

/-- The insertions under each key bring one plural at most. -/
def PluralsAgree (context : Option Text) (calls : List Insertion) : Prop :=
  ∀ key, OnePlural (groupOf context key calls)

theorem onePlural_concat {group : List Insertion} {i : Insertion} :
    OnePlural (group ++ [i]) ↔ OnePlural group ∧
      ∀ j ∈ group, ∀ p q, j.plural = some p → i.plural = some q → p = q := by
  constructor
  · intro h
    refine ⟨fun j hj k hk => h j (by simp [hj]) k (by simp [hk]), ?_⟩
    exact fun j hj => h j (by simp [hj]) i (by simp)
  · rintro ⟨hgroup, hi⟩ j hj k hk p q hp hq
    rcases List.mem_append.mp hj with hj | hj <;> rcases List.mem_append.mp hk with hk | hk
    · exact hgroup j hj k hk p q hp hq
    · exact hi j hj p q hp (List.mem_singleton.mp hk ▸ hq)
    · exact (hi k hk q p hq (List.mem_singleton.mp hj ▸ hp)).symm
    · rw [List.mem_singleton.mp hj] at hp
      rw [List.mem_singleton.mp hk] at hq
      exact Option.some.inj (hp.symm.trans hq)

/-- The first plural of a group is its only one. -/
theorem OnePlural.findSome?_iff {group : List Insertion} (h : OnePlural group) {p : Text} :
    group.findSome? (·.plural) = some p ↔ ∃ i ∈ group, i.plural = some p := by
  refine ⟨List.exists_of_findSome?_eq_some, ?_⟩
  rintro ⟨i, hi, hp⟩
  cases hfirst : group.findSome? (·.plural) with
  | none => exact absurd (List.findSome?_eq_none_iff.mp hfirst i hi) (by simp [hp])
  | some q =>
    obtain ⟨j, hj, hq⟩ := List.exists_of_findSome?_eq_some hfirst
    rw [h j hj i hi q p hq hp]

variable {context : Option Text}

theorem PluralsAgree.of_append {calls later : List Insertion}
    (h : PluralsAgree context (calls ++ later)) : PluralsAgree context calls := by
  intro key i hi j hj
  have hgroup : groupOf context key (calls ++ later) =
      groupOf context key calls ++ groupOf context key later := List.filter_append ..
  exact h key i (by simp [hgroup, hi]) j (by simp [hgroup, hj])

/-- One more insertion agrees if its plural is that of the insertions under its key. -/
theorem pluralsAgree_concat {calls : List Insertion} {i : Insertion} (hi : i.hasText = true) :
    PluralsAgree context (calls ++ [i]) ↔ PluralsAgree context calls ∧
      ∀ j ∈ groupOf context (i.keyIn context) calls,
        ∀ p q, j.plural = some p → i.plural = some q → p = q := by
  constructor
  · intro h
    have hkey := h (i.keyIn context)
    rw [groupOf_concat, if_pos ⟨hi, rfl⟩] at hkey
    exact ⟨h.of_append, (onePlural_concat.mp hkey).2⟩
  · rintro ⟨hcalls, hnew⟩ key
    rw [groupOf_concat]
    split
    · rename_i h
      obtain ⟨_, rfl⟩ := h
      exact onePlural_concat.mpr ⟨hcalls _, hnew⟩
    · exact hcalls key

/-! ## What is reported -/

theorem conflict?_eq_none_iff {i : Insertion} {e : Entry} : conflict? i e = none ↔
    ∀ p q, e.plural = some p → i.plural = some q → p = q := by
  unfold conflict?
  split
  · rename_i kept other hkept hother
    simp [hkept, hother]
  · rename_i hnone
    refine iff_of_true rfl fun p q hp hq => (hnone p q hp hq).elim

/-- What an insertion reports after others is told by the first plural of its group. -/
theorem conflict?_grouping_eq_none_iff {tree : File.Tree} {base : Text} {forms : Int}
    {calls : List Insertion} {i : Insertion} :
    ((grouping tree base context forms calls).get? (i.keyIn context)).bind (conflict? i) = none ↔
      ∀ p q, (groupOf context (i.keyIn context) calls).findSome? (·.plural) = some p →
        i.plural = some q → p = q := by
  rw [get?_grouping]
  split
  · exact conflict?_eq_none_iff
  · rename_i hk
    have hempty : groupOf context (i.keyIn context) calls = [] :=
      Classical.byContradiction fun h => hk ((mem_keysOf context).mpr h)
    simp [hempty]

/-- The notice is about the insertion, and about a plural that is not the one kept. -/
def Reports (n : Notice) (i : Insertion) : Prop :=
  ∃ kept other, i.plural = some other ∧ kept ≠ other ∧
    n = .pluralConflict i.msgid i.path i.line kept other

theorem reports_of_conflict? {i : Insertion} {e : Entry} {n : Notice}
    (h : conflict? i e = some n) : Reports n i := by
  unfold conflict? at h
  split at h
  · rename_i kept other _ hother
    split at h
    · cases h
    · rename_i hne
      exact ⟨kept, other, hother, hne, (Option.some.inj h).symm⟩
  · cases h

/-! ## Runs -/

section Run

variable (tree : File.Tree) (base : Text) (context : Option Text) (forms : Int)

/-- One more insertion with text succeeds. After insertions that agree, it is silent just if it
agrees with them. -/
theorem insert_grouping (calls : List Insertion) {i : Insertion} (hi : i.hasText = true) :
    ∃ notices, (grouping tree base context forms calls).insert tree i =
        .ok (grouping tree base context forms (calls ++ [i]), notices) ∧
      (∀ n ∈ notices, Reports n i) ∧
      (PluralsAgree context calls →
        (notices = [] ↔ PluralsAgree context (calls ++ [i]))) := by
  have hm : i.msgid.isEmpty = false := by simpa [Insertion.hasText] using hi
  refine ⟨(((grouping tree base context forms calls).get? (i.keyIn context)).bind
    (conflict? i)).toList, ?_, ?_, ?_⟩
  · rw [← add_grouping, add_of_hasText tree hi]
    simp only [insert, hm]
    rfl
  · intro n hn
    obtain ⟨e, _, hn⟩ := Option.bind_eq_some_iff.mp (Option.mem_toList.mp hn)
    exact reports_of_conflict? hn
  · intro hagree
    rw [Option.toList_eq_nil_iff, conflict?_grouping_eq_none_iff, pluralsAgree_concat hi]
    -- where the plurals agree, the first of a group speaks for all of them
    constructor
    · intro h
      refine ⟨hagree, fun j hj p q hp hq => h p q ?_ hq⟩
      exact (hagree _).findSome?_iff.mpr ⟨j, hj, hp⟩
    · rintro ⟨_, h⟩ p q hp hq
      obtain ⟨j, hj, hp⟩ := (hagree _).findSome?_iff.mp hp
      exact h j hj p q hp hq

/-- A run of insertions with text succeeds, and is silent just if all plurals agree. -/
theorem insertAll_grouping (done calls : List Insertion) (hcalls : ∀ i ∈ calls, i.hasText = true) :
    ∃ log, (grouping tree base context forms done).insertAll tree calls =
        .ok (grouping tree base context forms (done ++ calls), log) ∧
      (∀ n ∈ log, ∃ i ∈ calls, Reports n i) ∧
      (PluralsAgree context done →
        (log = [] ↔ PluralsAgree context (done ++ calls))) := by
  induction calls generalizing done with
  | nil => exact ⟨[], by simp [insertAll], by simp, by simp⟩
  | cons i calls ih =>
    obtain ⟨hi, hcalls⟩ := List.forall_mem_cons.mp hcalls
    obtain ⟨notices, hinsert, hreports, hsilent⟩ :=
      insert_grouping tree base context forms done hi
    obtain ⟨later, hrun, hlater, hrest⟩ := ih (done ++ [i]) hcalls
    rw [List.append_assoc, List.singleton_append] at hrun hrest
    refine ⟨notices ++ later, ?_, ?_, ?_⟩
    · simp only [insertAll, hinsert, hrun, bind, Except.bind]
      rfl
    · intro n hn
      rcases List.mem_append.mp hn with hn | hn
      · exact ⟨i, List.mem_cons_self, hreports n hn⟩
      · obtain ⟨j, hj, h⟩ := hlater n hn
        exact ⟨j, List.mem_cons_of_mem i hj, h⟩
    · intro hdone
      rw [List.append_eq_nil_iff, hsilent hdone]
      constructor
      · rintro ⟨hagree, hnil⟩
        exact (hrest hagree).mp hnil
      · intro hagree
        have hfirst : PluralsAgree context (done ++ [i]) := by
          apply PluralsAgree.of_append
          rwa [List.append_assoc]
        exact ⟨hfirst, (hrest hfirst).mpr hagree⟩

end Run

/-! ## Rearranged runs -/

theorem keysOf_perm {calls calls' : List Insertion} (h : calls.Perm calls') :
    (keysOf context calls).Perm (keysOf context calls') :=
  perm_eraseDups ((h.filter _).map _)

theorem groupOf_perm (key : Key) {calls calls' : List Insertion} (h : calls.Perm calls') :
    (groupOf context key calls).Perm (groupOf context key calls') :=
  h.filter _

/-- A rearranged group amounts to the same entry, rearranged. -/
theorem entryOf_rearranged (tree : File.Tree) (base : Text) (key : Key)
    {group group' : List Insertion} (h : group.Perm group') :
    (entryOf tree base key group).Rearranged (entryOf tree base key group') where
  key := rfl
  references := perm_eraseDups (h.map _)
  comments := perm_eraseDups ((h.flatMap_right _).filter _)
  flags := perm_eraseDups ((h.flatMap_right _).filter _)

theorem OnePlural.perm {group group' : List Insertion} (h : group.Perm group')
    (hone : OnePlural group) : OnePlural group' :=
  fun i hi j hj => hone i (h.mem_iff.mpr hi) j (h.mem_iff.mpr hj)

theorem PluralsAgree.perm {calls calls' : List Insertion} (h : calls.Perm calls')
    (hagree : PluralsAgree context calls) : PluralsAgree context calls' :=
  fun key => (hagree key).perm (groupOf_perm key h)

/-- Where the plurals agree, a rearranged group has the same plural. -/
theorem OnePlural.findSome?_perm {group group' : List Insertion} (h : group.Perm group')
    (hone : OnePlural group) : group.findSome? (·.plural) = group'.findSome? (·.plural) := by
  apply Option.ext
  intro p
  rw [hone.findSome?_iff, (hone.perm h).findSome?_iff]
  simp only [h.mem_iff]

/-- A key is in both catalogs of a rearranged run, with its group in either order, or in none. -/
theorem get?_grouping_perm (tree : File.Tree) (base : Text) (forms forms' : Int) (key : Key)
    {calls calls' : List Insertion} (h : calls.Perm calls') :
    ((grouping tree base context forms calls).get? key = none ∧
      (grouping tree base context forms' calls').get? key = none) ∨
    ((grouping tree base context forms calls).get? key =
        some (entryOf tree base key (groupOf context key calls)) ∧
      (grouping tree base context forms' calls').get? key =
        some (entryOf tree base key (groupOf context key calls'))) := by
  rw [get?_grouping, get?_grouping]
  have hkeys : key ∈ keysOf context calls ↔ key ∈ keysOf context calls' := (keysOf_perm h).mem_iff
  by_cases hk : key ∈ keysOf context calls
  · rw [if_pos hk, if_pos (hkeys.mp hk)]
    exact .inr ⟨rfl, rfl⟩
  · rw [if_neg hk, if_neg (mt hkeys.mpr hk)]
    exact .inl ⟨rfl, rfl⟩

/-- **The order of insertions changes only the order of the result.** Two runs of insertions with
text that are rearrangements of each other succeed, and end with the same keys and, under each key,
the same references, comments and flags, all of them rearranged. Each notice is about a plural that
was not kept. If one of the runs is silent so is the other, and then the plurals are the same too. -/
theorem insertion_order_immaterial (tree : File.Tree) (base : Text) (context : Option Text)
    (forms forms' : Int) {calls calls' : List Insertion} (hperm : calls.Perm calls')
    (hcalls : ∀ i ∈ calls, i.msgid ≠ []) :
    ∃ c log c' log',
      (empty base context forms).insertAll tree calls = .ok (c, log) ∧
      (empty base context forms').insertAll tree calls' = .ok (c', log') ∧
      (c.entries.map Entry.key).Perm (c'.entries.map Entry.key) ∧
      (∀ key, Option.Rel Entry.Rearranged (c.get? key) (c'.get? key)) ∧
      (∀ n ∈ log ++ log', ∃ i ∈ calls, Reports n i) ∧
      (log = [] ↔ log' = []) ∧
      (log = [] → ∀ key, (c.get? key).map Entry.plural = (c'.get? key).map Entry.plural) := by
  have htext : ∀ i ∈ calls, i.hasText = true := by
    intro i hi
    simpa [Insertion.hasText] using hcalls i hi
  obtain ⟨log, hrun, hlog, hsilent⟩ := insertAll_grouping tree base context forms [] calls htext
  obtain ⟨log', hrun', hlog', hsilent'⟩ := insertAll_grouping tree base context forms' [] calls'
    fun i hi => htext i (hperm.mem_iff.mpr hi)
  have hnone : PluralsAgree context [] := fun key i hi => (List.not_mem_nil hi).elim
  have hlogs : log = [] ↔ log' = [] := by
    rw [hsilent hnone, hsilent' hnone]
    exact ⟨PluralsAgree.perm hperm, PluralsAgree.perm hperm.symm⟩
  refine ⟨_, log, _, log', hrun, hrun', ?_, ?_, ?_, hlogs, ?_⟩
  · rw [entries_key_grouping, entries_key_grouping]
    exact keysOf_perm hperm
  · intro key
    rcases get?_grouping_perm tree base forms forms' key hperm with ⟨h, h'⟩ | ⟨h, h'⟩
    · rw [List.nil_append, List.nil_append, h, h']
      exact .none
    · rw [List.nil_append, List.nil_append, h, h']
      exact .some (entryOf_rearranged tree base key (groupOf_perm key hperm))
  · intro n hn
    rcases List.mem_append.mp hn with hn | hn
    · exact hlog n hn
    · obtain ⟨i, hi, h⟩ := hlog' n hn
      exact ⟨i, hperm.mem_iff.mpr hi, h⟩
  · intro hnil key
    have hone : OnePlural (groupOf context key calls) := (hsilent hnone).mp hnil key
    rcases get?_grouping_perm tree base forms forms' key hperm with ⟨h, h'⟩ | ⟨h, h'⟩
    · rw [List.nil_append, List.nil_append, h, h']
    · rw [List.nil_append, List.nil_append, h, h']
      exact congrArg some (hone.findSome?_perm (groupOf_perm key hperm))

/-- Two places with one text, of which the second has a plural. -/
def latePlural : List Insertion :=
  [⟨⟨⟨['a'], 1, none, none⟩, [['x']]⟩, ['f'], []⟩,
    ⟨⟨⟨['a'], 2, some ['b'], none⟩, [['x'], ['y']]⟩, ['f'], []⟩]

/-- A plural that comes late, with the text or before it. -/
theorem insertion_order_immaterial_late_plural :
    latePlural.Perm latePlural.reverse ∧ (∀ i ∈ latePlural, i.msgid ≠ []) ∧
    ∃ c c', (empty ['/'] none 2).insertAll .empty latePlural = .ok (c, []) ∧
      (empty ['/'] none 2).insertAll .empty latePlural.reverse = .ok (c', []) ∧
      (c.get? ⟨none, ['a']⟩).map Entry.plural = some (some ['b']) ∧
      (c'.get? ⟨none, ['a']⟩).map Entry.plural = some (some ['b']) := by
  have hperm : latePlural.Perm latePlural.reverse := (List.reverse_perm _).symm
  have hcalls : ∀ i ∈ latePlural, i.msgid ≠ [] := by decide
  obtain ⟨c, log, c', log', hrun, hrun', _, _, _, hlogs, hplurals⟩ :=
    insertion_order_immaterial .empty ['/'] none 2 2 hperm hcalls
  have hsilent : log = [] ∧ (c.get? ⟨none, ['a']⟩).map Entry.plural = some (some ['b']) := by
    have h : ((empty ['/'] none 2).insertAll .empty latePlural).toOption.map
        (fun r => (r.2, (r.1.get? ⟨none, ['a']⟩).map Entry.plural)) =
          some ([], some (some ['b'])) := by
      decide +kernel
    rw [hrun] at h
    simpa [Except.toOption] using h
  obtain ⟨rfl, hplural⟩ := hsilent
  obtain rfl := hlogs.mp rfl
  exact ⟨hperm, hcalls, c, c', hrun, hrun', hplural, hplurals rfl _ ▸ hplural⟩

end Catalog

end MessageHarvest
