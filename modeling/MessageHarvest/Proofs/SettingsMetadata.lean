import MessageHarvest.Proofs.CatalogGrouping
import MessageHarvest.Proofs.EarlierStrings
import MessageHarvest.Proofs.LiteralExpressions

/-! # Settings metadata beside calls

A file of settings metadata is read like any other PHP file, and at each token
a value that it is the key of may be found as well. A call starts with a name
and a key is a literal, so no token is both: what the metadata adds stands
between the calls, in the order of the keys, and without it the calls are
left. What counts as a value is said here by the shape of the tokens alone
(`MetadataValue`). -/
namespace MessageHarvest

open Event (occurrences occurrences_append occurrences_notices)

/-- What a file adds to a catalog are the strings found in it, inserted in their order. -/
theorem Catalog.apply_fst (tree : File.Tree) (path : Text) (c : Catalog) (events : List Event) :
    (c.apply tree path events).1 =
      c.addAll tree ((occurrences events).map fun o => ⟨o, path, []⟩) := by
  induction events generalizing c with
  | nil => rfl
  | cons event events ih =>
    cases event with
    | notice n => exact ih c
    | found o =>
      have hadd : (c.apply tree path (.found o :: events)).1 =
          ((c.add tree ⟨o, path, []⟩).apply tree path events).1 := by
        rw [apply, add]
        split <;> rename_i h <;> rw [h]
      rw [hadd, ih]
      rfl

namespace Php

/-! ## Values of settings -/

/-- The token is one of the keys, and `=>`, the literals of a value that is not empty, and the end of
the element follow it. The string has the line of its first literal, and the comment of the key. -/
inductive MetadataValue (tag : Option Text) (keys : List Text) (t : Token) :
    List Token → Occurrence → Prop
  | mk {key v : Text} {arrow first next : Token} {others more : List Token}
      (hkey : t.value? = some key) (hmem : key ∈ keys) (harrow : arrow.isPunct "=>".toList = true)
      (hvalue : Concatenation ".".toList (first :: others) v) (hne : v ≠ [])
      (hnext : next.isOneOf [",".toList, ")".toList, "]".toList] = true) :
      MetadataValue tag keys t (arrow :: (first :: others ++ next :: more))
        ⟨⟨v, first.line, none, none⟩, commentLines tag t.comment⟩

/-- What ends an element is no part of a value. -/
theorem isValuePart_of_end {next : Token}
    (h : next.isOneOf [",".toList, ")".toList, "]".toList] = true) : isValuePart next = false := by
  simp only [Token.isOneOf, Bool.and_eq_true, decide_eq_true_eq, List.contains_iff_mem] at h
  obtain ⟨hkind, htext⟩ := h
  have hdot : next.text ≠ ".".toList := by
    intro hdot
    rw [hdot] at htext
    exact absurd htext (by decide)
  simpa [isValuePart, Token.value?, Token.isPunct, hkind] using hdot

/-- Literals joined by dots are parts of a value. -/
theorem isValuePart_of_concatenation {tokens : List Token} {v : Text}
    (h : Concatenation ".".toList tokens v) : ∀ t ∈ tokens, isValuePart t = true := by
  intro t ht
  rcases h.1.forall_mem t ht with hvalue | hmark
  · rw [isValuePart, Option.isSome_iff_ne_none.mpr hvalue, Bool.true_or]
  · rw [isValuePart, hmark, Bool.or_true]

/-- A value is all that can be read as one, and the end of an element follows it. -/
theorem settingValue_eq_ok_iff {tokens : List Token} {first : Token} {others : List Token} :
    settingValue tokens = .ok (first :: others) ↔
      (∀ t ∈ first :: others, isValuePart t = true) ∧ ∃ next more,
        tokens = first :: others ++ next :: more ∧
          next.isOneOf [",".toList, ")".toList, "]".toList] = true := by
  constructor
  · intro h
    simp only [settingValue] at h
    split at h
    · rename_i next more _ hdrop
      split at h
      · rename_i hnext
        have hvalue := Except.ok.inj h
        refine ⟨fun t ht => List.mem_takeWhile_imp (hvalue ▸ ht), next, more, ?_, hnext⟩
        rw [hvalue] at hdrop
        have hprefix : first :: others <+: tokens := hvalue ▸ List.takeWhile_prefix isValuePart
        rw [← hdrop]
        exact (List.prefix_iff_eq_append.mp hprefix).symm
      · cases h
    · cases h
  · rintro ⟨hparts, next, more, rfl, hnext⟩
    have htake : (first :: others ++ next :: more).takeWhile isValuePart = first :: others := by
      rw [List.takeWhile_append_of_pos hparts,
        List.takeWhile_cons_of_neg (by simp [isValuePart_of_end hnext]), List.append_nil]
    simp only [settingValue, htake, List.drop_left, if_pos hnext]

variable {tag : Option Text} {keys : List Text} {t : Token} {after : List Token} {o : Occurrence}

theorem MetadataValue.occurrences_eq (h : MetadataValue tag keys t after o) :
    occurrences (settingEvents tag keys t after) = [o] := by
  cases h with
  | @mk key v arrow first next others more hkey hmem harrow hvalue hne hnext =>
    have hread := settingValue_eq_ok_iff.mpr
      ⟨isValuePart_of_concatenation hvalue, next, more, rfl, hnext⟩
    have hliteral := literalValue?_eq_some_iff.mpr hvalue
    have hentry : (keys.contains key && arrow.isPunct "=>".toList) = true := by
      rw [harrow, Bool.and_true]
      exact List.contains_iff_mem.mpr hmem
    obtain ⟨c, cs, rfl⟩ := List.exists_cons_of_ne_nil hne
    simp only [settingEvents, hkey, hentry, if_true, hread, hliteral]
    rfl

theorem metadataValue_of_mem (h : o ∈ occurrences (settingEvents tag keys t after)) :
    MetadataValue tag keys t after o := by
  unfold settingEvents at h
  split at h
  · rename_i key arrow tokens hkey
    split at h
    · rename_i hentry
      obtain ⟨hmem, harrow⟩ := Bool.and_eq_true_iff.mp hentry
      cases hread : settingValue tokens with
      | error why =>
        simp only [hread, occurrences_notices] at h
        cases h
      | ok value =>
        cases value with
        | nil =>
          simp only [hread, literalValue?] at h
          cases h
        | cons first others =>
          obtain ⟨_, next, more, rfl, hnext⟩ := settingValue_eq_ok_iff.mp hread
          simp only [hread] at h
          split at h
          · rename_i c cs hliteral
            obtain rfl := List.mem_singleton.mp h
            exact .mk hkey (List.contains_iff_mem.mp hmem) harrow
              (literalValue?_eq_some_iff.mp hliteral) (List.cons_ne_nil c cs) hnext
          · cases h
    · cases h
  · cases h

/-- A token is the key of a value just if that is found there. -/
theorem mem_occurrences_settingEvents :
    o ∈ occurrences (settingEvents tag keys t after) ↔ MetadataValue tag keys t after o := by
  refine ⟨metadataValue_of_mem, fun h => ?_⟩
  rw [h.occurrences_eq]
  exact List.mem_singleton_self o

/-- A token is the key of one value at most. -/
theorem occurrences_settingEvents (tag : Option Text) (keys : List Text) (t : Token)
    (after : List Token) : occurrences (settingEvents tag keys t after) = [] ∨
      ∃ o, MetadataValue tag keys t after o ∧ occurrences (settingEvents tag keys t after) = [o] := by
  cases hvalues : occurrences (settingEvents tag keys t after) with
  | nil => exact .inl rfl
  | cons o others =>
    have hvalue : MetadataValue tag keys t after o := metadataValue_of_mem (by simp [hvalues])
    exact .inr ⟨o, hvalue, hvalues.symm.trans hvalue.occurrences_eq⟩

/-! ## Calls and values token by token -/

theorem settingEvents_of_not_literal (h : t.value? = none) :
    settingEvents tag keys t after = [] := by
  simp [settingEvents, h]

theorem callEvents_of_literal {key : Text} (h : t.value? = some key) (before : List Token) :
    callEvents tag before t after = [] := by
  rw [callEvents, readCall_of_value? h]

/-- The strings at a token are that of a call and that of a value, of which one is none. -/
theorem occurrences_metadataEvents (tag : Option Text) (keys : List Text) (before : List Token)
    (t : Token) (after : List Token) :
    occurrences (metadataEvents tag keys before t after) =
      occurrences (callEvents tag before t after) ++ occurrences (settingEvents tag keys t after) := by
  unfold metadataEvents
  split
  · rename_i call hcall
    cases hkey : t.value? with
    | none => rw [settingEvents_of_not_literal hkey]; simp [occurrences]
    | some key =>
      rw [readCall_of_value? hkey] at hcall
      cases hcall
  · exact occurrences_append _ _

/-- How a string was found: by a call, or as the value of a setting. -/
inductive Origin where
  | call
  | metadata
deriving DecidableEq

/-- A string, how it was found, and the position of its token: the name that is called, or the
key. -/
structure Found where
  position : Nat
  origin : Origin
  occurrence : Occurrence

/-- The strings at the token of a position. -/
def foundAt (tag : Option Text) (keys : List Text) (n : Nat) (before : List Token) (t : Token)
    (after : List Token) : List Found :=
  (occurrences (callEvents tag before t after)).map (⟨n, .call, ·⟩) ++
    (occurrences (settingEvents tag keys t after)).map (⟨n, .metadata, ·⟩)

/-- The strings among tokens of which the first has the given position. -/
def foundFrom (tag : Option Text) (keys : List Text) :
    Nat → List Token → List Token → List Found
  | _, _, [] => []
  | n, before, t :: after =>
    foundAt tag keys n before t after ++ foundFrom tag keys (n + 1) (t :: before) after

theorem map_occurrence_foundFrom (n : Nat) (before ts : List Token) :
    (foundFrom tag keys n before ts).map Found.occurrence =
      occurrences (settingTokenEvents tag keys before ts) := by
  induction ts generalizing n before with
  | nil => rfl
  | cons t after ih =>
    rw [foundFrom, settingTokenEvents, occurrences_append, occurrences_metadataEvents,
      List.map_append, ih]
    simp [foundAt, Function.comp_def]

theorem map_occurrence_calls (n : Nat) (before ts : List Token) :
    ((foundFrom tag keys n before ts).filter fun f => f.origin = .call).map Found.occurrence =
      occurrences (tokenEvents tag before ts) := by
  induction ts generalizing n before with
  | nil => rfl
  | cons t after ih =>
    rw [foundFrom, tokenEvents, occurrences_append, List.filter_append, List.map_append, ih]
    simp [foundAt, List.filter_map, Function.comp_def]

theorem mem_occurrences_callEvents {before : List Token} :
    o ∈ occurrences (callEvents tag before t after) ↔ callEvents tag before t after = [.found o] := by
  unfold callEvents
  split <;> simp [occurrences, Event.occurrence?, eq_comm]

/-- At one token one string is found at most. -/
theorem foundAt_eq (tag : Option Text) (keys : List Text) (n : Nat) (before : List Token)
    (t : Token) (after : List Token) :
    foundAt tag keys n before t after = [] ∨ ∃ f, foundAt tag keys n before t after = [f] := by
  cases hkey : t.value? with
  | none =>
    -- no key: there may be a call
    rw [foundAt, settingEvents_of_not_literal hkey, callEvents]
    split <;> simp [occurrences, Event.occurrence?]
  | some key =>
    -- no name: there may be a value
    rw [foundAt, callEvents_of_literal hkey]
    rcases occurrences_settingEvents tag keys t after with h | ⟨o, _, h⟩
    · rw [h]
      exact .inl rfl
    · rw [h]
      exact .inr ⟨_, rfl⟩

/-- A string at a token is that of a call or a value there. -/
theorem mem_foundAt {n : Nat} {before : List Token} {f : Found} :
    f ∈ foundAt tag keys n before t after ↔ f.position = n ∧
      match f.origin with
      | .call => callEvents tag before t after = [.found f.occurrence]
      | .metadata => MetadataValue tag keys t after f.occurrence := by
  obtain ⟨position, origin, o⟩ := f
  rw [foundAt, List.mem_append, List.mem_map, List.mem_map]
  cases origin with
  | call => simp [mem_occurrences_callEvents, eq_comm, and_comm]
  | metadata => simp [mem_occurrences_settingEvents, eq_comm, and_comm]

/-- A string among the tokens is one at a token. -/
theorem mem_foundFrom {n : Nat} {before ts : List Token} {f : Found} :
    f ∈ foundFrom tag keys n before ts ↔ ∃ first t after, ts = first ++ t :: after ∧
      f ∈ foundAt tag keys (n + first.length) (first.reverse ++ before) t after := by
  induction ts generalizing n before with
  | nil => simp [foundFrom]
  | cons t after ih =>
    rw [foundFrom, List.mem_append, ih]
    constructor
    · rintro (h | ⟨first, u, rest, rfl, h⟩)
      · exact ⟨[], t, after, rfl, h⟩
      · refine ⟨t :: first, u, rest, rfl, ?_⟩
        rw [List.length_cons, List.reverse_cons, List.append_assoc, List.singleton_append]
        rwa [Nat.add_right_comm, Nat.add_assoc] at h
    · rintro ⟨first, u, rest, hts, h⟩
      cases first with
      | nil =>
        obtain ⟨rfl, rfl⟩ := List.cons.inj hts
        exact .inl h
      | cons first others =>
        obtain ⟨rfl, rfl⟩ := List.cons.inj hts
        refine .inr ⟨others, u, rest, rfl, ?_⟩
        rw [List.length_cons, List.reverse_cons, List.append_assoc, List.singleton_append] at h
        rwa [Nat.add_right_comm, Nat.add_assoc]

/-- The tokens of the strings stand one behind the other. -/
theorem pairwise_foundFrom (n : Nat) (before ts : List Token) :
    (foundFrom tag keys n before ts).Pairwise fun f g => f.position < g.position := by
  induction ts generalizing n before with
  | nil => exact .nil
  | cons t after ih =>
    rw [foundFrom]
    refine List.pairwise_append.mpr ⟨?_, ih _ _, ?_⟩
    · rcases foundAt_eq tag keys n before t after with h | ⟨f, h⟩
      · rw [h]
        exact .nil
      · rw [h]
        exact List.pairwise_singleton _ f
    · intro f hf g hg
      obtain ⟨first, u, rest, _, hg⟩ := mem_foundFrom.mp hg
      rw [(mem_foundAt.mp hf).1, (mem_foundAt.mp hg).1]
      omega

/-! ## Whole files -/

/-- Where no keys are named, the values of settings add nothing. -/
theorem settingTokenEvents_nil (tag : Option Text) (before ts : List Token) :
    settingTokenEvents tag [] before ts = tokenEvents tag before ts := by
  have hnone : ∀ t after, settingEvents tag [] t after = [] := by
    intro t after
    unfold settingEvents
    split <;> simp
  induction ts generalizing before with
  | nil => rfl
  | cons t after ih =>
    rw [settingTokenEvents, tokenEvents, ih, metadataEvents, hnone, List.append_nil]
    split <;> rfl

theorem MetadataValue.mono {keys' : List Text} (h : MetadataValue tag keys t after o)
    (hkeys : ∀ key ∈ keys, key ∈ keys') : MetadataValue tag keys' t after o := by
  cases h with
  | mk hkey hmem harrow hvalue hne hnext =>
    exact .mk hkey (hkeys _ hmem) harrow hvalue hne hnext

theorem occurrences_settingEvents_sublist {keys' : List Text}
    (hkeys : ∀ key ∈ keys, key ∈ keys') (t : Token) (after : List Token) :
    (occurrences (settingEvents tag keys t after)).Sublist
      (occurrences (settingEvents tag keys' t after)) := by
  rcases occurrences_settingEvents tag keys t after with h | ⟨o, hvalue, h⟩
  · rw [h]
    exact List.nil_sublist _
  · rw [h, (hvalue.mono hkeys).occurrences_eq]

/-- With more keys the strings are those found with fewer, and others between them. -/
theorem occurrences_settingTokenEvents_sublist {keys' : List Text}
    (hkeys : ∀ key ∈ keys, key ∈ keys') (before ts : List Token) :
    (occurrences (settingTokenEvents tag keys before ts)).Sublist
      (occurrences (settingTokenEvents tag keys' before ts)) := by
  induction ts generalizing before with
  | nil => exact List.nil_sublist _
  | cons t after ih =>
    rw [settingTokenEvents, settingTokenEvents, occurrences_append, occurrences_append,
      occurrences_metadataEvents, occurrences_metadataEvents]
    refine List.Sublist.append ?_ (ih _)
    exact (List.Sublist.refl _).append (occurrences_settingEvents_sublist hkeys t after)

/-- **Settings metadata adds values to what the calls contribute.** Each string of a file of settings
metadata is found at one token of the file, by a call or as a value, and they are inserted in the
order of these tokens, no token giving two of them. The strings of the calls are just those of the
file read as PHP; the others are just the values under the keys. With no keys the catalog is that of
the PHP file, whatever it held before, and with more keys no string is lost and none changes its
place. -/
theorem settings_refine_calls (tag : Option Text) (keys : List Text) (source : Text) :
    (∃ found : List Found,
      found.map Found.occurrence = occurrences (settingFileEvents tag keys source) ∧
      (∀ (tree : File.Tree) (path : Text) (c : Catalog),
        (c.apply tree path (settingFileEvents tag keys source)).1 =
          c.addAll tree (found.map fun f => ⟨f.occurrence, path, []⟩)) ∧
      (found.filter fun f => f.origin = .call).map Found.occurrence =
        occurrences (events tag source) ∧
      (found.Pairwise fun f g => f.position < g.position) ∧
      ∀ f, f ∈ found ↔ ∃ before t after,
        Item.significant (scan false 1 source).items = before ++ t :: after ∧
        f.position = before.length ∧
        match f.origin with
        | .call => callEvents tag before.reverse t after = [.found f.occurrence]
        | .metadata => MetadataValue tag keys t after f.occurrence) ∧
    (∀ (tree : File.Tree) (path : Text) (c : Catalog),
      c.apply tree path (settingFileEvents tag [] source) = c.apply tree path (events tag source)) ∧
    (∀ keys', (∀ key ∈ keys, key ∈ keys') →
      (occurrences (settingFileEvents tag keys source)).Sublist
        (occurrences (settingFileEvents tag keys' source))) := by
  have hfound : (foundFrom tag keys 0 [] (Item.significant (scan false 1 source).items)).map
      Found.occurrence = occurrences (settingFileEvents tag keys source) := by
    rw [occurrences_settingFileEvents]
    exact map_occurrence_foundFrom 0 [] _
  refine ⟨⟨_, hfound, ?_, ?_, ?_, ?_⟩, ?_, ?_⟩
  · intro tree path c
    rw [Catalog.apply_fst, ← hfound, List.map_map]
    rfl
  · rw [events, occurrences_scanEvents]
    exact map_occurrence_calls 0 [] _
  · exact pairwise_foundFrom 0 [] _
  · intro f
    simp only [mem_foundFrom, mem_foundAt, Nat.zero_add, List.append_nil]
  · intro tree path c
    rw [settingFileEvents, settingTokenEvents_nil]
    rfl
  · intro keys' hkeys
    rw [occurrences_settingFileEvents, occurrences_settingFileEvents]
    exact occurrences_settingTokenEvents_sublist hkeys [] _

end Php

end MessageHarvest
