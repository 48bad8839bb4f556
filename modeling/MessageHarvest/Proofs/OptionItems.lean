import MessageHarvest.Php.Calls
import MessageHarvest.Script.Calls
import MessageHarvest.Proofs.PhpWrittenCall
import MessageHarvest.Proofs.LiteralExpressions
import Mathlib.Data.List.Induction

/-! # Options that count

Of the items between the brackets of an option list only those count that give
a value under a recognised key, and of these the last for each key. So the
options are a function of the values that stand under the recognised keys, in
their order (`OptionForm.values`): other items may come and go, and items with
different keys may change places. What an item must look like is told by its
tokens (`OptionForm.Gives`), and what the options are by the last values
(`OptionForm.Says`). -/
namespace MessageHarvest

/-- How a language writes the options of a call. Of the keys for the context the first that is given
counts. -/
structure OptionForm where
  separator : Text
  bareKeys : Bool
  operator : Text
  contextKeys : List Text
  pluralKey : Text

namespace OptionForm

variable (f : OptionForm)

/-- The keys that are recognised. -/
def keys : List Text := f.contextKeys ++ [f.pluralKey]

/-- The token is the key: a literal, or where they are allowed a bare name. -/
inductive IsKey (key : Text) (t : Token) : Prop
  | literal (h : t.value? = some key)
  | bare (hbare : f.bareKeys = true) (hkind : t.kind = .name) (htext : t.text = key)

/-- The item gives a value under the key: the key, the separator, and at least one token. -/
inductive Gives (key : Text) : List Token → List Token → Prop
  | mk {first mark v : Token} {vs : List Token} (hkey : f.IsKey key first)
      (hmark : mark.isPunct f.separator = true) : Gives key (first :: mark :: v :: vs) (v :: vs)

/-- The item gives a value under one of the keys. -/
def Recognised (item : List Token) : Prop := ∃ key ∈ f.keys, ∃ value, f.Gives key item value

/-- The last of the items that give a value under the key gives this one. -/
def LastValue (key : Text) (items : List (List Token)) (value : List Token) : Prop :=
  ∃ before item after, items = before ++ item :: after ∧ f.Gives key item value ∧
    ∀ other ∈ after, ∀ v, ¬ f.Gives key other v

/-- What the items say under a key: the text of its last value, if there is one. -/
inductive Says (key : Text) (items : List (List Token)) : Option Text → Prop
  | nothing (h : ∀ item ∈ items, ∀ v, ¬ f.Gives key item v) : Says key items none
  | text {value : List Token} {text : Text} (hlast : f.LastValue key items value)
      (htext : Concatenation f.operator value text) : Says key items (some text)

/-- The items differ only by ones that are not recognised. -/
inductive Alike : List (List Token) → List (List Token) → Prop
  | nil : Alike [] []
  | both (item : List Token) {items others : List (List Token)} (h : Alike items others) :
      Alike (item :: items) (item :: others)
  | left {item : List Token} {items others : List (List Token)} (hitem : ¬ f.Recognised item)
      (h : Alike items others) : Alike (item :: items) others
  | right {item : List Token} {items others : List (List Token)} (hitem : ¬ f.Recognised item)
      (h : Alike items others) : Alike items (item :: others)

/-- No two items give values under the same recognised key. -/
def Distinct (items : List (List Token)) : Prop :=
  items.Pairwise fun a b => ∀ key ∈ f.keys, ∀ v w, f.Gives key a v → ¬ f.Gives key b w

/-! ## Values under a key -/

/-- The value that an item gives under a key. -/
def value? (key : Text) (item : List Token) : Option (List Token) :=
  (keyedItem? f.separator f.bareKeys item).bind fun found =>
    if found.1 = key then some found.2 else none

/-- The values that items give under a key. -/
def values (key : Text) (items : List (List Token)) : List (List Token) :=
  items.filterMap (f.value? key)

variable {f} {key : Text} {item value : List Token} {items others : List (List Token)}

theorem itemKey?_eq_some_iff {t : Token} :
    itemKey? f.bareKeys t = some key ↔ f.IsKey key t := by
  constructor
  · intro h
    unfold itemKey? at h
    split at h
    · rename_i v hkind
      obtain rfl := Option.some.inj h
      exact .literal (by rw [Token.value?, hkind])
    · rename_i hkind
      split at h
      · rename_i hbare
        exact .bare hbare hkind (Option.some.inj h)
      · cases h
    · cases h
  · intro h
    cases h with
    | literal h =>
      unfold Token.value? at h
      split at h
      · rename_i v hkind
        rw [itemKey?, hkind]
        exact h
      · cases h
    | bare hbare hkind htext =>
      rw [itemKey?, hkind, hbare]
      exact congrArg some htext

theorem keyedItem?_eq_some_iff :
    keyedItem? f.separator f.bareKeys item = some (key, value) ↔ f.Gives key item value := by
  constructor
  · intro h
    unfold keyedItem? at h
    split at h
    · rename_i first mark v vs
      split at h
      · rename_i hmark
        obtain ⟨found, hfound, heq⟩ := Option.map_eq_some_iff.mp h
        obtain ⟨rfl, rfl⟩ := Prod.mk.inj heq
        exact .mk (itemKey?_eq_some_iff.mp hfound) hmark
      · cases h
    · cases h
  · rintro ⟨hkey, hmark⟩
    rw [keyedItem?, if_pos hmark, itemKey?_eq_some_iff.mpr hkey]
    rfl

theorem value?_eq_some_iff : f.value? key item = some value ↔ f.Gives key item value := by
  rw [← keyedItem?_eq_some_iff, value?]
  cases keyedItem? f.separator f.bareKeys item with
  | none => simp
  | some found => simp [Prod.ext_iff]

theorem value?_eq_none_iff : f.value? key item = none ↔ ∀ v, ¬ f.Gives key item v := by
  rw [Option.eq_none_iff_forall_ne_some]
  exact forall_congr' fun v => not_congr value?_eq_some_iff

/-- The last value is the one behind which no item gives another. -/
theorem getLast?_values_eq_some_iff :
    (f.values key items).getLast? = some value ↔ f.LastValue key items value := by
  rw [values, List.getLast?_filterMap, List.findSome?_eq_some_iff]
  constructor
  · rintro ⟨after, item, before, hitems, hitem, hafter⟩
    refine ⟨before.reverse, item, after.reverse, ?_, value?_eq_some_iff.mp hitem, ?_⟩
    · rw [← List.reverse_reverse items, hitems]
      simp
    · intro other hother
      exact value?_eq_none_iff.mp (hafter other (List.mem_reverse.mp hother))
  · rintro ⟨before, item, after, rfl, hitem, hafter⟩
    refine ⟨after.reverse, item, before.reverse, by simp, value?_eq_some_iff.mpr hitem, ?_⟩
    intro other hother
    exact value?_eq_none_iff.mpr (hafter other (List.mem_reverse.mp hother))

theorem getLast?_values_eq_none_iff :
    (f.values key items).getLast? = none ↔ ∀ item ∈ items, ∀ v, ¬ f.Gives key item v := by
  rw [List.getLast?_eq_none_iff, values, List.filterMap_eq_nil_iff]
  exact forall₂_congr fun item _ => value?_eq_none_iff

/-! ## What does not change the values -/

theorem value?_of_not_recognised (h : ¬ f.Recognised item) (hkey : key ∈ f.keys) :
    f.value? key item = none :=
  value?_eq_none_iff.mpr fun v hgives => h ⟨key, hkey, v, hgives⟩

theorem Alike.values_eq (h : f.Alike items others) (hkey : key ∈ f.keys) :
    f.values key items = f.values key others := by
  unfold values
  induction h with
  | nil => rfl
  | both item _ ih => rw [List.filterMap_cons, List.filterMap_cons, ih]
  | left hitem _ ih => rw [List.filterMap_cons_none (value?_of_not_recognised hitem hkey), ih]
  | right hitem _ ih => rw [List.filterMap_cons_none (value?_of_not_recognised hitem hkey), ih]

/-- Under each recognised key there is one value at most. -/
theorem Distinct.values_le (h : f.Distinct items) (hkey : key ∈ f.keys) :
    f.values key items = [] ∨ ∃ value, f.values key items = [value] := by
  have hpair : (f.values key items).Pairwise fun _ _ => False :=
    List.Pairwise.filterMap (f.value? key) (fun a b hab v hv w hw =>
      hab key hkey v w (value?_eq_some_iff.mp hv) (value?_eq_some_iff.mp hw)) h
  cases hvalues : f.values key items with
  | nil => exact .inl rfl
  | cons value rest =>
    rw [hvalues, List.pairwise_cons] at hpair
    cases rest with
    | nil => exact .inr ⟨value, rfl⟩
    | cons other _ => exact (hpair.1 other List.mem_cons_self).elim

theorem Distinct.values_perm (h : f.Distinct items) (hperm : items.Perm others)
    (hkey : key ∈ f.keys) : f.values key items = f.values key others := by
  have hvalues : (f.values key items).Perm (f.values key others) := hperm.filterMap _
  rcases h.values_le hkey with hnil | ⟨value, hone⟩
  · rw [hnil] at hvalues ⊢
    exact (List.nil_perm.mp hvalues).symm
  · rw [hone] at hvalues ⊢
    exact List.singleton_perm.mp hvalues

/-! ## What the last values say -/

theorem says_iff {said : Option Text} :
    f.Says key items said ↔
      (f.values key items).getLast?.map (literalValue? f.operator) = said.map some := by
  constructor
  · intro h
    cases h with
    | nothing h => rw [getLast?_values_eq_none_iff.mpr h]; rfl
    | text hlast htext =>
      rw [getLast?_values_eq_some_iff.mpr hlast, Option.map_some,
        literalValue?_eq_some_iff.mpr htext]
      rfl
  · intro h
    cases hlast : (f.values key items).getLast? with
    | none =>
      rw [hlast, Option.map_none] at h
      rw [Option.map_eq_none_iff.mp h.symm]
      exact .nothing (getLast?_values_eq_none_iff.mp hlast)
    | some value =>
      rw [hlast, Option.map_some] at h
      obtain ⟨text, rfl, htext⟩ := Option.map_eq_some_iff.mp h.symm
      exact .text (getLast?_values_eq_some_iff.mp hlast)
        (literalValue?_eq_some_iff.mp htext.symm)

end OptionForm

/-! ## Items that are kept by their keys -/

theorem Keyed.get?_cons {α : Type} (item : Text × α) (items : Keyed α) (key : Text) :
    Keyed.get? (item :: items) key = if item.1 = key then some item.2 else items.get? key := by
  obtain ⟨k, value⟩ := item
  rw [Keyed.get?, List.lookup_cons]
  by_cases hk : k = key
  · simp [hk]
  · simp [hk, beq_false_of_ne (Ne.symm hk), Keyed.get?]

theorem Keyed.get?_put {α : Type} (items : Keyed α) (key : Text) (value : α) (k : Text) :
    (Keyed.put key value items).get? k = if key = k then some value else items.get? k := by
  induction items with
  | nil => exact Keyed.get?_cons (key, value) [] k
  | cons item items ih =>
    rw [Keyed.put]
    split
    · rename_i hitem
      rw [Keyed.get?_cons, Keyed.get?_cons, hitem]
      split <;> rfl
    · rename_i hitem
      rw [Keyed.get?_cons, Keyed.get?_cons, ih]
      by_cases hk : key = k
      · rw [if_pos hk, if_pos hk, if_neg (hk ▸ hitem)]
      · rw [if_neg hk, if_neg hk]

/-- Under each key the last value is kept. -/
theorem Keyed.get?_putAll {α : Type} (new : Keyed α) (key : Text) :
    (Keyed.putAll [] new).get? key =
      (new.filterMap fun item => if item.1 = key then some item.2 else none).getLast? := by
  induction new using List.reverseRecOn with
  | nil => rfl
  | append_singleton new item ih =>
    have hput : Keyed.putAll [] (new ++ [item]) =
        Keyed.put item.1 item.2 (Keyed.putAll [] new) := by
      rw [Keyed.putAll, List.foldl_append]
      rfl
    rw [hput, Keyed.get?_put, ih, List.filterMap_append]
    by_cases hkey : item.1 = key
    · simp [hkey]
    · simp [hkey]

namespace CallOptions

variable {operator : Text} {names : List (Text × OptionRole)} {items others : Keyed (List Token)}

/-- Only the values under the names are looked at. -/
theorem read?_congr (h : ∀ name ∈ names, items.get? name.1 = others.get? name.1) :
    read? operator names items = read? operator names others := by
  unfold read?
  generalize empty = options
  induction names generalizing options with
  | nil => rfl
  | cons name names ih =>
    obtain ⟨hname, hrest⟩ := List.forall_mem_cons.mp h
    rw [List.foldlM_cons, List.foldlM_cons, hname]
    exact bind_congr fun options => ih hrest options

/-- There are no options just if a value under one of the names is no literal expression. -/
theorem read?_eq_none_iff :
    read? operator names items = none ↔
      ∃ name ∈ names, ∃ value, items.get? name.1 = some value ∧
        literalValue? operator value = none := by
  unfold read?
  generalize empty = options
  induction names generalizing options with
  | nil => simp
  | cons name names ih =>
    rw [List.foldlM_cons, List.exists_mem_cons_iff]
    cases hget : items.get? name.1 with
    | none => simp [ih]
    | some value =>
      cases hvalue : literalValue? operator value with
      | none => simp [hvalue]
      | some text => simp [hvalue, ih]

end CallOptions

/-! ## Options from items -/

namespace OptionForm

/-- The options that are read from items under some names. -/
def options? (f : OptionForm) (names : List (Text × OptionRole)) (items : List (List Token)) :
    Option CallOptions :=
  CallOptions.read? f.operator names
    (Keyed.putAll [] (items.filterMap (keyedItem? f.separator f.bareKeys)))

/-- The names are the recognised keys, and stand for the options as the form says. -/
structure NamedBy (f : OptionForm) (names : List (Text × OptionRole)) : Prop where
  mem_iff : ∀ key, key ∈ f.keys ↔ key ∈ names.map Prod.fst
  fold : ∀ value : Text → Option Text,
    names.foldl (fun options name => (value name.1).elim options (options.set name.2))
      CallOptions.empty = ⟨f.contextKeys.findSome? value, value f.pluralKey⟩

variable {f : OptionForm} {names : List (Text × OptionRole)} {items others : List (List Token)}

theorem get?_items (key : Text) :
    (Keyed.putAll [] (items.filterMap (keyedItem? f.separator f.bareKeys))).get? key =
      (f.values key items).getLast? := by
  rw [Keyed.get?_putAll, List.filterMap_filterMap]
  rfl

namespace NamedBy

theorem mem_keys (named : f.NamedBy names) {name : Text × OptionRole} (h : name ∈ names) :
    name.1 ∈ f.keys :=
  (named.mem_iff _).mpr (List.mem_map_of_mem h)

/-- The options depend only on the values under the recognised keys. -/
theorem options?_congr (named : f.NamedBy names)
    (h : ∀ key ∈ f.keys, f.values key items = f.values key others) :
    f.options? names items = f.options? names others := by
  refine CallOptions.read?_congr fun name hname => ?_
  rw [get?_items, get?_items, h name.1 (named.mem_keys hname)]

theorem options?_eq_none_iff (named : f.NamedBy names) :
    f.options? names items = none ↔ ∃ key ∈ f.keys, ∃ value, f.LastValue key items value ∧
      ∀ text, ¬ Concatenation f.operator value text := by
  rw [options?, CallOptions.read?_eq_none_iff]
  constructor
  · rintro ⟨name, hname, value, hget, hvalue⟩
    rw [get?_items] at hget
    exact ⟨name.1, named.mem_keys hname, value,
      getLast?_values_eq_some_iff.mp hget, literalValue?_eq_none_iff.mp hvalue⟩
  · rintro ⟨key, hkey, value, hlast, hvalue⟩
    obtain ⟨name, hname, rfl⟩ := List.mem_map.mp ((named.mem_iff _).mp hkey)
    refine ⟨name, hname, value, ?_, literalValue?_eq_none_iff.mpr hvalue⟩
    rw [get?_items]
    exact getLast?_values_eq_some_iff.mpr hlast

theorem options?_of_says (named : f.NamedBy names) {value : Text → Option Text}
    (h : ∀ key ∈ f.keys, f.Says key items (value key)) :
    f.options? names items = some ⟨f.contextKeys.findSome? value, value f.pluralKey⟩ := by
  rw [options?, CallOptions.read?_eq_foldl value, named.fold]
  intro name hname
  rw [get?_items]
  exact says_iff.mp (h name.1 (named.mem_keys hname))

/-- If there are options, then the last value under each recognised key has a text. -/
theorem says_of_options? (named : f.NamedBy names) {options : CallOptions}
    (h : f.options? names items = some options) {key : Text} (hkey : key ∈ f.keys) :
    f.Says key items ((f.values key items).getLast?.bind (literalValue? f.operator)) := by
  cases hlast : (f.values key items).getLast? with
  | none => exact .nothing (getLast?_values_eq_none_iff.mp hlast)
  | some value =>
    have hvalue := getLast?_values_eq_some_iff.mp hlast
    cases htext : literalValue? f.operator value with
    | some text =>
      rw [Option.bind_some, htext]
      exact .text hvalue (literalValue?_eq_some_iff.mp htext)
    | none =>
      have hnone := named.options?_eq_none_iff.mpr
        ⟨key, hkey, value, hvalue, literalValue?_eq_none_iff.mp htext⟩
      rw [hnone] at h
      cases h

theorem options?_eq_some_iff (named : f.NamedBy names) {options : CallOptions} :
    f.options? names items = some options ↔ ∃ value : Text → Option Text,
      (∀ key ∈ f.keys, f.Says key items (value key)) ∧
        options = ⟨f.contextKeys.findSome? value, value f.pluralKey⟩ := by
  constructor
  · intro h
    have hread := named.options?_of_says fun _ => named.says_of_options? h
    rw [h] at hread
    exact ⟨_, fun _ => named.says_of_options? h, Option.some.inj hread⟩
  · rintro ⟨value, hsays, rfl⟩
    exact named.options?_of_says hsays

end NamedBy

end OptionForm

/-! ## Readers of options -/

/-- A reader of written options takes from the items what the form says, and nothing else. -/
structure ReadsRecognised (f : OptionForm) (Written : List (List Token) → List Token → Prop)
    (read : List Token → Option CallOptions) : Prop where
  same : ∀ items ts us, Written items ts → Written items us → read ts = read us
  others : ∀ items others ts us, Written items ts → Written others us → f.Alike items others →
    read ts = read us
  order : ∀ items others ts us, Written items ts → Written others us → f.Distinct items →
    items.Perm others → read ts = read us
  none_iff : ∀ items ts, Written items ts → (read ts = none ↔
    ∃ key ∈ f.keys, ∃ value, f.LastValue key items value ∧
      ∀ text, ¬ Concatenation f.operator value text)
  some_iff : ∀ items ts options, Written items ts → (read ts = some options ↔
    ∃ value : Text → Option Text, (∀ key ∈ f.keys, f.Says key items (value key)) ∧
      options = ⟨f.contextKeys.findSome? value, value f.pluralKey⟩)

theorem OptionForm.NamedBy.readsRecognised {f : OptionForm} {names : List (Text × OptionRole)}
    (named : f.NamedBy names) {Written : List (List Token) → List Token → Prop}
    {read : List Token → Option CallOptions}
    (hread : ∀ items ts, Written items ts → read ts = f.options? names items) :
    ReadsRecognised f Written read where
  same items ts us hts hus := by rw [hread _ _ hts, hread _ _ hus]
  others items others ts us hts hus halike := by
    rw [hread _ _ hts, hread _ _ hus]
    exact named.options?_congr fun key hkey => halike.values_eq hkey
  order items others ts us hts hus hdistinct hperm := by
    rw [hread _ _ hts, hread _ _ hus]
    exact named.options?_congr fun key hkey => hdistinct.values_perm hperm hkey
  none_iff items ts hts := by rw [hread _ _ hts, named.options?_eq_none_iff]
  some_iff items ts options hts := by rw [hread _ _ hts, named.options?_eq_some_iff]

namespace Php

/-- Options in an array: of the two keys for the context `msgctxt` goes first. -/
def optionForm : OptionForm where
  separator := "=>".toList
  bareKeys := false
  operator := ".".toList
  contextKeys := ["msgctxt".toList, "context".toList]
  pluralKey := "plural".toList

/-- The items as an array, `array(…)` or `[…]`. -/
inductive WrittenArray (items : List (List Token)) : List Token → Prop
  | function {name o c : Token} {ts : List Token} (hname : name.kind = .name)
      (harray : Text.asciiLower name.text = "array".toList) (ho : o.isPunct ['('] = true)
      (hc : c.isPunct [')'] = true) (h : ItemList items ts) :
      WrittenArray items (name :: o :: (ts ++ [c]))
  | brackets {o c : Token} {ts : List Token} (ho : o.isPunct ['['] = true)
      (hc : c.isPunct [']'] = true) (h : ItemList items ts) : WrittenArray items (o :: (ts ++ [c]))

theorem namedBy_optionNames : optionForm.NamedBy optionNames where
  mem_iff key := by
    simp only [OptionForm.keys, optionForm, optionNames, List.cons_append, List.nil_append,
      List.map_cons, List.map_nil, List.mem_cons]
    exact or_left_comm
  fold value := by
    simp only [optionNames, optionForm, List.foldl_cons, List.foldl_nil, List.findSome?_cons]
    cases value "context".toList <;> cases value "msgctxt".toList <;>
      cases value "plural".toList <;> rfl

theorem WrittenArray.arrayItems? {items : List (List Token)} {ts : List Token}
    (h : WrittenArray items ts) :
    arrayItems? ts =
      some (Keyed.putAll [] (items.filterMap (keyedItem? "=>".toList false))) := by
  cases h with
  | @function name o c ts hname harray ho hc h =>
    rw [arrayItems?_function hname harray (o :: (ts ++ [c])) ho]
    exact h.keyedItems? (Token.opens?_of_isPunct ho) (Token.closes?_of_isPunct hc) _ _ []
  | @brackets o c ts ho hc h =>
    rw [arrayItems?_brackets (o :: (ts ++ [c])) ho]
    exact h.keyedItems? (Token.opens?_of_isPunct ho) (Token.closes?_of_isPunct hc) _ _ []

theorem readsRecognised : ReadsRecognised optionForm WrittenArray callOptions? :=
  namedBy_optionNames.readsRecognised fun items ts h => by
    rw [callOptions?, h.arrayItems?]
    rfl

end Php

namespace Script

/-- Options in an object literal. -/
def optionForm : OptionForm where
  separator := ":".toList
  bareKeys := true
  operator := "+".toList
  contextKeys := ["context".toList]
  pluralKey := "plural".toList

/-- The items as an object literal. -/
inductive WrittenObject (items : List (List Token)) : List Token → Prop
  | braces {o c : Token} {ts : List Token} (ho : o.isPunct ['{'] = true)
      (hc : c.isPunct ['}'] = true) (h : ItemList items ts) : WrittenObject items (o :: (ts ++ [c]))

theorem namedBy_optionNames : optionForm.NamedBy optionNames where
  mem_iff key := Iff.rfl
  fold value := by
    simp only [optionNames, optionForm, List.foldl_cons, List.foldl_nil, List.findSome?_cons]
    cases value "context".toList <;> cases value "plural".toList <;> rfl

theorem readsRecognised : ReadsRecognised optionForm WrittenObject callOptions? :=
  namedBy_optionNames.readsRecognised fun items ts h => by
    obtain ⟨ho, hc, h⟩ := h
    rw [callOptions?, List.head?_cons, Option.any_some, if_pos ho,
      h.keyedItems? (Token.opens?_of_isPunct ho) (Token.closes?_of_isPunct hc)]
    rfl

end Script

/-- **Only recognised options count.** In both languages items without a recognised key may come and
go, and the order matters only for items under the same key. There are no options just if the last
value under some recognised key is no literal expression, and else the last values are they. -/
theorem only_recognised_options_count :
    ReadsRecognised Php.optionForm Php.WrittenArray Php.callOptions? ∧
      ReadsRecognised Script.optionForm Script.WrittenObject Script.callOptions? :=
  ⟨Php.readsRecognised, Script.readsRecognised⟩

/-- The items with commas between them. -/
def joinItems : List (List Token) → List Token
  | [] => []
  | [item] => item
  | item :: items => item ++ ⟨.punct, ",".toList, 1, none⟩ :: joinItems items

theorem joined_joinItems : ∀ items : List (List Token), Joined items (joinItems items)
  | [] => .nil
  | [item] => .last item
  | item :: other :: items => .cons item rfl (joined_joinItems (other :: items))

/-- An item with a quoted key and one token as its value. -/
def OptionForm.pair (f : OptionForm) (entry : Text × Token) : List Token :=
  [⟨.literal entry.1, "'".toList ++ entry.1 ++ "'".toList, 1, none⟩,
    ⟨.punct, f.separator, 1, none⟩, entry.2]

theorem OptionForm.itemList_pairs {f : OptionForm} (hjoint : isJoint f.separator = true)
    {entries : List (Text × Token)} (h : ∀ entry ∈ entries, entry.2.kind ≠ .punct) :
    ItemList (entries.map f.pair) (joinItems (entries.map f.pair)) := by
  refine ⟨joined_joinItems _, List.forall_mem_map.mpr fun entry hentry => ?_⟩
  exact argument_literal rfl
    (argument_joint (by simp [Token.isPunct]) hjoint (argument_of_kind (h entry hentry) .nil))

theorem OptionForm.Gives.eq_of_pair {f : OptionForm} {entry : Text × Token} {key : Text}
    {value : List Token} (h : f.Gives key (f.pair entry) value) : entry.1 = key := by
  rcases h with ⟨hkey | ⟨_, hkind, _⟩, _⟩
  · exact Option.some.inj hkey
  · cases hkind

/-- `array('plural' => 'p')` and `['x' => $y, 'plural' => 'p']` say the same, and so do
`['context' => 'c', 'plural' => 'p']` and `['plural' => 'p', 'context' => 'c']`. Of
`['plural' => 'p', 'msgctxt' => 'm', 'context' => 'c', 'plural' => 'q']` the last plural counts and
the first context, and `{'plural': 'p', 'plural': y}` gives no options. -/
theorem only_recognised_options_count_small :
    let text (c : Char) : Token := ⟨.literal [c], "'".toList ++ [c] ++ "'".toList, 1, none⟩
    let plural (c : Char) : Text × Token := ("plural".toList, text c)
    let context : Text × Token := ("context".toList, text 'c')
    let items (entries : List (Text × Token)) : List Token :=
      joinItems (entries.map Php.optionForm.pair)
    let brackets (entries : List (Text × Token)) : List Token :=
      ⟨.punct, ['['], 1, none⟩ :: (items entries ++ [⟨.punct, [']'], 1, none⟩])
    Php.callOptions? (⟨.name, "array".toList, 1, none⟩ :: ⟨.punct, ['('], 1, none⟩ ::
        (items [plural 'p'] ++ [⟨.punct, [')'], 1, none⟩])) =
      Php.callOptions? (brackets [(['x'], ⟨.var, "$y".toList, 1, none⟩), plural 'p']) ∧
    Php.callOptions? (brackets [context, plural 'p']) =
      Php.callOptions? (brackets [plural 'p', context]) ∧
    Php.callOptions? (brackets [plural 'p', ("msgctxt".toList, text 'm'), context, plural 'q']) =
      some ⟨some ['m'], some ['q']⟩ ∧
    Script.callOptions? (⟨.punct, ['{'], 1, none⟩ :: (joinItems ([plural 'p', ("plural".toList,
        ⟨.name, ['y'], 1, none⟩)].map Script.optionForm.pair) ++ [⟨.punct, ['}'], 1, none⟩])) =
      none := by
  intro text plural context items brackets
  have hitems {entries : List (Text × Token)} (h : ∀ entry ∈ entries, entry.2.kind ≠ .punct) :
      ItemList (entries.map Php.optionForm.pair) (items entries) :=
    OptionForm.itemList_pairs (by decide) h
  have hwritten {entries : List (Text × Token)} (h : ∀ entry ∈ entries, entry.2.kind ≠ .punct) :
      Php.WrittenArray (entries.map Php.optionForm.pair) (brackets entries) :=
    .brackets rfl rfl (hitems h)
  refine ⟨?_, ?_, ?_, ?_⟩
  · refine only_recognised_options_count.1.others _ _ _ _
      (.function rfl rfl rfl rfl (hitems (by simp [plural, text])))
      (hwritten (by simp [plural, text])) (.right ?_ (.both _ .nil))
    rintro ⟨key, hkey, value, hgives⟩
    obtain rfl := hgives.eq_of_pair
    exact absurd hkey (by decide)
  · refine only_recognised_options_count.1.order _ _ _ _
      (hwritten (by simp [plural, context, text]))
      (hwritten (by simp [plural, context, text])) ?_ (.swap _ _ _)
    refine List.pairwise_pair.mpr fun key _ v w hfirst hsecond => ?_
    have hkeys := hfirst.eq_of_pair.trans hsecond.eq_of_pair.symm
    exact absurd hkeys (by decide)
  · refine (only_recognised_options_count.1.some_iff _ _ _
      (hwritten (by simp [plural, context, text]))).mpr
      ⟨fun key => if key = "plural".toList then some ['q']
        else if key = "msgctxt".toList then some ['m'] else some ['c'], ?_, rfl⟩
    refine List.forall_mem_cons.mpr ⟨?_, List.forall_mem_cons.mpr ⟨?_,
      List.forall_mem_singleton.mpr ?_⟩⟩ <;> exact OptionForm.says_iff.mpr rfl
  · refine (only_recognised_options_count.2.none_iff _ _ (.braces rfl rfl
      (OptionForm.itemList_pairs (by decide) (by simp [plural, text])))).mpr
      ⟨"plural".toList, by decide, [⟨.name, ['y'], 1, none⟩],
        OptionForm.getLast?_values_eq_some_iff.mp rfl, literalValue?_eq_none_iff.mp rfl⟩

end MessageHarvest
