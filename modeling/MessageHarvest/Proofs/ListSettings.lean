import MessageHarvest.Proofs.CatalogDecoding
import MessageHarvest.Proofs.TextParts
import MessageHarvest.Value.Coercion

/-! # List settings as text

A list is shown as its items with a comma and a blank between them, and a text
is read as a list by cutting it at commas and semicolons. Cutting turns a
separator into a break between two lists (`listParts_append`), a blank at the
beginning does not count, and what is left between the separators are items
that stand for themselves (`IsListItem`). So exactly the lists of such items
survive being shown, and reading never gives another list. -/
namespace MessageHarvest

/-- The text can be an item of a list that is written as text. -/
structure IsListItem (s : Text) : Prop where
  nonempty : s ≠ []
  tightStart : s.TightStart
  tightEnd : s.TightEnd
  noComma : ',' ∉ s
  noSemicolon : ';' ∉ s

instance (s : Text) : Decidable (IsListItem s) :=
  decidable_of_iff (s ≠ [] ∧ s.TightStart ∧ s.TightEnd ∧ ',' ∉ s ∧ ';' ∉ s)
    ⟨fun ⟨hne, hstart, hend, hcomma, hsemicolon⟩ => ⟨hne, hstart, hend, hcomma, hsemicolon⟩,
      fun h => ⟨h.nonempty, h.tightStart, h.tightEnd, h.noComma, h.noSemicolon⟩⟩

/-! ## Cutting a text -/

/-- A comma or a semicolon. -/
def isItemSeparator (c : Char) : Bool := c = ';' || c = ','

theorem listParts_eq (s : Text) : listParts s =
    ((Text.pieces isItemSeparator s).map Text.trim).filter fun part => !part.isEmpty := rfl

/-- A separator ends one list and begins another. -/
theorem listParts_append {c : Char} (hc : isItemSeparator c = true) (s rest : Text) :
    listParts (s ++ c :: rest) = listParts s ++ listParts rest := by
  rw [listParts_eq, listParts_eq, listParts_eq, Text.pieces_append hc, List.map_append,
    List.filter_append]

/-- A blank at the beginning does not count. -/
theorem listParts_cons_of_isTrimmed {c : Char} (hc : Text.isTrimmed c = true)
    (hplain : isItemSeparator c = false) (s : Text) : listParts (c :: s) = listParts s := by
  rw [listParts_eq, listParts_eq, Text.pieces, hplain]
  cases hpieces : Text.pieces isItemSeparator s with
  | nil => exact absurd hpieces (Text.pieces_ne_nil _ s)
  | cons piece more =>
    simp only [Bool.false_eq_true, if_false, List.map_cons, Text.trim_cons_of_isTrimmed hc]

theorem IsListItem.not_isItemSeparator {s : Text} (h : IsListItem s) :
    ∀ c ∈ s, isItemSeparator c = false := by
  intro c hc
  have hcomma : c ≠ ',' := fun he => h.noComma (he ▸ hc)
  have hsemicolon : c ≠ ';' := fun he => h.noSemicolon (he ▸ hc)
  simp [isItemSeparator, hcomma, hsemicolon]

/-- An item stands for itself. -/
theorem IsListItem.listParts_eq {s : Text} (h : IsListItem s) : listParts s = [s] := by
  rw [MessageHarvest.listParts_eq, Text.pieces_eq_singleton h.not_isItemSeparator,
    List.map_singleton, Text.trim_eq_self h.tightStart h.tightEnd]
  simp [h.nonempty]

/-- Nothing else is read. -/
theorem isListItem_of_mem_listParts {s item : Text} (h : item ∈ listParts s) : IsListItem item := by
  rw [listParts_eq, List.mem_filter] at h
  obtain ⟨hmem, hne⟩ := h
  obtain ⟨piece, hpiece, rfl⟩ := List.mem_map.mp hmem
  have hfree : ∀ c, isItemSeparator c = true → c ∉ Text.trim piece := by
    intro c hc hin
    have hnot := Text.not_isSeparator_of_mem_pieces hpiece c (Text.mem_of_mem_trim hin)
    rw [hc] at hnot
    cases hnot
  refine ⟨by simpa using hne, Text.tightStart_trim piece, Text.tightEnd_trim piece, ?_, ?_⟩
  · exact hfree ',' rfl
  · exact hfree ';' rfl

theorem listParts_joinWith {items : List Text} (h : ∀ s ∈ items, IsListItem s) :
    listParts (Text.joinWith ", ".toList items) = items := by
  induction items with
  | nil => rfl
  | cons s items ih =>
    obtain ⟨hs, hitems⟩ := List.forall_mem_cons.mp h
    cases items with
    | nil =>
      rw [Text.joinWith, List.intercalate_singleton]
      exact hs.listParts_eq
    | cons t items =>
      have hjoin : Text.joinWith ", ".toList (s :: t :: items) =
          s ++ ',' :: ' ' :: Text.joinWith ", ".toList (t :: items) := by
        rw [Text.joinWith_cons_cons, List.append_assoc]
        rfl
      rw [hjoin, listParts_append rfl, hs.listParts_eq,
        listParts_cons_of_isTrimmed (by decide) (by decide), ih hitems]
      rfl

/-! ## Showing and reading a setting -/

namespace Value

/-- Wherever the value is set, or is the default, it is shown as this text. -/
def ShownAs (v : Value) (s : Text) : Prop :=
  ∀ (settings : Settings) (key : Text) (default : Value), settings.valueOf key default = v →
    settings.getText key default = some s

/-- Wherever the value is set, or is the default, it is read as the list of these texts. -/
def ListedAs (v : Value) (items : List Text) : Prop :=
  ∀ (settings : Settings) (key : Text) (default : Value), settings.valueOf key default = v →
    settings.getList key default = .ok (items.map .text) ∧
      settings.getTexts key default = .ok items

theorem shownAs_list (items : List Text) :
    ShownAs (.list (items.map .text)) (Text.joinWith ", ".toList items) := by
  intro settings key default hvalue
  have hshown : (items.map Value.text).map shown = items := by
    rw [List.map_map]
    exact List.map_id items
  simp only [Settings.getText, hvalue, hshown]

theorem getList_of_text {settings : Settings} {key : Text} {default : Value} {s : Text}
    (hvalue : settings.valueOf key default = .text s) :
    settings.getList key default = .ok ((listParts s).map .text) := by
  simp only [Settings.getList, hvalue]

/-- A default that is no more than an empty text makes no other list than no default. -/
theorem getList_of_default {settings : Settings} {key : Text} {default : Value} {s : Text}
    (hvalue : settings.valueOf key default = .text s) :
    settings.getList key (if default.isGiven then default else .list []) =
      .ok ((listParts s).map .text) := by
  by_cases hgiven : default.isGiven = true
  · rw [if_pos hgiven]
    exact getList_of_text hvalue
  · rw [if_neg hgiven]
    cases hget : settings.get? key with
    | some v =>
      have hset : settings.valueOf key (.list []) = .text s := by
        rw [Settings.valueOf, hget] at hvalue ⊢
        exact hvalue
      exact getList_of_text hset
    | none =>
      obtain rfl : default = .text s := by
        rw [Settings.valueOf, hget] at hvalue
        exact hvalue
      obtain rfl : s = [] := by simpa [isGiven] using hgiven
      simp [Settings.getList, Settings.valueOf, hget, listParts_eq, Text.pieces, Text.trim,
        Text.trimRight]

theorem listedAs_text (s : Text) : ListedAs (.text s) (listParts s) := by
  intro settings key default hvalue
  refine ⟨getList_of_text hvalue, ?_⟩
  have htrim : ∀ item ∈ listParts s, Text.trim item = item := by
    intro item hitem
    have h := isListItem_of_mem_listParts hitem
    exact Text.trim_eq_self h.tightStart h.tightEnd
  rw [Settings.getTexts, getList_of_default hvalue]
  have hpresent : ((listParts s).map Value.text).filter Settings.isPresent =
      (listParts s).map Value.text := by
    simp [List.filter_eq_self, Settings.isPresent]
  have hitems : (listParts s).map (fun item => Text.trim item) = listParts s :=
    (List.map_congr_left htrim).trans (List.map_id _)
  simp only [Except.map, hpresent, List.map_map]
  exact congrArg Except.ok hitems

/-- A value is read as one list only. -/
theorem ListedAs.unique {v : Value} {items others : List Text} (h : v.ListedAs items)
    (hothers : v.ListedAs others) : items = others := by
  obtain ⟨_, hitems⟩ := h [] [] v rfl
  obtain ⟨_, hsame⟩ := hothers [] [] v rfl
  exact Except.ok.inj (hitems.symm.trans hsame)

/-- The list can be shown, and the text that shows it is read as the same list. -/
def Survives (items : List Text) : Prop :=
  ∃ shown, ShownAs (.list (items.map .text)) shown ∧ ListedAs (.text shown) items

theorem survives_iff (items : List Text) : Survives items ↔ ∀ s ∈ items, IsListItem s := by
  constructor
  · rintro ⟨shown, _, hlisted⟩ s hs
    obtain rfl := hlisted.unique (listedAs_text shown)
    exact isListItem_of_mem_listParts hs
  · intro h
    refine ⟨_, shownAs_list items, ?_⟩
    have hlisted := listedAs_text (Text.joinWith ", ".toList items)
    rwa [listParts_joinWith h] at hlisted

end Value

open Value (ListedAs ShownAs Survives)

/-- **List settings survive being shown as text.** The lists of texts that survive are those of
items that are not empty, have nothing to be trimmed and hold no separator. Every text is read as a
list of this kind, so that reading, showing and reading again is the same as reading once. -/
theorem list_settings_survive :
    (∀ items : List Text, (∀ s ∈ items, IsListItem s) ↔ Survives items) ∧
      ∀ v : Text, ∃ items, ListedAs (.text v) items ∧ Survives items := by
  refine ⟨fun items => (Value.survives_iff items).symm, ?_⟩
  intro v
  refine ⟨listParts v, Value.listedAs_text v, (Value.survives_iff _).mpr ?_⟩
  intro s hs
  exact isListItem_of_mem_listParts hs

/-- A blank inside an item stays, and neither empty items nor tabs at the ends count. -/
theorem list_settings_survive_mixed :
    let items := ["my docs".toList, ".git".toList]
    let v := ";my docs ,, \t.git; ".toList
    (∀ s ∈ items, IsListItem s) ∧ Survives items ∧
      ∃ read, ListedAs (.text v) read ∧ read = items ∧ Survives read := by
  intro items v
  have hitems : ∀ s ∈ items, IsListItem s :=
    List.forall_mem_cons.mpr ⟨by decide, List.forall_mem_singleton.mpr (by decide)⟩
  have hparts : listParts v = items := by decide +kernel
  obtain ⟨read, hread, hsurvives⟩ := list_settings_survive.2 v
  have hsame : read = items := (hread.unique (Value.listedAs_text v)).trans hparts
  exact ⟨hitems, (list_settings_survive.1 items).mp hitems, read, hread, hsame, hsurvives⟩

end MessageHarvest
