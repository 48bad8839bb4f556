import MessageHarvest.Proofs.EarlierStrings

/-! # Scans of code in parts

A source that is cut at the end of a line may be scanned in two parts. All that
the second part has to know is the state in which the first one ends: for PHP
whether that is inside code, for a script whether an expression may start
there. The state of a script is told by its last token alone, past any number
of comments behind it (`foldl_mayStartAfter`), so the items of the first part
already say how the second is to be read. -/
namespace MessageHarvest

namespace Php

/-- **PHP goes apart at the ends of lines.** Whole lines whose scan gives no notice are scanned on
their own. What follows them is scanned as if it stood alone, from its own line on, inside code if
the lines end there and else outside, and all notices are about it. -/
theorem scan_splits_at_lines (inCode : Bool) (line : Int) {p : Text} (hp : p.WholeLines)
    (hquiet : (scan inCode line p).notices .code = []) (q : Text) :
    (scan inCode line (p ++ q)).items = (scan inCode line p).items ++
        (scan (endsInCode inCode p) (line + Text.lineFeeds p) q).items ∧
      (scan inCode line (p ++ q)).notices .code =
        (scan (endsInCode inCode p) (line + Text.lineFeeds p) q).notices .code := by
  have hscan := scan_append hp (Scan.broken_of_notices hquiet) q
  rw [hscan]
  exact ⟨rfl, rfl⟩

/-- Lines with a heredoc that holds a tag and a quote, and a close tag that takes its line feed
along; then inline text, and behind the lines code with a string that is left open. -/
theorem scan_splits_at_lines_outside :
    let p : Text := "<p><?php $a = <<<X\n ?>'\n X;\n?>\nb\n".toList
    let q : Text := "c <?= $d . 'e".toList
    p.WholeLines ∧ (scan false 3 p).notices .code = [] ∧ endsInCode false p = false ∧
      (scan false 3 (p ++ q)).items = (scan false 3 p).items ++ (scan false 8 q).items ∧
      (scan false 3 (p ++ q)).notices .code = [.brokenOff .code .unterminated 8] := by
  intro p q
  have hp : p.WholeLines := by decide +kernel
  have hquiet : (scan false 3 p).notices .code = [] := by decide +kernel
  have hends : endsInCode false p = false := by decide +kernel
  have hline : (3 : Int) + Text.lineFeeds p = 8 := by decide +kernel
  obtain ⟨hitems, hnotices⟩ := scan_splits_at_lines false 3 hp hquiet q
  rw [hends, hline] at hitems hnotices
  exact ⟨hp, hquiet, hends, hitems, hnotices.trans (by decide +kernel)⟩

end Php

/-! ## The last token of a script -/

namespace Item

/-- The token, if the item is one. -/
def token? : Item → Option Token
  | token t => some t
  | comment _ => none

/-- The last token, past the comments behind it. -/
def lastToken? (items : List Item) : Option Token := (items.filterMap token?).getLast?

theorem lastToken?_append (first second : List Item) :
    lastToken? (first ++ second) = (lastToken? second).or (lastToken? first) := by
  rw [lastToken?, List.filterMap_append, List.getLast?_append]
  rfl

end Item

namespace Script

/-- Behind the token a slash starts a regular expression: it is a mark that closes no bracket, or a
word that an expression follows. -/
def AdmitsPattern (t : Token) : Prop :=
  (t.kind = .punct ∧ t.text ∉ [[')'], [']'], ['}']]) ∨ (t.kind = .name ∧ t.text ∈ operatorWords)

theorem mayStartAfter_token (t : Token) (mayStart : Bool) :
    mayStartAfter ⟨.token t.kind, t.text⟩ mayStart = true ↔ AdmitsPattern t := by
  obtain ⟨kind, text, line, comment⟩ := t
  cases kind <;> simp [mayStartAfter, AdmitsPattern]

/-- Of all lexemes only a token changes whether an expression may start. -/
theorem mayStartAfter_cases (l : Lexeme) (line : Int) :
    (∃ t, l.item? line = some (.token t) ∧ l = ⟨.token t.kind, t.text⟩) ∨
      (Item.lastToken? (l.item? line).toList = none ∧
        ∀ mayStart, mayStartAfter l mayStart = mayStart) := by
  obtain ⟨shape, text⟩ := l
  cases shape with
  | token kind => exact .inl ⟨_, rfl, rfl⟩
  | markup => exact .inr ⟨rfl, fun _ => rfl⟩
  | close => exact .inr ⟨rfl, fun _ => rfl⟩
  | space => exact .inr ⟨rfl, fun _ => rfl⟩
  | comment => exact .inr ⟨rfl, fun _ => rfl⟩
  | broken fault => exact .inr ⟨rfl, fun _ => rfl⟩

/-- Whether an expression may start behind lexemes is told by their last token, or else by the
state before them. -/
theorem foldl_mayStartAfter {ls : List Lexeme} {line : Int}
    (hb : (Scan.ofLexemes line ls).broken = none) (mayStart : Bool) :
    ls.foldl (fun mayStart l => mayStartAfter l mayStart) mayStart = true ↔
      match Item.lastToken? (Scan.ofLexemes line ls).items with
      | some t => AdmitsPattern t
      | none => mayStart = true := by
  induction ls generalizing line mayStart with
  | nil => rfl
  | cons l ls ih =>
    have hl : ∀ fault, l.shape ≠ .broken fault := by
      intro fault hfault
      simp [Scan.ofLexemes, hfault] at hb
    rw [Scan.ofLexemes_cons hl] at hb ⊢
    rw [List.foldl_cons, ih hb]
    show _ ↔ match Item.lastToken? ((l.item? line).toList ++ _) with
      | some t => AdmitsPattern t
      | none => mayStart = true
    rw [Item.lastToken?_append]
    cases Item.lastToken? (Scan.ofLexemes (line + Text.lineFeeds l.text) ls).items with
    | some t => rfl
    | none =>
      rcases mayStartAfter_cases l line with ⟨t, hitem, hl⟩ | ⟨hitem, hsame⟩
      · rw [hitem, hl]
        exact mayStartAfter_token t mayStart
      · rw [hitem, hsame]
        rfl

/-- An expression may start behind a script, unless its last token does not admit one. -/
theorem startsBehind_eq_true_iff {line : Int} {p : Text} (hb : (scan line p).broken = none) :
    startsBehind p = true ↔
      ∀ t, Item.lastToken? (scan line p).items = some t → AdmitsPattern t := by
  have hfold := foldl_mayStartAfter hb true
  rw [startsBehind, hfold]
  show (match Item.lastToken? (scan line p).items with
    | some t => AdmitsPattern t
    | none => true = true) ↔ _
  cases Item.lastToken? (scan line p).items with
  | none => simp
  | some t => simp

/-- **A script goes apart at the ends of lines.** The items of whole lines whose scan gives no
notice are the first items of every longer script. If the lines have no token, or the last one
admits a regular expression behind it, then what follows them is scanned as if it stood alone, from
its own line on, and all notices are about it. -/
theorem script_scan_splits_at_lines (line : Int) {p : Text} (hp : p.WholeLines)
    (hquiet : (scan line p).notices .script = []) (q : Text) :
    (scan line p).items <+: (scan line (p ++ q)).items ∧
      ((∀ t, Item.lastToken? (scan line p).items = some t → AdmitsPattern t) →
        (scan line (p ++ q)).items =
            (scan line p).items ++ (scan (line + Text.lineFeeds p) q).items ∧
          (scan line (p ++ q)).notices .script =
            (scan (line + Text.lineFeeds p) q).notices .script) := by
  have hb := Scan.broken_of_notices hquiet
  have hscan := scan_append hp hb q
  refine ⟨?_, fun hlast => ?_⟩
  · rw [hscan]
    exact List.prefix_append _ _
  · rw [(startsBehind_eq_true_iff hb).mpr hlast] at hscan
    rw [hscan]
    exact ⟨rfl, rfl⟩

/-- Lines with a regular expression that holds a quote, a template over two lines and a comment
behind the last mark; then a regular expression, and a string that is left open. -/
theorem script_scan_splits_at_lines_pattern :
    let p : Text := "x = /['\\/]/ + \x60\n\x60;\n// y)\n".toList
    let q : Text := "/'/.test('z".toList
    p.WholeLines ∧ (scan 3 p).notices .script = [] ∧
      Item.lastToken? (scan 3 p).items = some ⟨.punct, ";".toList, 4, none⟩ ∧
      (scan 3 p).items <+: (scan 3 (p ++ q)).items ∧
      (scan 3 (p ++ q)).items = (scan 3 p).items ++ (scan 6 q).items ∧
      (scan 3 (p ++ q)).notices .script = [.brokenOff .script .unterminated 6] := by
  intro p q
  have hp : p.WholeLines := by decide +kernel
  have hquiet : (scan 3 p).notices .script = [] := by decide +kernel
  have hlast : Item.lastToken? (scan 3 p).items = some ⟨.punct, ";".toList, 4, none⟩ := by
    decide +kernel
  have hline : (3 : Int) + Text.lineFeeds p = 6 := by decide +kernel
  obtain ⟨hfirst, happart⟩ := script_scan_splits_at_lines 3 hp hquiet q
  have hadmits : ∀ t, Item.lastToken? (scan 3 p).items = some t → AdmitsPattern t := by
    intro t ht
    rw [hlast] at ht
    obtain rfl := Option.some.inj ht
    exact .inl ⟨rfl, by decide⟩
  obtain ⟨hitems, hnotices⟩ := happart hadmits
  rw [hline] at hitems hnotices
  exact ⟨hp, hquiet, hlast, hfirst, hitems, hnotices.trans (by decide +kernel)⟩

end Script

end MessageHarvest
