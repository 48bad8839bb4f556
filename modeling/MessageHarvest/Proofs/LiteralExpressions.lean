import MessageHarvest.Proofs.BalancedTokens

/-! # Literal expressions

A literal expression is a literal, or a literal expression with the operator
and one more literal behind it. It grows at its end, while the tokens are read
from the front, two at a time. What joins the two is `literalValue?_append`:
at each operator, wherever it stands, the text is that of the tokens before it
and that of the tokens behind it, and there is none if one side has none. -/
namespace MessageHarvest

variable {operator : Text}

theorem Token.value?_eq_some_iff {t : Token} {v : Text} :
    t.value? = some v ↔ t.kind = .literal v := by
  cases hkind : t.kind <;> simp [Token.value?, hkind]

theorem Token.value?_of_isPunct {t : Token} {mark : Text} (h : t.isPunct mark = true) :
    t.value? = none := by
  simp only [Token.isPunct, Bool.and_eq_true, decide_eq_true_eq] at h
  rw [Token.value?, h.1]

/-- A literal, or a literal expression with the operator and a literal behind it. -/
inductive LiteralExpression (operator : Text) : List Token → Prop
  | literal {t : Token} {v : Text} (ht : t.kind = .literal v) : LiteralExpression operator [t]
  | extended {ts : List Token} {mark t : Token} {v : Text} (hts : LiteralExpression operator ts)
      (hmark : mark.isPunct operator = true) (ht : t.kind = .literal v) :
      LiteralExpression operator (ts ++ [mark, t])

/-- The texts of the literals among the tokens, one behind the other. -/
def literalText (ts : List Token) : Text := (ts.filterMap Token.value?).flatten

/-- A literal expression, and the text that its literals stand for together. -/
def Concatenation (operator : Text) (ts : List Token) (s : Text) : Prop :=
  LiteralExpression operator ts ∧ s = literalText ts

/-! ## Reading across an operator -/

theorem literalValue?_cons_cons (t mark : Token) (ts : List Token) :
    literalValue? operator (t :: mark :: ts) =
      if mark.isPunct operator then
        t.value?.bind fun v => (literalValue? operator ts).map (v ++ ·)
      else none := by
  rw [literalValue?]
  cases t.value? <;> cases mark.isPunct operator <;> cases literalValue? operator ts <;> rfl

/-- At an operator the text is that of the tokens before it and that of the tokens behind it. -/
theorem literalValue?_append {mark : Token} (hmark : mark.isPunct operator = true)
    (b : List Token) : ∀ a : List Token, literalValue? operator (a ++ mark :: b) =
      (literalValue? operator a).bind fun v => (literalValue? operator b).map (v ++ ·)
  | [] => by
    -- an operator is no literal, so nothing starts with one
    have hnone := Token.value?_of_isPunct hmark
    cases b with
    | nil => exact hnone
    | cons u us => simp [literalValue?_cons_cons, hnone, literalValue?]
  | [t] => by
    rw [List.singleton_append, literalValue?_cons_cons, if_pos hmark]
    rfl
  | t :: joint :: ts => by
    rw [List.cons_append, List.cons_append, literalValue?_cons_cons, literalValue?_cons_cons,
      literalValue?_append hmark b ts]
    split
    · cases t.value? <;> cases literalValue? operator ts <;> simp [Function.comp_def]
    · rfl

/-- What is read at an operator comes from both of its sides. -/
theorem literalValue?_append_eq_some_iff {a b : List Token} {mark : Token} {s : Text}
    (hmark : mark.isPunct operator = true) :
    literalValue? operator (a ++ mark :: b) = some s ↔
      ∃ v w, literalValue? operator a = some v ∧ literalValue? operator b = some w ∧ s = v ++ w := by
  rw [literalValue?_append hmark]
  constructor
  · intro h
    obtain ⟨v, hv, h⟩ := Option.bind_eq_some_iff.mp h
    obtain ⟨w, hw, rfl⟩ := Option.map_eq_some_iff.mp h
    exact ⟨v, w, hv, hw, rfl⟩
  · rintro ⟨v, w, hv, hw, rfl⟩
    rw [hv, hw]
    rfl

/-! ## The grammar -/

theorem LiteralExpression.literalValue?_eq {ts : List Token} (h : LiteralExpression operator ts) :
    literalValue? operator ts = some (literalText ts) := by
  induction h with
  | literal ht =>
    have hvalue := Token.value?_eq_some_iff.mpr ht
    simp [literalValue?, literalText, hvalue]
  | @extended ts mark t v _ hmark ht ih =>
    have hvalue := Token.value?_eq_some_iff.mpr ht
    refine (literalValue?_append_eq_some_iff hmark).mpr ⟨literalText ts, v, ih, hvalue, ?_⟩
    simp [literalText, Token.value?_of_isPunct hmark, hvalue]

/-- A literal and the operator may also stand in front of a literal expression. -/
theorem LiteralExpression.cons {t mark : Token} {v : Text} {ts : List Token}
    (ht : t.kind = .literal v) (hmark : mark.isPunct operator = true)
    (hts : LiteralExpression operator ts) : LiteralExpression operator (t :: mark :: ts) := by
  induction hts with
  | literal hu => exact .extended (.literal ht) hmark hu
  | extended _ hjoint hu ih => exact .extended ih hjoint hu

theorem literalExpression_of_literalValue? : ∀ {ts : List Token} {s : Text},
    literalValue? operator ts = some s → LiteralExpression operator ts
  | [], _, h => by cases h
  | [_], _, h => .literal (Token.value?_eq_some_iff.mp h)
  | t :: mark :: ts, s, h => by
    rw [literalValue?_cons_cons] at h
    split at h
    · rename_i hmark
      obtain ⟨v, hv, h⟩ := Option.bind_eq_some_iff.mp h
      obtain ⟨w, hw, _⟩ := Option.map_eq_some_iff.mp h
      exact (literalExpression_of_literalValue? hw).cons (Token.value?_eq_some_iff.mp hv) hmark
    · cases h

/-- The tokens have a text just if they are a literal expression, and it is that of their
literals. -/
theorem literalValue?_eq_some_iff {ts : List Token} {s : Text} :
    literalValue? operator ts = some s ↔ Concatenation operator ts s := by
  constructor
  · intro h
    have hts := literalExpression_of_literalValue? h
    exact ⟨hts, Option.some.inj (h.symm.trans hts.literalValue?_eq)⟩
  · rintro ⟨hts, rfl⟩
    exact hts.literalValue?_eq

theorem literalValue?_eq_none_iff {ts : List Token} :
    literalValue? operator ts = none ↔ ∀ s, ¬ Concatenation operator ts s := by
  rw [Option.eq_none_iff_forall_ne_some]
  exact forall_congr' fun s => not_congr literalValue?_eq_some_iff

/-! ## Positions -/

/-- Literals stand at the even positions, of which the last position is one, and operators at the
odd ones. -/
structure Alternates (operator : Text) (ts : List Token) : Prop where
  odd_length : ts.length % 2 = 1
  literals : ∀ i t, ts[2 * i]? = some t → ∃ v, t.kind = .literal v
  operators : ∀ i t, ts[2 * i + 1]? = some t → t.isPunct operator = true

theorem alternates_singleton {t : Token} :
    Alternates operator [t] ↔ ∃ v, t.kind = .literal v := by
  constructor
  · intro h
    exact h.literals 0 t rfl
  · intro h
    refine ⟨rfl, fun i u hu => ?_, fun i u hu => ?_⟩
    · cases i with
      | zero => exact Option.some.inj hu ▸ h
      | succ i => cases hu
    · cases hu

theorem alternates_cons_cons {t mark : Token} {ts : List Token} :
    Alternates operator (t :: mark :: ts) ↔
      (∃ v, t.kind = .literal v) ∧ mark.isPunct operator = true ∧ Alternates operator ts := by
  constructor
  · intro h
    refine ⟨h.literals 0 t rfl, h.operators 0 mark rfl, ?_, fun i => ?_, fun i => ?_⟩
    · simpa [Nat.add_assoc] using h.odd_length
    · exact h.literals (i + 1)
    · exact h.operators (i + 1)
  · rintro ⟨ht, hmark, hts⟩
    refine ⟨?_, fun i u hu => ?_, fun i u hu => ?_⟩
    · simpa [Nat.add_assoc] using hts.odd_length
    · cases i with
      | zero => exact Option.some.inj hu ▸ ht
      | succ i => exact hts.literals i u hu
    · cases i with
      | zero => exact Option.some.inj hu ▸ hmark
      | succ i => exact hts.operators i u hu

/-- There is a text just if literals and operators alternate. -/
theorem isSome_literalValue?_iff_alternates : ∀ ts : List Token,
    (literalValue? operator ts).isSome = true ↔ Alternates operator ts
  | [] => by
    refine ⟨fun h => ?_, fun h => ?_⟩
    · cases h
    · cases h.odd_length
  | [t] => by
    rw [alternates_singleton, literalValue?, Option.isSome_iff_exists]
    exact exists_congr fun v => Token.value?_eq_some_iff
  | t :: mark :: ts => by
    rw [alternates_cons_cons, ← isSome_literalValue?_iff_alternates ts, literalValue?_cons_cons]
    simp only [← Token.value?_eq_some_iff, ← Option.isSome_iff_exists]
    cases t.value? <;> cases mark.isPunct operator <;> simp

theorem literalExpression_iff_alternates {ts : List Token} :
    LiteralExpression operator ts ↔ Alternates operator ts := by
  rw [← isSome_literalValue?_iff_alternates, Option.isSome_iff_exists]
  simp [literalValue?_eq_some_iff, Concatenation]

/-! ## What is no literal expression -/

/-- Tokens that hold something with no place in a literal expression: a variable, which in a script
is a mere name, a string with expressions in it, a call of whatever it may be, or an operator
without a literal on one of its sides. -/
inductive Obstructed (operator : Text) : List Token → Prop
  | var {before after : List Token} {t : Token} (ht : t.kind = .var) :
      Obstructed operator (before ++ t :: after)
  | name {before after : List Token} {t : Token} (ht : t.kind = .name) :
      Obstructed operator (before ++ t :: after)
  | interpolated {before after : List Token} {t : Token} (ht : t.kind = .interpolated) :
      Obstructed operator (before ++ t :: after)
  | call {before args after : List Token} {callee left right : Token}
      (hleft : left.isPunct "(".toList = true) (hright : right.isPunct ")".toList = true) :
      Obstructed operator (before ++ callee :: left :: (args ++ right :: after))
  | leading {after : List Token} {mark : Token} (hmark : mark.isPunct operator = true) :
      Obstructed operator (mark :: after)
  | doubled {before after : List Token} {first second : Token}
      (hfirst : first.isPunct operator = true) (hsecond : second.isPunct operator = true) :
      Obstructed operator (before ++ first :: second :: after)
  | trailing {before : List Token} {mark : Token} (hmark : mark.isPunct operator = true) :
      Obstructed operator (before ++ [mark])

theorem LiteralExpression.forall_mem {ts : List Token} (h : LiteralExpression operator ts) :
    ∀ t ∈ ts, t.value? ≠ none ∨ t.isPunct operator = true := by
  have hpart : ∀ {t : Token} {v : Text}, t.kind = .literal v → t.value? ≠ none := by
    intro t v ht
    simp [Token.value?_eq_some_iff.mpr ht]
  induction h with
  | literal ht => exact List.forall_mem_singleton.mpr (.inl (hpart ht))
  | extended _ hmark ht ih =>
    refine List.forall_mem_append.mpr ⟨ih, ?_⟩
    exact List.forall_mem_cons.mpr ⟨.inr hmark, List.forall_mem_singleton.mpr (.inl (hpart ht))⟩

/-- With a token that is neither a literal nor the operator there is no text. -/
theorem literalValue?_eq_none_of_mem {ts : List Token} {t : Token} (hmem : t ∈ ts)
    (hvalue : t.value? = none) (hmark : t.isPunct operator = false) :
    literalValue? operator ts = none := by
  rw [Option.eq_none_iff_forall_ne_some]
  intro s h
  rcases (literalValue?_eq_some_iff.mp h).1.forall_mem t hmem with ht | ht
  · exact ht hvalue
  · rw [hmark] at ht
    cases ht

theorem literalValue?_leading {mark : Token} (hmark : mark.isPunct operator = true)
    (after : List Token) : literalValue? operator (mark :: after) = none :=
  literalValue?_append hmark after []

theorem Obstructed.literalValue?_eq_none {ts : List Token} (h : Obstructed operator ts) :
    literalValue? operator ts = none := by
  cases h with
  | var ht | name ht | interpolated ht =>
    refine literalValue?_eq_none_of_mem List.mem_append_cons_self ?_ ?_
    · rw [Token.value?, ht]
    · simp [Token.isPunct, ht]
  | @call before args after callee left right hleft hright =>
    -- the operator cannot be both brackets
    by_cases hoperator : operator = "(".toList
    · refine literalValue?_eq_none_of_mem (t := right) (by simp)
        (Token.value?_of_isPunct hright) (Token.isPunct_of_ne hright ?_)
      rw [hoperator]
      decide
    · exact literalValue?_eq_none_of_mem (t := left) (by simp)
        (Token.value?_of_isPunct hleft) (Token.isPunct_of_ne hleft (Ne.symm hoperator))
  | leading hmark => exact literalValue?_leading hmark _
  | doubled hfirst hsecond => simp [literalValue?_append hfirst, literalValue?_leading hsecond]
  | trailing hmark => simp [literalValue?_append hmark, literalValue?]

/-- **Literal expressions are read exactly.** Tokens have a text just if they are a literal
expression, and it consists of the texts of their literals in order; literal expressions are the
tokens in which literals and operators alternate, with a literal at both ends. Hence two lists with
the operator between them have a text just if each has one, and it is the two together; and nothing
that holds a variable, a call, a string with expressions in it, or an operator that is doubled or
stands at an end has one. -/
theorem literal_expressions_read_exactly (operator : Text) :
    (∀ ts s, literalValue? operator ts = some s ↔
      LiteralExpression operator ts ∧ s = literalText ts) ∧
    (∀ ts, LiteralExpression operator ts ↔ Alternates operator ts) ∧
    (∀ a b mark s, mark.isPunct operator = true →
      (literalValue? operator (a ++ mark :: b) = some s ↔
        ∃ v w, literalValue? operator a = some v ∧ literalValue? operator b = some w ∧
          s = v ++ w)) ∧
    (∀ ts, Obstructed operator ts → literalValue? operator ts = none) :=
  ⟨fun _ _ => literalValue?_eq_some_iff,
    fun _ => literalExpression_iff_alternates,
    fun _ _ _ _ hmark => literalValue?_append_eq_some_iff hmark,
    fun _ h => h.literalValue?_eq_none⟩

/-- An empty literal is one like any other. A text that is called is no literal expression, not even
where its opening bracket is taken for the operator. -/
theorem literal_expressions_read_exactly_bracket :
    let literal : Text → Token := fun v => ⟨.literal v, v, 1, none⟩
    let mark : Text → Token := fun text => ⟨.punct, text, 1, none⟩
    let joined : List Token :=
      [literal "a".toList, mark ".".toList, literal [], mark ".".toList, literal "b".toList]
    let called : List Token :=
      [literal "f".toList, mark "(".toList, literal "a".toList, mark ")".toList, literal "b".toList]
    (LiteralExpression ".".toList joined ∧ Alternates ".".toList joined ∧
      literalText joined = "ab".toList) ∧
    ((mark ".".toList).isPunct ".".toList = true ∧
      literalValue? ".".toList (joined ++ mark ".".toList :: joined) = some "abab".toList) ∧
    Obstructed "(".toList called ∧ literalValue? "(".toList called = none := by
  intro literal mark joined called
  obtain ⟨hread, halternates, happend, _⟩ := literal_expressions_read_exactly ".".toList
  have hjoined : literalValue? ".".toList joined = some "ab".toList := by decide
  have hmark : (mark ".".toList).isPunct ".".toList = true := by decide
  obtain ⟨hexpression, htext⟩ := (hread joined _).mp hjoined
  refine ⟨⟨hexpression, (halternates joined).mp hexpression, htext.symm⟩, ⟨hmark, ?_⟩, ?_⟩
  · exact (happend joined joined _ _ hmark).mpr ⟨_, _, hjoined, hjoined, by decide⟩
  · have hcalled : Obstructed "(".toList called :=
      @Obstructed.call _ [] [literal "a".toList] [literal "b".toList] (literal "f".toList)
        (mark "(".toList) (mark ")".toList) (by decide) (by decide)
    exact ⟨hcalled, (literal_expressions_read_exactly "(".toList).2.2.2 called hcalled⟩

end MessageHarvest
