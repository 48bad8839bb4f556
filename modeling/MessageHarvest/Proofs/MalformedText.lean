import MessageHarvest.Proofs.CheckedScanning

/-! # Strings and comments that are not closed

What a scan breaks off at is told here without the readers: a quote with no
closing one behind it, a comment without an end, and a closed string in which
an escape writes a number that is too large. Between quotes a backslash takes
the next character along (`Escaped`), so a quote behind one closes nothing. For
each reader there is a lemma that what it does not find is not there. -/
namespace MessageHarvest.Text

/-! ## Words that are looked for -/

/-- A word that is not found stands nowhere. -/
theorem not_infix_of_position?_eq_none {word s : Text} (h : position? word s = none) :
    ¬ word <:+: s := by
  induction s with
  | nil =>
    intro hin
    rw [List.infix_nil.mp hin] at h
    cases h
  | cons c s ih =>
    rw [position?_cons] at h
    split at h
    · cases h
    · rename_i hp
      intro hin
      rcases List.infix_cons_iff.mp hin with hstart | hlater
      · exact hp (List.isPrefixOf_iff_prefix.mpr hstart)
      · exact ih (Option.map_eq_none_iff.mp h) hlater

/-- Before the first place of a word it does not stand. -/
theorem not_infix_take_of_position? {word s : Text} {n : Nat} (hne : word ≠ [])
    (h : position? word s = some n) : ¬ word <:+: s.take n := by
  induction s generalizing n with
  | nil => simpa using hne
  | cons c s ih =>
    rw [position?_cons] at h
    split at h
    · obtain rfl := Option.some.inj h
      simpa using hne
    · rename_i hp
      obtain ⟨m, hm, rfl⟩ := Option.map_eq_some_iff.mp h
      intro hin
      rw [List.take_succ_cons] at hin
      rcases List.infix_cons_iff.mp hin with hstart | hlater
      · have hwhole : c :: s.take m <+: c :: s := List.take_prefix (m + 1) (c :: s)
        exact hp (List.isPrefixOf_iff_prefix.mpr (hstart.trans hwhole))
      · exact ih hm hlater

/-- No end of the word starts it again, so two places of the word never overlap. -/
def isUnbordered (word : Text) : Bool :=
  (List.range word.length).all fun n => n == 0 || !(word.drop n).isPrefixOf word

/-- A word that does not overlap itself starts nowhere before a place of it, if it does not stand in
the text up to there. -/
theorem not_prefix_append_word {word x : Text} (hword : isUnbordered word = true)
    (hx : ¬ word <:+: x) (hne : x ≠ []) (rest : Text) : ¬ word <+: x ++ (word ++ rest) := by
  intro hp
  by_cases hlen : word.length ≤ x.length
  · exact hx (List.prefix_of_prefix_length_le hp (List.prefix_append x _) hlen).isInfix
  · -- the word would start in `x` and end in the place behind it
    obtain ⟨border, hborder⟩ : x <+: word :=
      List.prefix_of_prefix_length_le (List.prefix_append x _) hp (by omega)
    have hlength : word.length = x.length + border.length := by
      rw [← hborder, List.length_append]
    have hstarts : border <+: word ++ rest := by
      rw [← hborder] at hp
      have hstart := (List.prefix_append_right_inj x).mp hp
      rwa [hborder] at hstart
    have hends : word.drop x.length = border := by
      rw [← hborder, List.drop_left]
    have hpos := List.length_pos_iff.mpr hne
    have hapart := List.all_eq_true.mp hword x.length (List.mem_range.mpr (by omega))
    rw [hends] at hapart
    have hnot : border.isPrefixOf word = false := by
      simpa [Nat.ne_of_gt hpos] using hapart
    have hagain : border <+: word :=
      List.prefix_of_prefix_length_le hstarts (List.prefix_append word rest) (by omega)
    exact Bool.eq_false_iff.mp hnot (List.isPrefixOf_iff_prefix.mpr hagain)

/-- A word that does not overlap itself is found right behind a text in which it does not stand. -/
theorem position?_append_word {word x : Text} (hword : isUnbordered word = true)
    (hx : ¬ word <:+: x) (rest : Text) :
    position? word (x ++ (word ++ rest)) = some x.length := by
  induction x with
  | nil =>
    cases word with
    | nil => cases rest <;> rfl
    | cons w ws =>
      have hhere : (w :: ws).isPrefixOf (w :: ws ++ rest) = true :=
        List.isPrefixOf_iff_prefix.mpr (List.prefix_append _ _)
      rw [List.nil_append, List.cons_append, position?_cons, ← List.cons_append, if_pos hhere]
      rfl
  | cons c x ih =>
    have hlater : ¬ word <:+: x := fun h => hx (List.infix_cons h)
    have hhere : ¬ word.isPrefixOf (c :: x ++ (word ++ rest)) = true := fun h =>
      not_prefix_append_word hword hx (List.cons_ne_nil c x) rest (List.isPrefixOf_iff_prefix.mp h)
    rw [List.cons_append] at hhere ⊢
    rw [position?_cons, if_neg hhere, ih hlater]
    rfl

/-- A comment that is not closed has no end. -/
theorem not_infix_of_closingComment?_eq_none {s : Text} (h : closingComment? s = none) :
    ¬ "*/".toList <:+: s :=
  not_infix_of_position?_eq_none (Option.map_eq_none_iff.mp h)

/-! ## Text between quotes -/

/-- A backslash takes the next character along, and all other characters are plain. -/
inductive Escaped (plain : Char → Prop) : Text → Prop
  | nil : Escaped plain []
  | char {c : Char} {s : Text} (hc : c ≠ '\\') (hplain : plain c) (hs : Escaped plain s) :
      Escaped plain (c :: s)
  | pair (c : Char) {s : Text} (hs : Escaped plain s) : Escaped plain ('\\' :: c :: s)

/-- The character does not end a string in these quotes. -/
def InQuotes (quote : Char) (oneLine : Bool) (c : Char) : Prop :=
  c ≠ quote ∧ (oneLine = true → c ≠ '\n')

/-- A string that starts before the text is closed in it. -/
def Closes (quote : Char) (oneLine : Bool) (s : Text) : Prop :=
  ∃ body rest, s = body ++ quote :: rest ∧ Escaped (InQuotes quote oneLine) body

theorem Escaped.append {plain : Char → Prop} {s t : Text} (hs : Escaped plain s)
    (ht : Escaped plain t) : Escaped plain (s ++ t) := by
  induction hs with
  | nil => exact ht
  | char hc hplain _ ih => exact .char hc hplain ih
  | pair c _ ih => exact .pair c ih

theorem Escaped.of_forall {plain : Char → Prop} {s : Text}
    (h : ∀ c ∈ s, c ≠ '\\' ∧ plain c) : Escaped plain s := by
  induction s with
  | nil => exact .nil
  | cons c s ih =>
    obtain ⟨⟨hc, hplain⟩, hs⟩ := List.forall_mem_cons.mp h
    exact .char hc hplain (ih hs)

theorem Escaped.of_not_mem {s : Text} (h : '\\' ∉ s) : Escaped (fun _ => True) s :=
  .of_forall fun _ hc => ⟨fun heq => h (heq ▸ hc), trivial⟩

theorem closingQuote?_eq_some {quote : Char} {oneLine : Bool} {s : Text} {n : Nat}
    (h : closingQuote? quote oneLine s = some n) :
    ∃ body rest, s = body ++ quote :: rest ∧ Escaped (InQuotes quote oneLine) body ∧
      n = body.length + 1 := by
  fun_induction closingQuote? quote oneLine s generalizing n with
  | case1 => cases h
  | case2 c cs ih =>
    obtain ⟨m, hm, rfl⟩ := Option.map_eq_some_iff.mp h
    obtain ⟨body, rest, rfl, hbody, rfl⟩ := ih hm
    exact ⟨'\\' :: c :: body, rest, rfl, .pair c hbody, rfl⟩
  | case3 cs =>
    obtain rfl := Option.some.inj h
    exact ⟨[], cs, rfl, .nil, rfl⟩
  | case4 => cases h
  | case5 c cs _ hne hc ih =>
    simp only [Bool.or_eq_true, Bool.and_eq_true, decide_eq_true_eq, not_or, not_and] at hc
    obtain ⟨m, hm, rfl⟩ := Option.map_eq_some_iff.mp h
    obtain ⟨body, rest, rfl, hbody, rfl⟩ := ih hm
    exact ⟨c :: body, rest, rfl, .char hc.1 ⟨hne, hc.2⟩ hbody, rfl⟩

theorem closingQuote?_of_escaped {quote : Char} {oneLine : Bool} {body : Text}
    (hq : quote ≠ '\\') (h : Escaped (InQuotes quote oneLine) body) (rest : Text) :
    closingQuote? quote oneLine (body ++ quote :: rest) = some (body.length + 1) := by
  induction h with
  | nil => rw [List.nil_append, closingQuote?_cons oneLine rest hq, if_pos rfl]; rfl
  | @char c s hc hplain _ ih =>
    have hfeed : ¬ (oneLine && c = '\n') = true := by
      simp only [Bool.and_eq_true, decide_eq_true_eq, not_and]
      exact hplain.2
    rw [List.cons_append, closingQuote?_cons oneLine _ hc, if_neg hplain.1, if_neg hfeed, ih]
    rfl
  | pair c _ ih =>
    rw [List.cons_append, List.cons_append, closingQuote?, ih]
    rfl

theorem not_closes_of_closingQuote?_eq_none {quote : Char} {oneLine : Bool} {s : Text}
    (hq : quote ≠ '\\') (h : closingQuote? quote oneLine s = none) : ¬ Closes quote oneLine s := by
  rintro ⟨body, rest, rfl, hbody⟩
  rw [closingQuote?_of_escaped hq hbody rest] at h
  cases h

/-! ## Escapes that are too large -/

/-- An escape of the text writes a number in braces that is beyond the last code point. -/
def HasLargeEscape (s : Text) : Prop :=
  ∃ before digits after, s = before ++ '\\' :: 'u' :: '{' :: (digits ++ '}' :: after) ∧
    Escaped (fun _ => True) before ∧ (∀ c ∈ digits, isHexDigit c = true) ∧
    maxCodePoint < hexValue digits

theorem HasLargeEscape.prepend {s front : Text} (h : HasLargeEscape s)
    (hfront : Escaped (fun _ => True) front) : HasLargeEscape (front ++ s) := by
  obtain ⟨before, digits, after, rfl, hbefore, hdigits, hlarge⟩ := h
  exact ⟨front ++ before, digits, after, by rw [List.append_assoc], hfront.append hbefore, hdigits,
    hlarge⟩

/-- A backslash that starts no escape takes along a character that is no backslash. -/
theorem HasLargeEscape.cons_backslash {s : Text} (h : HasLargeEscape s)
    (hhead : s.head? ≠ some '\\') : HasLargeEscape ('\\' :: s) := by
  obtain ⟨before, digits, after, rfl, hbefore, hdigits, hlarge⟩ := h
  cases hbefore with
  | nil => exact absurd rfl hhead
  | @char c before _ _ hbefore => exact ⟨_, digits, after, rfl, .pair c hbefore, hdigits, hlarge⟩
  | pair c _ => exact absurd rfl hhead

theorem braced?_eq_some {s : Text} {e : Nat × Nat} (h : braced? s = some e) :
    ∃ digits after, s = '{' :: (digits ++ '}' :: after) ∧ (∀ c ∈ digits, isHexDigit c = true) ∧
      e = (hexValue digits, digits.length + 2) := by
  unfold braced? at h
  split at h
  · rename_i cs
    dsimp only at h
    split at h
    · rename_i hclosed
      obtain rfl := Option.some.inj h
      obtain ⟨after, hafter⟩ := List.head?_eq_some_iff.mp
        (of_decide_eq_true (Bool.and_eq_true_iff.mp hclosed).2)
      refine ⟨cs.takeWhile isHexDigit, after, ?_, fun c hc => List.mem_takeWhile_imp hc, rfl⟩
      rw [← hafter, drop_length_takeWhile, List.takeWhile_append_dropWhile]
    · cases h
  · cases h

theorem not_mem_of_hexDigits {s : Text} (h : ∀ c ∈ s, isHexDigit c = true) : '\\' ∉ s :=
  fun hmem => absurd (h _ hmem) (by decide)

theorem not_mem_take_braced? {s : Text} {e : Nat × Nat} (h : braced? s = some e) :
    '\\' ∉ s.take e.2 := by
  obtain ⟨digits, after, rfl, hdigits, rfl⟩ := braced?_eq_some h
  have htake : ('{' :: (digits ++ '}' :: after)).take (digits.length + 2) =
      '{' :: (digits ++ ['}']) := by
    rw [List.take_succ_cons, List.take_length_add_append]
    rfl
  rw [htake]
  simp [not_mem_of_hexDigits hdigits]

theorem not_mem_take_fixedHex? {width n : Nat} {s : Text} (h : fixedHex? width s = some n) :
    '\\' ∉ s.take width := by
  rw [fixedHex?] at h
  split at h
  · rename_i hdigits
    exact not_mem_of_hexDigits (List.all_eq_true.mp (Bool.and_eq_true_iff.mp hdigits).2)
  · cases h

/-- The number in braces found is written by an escape right here. -/
theorem HasLargeEscape.of_bracedNumber? {cs : Text} {n : Nat} (h : bracedNumber? cs = some n)
    (hlarge : maxCodePoint < n) : HasLargeEscape ('\\' :: cs) := by
  unfold bracedNumber? at h
  split at h
  · obtain ⟨e, he, rfl⟩ := Option.map_eq_some_iff.mp h
    obtain ⟨digits, after, rfl, hdigits, rfl⟩ := braced?_eq_some he
    exact ⟨[], digits, after, rfl, .nil, hdigits, hlarge⟩
  · cases h

/-- What the escapes of a language take along: one character whatever it is, and then no
backslash. Only before a character that is no backslash there may be no escape. -/
structure TakesAlong (escape? : Text → Option (List Nat × Nat)) : Prop where
  found : ∀ cs e, escape? cs = some e → ∃ c tail, cs.take e.2 = c :: tail ∧ '\\' ∉ tail
  absent : ∀ cs, escape? cs = none → cs.head? ≠ some '\\'

theorem TakesAlong.hasLargeEscape {escape? : Text → Option (List Nat × Nat)}
    (takes : TakesAlong escape?) {s : Text} (h : bracesTooLarge escape? s = true) :
    HasLargeEscape s := by
  fun_induction bracesTooLarge escape? s with
  | case1 => cases h
  | case2 c cs e he ih =>
    rw [escapeAt?] at he
    split at he
    · rename_i hc
      subst hc
      rcases Bool.or_eq_true_iff.mp h with hhere | hlater
      · obtain ⟨n, hn, hlarge⟩ := (Option.any_eq_true _ _).mp hhere
        exact .of_bracedNumber? hn (of_decide_eq_true hlarge)
      · obtain ⟨d, tail, htake, htail⟩ := takes.found cs e he
        have hfront : Escaped (fun _ => True) ('\\' :: cs.take e.2) := by
          rw [htake]
          exact .pair d (.of_not_mem htail)
        have hlarge := (ih hlater).prepend hfront
        rwa [List.cons_append, List.take_append_drop] at hlarge
    · cases he
  | case3 c cs he ih =>
    rw [escapeAt?] at he
    split at he
    · rename_i hc
      subst hc
      exact (ih h).cons_backslash (takes.absent cs he)
    · rename_i hc
      exact (ih h).prepend (.char hc trivial .nil)

/-- A text with a code that is too large has an escape that writes it. -/
theorem TakesAlong.hasLargeEscape_of_codes {escape? : Text → Option (List Nat × Nat)}
    {codes : Text → List Nat} (takes : TakesAlong escape?) (numbered : Numbered escape? codes)
    {s : Text} (h : (tooLarge? (codes s)).isSome = true) : HasLargeEscape s := by
  rw [isSome_tooLarge?, ← numbered.bracesTooLarge_eq] at h
  exact takes.hasLargeEscape h

/-! ## Where a scan breaks off -/

/-- How a language uses quotes: whether a string in them ends with its line, and whether escapes
by number are read in it. -/
structure Quotes where
  oneLine : Char → Bool
  numbered : Char → Bool

/-- The text starts with a string that is not closed, with a comment that is not closed, or with a
closed string that has an escape beyond the last code point. -/
inductive Malformed (quotes : Quotes) : Fault → Text → Prop
  | string (quote : Char) {s : Text} (hquote : quote = '\'' ∨ quote = '"' ∨ quote = '\x60')
      (hopen : ¬ Closes quote (quotes.oneLine quote) s) :
      Malformed quotes .unterminated (quote :: s)
  | comment {s : Text} (hopen : ¬ "*/".toList <:+: s) :
      Malformed quotes .unterminated ('/' :: '*' :: s)
  | escape (quote : Char) {body : Text} (rest : Text)
      (hquote : quote = '\'' ∨ quote = '"' ∨ quote = '\x60')
      (hnumbered : quotes.numbered quote = true)
      (hbody : Escaped (InQuotes quote (quotes.oneLine quote)) body)
      (hlarge : HasLargeEscape body) :
      Malformed quotes .badEscape (quote :: body ++ quote :: rest)

/-- The text between the quotes of a string that is closed. -/
theorem inner_closed (quote : Char) (body rest : Text) :
    inner (quote :: (body ++ quote :: rest).take (body.length + 1)) = body := by
  have htake : (body ++ quote :: rest).take (body.length + 1) = body ++ [quote] := by
    rw [List.take_length_add_append]
    rfl
  rw [htake, inner, List.drop_succ_cons, List.drop_zero, List.dropLast_concat]

end MessageHarvest.Text
