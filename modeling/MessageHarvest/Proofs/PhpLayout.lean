import MessageHarvest.Proofs.MalformedText
import MessageHarvest.Proofs.ScanLayout

/-! # PHP source is covered by its items and their gaps

Between two items there is white space, and there may be inline text that a
close tag starts and an open tag ends. `Gap` says so as a grammar that goes
into and out of code, apart from the lexer. What the lexer passes over extends
such a gap (`front_silent`), and where it breaks off the source is `Malformed`.
A heredoc is told by its parts, so that one which is not found is not there
(`not_beginsHeredoc`). -/
namespace MessageHarvest.Php

open Text (WholeLines)

/-! ## Gaps -/

/-- The tag that starts code, where the case of letters does not matter. -/
def OpenTag (tag : Text) : Prop :=
  tag = "<?".toList ∨ tag = "<?=".toList ∨ Text.asciiLower tag = "<?php".toList

/-- The tag that ends code takes one line feed along. -/
def CloseTag (tag : Text) : Prop := tag = "?>".toList ∨ tag = "?>\n".toList

/-- Text without any item, from inside or outside code to inside or outside code. -/
inductive Gap : Bool → Text → Bool → Prop
  | nil (inCode : Bool) : Gap inCode [] inCode
  | space {c : Char} {s : Text} {ends : Bool} (hc : Text.isSpace c = true)
      (hs : Gap true s ends) : Gap true (c :: s) ends
  | closed {tag s : Text} {ends : Bool} (htag : CloseTag tag) (hs : Gap false s ends) :
      Gap true (tag ++ s) ends
  | opened {text tag s : Text} {ends : Bool} (htext : ¬ "<?".toList <:+: text)
      (htag : OpenTag tag) (hs : Gap true s ends) : Gap false (text ++ tag ++ s) ends

/-- Text without any item up to the end of the source. Where it ends outside code, no open tag
comes anymore. -/
def Trailing (inCode : Bool) (s : Text) : Prop :=
  Gap inCode s true ∨
    ∃ gap text, s = gap ++ text ∧ Gap inCode gap false ∧ ¬ "<?".toList <:+: text

theorem Gap.spaces {w s : Text} {ends : Bool} (hw : ∀ c ∈ w, Text.isSpace c = true)
    (hs : Gap true s ends) : Gap true (w ++ s) ends := by
  induction w with
  | nil => exact hs
  | cons c w ih =>
    obtain ⟨hc, hw⟩ := List.forall_mem_cons.mp hw
    exact .space hc (ih hw)

theorem trailing_nil (inCode : Bool) : Trailing inCode [] := by
  cases inCode with
  | true => exact .inl (.nil true)
  | false => exact .inr ⟨[], [], rfl, .nil false, by decide⟩

theorem Trailing.prepend {inCode inCode' : Bool} {front s : Text} (h : Trailing inCode' s)
    (hfront : ∀ u ends, Gap inCode' u ends → Gap inCode (front ++ u) ends) :
    Trailing inCode (front ++ s) := by
  rcases h with h | ⟨gap, text, rfl, hgap, htext⟩
  · exact .inl (hfront _ _ h)
  · exact .inr ⟨front ++ gap, text, (List.append_assoc _ _ _).symm, hfront _ _ hgap, htext⟩

/-! ## Heredocs -/

/-- A quote or nothing. -/
def OptionalQuote (s : Text) : Prop := s = [] ∨ s = ['"'] ∨ s = ['\'']

/-- The name that ends a heredoc. -/
def IsLabel (label : Text) : Prop :=
  ∃ c cs, label = c :: cs ∧ Text.isNameStart c = true ∧ ∀ d ∈ cs, Text.isWord d = true

/-- What follows `<<<` is a complete heredoc: a label, which may be quoted, alone on the rest of
its line, and later the label again at the start of a line, where only blanks stand before it. -/
inductive BeginsHeredoc : Text → Prop
  | parts {blanks quote label quote' feed body indent rest : Text}
      (hblanks : ∀ c ∈ blanks, Text.isBlank c = true) (hquote : OptionalQuote quote)
      (hlabel : IsLabel label) (hquote' : OptionalQuote quote')
      (hfeed : feed = ['\n'] ∨ feed = ['\r', '\n']) (hbody : body.WholeLines)
      (hindent : ∀ c ∈ indent, Text.isBlank c = true) (hrest : Text.endsWord rest = true) :
      BeginsHeredoc (blanks ++ (quote ++ (label ++ (quote' ++ (feed ++ (body ++
        (indent ++ (label ++ rest))))))))

theorem isBlank_of_isNameStart {c : Char} (h : Text.isNameStart c = true) :
    Text.isBlank c = false := by
  cases hblank : Text.isBlank c with
  | false => rfl
  | true =>
    simp only [Text.isBlank, Bool.or_eq_true, beq_iff_eq] at hblank
    rcases hblank with rfl | rfl
    · exact absurd h (by decide)
    · exact absurd h (by decide)

theorem dropQuote_of_ne {c : Char} (hdouble : c ≠ '"') (hsingle : c ≠ '\'') (cs : Text) :
    dropQuote (c :: cs) = c :: cs := by
  rw [dropQuote, if_neg]
  simp [hdouble, hsingle]

theorem OptionalQuote.dropQuote_append {quote s : Text} (h : OptionalQuote quote)
    (hs : dropQuote s = s) : dropQuote (quote ++ s) = s := by
  rcases h with rfl | rfl | rfl
  · exact hs
  · rfl
  · rfl

theorem IsLabel.dropQuote_append {label : Text} (h : IsLabel label) (s : Text) :
    dropQuote (label ++ s) = label ++ s := by
  obtain ⟨c, cs, rfl, hc, _⟩ := h
  apply dropQuote_of_ne
  · rintro rfl
    exact absurd hc (by decide)
  · rintro rfl
    exact absurd hc (by decide)

/-- Blanks end where a label starts. -/
theorem IsLabel.takeWhile_isBlank {label blanks : Text} (h : IsLabel label)
    (hblanks : ∀ c ∈ blanks, Text.isBlank c = true) (s : Text) :
    (blanks ++ (label ++ s)).takeWhile Text.isBlank = blanks := by
  obtain ⟨c, cs, rfl, hc, _⟩ := h
  rw [List.takeWhile_append_of_pos hblanks, List.cons_append,
    List.takeWhile_cons_of_neg (by simp [isBlank_of_isNameStart hc]), List.append_nil]

theorem IsLabel.dropWhile_isBlank {label blanks quote : Text} (h : IsLabel label)
    (hblanks : ∀ c ∈ blanks, Text.isBlank c = true) (hquote : OptionalQuote quote) (s : Text) :
    (blanks ++ (quote ++ (label ++ s))).dropWhile Text.isBlank = quote ++ (label ++ s) := by
  obtain ⟨c, cs, rfl, hc, _⟩ := h
  rw [List.dropWhile_append_of_pos hblanks]
  rcases hquote with rfl | rfl | rfl
  · exact List.dropWhile_cons_of_neg (by simp [isBlank_of_isNameStart hc])
  · rfl
  · rfl

theorem IsLabel.takeWhile_isWord {label : Text} (h : IsLabel label) {s : Text}
    (hs : Text.endsWord s = true) : (label ++ s).takeWhile Text.isWord = label := by
  obtain ⟨c, cs, rfl, hc, hcs⟩ := h
  have hword : ∀ d ∈ c :: cs, Text.isWord d = true :=
    List.forall_mem_cons.mpr ⟨(Bool.and_eq_true_iff.mp hc).1, hcs⟩
  have hstop : s.takeWhile Text.isWord = [] := by
    cases s with
    | nil => rfl
    | cons d ds => exact List.takeWhile_cons_of_neg (by simpa [Text.endsWord] using hs)
  rw [List.takeWhile_append_of_pos hword, hstop, List.append_nil]

theorem IsLabel.labelHere? {label indent rest : Text} (h : IsLabel label)
    (hindent : ∀ c ∈ indent, Text.isBlank c = true) (hrest : Text.endsWord rest = true) :
    Php.labelHere? label (indent ++ (label ++ rest)) = some (indent.length + label.length) := by
  have hprefix : label.isPrefixOf (label ++ rest) = true :=
    List.isPrefixOf_iff_prefix.mpr (List.prefix_append label rest)
  simp only [Php.labelHere?, h.takeWhile_isBlank hindent, List.drop_left, hprefix, hrest,
    Bool.and_self, if_true]

/-- A label at the start of a line is found, or one before it. -/
theorem closingLabel?_ne_none {label here : Text} {n : Nat} (hhere : labelHere? label here = some n)
    (hne : here ≠ []) {body : Text} (hbody : body.WholeLines) {atStart : Bool}
    (hstart : body = [] → atStart = true) :
    closingLabel? label atStart (body ++ here) ≠ none := by
  induction body generalizing atStart with
  | nil =>
    obtain ⟨c, cs, rfl⟩ := List.exists_cons_of_ne_nil hne
    rw [List.nil_append, closingLabel?, hstart rfl, if_pos rfl, hhere]
    simp
  | cons c body ih =>
    have hfeed : body = [] → (c == '\n') = true := by
      rintro rfl
      simpa [WholeLines, Text.EndsInFeed] using hbody
    rw [List.cons_append, closingLabel?]
    split
    · simp
    · rw [Option.map_eq_none_iff.ne]
      exact ih (by simpa using hbody.drop 1) hfeed

/-- The line on which the label is told ends behind it. -/
theorem OptionalQuote.heredocBody? {quote feed : Text} (hquote : OptionalQuote quote)
    (hfeed : feed = ['\n'] ∨ feed = ['\r', '\n']) (body : Text) :
    Text.endsWord (quote ++ (feed ++ body)) = true ∧
      Php.heredocBody? (dropQuote (quote ++ (feed ++ body))) = some body := by
  rcases hquote with rfl | rfl | rfl <;> rcases hfeed with rfl | rfl <;> exact ⟨rfl, rfl⟩

/-- What decides about a heredoc is the label and what follows its first line. -/
theorem heredocLength?_of_label {blanks quote label line body : Text} {m : Nat}
    (hblanks : ∀ c ∈ blanks, Text.isBlank c = true) (hquote : OptionalQuote quote)
    (hlabel : IsLabel label) (hword : Text.endsWord line = true)
    (hbody : heredocBody? (dropQuote line) = some body)
    (hm : closingLabel? label true body = some m) :
    heredocLength? (blanks ++ (quote ++ (label ++ line))) =
      some ((blanks ++ (quote ++ (label ++ line))).length - body.length + m) := by
  have htake := hlabel.takeWhile_isWord hword
  have hopened : dropQuote ((blanks ++ (quote ++ (label ++ line))).dropWhile Text.isBlank) =
      label ++ line := by
    rw [hlabel.dropWhile_isBlank hblanks hquote,
      hquote.dropQuote_append (hlabel.dropQuote_append line)]
  obtain ⟨c, cs, rfl, hc, -⟩ := hlabel
  rw [List.cons_append] at hopened htake
  apply heredocLength?_of_parts hopened hc
  · rw [htake]
    show heredocBody? (dropQuote ((c :: cs ++ line).drop (c :: cs).length)) = some body
    rw [List.drop_left]
    exact hbody
  · rw [htake]
    exact hm

/-- A complete heredoc is found. -/
theorem BeginsHeredoc.heredocLength?_ne_none {s : Text} (h : BeginsHeredoc s) :
    heredocLength? s ≠ none := by
  obtain @⟨blanks, quote, label, quote', feed, body, indent, rest, hblanks, hquote, hlabel,
    hquote', hfeed, hbody, hindent, hrest⟩ := h
  have hne : indent ++ (label ++ rest) ≠ [] := by
    obtain ⟨c, cs, rfl, _⟩ := hlabel
    simp
  have hclosed : closingLabel? label true (body ++ (indent ++ (label ++ rest))) ≠ none :=
    closingLabel?_ne_none (hlabel.labelHere? hindent hrest) hne hbody fun _ => rfl
  obtain ⟨m, hm⟩ := Option.ne_none_iff_exists'.mp hclosed
  obtain ⟨hword, hbreak⟩ := hquote'.heredocBody? hfeed (body ++ (indent ++ (label ++ rest)))
  rw [heredocLength?_of_label hblanks hquote hlabel hword hbreak hm]
  exact Option.some_ne_none _

theorem not_beginsHeredoc {s : Text} (h : heredocLength? s = none) : ¬ BeginsHeredoc s :=
  fun hs => hs.heredocLength?_ne_none h

/-! ## What the lexer reads -/

/-- What can start with a character inside code. -/
inductive Lexed (c : Char) (cs : Text) : Shape × Nat → Prop
  | close (hc : c = '?') (hcs : cs.head? = some '>') :
      Lexed c cs (.close, if (cs.drop 1).head? = some '\n' then 2 else 1)
  | space (hc : Text.isSpace c = true) : Lexed c cs (.space, (cs.takeWhile Text.isSpace).length)
  | comment (n : Nat) : Lexed c cs (.comment, n)
  | token {kind : Token.Kind} (n : Nat) (hkind : kind ≠ .punct) : Lexed c cs (.token kind, n)
  | escape {n : Nat} (hc : c = '"') (hn : Text.closingQuote? '"' false cs = some n)
      (hlarge : (Text.tooLarge? (codes (Text.inner ('"' :: cs.take n)))).isSome = true) :
      Lexed c cs (.broken .badEscape, n)
  | region (hcomment : comment? c cs = none) (hstring : string? c cs = none)
      (hopen : opensRegion c cs = true) : Lexed c cs (.broken .unterminated, cs.length)
  | mark (n : Nat) (hspace : Text.isSpace c = false) (hword : Text.isWord c = false) :
      Lexed c cs (.token .punct, n)

/-- A string is a token, unless it has an escape that is too large. -/
theorem lexed_string {c : Char} {cs : Text} {found : Shape × Nat}
    (h : string? c cs = some found) : Lexed c cs found := by
  rcases string?_cases h with ⟨rfl, n, hn, rfl⟩ | ⟨rfl, n, hn, rfl⟩ | ⟨rfl, n, hn, rfl⟩ |
    ⟨rfl, ds, n, rfl, hn, rfl⟩
  · exact .token n (by simp)
  · rw [doubleShape_eq]
    split
    · rename_i hlarge
      exact .escape rfl hn hlarge
    · split
      · exact .token n (by simp)
      · exact .token n (by simp)
  · exact .token n (by simp)
  · exact .token (n + 2) (by simp)

theorem isWord_of_name?_eq_none {c : Char} {cs : Text} (h : name? c cs = none)
    (hdigit : Text.isDigit c = false) : Text.isWord c = false := by
  unfold name? at h
  split at h
  · cases h
  · rename_i hc
    simpa [Text.isNameStart, hdigit] using hc

theorem lexed_lexeme (c : Char) (cs : Text) : Lexed c cs (lexeme c cs) := by
  unfold lexeme
  split
  · rename_i hclose
    obtain ⟨hc, hcs⟩ := Bool.and_eq_true_iff.mp hclose
    exact .close (of_decide_eq_true hc) (of_decide_eq_true hcs)
  · split
    · rename_i hspace
      exact .space hspace
    · rename_i hspace
      split
      · exact .comment _
      · rename_i hstring
        exact lexed_string hstring
      · rename_i hcomment hstring
        split
        · rename_i hopen
          exact .region hcomment hstring hopen
        · split
          · exact .token _ (by simp)
          · exact .token _ (by simp)
          · rename_i hname
            split
            · exact .token _ (by simp)
            · rename_i hdigit
              exact .mark _ (Bool.eq_false_iff.mpr hspace)
                (isWord_of_name?_eq_none hname (Bool.eq_false_iff.mpr hdigit))

/-- A mark of punctuation is no white space and no part of a word. -/
theorem lexeme_mark {c : Char} {cs : Text} (h : (lexeme c cs).1 = .token .punct) :
    Text.isSpace c = false ∧ Text.isWord c = false := by
  have hlexed := lexed_lexeme c cs
  generalize lexeme c cs = found at h hlexed
  cases hlexed with
  | close => cases h
  | space => cases h
  | comment => cases h
  | token n hkind => exact absurd (Shape.token.inj h) hkind
  | escape => cases h
  | region => cases h
  | mark n hspace hword => exact ⟨hspace, hword⟩

/-! ## What is passed over -/

/-- Inside code a tag or white space is passed over, and extends a gap. -/
theorem lexeme_silent {c : Char} {cs : Text} (h : (lexeme c cs).1.isSilent = true) {u : Text}
    {ends : Bool}
    (hu : Gap (leavesInCode ⟨(lexeme c cs).1, c :: cs.take (lexeme c cs).2⟩) u ends) :
    Gap true (c :: cs.take (lexeme c cs).2 ++ u) ends := by
  have hlexed := lexed_lexeme c cs
  generalize lexeme c cs = found at h hlexed hu ⊢
  cases hlexed with
  | close hc hcs =>
    subst hc
    obtain ⟨ds, rfl⟩ := List.head?_eq_some_iff.mp hcs
    refine .closed ?_ hu
    simp only [List.drop_succ_cons, List.drop_zero]
    split
    · rename_i hfeed
      obtain ⟨es, rfl⟩ := List.head?_eq_some_iff.mp hfeed
      exact .inr rfl
    · exact .inl rfl
  | space hc =>
    have hall : ∀ d ∈ c :: cs.takeWhile Text.isSpace, Text.isSpace d = true :=
      List.forall_mem_cons.mpr ⟨hc, fun d hd => List.mem_takeWhile_imp hd⟩
    rw [Text.take_length_takeWhile] at hu ⊢
    exact .spaces hall hu
  | comment => cases h
  | token => cases h
  | escape => cases h
  | region => cases h
  | mark => cases h

/-- The open tag that stands here. -/
theorem openTag_take (s : Text) : OpenTag ('<' :: '?' :: s.take (openTagLength s)) := by
  unfold openTagLength
  split
  · rename_i h
    have hlower := of_decide_eq_true (Bool.and_eq_true_iff.mp h).1
    refine .inr (.inr ?_)
    rw [Text.asciiLower, List.map_cons, List.map_cons]
    exact congrArg (fun t => '<' :: '?' :: t) hlower
  · split
    · rename_i h
      obtain ⟨ds, rfl⟩ := List.head?_eq_some_iff.mp h
      exact .inr (.inl rfl)
    · exact .inl rfl

/-- Inline text goes up to its first open tag. -/
theorem take_markupLength_eq {s : Text} {n : Nat} (h : Text.position? "<?".toList s = some n) :
    ∃ tag, OpenTag tag ∧ s.take (markupLength s) = s.take n ++ tag := by
  obtain ⟨r, hr⟩ := Text.prefix_drop_of_position? h
  have hrest : s.drop (n + 2) = r := by
    rw [← List.drop_drop, ← hr]
    rfl
  refine ⟨_, openTag_take r, ?_⟩
  simp only [markupLength, h, hrest]
  rw [Nat.add_assoc, List.take_add, ← hr, Nat.add_comm 2]
  rfl

/-- What is passed over extends a gap, unless it is inline text up to the end of the source. -/
theorem front_silent {inCode : Bool} {c : Char} {cs : Text}
    (h : (front inCode c cs).1.isSilent = true) :
    (∀ u ends,
      Gap (leavesInCode ⟨(front inCode c cs).1, c :: cs.take (front inCode c cs).2⟩) u ends →
        Gap inCode (c :: cs.take (front inCode c cs).2 ++ u) ends) ∨
    (inCode = false ∧ cs.drop (front inCode c cs).2 = [] ∧
      ¬ "<?".toList <:+: c :: cs.take (front inCode c cs).2) := by
  cases inCode with
  | true => exact .inl fun u ends hu => lexeme_silent h hu
  | false =>
    simp only [front, ← take_markupLength, ← drop_markupLength]
    cases hopen : Text.position? "<?".toList (c :: cs) with
    | some n =>
      left
      intro u ends hu
      rw [leavesInCode_markup hopen] at hu
      obtain ⟨tag, htag, htake⟩ := take_markupLength_eq hopen
      rw [htake]
      exact .opened (Text.not_infix_take_of_position? (by decide) hopen) htag hu
    | none =>
      have hlen : markupLength (c :: cs) = (c :: cs).length := by simp only [markupLength, hopen]
      rw [hlen, List.take_length, List.drop_length]
      exact .inr ⟨trivial, rfl, Text.not_infix_of_position?_eq_none hopen⟩

/-! ## Where the lexer breaks off -/

/-- A string may go over several lines, and escapes by number are read in double quotes. -/
def quotes : Text.Quotes := ⟨fun _ => false, fun quote => quote = '"'⟩

/-- What the scan of PHP breaks off at. -/
inductive Malformed : Fault → Text → Prop
  | text {fault : Fault} {s : Text} (h : Text.Malformed quotes fault s) : Malformed fault s
  | heredoc {s : Text} (h : ¬ BeginsHeredoc s) : Malformed .unterminated ('<' :: '<' :: '<' :: s)

/-- An escape takes digits and braces along. -/
theorem take_escape? {cs : Text} {e : Nat × Nat} (h : escape? cs = some e) :
    ∃ c tail, cs.take e.2 = c :: tail ∧ '\\' ∉ tail := by
  unfold escape? at h
  split at h
  · cases h
  · obtain ⟨found, hfound, rfl⟩ := Option.map_eq_some_iff.mp h
    exact ⟨'u', _, List.take_succ_cons, Text.not_mem_take_braced? hfound⟩
  · rename_i cs
    dsimp only at h
    split at h
    · cases h
    · obtain rfl := Option.some.inj h
      have hdigits : (cs.take 2).takeWhile Text.isHexDigit <+: cs :=
        (List.takeWhile_prefix _).trans (List.take_prefix 2 cs)
      refine ⟨'x', _, List.take_succ_cons, ?_⟩
      rw [← List.prefix_iff_eq_take.mp hdigits]
      exact Text.not_mem_of_hexDigits fun c hc => List.mem_takeWhile_imp hc
  · rename_i c cs _ _
    split at h
    · obtain rfl := Option.some.inj h
      exact ⟨c, [], rfl, List.not_mem_nil⟩
    · dsimp only at h
      split at h
      · cases h
      · rename_i hne
        obtain rfl := Option.some.inj h
        have hdigits : ((c :: cs).take 3).takeWhile isOctalDigit <+: c :: cs :=
          (List.takeWhile_prefix _).trans (List.take_prefix 3 (c :: cs))
        have hall : '\\' ∉ ((c :: cs).take 3).takeWhile isOctalDigit := fun hmem =>
          absurd (List.mem_takeWhile_imp hmem) (by decide)
        dsimp only
        rw [← List.prefix_iff_eq_take.mp hdigits]
        obtain ⟨d, tail, htail⟩ :=
          List.exists_cons_of_ne_nil (mt List.isEmpty_iff.mpr hne)
        rw [htail] at hall ⊢
        exact ⟨d, tail, rfl, fun hmem => hall (List.mem_cons_of_mem d hmem)⟩

theorem takesAlong : Text.TakesAlong numberedEscape? where
  found cs e h := by
    obtain ⟨found, hfound, rfl⟩ := Option.map_eq_some_iff.mp h
    exact take_escape? hfound
  absent cs h := by
    intro hhead
    obtain ⟨ds, rfl⟩ := List.head?_eq_some_iff.mp hhead
    cases h

/-- A string, a comment or a heredoc that is opened and not found is not closed. -/
theorem malformed_of_opensRegion {c : Char} {cs : Text} (hcomment : comment? c cs = none)
    (hstring : string? c cs = none) (hopen : opensRegion c cs = true) :
    Malformed .unterminated (c :: cs) := by
  have hquoted : ∀ quote, quote ≠ '\\' → (quote = '\'' ∨ quote = '"' ∨ quote = '\x60') →
      Text.closingQuote? quote false cs = none → Malformed .unterminated (quote :: cs) :=
    fun quote hne hquote hnone =>
      .text (.string quote hquote (Text.not_closes_of_closingQuote?_eq_none hne hnone))
  simp only [opensRegion, Bool.or_eq_true, Bool.and_eq_true, decide_eq_true_eq] at hopen
  rcases hopen with (((rfl | rfl) | rfl) | ⟨rfl, hstar⟩) | ⟨rfl, hless⟩
  · exact hquoted _ (by decide) (.inl rfl) (Option.map_eq_none_iff.mp hstring)
  · exact hquoted _ (by decide) (.inr (.inl rfl)) (Option.map_eq_none_iff.mp hstring)
  · exact hquoted _ (by decide) (.inr (.inr rfl)) (Option.map_eq_none_iff.mp hstring)
  · obtain ⟨ds, rfl⟩ := List.head?_eq_some_iff.mp hstar
    have hnone : Text.closingComment? ds = none := Option.map_eq_none_iff.mp hcomment
    exact .text (.comment (Text.not_infix_of_closingComment?_eq_none hnone))
  · obtain ⟨ds, rfl⟩ := List.isPrefixOf_iff_prefix.mp hless
    have hnone : heredocLength? ds = none := Option.map_eq_none_iff.mp hstring
    exact .heredoc (not_beginsHeredoc hnone)

/-- A string in double quotes breaks the scan off only by an escape that is too large. -/
theorem malformed_of_closingQuote? {cs : Text} {n : Nat}
    (hn : Text.closingQuote? '"' false cs = some n)
    (hlarge : (Text.tooLarge? (codes (Text.inner ('"' :: cs.take n)))).isSome = true) :
    Malformed .badEscape ('"' :: cs) := by
  obtain ⟨body, rest, rfl, hbody, rfl⟩ := Text.closingQuote?_eq_some hn
  rw [Text.inner_closed] at hlarge
  exact .text (.escape '"' rest (.inr (.inl rfl)) rfl hbody
    (takesAlong.hasLargeEscape_of_codes numbered hlarge))

theorem malformed_of_lexeme {c : Char} {cs : Text} {fault : Fault}
    (h : (lexeme c cs).1 = .broken fault) : Malformed fault (c :: cs) := by
  have hlexed := lexed_lexeme c cs
  generalize lexeme c cs = found at h hlexed
  cases hlexed with
  | close => cases h
  | space => cases h
  | comment => cases h
  | token => cases h
  | escape hc hn hlarge =>
    cases h
    subst hc
    exact malformed_of_closingQuote? hn hlarge
  | region hcomment hstring hopen =>
    cases h
    exact malformed_of_opensRegion hcomment hstring hopen
  | mark => cases h

/-! ## Whole sources -/

theorem leavesInCode_of_not_isSilent {l : Lexeme} (h : l.shape.isSilent = false) :
    leavesInCode l = true := by
  obtain ⟨shape, text⟩ := l
  cases shape with
  | markup => cases h
  | close => cases h
  | space => rfl
  | comment => rfl
  | token kind => rfl
  | broken fault => rfl

theorem gaps : Scan.Gaps front (fun _ l => leavesInCode l) (fun inCode u => Gap inCode u true)
    Trailing Malformed true where
  here inCode c cs h := by
    cases inCode with
    | true => exact .nil true
    | false => cases h
  pass inCode c cs h hne u hu := by
    rcases front_silent h with hgap | ⟨_, hend, _⟩
    · exact hgap u true hu
    · exact absurd hend hne
  done := trailing_nil
  passRest inCode c cs h hrest := by
    rcases front_silent h with hgap | ⟨rfl, hend, hinline⟩
    · exact hrest.prepend hgap
    · rw [hend, List.append_nil]
      exact .inr ⟨[], _, rfl, .nil false, hinline⟩
  resumeGap inCode c cs h := by rw [leavesInCode_of_not_isSilent h]
  resumeRest inCode c cs h := by rw [leavesInCode_of_not_isSilent h]
  bad inCode c cs fault h := by
    cases inCode with
    | true => exact malformed_of_lexeme h
    | false => cases h

theorem front_mark {inCode : Bool} {c : Char} {cs : Text}
    (h : (front inCode c cs).1 = .token .punct) :
    Text.isSpace c = false ∧ Text.isWord c = false := by
  cases inCode with
  | true => exact lexeme_mark h
  | false => cases h

/-- **A scan of PHP loses no text.** The items stand one after another in the source, each with the
line of its offset, and only gap text is between them. Without a notice only gap text is left
behind the last item, up to the end of the source. Otherwise there is one notice, and it is about
malformed text that such a gap leads up to. -/
theorem scan_loses_no_text (inCode : Bool) (line : Int) (source : Text) :
    ∃ places : List Scan.Place,
      places.map Scan.Place.item = (scan inCode line source).items ∧
      Scan.Layout (fun u => Gap inCode u true) (fun u => Gap true u true) source line places ∧
      Scan.MarksStand (scan inCode line source) ∧
      ((scan inCode line source).notices .code = [] ∧
          Trailing (if places.isEmpty then inCode else true)
            (source.drop (Scan.stopOf places)) ∨
        ∃ fault offset,
          (scan inCode line source).notices .code =
            [.brokenOff .code fault (line + Text.lineFeeds (source.take offset))] ∧
          Scan.stopOf places ≤ offset ∧
          Gap (if places.isEmpty then inCode else true)
            (Scan.between source (Scan.stopOf places) offset) true ∧
          Malformed fault (source.drop offset)) := by
  obtain ⟨places, hplaces⟩ := cuts.laidOut gaps inCode line source
  have hmarks := cuts.marksStand (fun _ _ _ => front_mark) inCode line source
  exact ⟨places, hplaces.items, hplaces.layout, hmarks, hplaces.notices .code⟩

end MessageHarvest.Php
