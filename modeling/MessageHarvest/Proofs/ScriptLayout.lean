import MessageHarvest.Proofs.MalformedText
import MessageHarvest.Proofs.ScanLayout

/-! # A script is covered by its items and white space

A script has no text outside code, so the gaps between its items are white
space and nothing else. Lines are right whether or not a regular expression
counts for them: through escapes and classes alike it stays on its line
(`not_mem_take_pattern?`), so a counter that does not move at regular
expressions gives the same scan (`counting_eq`). -/
namespace MessageHarvest.Scan

/-- Counts lines over the lexemes, where each lexeme moves the counter by `advance`. -/
def counting (advance : Lexeme → Nat) : Int → List Lexeme → Scan
  | _, [] => ⟨[], none⟩
  | line, l :: ls =>
    match l.shape with
    | .broken fault => ⟨[], some (fault, line)⟩
    | _ =>
      let rest := counting advance (line + advance l) ls
      ⟨(l.item? line).toList ++ rest.items, rest.broken⟩

/-- A counter that moves by the line feeds of each lexeme counts lines. -/
theorem counting_eq_ofLexemes {advance : Lexeme → Nat} {ls : List Lexeme}
    (h : ∀ l ∈ ls, advance l = Text.lineFeeds l.text) (line : Int) :
    counting advance line ls = ofLexemes line ls := by
  induction ls generalizing line with
  | nil => rfl
  | cons l ls ih =>
    obtain ⟨hl, hls⟩ := List.forall_mem_cons.mp h
    rewrite [counting, ofLexemes, hl, ih hls]
    rfl

end MessageHarvest.Scan

namespace MessageHarvest.Script

/-! ## What the lexer reads -/

/-- What can start with a character. -/
inductive Lexed (c : Char) (cs : Text) : Shape × Nat → Prop
  | pattern {n : Nat} (h : pattern? cs = some n) : Lexed c cs (.token .interpolated, n)
  | space (hc : Text.isSpace c = true) : Lexed c cs (.space, (cs.takeWhile Text.isSpace).length)
  | comment (n : Nat) : Lexed c cs (.comment, n)
  | token {kind : Token.Kind} (n : Nat) (hkind : kind ≠ .punct)
      (hquote : kind = .interpolated → isQuote c = true) : Lexed c cs (.token kind, n)
  | escape {n : Nat} (hquote : isQuote c = true)
      (hn : Text.closingQuote? c (c ≠ '\x60') cs = some n)
      (hlarge : (Text.tooLarge? (codes (Text.inner (c :: cs.take n)))).isSome = true) :
      Lexed c cs (.broken .badEscape, n)
  | region (hcomment : comment? c cs = none) (hstring : string? c cs = none)
      (hopen : opensRegion c cs = true) : Lexed c cs (.broken .unterminated, cs.length)
  | mark (n : Nat) (hspace : Text.isSpace c = false) (hword : Text.isWord c = false) :
      Lexed c cs (.token .punct, n)

/-- A string is a token that starts with a quote, unless it has an escape that is too large. -/
theorem lexed_string {c : Char} {cs : Text} {found : Shape × Nat}
    (h : string? c cs = some found) : Lexed c cs found := by
  unfold string? at h
  split at h
  · rename_i hquote
    obtain ⟨n, hn, rfl⟩ := Option.map_eq_some_iff.mp h
    rw [stringShape_eq]
    split
    · rename_i hlarge
      exact .escape hquote hn hlarge
    · split
      · exact .token n (by simp) fun _ => hquote
      · exact .token n (by simp) fun _ => hquote
  · cases h

theorem isWord_of_number?_eq_none {c : Char} {cs : Text} (h : number? c cs = none)
    (hname : Text.isNameStart c = false) : Text.isWord c = false := by
  unfold number? at h
  split at h
  · cases h
  · rename_i hdigit
    simpa [Text.isNameStart, hdigit] using hname

theorem lexed_lexeme (mayStart : Bool) (c : Char) (cs : Text) :
    Lexed c cs (lexeme mayStart c cs) := by
  unfold lexeme
  split
  · rename_i hpattern
    split at hpattern
    · exact .pattern hpattern
    · cases hpattern
  · split
    · rename_i hspace
      exact .space hspace
    · rename_i hspace
      split
      · exact .comment _
      · rename_i hstring
        exact lexed_string hstring
      · rename_i hcomment hstring
        split
        · rename_i hopen
          exact .region hcomment hstring hopen
        · split
          · exact .token _ (by simp) (by simp)
          · rename_i hname
            obtain ⟨hname, -⟩ := Bool.or_eq_false_iff.mp (Bool.eq_false_iff.mpr hname)
            split
            · exact .token _ (by simp) (by simp)
            · rename_i hnumber
              exact .mark _ (Bool.eq_false_iff.mpr hspace) (isWord_of_number?_eq_none hnumber hname)

/-- A mark of punctuation is no white space and no part of a word. -/
theorem lexeme_mark {mayStart : Bool} {c : Char} {cs : Text}
    (h : (lexeme mayStart c cs).1 = .token .punct) :
    Text.isSpace c = false ∧ Text.isWord c = false := by
  have hlexed := lexed_lexeme mayStart c cs
  generalize lexeme mayStart c cs = found at h hlexed
  cases hlexed with
  | pattern => cases h
  | space => cases h
  | comment => cases h
  | token n hkind => exact absurd (Shape.token.inj h) hkind
  | escape => cases h
  | region => cases h
  | mark n hspace hword => exact ⟨hspace, hword⟩

/-! ## Lines and regular expressions -/

/-- A regular expression has no line feed, and neither have its flags. -/
theorem not_mem_take_pattern? {cs : Text} {n : Nat} (h : pattern? cs = some n) :
    '\n' ∉ cs.take n := by
  unfold pattern? at h
  split at h
  · cases h
  · cases h
  · obtain ⟨m, hm, rfl⟩ := Option.map_eq_some_iff.mp h
    rw [List.take_add, Text.take_length_takeWhile, List.mem_append]
    rintro (hbody | hflags)
    · exact (patternLength?_eq_some hm).2 hbody
    · exact absurd (List.mem_takeWhile_imp hflags) (by decide)

/-- The lexeme is a regular expression. A template is the only other token without a fixed text,
and starts with its quote. -/
def isPattern (l : Lexeme) : Bool :=
  l.shape = .token .interpolated && l.text.head? = some '/'

/-- A line counter that regular expressions do not move. -/
def advance (l : Lexeme) : Nat := if isPattern l then 0 else Text.lineFeeds l.text

theorem advance_lexeme (mayStart : Bool) (c : Char) (cs : Text) :
    advance ⟨(lexeme mayStart c cs).1, c :: cs.take (lexeme mayStart c cs).2⟩ =
      Text.lineFeeds (c :: cs.take (lexeme mayStart c cs).2) := by
  unfold advance
  split
  · rename_i hpattern
    obtain ⟨hshape, hhead⟩ := Bool.and_eq_true_iff.mp hpattern
    have hshape := of_decide_eq_true hshape
    obtain rfl : c = '/' := Option.some.inj (of_decide_eq_true hhead)
    have hlexed := lexed_lexeme mayStart '/' cs
    generalize lexeme mayStart '/' cs = found at hshape hlexed ⊢
    cases hlexed with
    | pattern h =>
      refine (List.count_eq_zero.mpr ?_).symm
      simpa using not_mem_take_pattern? h
    | space => cases hshape
    | comment => cases hshape
    | token n hkind hquote => exact absurd (hquote (Shape.token.inj hshape)) (by decide)
    | escape => cases hshape
    | region => cases hshape
    | mark => cases hshape
  · rfl

/-- The counter that regular expressions do not move counts lines as well. -/
theorem counting_eq (line : Int) (source : Text) :
    Scan.counting advance line (lexemes true source) = scan line source := by
  refine Scan.counting_eq_ofLexemes (cuts.forall_mem_lexemes advance_lexeme ?_ true source) line
  intro fault text
  rfl

/-! ## Where the lexer breaks off -/

/-- Only a template may go over several lines, and escapes by number are read in all strings. -/
def quotes : Text.Quotes := ⟨fun quote => quote ≠ '\x60', fun _ => true⟩

/-- An escape takes digits, braces or a line feed along. -/
theorem take_escape? {cs : Text} {e : List Nat × Nat} (h : escape? cs = some e) :
    ∃ c tail, cs.take e.2 = c :: tail ∧ '\\' ∉ tail := by
  unfold escape? at h
  split at h
  · cases h
  · split at h
    · rename_i hbraced
      cases h
      exact ⟨'u', _, List.take_succ_cons, Text.not_mem_take_braced? hbraced⟩
    · rename_i hfixed
      cases h
      exact ⟨'u', _, List.take_succ_cons, Text.not_mem_take_fixedHex? hfixed⟩
    · cases h
      exact ⟨'u', [], rfl, List.not_mem_nil⟩
  · split at h
    · rename_i hfixed
      cases h
      exact ⟨'x', _, List.take_succ_cons, Text.not_mem_take_fixedHex? hfixed⟩
    · cases h
      exact ⟨'x', [], rfl, List.not_mem_nil⟩
  · cases h
    exact ⟨'\r', ['\n'], rfl, by decide⟩
  · cases h
    exact ⟨'\r', [], rfl, List.not_mem_nil⟩
  · cases h
    exact ⟨'\n', [], rfl, List.not_mem_nil⟩
  · rename_i c _ _ _ _ _ _
    cases h
    exact ⟨c, [], rfl, List.not_mem_nil⟩

theorem takesAlong : Text.TakesAlong escape? where
  found cs e h := take_escape? h
  absent cs h := by
    intro hhead
    obtain ⟨ds, rfl⟩ := List.head?_eq_some_iff.mp hhead
    cases h

theorem isQuote_iff {c : Char} : isQuote c = true ↔ c = '\'' ∨ c = '"' ∨ c = '\x60' := by
  simp [isQuote, or_assoc]

/-- A string or a comment that is opened and not found is not closed. -/
theorem malformed_of_opensRegion {c : Char} {cs : Text} (hcomment : comment? c cs = none)
    (hstring : string? c cs = none) (hopen : opensRegion c cs = true) :
    Text.Malformed quotes .unterminated (c :: cs) := by
  cases hquote : isQuote c with
  | true =>
    rw [string?, if_pos hquote] at hstring
    have hcases := isQuote_iff.mp hquote
    have hne : c ≠ '\\' := by
      rintro rfl
      cases hquote
    exact .string c hcases
      (Text.not_closes_of_closingQuote?_eq_none hne (Option.map_eq_none_iff.mp hstring))
  | false =>
    simp only [opensRegion, hquote, Bool.false_or, Bool.and_eq_true, decide_eq_true_eq] at hopen
    obtain ⟨rfl, hstar⟩ := hopen
    obtain ⟨ds, rfl⟩ := List.head?_eq_some_iff.mp hstar
    have hnone : Text.closingComment? ds = none := Option.map_eq_none_iff.mp hcomment
    exact .comment (Text.not_infix_of_closingComment?_eq_none hnone)

/-- A string breaks the scan off only by an escape that is too large. -/
theorem malformed_of_closingQuote? {c : Char} {cs : Text} {n : Nat} (hquote : isQuote c = true)
    (hn : Text.closingQuote? c (c ≠ '\x60') cs = some n)
    (hlarge : (Text.tooLarge? (codes (Text.inner (c :: cs.take n)))).isSome = true) :
    Text.Malformed quotes .badEscape (c :: cs) := by
  obtain ⟨body, rest, rfl, hbody, rfl⟩ := Text.closingQuote?_eq_some hn
  rw [Text.inner_closed] at hlarge
  exact .escape c rest (isQuote_iff.mp hquote) rfl hbody
    (takesAlong.hasLargeEscape_of_codes numbered hlarge)

theorem malformed_of_lexeme {mayStart : Bool} {c : Char} {cs : Text} {fault : Fault}
    (h : (lexeme mayStart c cs).1 = .broken fault) : Text.Malformed quotes fault (c :: cs) := by
  have hlexed := lexed_lexeme mayStart c cs
  generalize lexeme mayStart c cs = found at h hlexed
  cases hlexed with
  | pattern => cases h
  | space => cases h
  | comment => cases h
  | token => cases h
  | escape hquote hn hlarge =>
    cases h
    exact malformed_of_closingQuote? hquote hn hlarge
  | region hcomment hstring hopen =>
    cases h
    exact malformed_of_opensRegion hcomment hstring hopen
  | mark => cases h

/-! ## Whole scripts -/

/-- Text without any item. -/
def Gap (s : Text) : Prop := ∀ c ∈ s, Text.isSpace c = true

/-- Only white space is passed over. -/
theorem gap_of_isSilent {mayStart : Bool} {c : Char} {cs : Text}
    (h : (lexeme mayStart c cs).1.isSilent = true) :
    Gap (c :: cs.take (lexeme mayStart c cs).2) := by
  have hlexed := lexed_lexeme mayStart c cs
  generalize lexeme mayStart c cs = found at h hlexed ⊢
  cases hlexed with
  | pattern => cases h
  | space hc =>
    rw [Text.take_length_takeWhile]
    exact List.forall_mem_cons.mpr ⟨hc, fun d hd => List.mem_takeWhile_imp hd⟩
  | comment => cases h
  | token => cases h
  | escape => cases h
  | region => cases h
  | mark => cases h

theorem Gap.append {s t : Text} (hs : Gap s) (ht : Gap t) : Gap (s ++ t) :=
  List.forall_mem_append.mpr ⟨hs, ht⟩

theorem gaps : Scan.Gaps lexeme (fun mayStart l => mayStartAfter l mayStart) (fun _ => Gap)
    (fun _ => Gap) (Text.Malformed quotes) true where
  here _ _ _ _ := List.forall_mem_nil _
  pass _ _ _ h _ _ hu := (gap_of_isSilent h).append hu
  done _ := List.forall_mem_nil _
  passRest _ _ _ h hrest := (gap_of_isSilent h).append hrest
  resumeGap _ _ _ _ := rfl
  resumeRest _ _ _ _ := rfl
  bad _ _ _ _ h := malformed_of_lexeme h

/-- **A scan of a script loses no text.** The items stand one after another in the script, each with
the line of its offset, also if regular expressions do not move the line counter, and only white
space is between them. Without a notice only white space is left behind the last item. Otherwise
there is one notice, and it is about malformed text that white space leads up to. -/
theorem script_scan_loses_no_text (line : Int) (source : Text) :
    ∃ places : List Scan.Place,
      places.map Scan.Place.item = (scan line source).items ∧
      Scan.Layout Gap Gap source line places ∧
      Scan.counting advance line (lexemes true source) = scan line source ∧
      Scan.MarksStand (scan line source) ∧
      ((scan line source).notices .script = [] ∧ Gap (source.drop (Scan.stopOf places)) ∨
        ∃ fault offset,
          (scan line source).notices .script =
            [.brokenOff .script fault (line + Text.lineFeeds (source.take offset))] ∧
          Scan.stopOf places ≤ offset ∧
          Gap (Scan.between source (Scan.stopOf places) offset) ∧
          Text.Malformed quotes fault (source.drop offset)) := by
  obtain ⟨places, hplaces⟩ := cuts.laidOut gaps true line source
  have hmarks := cuts.marksStand (fun _ _ _ => lexeme_mark) true line source
  exact ⟨places, hplaces.items, hplaces.layout, counting_eq line source, hmarks,
    hplaces.notices .script⟩

end MessageHarvest.Script
