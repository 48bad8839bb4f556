import MessageHarvest.Script.Lexer
import MessageHarvest.Proofs.ScanBoundary

/-! # JavaScript lexemes at the end of a line

As with PHP, a script that is scanned without breaking off is cut between
lexemes at the end of each line. A regular expression does not go over a line
feed, so whether a slash starts one does not depend on the next line; what
does is whether an expression may start there, which is the state in which
the first part ends. -/
namespace MessageHarvest.Script

open Text (EndsInFeed WholeLines)

/-! ## Readers of one lexeme -/

theorem patternLength?_cons {c : Char} (hc : c ≠ '\\') (inClass : Bool) (cs : Text) :
    patternLength? inClass (c :: cs) =
      if c = '\n' then none
      else if c = '/' && !inClass then some 1
      else
        (patternLength? (decide (if inClass then c ≠ ']' else c = '[')) cs).map (· + 1) := by
  rw [patternLength?.eq_def]
  split
  · contradiction
  · simp_all
  · simp_all

theorem patternLength?_append {s : Text} (hs : s.EndsInFeed) (inClass : Bool) (t : Text) :
    patternLength? inClass (s ++ t) = patternLength? inClass s := by
  fun_induction patternLength? inClass s with
  | case1 => exact absurd rfl hs.ne_nil
  | case2 inClass cs => simp [patternLength?]
  | case3 inClass c cs hc ih =>
    have hcs := (hs.tail (by decide)).tail hc
    rw [List.cons_append, List.cons_append, patternLength?, if_neg hc, ih hcs]
  | case4 inClass c cs hlone hc =>
    by_cases hslash : c = '\\'
    · -- a backslash is not the last character of the lines
      subst hslash
      cases cs with
      | nil => cases hs
      | cons d ds => exact absurd rfl (hlone d ds rfl)
    · have hfeed : c = '\n' := by simpa [hslash] using hc
      rw [List.cons_append, patternLength?_cons hslash, if_pos hfeed]
  | case5 inClass c cs hlone hc hend =>
    simp only [Bool.or_eq_true, decide_eq_true_eq, not_or] at hc
    rw [List.cons_append, patternLength?_cons hc.2, if_neg hc.1, if_pos hend]
  | case6 inClass c cs hlone hc hend within ih =>
    simp only [Bool.or_eq_true, decide_eq_true_eq, not_or] at hc
    rw [List.cons_append, patternLength?_cons hc.2, if_neg hc.1, if_neg hend, ih (hs.tail hc.1)]

/-- A regular expression lies in the text, and before the end of its line. -/
theorem patternLength?_eq_some {inClass : Bool} {s : Text} {n : Nat}
    (h : patternLength? inClass s = some n) : n ≤ s.length ∧ '\n' ∉ s.take n := by
  fun_induction patternLength? inClass s generalizing n with
  | case1 => cases h
  | case2 => cases h
  | case3 inClass c cs hc ih =>
    obtain ⟨m, hm, rfl⟩ := Option.map_eq_some_iff.mp h
    obtain ⟨hle, hfeed⟩ := ih hm
    refine ⟨by simp only [List.length_cons]; omega, ?_⟩
    simp [Ne.symm hc, hfeed]
  | case4 => cases h
  | case5 inClass c cs hlone hc hend =>
    obtain rfl := Option.some.inj h
    simp only [Bool.or_eq_true, decide_eq_true_eq, not_or] at hc
    exact ⟨by simp, by simp [Ne.symm hc.1]⟩
  | case6 inClass c cs hlone hc hend within =>
    rename_i ih
    obtain ⟨m, hm, rfl⟩ := Option.map_eq_some_iff.mp h
    obtain ⟨hle, hfeed⟩ := ih hm
    simp only [Bool.or_eq_true, decide_eq_true_eq, not_or] at hc
    exact ⟨by simp only [List.length_cons]; omega, by simp [Ne.symm hc.1, hfeed]⟩

theorem patternLength?_lt_length {inClass : Bool} {s : Text} {n : Nat} (hs : s.EndsInFeed)
    (h : patternLength? inClass s = some n) : n < s.length := by
  obtain ⟨hle, hfeed⟩ := patternLength?_eq_some h
  refine Nat.lt_of_le_of_ne hle ?_
  rintro rfl
  rw [List.take_length] at hfeed
  exact hfeed hs.mem

theorem pattern?_of_ne {cs : Text} (hstar : cs.head? ≠ some '*') (hslash : cs.head? ≠ some '/') :
    pattern? cs = (patternLength? false cs).map fun n =>
      n + ((cs.drop n).takeWhile Char.isAlpha).length := by
  unfold pattern?
  split
  · exact absurd rfl hstar
  · exact absurd rfl hslash
  · rfl

theorem pattern?_append {cs : Text} (hs : cs.EndsInFeed) (t : Text) :
    pattern? (cs ++ t) = pattern? cs := by
  have hhead : (cs ++ t).head? = cs.head? := List.head?_append_of_ne_nil cs hs.ne_nil
  by_cases hstar : cs.head? = some '*'
  · obtain ⟨ds, rfl⟩ := List.head?_eq_some_iff.mp hstar
    rfl
  by_cases hslash : cs.head? = some '/'
  · obtain ⟨ds, rfl⟩ := List.head?_eq_some_iff.mp hslash
    rfl
  rw [pattern?_of_ne hstar hslash, pattern?_of_ne (hhead ▸ hstar) (hhead ▸ hslash),
    patternLength?_append hs]
  refine Option.map_congr fun n hn => ?_
  have hlt := patternLength?_lt_length hs hn
  rw [List.drop_append_of_le_length (Nat.le_of_lt hlt),
    Text.takeWhile_append_of_mem (hs.drop hlt).mem (by decide)]

theorem pattern?_le_length {cs : Text} {n : Nat} (h : pattern? cs = some n) : n ≤ cs.length := by
  unfold pattern? at h
  split at h
  · cases h
  · cases h
  · obtain ⟨m, hm, rfl⟩ := Option.map_eq_some_iff.mp h
    have hle := (patternLength?_eq_some hm).1
    have hflags := (List.takeWhile_prefix Char.isAlpha (l := cs.drop m)).length_le
    rw [List.length_drop] at hflags
    omega

theorem comment?_append_of_some {c : Char} {cs : Text} {n : Nat} (hs : cs.EndsInFeed)
    (h : comment? c cs = some n) (t : Text) : comment? c (cs ++ t) = some n := by
  unfold comment? at h
  split at h
  · rename_i cs
    have hcs : EndsInFeed cs := hs.tail (by decide)
    rw [List.cons_append, comment?, Text.takeWhile_append_of_mem hcs.mem (by decide)]
    exact h
  · rename_i cs
    obtain ⟨m, hm, rfl⟩ := Option.map_eq_some_iff.mp h
    rw [List.cons_append, comment?, Text.closingComment?_append_of_some hm]
    rfl
  · cases h

theorem comment?_append_of_none {c : Char} {cs : Text} (hs : cs.EndsInFeed)
    (h : comment? c cs = none) (hopen : (c = '/' && cs.head? = some '*') = false) (t : Text) :
    comment? c (cs ++ t) = none := by
  cases cs with
  | nil => exact absurd rfl hs.ne_nil
  | cons d ds =>
    rw [List.cons_append]
    unfold comment?
    split
    · simp_all [comment?]
    · simp_all
    · rfl

theorem comment?_le_length {c : Char} {cs : Text} {n : Nat} (h : comment? c cs = some n) :
    n ≤ cs.length := by
  unfold comment? at h
  split at h
  · rename_i cs
    obtain rfl := Option.some.inj h
    have := (List.takeWhile_prefix (· ≠ '\n') (l := cs)).length_le
    rw [List.length_cons]
    omega
  · rename_i cs
    obtain ⟨m, hm, rfl⟩ := Option.map_eq_some_iff.mp h
    have := Text.closingComment?_le_length hm
    rw [List.length_cons]
    omega
  · cases h

theorem string?_append_of_some {c : Char} {cs : Text} {found : Shape × Nat}
    (h : string? c cs = some found) (t : Text) : string? c (cs ++ t) = some found := by
  unfold string? at h ⊢
  split at h
  · rename_i hquote
    obtain ⟨n, hn, rfl⟩ := Option.map_eq_some_iff.mp h
    have hc : c ≠ '\\' := by
      rintro rfl
      exact absurd hquote (by decide)
    rw [if_pos hquote, Text.closingQuote?_append_of_some hc hn, Option.map_some,
      List.take_append_of_le_length (Text.closingQuote?_le_length hn)]
  · cases h

theorem string?_le_length {c : Char} {cs : Text} {found : Shape × Nat}
    (h : string? c cs = some found) : found.2 ≤ cs.length := by
  unfold string? at h
  split at h
  · obtain ⟨n, hn, rfl⟩ := Option.map_eq_some_iff.mp h
    exact Text.closingQuote?_le_length hn
  · cases h

theorem opensRegion_append {c : Char} {cs : Text} (hs : cs.EndsInFeed) (t : Text) :
    opensRegion c (cs ++ t) = opensRegion c cs := by
  unfold opensRegion
  rw [List.head?_append_of_ne_nil _ hs.ne_nil]

theorem number?_append {c : Char} {cs : Text} (hs : cs.EndsInFeed) (t : Text) :
    number? c (cs ++ t) = number? c cs := by
  have hnumber := Text.takeWhile_append_of_mem hs.mem
    (p := fun d => Text.isWord d || d = '.') (by decide) t
  unfold number?
  rw [hnumber]
  cases cs with
  | nil => exact absurd rfl hs.ne_nil
  | cons d ds =>
    by_cases hdot : c = '.'
    · subst hdot
      by_cases hdigit : Text.isDigit d = true
      · have hd : d ≠ '\n' := by
          rintro rfl
          exact absurd hdigit (by decide)
        simp [hdigit, Text.takeWhile_append_of_mem (hs.tail hd).mem (p := Text.isWord) (by decide)]
      · simp [hdigit]
    · simp [hdot]

theorem number?_le_length {c : Char} {cs : Text} {n : Nat} (h : number? c cs = some n) :
    n ≤ cs.length := by
  unfold number? at h
  split at h
  · obtain rfl := Option.some.inj h
    exact (List.takeWhile_prefix _).length_le
  · split at h
    · rename_i ds _
      split at h
      · obtain rfl := Option.some.inj h
        have := (List.takeWhile_prefix Text.isWord (l := ds)).length_le
        rw [List.length_cons]
        omega
      · cases h
    · cases h

theorem punctLength_append {c : Char} {cs : Text} (hs : cs.EndsInFeed) (t : Text) :
    punctLength c (cs ++ t) = punctLength c cs := by
  match cs, hs with
  | [d], hs =>
    obtain rfl : d = '\n' := by simpa [EndsInFeed] using hs
    simp [punctLength]
  | d :: e :: cs, _ =>
    simp only [List.cons_append]
    unfold punctLength
    split
    case h_4 => split <;> simp_all
    all_goals simp_all

theorem punctLength_le_length (c : Char) (cs : Text) : punctLength c cs ≤ cs.length := by
  unfold punctLength
  split <;> simp

/-! ## One lexeme -/

theorem lexeme_space (mayStart : Bool) {c : Char} (hc : Text.isSpace c = true) (cs : Text) :
    lexeme mayStart c cs = (.space, (cs.takeWhile Text.isSpace).length) := by
  have hslash : c ≠ '/' := by
    rintro rfl
    exact absurd hc (by decide)
  simp [lexeme, hslash, hc]

/-- What starts a string starts no comment. -/
theorem comment?_of_string? {c : Char} {cs : Text} {found : Shape × Nat}
    (h : string? c cs = some found) (ds : Text) : comment? c ds = none := by
  have hslash : c ≠ '/' := by
    rintro rfl
    cases h
  unfold comment?
  split
  · exact absurd rfl hslash
  · exact absurd rfl hslash
  · rfl

/-- A lexeme that does not start with white space is the same when more text follows its line. -/
theorem lexeme_append {mayStart : Bool} {c : Char} {cs : Text} (hc : Text.isSpace c = false)
    (hs : cs.EndsInFeed) (hb : ∀ fault, (lexeme mayStart c cs).1 ≠ .broken fault) (t : Text) :
    lexeme mayStart c (cs ++ t) = lexeme mayStart c cs := by
  unfold lexeme at hb ⊢
  rw [pattern?_append hs]
  split
  · rfl
  · rename_i hpattern
    simp only [hpattern, hc, Bool.false_eq_true, if_false] at hb ⊢
    cases hcomment : comment? c cs with
    | some n => rw [comment?_append_of_some hs hcomment]
    | none =>
      cases hstring : string? c cs with
      | some found => rw [comment?_of_string? hstring, string?_append_of_some hstring]
      | none =>
        rw [hcomment, hstring] at hb
        cases hopen : opensRegion c cs with
        | true =>
          rw [hopen] at hb
          exact absurd rfl (hb .unterminated)
        | false =>
          obtain ⟨hquote, hslash⟩ := Bool.or_eq_false_iff.mp hopen
          have hname := Text.takeWhile_append_of_mem hs.mem (p := isNamePart) (by decide) t
          have hnone : string? c (cs ++ t) = none := by simp [string?, hquote]
          rw [comment?_append_of_none hs hcomment hslash, hnone, opensRegion_append hs, hopen,
            hname, number?_append hs, punctLength_append hs]
          rfl

theorem lexeme_le_length (mayStart : Bool) (c : Char) (cs : Text) :
    (lexeme mayStart c cs).2 ≤ cs.length := by
  unfold lexeme
  split
  · rename_i hpattern
    split at hpattern
    · exact pattern?_le_length hpattern
    · cases hpattern
  · split
    · exact (List.takeWhile_prefix _).length_le
    · split
      · rename_i hcomment
        exact comment?_le_length hcomment
      · rename_i hstring
        exact string?_le_length hstring
      · split
        · exact Nat.le_refl _
        · split
          · exact (List.takeWhile_prefix _).length_le
          · split
            · rename_i hnumber
              exact number?_le_length hnumber
            · exact punctLength_le_length c cs

/-! ## Whole scripts -/

theorem lexemes_cons {mayStart : Bool} {c : Char} {cs : Text}
    (hb : ∀ fault, (lexeme mayStart c cs).1 ≠ .broken fault) :
    lexemes mayStart (c :: cs) =
      ⟨(lexeme mayStart c cs).1, c :: cs.take (lexeme mayStart c cs).2⟩ ::
        lexemes (mayStartAfter
            ⟨(lexeme mayStart c cs).1, c :: cs.take (lexeme mayStart c cs).2⟩ mayStart)
          (cs.drop (lexeme mayStart c cs).2) := by
  rw [lexemes]
  split
  · rename_i fault hshape
    exact absurd hshape (hb fault)
  · rfl

theorem cuts : Scan.Cuts lexemes lexeme (fun mayStart l => mayStartAfter l mayStart) where
  nil mayStart := by simp [lexemes]
  cons mayStart c cs hb := lexemes_cons hb
  broken mayStart c cs fault hb := by
    rw [lexemes]
    simp only [hb]
  within := lexeme_le_length

/-- Whether an expression may start behind the script. -/
def startsBehind (script : Text) : Bool :=
  (lexemes true script).foldl (fun mayStart l => mayStartAfter l mayStart) true

/-- The scan of a script goes apart at the end of a line. The second part is scanned from the
state in which the first one ends. -/
theorem scan_append {p : Text} (hp : p.WholeLines) {line : Int}
    (hb : (scan line p).broken = none) (q : Text) :
    scan line (p ++ q) = (scan line p).append
      (Scan.ofLexemes (line + Text.lineFeeds p) (lexemes (startsBehind p) q)) :=
  cuts.scan_append
    (fun hs hb q => cuts.front_append (fun _ cs hc => lexeme_space _ hc cs) (fun _ => rfl) hs
      fun hc hcs => lexeme_append hc hcs hb q) hp hb q

end MessageHarvest.Script
