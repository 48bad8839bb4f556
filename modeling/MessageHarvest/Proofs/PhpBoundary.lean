import MessageHarvest.Php.Lexer
import MessageHarvest.Proofs.ScanBoundary

/-! # PHP lexemes at the end of a line

Source that is cut at the end of a line, and scanned without breaking off, is
cut between lexemes: every lexeme but white space and inline text stops before
the line feed, and white space or inline text may only grow. So the scan of
two such parts is the scan of the first and then of the second
(`scan_append`), where the second starts inside or outside code as the first
one ended. -/
namespace MessageHarvest.Php

open Text (EndsInFeed WholeLines)

/-! ## Readers of one lexeme -/

theorem lineCommentLength_append {s : Text} (hs : s.EndsInFeed) (t : Text) :
    lineCommentLength (s ++ t) = lineCommentLength s := by
  fun_induction lineCommentLength s with
  | case1 => exact absurd rfl hs.ne_nil
  | case2 cs => rfl
  | case3 cs => rfl
  | case4 c cs hfeed hclose ih =>
    have hcs := hs.tail hfeed
    rw [List.cons_append, lineCommentLength.eq_def]
    split
    · simp_all
    · simp_all
    · rename_i heq
      cases cs with
      | nil => exact absurd rfl hcs.ne_nil
      | cons d cs =>
        simp only [List.cons_append, List.cons.injEq] at heq
        exact absurd (by rw [heq.2.1]) (hclose cs heq.1)
    · rename_i heq
      obtain ⟨_, rfl⟩ := List.cons.inj heq
      rw [ih hcs]

theorem lineCommentLength_le (s : Text) : lineCommentLength s ≤ s.length := by
  fun_induction lineCommentLength s <;> simp_all

theorem endsWord_append {s : Text} (hs : s ≠ []) (t : Text) :
    Text.endsWord (s ++ t) = Text.endsWord s := by
  cases s with
  | nil => exact absurd rfl hs
  | cons c s => rfl

theorem labelHere?_append {label s : Text} (hs : s.EndsInFeed) (hl : '\n' ∉ label) (t : Text) :
    labelHere? label (s ++ t) = labelHere? label s := by
  have hlt := Text.takeWhile_length_lt hs.mem (p := Text.isBlank) (by decide)
  have hrest := hs.drop hlt
  simp only [labelHere?]
  rw [Text.takeWhile_append_of_mem hs.mem (by decide), List.drop_append_of_le_length (by omega)]
  generalize s.drop (s.takeWhile Text.isBlank).length = rest at hrest
  rw [hrest.isPrefixOf_append hl]
  cases hp : label.isPrefixOf rest with
  | false => rfl
  | true =>
    -- the line feed at the end is left after the label
    obtain ⟨more, rfl⟩ := List.isPrefixOf_iff_prefix.mp hp
    have hmore : more ≠ [] := by
      rintro rfl
      exact hl (by simpa using hrest.mem)
    rw [List.append_assoc, List.drop_left, List.drop_left, endsWord_append hmore]

theorem closingLabel?_append {label s : Text} {atStart : Bool} {n : Nat} (hs : s.EndsInFeed)
    (hl : '\n' ∉ label) (h : closingLabel? label atStart s = some n) (t : Text) :
    closingLabel? label atStart (s ++ t) = some n := by
  induction s generalizing atStart n with
  | nil => cases h
  | cons c s ih =>
    rw [List.cons_append, closingLabel?, ← List.cons_append, labelHere?_append hs hl]
    rw [closingLabel?] at h
    split at h
    · exact h
    · obtain ⟨m, hm, rfl⟩ := Option.map_eq_some_iff.mp h
      have hne : s ≠ [] := by
        rintro rfl
        cases hm
      have hfeed : EndsInFeed s := (hs.drop (n := 1) (by
        rw [List.length_cons]
        have := List.length_pos_iff.mpr hne
        omega))
      rw [ih hfeed hm]
      rfl

theorem closingLabel?_le_length {label s : Text} {atStart : Bool} {n : Nat}
    (h : closingLabel? label atStart s = some n) : n ≤ s.length := by
  induction s generalizing atStart n with
  | nil => cases h
  | cons c s ih =>
    rw [closingLabel?] at h
    split at h
    · rename_i m heq
      obtain rfl := Option.some.inj h
      split at heq
      · simp only [labelHere?] at heq
        split at heq
        · rename_i hp
          obtain rfl := Option.some.inj heq
          have hlen := (List.isPrefixOf_iff_prefix.mp (Bool.and_eq_true_iff.mp hp).1).length_le
          rw [List.length_drop] at hlen
          have := (List.takeWhile_prefix Text.isBlank (l := c :: s)).length_le
          omega
        · cases heq
      · cases heq
    · obtain ⟨m, hm, rfl⟩ := Option.map_eq_some_iff.mp h
      have := ih hm
      rw [List.length_cons]
      omega

theorem dropQuote_append {s : Text} (hs : s ≠ []) (t : Text) :
    dropQuote (s ++ t) = dropQuote s ++ t := by
  cases s with
  | nil => exact absurd rfl hs
  | cons c s =>
    rw [List.cons_append, dropQuote, dropQuote]
    split <;> rfl

theorem EndsInFeed.dropQuote {s : Text} (hs : s.EndsInFeed) : EndsInFeed (dropQuote s) := by
  cases s with
  | nil => exact hs
  | cons c s =>
    rw [Php.dropQuote]
    split
    · rename_i hc
      refine hs.tail ?_
      rintro rfl
      exact absurd hc (by decide)
    · exact hs

theorem dropQuote_length_le (s : Text) : (dropQuote s).length ≤ s.length := by
  unfold dropQuote
  split
  · split <;> simp
  · simp

/-- The line break after the label of a heredoc, and what follows it. -/
def heredocBody? (s : Text) : Option Text :=
  match s with
  | '\n' :: body => some body
  | '\r' :: '\n' :: body => some body
  | _ => none

theorem heredocBody?_append {s body : Text} (h : heredocBody? s = some body) (t : Text) :
    heredocBody? (s ++ t) = some (body ++ t) := by
  unfold heredocBody? at h
  split at h
  · obtain rfl := Option.some.inj h
    rfl
  · obtain rfl := Option.some.inj h
    rfl
  · cases h

theorem heredocBody?_suffix {s body : Text} (h : heredocBody? s = some body) : body <:+ s := by
  unfold heredocBody? at h
  split at h
  · obtain rfl := Option.some.inj h
    exact ⟨['\n'], rfl⟩
  · obtain rfl := Option.some.inj h
    exact ⟨['\r', '\n'], rfl⟩
  · cases h

/-- A heredoc is its opening line, and a body that ends with the label. -/
theorem heredocLength?_eq_some {s : Text} {n : Nat} (h : heredocLength? s = some n) :
    ∃ c opened body m, dropQuote (s.dropWhile Text.isBlank) = c :: opened ∧
      Text.isNameStart c = true ∧
      heredocBody? (dropQuote ((c :: opened).drop ((c :: opened).takeWhile Text.isWord).length)) =
        some body ∧
      closingLabel? ((c :: opened).takeWhile Text.isWord) true body = some m ∧
      n = s.length - body.length + m := by
  simp only [heredocLength?] at h
  split at h
  · cases h
  · rename_i c opened hopened
    split at h
    · rename_i hc
      obtain ⟨body, hbody, h⟩ := Option.bind_eq_some_iff.mp h
      obtain ⟨m, hm, rfl⟩ := Option.map_eq_some_iff.mp h
      rw [hopened] at hbody hm
      exact ⟨c, opened, body, m, hopened, hc, hbody, hm, rfl⟩
    · cases h

theorem heredocLength?_of_parts {s body : Text} {c : Char} {opened : Text} {m : Nat}
    (hopened : dropQuote (s.dropWhile Text.isBlank) = c :: opened)
    (hc : Text.isNameStart c = true)
    (hbody : heredocBody?
      (dropQuote ((c :: opened).drop ((c :: opened).takeWhile Text.isWord).length)) = some body)
    (hm : closingLabel? ((c :: opened).takeWhile Text.isWord) true body = some m) :
    heredocLength? s = some (s.length - body.length + m) := by
  simp only [heredocLength?]
  rw [hopened]
  simp only [hc, if_true]
  change (heredocBody? _).bind _ = _
  rw [hbody, Option.bind_some, hm]
  rfl

theorem heredocLength?_append {s : Text} {n : Nat} (hs : s.EndsInFeed)
    (h : heredocLength? s = some n) (t : Text) : heredocLength? (s ++ t) = some n := by
  obtain ⟨c, opened, body, m, hopened, hc, hbody, hm, rfl⟩ := heredocLength?_eq_some h
  have hblank := hs.dropWhile (p := Text.isBlank) (by decide)
  have hfeed : EndsInFeed (c :: opened) := hopened ▸ EndsInFeed.dropQuote hblank
  have hlt := Text.takeWhile_length_lt hfeed.mem (p := Text.isWord) (by decide)
  have hafter := hfeed.drop hlt
  have hlabel : '\n' ∉ (c :: opened).takeWhile Text.isWord := fun hmem =>
    absurd (List.mem_takeWhile_imp hmem) (by decide)
  have hbodyFeed : body.EndsInFeed := by
    refine (EndsInFeed.dropQuote hafter).suffix (heredocBody?_suffix hbody) ?_
    rintro rfl
    cases hm
  have htake := Text.takeWhile_append_of_mem hfeed.mem (p := Text.isWord) (by decide) t
  rw [List.cons_append] at htake
  have hlen : (s ++ t).length - (body ++ t).length = s.length - body.length := by
    simp only [List.length_append]
    omega
  rw [← hlen]
  have hopened' : dropQuote ((s ++ t).dropWhile Text.isBlank) = c :: (opened ++ t) := by
    rw [Text.dropWhile_append_of_mem hs.mem (by decide), dropQuote_append hblank.ne_nil, hopened]
    rfl
  apply heredocLength?_of_parts hopened' hc
  · rw [htake, ← List.cons_append, List.drop_append_of_le_length (Nat.le_of_lt hlt),
      dropQuote_append hafter.ne_nil]
    exact heredocBody?_append hbody t
  · rw [htake]
    exact closingLabel?_append hbodyFeed hlabel hm t

theorem heredocLength?_le_length {s : Text} {n : Nat} (h : heredocLength? s = some n) :
    n ≤ s.length := by
  obtain ⟨c, opened, body, m, hopened, _, hbody, hm, rfl⟩ := heredocLength?_eq_some h
  have hm := closingLabel?_le_length hm
  have hbody := (heredocBody?_suffix hbody).length_le
  have hquote := dropQuote_length_le ((c :: opened).drop
    ((c :: opened).takeWhile Text.isWord).length)
  have hopened : (c :: opened).length ≤ s.length := by
    rw [← hopened]
    exact Nat.le_trans (dropQuote_length_le _) (List.dropWhile_suffix _).length_le
  rw [List.length_drop] at hquote
  omega

/-! ## Names and marks -/

theorem asciiLower_ne_php {s : Text} (h : '\n' ∈ s) : Text.asciiLower s ≠ "php".toList := by
  intro he
  have hmem : Char.toLower '\n' ∈ Text.asciiLower s := List.mem_map_of_mem h
  rw [he] at hmem
  exact absurd hmem (by decide)

theorem openTagLength_append {s : Text} (hs : s.EndsInFeed) (t : Text) :
    openTagLength (s ++ t) = openTagLength s := by
  unfold openTagLength
  rw [List.head?_append_of_ne_nil _ hs.ne_nil]
  by_cases hlen : 3 < s.length
  · rw [List.take_append_of_le_length (by omega), List.drop_append_of_le_length (by omega),
      endsWord_append (hs.drop hlen).ne_nil]
  · -- the line feed stands where the tag would go on
    have hshort : s.take 3 = s := List.take_of_length_le (by omega)
    have hmem : '\n' ∈ (s ++ t).take 3 := by
      rw [List.take_append, hshort]
      exact List.mem_append_left _ hs.mem
    rw [decide_eq_false (asciiLower_ne_php hmem),
      decide_eq_false (asciiLower_ne_php (hshort.symm ▸ hs.mem))]
    rfl

theorem openTagLength_le_length (s : Text) : openTagLength s ≤ s.length := by
  unfold openTagLength
  split
  · rename_i h
    have h := congrArg List.length (of_decide_eq_true (Bool.and_eq_true_iff.mp h).1)
    simp [Text.asciiLower] at h
    omega
  · split
    · cases s <;> simp_all
    · omega

theorem ne_feed_of_isNameStart {c : Char} (h : Text.isNameStart c = true) : c ≠ '\n' := by
  rintro rfl
  exact absurd h (by decide)

theorem segmentsLength_append {s : Text} (hs : s.EndsInFeed) (t : Text) :
    segmentsLength (s ++ t) = segmentsLength s := by
  fun_induction segmentsLength s with
  | case1 c cs hc n ih =>
    have hcs := (hs.tail (by decide)).tail (ne_feed_of_isNameStart hc)
    have hlt := Text.takeWhile_length_lt hcs.mem (p := Text.isWord) (by decide)
    rw [List.cons_append, List.cons_append, segmentsLength, if_pos hc]
    simp only [Text.takeWhile_append_of_mem hcs.mem (p := Text.isWord) (by decide)]
    rw [List.drop_append_of_le_length (Nat.le_of_lt hlt), ih (hcs.drop hlt)]
  | case2 c cs hc =>
    rw [List.cons_append, List.cons_append, segmentsLength, if_neg hc]
  | case3 s hno =>
    rw [segmentsLength.eq_def]
    split
    · rename_i c cs heq
      match s, hs, hno, heq with
      | [d], hs, _, heq =>
        obtain ⟨rfl, _⟩ := List.cons.inj heq
        exact absurd hs (by simp [EndsInFeed])
      | d :: e :: s, _, hno, heq =>
        obtain ⟨rfl, _⟩ := List.cons.inj heq
        exact absurd rfl (hno e s)
    · rfl

theorem segmentsLength_le_length (s : Text) : segmentsLength s ≤ s.length := by
  fun_induction segmentsLength s with
  | case1 c cs hc n ih =>
    have := (List.takeWhile_prefix Text.isWord (l := cs)).length_le
    rw [List.length_drop] at ih
    simp only [List.length_cons]
    omega
  | case2 => omega
  | case3 => omega

theorem nameLength_append {s : Text} (hs : s.EndsInFeed) (t : Text) :
    nameLength (s ++ t) = nameLength s := by
  have hlt := Text.takeWhile_length_lt hs.mem (p := Text.isWord) (by decide)
  simp only [nameLength, Text.takeWhile_append_of_mem hs.mem (p := Text.isWord) (by decide)]
  rw [List.drop_append_of_le_length (Nat.le_of_lt hlt), segmentsLength_append (hs.drop hlt)]

theorem nameLength_le_length (s : Text) : nameLength s ≤ s.length := by
  have hword := (List.takeWhile_prefix Text.isWord (l := s)).length_le
  have hrest := segmentsLength_le_length (s.drop (s.takeWhile Text.isWord).length)
  rw [List.length_drop] at hrest
  simp only [nameLength]
  omega

theorem punctLength_append {c : Char} {cs : Text} (hs : cs.EndsInFeed) (t : Text) :
    punctLength c (cs ++ t) = punctLength c cs := by
  match cs, hs with
  | [d], hs =>
    obtain rfl : d = '\n' := by simpa [EndsInFeed] using hs
    simp [punctLength]
  | d :: e :: cs, _ =>
    simp only [List.cons_append]
    unfold punctLength
    split
    case h_6 => split <;> simp_all
    all_goals simp_all

theorem punctLength_le_length (c : Char) (cs : Text) : punctLength c cs ≤ cs.length := by
  unfold punctLength
  split <;> simp

theorem varName?_append {c : Char} {cs : Text} (hs : cs.EndsInFeed) (t : Text) :
    varName? c (cs ++ t) = varName? c cs := by
  have hlt := Text.takeWhile_length_lt hs.mem (p := (· = '$')) (by decide)
  have hrest := hs.drop hlt
  simp only [varName?, Text.takeWhile_append_of_mem hs.mem (p := (· = '$')) (by decide)]
  rw [List.drop_append_of_le_length (Nat.le_of_lt hlt)]
  split
  · cases hd : cs.drop (cs.takeWhile (· = '$')).length with
    | nil => exact absurd hd hrest.ne_nil
    | cons d ds =>
      simp only [List.cons_append]
      split
      · rename_i hname
        rw [hd] at hrest
        rw [Text.takeWhile_append_of_mem (hrest.tail (ne_feed_of_isNameStart hname)).mem
          (by decide)]
      · rfl
  · rfl

theorem varName?_le_length {c : Char} {cs : Text} {n : Nat} (h : varName? c cs = some n) :
    n ≤ cs.length := by
  simp only [varName?] at h
  split at h
  · split at h
    · rename_i d ds hd
      split at h
      · obtain rfl := Option.some.inj h
        have hlen := congrArg List.length hd
        rw [List.length_drop, List.length_cons] at hlen
        have := (List.takeWhile_prefix Text.isWord (l := ds)).length_le
        omega
      · cases h
    · cases h
  · cases h

theorem name?_append {c : Char} {cs : Text} (hs : cs.EndsInFeed) (t : Text) :
    name? c (cs ++ t) = name? c cs := by
  unfold name?
  rw [nameLength_append hs]
  split
  · rfl
  · split
    · cases cs with
      | nil => exact absurd rfl hs.ne_nil
      | cons d ds =>
        simp only [List.cons_append]
        split
        · rename_i hname
          rw [nameLength_append (hs.tail (ne_feed_of_isNameStart hname))]
        · rfl
    · rfl

theorem name?_le_length {c : Char} {cs : Text} {n : Nat} (h : name? c cs = some n) :
    n ≤ cs.length := by
  unfold name? at h
  split at h
  · obtain rfl := Option.some.inj h
    exact nameLength_le_length cs
  · split at h
    · split at h
      · rename_i d ds
        split at h
        · obtain rfl := Option.some.inj h
          have := nameLength_le_length ds
          rw [List.length_cons]
          omega
        · cases h
      · cases h
    · cases h

/-! ## Comments and strings -/

theorem comment?_hash {d : Char} (hd : d ≠ '[') (ds : Text) :
    comment? '#' (d :: ds) = some (lineCommentLength (d :: ds)) := by
  unfold comment?
  split <;> simp_all

theorem comment?_append_of_some {c : Char} {cs : Text} {n : Nat} (hs : cs.EndsInFeed)
    (h : comment? c cs = some n) (t : Text) : comment? c (cs ++ t) = some n := by
  unfold comment? at h
  split at h
  · rename_i cs
    rw [List.cons_append, comment?, lineCommentLength_append (hs.tail (by decide))]
    exact h
  · rename_i cs
    obtain ⟨m, hm, rfl⟩ := Option.map_eq_some_iff.mp h
    rw [List.cons_append, comment?, Text.closingComment?_append_of_some hm]
    rfl
  · cases h
  · rename_i hno
    cases cs with
    | nil => exact absurd rfl hs.ne_nil
    | cons d ds =>
      have hd : d ≠ '[' := fun hd => hno ds (by rw [hd])
      rw [List.cons_append, comment?_hash hd, ← List.cons_append, lineCommentLength_append hs]
      exact h
  · cases h

/-- Where no comment starts, none starts when more text follows, unless one is left open. -/
theorem comment?_append_of_none {c : Char} {cs : Text} (hs : cs.EndsInFeed)
    (h : comment? c cs = none) (hopen : (c = '/' && cs.head? = some '*') = false) (t : Text) :
    comment? c (cs ++ t) = none := by
  cases cs with
  | nil => exact absurd rfl hs.ne_nil
  | cons d ds =>
    rw [List.cons_append]
    unfold comment?
    split
    · simp_all [comment?]
    · simp_all
    · rfl
    · rename_i hno
      have hd : d ≠ '[' := fun hd => hno (ds ++ t) (by rw [hd])
      rw [comment?_hash hd] at h
      cases h
    · rfl

theorem comment?_le_length {c : Char} {cs : Text} {n : Nat} (h : comment? c cs = some n) :
    n ≤ cs.length := by
  unfold comment? at h
  split at h
  · rename_i cs
    obtain rfl := Option.some.inj h
    have := lineCommentLength_le cs
    rw [List.length_cons]
    omega
  · rename_i cs
    obtain ⟨m, hm, rfl⟩ := Option.map_eq_some_iff.mp h
    have := Text.closingComment?_le_length hm
    rw [List.length_cons]
    omega
  · cases h
  · obtain rfl := Option.some.inj h
    exact lineCommentLength_le _
  · cases h

theorem opensRegion_append {c : Char} {cs : Text} (hs : cs.EndsInFeed) (t : Text) :
    opensRegion c (cs ++ t) = opensRegion c cs := by
  unfold opensRegion
  rw [List.head?_append_of_ne_nil _ hs.ne_nil, hs.isPrefixOf_append (by decide)]

/-- A string is a quote and what follows up to its closing quote, or a heredoc. -/
theorem string?_cases {c : Char} {cs : Text} {found : Shape × Nat}
    (h : string? c cs = some found) :
    (c = '\'' ∧ ∃ n, Text.closingQuote? c false cs = some n ∧
      found = (.token (.literal (decodeSingle (c :: cs.take n))), n)) ∨
    (c = '"' ∧ ∃ n, Text.closingQuote? c false cs = some n ∧
      found = (doubleShape (c :: cs.take n), n)) ∨
    (c = '\x60' ∧ ∃ n, Text.closingQuote? c false cs = some n ∧
      found = (.token .interpolated, n)) ∨
    (c = '<' ∧ ∃ ds n, cs = '<' :: '<' :: ds ∧ heredocLength? ds = some n ∧
      found = (.token .interpolated, n + 2)) := by
  unfold string? at h
  split at h
  · obtain ⟨n, hn, rfl⟩ := Option.map_eq_some_iff.mp h
    exact .inl ⟨rfl, n, hn, rfl⟩
  · obtain ⟨n, hn, rfl⟩ := Option.map_eq_some_iff.mp h
    exact .inr (.inl ⟨rfl, n, hn, rfl⟩)
  · obtain ⟨n, hn, rfl⟩ := Option.map_eq_some_iff.mp h
    exact .inr (.inr (.inl ⟨rfl, n, hn, rfl⟩))
  · split at h
    · rename_i ds
      obtain ⟨n, hn, rfl⟩ := Option.map_eq_some_iff.mp h
      exact .inr (.inr (.inr ⟨rfl, ds, n, rfl, hn, rfl⟩))
    · cases h
  · cases h

theorem string?_append_of_some {c : Char} {cs : Text} {found : Shape × Nat}
    (hs : cs.EndsInFeed) (h : string? c cs = some found) (t : Text) :
    string? c (cs ++ t) = some found := by
  rcases string?_cases h with ⟨rfl, n, hn, rfl⟩ | ⟨rfl, n, hn, rfl⟩ | ⟨rfl, n, hn, rfl⟩ |
    ⟨rfl, ds, n, rfl, hn, rfl⟩
  · have hle := Text.closingQuote?_le_length hn
    simp [string?, Text.closingQuote?_append_of_some (by decide) hn,
      List.take_append_of_le_length hle]
  · have hle := Text.closingQuote?_le_length hn
    simp [string?, Text.closingQuote?_append_of_some (by decide) hn,
      List.take_append_of_le_length hle]
  · simp [string?, Text.closingQuote?_append_of_some (by decide) hn]
  · have hds := (hs.tail (by decide)).tail (by decide)
    simp [string?, heredocLength?_append hds hn]

theorem string?_le_length {c : Char} {cs : Text} {found : Shape × Nat}
    (h : string? c cs = some found) : found.2 ≤ cs.length := by
  rcases string?_cases h with ⟨rfl, n, hn, rfl⟩ | ⟨rfl, n, hn, rfl⟩ | ⟨rfl, n, hn, rfl⟩ |
    ⟨rfl, ds, n, rfl, hn, rfl⟩
  · exact Text.closingQuote?_le_length hn
  · exact Text.closingQuote?_le_length hn
  · exact Text.closingQuote?_le_length hn
  · have := heredocLength?_le_length hn
    simp only [List.length_cons]
    omega

/-- Where no region opens, there is no string, whatever follows. -/
theorem string?_of_not_opensRegion {c : Char} {cs : Text} (h : opensRegion c cs = false) :
    string? c cs = none := by
  simp only [opensRegion, Bool.or_eq_false_iff, decide_eq_false_iff_not] at h
  obtain ⟨⟨⟨⟨h1, h2⟩, h3⟩, _⟩, h4⟩ := h
  unfold string?
  split
  · exact absurd rfl h1
  · exact absurd rfl h2
  · exact absurd rfl h3
  · split
    · simp at h4
    · rfl
  · rfl

/-- What starts a string starts no comment. -/
theorem comment?_of_string? {c : Char} {cs : Text} {found : Shape × Nat}
    (h : string? c cs = some found) (ds : Text) : comment? c ds = none := by
  rcases string?_cases h with ⟨rfl, _⟩ | ⟨rfl, _⟩ | ⟨rfl, _⟩ | ⟨rfl, _⟩ <;> rfl

/-! ## One lexeme -/

/-- A lexeme that does not start with white space is the same when more text follows its line. -/
theorem lexeme_append {c : Char} {cs : Text} (hc : Text.isSpace c = false) (hs : cs.EndsInFeed)
    (hb : ∀ fault, (lexeme c cs).1 ≠ .broken fault) (t : Text) :
    lexeme c (cs ++ t) = lexeme c cs := by
  unfold lexeme at hb ⊢
  rw [List.head?_append_of_ne_nil _ hs.ne_nil]
  split
  · rename_i hclose
    cases cs with
    | nil => exact absurd rfl hs.ne_nil
    | cons d ds =>
      -- a close tag takes the line feed along that stands right after it
      have hd : d = '>' := by simpa using (Bool.and_eq_true_iff.mp hclose).2
      have hds : EndsInFeed ds := hs.tail (by rw [hd]; decide)
      simp only [List.cons_append, List.drop_succ_cons, List.drop_zero,
        List.head?_append_of_ne_nil _ hds.ne_nil]
  · rename_i hclose
    simp only [hclose, hc, Bool.false_eq_true, if_false] at hb ⊢
    cases hcomment : comment? c cs with
    | some n => rw [comment?_append_of_some hs hcomment]
    | none =>
      cases hstring : string? c cs with
      | some found =>
        rw [comment?_of_string? hstring, string?_append_of_some hs hstring]
      | none =>
        rw [hcomment, hstring] at hb
        cases hopen : opensRegion c cs with
        | true =>
          rw [hopen] at hb
          exact absurd rfl (hb .unterminated)
        | false =>
          have hslash : (c = '/' && cs.head? = some '*') = false := by
            simp only [opensRegion, Bool.or_eq_false_iff] at hopen
            exact hopen.1.2
          have hopen' := (opensRegion_append hs t).trans hopen
          have hnumber := Text.takeWhile_append_of_mem hs.mem
            (p := fun d => Text.isWord d || d = '.') (by decide) t
          rw [comment?_append_of_none hs hcomment hslash, string?_of_not_opensRegion hopen',
            hopen', varName?_append hs, name?_append hs, hnumber, punctLength_append hs]
          rfl

theorem lexeme_space {c : Char} (hc : Text.isSpace c = true) (cs : Text) :
    lexeme c cs = (.space, (cs.takeWhile Text.isSpace).length) := by
  have hclose : c ≠ '?' := by
    rintro rfl
    exact absurd hc (by decide)
  simp [lexeme, hclose, hc]

/-- A lexeme lies in the text, unless it is broken off. -/
theorem lexeme_le_length (c : Char) (cs : Text) : (lexeme c cs).2 ≤ cs.length := by
  unfold lexeme
  split
  · rename_i hclose
    cases cs with
    | nil => simp at hclose
    | cons d ds =>
      simp only [List.drop_succ_cons, List.drop_zero, List.length_cons]
      split
      · cases ds <;> simp_all
      · omega
  · split
    · exact (List.takeWhile_prefix _).length_le
    · split
      · rename_i hcomment
        exact comment?_le_length hcomment
      · rename_i hstring
        exact string?_le_length hstring
      · split
        · exact Nat.le_refl _
        · split
          · rename_i hvar
            exact varName?_le_length hvar
          · rename_i hname
            exact name?_le_length hname
          · split
            · exact (List.takeWhile_prefix _).length_le
            · exact punctLength_le_length c cs

theorem doubleShape_ne_markup (s : Text) : doubleShape s ≠ .markup := by
  unfold doubleShape
  split <;> simp

theorem lexeme_ne_markup (c : Char) (cs : Text) : (lexeme c cs).1 ≠ .markup := by
  unfold lexeme
  split
  · simp
  · split
    · simp
    · split
      · simp
      · rename_i hstring
        rcases string?_cases hstring with ⟨_, n, _, rfl⟩ | ⟨_, n, _, rfl⟩ | ⟨_, n, _, rfl⟩ |
          ⟨_, ds, n, _, _, rfl⟩
        · simp
        · exact doubleShape_ne_markup _
        · simp
        · simp
      · split
        · simp
        · split
          · simp
          · simp
          · split <;> simp

/-! ## Whole sources -/

/-- After the lexeme the scan is inside code. Inline text ends there only if it has an open tag. -/
def leavesInCode (l : Lexeme) : Bool :=
  match l.shape with
  | .close => false
  | .markup => Text.occurs "<?".toList l.text
  | _ => true

/-- The lexeme in front, inside or outside code. -/
def front : Bool → Char → Text → Shape × Nat
  | true, c, cs => lexeme c cs
  | false, c, cs => (.markup, markupLength (c :: cs) - 1)

theorem lexemes_nil (inCode : Bool) : lexemes inCode [] = [] := by
  cases inCode <;> simp [lexemes]

theorem leavesInCode_lexeme (c : Char) (cs text : Text) :
    leavesInCode ⟨(lexeme c cs).1, text⟩ = ((lexeme c cs).1 != .close) := by
  have hne := lexeme_ne_markup c cs
  unfold leavesInCode
  cases hshape : (lexeme c cs).1 <;> simp_all

theorem lexemes_cons {c : Char} {cs : Text} (hb : ∀ fault, (lexeme c cs).1 ≠ .broken fault) :
    lexemes true (c :: cs) = ⟨(lexeme c cs).1, c :: cs.take (lexeme c cs).2⟩ ::
      lexemes (leavesInCode ⟨(lexeme c cs).1, c :: cs.take (lexeme c cs).2⟩)
        (cs.drop (lexeme c cs).2) := by
  rw [leavesInCode_lexeme, lexemes]
  split
  · rename_i fault hshape
    exact absurd hshape (hb fault)
  · rfl

theorem lexemes_broken {c : Char} {cs : Text} {fault : Fault}
    (hb : (lexeme c cs).1 = .broken fault) :
    lexemes true (c :: cs) = [⟨.broken fault, c :: cs⟩] := by
  rw [lexemes]
  simp only [hb]

theorem markupLength_pos (c : Char) (cs : Text) : 0 < markupLength (c :: cs) := by
  unfold markupLength
  split
  · omega
  · exact Nat.succ_pos _

theorem markupLength_le_length (s : Text) : markupLength s ≤ s.length := by
  unfold markupLength
  split
  · rename_i n h
    have hlen : n + 2 ≤ s.length := Text.position?_add_length_le h
    have htag := openTagLength_le_length (s.drop (n + 2))
    rw [List.length_drop] at htag
    omega
  · exact Nat.le_refl _

theorem take_markupLength (c : Char) (cs : Text) :
    (c :: cs).take (markupLength (c :: cs)) = c :: cs.take (markupLength (c :: cs) - 1) := by
  rw [← List.take_succ_cons, Nat.sub_add_cancel (markupLength_pos c cs)]

theorem drop_markupLength (c : Char) (cs : Text) :
    (c :: cs).drop (markupLength (c :: cs)) = cs.drop (markupLength (c :: cs) - 1) := by
  obtain ⟨n, hn⟩ := Nat.exists_eq_add_of_lt (markupLength_pos c cs)
  rw [hn, Nat.zero_add, List.drop_succ_cons, Nat.add_sub_cancel]

/-- Inline text with an open tag ends inside code. -/
theorem leavesInCode_markup {s : Text} {n : Nat} (h : Text.position? "<?".toList s = some n) :
    leavesInCode ⟨.markup, s.take (markupLength s)⟩ = true := by
  have hle : n + 2 ≤ markupLength s := by
    simp only [markupLength, h]
    omega
  simp only [leavesInCode, Text.occurs]
  rw [Text.position?_take h hle]
  rfl

theorem leavesInCode_inline {s : Text} (h : Text.position? "<?".toList s = none) :
    leavesInCode ⟨.markup, s⟩ = false := by
  simp only [leavesInCode, Text.occurs, h, Option.isSome_none]

theorem lexemes_markup (c : Char) (cs : Text) :
    lexemes false (c :: cs) = ⟨.markup, c :: cs.take (markupLength (c :: cs) - 1)⟩ ::
      lexemes (leavesInCode ⟨.markup, c :: cs.take (markupLength (c :: cs) - 1)⟩)
        (cs.drop (markupLength (c :: cs) - 1)) := by
  rw [lexemes, ← take_markupLength, ← drop_markupLength]
  cases h : Text.position? "<?".toList (c :: cs) with
  | some n => rw [leavesInCode_markup h]
  | none =>
    have hlen : markupLength (c :: cs) = (c :: cs).length := by simp only [markupLength, h]
    rw [hlen, List.drop_length, lexemes_nil, lexemes_nil]

theorem cuts : Scan.Cuts lexemes front (fun _ l => leavesInCode l) where
  nil := lexemes_nil
  cons inCode c cs hb := by
    cases inCode with
    | true => exact lexemes_cons hb
    | false => exact lexemes_markup c cs
  broken inCode c cs fault hb := by
    cases inCode with
    | true => exact lexemes_broken hb
    | false => cases hb
  within inCode c cs := by
    cases inCode with
    | true => exact lexeme_le_length c cs
    | false =>
      have := markupLength_le_length (c :: cs)
      simp only [front, List.length_cons] at this ⊢
      omega

/-- What follows an open tag in whole lines is made of whole lines, and is not empty. -/
theorem endsInFeed_after_open {p : Text} {n : Nat} (hp : p.EndsInFeed)
    (h : Text.position? "<?".toList p = some n) : EndsInFeed (p.drop (n + 2)) := by
  obtain ⟨r, hr⟩ := Text.prefix_drop_of_position? h
  have hlen := Text.position?_add_length_le h
  have hfeed : EndsInFeed ("<?".toList ++ r) := by
    rw [hr]
    exact hp.drop (by simp at hlen; omega)
  have hrest : EndsInFeed r := (EndsInFeed.tail hfeed (by decide)).tail (by decide)
  rw [← List.drop_drop, ← hr]
  exact hrest

theorem markupLength_append_of_some {p : Text} {n : Nat} (hp : p.EndsInFeed)
    (h : Text.position? "<?".toList p = some n) (q : Text) :
    markupLength (p ++ q) = markupLength p := by
  have hlen : n + 2 ≤ p.length := Text.position?_add_length_le h
  simp only [markupLength, h, Text.position?_append_of_some h]
  rw [List.drop_append_of_le_length hlen, openTagLength_append (endsInFeed_after_open hp h)]

theorem markupLength_append_of_none {p : Text} (hp : p.WholeLines)
    (h : Text.position? "<?".toList p = none) (q : Text) :
    markupLength (p ++ q) = p.length + markupLength q := by
  have hq := Text.position?_append_of_none (by decide) hp h q
  unfold markupLength
  cases hn : Text.position? "<?".toList q with
  | none =>
    rw [hn] at hq
    simp only [hq, Option.map_none, List.length_append]
  | some n =>
    rw [hn] at hq
    simp only [hq, Option.map_some]
    rw [show n + p.length + 2 = p.length + (n + 2) by omega, List.drop_append,
      List.drop_eq_nil_of_le (by omega)]
    simp only [List.nil_append, Nat.add_sub_cancel_left]
    omega

theorem scan_nil (inCode : Bool) (line : Int) : scan inCode line [] = ⟨[], none⟩ := by
  rw [scan, lexemes_nil]
  rfl

theorem scan_markup (line : Int) (s : Text) : scan false line s =
    scan true (line + Text.lineFeeds (s.take (markupLength s))) (s.drop (markupLength s)) := by
  cases s with
  | nil => simp [scan_nil]
  | cons c cs =>
    rw [scan, lexemes, take_markupLength, drop_markupLength]
    exact Scan.ofLexemes_cons (by simp) line _

/-- Inline text without an open tag runs on. -/
theorem runsOn_inline {p : Text} (hp : p.WholeLines)
    (h : Text.position? "<?".toList p = none) (q : Text) :
    Scan.RunsOn lexemes (fun _ l => leavesInCode l) false p q := by
  have hscan : ∀ line t, scan false line (p ++ t) = scan false (line + Text.lineFeeds p) t := by
    intro line t
    rw [scan_markup, scan_markup (line + Text.lineFeeds p) t, markupLength_append_of_none hp h,
      List.take_length_add_append, List.drop_length_add_append, Text.lineFeeds_append,
      Int.natCast_add, Int.add_assoc]
  refine ⟨fun line => ?_, ?_, fun line => hscan line q⟩
  · have := hscan line []
    rwa [List.append_nil, scan_nil] at this
  · cases p with
    | nil => rw [lexemes_nil]; rfl
    | cons c cs =>
      have hlen : markupLength (c :: cs) = (c :: cs).length := by simp only [markupLength, h]
      rw [lexemes_markup, ← take_markupLength, ← drop_markupLength, hlen, List.take_length,
        List.drop_length, lexemes_nil]
      exact leavesInCode_inline h

theorem front_append {inCode : Bool} {c : Char} {cs : Text} (hs : EndsInFeed (c :: cs))
    (hb : ∀ fault, (front inCode c cs).1 ≠ .broken fault) (q : Text) :
    front inCode c (cs ++ q) = front inCode c cs ∨
      Scan.RunsOn lexemes (fun _ l => leavesInCode l) inCode (c :: cs) q := by
  cases inCode with
  | false =>
    cases h : Text.position? "<?".toList (c :: cs) with
    | none => exact .inr (runsOn_inline (.inr hs) h q)
    | some n =>
      have hlen := markupLength_append_of_some hs h q
      exact .inl (by rw [front, front, ← List.cons_append, hlen])
  | true =>
    exact cuts.front_append (s := true) (fun _ cs hc => lexeme_space hc cs) (fun _ => rfl) hs
      fun hc hcs => lexeme_append hc hcs hb q

/-- The scan is inside code after the source, if it starts so. -/
def endsInCode (inCode : Bool) (source : Text) : Bool :=
  (lexemes inCode source).foldl (fun _ l => leavesInCode l) inCode

/-- The scan of a source goes apart at the end of a line. -/
theorem scan_append {inCode : Bool} {p : Text} (hp : p.WholeLines) {line : Int}
    (hb : (scan inCode line p).broken = none) (q : Text) :
    scan inCode line (p ++ q) = (scan inCode line p).append
      (scan (endsInCode inCode p) (line + Text.lineFeeds p) q) :=
  cuts.scan_append front_append hp hb q

end MessageHarvest.Php
