import MessageHarvest.Token.Lexeme
import Mathlib.Data.List.Basic
import Mathlib.Data.List.TakeWhile

/-! # Reading up to the end of a line

A reader that has met a line feed is not concerned with what follows it, and
one that has found the end of a string or of a comment never looks beyond.
Each lemma here says so of one reader that the lexers share: what it finds in
a text that ends in a line feed, it finds as well when more text follows. -/
namespace MessageHarvest.Text

/-- The last character of the text is a line feed. -/
def EndsInFeed (s : Text) : Prop := s.getLast? = some '\n'

/-- The text is empty or ends in a line feed, so it is made of whole lines. -/
def WholeLines (s : Text) : Prop := s = [] ∨ s.EndsInFeed

instance (s : Text) : Decidable s.EndsInFeed :=
  inferInstanceAs (Decidable (s.getLast? = some '\n'))

instance (s : Text) : Decidable s.WholeLines :=
  inferInstanceAs (Decidable (s = [] ∨ s.EndsInFeed))

theorem EndsInFeed.ne_nil {s : Text} (h : s.EndsInFeed) : s ≠ [] := by
  rintro rfl
  cases h

theorem EndsInFeed.mem {s : Text} (h : s.EndsInFeed) : '\n' ∈ s := List.mem_of_getLast? h

theorem EndsInFeed.suffix {s t : Text} (h : s.EndsInFeed) (ht : t <:+ s) (hne : t ≠ []) :
    t.EndsInFeed := by
  obtain ⟨before, rfl⟩ := ht
  unfold EndsInFeed at h ⊢
  rwa [List.getLast?_append_of_ne_nil before hne] at h

theorem EndsInFeed.tail {c : Char} {cs : Text} (h : EndsInFeed (c :: cs)) (hc : c ≠ '\n') :
    EndsInFeed cs := by
  refine h.suffix (List.suffix_cons c cs) ?_
  rintro rfl
  exact hc (by simpa [EndsInFeed] using h)

theorem EndsInFeed.drop {s : Text} {n : Nat} (h : s.EndsInFeed) (hn : n < s.length) :
    EndsInFeed (s.drop n) := by
  refine h.suffix (List.drop_suffix n s) fun hnil => ?_
  have := List.drop_eq_nil_iff.mp hnil
  omega

theorem EndsInFeed.dropWhile {p : Char → Bool} {s : Text} (h : s.EndsInFeed)
    (hp : p '\n' = false) : EndsInFeed (s.dropWhile p) := by
  refine h.suffix (List.dropWhile_suffix p) fun hnil => ?_
  have := List.dropWhile_eq_nil_iff.mp hnil '\n' h.mem
  rw [hp] at this
  cases this

theorem WholeLines.drop {s : Text} (h : s.WholeLines) (n : Nat) : WholeLines (s.drop n) := by
  rcases h with rfl | h
  · exact .inl (by simp)
  · by_cases hn : n < s.length
    · exact .inr (h.drop hn)
    · exact .inl (List.drop_eq_nil_of_le (by omega))

theorem takeWhile_append_of_mem {p : Char → Bool} {s : Text} {c : Char} (hc : c ∈ s)
    (hp : p c = false) (t : Text) : (s ++ t).takeWhile p = s.takeWhile p := by
  induction s with
  | nil => cases hc
  | cons d s ih =>
    rw [List.cons_append, List.takeWhile_cons, List.takeWhile_cons]
    cases hd : p d with
    | false => rfl
    | true =>
      rcases List.mem_cons.mp hc with rfl | hc
      · rw [hp] at hd; cases hd
      · rw [ih hc]

theorem dropWhile_append_of_mem {p : Char → Bool} {s : Text} {c : Char} (hc : c ∈ s)
    (hp : p c = false) (t : Text) : (s ++ t).dropWhile p = s.dropWhile p ++ t := by
  rw [List.dropWhile_append, if_neg]
  intro hnil
  have := List.dropWhile_eq_nil_iff.mp (List.isEmpty_iff.mp hnil) c hc
  rw [hp] at this
  cases this

theorem takeWhile_length_lt {p : Char → Bool} {s : Text} {c : Char} (hc : c ∈ s)
    (hp : p c = false) : (s.takeWhile p).length < s.length := by
  induction s with
  | nil => cases hc
  | cons d s ih =>
    rw [List.takeWhile_cons]
    split
    · rename_i hd
      rcases List.mem_cons.mp hc with rfl | hc
      · rw [hp] at hd; cases hd
      · simpa using ih hc
    · simp

theorem take_length_takeWhile (p : Char → Bool) (s : Text) :
    s.take (s.takeWhile p).length = s.takeWhile p :=
  (List.prefix_iff_eq_take.mp (List.takeWhile_prefix p)).symm

theorem drop_length_takeWhile (p : Char → Bool) (s : Text) :
    s.drop (s.takeWhile p).length = s.dropWhile p := by
  have h : (s.takeWhile p ++ s.dropWhile p).drop (s.takeWhile p).length = s.dropWhile p :=
    List.drop_left
  rwa [List.takeWhile_append_dropWhile] at h

theorem position?_cons (word : Text) (c : Char) (s : Text) : position? word (c :: s) =
    if word.isPrefixOf (c :: s) then some 0 else (position? word s).map (· + 1) := rfl

/-- The word found fits into the text. -/
theorem position?_add_length_le {word s : Text} {n : Nat} (h : position? word s = some n) :
    n + word.length ≤ s.length := by
  induction s generalizing n with
  | nil =>
    unfold position? at h
    split at h
    · rename_i hw
      obtain rfl := Option.some.inj h
      simp [List.isEmpty_iff.mp hw]
    · cases h
  | cons c s ih =>
    rw [position?_cons] at h
    split at h
    · rename_i hp
      obtain rfl := Option.some.inj h
      have := (List.isPrefixOf_iff_prefix.mp hp).length_le
      omega
    · obtain ⟨m, hm, rfl⟩ := Option.map_eq_some_iff.mp h
      have := ih hm
      rw [List.length_cons]
      omega

/-- The word stands where it is found. -/
theorem prefix_drop_of_position? {word s : Text} {n : Nat} (h : position? word s = some n) :
    word <+: s.drop n := by
  induction s generalizing n with
  | nil =>
    unfold position? at h
    split at h
    · rename_i hw
      simp [List.isEmpty_iff.mp hw]
    · cases h
  | cons c s ih =>
    rw [position?_cons] at h
    split at h
    · rename_i hp
      obtain rfl := Option.some.inj h
      exact List.isPrefixOf_iff_prefix.mp hp
    · obtain ⟨m, hm, rfl⟩ := Option.map_eq_some_iff.mp h
      exact ih hm

theorem isPrefixOf_append_of_length_le {word s : Text} (h : word.length ≤ s.length) (t : Text) :
    word.isPrefixOf (s ++ t) = word.isPrefixOf s := by
  rw [Bool.eq_iff_iff, List.isPrefixOf_iff_prefix, List.isPrefixOf_iff_prefix]
  constructor
  · intro hp
    exact List.prefix_of_prefix_length_le hp (List.prefix_append s t) h
  · intro hp
    exact hp.trans (List.prefix_append s t)

/-- A word without line feed that starts in lines does not reach beyond their end. -/
theorem EndsInFeed.isPrefixOf_append {word s : Text} (hs : s.EndsInFeed) (hw : '\n' ∉ word)
    (t : Text) : word.isPrefixOf (s ++ t) = word.isPrefixOf s := by
  by_cases hlen : word.length ≤ s.length
  · exact isPrefixOf_append_of_length_le hlen t
  · have hlong : ∀ u, s <+: u → ¬ word <+: u := by
      intro u hu hp
      have hsub := List.prefix_of_prefix_length_le hu hp (by omega)
      exact hw (hsub.subset hs.mem)
    rw [Bool.eq_iff_iff, List.isPrefixOf_iff_prefix, List.isPrefixOf_iff_prefix]
    exact ⟨fun hp => absurd hp (hlong _ (List.prefix_append s t)),
      fun hp => absurd hp (hlong _ (List.prefix_refl s))⟩

theorem position?_append_of_some {word s : Text} {n : Nat} (h : position? word s = some n)
    (t : Text) : position? word (s ++ t) = some n := by
  induction s generalizing n with
  | nil =>
    unfold position? at h
    split at h
    · rename_i hw
      obtain rfl := Option.some.inj h
      rw [List.isEmpty_iff.mp hw]
      cases t <;> rfl
    · cases h
  | cons c s ih =>
    have hlen := position?_add_length_le h
    rw [List.cons_append, position?_cons, ← List.cons_append,
      isPrefixOf_append_of_length_le (by omega)]
    rw [position?_cons] at h
    split at h
    · rename_i hp
      rw [if_pos hp]
      exact h
    · rename_i hp
      obtain ⟨m, hm, rfl⟩ := Option.map_eq_some_iff.mp h
      rw [if_neg hp, ih hm]
      rfl

/-- A word that has no line feed and stands nowhere in whole lines does not start in them either:
it is looked for in what follows. -/
theorem position?_append_of_none {word s : Text} (hw : '\n' ∉ word) (hs : s.WholeLines)
    (h : position? word s = none) (t : Text) :
    position? word (s ++ t) = (position? word t).map (· + s.length) := by
  induction s with
  | nil => simp
  | cons c s ih =>
    have hfeed : EndsInFeed (c :: s) := hs.resolve_left (List.cons_ne_nil c s)
    rw [position?_cons] at h
    split at h
    · cases h
    · rename_i hp
      rw [List.cons_append, position?_cons, ← List.cons_append, hfeed.isPrefixOf_append hw,
        if_neg hp, ih (by simpa using hs.drop 1) (Option.map_eq_none_iff.mp h)]
      simp [Function.comp_def, Nat.add_assoc]

/-- A word found is found as well in any beginning that holds it. -/
theorem position?_take {word s : Text} {n m : Nat} (h : position? word s = some n)
    (hm : n + word.length ≤ m) : position? word (s.take m) = some n := by
  induction s generalizing n m with
  | nil => simpa using h
  | cons c s ih =>
    have hbefore : (c :: s).take m <+: c :: s := List.take_prefix m (c :: s)
    rw [position?_cons] at h
    split at h
    · rename_i hp
      obtain rfl := Option.some.inj h
      have hword : word.isPrefixOf ((c :: s).take m) = true := by
        rw [List.isPrefixOf_iff_prefix] at hp ⊢
        exact List.prefix_take_iff.mpr ⟨hp, by omega⟩
      unfold position?
      split
      · rename_i hnil
        rw [hnil] at hword
        simp_all
      · rename_i heq
        rw [heq] at hword
        rw [if_pos hword]
    · rename_i hp
      obtain ⟨k, hk, rfl⟩ := Option.map_eq_some_iff.mp h
      obtain ⟨m, rfl⟩ : ∃ m', m = m' + 1 := ⟨m - 1, by omega⟩
      have hword : word.isPrefixOf (c :: s.take m) = false := by
        rw [Bool.eq_false_iff]
        intro hp'
        rw [List.isPrefixOf_iff_prefix] at hp hp'
        exact hp (hp'.trans hbefore)
      rw [List.take_succ_cons, position?_cons, hword, ih hk (by omega)]
      rfl

theorem closingComment?_append_of_some {s : Text} {n : Nat} (h : closingComment? s = some n)
    (t : Text) : closingComment? (s ++ t) = some n := by
  obtain ⟨m, hm, rfl⟩ := Option.map_eq_some_iff.mp h
  rw [closingComment?, position?_append_of_some hm]
  rfl

theorem closingComment?_le_length {s : Text} {n : Nat} (h : closingComment? s = some n) :
    n ≤ s.length := by
  obtain ⟨m, hm, rfl⟩ := Option.map_eq_some_iff.mp h
  exact position?_add_length_le hm

theorem closingQuote?_cons {quote c : Char} (oneLine : Bool) (cs : Text) (hc : c ≠ '\\') :
    closingQuote? quote oneLine (c :: cs) =
      if c = quote then some 1
      else if oneLine && c = '\n' then none
      else (closingQuote? quote oneLine cs).map (· + 1) := by
  rw [closingQuote?.eq_def]
  split
  · simp_all
  · simp_all
  · rename_i heq
    obtain ⟨rfl, rfl⟩ := List.cons.inj heq
    simp [hc]

theorem closingQuote?_append_of_some {quote : Char} {oneLine : Bool} {s : Text} {n : Nat}
    (hq : quote ≠ '\\') (h : closingQuote? quote oneLine s = some n) (t : Text) :
    closingQuote? quote oneLine (s ++ t) = some n := by
  fun_induction closingQuote? quote oneLine s generalizing n with
  | case1 => cases h
  | case2 c cs ih =>
    obtain ⟨m, hm, rfl⟩ := Option.map_eq_some_iff.mp h
    rw [List.cons_append, List.cons_append, closingQuote?, ih hm]
    rfl
  | case3 cs =>
    rw [List.cons_append, closingQuote?_cons oneLine _ hq, if_pos rfl]
    exact h
  | case4 => cases h
  | case5 c cs _ hne hc ih =>
    obtain ⟨m, hm, rfl⟩ := Option.map_eq_some_iff.mp h
    simp only [Bool.or_eq_true, decide_eq_true_eq, not_or] at hc
    rw [List.cons_append, closingQuote?_cons oneLine _ hc.1, if_neg hne, if_neg hc.2, ih hm]
    rfl

/-- The closing quote found lies in the text. -/
theorem closingQuote?_le_length {quote : Char} {oneLine : Bool} {s : Text} {n : Nat}
    (h : closingQuote? quote oneLine s = some n) : n ≤ s.length := by
  fun_induction closingQuote? quote oneLine s generalizing n with
  | case1 => cases h
  | case2 c cs ih =>
    obtain ⟨m, hm, rfl⟩ := Option.map_eq_some_iff.mp h
    have := ih hm
    simp only [List.length_cons]
    omega
  | case3 cs =>
    obtain rfl := Option.some.inj h
    simp
  | case4 => cases h
  | case5 c cs _ hne hc ih =>
    obtain ⟨m, hm, rfl⟩ := Option.map_eq_some_iff.mp h
    have := ih hm
    simp only [List.length_cons]
    omega

theorem lineFeeds_append (s t : Text) :
    lineFeeds (s ++ t) = lineFeeds s + lineFeeds t := List.count_append

theorem lineFeeds_take_add_drop (n : Nat) (s : Text) (line : Int) :
    line + lineFeeds (s.take n) + lineFeeds (s.drop n) = line + lineFeeds s := by
  rw [Int.add_assoc, ← Int.natCast_add, ← lineFeeds_append, List.take_append_drop]

end MessageHarvest.Text
