import MessageHarvest.Proofs.LineBoundary

/-! # Scans of two parts

A lexer goes through a source in a state: it cuts one lexeme off the front and
moves to the next state. `Scan.Cuts` says so of the two lexers of program code,
and `Scan.Cuts.scan_append` is their common theorem: the scan of a source goes
apart at the end of a line, if every lexeme before it either stays the same
when more text follows or merely runs on into that text. -/
namespace MessageHarvest.Scan

open Text (EndsInFeed WholeLines)

/-- One scan after another, where the first did not break off. -/
def append (first second : Scan) : Scan := ⟨first.items ++ second.items, second.broken⟩

theorem append_assoc (a b c : Scan) : (a.append b).append c = a.append (b.append c) := by
  simp [append, List.append_assoc]

theorem append_nothing (scan : Scan) : append ⟨[], none⟩ scan = scan := rfl

theorem ofLexemes_cons {l : Lexeme} (hl : ∀ fault, l.shape ≠ .broken fault) (line : Int)
    (ls : List Lexeme) : ofLexemes line (l :: ls) =
      append ⟨(l.item? line).toList, none⟩ (ofLexemes (line + Text.lineFeeds l.text) ls) := by
  rw [ofLexemes]
  split
  · rename_i fault hshape
    exact absurd hshape (hl fault)
  · rfl

/-- The lexer cuts a source from the front. `front` gives the shape of the lexeme that starts
with a character and the number of its other characters, `after` the state behind it. -/
structure Cuts {σ : Type} (lexemes : σ → Text → List Lexeme)
    (front : σ → Char → Text → Shape × Nat) (after : σ → Lexeme → σ) : Prop where
  nil : ∀ s, lexemes s [] = []
  cons : ∀ s c cs, (∀ fault, (front s c cs).1 ≠ .broken fault) →
    lexemes s (c :: cs) = ⟨(front s c cs).1, c :: cs.take (front s c cs).2⟩ ::
      lexemes (after s ⟨(front s c cs).1, c :: cs.take (front s c cs).2⟩)
        (cs.drop (front s c cs).2)
  broken : ∀ s c cs fault, (front s c cs).1 = .broken fault →
    lexemes s (c :: cs) = [⟨.broken fault, c :: cs⟩]
  within : ∀ s c cs, (front s c cs).2 ≤ cs.length

/-- The whole of `p` reports nothing, and with `q` behind it runs on into `q`. -/
structure RunsOn {σ : Type} (lexemes : σ → Text → List Lexeme) (after : σ → Lexeme → σ)
    (s : σ) (p q : Text) : Prop where
  silent : ∀ line, ofLexemes line (lexemes s p) = ⟨[], none⟩
  state : (lexemes s p).foldl after s = s
  scan : ∀ line, ofLexemes line (lexemes s (p ++ q)) =
    ofLexemes (line + Text.lineFeeds p) (lexemes s q)

namespace Cuts

variable {σ : Type} {lexemes : σ → Text → List Lexeme}
  {front : σ → Char → Text → Shape × Nat} {after : σ → Lexeme → σ}

theorem scan_cons (cuts : Cuts lexemes front after) {s : σ} {c : Char} {cs : Text}
    (hb : ∀ fault, (front s c cs).1 ≠ .broken fault) (line : Int) :
    ofLexemes line (lexemes s (c :: cs)) =
      append ⟨(Lexeme.item? ⟨(front s c cs).1, c :: cs.take (front s c cs).2⟩ line).toList, none⟩
        (ofLexemes (line + Text.lineFeeds (c :: cs.take (front s c cs).2))
          (lexemes (after s ⟨(front s c cs).1, c :: cs.take (front s c cs).2⟩)
            (cs.drop (front s c cs).2))) := by
  rw [cuts.cons s c cs hb]
  exact ofLexemes_cons hb line _

/-- Where the lexeme in front stays the same, the scan goes apart behind it. -/
theorem scan_cons_append (cuts : Cuts lexemes front after) {s : σ} {c : Char} {cs q : Text}
    (hb : ∀ fault, (front s c cs).1 ≠ .broken fault)
    (hsame : front s c (cs ++ q) = front s c cs) (line : Int) :
    ofLexemes line (lexemes s (c :: cs ++ q)) =
      append ⟨(Lexeme.item? ⟨(front s c cs).1, c :: cs.take (front s c cs).2⟩ line).toList, none⟩
        (ofLexemes (line + Text.lineFeeds (c :: cs.take (front s c cs).2))
          (lexemes (after s ⟨(front s c cs).1, c :: cs.take (front s c cs).2⟩)
            (cs.drop (front s c cs).2 ++ q))) := by
  have hlen := cuts.within s c cs
  rw [List.cons_append, cuts.scan_cons (by rwa [hsame]), hsame,
    List.take_append_of_le_length hlen, List.drop_append_of_le_length hlen]

/-- White space is passed over, in a state that it does not change. -/
theorem scan_dropWhile_isSpace (cuts : Cuts lexemes front after) {s : σ}
    (hfront : ∀ c cs, Text.isSpace c = true →
      front s c cs = (.space, (cs.takeWhile Text.isSpace).length))
    (hafter : ∀ text, after s ⟨.space, text⟩ = s) (line : Int) (p : Text) :
    ofLexemes line (lexemes s p) =
      ofLexemes (line + Text.lineFeeds (p.takeWhile Text.isSpace))
        (lexemes s (p.dropWhile Text.isSpace)) := by
  cases p with
  | nil => simp [Text.lineFeeds]
  | cons c cs =>
    cases hc : Text.isSpace c with
    | false => simp [hc, Text.lineFeeds]
    | true =>
      rw [cuts.scan_cons (by simp [hfront c cs hc]), hfront c cs hc,
        List.takeWhile_cons_of_pos hc, List.dropWhile_cons_of_pos hc,
        Text.take_length_takeWhile, Text.drop_length_takeWhile, hafter]
      rfl

/-- White space runs on. -/
theorem runsOn_space (cuts : Cuts lexemes front after) {s : σ}
    (hfront : ∀ c cs, Text.isSpace c = true →
      front s c cs = (.space, (cs.takeWhile Text.isSpace).length))
    (hafter : ∀ text, after s ⟨.space, text⟩ = s) {p : Text}
    (hp : ∀ c ∈ p, Text.isSpace c = true) (q : Text) : RunsOn lexemes after s p q := by
  have hscan : ∀ line t, ofLexemes line (lexemes s (p ++ t)) =
      ofLexemes (line + Text.lineFeeds p) (lexemes s t) := by
    intro line t
    rw [cuts.scan_dropWhile_isSpace hfront hafter,
      cuts.scan_dropWhile_isSpace hfront hafter (line + Text.lineFeeds p) t,
      List.takeWhile_append_of_pos hp, List.dropWhile_append_of_pos hp, Text.lineFeeds_append,
      Int.natCast_add, Int.add_assoc]
  refine ⟨fun line => ?_, ?_, fun line => hscan line q⟩
  · have := hscan line []
    rwa [List.append_nil, cuts.nil] at this
  · cases p with
    | nil => rw [cuts.nil]; rfl
    | cons c cs =>
      have hlen := hfront c cs (hp c List.mem_cons_self)
      rw [List.takeWhile_eq_self_iff.mpr fun d hd => hp d (List.mem_cons_of_mem c hd)] at hlen
      rw [cuts.cons s c cs (by simp [hlen]), hlen, List.drop_length, cuts.nil]
      exact hafter _

/-- White space at the end of the lines runs on. Elsewhere the lexeme in front stays the same, if
every lexeme does so that is not white space. -/
theorem front_append (cuts : Cuts lexemes front after) {s : σ}
    (hfront : ∀ c cs, Text.isSpace c = true →
      front s c cs = (.space, (cs.takeWhile Text.isSpace).length))
    (hafter : ∀ text, after s ⟨.space, text⟩ = s) {c : Char} {cs q : Text}
    (hs : EndsInFeed (c :: cs))
    (hother : Text.isSpace c = false → EndsInFeed cs → front s c (cs ++ q) = front s c cs) :
    front s c (cs ++ q) = front s c cs ∨ RunsOn lexemes after s (c :: cs) q := by
  by_cases hall : ∀ d ∈ c :: cs, Text.isSpace d = true
  · exact .inr (cuts.runsOn_space hfront hafter hall q)
  · left
    cases hc : Text.isSpace c with
    | false =>
      refine hother hc (hs.tail ?_)
      rintro rfl
      exact absurd hc (by decide)
    | true =>
      obtain ⟨d, hd, hne⟩ : ∃ d ∈ cs, Text.isSpace d = false := by simpa [hc] using hall
      rw [hfront c _ hc, hfront c cs hc, Text.takeWhile_append_of_mem hd hne]

/-- **What follows whole lines does not change how they are read.** If the scan of the lines does
not break off, then that of a longer source gives the same items for them, and goes on behind
them in the state in which they end. -/
theorem scan_append (cuts : Cuts lexemes front after)
    (hfront : ∀ {s c cs}, EndsInFeed (c :: cs) → (∀ fault, (front s c cs).1 ≠ .broken fault) →
      ∀ q, front s c (cs ++ q) = front s c cs ∨ RunsOn lexemes after s (c :: cs) q)
    {s : σ} {p : Text} (hp : p.WholeLines) {line : Int}
    (hb : (ofLexemes line (lexemes s p)).broken = none) (q : Text) :
    ofLexemes line (lexemes s (p ++ q)) = (ofLexemes line (lexemes s p)).append
      (ofLexemes (line + Text.lineFeeds p) (lexemes ((lexemes s p).foldl after s) q)) := by
  -- on the length of the lines, lexeme by lexeme
  induction hlen : p.length using Nat.strongRecOn generalizing s p line with
  | ind n ih =>
    subst hlen
    match p, hp, hb, ih with
    | [], _, _, _ => simp [cuts.nil, ofLexemes, append, Text.lineFeeds]
    | c :: cs, hp, hb, ih =>
      by_cases hbroken : ∃ fault, (front s c cs).1 = .broken fault
      · obtain ⟨fault, hfault⟩ := hbroken
        rw [cuts.broken s c cs fault hfault] at hb
        cases hb
      · have hbroken : ∀ fault, (front s c cs).1 ≠ .broken fault := not_exists.mp hbroken
        have hs : EndsInFeed (c :: cs) := hp.resolve_left (List.cons_ne_nil c cs)
        rcases hfront hs hbroken q with hsame | hrun
        · have hfeeds := Text.lineFeeds_take_add_drop ((front s c cs).2 + 1) (c :: cs) line
          rw [List.take_succ_cons, List.drop_succ_cons] at hfeeds
          have hrest : WholeLines (cs.drop (front s c cs).2) := hp.drop ((front s c cs).2 + 1)
          have hlt : (cs.drop (front s c cs).2).length < (c :: cs).length := by
            rw [List.length_drop, List.length_cons]
            omega
          rw [cuts.scan_cons hbroken] at hb ⊢
          rw [cuts.scan_cons_append hbroken hsame, ih _ hlt hrest hb rfl,
            cuts.cons s c cs hbroken, append_assoc, hfeeds]
          rfl
        · rw [hrun.scan, hrun.silent, hrun.state, append_nothing]

end Cuts

end MessageHarvest.Scan
