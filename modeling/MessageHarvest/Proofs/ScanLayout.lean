import MessageHarvest.Proofs.ReferenceLines
import Mathlib.Data.List.Chain

/-! # Where the items of a scan stand

A scan reports tokens and comments with lines, and no offsets. Still each item
stands at an offset of its own, which the lexemes before it tell: `Layout` says
how the items lie in the source and what fills the gaps, and `Ends` what is
behind the last of them. Both follow from one lexeme at a time: what is passed
over in silence makes the next gap longer (`Layout.prepend`, `Ends.widen`), and
an item starts a new one (`Layout.cons`). `Gaps` are the facts about a lexer
that this takes, and `Cuts.laidOut` is the theorem that the two lexers share. -/
namespace MessageHarvest

namespace Item

/-- The text of a token or a comment. -/
def text : Item → Text
  | token t => t.text
  | comment c => c.text

/-- The line that is reported for a token or a comment. -/
def line : Item → Int
  | token t => t.line
  | comment c => c.line

end Item

/-- The lexeme is passed over. -/
def Shape.isSilent : Shape → Bool
  | markup | close | space => true
  | _ => false

theorem Lexeme.item?_of_isSilent {l : Lexeme} (h : l.shape.isSilent = true) (line : Int) :
    l.item? line = none := by
  obtain ⟨shape, text⟩ := l
  cases shape <;> first | rfl | cases h

/-- What is not passed over is reported with its text and its line, unless the scan breaks off. -/
theorem Lexeme.item?_of_not_isSilent {shape : Shape} (h : shape.isSilent = false)
    (hb : ∀ fault, shape ≠ .broken fault) (text : Text) (line : Int) :
    ∃ item, Lexeme.item? ⟨shape, text⟩ line = some item ∧ item.text = text ∧ item.line = line := by
  cases shape with
  | comment => exact ⟨_, rfl, rfl, rfl⟩
  | token kind => exact ⟨_, rfl, rfl, rfl⟩
  | broken fault => exact absurd rfl (hb fault)
  | markup => cases h
  | close => cases h
  | space => cases h

namespace Scan

/-! ## Places -/

/-- An item, and the offset at which it stands. -/
structure Place where
  offset : Nat
  item : Item

namespace Place

/-- The offset behind the item. -/
def stop (p : Place) : Nat := p.offset + p.item.text.length

/-- The place with so much text before the source. -/
def shift (n : Nat) (p : Place) : Place := ⟨n + p.offset, p.item⟩

theorem stop_shift (n : Nat) (p : Place) : (p.shift n).stop = n + p.stop :=
  Nat.add_assoc n p.offset _

end Place

/-- The text between two offsets. -/
def between (s : Text) (start stop : Nat) : Text := (s.take stop).drop start

theorem between_zero (s : Text) (n : Nat) : between s 0 n = s.take n := rfl

theorem between_append (front s : Text) (start stop : Nat) :
    between (front ++ s) (front.length + start) (front.length + stop) = between s start stop := by
  rw [between, List.take_length_add_append, List.drop_length_add_append]
  rfl

/-- The items stand in the source at offsets that increase, and do not overlap. Each has the line of
its offset. What stands before the first and between two of them is as told. -/
structure Layout (lead gap : Text → Prop) (source : Text) (line : Int) (places : List Place) :
    Prop where
  stands : ∀ p ∈ places, p.item.text ≠ [] ∧ p.item.text <+: source.drop p.offset
  line : ∀ p ∈ places, p.item.line = line + Text.lineFeeds (source.take p.offset)
  apart : places.Pairwise fun p q => p.offset < q.offset ∧ p.stop ≤ q.offset
  lead : ∀ p ∈ places.head?, lead (source.take p.offset)
  gaps : places.IsChain fun p q => gap (between source p.stop q.offset)

theorem line_append (line : Int) (front s : Text) :
    line + Text.lineFeeds front + Text.lineFeeds s = line + Text.lineFeeds (front ++ s) := by
  rw [Text.lineFeeds_append, Int.natCast_add, Int.add_assoc]

namespace Layout

variable {lead lead' gap : Text → Prop} {source : Text} {line : Int} {places : List Place}

theorem nil (lead gap : Text → Prop) (source : Text) (line : Int) :
    Layout lead gap source line [] :=
  ⟨List.forall_mem_nil _, List.forall_mem_nil _, .nil, fun _ h => (nomatch h), .nil⟩

/-- More text before the source belongs to what stands before the first item. -/
theorem prepend {front : Text}
    (h : Layout lead gap source (line + Text.lineFeeds front) places)
    (hlead : ∀ u, lead u → lead' (front ++ u)) :
    Layout lead' gap (front ++ source) line (places.map (Place.shift front.length)) where
  stands := by
    intro p hp
    obtain ⟨q, hq, rfl⟩ := List.mem_map.mp hp
    rw [Place.shift, List.drop_length_add_append]
    exact h.stands q hq
  line := by
    intro p hp
    obtain ⟨q, hq, rfl⟩ := List.mem_map.mp hp
    rw [Place.shift, List.take_length_add_append, ← line_append]
    exact h.line q hq
  apart := by
    refine List.Pairwise.map _ (fun p q hpq => ?_) h.apart
    rw [Place.stop_shift]
    exact ⟨Nat.add_lt_add_left hpq.1 _, Nat.add_le_add_left hpq.2 _⟩
  lead := by
    intro p hp
    rw [List.head?_map] at hp
    obtain ⟨q, hq, rfl⟩ := Option.map_eq_some_iff.mp hp
    rw [Place.shift, List.take_length_add_append]
    exact hlead _ (h.lead q hq)
  gaps := by
    rw [List.isChain_map]
    refine h.gaps.imp fun p q hpq => ?_
    rw [Place.stop_shift, Place.shift, between_append]
    exact hpq

/-- An item before the source ends what stands before the first item. -/
theorem cons {item : Item}
    (h : Layout lead gap source (line + Text.lineFeeds item.text) places)
    (hne : item.text ≠ []) (hline : item.line = line) (hhere : lead' [])
    (hgap : ∀ u, lead u → gap u) :
    Layout lead' gap (item.text ++ source) line
      (⟨0, item⟩ :: places.map (Place.shift item.text.length)) := by
  have hrest : Layout (fun _ => True) gap (item.text ++ source) line
      (places.map (Place.shift item.text.length)) := h.prepend fun _ _ => trivial
  have hpos : 0 < item.text.length := List.length_pos_iff.mpr hne
  refine ⟨?_, ?_, ?_, ?_, ?_⟩
  · exact List.forall_mem_cons.mpr ⟨⟨hne, List.prefix_append _ _⟩, hrest.stands⟩
  · refine List.forall_mem_cons.mpr ⟨?_, hrest.line⟩
    simpa [Text.lineFeeds] using hline
  · refine List.pairwise_cons.mpr ⟨?_, hrest.apart⟩
    intro p hp
    obtain ⟨q, _, rfl⟩ := List.mem_map.mp hp
    simp only [Place.stop, Place.shift]
    omega
  · intro p hp
    cases hp
    exact hhere
  · refine List.isChain_cons.mpr ⟨?_, hrest.gaps⟩
    intro p hp
    rw [List.head?_map] at hp
    obtain ⟨q, hq, rfl⟩ := Option.map_eq_some_iff.mp hp
    have hbetween := between_append item.text source 0 q.offset
    rw [Nat.add_zero, between_zero] at hbetween
    simp only [Place.stop, Place.shift, Nat.zero_add, hbetween]
    exact hgap _ (h.lead q hq)

end Layout

/-! ## Behind the last item -/

/-- The offset behind the last item. -/
def stopOf (places : List Place) : Nat := (places.getLast?.map Place.stop).getD 0

theorem stopOf_map_shift {places : List Place} (h : places ≠ []) (n : Nat) :
    stopOf (places.map (Place.shift n)) = n + stopOf places := by
  simp [stopOf, List.getLast?_eq_some_getLast h, Place.stop_shift]

theorem stopOf_cons (item : Item) (places : List Place) :
    stopOf (⟨0, item⟩ :: places.map (Place.shift item.text.length)) =
      item.text.length + stopOf places := by
  cases places with
  | nil => simp [stopOf, Place.stop]
  | cons p places =>
    rw [← stopOf_map_shift (List.cons_ne_nil p places)]
    rfl

/-- From an offset on there is only text of a known kind, or a gap and then something malformed at
which the scan breaks off. -/
inductive Ends (gap rest : Text → Prop) (malformed : Fault → Text → Prop) (source : Text)
    (line : Int) (start : Nat) : Option (Fault × Int) → Prop
  | whole (hrest : rest (source.drop start)) : Ends gap rest malformed source line start none
  | broken (fault : Fault) (offset : Nat) (hle : start ≤ offset)
      (hgap : gap (between source start offset)) (hbad : malformed fault (source.drop offset)) :
      Ends gap rest malformed source line start
        (some (fault, line + Text.lineFeeds (source.take offset)))

namespace Ends

variable {gap gap' rest rest' : Text → Prop} {malformed : Fault → Text → Prop} {source : Text}
  {line : Int} {start : Nat} {broken : Option (Fault × Int)}

theorem prepend {front : Text}
    (h : Ends gap rest malformed source (line + Text.lineFeeds front) start broken) :
    Ends gap rest malformed (front ++ source) line (front.length + start) broken := by
  cases h with
  | whole hrest => exact .whole (by rwa [List.drop_length_add_append])
  | broken fault offset hle hgap hbad =>
    rw [line_append, ← List.take_length_add_append]
    refine .broken fault _ (Nat.add_le_add_left hle _) ?_ ?_
    · rwa [between_append]
    · rwa [List.drop_length_add_append]

/-- As long as there is no item, more text before the source makes the gap longer. -/
theorem widen {front : Text}
    (h : Ends gap rest malformed source (line + Text.lineFeeds front) 0 broken)
    (hgap : ∀ u, gap u → gap' (front ++ u)) (hrest : rest source → rest' (front ++ source)) :
    Ends gap' rest' malformed (front ++ source) line 0 broken := by
  cases h with
  | whole h => exact .whole (hrest h)
  | broken fault offset _ h hbad =>
    rw [line_append, ← List.take_length_add_append]
    refine .broken fault _ (Nat.zero_le _) ?_ ?_
    · rw [between_zero, List.take_length_add_append]
      exact hgap _ h
    · rwa [List.drop_length_add_append]

end Ends

/-! ## Lexeme by lexeme -/

section LaidOut

variable {σ : Type} {gap rest : σ → Text → Prop} {malformed : Fault → Text → Prop}
  {behind s s' : σ} {source : Text} {line : Int} {scan : Scan} {places : List Place}

/-- The items of the scan stand at these places. What fills the gaps depends on the state of the
lexer: `s` at the beginning, and `behind` after every item. -/
structure LaidOut (gap rest : σ → Text → Prop) (malformed : Fault → Text → Prop) (behind s : σ)
    (source : Text) (line : Int) (scan : Scan) (places : List Place) : Prop where
  items : places.map Place.item = scan.items
  layout : Layout (gap s) (gap behind) source line places
  ends : Ends (gap (if places.isEmpty then s else behind))
    (rest (if places.isEmpty then s else behind)) malformed source line (stopOf places) scan.broken

/-- Text that is passed over comes before all items. -/
theorem LaidOut.skip {front : Text}
    (h : LaidOut gap rest malformed behind s' source (line + Text.lineFeeds front) scan places)
    (hgap : ∀ u, gap s' u → gap s (front ++ u))
    (hrest : rest s' source → rest s (front ++ source)) :
    LaidOut gap rest malformed behind s (front ++ source) line scan
      (places.map (Place.shift front.length)) where
  items := by
    rw [List.map_map]
    exact h.items
  layout := h.layout.prepend hgap
  ends := by
    have hends := h.ends
    cases places with
    | nil => exact hends.widen hgap hrest
    | cons p places =>
      rw [stopOf_map_shift (List.cons_ne_nil p places)]
      exact hends.prepend

/-- An item comes before all others. -/
theorem LaidOut.report {item : Item}
    (h : LaidOut gap rest malformed behind s' source (line + Text.lineFeeds item.text) scan places)
    (hne : item.text ≠ []) (hline : item.line = line) (hhere : gap s [])
    (hgap : gap s' = gap behind) (hrest : rest s' = rest behind) :
    LaidOut gap rest malformed behind s (item.text ++ source) line
      (append ⟨[item], none⟩ scan) (⟨0, item⟩ :: places.map (Place.shift item.text.length)) where
  items := by
    rw [List.map_cons, List.map_map]
    exact congrArg (item :: ·) h.items
  layout := h.layout.cons hne hline hhere fun u hu => hgap ▸ hu
  ends := by
    have hends := h.ends
    have hstate : ∀ {f : σ → Text → Prop}, f s' = f behind →
        f (if places.isEmpty then s' else behind) = f behind := by
      intro f hf
      split
      · exact hf
      · rfl
    rw [hstate hgap, hstate hrest] at hends
    rw [stopOf_cons]
    exact hends.prepend

/-- Either nothing is reported and only text of a known kind is left, or one notice is given about
what is malformed behind the last item. -/
theorem LaidOut.notices (h : LaidOut gap rest malformed behind s source line scan places)
    (language : Language) :
    (scan.notices language = [] ∧
        rest (if places.isEmpty then s else behind) (source.drop (stopOf places))) ∨
      ∃ fault offset,
        scan.notices language =
          [.brokenOff language fault (line + Text.lineFeeds (source.take offset))] ∧
        stopOf places ≤ offset ∧
        gap (if places.isEmpty then s else behind) (between source (stopOf places) offset) ∧
        malformed fault (source.drop offset) := by
  have hends := h.ends
  unfold Scan.notices
  generalize scan.broken = broken at hends
  cases hends with
  | whole hrest => exact .inl ⟨rfl, hrest⟩
  | broken fault offset hle hgap hbad => exact .inr ⟨fault, offset, rfl, hle, hgap, hbad⟩

end LaidOut

/-- What the lexer passes over is gap text, and where it breaks off the source is malformed. A
gap starts anew, in the state `behind`, after each item. -/
structure Gaps {σ : Type} (front : σ → Char → Text → Shape × Nat) (after : σ → Lexeme → σ)
    (gap rest : σ → Text → Prop) (malformed : Fault → Text → Prop) (behind : σ) : Prop where
  here : ∀ s c cs, (front s c cs).1.isSilent = false → gap s []
  pass : ∀ s c cs, (front s c cs).1.isSilent = true → cs.drop (front s c cs).2 ≠ [] → ∀ u,
    gap (after s ⟨(front s c cs).1, c :: cs.take (front s c cs).2⟩) u →
      gap s (c :: cs.take (front s c cs).2 ++ u)
  done : ∀ s, rest s []
  passRest : ∀ s c cs, (front s c cs).1.isSilent = true →
    rest (after s ⟨(front s c cs).1, c :: cs.take (front s c cs).2⟩) (cs.drop (front s c cs).2) →
      rest s (c :: cs.take (front s c cs).2 ++ cs.drop (front s c cs).2)
  resumeGap : ∀ s c cs, (front s c cs).1.isSilent = false →
    gap (after s ⟨(front s c cs).1, c :: cs.take (front s c cs).2⟩) = gap behind
  resumeRest : ∀ s c cs, (front s c cs).1.isSilent = false →
    rest (after s ⟨(front s c cs).1, c :: cs.take (front s c cs).2⟩) = rest behind
  bad : ∀ s c cs fault, (front s c cs).1 = .broken fault → malformed fault (c :: cs)

section Cuts

variable {σ : Type} {lexemes : σ → Text → List Lexeme}
  {front : σ → Char → Text → Shape × Nat} {after : σ → Lexeme → σ}
  {gap rest : σ → Text → Prop} {malformed : Fault → Text → Prop} {behind : σ}

theorem Gaps.laidOut_nil (gaps : Gaps front after gap rest malformed behind) (s : σ) (line : Int) :
    LaidOut gap rest malformed behind s [] line ⟨[], none⟩ [] :=
  ⟨rfl, .nil _ _ _ _, .whole (gaps.done s)⟩

theorem Gaps.laidOut_broken (gaps : Gaps front after gap rest malformed behind) {s : σ} {c : Char}
    {cs : Text} {fault : Fault} (h : (front s c cs).1 = .broken fault) (line : Int) :
    LaidOut gap rest malformed behind s (c :: cs) line ⟨[], some (fault, line)⟩ [] := by
  have hhere : gap s [] := gaps.here s c cs (by rw [h]; rfl)
  have hends : Ends (gap s) (rest s) malformed (c :: cs) line 0
      (some (fault, line + Text.lineFeeds ((c :: cs).take 0))) :=
    .broken fault 0 (Nat.le_refl 0) hhere (gaps.bad s c cs fault h)
  have hline : line + Text.lineFeeds ((c :: cs).take 0) = line := by simp [Text.lineFeeds]
  rw [hline] at hends
  exact ⟨rfl, .nil _ _ _ _, hends⟩

/-- The step over a lexeme that is passed over. -/
theorem Cuts.laidOut_silent (cuts : Cuts lexemes front after)
    (gaps : Gaps front after gap rest malformed behind) {s : σ} {c : Char} {cs : Text} {line : Int}
    {places : List Place} (hsilent : (front s c cs).1.isSilent = true)
    (h : LaidOut gap rest malformed behind
      (after s ⟨(front s c cs).1, c :: cs.take (front s c cs).2⟩) (cs.drop (front s c cs).2)
      (line + Text.lineFeeds (c :: cs.take (front s c cs).2))
      (ofLexemes (line + Text.lineFeeds (c :: cs.take (front s c cs).2))
        (lexemes (after s ⟨(front s c cs).1, c :: cs.take (front s c cs).2⟩)
          (cs.drop (front s c cs).2))) places) :
    ∃ places, LaidOut gap rest malformed behind s
      (c :: cs.take (front s c cs).2 ++ cs.drop (front s c cs).2) line
      (ofLexemes line (lexemes s (c :: cs))) places := by
  have hbroken : ∀ fault, (front s c cs).1 ≠ .broken fault := by
    intro fault hfault
    rw [hfault] at hsilent
    cases hsilent
  rw [cuts.scan_cons hbroken, Lexeme.item?_of_isSilent hsilent, Option.toList_none, append_nothing]
  have hrest := gaps.passRest s c cs hsilent
  by_cases hend : cs.drop (front s c cs).2 = []
  · -- at the end the state does not matter, as nothing comes after the gap
    rw [hend] at hrest ⊢
    rw [cuts.nil]
    exact ⟨[], rfl, .nil _ _ _ _, .whole (hrest (gaps.done _))⟩
  · exact ⟨_, h.skip (gaps.pass s c cs hsilent hend) hrest⟩

/-- The step over a lexeme that is reported. -/
theorem Cuts.laidOut_item (cuts : Cuts lexemes front after)
    (gaps : Gaps front after gap rest malformed behind) {s : σ} {c : Char} {cs : Text} {line : Int}
    {places : List Place} (hsilent : (front s c cs).1.isSilent = false)
    (hbroken : ∀ fault, (front s c cs).1 ≠ .broken fault)
    (h : LaidOut gap rest malformed behind
      (after s ⟨(front s c cs).1, c :: cs.take (front s c cs).2⟩) (cs.drop (front s c cs).2)
      (line + Text.lineFeeds (c :: cs.take (front s c cs).2))
      (ofLexemes (line + Text.lineFeeds (c :: cs.take (front s c cs).2))
        (lexemes (after s ⟨(front s c cs).1, c :: cs.take (front s c cs).2⟩)
          (cs.drop (front s c cs).2))) places) :
    ∃ places, LaidOut gap rest malformed behind s
      (c :: cs.take (front s c cs).2 ++ cs.drop (front s c cs).2) line
      (ofLexemes line (lexemes s (c :: cs))) places := by
  obtain ⟨item, hitem, htext, hline⟩ :=
    Lexeme.item?_of_not_isSilent hsilent hbroken (c :: cs.take (front s c cs).2) line
  have hne : item.text ≠ [] := by
    rw [htext]
    exact List.cons_ne_nil _ _
  rw [cuts.scan_cons hbroken, hitem, Option.toList_some]
  rw [← htext] at h ⊢
  have hgap := gaps.resumeGap s c cs hsilent
  have hrest := gaps.resumeRest s c cs hsilent
  rw [← htext] at hgap hrest
  exact ⟨_, h.report hne hline (gaps.here s c cs hsilent) hgap hrest⟩

/-- **No text is lost.** Each item of a scan has its place in the source, and what no item covers
is a gap, up to the end or up to where the source is malformed. -/
theorem Cuts.laidOut (cuts : Cuts lexemes front after)
    (gaps : Gaps front after gap rest malformed behind) (s : σ) (line : Int) (source : Text) :
    ∃ places, LaidOut gap rest malformed behind s source line
      (ofLexemes line (lexemes s source)) places := by
  -- on the length of the source, lexeme by lexeme
  induction hlen : source.length using Nat.strongRecOn generalizing s source line with
  | ind n ih =>
    subst hlen
    match source, ih with
    | [], _ =>
      rw [cuts.nil]
      exact ⟨[], gaps.laidOut_nil s line⟩
    | c :: cs, ih =>
      by_cases hbroken : ∃ fault, (front s c cs).1 = .broken fault
      · obtain ⟨fault, hfault⟩ := hbroken
        rw [cuts.broken s c cs fault hfault]
        exact ⟨[], gaps.laidOut_broken hfault line⟩
      · have hsplit : c :: cs.take (front s c cs).2 ++ cs.drop (front s c cs).2 = c :: cs := by
          rw [List.cons_append, List.take_append_drop]
        have hlt : (cs.drop (front s c cs).2).length < (c :: cs).length := by
          rw [List.length_drop, List.length_cons]
          omega
        obtain ⟨places, hplaces⟩ := ih _ hlt
          (after s ⟨(front s c cs).1, c :: cs.take (front s c cs).2⟩)
          (line + Text.lineFeeds (c :: cs.take (front s c cs).2)) _ rfl
        cases hsilent : (front s c cs).1.isSilent with
        | true =>
          have hstep := cuts.laidOut_silent gaps hsilent hplaces
          rwa [hsplit] at hstep
        | false =>
          have hstep := cuts.laidOut_item gaps hsilent (not_exists.mp hbroken) hplaces
          rwa [hsplit] at hstep

/-- What holds of every lexeme in front holds of all lexemes. -/
theorem Cuts.forall_mem_lexemes (cuts : Cuts lexemes front after) {P : Lexeme → Prop}
    (hfront : ∀ s c cs, P ⟨(front s c cs).1, c :: cs.take (front s c cs).2⟩)
    (hbroken : ∀ fault text, P ⟨.broken fault, text⟩) (s : σ) (source : Text) :
    ∀ l ∈ lexemes s source, P l := by
  induction hlen : source.length using Nat.strongRecOn generalizing s source with
  | ind n ih =>
    subst hlen
    match source, ih with
    | [], _ =>
      rw [cuts.nil]
      exact List.forall_mem_nil _
    | c :: cs, ih =>
      by_cases hfault : ∃ fault, (front s c cs).1 = .broken fault
      · obtain ⟨fault, hfault⟩ := hfault
        rw [cuts.broken s c cs fault hfault]
        exact List.forall_mem_singleton.mpr (hbroken fault _)
      · have hlt : (cs.drop (front s c cs).2).length < (c :: cs).length := by
          rw [List.length_drop, List.length_cons]
          omega
        rw [cuts.cons s c cs (not_exists.mp hfault)]
        exact List.forall_mem_cons.mpr ⟨hfront s c cs, ih _ hlt _ _ rfl⟩

/-- Every mark of punctuation starts with a character that is neither white space nor part of a
word. So there is no character at which a scan has nothing to read. -/
def MarksStand (scan : Scan) : Prop :=
  ∀ t, Item.token t ∈ scan.items → t.kind = .punct →
    ∃ c cs, t.text = c :: cs ∧ Text.isSpace c = false ∧ Text.isWord c = false

theorem Cuts.marksStand (cuts : Cuts lexemes front after)
    (hmark : ∀ s c cs, (front s c cs).1 = .token .punct →
      Text.isSpace c = false ∧ Text.isWord c = false) (s : σ) (line : Int) (source : Text) :
    MarksStand (ofLexemes line (lexemes s source)) := by
  intro t ht hkind
  obtain ⟨before, after', hls, _⟩ := mem_items ht
  have hall := cuts.forall_mem_lexemes (P := fun l => l.shape = .token .punct →
      ∃ c cs, l.text = c :: cs ∧ Text.isSpace c = false ∧ Text.isWord c = false)
    (fun s c cs hshape => ⟨c, _, rfl, hmark s c cs hshape⟩)
    (fun fault text hshape => (nomatch hshape)) s source
  rw [hls] at hall
  exact hall _ (List.mem_append_right before List.mem_cons_self) (congrArg Shape.token hkind)

end Cuts

end Scan

end MessageHarvest
