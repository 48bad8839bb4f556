import MessageHarvest.Proofs.CheckedParsing
import MessageHarvest.Proofs.ReferenceLines
import MessageHarvest.Proofs.SkippedRegions

/-! # The lines of strings in markup

A document is cut without loss, so each fragment stands behind what is before
it in the document, and starts on the line of that place (`FragmentAt`). The
script in a fragment is the fragment itself, or, for the value of an
attribute, what its characters and references stand for (`Part`). A line feed
that a reference stands for is no end of a line in the document, but it is
counted like one. So the line of a string is the line of the place where it is
marked, and one more for each such line feed before it, and it is told exactly
when that is still a line of the fragment, or of the document. -/
namespace MessageHarvest

open Event (occurrences occurrences_append)

/-- Every number of line feeds up to that of the whole text is passed on the way. -/
theorem Text.exists_lineFeeds_take {s : Text} {m : Nat} (h : m ≤ lineFeeds s) :
    ∃ k ≤ s.length, lineFeeds (s.take k) = m := by
  induction s generalizing m with
  | nil => exact ⟨0, Nat.le_refl 0, (Nat.le_zero.mp h).symm⟩
  | cons c s ih =>
    have hcons : ∀ t : Text, lineFeeds (c :: t) = lineFeeds [c] + lineFeeds t :=
      fun t => lineFeeds_append [c] t
    by_cases hm : m < lineFeeds [c]
    · have hone : lineFeeds [c] ≤ 1 := List.count_le_length
      refine ⟨0, Nat.zero_le _, ?_⟩
      rw [List.take_zero]
      show 0 = m
      omega
    · rw [hcons] at h
      obtain ⟨k, hk, hfeeds⟩ := ih (m := m - lineFeeds [c]) (by omega)
      refine ⟨k + 1, Nat.succ_le_succ hk, ?_⟩
      rw [List.take_succ_cons, hcons, hfeeds]
      omega

/-- The name of the marking function stands in the script. -/
theorem Script.offset_lt_of_markedAt {line : Int} {source : Text} {offset : Nat} {o : Occurrence}
    (h : Script.MarkedAt line source offset o) : offset < source.length := by
  obtain ⟨-, name, -, -, -, -, hname, hcut⟩ := h
  have hlength := hcut.stands.length_le
  rw [List.mem_singleton.mp hname, List.length_drop] at hlength
  have hpos : 0 < "ts".toList.length := by decide
  omega

namespace Markup

/-! ## Pieces -/

theorem source_of_script? {cs : Text} {p : Piece} {n : Nat} (h : script? cs = some (p, n)) :
    p.source = '<' :: cs.take n := by
  unfold script? at h
  split at h
  · obtain ⟨k, -, h⟩ := Option.bind_eq_some_iff.mp h
    obtain ⟨found, -, h⟩ := Option.map_eq_some_iff.mp h
    obtain ⟨rfl, rfl⟩ := Prod.mk.inj h
    generalize k + 7 = opening
    rw [Piece.source, List.take_add, List.take_add, ← List.drop_drop]
    rfl
  · cases h

theorem source_of_expression? {cs : Text} {p : Piece} {n : Nat}
    (h : expression? cs = some (p, n)) : p.source = '{' :: cs.take n := by
  unfold expression? at h
  split at h
  · rename_i cs
    obtain ⟨k, hk, h⟩ := Option.map_eq_some_iff.mp h
    obtain ⟨rfl, rfl⟩ := Prod.mk.inj h
    have hend : ['}', '}'] = (cs.drop k).take 2 :=
      List.prefix_iff_eq_take.mp (Text.prefix_drop_of_position? hk)
    rw [List.take_succ_cons, List.take_add, ← hend]
    rfl
  · cases h

/-- A piece is the text that it takes. -/
theorem source_of_piece? {c : Char} {cs : Text} {rests : List (Option Nat)} {p : Piece} {n : Nat}
    (h : piece? c cs rests = some (p, n)) : p.source = c :: cs.take n := by
  unfold piece? at h
  split at h
  · rename_i hc
    subst hc
    rcases Option.or_eq_some_iff.mp h with h | ⟨-, h⟩
    · unfold comment? at h
      split at h
      · obtain ⟨k, -, h⟩ := Option.map_eq_some_iff.mp h
        obtain ⟨rfl, rfl⟩ := Prod.mk.inj h
        rfl
      · cases h
    · rcases Option.or_eq_some_iff.mp h with h | ⟨-, h⟩
      · exact source_of_script? h
      · unfold tag? at h
        split at h
        · obtain ⟨k, -, h⟩ := Option.map_eq_some_iff.mp h
          obtain ⟨rfl, rfl⟩ := Prod.mk.inj h
          rfl
        · cases h
  · split at h
    · rename_i hc
      subst hc
      exact source_of_expression? h
    · cases h

/-- The pieces put together are the document again. -/
theorem flatMap_source_pieces (s : Text) : (pieces s).flatMap Piece.source = s := by
  induction hlen : s.length using Nat.strongRecOn generalizing s with
  | ind n ih =>
    subst hlen
    cases s with
    | nil =>
      rw [pieces, piecesWith]
      rfl
    | cons c cs =>
      cases hpiece : piece? c cs (tagRests cs) with
      | none =>
        rw [pieces_cons_none hpiece, List.flatMap_cons, ih _ (Nat.lt_succ_self _) cs rfl]
        rfl
      | some found =>
        have hlt : (cs.drop found.2).length < (c :: cs).length := by
          rw [List.length_drop, List.length_cons]
          omega
        rw [pieces_cons_some hpiece, List.flatMap_cons, ih _ hlt _ rfl, source_of_piece? hpiece,
          List.cons_append, List.take_append_drop]

/-! ## Fragments -/

/-- The piece holds this fragment behind so much of its own text: the body of a script, an
expression, or the text between the quotes of an attribute, where references are resolved. -/
inductive Piece.Holds : Piece → Text → Text → Bool → Prop where
  | script (opening body closing : Text) : Holds (.script opening body closing) opening body false
  | expression (text : Text) : Holds (.expression text) ['{', '{'] text false
  | value {front blanks text rest : Text} {quote : Char}
      (hblanks : ∀ c ∈ blanks, Text.isSpace c = true) (hquote : quote = '"' ∨ quote = '\'')
      (htext : quote ∉ text) :
      Holds (.tag (front ++ '=' :: (blanks ++ quote :: (text ++ quote :: rest))))
        (front ++ '=' :: (blanks ++ [quote])) text true

theorem Piece.Holds.isPrefix {p : Piece} {inside text : Text} {references : Bool}
    (h : p.Holds inside text references) : inside ++ text <+: p.source := by
  cases h with
  | script => exact List.prefix_append _ _
  | expression => exact List.prefix_append _ _
  | @value front blanks text rest quote hblanks hquote htext =>
    refine ⟨quote :: rest, ?_⟩
    simp [Piece.source]

theorem Piece.Holds.prepend {s inside text : Text} {references : Bool}
    (h : (Piece.tag s).Holds inside text references) (more : Text) :
    (Piece.tag (more ++ s)).Holds (more ++ inside) text references := by
  cases h with
  | value hblanks hquote htext =>
    rw [← List.append_assoc, ← List.append_assoc]
    exact .value hblanks hquote htext

/-- A quoted value stands between two equal quotes and has none of them in it. -/
theorem quotedValue?_eq_some {cs text : Text} {n : Nat} (h : quotedValue? cs = some (n, text)) :
    ∃ blanks quote rest, cs = blanks ++ quote :: (text ++ quote :: rest) ∧
      n = blanks.length + 1 ∧ (∀ c ∈ blanks, Text.isSpace c = true) ∧
      (quote = '"' ∨ quote = '\'') ∧ quote ∉ text := by
  unfold quotedValue? at h
  dsimp only at h
  split at h
  · rename_i quote rest hdrop
    split at h
    · rename_i hquote
      obtain ⟨k, hk, h⟩ := Option.map_eq_some_iff.mp h
      obtain ⟨rfl, rfl⟩ := Prod.mk.inj h
      obtain ⟨after, hafter⟩ := Text.prefix_drop_of_position? hk
      refine ⟨cs.takeWhile Text.isSpace, quote, after, ?_, rfl,
        fun c hc => List.mem_takeWhile_imp hc, by simpa using hquote, fun hmem => ?_⟩
      · have hrest : rest = rest.take k ++ quote :: after := by
          rw [← List.singleton_append, hafter, List.take_append_drop]
        rw [← hrest, ← hdrop, Text.drop_length_takeWhile, List.takeWhile_append_dropWhile]
      · obtain ⟨pre, post, hparts⟩ := List.append_of_mem hmem
        exact Text.not_infix_take_of_position? (by simp) hk ⟨pre, post, by simp [hparts]⟩
    · cases h
  · cases h

/-- A quoted value is a fragment of its tag, and no line ends in its quotes. -/
theorem holds_of_quotedValue? {cs text : Text} {n : Nat} (h : quotedValue? cs = some (n, text)) :
    (Piece.tag ('=' :: cs)).Holds ('=' :: cs.take n) text true ∧
      Text.lineFeeds (cs.take (n + text.length + 1)) =
        Text.lineFeeds (cs.take n) + Text.lineFeeds text := by
  obtain ⟨blanks, quote, rest, rfl, rfl, hblanks, hquote, htext⟩ := quotedValue?_eq_some h
  have hfeeds : Text.lineFeeds [quote] = 0 := by rcases hquote with rfl | rfl <;> rfl
  have hstart : (blanks ++ quote :: (text ++ quote :: rest)).take (blanks.length + 1) =
      blanks ++ [quote] := by
    rw [List.take_length_add_append]
    rfl
  have hend : (blanks ++ quote :: (text ++ quote :: rest)).take
      (blanks.length + 1 + text.length + 1) = blanks ++ [quote] ++ (text ++ [quote]) := by
    rw [Nat.add_assoc, Nat.add_assoc, List.take_length_add_append, Nat.add_comm 1,
      List.take_succ_cons, List.take_length_add_append, List.append_assoc]
    rfl
  have hholds : (Piece.tag ([] ++ '=' :: (blanks ++ quote :: (text ++ quote :: rest)))).Holds
      ([] ++ '=' :: (blanks ++ [quote])) text true := .value hblanks hquote htext
  rw [hstart, hend]
  refine ⟨hholds, ?_⟩
  rw [Text.lineFeeds_append (blanks ++ [quote]), Text.lineFeeds_append text, hfeeds, Nat.add_zero]

/-- Each fragment of a tag is a quoted value in it, and has the line of its first character. -/
theorem holds_of_mem_attributeFragments {line : Int} {s : Text} {f : Fragment}
    (h : f ∈ attributeFragments line s) :
    ∃ inside, (Piece.tag s).Holds inside f.text f.hasReferences ∧
      f.line = line + Text.lineFeeds inside := by
  fun_induction attributeFragments line s with
  | case1 => cases h
  | case2 line c cs found hfound start ih =>
    obtain ⟨n, text⟩ := found
    split at hfound
    · rename_i hc
      subst hc
      obtain ⟨hholds, hfeeds⟩ := holds_of_quotedValue? hfound
      rcases List.mem_cons.mp h with rfl | h
      · exact ⟨_, hholds, rfl⟩
      · obtain ⟨inside, hinside, hnext⟩ := ih h
        have hline : f.line = line + Text.lineFeeds (cs.take n) + Text.lineFeeds text +
            Text.lineFeeds inside := hnext
        have hmore := hinside.prepend ('=' :: cs.take (n + text.length + 1))
        rw [List.cons_append, List.take_append_drop] at hmore
        refine ⟨_, hmore, ?_⟩
        show f.line = line + (Text.lineFeeds (cs.take (n + text.length + 1) ++ inside) : Int)
        rw [hline, Text.lineFeeds_append, hfeeds]
        omega
    · cases hfound
  | case3 line c cs hnone ih =>
    obtain ⟨inside, hholds, hline⟩ := ih h
    refine ⟨[c] ++ inside, hholds.prepend [c], ?_⟩
    rw [hline, Text.lineFeeds_append, Int.natCast_add, Int.add_assoc]

theorem holds_of_mem_fragments {line : Int} {p : Piece} {f : Fragment}
    (h : f ∈ p.fragments line) :
    ∃ inside, p.Holds inside f.text f.hasReferences ∧ f.line = line + Text.lineFeeds inside := by
  cases p with
  | plain c => cases h
  | comment text => cases h
  | script opening body closing =>
    obtain rfl := List.mem_singleton.mp h
    exact ⟨opening, .script opening body closing, rfl⟩
  | tag text => exact holds_of_mem_attributeFragments h
  | expression text =>
    obtain rfl := List.mem_singleton.mp h
    exact ⟨['{', '{'], .expression text, (Int.add_zero line).symm⟩

theorem exists_piece_of_mem_fragments {line : Int} {ps : List Piece} {f : Fragment}
    (h : f ∈ fragments line ps) :
    ∃ first p rest inside, ps = first ++ p :: rest ∧ p.Holds inside f.text f.hasReferences ∧
      f.line = line + Text.lineFeeds (first.flatMap Piece.source ++ inside) := by
  induction ps generalizing line with
  | nil => cases h
  | cons p ps ih =>
    rw [fragments] at h
    rcases List.mem_append.mp h with h | h
    · obtain ⟨inside, hholds, hline⟩ := holds_of_mem_fragments h
      exact ⟨[], p, ps, inside, rfl, hholds, hline⟩
    · obtain ⟨first, q, rest, inside, rfl, hholds, hline⟩ := ih h
      refine ⟨p :: first, q, rest, inside, rfl, hholds, ?_⟩
      rw [hline, List.flatMap_cons, List.append_assoc, Text.lineFeeds_append p.source,
        Int.natCast_add, Int.add_assoc]

/-- The fragment stands behind this beginning of the document, inside one of its pieces. -/
structure FragmentAt (content before : Text) (f : Fragment) : Prop where
  piece : ∃ first p rest inside, pieces content = first ++ p :: rest ∧
    before = first.flatMap Piece.source ++ inside ∧ p.Holds inside f.text f.hasReferences
  line : f.line = 1 + Text.lineFeeds before
  within : before ++ f.text <+: content

theorem exists_fragmentAt {content : Text} {f : Fragment}
    (h : f ∈ fragments 1 (pieces content)) : ∃ before, FragmentAt content before f := by
  obtain ⟨first, p, rest, inside, hpieces, hholds, hline⟩ := exists_piece_of_mem_fragments h
  refine ⟨_, ⟨first, p, rest, inside, hpieces, rfl, hholds⟩, hline, ?_⟩
  have hcontent : content =
      first.flatMap Piece.source ++ (p.source ++ rest.flatMap Piece.source) := by
    rw [← flatMap_source_pieces content, hpieces, List.flatMap_append, List.flatMap_cons]
  rw [hcontent, List.append_assoc]
  exact (List.prefix_append_right_inj _).mpr (hholds.isPrefix.trans (List.prefix_append _ _))

/-! ## References -/

/-- A part of the value of an attribute: a character that stands for itself, or a reference with
what follows its ampersand and what it stands for. -/
inductive Part where
  | char (c : Char)
  | reference (name value : Text)
deriving DecidableEq

/-- The part as it is written. -/
def Part.source : Part → Text
  | char c => [c]
  | reference name _ => '&' :: name

/-- What the part stands for. -/
def Part.value : Part → Text
  | char c => [c]
  | reference _ value => value

/-- Cuts the value of an attribute into its parts. -/
def referenceParts : Text → Except TooManyDigits (List Part)
  | [] => .ok []
  | c :: cs =>
    if c = '&' then
      match reference? cs with
      | some (n, .ok value) => (referenceParts (cs.drop n)).map (.reference (cs.take n) value :: ·)
      | some (_, .error e) => .error e
      | none => (referenceParts cs).map (.char c :: ·)
    else (referenceParts cs).map (.char c :: ·)
termination_by s => s.length
decreasing_by all_goals simp only [List.length_cons, List.length_drop]; omega

/-- The parts of a fragment: characters, and references where they are resolved. -/
def Fragment.parts (f : Fragment) : Except TooManyDigits (List Part) :=
  if f.hasReferences then referenceParts f.text else .ok (f.text.map .char)

/-- To resolve the references is to put together what the parts stand for. -/
theorem unescape_eq (s : Text) : unescape s = (referenceParts s).map (·.flatMap Part.value) := by
  induction hlen : s.length using Nat.strongRecOn generalizing s with
  | ind n ih =>
    subst hlen
    cases s with
    | nil =>
      rw [unescape, referenceParts]
      rfl
    | cons c cs =>
      have hrest : ∀ k, unescape (cs.drop k) =
          (referenceParts (cs.drop k)).map (·.flatMap Part.value) := by
        intro k
        refine ih _ ?_ _ rfl
        rw [List.length_drop, List.length_cons]
        omega
      have hchar : (unescape cs).map (c :: ·) =
          ((referenceParts cs).map (Part.char c :: ·)).map (·.flatMap Part.value) := by
        have hnext := hrest 0
        rw [List.drop_zero] at hnext
        rw [hnext]
        cases referenceParts cs <;> rfl
      rw [unescape, referenceParts]
      by_cases hc : c = '&'
      · rw [if_pos hc, if_pos hc]
        cases hreference : reference? cs with
        | none => exact hchar
        | some r =>
          obtain ⟨k, value⟩ := r
          cases value with
          | error e => rfl
          | ok value =>
            dsimp only
            rw [hrest k]
            cases referenceParts (cs.drop k) <;> rfl
      · rw [if_neg hc, if_neg hc]
        exact hchar

theorem Fragment.script_eq (f : Fragment) : f.script = f.parts.map (·.flatMap Part.value) := by
  unfold script parts
  split
  · exact unescape_eq f.text
  · simp [Except.map, List.flatMap_map, Part.value]

/-- The reference is written on one line. -/
def Part.OnOneLine : Part → Prop
  | char _ => True
  | reference name _ => '\n' ∉ name

/-- The parts are written one after the other, and no reference goes over the end of a line. -/
theorem of_referenceParts {s : Text} {ps : List Part} (h : referenceParts s = .ok ps) :
    ps.flatMap Part.source = s ∧ ∀ p ∈ ps, p.OnOneLine := by
  induction hlen : s.length using Nat.strongRecOn generalizing s ps with
  | ind n ih =>
    subst hlen
    cases s with
    | nil =>
      rw [referenceParts] at h
      cases h
      exact ⟨rfl, by simp⟩
    | cons c cs =>
      -- A part in front of those of the rest, which is shorter.
      have hcons : ∀ k (p : Part), p.source = c :: cs.take k → p.OnOneLine →
          (referenceParts (cs.drop k)).map (p :: ·) = .ok ps →
            ps.flatMap Part.source = c :: cs ∧ ∀ p ∈ ps, p.OnOneLine := by
        intro k p hsource hp hmap
        cases hrest : referenceParts (cs.drop k) with
        | error e =>
          rw [hrest] at hmap
          cases hmap
        | ok rest =>
          rw [hrest] at hmap
          cases hmap
          have hlt : (cs.drop k).length < (c :: cs).length := by
            rw [List.length_drop, List.length_cons]
            omega
          obtain ⟨hsources, hlines⟩ := ih _ hlt hrest rfl
          refine ⟨?_, List.forall_mem_cons.mpr ⟨hp, hlines⟩⟩
          rw [List.flatMap_cons, hsources, hsource, List.cons_append, List.take_append_drop]
      rw [referenceParts] at h
      by_cases hc : c = '&'
      · rw [if_pos hc] at h
        cases hreference : reference? cs with
        | none =>
          rw [hreference] at h
          exact hcons 0 (.char c) rfl trivial h
        | some r =>
          obtain ⟨k, value⟩ := r
          rw [hreference] at h
          cases value with
          | error e => cases h
          | ok value =>
            refine hcons k (.reference (cs.take k) value) ?_ ?_ h
            · rw [hc]
              rfl
            · exact not_mem_take_reference? (.inr rfl) hreference
      · rw [if_neg hc] at h
        exact hcons 0 (.char c) rfl trivial h

theorem Fragment.of_parts {f : Fragment} {ps : List Part} (h : f.parts = .ok ps) :
    ps.flatMap Part.source = f.text ∧ ∀ p ∈ ps, p.OnOneLine := by
  unfold parts at h
  split at h
  · exact of_referenceParts h
  · cases h
    refine ⟨?_, ?_⟩
    · simp [List.flatMap_map, Part.source]
    · simp [Part.OnOneLine]

theorem Fragment.hasReferences_of_mem {f : Fragment} {ps : List Part} (h : f.parts = .ok ps)
    {name value : Text} (hmem : .reference name value ∈ ps) : f.hasReferences = true := by
  by_contra hplain
  rw [parts, if_neg hplain] at h
  cases h
  simp at hmem

/-! ## Places -/

/-- Where the part is written that stands for the character at this offset: the number of
characters of the source before that part. -/
def place : List Part → Nat → Nat
  | [], _ => 0
  | p :: ps, n =>
    if n < p.value.length then 0 else p.source.length + place ps (n - p.value.length)

/-- The line feeds that references stand for before this offset. -/
def referenceFeeds : List Part → Nat → Nat
  | [], _ => 0
  | .char _ :: ps, n => referenceFeeds ps (n - 1)
  | .reference _ value :: ps, n =>
    Text.lineFeeds (value.take n) + referenceFeeds ps (n - value.length)

@[simp] theorem referenceFeeds_zero (ps : List Part) : referenceFeeds ps 0 = 0 := by
  induction ps with
  | nil => rfl
  | cons p ps ih =>
    cases p with
    | char c => exact ih
    | reference name value =>
      rw [referenceFeeds, Nat.zero_sub, ih, List.take_zero]
      rfl

/-- A line feed before the offset is written before the place, or a reference stands for it. -/
theorem lineFeeds_take_value {ps : List Part} (h : ∀ p ∈ ps, p.OnOneLine) (n : Nat) :
    Text.lineFeeds ((ps.flatMap Part.value).take n) =
      Text.lineFeeds ((ps.flatMap Part.source).take (place ps n)) + referenceFeeds ps n := by
  induction ps generalizing n with
  | nil => simp [referenceFeeds, Text.lineFeeds]
  | cons p ps ih =>
    obtain ⟨hp, hps⟩ := List.forall_mem_cons.mp h
    rw [List.flatMap_cons, List.flatMap_cons, place]
    split
    · rename_i hinside
      rw [List.take_append_of_le_length (Nat.le_of_lt hinside), List.take_zero]
      cases p with
      | char c =>
        have hn : n = 0 := Nat.lt_one_iff.mp hinside
        rw [hn, referenceFeeds_zero, List.take_zero]
        rfl
      | reference name value =>
        have hrest : n - value.length = 0 := Nat.sub_eq_zero_of_le (Nat.le_of_lt hinside)
        rw [referenceFeeds, hrest, referenceFeeds_zero]
        exact (Nat.zero_add _).symm
    · rename_i hbehind
      rw [List.take_append, List.take_of_length_le (Nat.not_lt.mp hbehind),
        List.take_length_add_append, Text.lineFeeds_append, Text.lineFeeds_append, ih hps]
      cases p with
      | char c =>
        show _ = _ + referenceFeeds ps (n - 1)
        exact (Nat.add_assoc _ _ _).symm
      | reference name value =>
        have hname : Text.lineFeeds ('&' :: name) = 0 :=
          List.count_eq_zero.mpr fun hmem => hp (by simpa using hmem)
        have hall : value.take n = value := List.take_of_length_le (Nat.not_lt.mp hbehind)
        rw [referenceFeeds, hall]
        simp only [Part.source, Part.value, hname]
        omega

/-- The part at this place stands for the character at this offset. -/
structure StandsAt (ps : List Part) (n : Nat) (first : List Part) (p : Part) (rest : List Part) :
    Prop where
  parts_eq : ps = first ++ p :: rest
  place_eq : place ps n = (first.flatMap Part.source).length
  le_offset : (first.flatMap Part.value).length ≤ n
  offset_lt : n < (first.flatMap Part.value).length + p.value.length

theorem exists_standsAt {ps : List Part} {n : Nat} (h : n < (ps.flatMap Part.value).length) :
    ∃ first p rest, StandsAt ps n first p rest := by
  induction ps generalizing n with
  | nil => cases h
  | cons p ps ih =>
    by_cases hn : n < p.value.length
    · refine ⟨[], p, ps, rfl, ?_, Nat.zero_le n, ?_⟩
      · rw [place, if_pos hn]
        rfl
      · rwa [List.flatMap_nil, List.length_nil, Nat.zero_add]
    · rw [List.flatMap_cons, List.length_append] at h
      obtain ⟨first, q, rest, hparts, hplace, hle, hlt⟩ := ih (n := n - p.value.length) (by omega)
      refine ⟨p :: first, q, rest, by rw [hparts, List.cons_append], ?_, ?_, ?_⟩
      · rw [place, if_neg hn, hplace, List.flatMap_cons, List.length_append]
      · rw [List.flatMap_cons, List.length_append]
        omega
      · rw [List.flatMap_cons, List.length_append]
        omega

theorem StandsAt.place_lt {ps first rest : List Part} {n : Nat} {p : Part}
    (h : StandsAt ps n first p rest) : place ps n < (ps.flatMap Part.source).length := by
  have hp : 0 < p.source.length := by cases p <;> exact Nat.succ_pos _
  rw [h.place_eq, h.parts_eq, List.flatMap_append, List.flatMap_cons, List.length_append,
    List.length_append]
  omega

/-- Where line feeds are added, there is a reference that stands for one. -/
theorem exists_reference {ps : List Part} {n : Nat} (h : referenceFeeds ps n ≠ 0) :
    ∃ name value, .reference name value ∈ ps ∧ '\n' ∈ value := by
  induction ps generalizing n with
  | nil => exact absurd rfl h
  | cons p ps ih =>
    cases p with
    | char c =>
      obtain ⟨name, value, hmem, hfeed⟩ := ih h
      exact ⟨name, value, List.mem_cons_of_mem _ hmem, hfeed⟩
    | reference name value =>
      by_cases hfeed : '\n' ∈ value
      · exact ⟨name, value, List.mem_cons_self, hfeed⟩
      · have hnone : Text.lineFeeds (value.take n) = 0 :=
          List.count_eq_zero.mpr fun hmem => hfeed (List.mem_of_mem_take hmem)
        rw [referenceFeeds, hnone, Nat.zero_add] at h
        obtain ⟨name, value, hmem, hfeed⟩ := ih h
        exact ⟨name, value, List.mem_cons_of_mem _ hmem, hfeed⟩

/-! ## Lines -/

/-- A string in markup is found in a fragment whose script can be read. -/
theorem exists_fragment_of_mem {tag : Option Text} {fs : List Fragment} {o : Occurrence}
    (h : o ∈ occurrences (fragmentEvents tag fs).events) :
    ∃ f ∈ fs, ∃ script, f.script = .ok script ∧
      o ∈ occurrences (Script.events tag f.line script) := by
  induction fs with
  | nil => cases h
  | cons f fs ih =>
    rw [fragmentEvents] at h
    cases hscript : f.script with
    | error e =>
      rw [hscript] at h
      cases h
    | ok script =>
      rw [hscript] at h
      dsimp only at h
      rw [occurrences_append] at h
      rcases List.mem_append.mp h with h | h
      · unfold scriptEvents at h
        split at h
        · exact ⟨f, List.mem_cons_self, script, hscript, h⟩
        · cases h
      · obtain ⟨g, hg, found⟩ := ih h
        exact ⟨g, List.mem_cons_of_mem _ hg, found⟩

theorem FragmentAt.lineFeeds_take {content before : Text} {f : Fragment}
    (h : FragmentAt content before f) {k : Nat} (hk : k ≤ f.text.length) :
    Text.lineFeeds (content.take (before.length + k)) =
      Text.lineFeeds before + Text.lineFeeds (f.text.take k) := by
  obtain ⟨after, rfl⟩ := h.within
  rw [List.append_assoc, List.take_length_add_append, List.take_append_of_le_length hk,
    Text.lineFeeds_append]

/-- So many lines below a place of the fragment is still a line of it if as many lines follow. -/
theorem FragmentAt.exists_line_iff {content before : Text} {f : Fragment}
    (h : FragmentAt content before f) {k m : Nat} (hk : k ≤ f.text.length) {line : Int}
    (hline : line = 1 + Text.lineFeeds (content.take (before.length + k)) + m) :
    (∃ j ≤ f.text.length, line = 1 + Text.lineFeeds (content.take (before.length + j))) ↔
      m ≤ Text.lineFeeds (f.text.drop k) := by
  have hsum : Text.lineFeeds (f.text.take k) + Text.lineFeeds (f.text.drop k) =
      Text.lineFeeds f.text := by
    rw [← Text.lineFeeds_append, List.take_append_drop]
  rw [h.lineFeeds_take hk] at hline
  constructor
  · rintro ⟨j, hj, heq⟩
    have hle : Text.lineFeeds (f.text.take j) ≤ Text.lineFeeds f.text :=
      (List.take_sublist j f.text).count_le '\n'
    rw [h.lineFeeds_take hj] at heq
    omega
  · intro hm
    obtain ⟨j, hj, hfeeds⟩ := Text.exists_lineFeeds_take
      (show Text.lineFeeds (f.text.take k) + m ≤ Text.lineFeeds f.text by omega)
    refine ⟨j, hj, ?_⟩
    rw [h.lineFeeds_take hj, hfeeds]
    omega

/-- The string is marked at this offset of what the parts of a fragment stand for. -/
structure MarkedIn (content : Text) (o : Occurrence) (before : Text) (f : Fragment)
    (parts : List Part) (offset : Nat) : Prop where
  fragment : FragmentAt content before f
  parts_eq : f.parts = .ok parts
  mark : Script.MarkedAt f.line (parts.flatMap Part.value) offset o
  part : ∃ first p rest, StandsAt parts offset first p rest

theorem MarkedIn.place_lt {content : Text} {o : Occurrence} {before : Text} {f : Fragment}
    {parts : List Part} {offset : Nat} (h : MarkedIn content o before f parts offset) :
    place parts offset < f.text.length := by
  obtain ⟨first, p, rest, hpart⟩ := h.part
  rw [← (Fragment.of_parts h.parts_eq).1]
  exact hpart.place_lt

theorem exists_markedIn {tag : Option Text} {content : Text} {o : Occurrence}
    (h : o ∈ occurrences (findings tag content).events) :
    ∃ before f parts offset, MarkedIn content o before f parts offset ∧
      o.line = f.line + Text.lineFeeds ((parts.flatMap Part.value).take offset) := by
  obtain ⟨f, hf, script, hscript, hfound⟩ := exists_fragment_of_mem h
  obtain ⟨before, hat⟩ := exists_fragmentAt hf
  rw [f.script_eq] at hscript
  cases hparts : f.parts with
  | error e =>
    rw [hparts] at hscript
    cases hscript
  | ok parts =>
    rw [hparts] at hscript
    cases hscript
    obtain ⟨offset, hline, hmark⟩ := Script.exists_markedAt hfound
    have hpart := exists_standsAt (Script.offset_lt_of_markedAt hmark)
    exact ⟨before, f, parts, offset, ⟨hat, hparts, hmark, hpart⟩, hline⟩

/-- **Strings in markup keep their lines but for the line feeds of references.** Every string is
marked in a script body, in an expression or between the quotes of an attribute, and its line is
that of the place of the mark in the document and one more for each line feed that a reference
before it in the same attribute stands for. So it is a line of the fragment exactly if as many
lines follow there, and a line of the document exactly if as many lines follow at all. -/
theorem line_of_string_in_markup (tag : Option Text) (content : Text) {o : Occurrence}
    (h : o ∈ occurrences (findings tag content).events) :
    ∃ before f parts offset, MarkedIn content o before f parts offset ∧
      o.line = 1 + Text.lineFeeds (content.take (before.length + place parts offset)) +
        referenceFeeds parts offset ∧
      (referenceFeeds parts offset ≠ 0 → f.hasReferences = true ∧
        ∃ name value, .reference name value ∈ parts ∧ '\n' ∈ value) ∧
      ((∃ k ≤ f.text.length, o.line = 1 + Text.lineFeeds (content.take (before.length + k))) ↔
        referenceFeeds parts offset ≤ Text.lineFeeds (f.text.drop (place parts offset))) ∧
      (o.line ≤ 1 + Text.lineFeeds content ↔ referenceFeeds parts offset ≤
        Text.lineFeeds (content.drop (before.length + place parts offset))) := by
  obtain ⟨before, f, parts, offset, hmarked, hfound⟩ := exists_markedIn h
  obtain ⟨hsource, hlines⟩ := Fragment.of_parts hmarked.parts_eq
  have hinside := Nat.le_of_lt hmarked.place_lt
  have hline : o.line = 1 + Text.lineFeeds (content.take (before.length + place parts offset)) +
      referenceFeeds parts offset := by
    rw [hfound, hmarked.fragment.line, lineFeeds_take_value hlines, hsource,
      hmarked.fragment.lineFeeds_take hinside]
    omega
  refine ⟨before, f, parts, offset, hmarked, hline, fun hfeeds => ?_,
    hmarked.fragment.exists_line_iff hinside hline, ?_⟩
  · obtain ⟨name, value, hmem, hfeed⟩ := exists_reference hfeeds
    exact ⟨Fragment.hasReferences_of_mem hmarked.parts_eq hmem, name, value, hmem, hfeed⟩
  · have hsum := Text.lineFeeds_take_add_drop (before.length + place parts offset) content 1
    omega

/-- Strings before and behind a reference to a line feed in the second line of a value, in an
expression and in a script body. -/
theorem line_of_string_in_markup_mixed :
    let content : Text :=
      "<a b=\"\nts('x')&#10;ts('y')\">\x7b\x7b\nts('z')\x7d\x7d<script>\nts('w')</script>".toList
    let found : Text → Int → Occurrence := fun msgid line => ⟨⟨msgid, line, none, none⟩, []⟩
    occurrences (findings none content).events =
        [found "x".toList 2, found "y".toList 3, found "z".toList 3, found "w".toList 4] ∧
      ∀ o ∈ [found "x".toList 2, found "y".toList 3, found "z".toList 3, found "w".toList 4],
        ∃ before f parts offset, MarkedIn content o before f parts offset ∧
          o.line = 1 + Text.lineFeeds (content.take (before.length + place parts offset)) +
            referenceFeeds parts offset := by
  intro content found
  have hfound : occurrences (findings none content).events =
      [found "x".toList 2, found "y".toList 3, found "z".toList 3, found "w".toList 4] := by
    decide +kernel
  refine ⟨hfound, fun o ho => ?_⟩
  rw [← hfound] at ho
  obtain ⟨before, f, parts, offset, hmarked, hline, -⟩ := line_of_string_in_markup none content ho
  exact ⟨before, f, parts, offset, hmarked, hline⟩

/-- A document of one line with a string that is reported on the second. -/
theorem reference_adds_line :
    ∃ o ∈ occurrences (findings none "<a b=\"&#10;ts('x')\">".toList).events,
      1 + Text.lineFeeds "<a b=\"&#10;ts('x')\">".toList < o.line := by
  refine ⟨⟨⟨"x".toList, 2, none, none⟩, []⟩, ?_, ?_⟩ <;> decide +kernel

end Markup

end MessageHarvest
