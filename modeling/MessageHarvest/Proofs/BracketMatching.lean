import MessageHarvest.Proofs.BalancedTokens

/-! # The bracket that closes a list

Which tokens stand well bracketed is told by a grammar (`WellBracketed`), and
which index closes a list by that grammar and the indices between the two
brackets (`ClosedAt`). The reader keeps the brackets that are open on a stack.
It gets to a closing bracket only over tokens that close each open bracket in
turn, with balanced tokens before each (`Unwinds`), so with an empty stack it
finds the closing bracket if there is one, and no other. The arguments are the
tokens between the brackets, cut at the commas that stand in no inner bracket:
joined by commas again they are all of these tokens (`Separated`). -/
namespace MessageHarvest

/-! ## Well bracketed tokens -/

/-- Nothing, a token that is no bracket, well bracketed tokens between two brackets of one kind, and
such tokens one after the other. -/
inductive WellBracketed : List Token → Prop
  | empty : WellBracketed []
  | token {t : Token} (hopen : t.opens? = none) (hclose : t.closes? = none) : WellBracketed [t]
  | pair {o c : Token} {b : Bracket} {ts : List Token} (hopen : o.opens? = some b)
      (hclose : c.closes? = some b) (hts : WellBracketed ts) : WellBracketed (o :: (ts ++ [c]))
  | append {ts us : List Token} (hts : WellBracketed ts) (hus : WellBracketed us) :
      WellBracketed (ts ++ us)

/-- Balanced tokens are the well bracketed ones, taken apart from the front. -/
theorem wellBracketed_iff_balanced {ts : List Token} : WellBracketed ts ↔ Balanced ts := by
  constructor
  · intro h
    induction h with
    | empty => exact .nil
    | token hopen hclose => exact .plain hopen hclose .nil
    | pair hopen hclose _ ih => exact .group hopen hclose ih .nil
    | append _ _ ihts ihus => exact ihts.append ihus
  · intro h
    induction h with
    | nil => exact .empty
    | plain hopen hclose _ ih => exact .append (.token hopen hclose) ih
    | @group o c b us ts hopen hclose _ _ ihin ih =>
      have hparts := WellBracketed.append (.pair hopen hclose ihin) ih
      rwa [List.cons_append, List.append_assoc, List.singleton_append] at hparts

/-! ## The search for the closing bracket -/

/-- Tokens that close the open brackets one after the other, the innermost first, with balanced
tokens before each closing bracket and after the last. -/
inductive Unwinds : List Bracket → List Token → Prop
  | done {ts : List Token} (hts : Balanced ts) : Unwinds [] ts
  | close {b : Bracket} {outside : List Bracket} {us ts : List Token} {c : Token}
      (hus : Balanced us) (hclose : c.closes? = some b) (hts : Unwinds outside ts) :
      Unwinds (b :: outside) (us ++ c :: ts)

theorem Unwinds.plain {t : Token} (hopen : t.opens? = none) (hclose : t.closes? = none)
    {stack : List Bracket} {ts : List Token} (h : Unwinds stack ts) : Unwinds stack (t :: ts) := by
  cases h with
  | done hts => exact .done (.plain hopen hclose hts)
  | close hus hc hts => exact .close (.plain hopen hclose hus) hc hts

/-- An opening bracket and what closes it are a group before the rest. -/
theorem Unwinds.opening {o : Token} {b : Bracket} (hopen : o.opens? = some b)
    {stack : List Bracket} {ts : List Token} (h : Unwinds (b :: stack) ts) :
    Unwinds stack (o :: ts) := by
  obtain _ | @⟨_, _, us, ts, c, hus, hclose, hts⟩ := h
  cases hts with
  | done hts => exact .done (.group hopen hclose hus hts)
  | @close b' _ vs ts c' hvs hclose' hts =>
    have hgroup := Unwinds.close (.group hopen hclose hus hvs) hclose' hts
    rwa [List.cons_append, List.append_assoc, List.cons_append] at hgroup

/-- What the search passes over closes every open bracket, and then comes the one looked for. -/
theorem closingIndex?_eq_some {outer : Bracket} {stack : List Bracket} {ts : List Token} {n : Nat}
    (h : closingIndex? outer stack ts = some n) :
    ∃ front c rest, ts = front ++ c :: rest ∧ Unwinds stack front ∧ c.closes? = some outer ∧
      n = front.length := by
  -- the cases are those of one token: it opens, closes the outer or an inner bracket, or is plain
  fun_induction closingIndex? outer stack ts generalizing n with
  | case1 => cases h
  | case2 stack t ts b hopen ih =>
    obtain ⟨m, hm, rfl⟩ := Option.map_eq_some_iff.mp h
    obtain ⟨front, c, rest, rfl, hfront, hc, rfl⟩ := ih hm
    exact ⟨t :: front, c, rest, rfl, hfront.opening hopen, hc, rfl⟩
  | case3 t ts _ hclose =>
    cases h
    exact ⟨[], t, ts, rfl, .done .nil, hclose, rfl⟩
  | case4 => cases h
  | case5 t ts _ b stack hclose ih =>
    obtain ⟨m, hm, rfl⟩ := Option.map_eq_some_iff.mp h
    obtain ⟨front, c, rest, rfl, hfront, hc, rfl⟩ := ih hm
    exact ⟨t :: front, c, rest, rfl, .close .nil hclose hfront, hc, rfl⟩
  | case6 => cases h
  | case7 stack t ts hclose hopen ih =>
    obtain ⟨m, hm, rfl⟩ := Option.map_eq_some_iff.mp h
    obtain ⟨front, c, rest, rfl, hfront, hc, rfl⟩ := ih hm
    exact ⟨t :: front, c, rest, rfl, hfront.plain hopen hclose, hc, rfl⟩

/-- The search finds the closing bracket behind balanced tokens, and nothing else. -/
theorem closingIndex?_eq_some_iff {outer : Bracket} {ts : List Token} {n : Nat} :
    closingIndex? outer [] ts = some n ↔
      ∃ inner c rest, ts = inner ++ c :: rest ∧ Balanced inner ∧ c.closes? = some outer ∧
        n = inner.length := by
  constructor
  · intro h
    obtain ⟨front, c, rest, hts, hfront, hc, hn⟩ := closingIndex?_eq_some h
    cases hfront with
    | done hbalanced => exact ⟨front, c, rest, hts, hbalanced, hc, hn⟩
  · rintro ⟨inner, c, rest, rfl, hinner, hc, rfl⟩
    rw [hinner.closingIndex?_append, closingIndex?, Token.opens?_of_closes? hc, hc]
    simp

/-! ## Arguments between commas -/

/-- A comma stands in no bracket: the tokens before it are well bracketed. -/
def HasOuterComma (ts : List Token) : Prop :=
  ∃ before comma after, ts = before ++ comma :: after ∧ comma.isPunct ",".toList = true ∧
    WellBracketed before

theorem length_prepend (ts : List Token) {pieces : List (List Token)} (h : pieces ≠ []) :
    (prepend ts pieces).length = pieces.length := by
  cases pieces with
  | nil => exact absurd rfl h
  | cons piece pieces => rfl

/-- At a comma that stands in no bracket the tokens are cut. -/
theorem Balanced.two_le_cutAtCommas {ts : List Token} (h : Balanced ts) {comma : Token}
    (hcomma : comma.isPunct ",".toList = true) (rest : List Token) :
    2 ≤ (cutAtCommas 0 (ts ++ comma :: rest)).length := by
  induction h with
  | nil =>
    have hpos := List.length_pos_iff.mpr (cutAtCommas_ne_nil 0 rest)
    rw [List.nil_append, cutAtCommas, hcomma, decide_eq_true rfl, Bool.and_self, if_pos rfl,
      List.length_cons]
    omega
  | @plain t ts hopen hclose _ ih =>
    cases ht : t.isPunct ",".toList with
    | true =>
      rw [List.cons_append, cutAtCommas, ht, decide_eq_true rfl, Bool.and_self, if_pos rfl,
        List.length_cons]
      exact Nat.le_succ_of_le ih
    | false =>
      rw [List.cons_append, cutAtCommas_cons (.inr ht), Token.depthAfter_plain hopen hclose,
        length_prepend _ (cutAtCommas_ne_nil _ _)]
      exact ih
  | group hopen hclose hin _ _ ih =>
    rw [List.cons_append, List.append_assoc, List.cons_append,
      cutAtCommas_group hopen hclose hin.cutAtCommas_append,
      length_prepend _ (cutAtCommas_ne_nil _ _)]
    exact ih

/-- Balanced tokens are an argument, or have one before their first outer comma. -/
theorem Balanced.argument_or_comma {ts : List Token} (h : Balanced ts) :
    Argument ts ∨ ∃ a comma rest, ts = a ++ comma :: rest ∧ Argument a ∧
      comma.isPunct ",".toList = true ∧ Balanced rest := by
  induction h with
  | nil => exact .inl .nil
  | @plain t ts hopen hclose hts ih =>
    cases ht : t.isPunct ",".toList with
    | true => exact .inr ⟨[], t, ts, rfl, .nil, ht, hts⟩
    | false =>
      rcases ih with harg | ⟨a, comma, rest, rfl, harg, hcomma, hrest⟩
      · exact .inl (.plain hopen hclose ht harg)
      · exact .inr ⟨t :: a, comma, rest, rfl, .plain hopen hclose ht harg, hcomma, hrest⟩
  | @group o c b us ts hopen hclose hus _ _ ih =>
    rcases ih with harg | ⟨a, comma, rest, rfl, harg, hcomma, hrest⟩
    · exact .inl (.group hopen hclose hus harg)
    · have hfirst : Argument (o :: (us ++ c :: a)) := .group hopen hclose hus harg
      refine .inr ⟨o :: (us ++ c :: a), comma, rest, ?_, hfirst, hcomma, hrest⟩
      rw [List.cons_append, List.append_assoc, List.cons_append]

/-- Arguments are the well bracketed tokens without an outer comma. -/
theorem argument_iff {a : List Token} : Argument a ↔ WellBracketed a ∧ ¬ HasOuterComma a := by
  constructor
  · intro h
    refine ⟨wellBracketed_iff_balanced.mpr h.balanced, ?_⟩
    rintro ⟨before, comma, after, rfl, hcomma, hbefore⟩
    have htwo := (wellBracketed_iff_balanced.mp hbefore).two_le_cutAtCommas hcomma after
    rw [h.cutAtCommas_self, List.length_singleton] at htwo
    omega
  · rintro ⟨hwell, hno⟩
    rcases (wellBracketed_iff_balanced.mp hwell).argument_or_comma with
      harg | ⟨first, comma, rest, rfl, hfirst, hcomma, _⟩
    · exact harg
    · exact absurd ⟨first, comma, rest, rfl, hcomma, wellBracketed_iff_balanced.mpr hfirst.balanced⟩
        hno

/-- The arguments joined by commas are the tokens. Behind the last argument there may be one more
comma, and an argument that is empty stands before a comma. -/
def Separated (args : List (List Token)) (ts : List Token) : Prop :=
  Joined args ts ∧ args.getLast? ≠ some [] ∨
    ∃ front comma, ts = front ++ [comma] ∧ comma.isPunct ",".toList = true ∧
      Joined args front ∧ args ≠ []

theorem Balanced.joined {ts : List Token} (h : Balanced ts) :
    ∃ a pieces, Joined (a :: pieces) ts ∧ ∀ piece ∈ a :: pieces, Argument piece := by
  induction hlen : ts.length using Nat.strongRecOn generalizing ts with
  | ind n ih =>
    subst hlen
    rcases h.argument_or_comma with harg | ⟨a, comma, rest, rfl, harg, hcomma, hrest⟩
    · exact ⟨ts, [], .last ts, List.forall_mem_singleton.mpr harg⟩
    · have hlt : rest.length < (a ++ comma :: rest).length := by
        rw [List.length_append, List.length_cons]
        omega
      obtain ⟨b, pieces, hjoined, hpieces⟩ := ih _ hlt hrest rfl
      exact ⟨a, b :: pieces, .cons a hcomma hjoined, List.forall_mem_cons.mpr ⟨harg, hpieces⟩⟩

/-- An empty piece behind the others is a comma behind them. -/
theorem Joined.concat_nil {pieces : List (List Token)} {ts : List Token} (h : Joined pieces ts)
    (hne : pieces ≠ []) {comma : Token} (hcomma : comma.isPunct ",".toList = true) :
    Joined (pieces ++ [[]]) (ts ++ [comma]) := by
  induction h with
  | nil => exact absurd rfl hne
  | last a => exact .cons a hcomma (.last [])
  | cons a hmark _ ih =>
    rw [List.append_assoc]
    exact .cons a hmark (ih (List.cons_ne_nil _ _))

theorem Joined.of_concat_nil {pieces : List (List Token)} {ts : List Token}
    (h : Joined (pieces ++ [[]]) ts) (hne : pieces ≠ []) :
    ∃ front comma, ts = front ++ [comma] ∧ comma.isPunct ",".toList = true ∧
      Joined pieces front := by
  induction pieces generalizing ts with
  | nil => exact absurd rfl hne
  | cons a pieces ih =>
    cases pieces with
    | nil =>
      cases h with
      | @cons _ _ _ mark _ hmark hrest =>
        cases hrest
        exact ⟨a, mark, rfl, hmark, .last a⟩
    | cons b pieces =>
      cases h with
      | @cons _ _ _ mark _ hmark hrest =>
        obtain ⟨front, comma, rfl, hcomma, hfront⟩ := ih hrest (List.cons_ne_nil _ _)
        refine ⟨a ++ mark :: front, comma, ?_, hcomma, .cons a hmark hfront⟩
        rw [List.append_assoc, List.cons_append]

/-- **The arguments are all of the tokens.** For balanced tokens the arguments are the one way to
separate them by commas. -/
theorem separated_iff {args : List (List Token)} {ts : List Token} :
    (Separated args ts ∧ ∀ a ∈ args, Argument a) ↔ Balanced ts ∧ argumentsOf ts = args := by
  constructor
  · rintro ⟨⟨h, hlast⟩ | ⟨front, comma, rfl, hcomma, h, hne⟩, hargs⟩
    · exact ⟨h.balanced hargs, by rw [h.argumentsOf_eq hargs, if_neg hlast]⟩
    · have hall : ∀ a ∈ args ++ [[]], Argument a :=
        List.forall_mem_append.mpr ⟨hargs, List.forall_mem_singleton.mpr .nil⟩
      have hwhole := h.concat_nil hne hcomma
      refine ⟨hwhole.balanced hall, ?_⟩
      rw [hwhole.argumentsOf_eq hall]
      simp
  · rintro ⟨hbalanced, rfl⟩
    obtain ⟨a, pieces, hjoined, hpieces⟩ := hbalanced.joined
    rw [hjoined.argumentsOf_eq hpieces]
    generalize a :: pieces = pieces at hjoined hpieces
    split
    · rename_i hlast
      obtain ⟨front, rfl⟩ := List.getLast?_eq_some_iff.mp hlast
      rw [List.dropLast_concat]
      refine ⟨?_, fun a ha => hpieces a (List.mem_append_left _ ha)⟩
      by_cases hfront : front = []
      · subst hfront
        cases hjoined
        exact .inl ⟨.nil, by simp⟩
      · obtain ⟨ts, comma, rfl, hcomma, hjoined⟩ := hjoined.of_concat_nil hfront
        exact .inr ⟨ts, comma, rfl, hcomma, hjoined, hfront⟩
    · rename_i hlast
      exact ⟨.inl ⟨hjoined, hlast⟩, hpieces⟩

/-! ## Indices -/

/-- The tokens at the indices after `i` and before `close`. -/
structure Between (tokens : List Token) (i close : Int) (inner : List Token) : Prop where
  close_eq : close = i + 1 + inner.length
  element : ∀ (k : Nat) (t : Token), inner[k]? = some t → elementAt tokens (i + 1 + k) = .ok t

/-- The list that opens at `i` is closed at `close`: well bracketed tokens stand between them, and
there is a closing bracket of the kind. -/
structure ClosedAt (tokens : List Token) (i : Int) (outer : Bracket) (close : Int)
    (inner : List Token) : Prop where
  between : Between tokens i close inner
  wellBracketed : WellBracketed inner
  closing : ∃ c, elementAt tokens close = .ok c ∧ c.closes? = some outer

/-- An index counts from the front, or from the end if it is negative. -/
theorem elementAt_eq_ok_iff {α : Type} {xs : List α} {i : Int} {x : α} :
    elementAt xs i = .ok x ↔
      (0 ≤ i ∧ xs[i.toNat]? = some x) ∨
        (i < 0 ∧ 0 ≤ xs.length + i ∧ xs[(xs.length + i).toNat]? = some x) := by
  unfold elementAt
  split <;> grind

/-- The elements behind an index are those at the next ones. -/
theorem elementAt_after {α : Type} {xs : List α} {i : Int} {x : α} (h : elementAt xs i = .ok x)
    (k : Nat) (y : α) :
    elementAt xs (i + 1 + k) = .ok y ↔ (elementsAfter xs i)[k]? = some y := by
  rw [elementAt_eq_ok_iff] at h ⊢
  rw [elementsAfter]
  rcases h with ⟨hi, _⟩ | ⟨hi, hlow, _⟩
  · have hindex : (i + 1).toNat + k = (i + 1 + k).toNat := by omega
    rw [if_neg (by omega), List.getElem?_drop, hindex]
    constructor
    · rintro (⟨_, hy⟩ | ⟨hneg, _⟩)
      · exact hy
      · omega
    · exact fun hy => .inl ⟨by omega, hy⟩
  · -- up to the end the indices are still negative, and from the beginning on they are not
    rw [if_pos hi]
    by_cases hk : i + 1 + k < 0
    · have hindex : (xs.length + i + 1).toNat + k = (xs.length + (i + 1 + k)).toNat := by omega
      rw [List.getElem?_append_left (by rw [List.length_drop]; omega), List.getElem?_drop, hindex]
      constructor
      · rintro (⟨hpos, _⟩ | ⟨_, _, hy⟩)
        · omega
        · exact hy
      · exact fun hy => .inr ⟨hk, by omega, hy⟩
    · have hindex : k - (xs.length - (xs.length + i + 1).toNat) = (i + 1 + k).toNat := by omega
      rw [List.getElem?_append_right (by rw [List.length_drop]; omega), List.length_drop, hindex]
      constructor
      · rintro (⟨_, hy⟩ | ⟨hneg, _⟩)
        · exact hy
        · omega
      · exact fun hy => .inl ⟨by omega, hy⟩

/-- A list is closed by a bracket behind balanced tokens, as the tokens are read on. -/
theorem closedAt_iff {tokens : List Token} {i : Int} {t : Token} (h : elementAt tokens i = .ok t)
    {outer : Bracket} {close : Int} {inner : List Token} :
    ClosedAt tokens i outer close inner ↔
      ∃ c rest, elementsAfter tokens i = inner ++ c :: rest ∧ Balanced inner ∧
        c.closes? = some outer ∧ close = i + 1 + inner.length := by
  constructor
  · rintro ⟨⟨hclose, helement⟩, hwell, c, hc, hkind⟩
    have hprefix : inner ++ [c] <+: elementsAfter tokens i := by
      rw [List.prefix_iff_getElem?]
      intro k hk
      rw [← elementAt_after h]
      by_cases hin : k < inner.length
      · rw [List.getElem_append_left hin]
        exact helement k _ (List.getElem?_eq_getElem hin)
      · have hlast : k = inner.length := by
          rw [List.length_append, List.length_singleton] at hk
          omega
        subst hlast
        rw [List.getElem_concat_length rfl, ← hclose]
        exact hc
    obtain ⟨rest, hrest⟩ := hprefix
    refine ⟨c, rest, ?_, wellBracketed_iff_balanced.mp hwell, hkind, hclose⟩
    rw [← hrest, List.append_assoc, List.singleton_append]
  · rintro ⟨c, rest, hafter, hbalanced, hkind, hclose⟩
    refine ⟨⟨hclose, ?_⟩, wellBracketed_iff_balanced.mpr hbalanced, c, ?_, hkind⟩
    · intro k u hu
      obtain ⟨hk, _⟩ := List.getElem?_eq_some_iff.mp hu
      rw [elementAt_after h, hafter, List.getElem?_append_left hk, hu]
    · rw [hclose, elementAt_after h, hafter, List.getElem?_append_right (Nat.le_refl _)]
      simp

/-- The reading of a list, by the search for its closing bracket. -/
theorem splitArguments_eq {tokens : List Token} {i : Int} {t : Token}
    (h : elementAt tokens i = .ok t) {outer : Bracket}
    (hopen : Bracket.opening? t.text = some outer) :
    splitArguments tokens i = .ok ((closingIndex? outer [] (elementsAfter tokens i)).map fun n =>
      (argumentsOf ((elementsAfter tokens i).take n), i + 1 + n)) := by
  rw [splitArguments, h]
  simp only [Except.map, hopen, Option.bind_some, readBracketed?, Option.map_map, Function.comp_def]

/-- A list that is closed is read up to its closing bracket. -/
theorem ClosedAt.splitArguments_eq {tokens : List Token} {i : Int} {t : Token}
    (h : elementAt tokens i = .ok t) {outer : Bracket}
    (hopen : Bracket.opening? t.text = some outer) {close : Int} {inner : List Token}
    (hclosed : ClosedAt tokens i outer close inner) :
    splitArguments tokens i = .ok (some (argumentsOf inner, close)) := by
  obtain ⟨c, rest, hafter, hbalanced, hkind, rfl⟩ := (closedAt_iff h).mp hclosed
  have hindex : closingIndex? outer [] (elementsAfter tokens i) = some inner.length :=
    closingIndex?_eq_some_iff.mpr ⟨inner, c, rest, hafter, hbalanced, hkind, rfl⟩
  rw [MessageHarvest.splitArguments_eq h hopen, hindex, hafter, Option.map_some, List.take_left]

/-- A list that is read is closed there. -/
theorem closedAt_of_splitArguments {tokens : List Token} {i : Int} {t : Token}
    (h : elementAt tokens i = .ok t) {outer : Bracket}
    (hopen : Bracket.opening? t.text = some outer) {args : List (List Token)} {close : Int}
    (hread : splitArguments tokens i = .ok (some (args, close))) :
    ∃ inner, ClosedAt tokens i outer close inner ∧ argumentsOf inner = args := by
  rw [splitArguments_eq h hopen] at hread
  obtain ⟨n, hn, heq⟩ := Option.map_eq_some_iff.mp (Except.ok.inj hread)
  obtain ⟨rfl, rfl⟩ := Prod.mk.inj heq
  obtain ⟨inner, c, rest, hafter, hbalanced, hkind, rfl⟩ := closingIndex?_eq_some_iff.mp hn
  refine ⟨inner, (closedAt_iff h).mpr ⟨c, rest, hafter, hbalanced, hkind, rfl⟩, ?_⟩
  rw [hafter, List.take_left]

/-- **Reading a bracketed list is exact.** For an index of an opening bracket, its arguments and the
closing index are returned exactly if well bracketed tokens stand between the two indices, the
bracket at the second is of the kind of the first, and the arguments, each well bracketed and
without an outer comma, make up these tokens. There is at most one such index, and nothing is
returned exactly if there is none. -/
theorem splitArguments_exact {tokens : List Token} {i : Int} {t : Token}
    (h : elementAt tokens i = .ok t) {outer : Bracket}
    (hopen : Bracket.opening? t.text = some outer) :
    (∀ args close, splitArguments tokens i = .ok (some (args, close)) ↔
      ∃ inner, ClosedAt tokens i outer close inner ∧ Separated args inner ∧
        ∀ a ∈ args, WellBracketed a ∧ ¬ HasOuterComma a) ∧
    (∀ close, (∃ args, splitArguments tokens i = .ok (some (args, close))) ↔
      ∃ inner, ClosedAt tokens i outer close inner) ∧
    (∀ close inner close' inner', ClosedAt tokens i outer close inner →
      ClosedAt tokens i outer close' inner' → close = close' ∧ inner = inner') ∧
    (splitArguments tokens i = .ok none ↔
      ¬ ∃ close inner, ClosedAt tokens i outer close inner) := by
  refine ⟨fun args close => ⟨fun hread => ?_, ?_⟩, fun close => ⟨?_, ?_⟩, ?_, ?_⟩
  · obtain ⟨inner, hclosed, hargs⟩ := closedAt_of_splitArguments h hopen hread
    obtain ⟨hseparated, harguments⟩ :=
      separated_iff.mpr ⟨wellBracketed_iff_balanced.mp hclosed.wellBracketed, hargs⟩
    exact ⟨inner, hclosed, hseparated, fun a ha => argument_iff.mp (harguments a ha)⟩
  · rintro ⟨inner, hclosed, hseparated, harguments⟩
    obtain ⟨_, rfl⟩ :=
      separated_iff.mp ⟨hseparated, fun a ha => argument_iff.mpr (harguments a ha)⟩
    exact hclosed.splitArguments_eq h hopen
  · rintro ⟨args, hread⟩
    obtain ⟨inner, hclosed, _⟩ := closedAt_of_splitArguments h hopen hread
    exact ⟨inner, hclosed⟩
  · rintro ⟨inner, hclosed⟩
    exact ⟨_, hclosed.splitArguments_eq h hopen⟩
  · intro close inner close' inner' hclosed hclosed'
    obtain ⟨c, rest, hafter, hbalanced, hkind, rfl⟩ := (closedAt_iff h).mp hclosed
    obtain ⟨c', rest', hafter', hbalanced', hkind', rfl⟩ := (closedAt_iff h).mp hclosed'
    have hindex := closingIndex?_eq_some_iff.mpr ⟨inner, c, rest, hafter, hbalanced, hkind, rfl⟩
    have hindex' :=
      closingIndex?_eq_some_iff.mpr ⟨inner', c', rest', hafter', hbalanced', hkind', rfl⟩
    have hlength : inner.length = inner'.length := Option.some.inj (hindex.symm.trans hindex')
    refine ⟨by rw [hlength], ?_⟩
    exact (List.append_inj (hafter.symm.trans hafter') hlength).1
  · constructor
    · rintro hnone ⟨close, inner, hclosed⟩
      rw [hclosed.splitArguments_eq h hopen] at hnone
      cases hnone
    · intro hno
      rw [splitArguments_eq h hopen]
      cases hindex : closingIndex? outer [] (elementsAfter tokens i) with
      | none => rfl
      | some n =>
        obtain ⟨inner, c, rest, hafter, hbalanced, hkind, _⟩ := closingIndex?_eq_some_iff.mp hindex
        exact absurd ⟨_, inner, (closedAt_iff h).mpr ⟨c, rest, hafter, hbalanced, hkind, rfl⟩⟩ hno

/-- A list with an inner list, an empty argument and a comma at its end, read from either end, and
a list whose inner bracket is closed by the wrong kind. -/
theorem splitArguments_exact_nested :
    let mark : Text → Token := fun text => ⟨.punct, text, 1, none⟩
    let name : Text → Token := fun text => ⟨.name, text, 1, none⟩
    let group : List Token :=
      [mark "[".toList, name "b".toList, mark ",".toList, mark "]".toList]
    let inner : List Token := name "a".toList :: mark ",".toList :: group ++
      [mark ",".toList, mark ",".toList]
    let tokens : List Token := mark "(".toList :: inner ++ [mark ")".toList, mark ")".toList]
    let crossed : List Token := [mark "(".toList, mark "[".toList, mark ")".toList]
    (elementAt tokens 0 = .ok (mark "(".toList) ∧ elementAt tokens (-11) = .ok (mark "(".toList) ∧
      Bracket.opening? "(".toList = some .round) ∧
    (∀ close ∈ [9, -2], ∃ start inner, ClosedAt tokens start .round close inner ∧
      Separated [[name "a".toList], group, []] inner ∧
      ∀ a ∈ [[name "a".toList], group, []], WellBracketed a ∧ ¬ HasOuterComma a) ∧
    ¬ ∃ close inner, ClosedAt crossed 0 .round close inner := by
  intro mark name group inner tokens crossed
  have hfront : elementAt tokens 0 = .ok (mark "(".toList) := by decide
  have hback : elementAt tokens (-11) = .ok (mark "(".toList) := by decide
  have hcrossed : elementAt crossed 0 = .ok (mark "(".toList) := by decide
  have hopen : Bracket.opening? "(".toList = some .round := by decide
  have hread : splitArguments tokens 0 = .ok (some ([[name "a".toList], group, []], 9)) := by
    decide
  have hreadBack : splitArguments tokens (-11) =
      .ok (some ([[name "a".toList], group, []], -2)) := by
    decide
  refine ⟨⟨hfront, hback, hopen⟩, ?_, ?_⟩
  · intro close hclose
    simp only [List.mem_cons, List.not_mem_nil, or_false] at hclose
    rcases hclose with rfl | rfl
    · exact ⟨0, ((splitArguments_exact hfront hopen).1 _ _).mp hread⟩
    · exact ⟨-11, ((splitArguments_exact hback hopen).1 _ _).mp hreadBack⟩
  · exact (splitArguments_exact hcrossed hopen).2.2.2.mp (by decide)

end MessageHarvest
