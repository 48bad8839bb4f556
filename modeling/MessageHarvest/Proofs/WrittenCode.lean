import MessageHarvest.Proofs.LiteralExpressions
import MessageHarvest.Proofs.ScanBoundary
import Mathlib.Data.List.Forall2

/-! # Code that is read part by part

Written code is put together from parts, and each is read as its own tokens,
whatever follows it (`Reads`). A literal, a list in brackets and a call are
read from their parts in the same way in every language whose lexer has the
few properties of a `CodeReader`: what remains to be shown for a language is
how it reads a literal, a name and its marks. -/
namespace MessageHarvest

/-- A lexer with the states in which it reads code, and a walk over the tokens that reads the calls
of the marking function. -/
structure CodeReader where
  State : Type
  lexemes : State → Text → List Lexeme
  front : State → Char → Text → Shape × Nat
  after : State → Lexeme → State
  inCode : State → Prop
  isCall : List Token → Token → List Token → Bool
  grammar : CallGrammar
  tokenEvents : Option Text → List Token → List Token → List Event
  cuts : Scan.Cuts lexemes front after
  front_space : ∀ {state}, inCode state → ∀ c cs, Text.isSpace c = true →
    front state c cs = (.space, (cs.takeWhile Text.isSpace).length)
  after_space : ∀ {state}, inCode state → ∀ text, after state ⟨.space, text⟩ = state
  inCode_after : ∀ {state}, inCode state → ∀ kind text, inCode (after state ⟨.token kind, text⟩)
  kind_of_isCall : ∀ {before t after}, isCall before t after = true → t.kind = .name
  isCall_first : ∀ {name left after}, name.kind = .name → name.text = "ts".toList →
    left.isPunct ['('] = true → isCall [] name (left :: after) = true
  events_nil : ∀ tag before, tokenEvents tag before [] = []
  events_uncalled : ∀ tag {before t after}, isCall before t after = false →
    tokenEvents tag before (t :: after) = tokenEvents tag (t :: before) after
  events_called : ∀ tag {before t after call}, isCall before t after = true →
    grammar.read t after = .found call → tokenEvents tag before (t :: after) =
      .found ⟨call, commentLines tag (t.precedingComment? before)⟩ ::
        tokenEvents tag (t :: before) after

variable {r : CodeReader}

/-! ## Parts -/

/-- In code the part is read as these tokens, whatever follows it. -/
structure Reads (r : CodeReader) (s : Text) (line : Int) (ts : List Token) : Prop where
  bare : ∀ t ∈ ts, t.comment = none
  scan : ∀ {state}, r.inCode state → ∀ rest, ∃ state', r.inCode state' ∧
    Scan.ofLexemes line (r.lexemes state (s ++ rest)) = Scan.append ⟨ts.map .token, none⟩
      (Scan.ofLexemes (line + Text.lineFeeds s) (r.lexemes state' rest))

theorem Reads.nil (line : Int) : Reads r [] line [] :=
  ⟨by simp, fun {state} hstate rest => ⟨state, hstate, by simp [Text.lineFeeds, Scan.append]⟩⟩

theorem Reads.append {s s' : Text} {line : Int} {ts ts' : List Token} (h : Reads r s line ts)
    (h' : Reads r s' (line + Text.lineFeeds s) ts') : Reads r (s ++ s') line (ts ++ ts') := by
  refine ⟨fun t ht => ?_, fun hstate rest => ?_⟩
  · rcases List.mem_append.mp ht with ht | ht
    · exact h.bare t ht
    · exact h'.bare t ht
  · obtain ⟨state', hstate', hscan⟩ := h.scan hstate (s' ++ rest)
    obtain ⟨state'', hstate'', hscan'⟩ := h'.scan hstate' rest
    refine ⟨state'', hstate'', ?_⟩
    rw [List.append_assoc, hscan, hscan', Text.lineFeeds_append, Int.natCast_add, Int.add_assoc,
      ← Scan.append_assoc]
    simp [Scan.append]

theorem reads_space (line : Int) : Reads r [' '] line [] := by
  refine ⟨by simp, fun {state} hstate rest => ⟨state, hstate, ?_⟩⟩
  have hrun := r.cuts.runsOn_space (r.front_space hstate) (r.after_space hstate) (p := [' '])
    (List.forall_mem_singleton.mpr (by decide)) rest
  exact hrun.scan line

/-- A token is read as such if the lexer takes it so before what comes ahead. -/
theorem Reads.token {c : Char} {cs ahead : Text} {kind : Token.Kind} {line : Int}
    {ts : List Token}
    (h : ∀ {state}, r.inCode state → ∀ rest,
      r.front state c (cs ++ (ahead ++ rest)) = (.token kind, cs.length))
    (hahead : Reads r ahead (line + Text.lineFeeds (c :: cs)) ts) :
    Reads r (c :: cs ++ ahead) line (⟨kind, c :: cs, line, none⟩ :: ts) := by
  refine ⟨?_, fun {state} hstate rest => ?_⟩
  · intro t ht
    rcases List.mem_cons.mp ht with rfl | ht
    · rfl
    · exact hahead.bare t ht
  · obtain ⟨state', hstate', hscan'⟩ :=
      hahead.scan (r.inCode_after hstate kind (c :: cs)) rest
    refine ⟨state', hstate', ?_⟩
    have hfront := h hstate rest
    have hscan : Scan.ofLexemes line (r.lexemes state (c :: (cs ++ (ahead ++ rest)))) = _ :=
      r.cuts.scan_cons (by simp [hfront]) line
    rw [hfront, List.take_left, List.drop_left] at hscan
    rw [List.append_assoc, List.cons_append, Text.lineFeeds_append, Int.natCast_add,
      ← Int.add_assoc]
    refine hscan.trans (congrArg (Scan.append _) hscan') |>.trans ?_
    rw [← Scan.append_assoc]
    rfl

theorem Reads.single {c : Char} {cs : Text} {kind : Token.Kind} (line : Int)
    (h : ∀ {state}, r.inCode state → ∀ rest,
      r.front state c (cs ++ rest) = (.token kind, cs.length)) :
    Reads r (c :: cs) line [⟨kind, c :: cs, line, none⟩] := by
  have hread : Reads r (c :: cs ++ []) line [⟨kind, c :: cs, line, none⟩] :=
    Reads.token h (Reads.nil _)
  rwa [List.append_nil] at hread

/-- A source that is one part has its tokens, and the scan does not break off. -/
theorem Reads.scan_eq {s : Text} {line : Int} {ts : List Token} (h : Reads r s line ts)
    (state : r.State) (hstate : r.inCode state) :
    Scan.ofLexemes line (r.lexemes state s) = ⟨ts.map .token, none⟩ := by
  obtain ⟨state', _, hscan⟩ := h.scan hstate []
  rw [List.append_nil, r.cuts.nil] at hscan
  simpa [Scan.append, Scan.ofLexemes] using hscan

/-! ## Tokens that are no calls -/

/-- The tokens are no calls, whatever stands around them. -/
def Uncalled (r : CodeReader) (ts : List Token) : Prop :=
  ∀ t ∈ ts, ∀ before after, r.isCall before t after = false

theorem uncalled_nil : Uncalled r [] := by
  simp [Uncalled]

theorem uncalled_append {ts us : List Token} (hts : Uncalled r ts) (hus : Uncalled r us) :
    Uncalled r (ts ++ us) := by
  intro t ht
  rcases List.mem_append.mp ht with ht | ht
  · exact hts t ht
  · exact hus t ht

theorem uncalled_cons {t : Token} {ts : List Token}
    (ht : ∀ before after, r.isCall before t after = false) (hts : Uncalled r ts) :
    Uncalled r (t :: ts) := by
  intro u hu
  rcases List.mem_cons.mp hu with rfl | hu
  · exact ht
  · exact hts u hu

theorem uncalled_of_kind {t : Token} (h : t.kind ≠ .name) {ts : List Token}
    (hts : Uncalled r ts) : Uncalled r (t :: ts) :=
  uncalled_cons (fun _ _ => Bool.eq_false_iff.mpr fun hcall => h (r.kind_of_isCall hcall)) hts

theorem uncalled_mark {t : Token} {mark : Text} (h : t.isPunct mark = true) {ts : List Token}
    (hts : Uncalled r ts) : Uncalled r (t :: ts) := by
  simp only [Token.isPunct, Bool.and_eq_true, decide_eq_true_eq] at h
  exact uncalled_of_kind (by simp [h.1]) hts

theorem uncalled_literal {t : Token} {v : Text} (h : t.kind = .literal v) {ts : List Token}
    (hts : Uncalled r ts) : Uncalled r (t :: ts) :=
  uncalled_of_kind (by simp [h]) hts

/-! ## Marks and literals -/

/-- The part is read as one mark. -/
def ReadsMark (r : CodeReader) (source mark : Text) : Prop :=
  ∀ line, ∃ t, Reads r source line [t] ∧ t.isPunct mark = true

/-- The part is read as one literal. -/
def ReadsLiteral (r : CodeReader) (source value : Text) : Prop :=
  ∀ line, ∃ t, Reads r source line [t] ∧ t.kind = .literal value

theorem readsMark_single {c : Char}
    (h : ∀ {state}, r.inCode state → ∀ rest, r.front state c rest = (.token .punct, 0)) :
    ReadsMark r [c] [c] :=
  fun line => ⟨_, Reads.single line h, by simp [Token.isPunct]⟩

/-- A mark of which the lexer is sure before a blank. -/
theorem readsMark_blank (c : Char) (cs : Text)
    (h : ∀ {state}, r.inCode state → ∀ rest,
      r.front state c (cs ++ ' ' :: rest) = (.token .punct, cs.length)) :
    ReadsMark r (c :: cs ++ [' ']) (c :: cs) :=
  fun line => ⟨_, Reads.token h (reads_space _), by simp [Token.isPunct]⟩

theorem ReadsMark.after_blank {source mark : Text} (h : ReadsMark r source mark) :
    ReadsMark r (' ' :: source) mark := by
  intro line
  obtain ⟨t, ht, hmark⟩ := h (line + Text.lineFeeds [' '])
  exact ⟨t, (reads_space line).append ht, hmark⟩

theorem argument_of_kind {t : Token} (h : t.kind ≠ .punct) {ts : List Token}
    (hts : Argument ts) : Argument (t :: ts) := by
  refine .plain ?_ ?_ ?_ hts
  · simp [Token.opens?, h]
  · simp [Token.closes?, h]
  · simp [Token.isPunct, h]

theorem argument_literal {t : Token} {v : Text} (h : t.kind = .literal v) {ts : List Token}
    (hts : Argument ts) : Argument (t :: ts) :=
  argument_of_kind (by simp [h]) hts

/-- Marks that are neither brackets nor commas. -/
def isJoint (mark : Text) : Bool :=
  Bracket.opening? mark = none && Bracket.closing? mark = none && mark ≠ ",".toList

theorem argument_joint {t : Token} {mark : Text} (h : t.isPunct mark = true)
    (hjoint : isJoint mark = true) {ts : List Token} (hts : Argument ts) : Argument (t :: ts) := by
  simp only [isJoint, Bool.and_eq_true, decide_eq_true_eq] at hjoint
  obtain ⟨⟨hopen, hclose⟩, hcomma⟩ := hjoint
  exact .plain ((Token.opens?_of_isPunct h).trans hopen) ((Token.closes?_of_isPunct h).trans hclose)
    (Token.isPunct_of_ne h hcomma) hts

/-! ## Arguments -/

/-- The part is read as one argument, of which this holds. -/
def ReadsArgument (r : CodeReader) (source : Text) (P : List Token → Prop) : Prop :=
  ∀ line, ∃ ts, Reads r source line ts ∧ ts ≠ [] ∧ Argument ts ∧ Uncalled r ts ∧ P ts

/-- Literals with an operator between them are one literal expression. -/
theorem readsArgument_literals {α : Type} {source value : α → Text} {joint operator : Text}
    (hpiece : ∀ p, ReadsLiteral r (source p) (value p)) (hmark : ReadsMark r joint operator)
    (hjoint : isJoint operator = true) (p : α) (ps : List α) :
    ReadsArgument r (Text.joinWith joint ((p :: ps).map source))
      fun ts => literalValue? operator ts = some ((p :: ps).flatMap value) := by
  induction ps generalizing p with
  | nil =>
    intro line
    obtain ⟨t, ht, hkind⟩ := hpiece p line
    have hsource : Text.joinWith joint ([p].map source) = source p := by
      rw [Text.joinWith, List.map_singleton, List.intercalate_singleton]
    refine ⟨[t], hsource ▸ ht, List.cons_ne_nil _ _, argument_literal hkind .nil,
      uncalled_literal hkind uncalled_nil, ?_⟩
    show literalValue? operator [t] = _
    rw [literalValue?, Token.value?_eq_some_iff.mpr hkind, List.flatMap_singleton]
  | cons p' ps ih =>
    intro line
    have hsource : Text.joinWith joint ((p :: p' :: ps).map source) =
        source p ++ joint ++ Text.joinWith joint ((p' :: ps).map source) :=
      List.intercalate_cons_cons
    obtain ⟨t, ht, hkind⟩ := hpiece p line
    obtain ⟨mark, hjoin, hoperator⟩ := hmark (line + Text.lineFeeds (source p))
    obtain ⟨ts, hts, _, harg, hquiet, hvalue⟩ := ih p' (line + Text.lineFeeds (source p ++ joint))
    refine ⟨t :: mark :: ts, hsource ▸ (ht.append hjoin).append hts, List.cons_ne_nil _ _,
      argument_literal hkind (argument_joint hoperator hjoint harg),
      uncalled_literal hkind (uncalled_mark hoperator hquiet), ?_⟩
    show literalValue? operator (t :: mark :: ts) = _
    rw [literalValue?, Token.value?_eq_some_iff.mpr hkind, hoperator, hvalue]
    rfl

/-- Arguments with commas between them are read one by one. -/
theorem reads_commaJoined {α : Type} {source : α → Text} {P : α → List Token → Prop}
    (hcomma : ReadsMark r ", ".toList ",".toList) (xs : List α)
    (hargs : ∀ x ∈ xs, ReadsArgument r (source x) (P x)) (line : Int) :
    ∃ args ts, Reads r (Text.joinWith ", ".toList (xs.map source)) line ts ∧
      CommaJoined args ts ∧ Uncalled r ts ∧ List.Forall₂ P xs args := by
  induction xs generalizing line with
  | nil => exact ⟨[], [], Reads.nil line, .nil, uncalled_nil, .nil⟩
  | cons x xs ih =>
    obtain ⟨arg, harg, hne, hargument, hquiet, hx⟩ := hargs x List.mem_cons_self line
    cases xs with
    | nil =>
      refine ⟨[arg], arg, ?_, .last hargument hne, hquiet, .cons hx .nil⟩
      rwa [List.map_singleton, Text.joinWith, List.intercalate_singleton]
    | cons x' xs =>
      obtain ⟨comma, hread, hmark⟩ := hcomma (line + Text.lineFeeds (source x))
      obtain ⟨args, ts, hts, hjoined, huncalled, hrest⟩ :=
        ih (fun y hy => hargs y (List.mem_cons_of_mem x hy))
          (line + Text.lineFeeds (source x ++ ", ".toList))
      cases hrest with
      | @cons _ arg' _ args hx' hrest =>
        refine ⟨arg :: arg' :: args, arg ++ comma :: ts, ?_, .cons hargument hmark hjoined,
          uncalled_append hquiet (uncalled_mark hmark huncalled), .cons hx (.cons hx' hrest)⟩
        rw [List.map_cons, List.map_cons, Text.joinWith, List.intercalate_cons_cons,
          List.append_cons arg comma ts]
        exact (harg.append hread).append hts

/-! ## Options -/

/-- The tokens of one option: its key, and one literal as its value. -/
def IsItem (separator : Text) (bareKeys : Bool) (item : Text × Text) (arg : List Token) : Prop :=
  ∃ value, keyedItem? separator bareKeys arg = some (item.1, [value]) ∧
    value.kind = .literal item.2

/-- The part is read as a key and the separator behind it. -/
def ReadsKey (r : CodeReader) (separator : Text) (bareKeys : Bool) (source key : Text) : Prop :=
  ∀ line, ∃ t mark, Reads r source line [t, mark] ∧ t.kind ≠ .punct ∧ Uncalled r [t] ∧
    itemKey? bareKeys t = some key ∧ mark.isPunct separator = true

theorem readsKey_literal {separator source colon key : Text} (bareKeys : Bool)
    (hkey : ReadsLiteral r source key) (hmark : ReadsMark r colon separator) :
    ReadsKey r separator bareKeys (source ++ colon) key := by
  intro line
  obtain ⟨t, ht, hkind⟩ := hkey line
  obtain ⟨mark, hread, hseparator⟩ := hmark (line + Text.lineFeeds source)
  exact ⟨t, mark, ht.append hread, by simp [hkind], uncalled_literal hkind uncalled_nil,
    by rw [itemKey?, hkind], hseparator⟩

theorem readsArgument_item {separator : Text} {bareKeys : Bool} {keySource source : Text}
    {item : Text × Text} (hkey : ReadsKey r separator bareKeys keySource item.1)
    (hjoint : isJoint separator = true) (hvalue : ReadsLiteral r source item.2) :
    ReadsArgument r (keySource ++ source) (IsItem separator bareKeys item) := by
  intro line
  obtain ⟨key, mark, hread, hkind, hquiet, hname, hseparator⟩ := hkey line
  obtain ⟨value, hread', hliteral⟩ := hvalue (line + Text.lineFeeds keySource)
  refine ⟨[key, mark, value], hread.append hread', List.cons_ne_nil _ _,
    argument_of_kind hkind (argument_joint hseparator hjoint (argument_literal hliteral .nil)),
    uncalled_append hquiet (uncalled_mark hseparator (uncalled_literal hliteral uncalled_nil)),
    value, ?_, hliteral⟩
  rw [keyedItem?, if_pos hseparator, hname]
  rfl

/-- The texts under the names of options. -/
def CallOptions.ofItems (names : List (Text × OptionRole)) (items : List (Text × Text)) :
    CallOptions :=
  names.foldl (fun options name => (items.lookup name.1).elim options (options.set name.2)) .empty

section Items

variable {separator : Text} {bareKeys : Bool} {items : List (Text × Text)}
  {args : List (List Token)}

theorem lookup_items (h : List.Forall₂ (IsItem separator bareKeys) items args)
    (operator key : Text) :
    ((args.filterMap (keyedItem? separator bareKeys)).lookup key).map (literalValue? operator) =
      (items.lookup key).map some := by
  induction h with
  | nil => rfl
  | cons hitem _ ih =>
    obtain ⟨value, hkeyed, hkind⟩ := hitem
    rw [List.filterMap_cons_some hkeyed, List.lookup_cons, List.lookup_cons]
    split
    · rw [Option.map_some, Option.map_some, literalValue?, Token.value?_eq_some_iff.mpr hkind]
    · exact ih

theorem map_fst_items (h : List.Forall₂ (IsItem separator bareKeys) items args) :
    (args.filterMap (keyedItem? separator bareKeys)).map Prod.fst = items.map Prod.fst := by
  induction h with
  | nil => rfl
  | cons hitem _ ih =>
    obtain ⟨value, hkeyed, _⟩ := hitem
    rw [List.filterMap_cons_some hkeyed, List.map_cons, List.map_cons, ih]

/-- What the options say is what was written, in whatever order. -/
theorem read?_items (h : List.Forall₂ (IsItem separator bareKeys) items args)
    (hnodup : (items.map Prod.fst).Nodup) (operator : Text) (names : List (Text × OptionRole)) :
    CallOptions.read? operator names
        (Keyed.putAll [] (args.filterMap (keyedItem? separator bareKeys))) =
      some (CallOptions.ofItems names items) := by
  have hkeys : (([] ++ args.filterMap (keyedItem? separator bareKeys)).map Prod.fst).Nodup := by
    rw [List.nil_append, map_fst_items h]
    exact hnodup
  rw [Keyed.putAll_eq_append hkeys, List.nil_append]
  exact CallOptions.read?_eq_foldl (fun key => items.lookup key) fun name _ =>
    lookup_items h operator name.1

end Items

/-- Items in brackets are one argument, and are read as options. -/
theorem readsArgument_options {α : Type} {source : α → Text} {item : α → Text × Text}
    {separator : Text} {bareKeys : Bool} (opening closing : Char) {b : Bracket}
    (hb : Bracket.opening? [opening] = some b) (hb' : Bracket.closing? [closing] = some b)
    (hopening : ReadsMark r [opening] [opening]) (hclosing : ReadsMark r [closing] [closing])
    (hcomma : ReadsMark r ", ".toList ",".toList) {xs : List α}
    (hitems : ∀ x ∈ xs, ReadsArgument r (source x) (IsItem separator bareKeys (item x)))
    (hnodup : ((xs.map item).map Prod.fst).Nodup) (operator : Text)
    (names : List (Text × OptionRole)) :
    ReadsArgument r (opening :: (Text.joinWith ", ".toList (xs.map source) ++ [closing])) fun ts =>
      ts.head?.any (·.isPunct [opening]) = true ∧ ∃ items,
        keyedItems? separator bareKeys ts = some items ∧
        CallOptions.read? operator names items =
          some (CallOptions.ofItems names (xs.map item)) := by
  intro line
  obtain ⟨left, hleft, hopen⟩ := hopening line
  obtain ⟨args, ts, hts, hjoined, hquiet, hread⟩ :=
    reads_commaJoined hcomma xs hitems (line + Text.lineFeeds [opening])
  obtain ⟨right, hright, hclose⟩ := hclosing (line + Text.lineFeeds [opening] +
    Text.lineFeeds (Text.joinWith ", ".toList (xs.map source)))
  have ho : left.opens? = some b := (Token.opens?_of_isPunct hopen).trans hb
  have hc : right.closes? = some b := (Token.closes?_of_isPunct hclose).trans hb'
  refine ⟨left :: (ts ++ [right]), hleft.append (hts.append hright), List.cons_ne_nil _ _,
    .group ho hc hjoined.balanced .nil,
    uncalled_mark hopen (uncalled_append hquiet (uncalled_mark hclose uncalled_nil)), hopen, _,
    hjoined.keyedItems? ho hc separator bareKeys [], ?_⟩
  exact read?_items (List.forall₂_map_left_iff.mpr hread) hnodup operator names

/-! ## Calls -/

/-- A text, and options behind it if there are any, are read as the arguments of a call. -/
theorem reads_callArguments {expression : Text} {options : Option Text}
    {msgid : Text} (read : CallOptions) (hne : msgid ≠ [])
    (hcomma : ReadsMark r ", ".toList ",".toList)
    (hexpression : ReadsArgument r expression fun ts =>
      literalValue? r.grammar.operator ts = some msgid)
    (hoptions : ∀ source ∈ options,
      ReadsArgument r source fun ts => r.grammar.options? ts = some read)
    (hnone : options = none → read = .empty) (line : Int) :
    ∃ args ts, Reads r (expression ++ options.elim [] (", ".toList ++ ·)) line ts ∧
      CommaJoined args ts ∧ Uncalled r ts ∧
      ∀ name, r.grammar.readArguments name args =
        .found ⟨msgid, name.line, nonEmpty? read.plural, read.context⟩ := by
  obtain ⟨ts, hread, hnil, harg, hquiet, hvalue⟩ := hexpression line
  obtain ⟨c, cs, rfl⟩ := List.exists_cons_of_ne_nil hne
  cases options with
  | none =>
    refine ⟨[ts], ts, by rwa [Option.elim_none, List.append_nil], .last harg hnil, hquiet, ?_⟩
    intro name
    simp only [CallGrammar.readArguments, hvalue, hnone rfl]
  | some source =>
    obtain ⟨comma, hread', hmark⟩ := hcomma (line + Text.lineFeeds expression)
    obtain ⟨us, hus, hnil', harg', hquiet', hoptions⟩ := hoptions source rfl
      (line + Text.lineFeeds expression + Text.lineFeeds ", ".toList)
    refine ⟨[ts, us], ts ++ comma :: us, hread.append (hread'.append hus),
      .cons harg hmark (.last harg' hnil'),
      uncalled_append hquiet (uncalled_mark hmark hquiet'), ?_⟩
    intro name
    simp only [CallGrammar.readArguments, hvalue, hoptions]

theorem tokenEvents_uncalled (tag : Option Text) {ts : List Token} (h : Uncalled r ts)
    (before : List Token) : r.tokenEvents tag before ts = [] := by
  induction ts generalizing before with
  | nil => exact r.events_nil tag before
  | cons t ts ih =>
    rw [r.events_uncalled tag (h t List.mem_cons_self before ts)]
    exact ih (fun u hu => h u (List.mem_cons_of_mem t hu)) (t :: before)

/-- A call with these arguments is found, and nothing else is. -/
theorem tokenEvents_call (tag : Option Text) {args : List (List Token)} {ts : List Token}
    (hjoined : CommaJoined args ts) (hquiet : Uncalled r ts) {line : Int}
    {left right stop : Token} {call : Call} (hopen : left.isPunct ['('] = true)
    (hclose : right.isPunct [')'] = true) (hend : stop.isPunct [';'] = true)
    (hfound : r.grammar.readArguments ⟨.name, "ts".toList, line, none⟩ args = .found call) :
    r.tokenEvents tag []
        (⟨.name, "ts".toList, line, none⟩ :: left :: (ts ++ right :: [stop])) =
      [.found ⟨call, []⟩] := by
  have hcall : r.isCall [] ⟨.name, "ts".toList, line, none⟩ (left :: (ts ++ right :: [stop])) =
      true := r.isCall_first rfl rfl hopen
  have hread : r.grammar.read ⟨.name, "ts".toList, line, none⟩ (left :: (ts ++ right :: [stop])) =
      .found call := by
    rw [CallGrammar.read, if_pos hopen, hjoined.readBracketed? (Token.closes?_of_isPunct hclose)]
    exact hfound
  have hrest : Uncalled r (left :: (ts ++ right :: [stop])) :=
    uncalled_mark hopen (uncalled_append hquiet
      (uncalled_mark hclose (uncalled_mark hend uncalled_nil)))
  rw [r.events_called tag hcall hread, tokenEvents_uncalled tag hrest]
  rfl

/-- **A statement that calls the marking function gives one string.** Its name is read before the
bracket, and its arguments as the call that was written. -/
theorem statement_events {s : Text} {line : Int} {call : Call}
    (hname : ∀ {s us}, Reads r ('(' :: s) (line + Text.lineFeeds "ts".toList) us →
      Reads r ("ts".toList ++ '(' :: s) line (⟨.name, "ts".toList, line, none⟩ :: us))
    (hmark : ∀ c ∈ ['(', ')', ';'], ReadsMark r [c] [c])
    (hargs : ∀ line', ∃ args ts, Reads r s line' ts ∧ CommaJoined args ts ∧ Uncalled r ts ∧
      r.grammar.readArguments ⟨.name, "ts".toList, line, none⟩ args = .found call) :
    ∃ ts, Reads r ("ts".toList ++ '(' :: (s ++ [')']) ++ [';']) line ts ∧
      ∀ tag, r.tokenEvents tag [] ts = [.found ⟨call, []⟩] := by
  obtain ⟨args, ts, hread, hjoined, hquiet, hfound⟩ :=
    hargs (line + Text.lineFeeds "ts".toList + Text.lineFeeds ['('])
  obtain ⟨left, hleft, hopen⟩ := hmark '(' (by simp) (line + Text.lineFeeds "ts".toList)
  obtain ⟨right, hright, hclose⟩ := hmark ')' (by simp)
    (line + Text.lineFeeds "ts".toList + Text.lineFeeds ['('] + Text.lineFeeds s)
  obtain ⟨stop, hstop, hend⟩ := hmark ';' (by simp)
    (line + Text.lineFeeds ("ts".toList ++ '(' :: (s ++ [')'])))
  have hgroup : Reads r ('(' :: (s ++ [')'])) (line + Text.lineFeeds "ts".toList)
      (left :: (ts ++ [right])) := hleft.append (hread.append hright)
  refine ⟨_, (hname hgroup).append hstop, fun tag => ?_⟩
  rw [List.cons_append, List.cons_append, List.append_assoc, List.singleton_append]
  exact tokenEvents_call tag hjoined hquiet hopen hclose hend hfound

end MessageHarvest
