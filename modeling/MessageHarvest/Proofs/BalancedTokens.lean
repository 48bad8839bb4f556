import MessageHarvest.Token.Call
import Mathlib.Data.List.Basic

/-! # Tokens with balanced brackets

In balanced tokens every bracket is closed by one of its kind. The search for
a closing bracket goes past them, and commas inside their brackets do not cut
an argument. The items of such a list that have keys of their own are all
kept, and options are read from them by their names. -/
namespace MessageHarvest

theorem Bracket.opening?_of_closing? {mark : Text} {b : Bracket}
    (h : Bracket.closing? mark = some b) : Bracket.opening? mark = none := by
  fun_cases Bracket.closing? mark with
  | case4 => simp_all [Bracket.closing?]
  | _ => rfl

theorem Token.opens?_of_closes? {t : Token} {b : Bracket} (h : t.closes? = some b) :
    t.opens? = none := by
  unfold Token.closes? at h
  split at h
  · rename_i hkind
    rw [Token.opens?, if_pos hkind, Bracket.opening?_of_closing? h]
  · cases h

theorem Token.opens?_of_isPunct {t : Token} {mark : Text} (h : t.isPunct mark = true) :
    t.opens? = Bracket.opening? mark := by
  simp only [Token.isPunct, Bool.and_eq_true, decide_eq_true_eq] at h
  rw [Token.opens?, if_pos h.1, h.2]

theorem Token.closes?_of_isPunct {t : Token} {mark : Text} (h : t.isPunct mark = true) :
    t.closes? = Bracket.closing? mark := by
  simp only [Token.isPunct, Bool.and_eq_true, decide_eq_true_eq] at h
  rw [Token.closes?, if_pos h.1, h.2]

theorem Token.isPunct_of_ne {t : Token} {mark other : Text} (h : t.isPunct mark = true)
    (hne : mark ≠ other) : t.isPunct other = false := by
  simp only [Token.isPunct, Bool.and_eq_true, decide_eq_true_eq] at h
  simp [Token.isPunct, h.2, hne]

/-- Tokens in which every bracket is closed by one of its kind. -/
inductive Balanced : List Token → Prop
  | nil : Balanced []
  | plain {t : Token} {ts : List Token} (hopen : t.opens? = none) (hclose : t.closes? = none) :
      Balanced ts → Balanced (t :: ts)
  | group {o c : Token} {b : Bracket} {us ts : List Token} (hopen : o.opens? = some b)
      (hclose : c.closes? = some b) : Balanced us → Balanced ts → Balanced (o :: (us ++ c :: ts))

theorem Balanced.append {ts us : List Token} (hts : Balanced ts) (hus : Balanced us) :
    Balanced (ts ++ us) := by
  induction hts with
  | nil => exact hus
  | plain hopen hclose _ ih => exact .plain hopen hclose ih
  | group hopen hclose hin _ _ ih =>
    rw [List.cons_append, List.append_assoc]
    exact .group hopen hclose hin ih

/-- The search for a closing bracket goes past balanced tokens. -/
theorem Balanced.closingIndex?_append {ts : List Token} (h : Balanced ts) (outer : Bracket)
    (inner : List Bracket) (rest : List Token) :
    closingIndex? outer inner (ts ++ rest) =
      (closingIndex? outer inner rest).map (· + ts.length) := by
  induction h generalizing inner rest with
  | nil => simp
  | plain hopen hclose _ ih =>
    simp [closingIndex?, hopen, hclose, ih, Option.map_map, Function.comp_def, Nat.add_assoc]
  | @group o c b us ts hopen hclose _ _ ihin ih =>
    have hc := Token.opens?_of_closes? hclose
    have hlen : (o :: (us ++ c :: ts)).length = ts.length + 1 + us.length + 1 := by
      simp only [List.length_append, List.length_cons]
      omega
    rw [hlen]
    simp only [List.cons_append, List.append_assoc, closingIndex?, hopen, ihin, hc, hclose, ih,
      if_true, Option.map_map, Function.comp_def, Nat.add_assoc]

/-! ## Arguments between commas -/

/-- Puts tokens before the first piece. -/
def prepend (ts : List Token) : List (List Token) → List (List Token)
  | [] => [ts]
  | piece :: pieces => (ts ++ piece) :: pieces

theorem prepend_nil {pieces : List (List Token)} (h : pieces ≠ []) : prepend [] pieces = pieces := by
  cases pieces with
  | nil => exact absurd rfl h
  | cons piece pieces => rfl

theorem prepend_append (ts us : List Token) (pieces : List (List Token)) :
    prepend (ts ++ us) pieces = prepend ts (prepend us pieces) := by
  cases pieces with
  | nil => rfl
  | cons piece pieces => simp [prepend]

theorem cutAtCommas_ne_nil (depth : Nat) (ts : List Token) : cutAtCommas depth ts ≠ [] := by
  cases ts with
  | nil => simp [cutAtCommas]
  | cons t ts =>
    rw [cutAtCommas]
    split
    · simp
    · split <;> simp

theorem cutAtCommas_cons {depth : Nat} {t : Token} (h : 0 < depth ∨ t.isPunct ",".toList = false)
    (ts : List Token) :
    cutAtCommas depth (t :: ts) = prepend [t] (cutAtCommas (t.depthAfter depth) ts) := by
  have hcomma : ¬ (depth = 0 && t.isPunct ",".toList) = true := by
    rcases h with h | h
    · simp [Nat.ne_of_gt h]
    · simp only [h, Bool.and_false, Bool.false_eq_true, not_false_eq_true]
  rw [cutAtCommas, if_neg hcomma]
  cases hcut : cutAtCommas (t.depthAfter depth) ts with
  | nil => rfl
  | cons piece pieces => rfl

theorem Token.depthAfter_of_opens? {t : Token} {b : Bracket} (h : t.opens? = some b) (depth : Nat) :
    t.depthAfter depth = depth + 1 := by
  simp [Token.depthAfter, h]

theorem Token.depthAfter_of_closes? {t : Token} {b : Bracket} (h : t.closes? = some b)
    (depth : Nat) : t.depthAfter depth = depth - 1 := by
  simp [Token.depthAfter, h, Token.opens?_of_closes? h]

theorem Token.depthAfter_plain {t : Token} (hopen : t.opens? = none) (hclose : t.closes? = none)
    (depth : Nat) : t.depthAfter depth = depth := by
  simp [Token.depthAfter, hopen, hclose]

theorem Token.isPunct_comma_of_opens? {t : Token} {b : Bracket} (h : t.opens? = some b) :
    t.isPunct ",".toList = false := by
  by_contra hcomma
  rw [Token.opens?_of_isPunct (eq_true_of_ne_false hcomma)] at h
  cases h

theorem Token.isPunct_comma_of_closes? {t : Token} {b : Bracket} (h : t.closes? = some b) :
    t.isPunct ",".toList = false := by
  by_contra hcomma
  rw [Token.closes?_of_isPunct (eq_true_of_ne_false hcomma)] at h
  cases h

/-- A bracket with its content is not cut where the content is not. -/
theorem cutAtCommas_group {o c : Token} {b : Bracket} {us : List Token}
    (hopen : o.opens? = some b) (hclose : c.closes? = some b)
    (hus : ∀ depth rest, cutAtCommas (depth + 1) (us ++ rest) =
      prepend us (cutAtCommas (depth + 1) rest)) (depth : Nat) (rest : List Token) :
    cutAtCommas depth (o :: (us ++ c :: rest)) =
      prepend (o :: (us ++ [c])) (cutAtCommas depth rest) := by
  rw [cutAtCommas_cons (.inr (Token.isPunct_comma_of_opens? hopen)),
    Token.depthAfter_of_opens? hopen, hus,
    cutAtCommas_cons (.inr (Token.isPunct_comma_of_closes? hclose)),
    Token.depthAfter_of_closes? hclose, Nat.add_sub_cancel, ← prepend_append, ← prepend_append]
  rfl

/-- Inside a bracket balanced tokens are not cut. -/
theorem Balanced.cutAtCommas_append {ts : List Token} (h : Balanced ts) (depth : Nat)
    (rest : List Token) :
    cutAtCommas (depth + 1) (ts ++ rest) = prepend ts (cutAtCommas (depth + 1) rest) := by
  induction h generalizing depth rest with
  | nil => rw [List.nil_append, prepend_nil (cutAtCommas_ne_nil _ _)]
  | plain hopen hclose _ ih =>
    rw [List.cons_append, cutAtCommas_cons (.inl (Nat.succ_pos depth)),
      Token.depthAfter_plain hopen hclose, ih, ← prepend_append]
    rfl
  | group hopen hclose _ _ ihin ih =>
    rw [List.cons_append, List.append_assoc, List.cons_append,
      cutAtCommas_group hopen hclose ihin, ih, ← prepend_append]
    simp

/-- Balanced tokens without a comma outside their brackets. -/
inductive Argument : List Token → Prop
  | nil : Argument []
  | plain {t : Token} {ts : List Token} (hopen : t.opens? = none) (hclose : t.closes? = none)
      (hcomma : t.isPunct ",".toList = false) : Argument ts → Argument (t :: ts)
  | group {o c : Token} {b : Bracket} {us ts : List Token} (hopen : o.opens? = some b)
      (hclose : c.closes? = some b) : Balanced us → Argument ts → Argument (o :: (us ++ c :: ts))

theorem Argument.balanced {ts : List Token} (h : Argument ts) : Balanced ts := by
  induction h with
  | nil => exact .nil
  | plain hopen hclose _ _ ih => exact .plain hopen hclose ih
  | group hopen hclose hus _ ih => exact .group hopen hclose hus ih

/-- An argument is not cut. -/
theorem Argument.cutAtCommas_append {ts : List Token} (h : Argument ts) (rest : List Token) :
    cutAtCommas 0 (ts ++ rest) = prepend ts (cutAtCommas 0 rest) := by
  induction h with
  | nil => rw [List.nil_append, prepend_nil (cutAtCommas_ne_nil _ _)]
  | plain hopen hclose hcomma _ ih =>
    rw [List.cons_append, cutAtCommas_cons (.inr hcomma), Token.depthAfter_plain hopen hclose, ih,
      ← prepend_append]
    rfl
  | group hopen hclose hus _ ih =>
    rw [List.cons_append, List.append_assoc, List.cons_append,
      cutAtCommas_group hopen hclose hus.cutAtCommas_append, ih, ← prepend_append]
    simp

theorem Argument.cutAtCommas_comma {ts : List Token} (h : Argument ts) {comma : Token}
    (hcomma : comma.isPunct ",".toList = true) (rest : List Token) :
    cutAtCommas 0 (ts ++ comma :: rest) = ts :: cutAtCommas 0 rest := by
  rw [h.cutAtCommas_append, cutAtCommas, hcomma]
  simp [prepend]

theorem Argument.cutAtCommas_self {a : List Token} (h : Argument a) : cutAtCommas 0 a = [a] := by
  have hwhole := h.cutAtCommas_append []
  rw [List.append_nil] at hwhole
  rw [hwhole]
  simp [cutAtCommas, prepend]

/-- Pieces with single commas between them. -/
inductive Joined : List (List Token) → List Token → Prop
  | nil : Joined [] []
  | last (a : List Token) : Joined [a] a
  | cons (a : List Token) {b : List Token} {pieces : List (List Token)} {comma : Token}
      {ts : List Token} (hcomma : comma.isPunct ",".toList = true) (h : Joined (b :: pieces) ts) :
      Joined (a :: b :: pieces) (a ++ comma :: ts)

theorem Joined.balanced {pieces : List (List Token)} {ts : List Token} (h : Joined pieces ts)
    (hpieces : ∀ a ∈ pieces, Argument a) : Balanced ts := by
  induction h with
  | nil => exact .nil
  | last a => exact (hpieces a List.mem_cons_self).balanced
  | cons a hcomma _ ih =>
    obtain ⟨ha, hrest⟩ := List.forall_mem_cons.mp hpieces
    exact ha.balanced.append
      (.plain (Token.opens?_of_isPunct hcomma) (Token.closes?_of_isPunct hcomma) (ih hrest))

/-- Joined arguments are cut apart again. -/
theorem Joined.cutAtCommas_eq {pieces : List (List Token)} {ts : List Token}
    (h : Joined pieces ts) (hne : pieces ≠ []) (hpieces : ∀ a ∈ pieces, Argument a) :
    cutAtCommas 0 ts = pieces := by
  induction h with
  | nil => exact absurd rfl hne
  | last a => exact (hpieces a List.mem_cons_self).cutAtCommas_self
  | cons a hcomma _ ih =>
    obtain ⟨ha, hrest⟩ := List.forall_mem_cons.mp hpieces
    rw [ha.cutAtCommas_comma hcomma, ih (List.cons_ne_nil _ _) hrest]

/-- Of joined arguments all are found, but for an empty one at the end. -/
theorem Joined.argumentsOf_eq {pieces : List (List Token)} {ts : List Token}
    (h : Joined pieces ts) (hpieces : ∀ a ∈ pieces, Argument a) :
    argumentsOf ts = if pieces.getLast? = some [] then pieces.dropLast else pieces := by
  by_cases hne : pieces = []
  · subst hne
    cases h
    rfl
  · rw [argumentsOf, h.cutAtCommas_eq hne hpieces]

/-- Items with commas between them. Each has its brackets closed and no comma outside of them. -/
structure ItemList (items : List (List Token)) (ts : List Token) : Prop where
  joined : Joined items ts
  arguments : ∀ item ∈ items, Argument item

/-- Arguments with commas between them. An empty one does not stand last. -/
structure CommaJoined (args : List (List Token)) (ts : List Token) : Prop
    extends ItemList args ts where
  getLast?_ne : args.getLast? ≠ some []

theorem CommaJoined.nil : CommaJoined [] [] where
  joined := .nil
  arguments := List.forall_mem_nil _
  getLast?_ne := by simp

theorem CommaJoined.last {a : List Token} (ha : Argument a) (hne : a ≠ []) :
    CommaJoined [a] a where
  joined := .last a
  arguments := List.forall_mem_singleton.mpr ha
  getLast?_ne := by simpa using hne

theorem CommaJoined.cons {a b : List Token} {args : List (List Token)} {comma : Token}
    {ts : List Token} (ha : Argument a) (hcomma : comma.isPunct ",".toList = true)
    (h : CommaJoined (b :: args) ts) : CommaJoined (a :: b :: args) (a ++ comma :: ts) where
  joined := .cons a hcomma h.joined
  arguments := List.forall_mem_cons.mpr ⟨ha, h.arguments⟩
  getLast?_ne := by simpa [List.getLast?_cons_cons] using h.getLast?_ne

theorem ItemList.balanced {items : List (List Token)} {ts : List Token} (h : ItemList items ts) :
    Balanced ts :=
  h.joined.balanced h.arguments

/-- The arguments are found again between the commas. -/
theorem CommaJoined.argumentsOf {args : List (List Token)} {ts : List Token}
    (h : CommaJoined args ts) : argumentsOf ts = args := by
  rw [h.joined.argumentsOf_eq h.arguments, if_neg h.getLast?_ne]

/-- All items with a key are among the arguments: only an empty one may be missing. -/
theorem ItemList.filterMap_argumentsOf {items : List (List Token)} {ts : List Token}
    (h : ItemList items ts) (separator : Text) (bareKeys : Bool) :
    (argumentsOf ts).filterMap (keyedItem? separator bareKeys) =
      items.filterMap (keyedItem? separator bareKeys) := by
  rw [h.joined.argumentsOf_eq h.arguments]
  split
  · rename_i hlast
    obtain ⟨front, rfl⟩ := List.getLast?_eq_some_iff.mp hlast
    rw [List.dropLast_concat, List.filterMap_append]
    exact (List.append_nil _).symm
  · rfl

/-! ## Lists that the tokens start with -/

/-- Balanced tokens up to a closing bracket are read as a list of their arguments. -/
theorem Balanced.readBracketed? {ts : List Token} (h : Balanced ts) {c : Token} {outer : Bracket}
    (hc : c.closes? = some outer) (rest : List Token) :
    readBracketed? outer (ts ++ c :: rest) = some (argumentsOf ts, ts.length) := by
  have hindex : closingIndex? outer [] (ts ++ c :: rest) = some ts.length := by
    rw [h.closingIndex?_append, closingIndex?, Token.opens?_of_closes? hc, hc]
    simp
  rw [MessageHarvest.readBracketed?, hindex, Option.map_some, List.take_left]

theorem CommaJoined.readBracketed? {args : List (List Token)} {ts : List Token}
    (h : CommaJoined args ts) {c : Token} {outer : Bracket} (hc : c.closes? = some outer)
    (rest : List Token) :
    readBracketed? outer (ts ++ c :: rest) = some (args, ts.length) := by
  rw [h.balanced.readBracketed? hc, h.argumentsOf]

/-- Between brackets the items with keys are read. -/
theorem ItemList.keyedItems? {items : List (List Token)} {ts : List Token} (h : ItemList items ts)
    {o c : Token} {outer : Bracket} (ho : o.opens? = some outer) (hc : c.closes? = some outer)
    (separator : Text) (bareKeys : Bool) (rest : List Token) :
    keyedItems? separator bareKeys (o :: (ts ++ c :: rest)) =
      some (Keyed.putAll [] (items.filterMap (keyedItem? separator bareKeys))) := by
  rw [MessageHarvest.keyedItems?, ho, Option.bind_some, h.balanced.readBracketed? hc,
    Option.map_some, h.filterMap_argumentsOf]

/-! ## Values by their keys -/

theorem Keyed.put_of_not_mem {α : Type} {known : Keyed α} {key : Text} (value : α)
    (h : key ∉ known.map Prod.fst) : Keyed.put key value known = known ++ [(key, value)] := by
  induction known with
  | nil => rfl
  | cons item known ih =>
    simp only [List.map_cons, List.mem_cons, not_or] at h
    rw [Keyed.put, if_neg (Ne.symm h.1), ih h.2, List.cons_append]

/-- Values under different keys are kept as they come. -/
theorem Keyed.putAll_eq_append {α : Type} {known new : Keyed α}
    (h : ((known ++ new).map Prod.fst).Nodup) : Keyed.putAll known new = known ++ new := by
  induction new generalizing known with
  | nil => rw [List.append_nil]; rfl
  | cons item new ih =>
    have hkey : item.1 ∉ known.map Prod.fst := by
      intro hmem
      rw [List.map_append, List.map_cons, List.nodup_append] at h
      exact h.2.2 item.1 hmem item.1 List.mem_cons_self rfl
    rw [List.append_cons] at h ⊢
    rw [← ih h, ← Keyed.put_of_not_mem item.2 hkey]
    rfl

/-- Options are read by their keys, if each that is there is a literal expression. -/
theorem CallOptions.read?_eq_foldl {operator : Text} {names : List (Text × OptionRole)}
    {items : Keyed (List Token)} (value : Text → Option Text)
    (h : ∀ name ∈ names, (items.get? name.1).map (literalValue? operator) =
      (value name.1).map some) :
    CallOptions.read? operator names items =
      some (names.foldl (fun options name =>
        (value name.1).elim options (options.set name.2)) .empty) := by
  unfold CallOptions.read?
  generalize CallOptions.empty = options
  induction names generalizing options with
  | nil => rfl
  | cons name names ih =>
    have hname := h name List.mem_cons_self
    have hrest := ih fun name hmem => h name (List.mem_cons_of_mem _ hmem)
    rw [List.foldlM_cons, List.foldl_cons]
    cases hget : items.get? name.1 with
    | none =>
      rw [hget, Option.map_none] at hname
      rw [Option.map_eq_none_iff.mp hname.symm]
      exact hrest options
    | some ts =>
      rw [hget, Option.map_some] at hname
      obtain ⟨v, hvalue, hliteral⟩ := Option.map_eq_some_iff.mp hname.symm
      rw [hvalue]
      simp only [← hliteral]
      exact hrest (options.set name.2 v)

end MessageHarvest
