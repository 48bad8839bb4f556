import MessageHarvest.Proofs.BracketMatching
import MessageHarvest.Proofs.PartwiseScan

/-! # The comment that belongs to a token

Taking out the comments goes forward: each token is given the last comment of
those that stand between it and the token before. Looking for the comment of a
statement goes backward over the tokens, until one has a comment or the token
before it ends a statement. `CommentsBefore` says where comments stand among
the items, without either of the two, and the comment that is found is the
nearest one by that account: no comment stands behind it, and no statement or
list item ends on the way. -/
namespace MessageHarvest

/-- The token without the comment that it was given. -/
def Token.bare (t : Token) : Token := { t with comment := none }

/-! ## The forward pass -/

namespace Item

/-- These comments, and nothing else, stand between the token with this index and the token before
it, or before the first token. -/
def CommentsBefore (items : List Item) (j : Nat) (comments : List Comment) : Prop :=
  ∃ before t after, items = before ++ comments.map .comment ++ .token t :: after ∧
    (before.filterMap token?).length = j ∧ ∀ c, before.getLast? ≠ some (.comment c)

theorem attach_comments (pending : Option Comment) (comments : List Comment) (t : Token)
    (after : List Item) :
    attach pending (comments.map .comment ++ .token t :: after) =
      { t with comment := comments.getLast?.or pending } :: attach none after := by
  induction comments generalizing pending with
  | nil => rfl
  | cons c comments ih =>
    rw [List.map_cons, List.cons_append, attach, ih, List.getLast?_cons]
    cases comments.getLast? with
    | none => rfl
    | some last => rfl

/-- Behind a token no comment is pending. -/
theorem attach_append (pending : Option Comment) {before : List Item} (hne : before ≠ [])
    (hlast : ∀ c, before.getLast? ≠ some (.comment c)) (items : List Item) :
    attach pending (before ++ items) = attach pending before ++ attach none items := by
  induction before generalizing pending with
  | nil => exact absurd rfl hne
  | cons item before ih =>
    by_cases hbefore : before = []
    · subst hbefore
      cases item with
      | comment c => exact absurd rfl (hlast c)
      | token t => rfl
    · have hlast' : ∀ c, before.getLast? ≠ some (.comment c) := fun c hc =>
        hlast c (by rw [List.getLast?_cons, hc]; rfl)
      cases item with
      | comment c => exact ih (some c) hbefore hlast'
      | token t => exact congrArg (_ :: ·) (ih none hbefore hlast')

theorem map_bare_attach (pending : Option Comment) (items : List Item) :
    (attach pending items).map Token.bare = (items.filterMap token?).map Token.bare := by
  induction items generalizing pending with
  | nil => rfl
  | cons item items ih =>
    cases item with
    | comment c => exact ih (some c)
    | token t => exact congrArg (_ :: ·) (ih none)

theorem length_significant (items : List Item) :
    (significant items).length = (items.filterMap token?).length := by
  have hlength := congrArg List.length (map_bare_attach none items)
  rwa [List.length_map, List.length_map] at hlength

/-- A token is given the last of the comments that stand before it. -/
theorem CommentsBefore.getElem? {items : List Item} {j : Nat} {comments : List Comment}
    (h : CommentsBefore items j comments) :
    ∃ t, (significant items)[j]? = some t ∧ t.comment = comments.getLast? := by
  obtain ⟨before, t, after, rfl, rfl, hlast⟩ := h
  refine ⟨{ t with comment := comments.getLast? }, ?_, rfl⟩
  have hbehind : significant (before ++ comments.map .comment ++ .token t :: after) =
      significant before ++ attach none (comments.map .comment ++ .token t :: after) := by
    rw [List.append_assoc]
    by_cases hbefore : before = []
    · rw [hbefore]
      rfl
    · exact attach_append none hbefore hlast _
  rw [hbehind, attach_comments, Option.or_none, ← length_significant,
    List.getElem?_append_right (Nat.le_refl _), Nat.sub_self]
  rfl

/-- Before each token stand some comments, or none. -/
theorem exists_commentsBefore {items : List Item} {j : Nat}
    (h : j < (items.filterMap token?).length) : ∃ comments, CommentsBefore items j comments := by
  induction items generalizing j with
  | nil => cases h
  | cons item items ih =>
    cases item with
    | comment c =>
      obtain ⟨comments, before, t, after, rfl, hcount, hlast⟩ := ih h
      -- a comment in front of all tokens is one more before the first of them
      by_cases hbefore : before = []
      · subst hbefore
        exact ⟨c :: comments, [], t, after, rfl, hcount, hlast⟩
      · refine ⟨comments, .comment c :: before, t, after, rfl, hcount, fun c' hc' => ?_⟩
        rw [List.getLast?_cons_of_ne_nil hbefore] at hc'
        exact hlast c' hc'
    | token u =>
      cases j with
      | zero => exact ⟨[], [], u, items, rfl, rfl, by simp⟩
      | succ j =>
        obtain ⟨comments, before, t, after, rfl, hcount, hlast⟩ := ih (Nat.lt_of_succ_lt_succ h)
        refine ⟨comments, .token u :: before, t, after, rfl, congrArg (· + 1) hcount,
          fun c hc => ?_⟩
        by_cases hbefore : before = []
        · subst hbefore
          cases hc
        · rw [List.getLast?_cons_of_ne_nil hbefore] at hc
          exact hlast c hc

section

variable {items : List Item} {j : Nat} {t : Token}

theorem exists_commentsBefore_of_getElem? (h : (significant items)[j]? = some t) :
    ∃ comments, CommentsBefore items j comments ∧ t.comment = comments.getLast? := by
  obtain ⟨hj, _⟩ := List.getElem?_eq_some_iff.mp h
  obtain ⟨comments, hcomments⟩ := exists_commentsBefore (length_significant items ▸ hj)
  obtain ⟨u, hu, hcomment⟩ := hcomments.getElem?
  obtain rfl := Option.some.inj (h.symm.trans hu)
  exact ⟨comments, hcomments, hcomment⟩

theorem comment_eq_some_iff (h : (significant items)[j]? = some t) {c : Comment} :
    t.comment = some c ↔ ∃ comments, CommentsBefore items j (comments ++ [c]) := by
  constructor
  · intro hc
    obtain ⟨comments, hcomments, hlast⟩ := exists_commentsBefore_of_getElem? h
    obtain ⟨front, rfl⟩ := List.getLast?_eq_some_iff.mp (hlast.symm.trans hc)
    exact ⟨front, hcomments⟩
  · rintro ⟨comments, hcomments⟩
    obtain ⟨u, hu, hcomment⟩ := hcomments.getElem?
    obtain rfl := Option.some.inj (h.symm.trans hu)
    rw [hcomment, List.getLast?_concat]

theorem comment_eq_none_iff (h : (significant items)[j]? = some t) :
    t.comment = none ↔ CommentsBefore items j [] := by
  constructor
  · intro hc
    obtain ⟨comments, hcomments, hlast⟩ := exists_commentsBefore_of_getElem? h
    rwa [List.getLast?_eq_none_iff.mp (hlast.symm.trans hc)] at hcomments
  · intro hcomments
    obtain ⟨u, hu, hcomment⟩ := hcomments.getElem?
    obtain rfl := Option.some.inj (h.symm.trans hu)
    exact hcomment

end

end Item

/-! ## The backward search -/

namespace Token

theorem endsStatement_eq_true_iff {t : Token} :
    t.endsStatement = true ↔ t.kind = .punct ∧ t.text ∈ [[';'], [','], ['{'], ['}']] := by
  simp [endsStatement, isOneOf]

/-- At this index stands the nearest comment: no token behind it up to the given one has another,
and none before the given one ends a statement. -/
structure CommentAt (tokens : List Token) (i : Nat) (c : Comment) (j : Nat) : Prop where
  le : j ≤ i
  here : ∃ t, tokens[j]? = some t ∧ t.comment = some c
  bare : ∀ k t, j < k → k ≤ i → tokens[k]? = some t → t.comment = none
  goesOn : ∀ k t, j ≤ k → k < i → tokens[k]? = some t → t.endsStatement = false

variable {tokens : List Token} {i : Nat} {c : Comment}

theorem commentAt_self {t : Token} (h : tokens[i]? = some t) (hc : t.comment = some c) :
    CommentAt tokens i c i where
  le := Nat.le_refl i
  here := ⟨t, h, hc⟩
  bare := fun _ _ hlt hle => absurd hle (Nat.not_le.mpr hlt)
  goesOn := fun _ _ hle hlt => absurd hlt (Nat.not_lt.mpr hle)

/-- From a token without comment the search goes on at the token before it, unless that ends a
statement. -/
theorem commentAt_succ_iff {p t : Token} (hp : tokens[i]? = some p) (ht : tokens[i + 1]? = some t)
    (hnone : t.comment = none) {j : Nat} :
    CommentAt tokens (i + 1) c j ↔ p.endsStatement = false ∧ CommentAt tokens i c j := by
  constructor
  · intro h
    have hj : j ≤ i := by
      refine Nat.le_of_lt_succ (Nat.lt_of_le_of_ne h.le ?_)
      rintro rfl
      obtain ⟨u, hu, hc⟩ := h.here
      obtain rfl := Option.some.inj (ht.symm.trans hu)
      rw [hnone] at hc
      cases hc
    exact ⟨h.goesOn i p hj (Nat.lt_succ_self i) hp, hj, h.here,
      fun k u hlt hle => h.bare k u hlt (Nat.le_succ_of_le hle),
      fun k u hle hlt => h.goesOn k u hle (Nat.lt_succ_of_lt hlt)⟩
  · rintro ⟨hends, h⟩
    refine ⟨Nat.le_succ_of_le h.le, h.here, fun k u hlt hle hu => ?_, fun k u hle hlt hu => ?_⟩
    · rcases Nat.le_succ_iff.mp hle with hle | rfl
      · exact h.bare k u hlt hle hu
      · exact Option.some.inj (ht.symm.trans hu) ▸ hnone
    · rcases Nat.lt_succ_iff_lt_or_eq.mp hlt with hlt | rfl
      · exact h.goesOn k u hle hlt hu
      · exact Option.some.inj (hp.symm.trans hu) ▸ hends

theorem precedingComment?_eq_some_iff {t : Token} (h : tokens[i]? = some t) :
    t.precedingComment? (tokens.take i).reverse = some c ↔ ∃ j, CommentAt tokens i c j := by
  induction i generalizing t with
  | zero =>
    show t.comment = some c ↔ _
    refine ⟨fun hc => ⟨0, commentAt_self h hc⟩, ?_⟩
    rintro ⟨j, hj⟩
    obtain rfl := Nat.le_zero.mp hj.le
    obtain ⟨u, hu, hc⟩ := hj.here
    exact Option.some.inj (h.symm.trans hu) ▸ hc
  | succ i ih =>
    obtain ⟨hi, _⟩ := List.getElem?_eq_some_iff.mp h
    obtain ⟨p, hp⟩ : ∃ p, tokens[i]? = some p := ⟨_, List.getElem?_eq_getElem (by omega)⟩
    rw [List.take_add_one, hp, Option.toList_some, List.reverse_append, List.reverse_singleton,
      List.singleton_append, precedingComment?]
    cases hcomment : t.comment with
    | some d =>
      constructor
      · intro hd
        exact ⟨i + 1, commentAt_self h (hcomment.trans hd)⟩
      · rintro ⟨j, hj⟩
        -- the token itself has a comment, so the nearest one stands nowhere else
        obtain rfl : j = i + 1 := by
          by_contra hne
          have hnone := hj.bare (i + 1) t (Nat.lt_of_le_of_ne hj.le hne) (Nat.le_refl _) h
          rw [hcomment] at hnone
          cases hnone
        obtain ⟨u, hu, hc⟩ := hj.here
        obtain rfl := Option.some.inj (h.symm.trans hu)
        rw [← hcomment, hc]
    | none =>
      simp only [commentAt_succ_iff hp h hcomment]
      cases hends : p.endsStatement with
      | true => simp
      | false => simpa using ih hp

end Token

theorem precedingCommentAt_of_getElem? {tokens : List Token} {i : Nat} {t : Token}
    (h : tokens[i]? = some t) :
    precedingCommentAt tokens i = .ok (t.precedingComment? (tokens.take i).reverse) := by
  have helement : elementAt tokens i = .ok t :=
    elementAt_eq_ok_iff.mpr (.inl ⟨Int.natCast_nonneg i, h⟩)
  rw [precedingCommentAt, if_neg (Int.not_lt.mpr (Int.natCast_nonneg i)), helement]
  rfl

/-! ## Both together -/

/-- The comment stands last before a token, no comment stands between that and the token with index
`i`, and of the tokens from there on up to it none is a mark that ends a statement or a list
item. -/
def Item.NearestComment (items : List Item) (i : Nat) (c : Comment) : Prop :=
  ∃ j ≤ i, (∃ comments, CommentsBefore items j (comments ++ [c])) ∧
    (∀ k, j < k → k ≤ i → CommentsBefore items k []) ∧
    ∀ k t, j ≤ k → k < i → (significant items)[k]? = some t →
      ¬ (t.kind = .punct ∧ t.text ∈ [[';'], [','], ['{'], ['}']])

theorem Item.exists_commentAt_iff {items : List Item} {i : Nat}
    (h : i < (significant items).length) {c : Comment} :
    (∃ j, Token.CommentAt (significant items) i c j) ↔ NearestComment items i c := by
  refine exists_congr fun j => ?_
  have hat : ∀ k ≤ i, ∃ t, (significant items)[k]? = some t := fun k hk =>
    ⟨_, List.getElem?_eq_getElem (Nat.lt_of_le_of_lt hk h)⟩
  constructor
  · intro hj
    obtain ⟨t, ht, hc⟩ := hj.here
    refine ⟨hj.le, (comment_eq_some_iff ht).mp hc, fun k hlt hle => ?_, fun k u hle hlt hu => ?_⟩
    · obtain ⟨u, hu⟩ := hat k hle
      exact (comment_eq_none_iff hu).mp (hj.bare k u hlt hle hu)
    · rw [← Token.endsStatement_eq_true_iff, hj.goesOn k u hle hlt hu]
      exact Bool.false_ne_true
  · rintro ⟨hle, hhere, hbare, hgoes⟩
    obtain ⟨t, ht⟩ := hat j hle
    refine ⟨hle, ⟨t, ht, (comment_eq_some_iff ht).mpr hhere⟩, fun k u hlt hk hu => ?_,
      fun k u hk hlt hu => ?_⟩
    · exact (comment_eq_none_iff hu).mpr (hbare k hlt hk)
    · exact Bool.eq_false_iff.mpr (mt Token.endsStatement_eq_true_iff.mp (hgoes k u hk hlt hu))

/-- **Comments stay in their statement.** Taking out the comments keeps all tokens in their order.
For each token the search finds a comment exactly if it is the nearest one before it, by where it
stands among the items, and no statement or list item ends between; else it finds none. -/
theorem comments_stay_in_statement (items : List Item) :
    (Item.significant items).map Token.bare = (items.filterMap Item.token?).map Token.bare ∧
    ∀ i < (Item.significant items).length, ∃ found,
      precedingCommentAt (Item.significant items) i = .ok found ∧
      (∀ c, found = some c ↔ Item.NearestComment items i c) ∧
      (found = none ↔ ¬ ∃ c, Item.NearestComment items i c) := by
  refine ⟨Item.map_bare_attach none items, fun i hi => ?_⟩
  have ht := List.getElem?_eq_getElem hi
  have hfound : ∀ c, Token.precedingComment? _ _ = some c ↔ Item.NearestComment items i c :=
    fun c => (Token.precedingComment?_eq_some_iff ht).trans (Item.exists_commentAt_iff hi)
  refine ⟨_, precedingCommentAt_of_getElem? ht, hfound, ?_⟩
  rw [Option.eq_none_iff_forall_ne_some, not_exists]
  exact forall_congr' fun c => not_congr (hfound c)

/-- Of two comments before an item of a list the second reaches the comma behind the item, and
neither reaches the next item. -/
theorem comments_stay_in_statement_list :
    let first : Comment := ⟨"// a".toList, 1⟩
    let second : Comment := ⟨"// b".toList, 2⟩
    let items : List Item := [.comment first, .comment second, .token ⟨.name, "x".toList, 3, none⟩,
      .token ⟨.punct, ",".toList, 3, none⟩, .token ⟨.name, "y".toList, 3, none⟩]
    (1 < (Item.significant items).length ∧ Item.NearestComment items 1 second ∧
      ¬ Item.NearestComment items 1 first) ∧
    (2 < (Item.significant items).length ∧ ¬ ∃ c, Item.NearestComment items 2 c) := by
  intro first second items
  obtain ⟨_, hfinds⟩ := comments_stay_in_statement items
  have hcomma : 1 < (Item.significant items).length := by decide
  have hitem : 2 < (Item.significant items).length := by decide
  refine ⟨⟨hcomma, ?_⟩, hitem, ?_⟩
  · obtain ⟨found, hat, hsome, _⟩ := hfinds 1 hcomma
    have hfound : found = some second :=
      Except.ok.inj (hat.symm.trans (by decide : precedingCommentAt _ 1 = .ok (some second)))
    rw [← hsome, ← hsome, hfound]
    exact ⟨rfl, by decide⟩
  · obtain ⟨found, hat, _, hnone⟩ := hfinds 2 hitem
    rw [← hnone]
    exact Except.ok.inj (hat.symm.trans (by decide : precedingCommentAt _ 2 = .ok none))

end MessageHarvest
