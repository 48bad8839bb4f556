import MessageHarvest.Proofs.EarlierStrings
import MessageHarvest.Smarty.Tags

/-! # The lines of references

Every string is reported with a line, and that is the line of a place where
the string is really marked. A scanner loses nothing of the source, so a token
stands where the lexemes before it end (`CutAt`), and its line is counted over
just those. A template is read from left to right in the same way: what has
been passed over and what is left make up the content (`Reaches`). Code in a
template starts on the line of its own brace, since no line ends between the
two. -/
namespace MessageHarvest

open Event (occurrences occurrences_append)

/-! ## Tokens at their offsets -/

/-- The lexemes put together are the source again. -/
theorem Scan.Cuts.flatMap_text {σ : Type} {lexemes : σ → Text → List Lexeme}
    {front : σ → Char → Text → Shape × Nat} {after : σ → Lexeme → σ}
    (cuts : Scan.Cuts lexemes front after) (s : σ) (source : Text) :
    (lexemes s source).flatMap Lexeme.text = source := by
  induction hlen : source.length using Nat.strongRecOn generalizing s source with
  | ind n ih =>
    subst hlen
    cases source with
    | nil => rw [cuts.nil]; rfl
    | cons c cs =>
      by_cases hbroken : ∃ fault, (front s c cs).1 = .broken fault
      · obtain ⟨fault, hfault⟩ := hbroken
        rw [cuts.broken s c cs fault hfault]
        simp
      · have hlt : (cs.drop (front s c cs).2).length < (c :: cs).length := by
          rw [List.length_drop, List.length_cons]
          omega
        rw [cuts.cons s c cs (not_exists.mp hbroken), List.flatMap_cons, ih _ hlt _ _ rfl,
          List.cons_append, List.take_append_drop]

/-- At this offset the source is cut, and the lexeme behind the cut is the token. -/
structure CutAt (lexemes : List Lexeme) (source : Text) (offset : Nat) (t : Token) : Prop where
  lexeme : ∃ before after, lexemes = before ++ ⟨.token t.kind, t.text⟩ :: after ∧
    before.flatMap Lexeme.text = source.take offset
  within : offset ≤ source.length
  stands : t.text <+: source.drop offset

theorem mem_of_mem_attach {pending : Option Comment} {items : List Item} {t : Token}
    (h : t ∈ Item.attach pending items) :
    ∃ comment, Item.token { t with comment := comment } ∈ items := by
  induction items generalizing pending with
  | nil => cases h
  | cons item items ih =>
    cases item with
    | comment c =>
      obtain ⟨comment, hmem⟩ := ih h
      exact ⟨comment, List.mem_cons_of_mem _ hmem⟩
    | token u =>
      rw [Item.attach] at h
      rcases List.mem_cons.mp h with rfl | h
      · exact ⟨u.comment, List.mem_cons_self⟩
      · obtain ⟨comment, hmem⟩ := ih h
        exact ⟨comment, List.mem_cons_of_mem _ hmem⟩

/-- A token is one of the lexemes, and its line is counted over those before it. -/
theorem Scan.mem_items {line : Int} {ls : List Lexeme} {t : Token}
    (h : Item.token t ∈ (ofLexemes line ls).items) :
    ∃ before after, ls = before ++ ⟨.token t.kind, t.text⟩ :: after ∧
      t.line = line + Text.lineFeeds (before.flatMap Lexeme.text) := by
  induction ls generalizing line with
  | nil => cases h
  | cons l ls ih =>
    by_cases hbroken : ∃ fault, l.shape = .broken fault
    · obtain ⟨fault, hfault⟩ := hbroken
      simp [ofLexemes, hfault] at h
    · rw [ofLexemes_cons (not_exists.mp hbroken)] at h
      rcases List.mem_append.mp h with h | h
      · have hitem : l.item? line = some (.token t) := Option.mem_toList.mp h
        obtain ⟨shape, text⟩ := l
        cases shape with
        | token kind =>
          cases hitem
          exact ⟨[], ls, rfl, by simp [Text.lineFeeds]⟩
        | comment => cases hitem
        | markup => cases hitem
        | close => cases hitem
        | space => cases hitem
        | broken fault => cases hitem
      · obtain ⟨before, after, rfl, hline⟩ := ih h
        refine ⟨l :: before, after, rfl, ?_⟩
        rw [hline, List.flatMap_cons, Text.lineFeeds_append, Int.natCast_add, Int.add_assoc]

/-- A token stands where it is cut off, and has the line of that place. -/
theorem exists_cutAt {ls : List Lexeme} {source : Text} (hsource : ls.flatMap Lexeme.text = source)
    {line : Int} {t : Token} (h : t ∈ Item.significant (Scan.ofLexemes line ls).items) :
    ∃ offset, t.line = line + Text.lineFeeds (source.take offset) ∧ CutAt ls source offset t := by
  obtain ⟨comment, hitem⟩ := mem_of_mem_attach h
  obtain ⟨before, after, hls, hline⟩ := Scan.mem_items hitem
  have hparts : source = before.flatMap Lexeme.text ++ (t.text ++ after.flatMap Lexeme.text) := by
    rw [← hsource, hls, List.flatMap_append, List.flatMap_cons]
  have htake : source.take (before.flatMap Lexeme.text).length = before.flatMap Lexeme.text := by
    rw [hparts, List.take_left]
  refine ⟨(before.flatMap Lexeme.text).length, ?_, ⟨before, after, hls, htake.symm⟩, ?_, ?_⟩
  · rw [htake]
    exact hline
  · rw [hparts, List.length_append]
    exact Nat.le_add_right _ _
  · rw [hparts, List.drop_left]
    exact List.prefix_append _ _

/-! ## Calls -/

/-- The string is read from a call whose name is a token at this offset. -/
def CalledAt (readCall : List Token → Token → List Token → Reading) (names : List Text)
    (line : Int) (lexemes : List Lexeme) (source : Text) (offset : Nat) (o : Occurrence) : Prop :=
  ∃ before name after,
    Item.significant (Scan.ofLexemes line lexemes).items = before ++ name :: after ∧
    readCall before.reverse name after = .found o.toCall ∧
    name.kind = .name ∧ name.text ∈ names ∧ CutAt lexemes source offset name

/-- A string that a walk over tokens finds is found at one of them. -/
theorem mem_occurrences_walk {walk : List Token → List Token → List Event}
    {step : List Token → Token → List Token → List Event}
    (hnil : ∀ before, walk before [] = [])
    (hcons : ∀ before t after,
      walk before (t :: after) = step before t after ++ walk (t :: before) after)
    {before ts : List Token} {o : Occurrence} (h : o ∈ occurrences (walk before ts)) :
    ∃ first t rest, ts = first ++ t :: rest ∧
      o ∈ occurrences (step (first.reverse ++ before) t rest) := by
  induction ts generalizing before with
  | nil =>
    rw [hnil] at h
    cases h
  | cons t ts ih =>
    rw [hcons, occurrences_append] at h
    rcases List.mem_append.mp h with h | h
    · exact ⟨[], t, ts, rfl, h⟩
    · obtain ⟨first, u, rest, rfl, hmem⟩ := ih h
      refine ⟨t :: first, u, rest, rfl, ?_⟩
      rwa [List.reverse_cons, List.append_assoc, List.singleton_append]

theorem reading_of_mem_occurrences {comments : List Text} {r : Reading} {o : Occurrence}
    (h : o ∈ occurrences (Event.ofReading comments r)) : r = .found o.toCall := by
  cases r with
  | found call =>
    obtain rfl := List.mem_singleton.mp h
    rfl
  | refused why => cases h
  | nothing => cases h

theorem CallGrammar.line_of_readArguments {g : CallGrammar} {name : Token}
    {args : List (List Token)} {call : Call} (h : g.readArguments name args = .found call) :
    call.line = name.line := by
  unfold CallGrammar.readArguments at h
  repeat' split at h
  all_goals cases h
  rfl

/-- A call is reported on the line of its name. -/
theorem CallGrammar.line_of_read {g : CallGrammar} {name : Token} {after : List Token}
    {call : Call} (h : g.read name after = .found call) : call.line = name.line := by
  unfold CallGrammar.read at h
  split at h
  · cases h
  · split at h
    · split at h
      · cases h
      · exact g.line_of_readArguments h
    · cases h

/-- What a call finds has the line of a place where its name stands. -/
theorem exists_calledAt (readCall : List Token → Token → List Token → Reading)
    {names : List Text} {ls : List Lexeme} {source : Text}
    (hsource : ls.flatMap Lexeme.text = source)
    (hread : ∀ {before name after call}, readCall before name after = .found call →
      call.line = name.line ∧ name.kind = .name ∧ name.text ∈ names)
    {line : Int} {before : List Token} {name : Token} {after : List Token}
    (htokens : Item.significant (Scan.ofLexemes line ls).items = before ++ name :: after)
    {o : Occurrence} (h : readCall before.reverse name after = .found o.toCall) :
    ∃ offset, o.line = line + Text.lineFeeds (source.take offset) ∧
      CalledAt readCall names line ls source offset o := by
  have hmem : name ∈ Item.significant (Scan.ofLexemes line ls).items := by
    rw [htokens]
    exact List.mem_append_right _ List.mem_cons_self
  obtain ⟨offset, hline, hcut⟩ := exists_cutAt hsource hmem
  obtain ⟨hcall, hkind, hname⟩ := hread h
  exact ⟨offset, hcall.trans hline, before, name, after, htokens, h, hkind, hname, hcut⟩

namespace Script

/-- The string is read from a call of `ts` at this offset. -/
def MarkedAt (line : Int) (source : Text) : Nat → Occurrence → Prop :=
  CalledAt readCall ["ts".toList] line (lexemes true source) source

theorem name_of_readCall {before : List Token} {name : Token} {after : List Token} {call : Call}
    (h : readCall before name after = .found call) :
    call.line = name.line ∧ name.kind = .name ∧ name.text ∈ ["ts".toList] := by
  unfold readCall at h
  split at h
  · rename_i hcall
    simp only [isCall, Bool.and_eq_true, decide_eq_true_eq] at hcall
    exact ⟨grammar.line_of_read h, hcall.1.1.1, List.mem_singleton.mpr hcall.1.1.2⟩
  · cases h

theorem exists_markedAt {tag : Option Text} {line : Int} {source : Text} {o : Occurrence}
    (h : o ∈ occurrences (events tag line source)) :
    ∃ offset, o.line = line + Text.lineFeeds (source.take offset) ∧
      MarkedAt line source offset o := by
  rw [occurrences_events] at h
  obtain ⟨before, name, after, htokens, hmem⟩ :=
    mem_occurrences_walk (fun _ => rfl) (fun _ _ _ => rfl) h
  rw [List.append_nil] at hmem
  exact exists_calledAt readCall (cuts.flatMap_text true source) name_of_readCall htokens
    (reading_of_mem_occurrences hmem)

end Script

namespace Php

/-- The string is read from a call of `ts` or `\ts` at this offset. -/
def MarkedAt (inCode : Bool) (line : Int) (source : Text) : Nat → Occurrence → Prop :=
  CalledAt readCall ["ts".toList, "\\ts".toList] line (lexemes inCode source) source

theorem name_of_readCall {before : List Token} {name : Token} {after : List Token} {call : Call}
    (h : readCall before name after = .found call) :
    call.line = name.line ∧ name.kind = .name ∧ name.text ∈ ["ts".toList, "\\ts".toList] := by
  unfold readCall at h
  split at h
  · rename_i hcall
    simp only [isCall, Bool.and_eq_true, decide_eq_true_eq] at hcall
    exact ⟨grammar.line_of_read h, hcall.1.1.1, List.contains_iff_mem.mp hcall.1.1.2⟩
  · cases h

theorem exists_markedAt {tag : Option Text} {inCode : Bool} {line : Int} {source : Text}
    {o : Occurrence} (h : o ∈ occurrences (scanEvents tag (scan inCode line source))) :
    ∃ offset, o.line = line + Text.lineFeeds (source.take offset) ∧
      MarkedAt inCode line source offset o := by
  rw [occurrences_scanEvents] at h
  obtain ⟨before, name, after, htokens, hmem⟩ :=
    mem_occurrences_walk (fun _ => rfl) (fun _ _ _ => rfl) h
  rw [List.append_nil] at hmem
  exact exists_calledAt readCall (cuts.flatMap_text inCode source) name_of_readCall htokens
    (reading_of_mem_occurrences hmem)

/-! ## Settings -/

/-- The string is the value under one of the keys, and the first literal of the value is a token at
this offset. -/
def SetAt (keys : List Text) (source : Text) (offset : Nat) (o : Occurrence) : Prop :=
  ∃ before key arrow first rest value,
    Item.significant (scan false 1 source).items = before ++ key :: arrow :: first :: rest ∧
    (∃ k ∈ keys, key.value? = some k) ∧ arrow.isPunct "=>".toList = true ∧
    first.value?.isSome = true ∧ settingValue (first :: rest) = .ok (first :: value) ∧
    literalValue? ".".toList (first :: value) = some o.msgid ∧
    CutAt (lexemes false source) source offset first

/-- A value is a beginning of the tokens, and has a first one. -/
theorem cons_of_settingValue {ts value : List Token} (h : settingValue ts = .ok value) :
    ∃ first rest more, ts = first :: rest ∧ value = first :: more := by
  have hvalue : value = ts.takeWhile isValuePart ∧ ts.takeWhile isValuePart ≠ [] := by
    simp only [settingValue] at h
    split at h
    · rename_i hcons _
      split at h
      · cases h
        exact ⟨rfl, by simp [hcons]⟩
      · cases h
    · cases h
  obtain ⟨rfl, hne⟩ := hvalue
  cases ts with
  | nil => exact absurd rfl hne
  | cons first rest =>
    by_cases hfirst : isValuePart first = true
    · exact ⟨first, rest, _, rfl, List.takeWhile_cons_of_pos hfirst⟩
    · exact absurd (List.takeWhile_cons_of_neg hfirst) hne

theorem value?_of_literalValue? {operator : Text} {first : Token} {more : List Token} {v : Text}
    (h : literalValue? operator (first :: more) = some v) : first.value?.isSome = true := by
  cases more with
  | nil =>
    rw [literalValue?] at h
    simp [h]
  | cons o more =>
    rw [literalValue?] at h
    split at h
    · rename_i hvalue _ _
      simp [hvalue]
    · cases h

theorem setting_of_mem_occurrences {tag : Option Text} {keys : List Text} {t : Token}
    {after : List Token} {o : Occurrence} (h : o ∈ occurrences (settingEvents tag keys t after)) :
    ∃ arrow first rest value, after = arrow :: first :: rest ∧
      (∃ k ∈ keys, t.value? = some k) ∧ arrow.isPunct "=>".toList = true ∧
      settingValue (first :: rest) = .ok (first :: value) ∧
      literalValue? ".".toList (first :: value) = some o.msgid ∧ o.line = first.line := by
  unfold settingEvents at h
  split at h
  · rename_i key arrow after hkey
    split at h
    · rename_i hentry
      obtain ⟨hmem, harrow⟩ := Bool.and_eq_true_iff.mp hentry
      cases hvalue : settingValue after with
      | error why =>
        simp only [hvalue, Event.occurrences_notices] at h
        cases h
      | ok tokens =>
        obtain ⟨first, rest, value, rfl, rfl⟩ := cons_of_settingValue hvalue
        simp only [hvalue] at h
        split at h
        · rename_i hliteral
          obtain rfl := List.mem_singleton.mp h
          exact ⟨arrow, first, rest, value, rfl, ⟨key, List.contains_iff_mem.mp hmem, hkey⟩,
            harrow, hvalue, hliteral, rfl⟩
        · cases h
    · cases h
  · cases h

/-- A string in settings metadata comes from a call or from a setting. -/
theorem mem_occurrences_metadataEvents {tag : Option Text} {keys : List Text}
    {before : List Token} {t : Token} {after : List Token} {o : Occurrence}
    (h : o ∈ occurrences (metadataEvents tag keys before t after)) :
    o ∈ occurrences (callEvents tag before t after) ∨
      o ∈ occurrences (settingEvents tag keys t after) := by
  unfold metadataEvents at h
  split at h
  · exact .inl h
  · rw [occurrences_append] at h
    exact List.mem_append.mp h

theorem exists_setAt {tag : Option Text} {keys : List Text} {source : Text} {o : Occurrence}
    (h : o ∈ occurrences (settingFileEvents tag keys source)) :
    ∃ offset, o.line = 1 + Text.lineFeeds (source.take offset) ∧
      (MarkedAt false 1 source offset o ∨ SetAt keys source offset o) := by
  rw [occurrences_settingFileEvents] at h
  obtain ⟨before, t, after, htokens, hmem⟩ :=
    mem_occurrences_walk (fun _ => rfl) (fun _ _ _ => rfl) h
  rw [List.append_nil] at hmem
  rcases mem_occurrences_metadataEvents hmem with hcall | hsetting
  · obtain ⟨offset, hline, hmarked⟩ := exists_calledAt readCall
      (cuts.flatMap_text false source) name_of_readCall htokens (reading_of_mem_occurrences hcall)
    exact ⟨offset, hline, .inl hmarked⟩
  · obtain ⟨arrow, first, rest, value, rfl, hkey, harrow, hvalue, hliteral, hline⟩ :=
      setting_of_mem_occurrences hsetting
    have hfirst : first ∈ Item.significant (scan false 1 source).items := by
      rw [htokens]
      simp
    obtain ⟨offset, hplace, hcut⟩ := exists_cutAt (cuts.flatMap_text false source) hfirst
    exact ⟨offset, hline.trans hplace, .inr ⟨before, t, arrow, first, rest, value, htokens, hkey,
      harrow, value?_of_literalValue? hliteral, hvalue, hliteral, hcut⟩⟩

end Php

/-! ## Templates -/

namespace Smarty

/-- The text `{ts` stands at this offset and starts a tag, and the string is its `msgid` or else the
text up to its close tag. -/
def TaggedAt (content : Text) (offset : Nat) (o : Occurrence) : Prop :=
  "\x7bts".toList <+: content.drop offset ∧ ∃ source n,
    construct? (content.drop (offset + 1)) = some (.ts source, n) ∧
    ((attributes source).get? "msgid".toList = some (some o.msgid) ∨
      (attributes source).get? "msgid".toList = none ∧
        ∃ m, Text.position? closeTag (content.drop (offset + 1 + n)) = some m ∧
          blockText? ((content.drop (offset + 1 + n)).take m) = some o.msgid)

/-- At this offset the string is marked by a call in a block of code. -/
def CalledInBlock (content : Text) (offset : Nat) (o : Occurrence) : Prop :=
  ∃ start code inner,
    "\x7bphp\x7d".toList ++ code ++ "\x7b/php\x7d".toList <+: content.drop start ∧
    offset = start + "\x7bphp\x7d".toList.length + inner ∧
    Php.MarkedAt true (1 + Text.lineFeeds (content.take start)) code inner o

/-- The rest of the content that starts on a line. -/
def Reaches (content : Text) (line : Int) (s : Text) : Prop :=
  ∃ passed, content = passed ++ s ∧ line = 1 + Text.lineFeeds passed

theorem Reaches.skip {content s : Text} {line : Int} (h : Reaches content line s) (n : Nat) :
    Reaches content (line + Text.lineFeeds (s.take n)) (s.drop n) := by
  obtain ⟨passed, rfl, rfl⟩ := h
  refine ⟨passed ++ s.take n, ?_, ?_⟩
  · rw [List.append_assoc, List.take_append_drop]
  · rw [Text.lineFeeds_append, Int.natCast_add, Int.add_assoc]

/-- Behind a brace the lines are counted without it. -/
theorem Reaches.brace {content cs : Text} {line : Int} (h : Reaches content line ('{' :: cs))
    (n : Nat) : Reaches content (line + Text.lineFeeds (cs.take n)) (cs.drop n) := by
  have hskip := h.skip (n + 1)
  rw [List.take_succ_cons, List.drop_succ_cons] at hskip
  have hfeeds : Text.lineFeeds ('{' :: cs.take n) = Text.lineFeeds (cs.take n) :=
    List.count_cons_of_ne (by decide)
  rwa [hfeeds] at hskip

theorem append_of_upTo? {stop s text : Text} {n : Nat} (h : upTo? stop s = some (text, n)) :
    text ++ stop <+: s := by
  obtain ⟨m, hm, heq⟩ := Option.map_eq_some_iff.mp h
  obtain ⟨rfl, _⟩ := Prod.mk.inj heq
  obtain ⟨rest, hrest⟩ := Text.prefix_drop_of_position? hm
  refine ⟨rest, ?_⟩
  rw [List.append_assoc, hrest, List.take_append_drop]

/-- What a tag and a block of code start with. -/
theorem construct?_eq_some {cs : Text} {found : Construct × Nat} (h : construct? cs = some found) :
    (∀ source, found.1 = .ts source → "ts".toList <+: cs) ∧
    (∀ code, found.1 = .php code → "php\x7d".toList ++ code ++ "\x7b/php\x7d".toList <+: cs) := by
  unfold construct? at h
  split at h
  · obtain ⟨_, _, rfl⟩ := Option.map_eq_some_iff.mp h
    exact ⟨fun _ hts => (by cases hts), fun _ hphp => (by cases hphp)⟩
  · split at h
    · obtain ⟨_, _, rfl⟩ := Option.map_eq_some_iff.mp h
      exact ⟨fun _ hts => (by cases hts), fun _ hphp => (by cases hphp)⟩
    · split at h
      · rename_i hopen
        obtain ⟨part, hpart, rfl⟩ := Option.map_eq_some_iff.mp h
        refine ⟨fun _ hts => (by cases hts), fun code hphp => ?_⟩
        cases hphp
        obtain ⟨rest, hrest⟩ := List.isPrefixOf_iff_prefix.mp hopen
        subst hrest
        obtain ⟨more, hmore⟩ := append_of_upTo? hpart
        refine ⟨more, ?_⟩
        rw [List.append_assoc, List.append_assoc, ← List.append_assoc part.1, hmore]
        rfl
      · split at h
        · rename_i hopen
          have hts : "ts".toList <+: cs := List.isPrefixOf_iff_prefix.mp hopen
          refine ⟨fun _ _ => hts, fun code hphp => ?_⟩
          split at h
          · cases h
            cases hphp
          · split at h
            · obtain ⟨_, _, rfl⟩ := Option.map_eq_some_iff.mp h
              cases hphp
            · cases h
          · cases h
        · cases h

theorem mem_occurrences_tagEvents {path : Text} {line : Int} {comments : List Text}
    {attributes : Keyed (Option Text)} {text : Option Text} {o : Occurrence}
    (h : o ∈ occurrences (tagEvents path line comments attributes text)) :
    o.line = line ∧ o.comments = comments ∧ text = some o.msgid := by
  unfold tagEvents at h
  split at h
  · cases h
  · cases h
  · split at h
    · cases h
    · cases h
    · obtain rfl := List.mem_singleton.mp h
      exact ⟨rfl, rfl, rfl⟩

theorem Reaches.taggedAt {content cs source : Text} {line : Int} {n : Nat} {o : Occurrence}
    (h : Reaches content line ('{' :: cs)) (hfound : construct? cs = some (.ts source, n))
    (hline : o.line = line)
    (htext : (attributes source).get? "msgid".toList = some (some o.msgid) ∨
      (attributes source).get? "msgid".toList = none ∧
        ∃ m, Text.position? closeTag (cs.drop n) = some m ∧
          blockText? ((cs.drop n).take m) = some o.msgid) :
    ∃ offset, o.line = 1 + Text.lineFeeds (content.take offset) ∧ TaggedAt content offset o := by
  obtain ⟨passed, rfl, rfl⟩ := h
  have hbehind : (passed ++ '{' :: cs).drop (passed.length + 1) = cs := by
    rw [← List.drop_drop, List.drop_left]
    rfl
  refine ⟨passed.length, by rw [List.take_left, hline], ?_, source, n, ?_, ?_⟩
  · rw [List.drop_left]
    exact List.cons_prefix_cons.mpr ⟨rfl, (construct?_eq_some hfound).1 source rfl⟩
  · rw [hbehind, hfound]
  · rw [← List.drop_drop, hbehind]
    exact htext

theorem Reaches.calledInBlock {content cs code : Text} {line : Int} {n : Nat} {o : Occurrence}
    {tag : Option Text} (h : Reaches content line ('{' :: cs))
    (hfound : construct? cs = some (.php code, n))
    (ho : o ∈ occurrences (Php.codeEvents tag line code)) :
    ∃ offset, o.line = 1 + Text.lineFeeds (content.take offset) ∧
      CalledInBlock content offset o := by
  obtain ⟨passed, rfl, rfl⟩ := h
  obtain ⟨inner, hline, hmarked⟩ := Php.exists_markedAt ho
  obtain ⟨rest, hrest⟩ := (construct?_eq_some hfound).2 code rfl
  have hblock : passed ++ '{' :: cs = passed ++ "\x7bphp\x7d".toList ++
      (code ++ ("\x7b/php\x7d".toList ++ rest)) := by
    rw [← hrest]
    simp
  have hfeeds : Text.lineFeeds "\x7bphp\x7d".toList = 0 := by decide
  have hwithin : inner ≤ code.length := by
    obtain ⟨_, _, _, _, _, _, _, hcut⟩ := hmarked
    exact hcut.within
  refine ⟨(passed ++ "\x7bphp\x7d".toList).length + inner, ?_, passed.length, code, inner, ?_,
    by rw [List.length_append], by rwa [List.take_left]⟩
  · rw [hline, hblock, List.take_length_add_append, List.take_append_of_le_length hwithin,
      Text.lineFeeds_append, Text.lineFeeds_append, hfeeds]
    simp [Int.add_assoc]
  · rw [hblock, List.append_assoc passed, List.drop_left]
    exact ⟨rest, by simp⟩

theorem opens_of_construct {c : Char} {cs : Text} {found : Construct × Nat}
    (h : (if c = '{' then construct? cs else none) = some found) :
    c = '{' ∧ construct? cs = some (found.1, found.2) := by
  split at h
  · rename_i hbrace
    exact ⟨hbrace, h⟩
  · cases h

/-- On the rest of the content, construct by construct. -/
theorem mem_occurrences_eventsFrom {path : Text} {tag : Option Text} {content : Text}
    {line : Int} {comments : List Text} {s : Text} (h : Reaches content line s) {o : Occurrence}
    (ho : o ∈ occurrences (eventsFrom path tag line comments s)) :
    ∃ offset, o.line = 1 + Text.lineFeeds (content.take offset) ∧
      (TaggedAt content offset o ∨ CalledInBlock content offset o) := by
  fun_induction eventsFrom path tag line comments s with
  | case1 => cases ho
  | case2 line comments c cs _ ih => exact ih (h.skip 1) ho
  | case3 line comments c cs found hfound after afterLine text _ ih =>
    obtain ⟨rfl, _⟩ := opens_of_construct hfound
    exact ih (h.brace found.2) ho
  | case4 line comments c cs found hfound after afterLine _ ih =>
    obtain ⟨rfl, _⟩ := opens_of_construct hfound
    exact ih (h.brace found.2) ho
  | case5 line comments c cs found hfound after afterLine code hcode ih =>
    obtain ⟨rfl, hopen⟩ := opens_of_construct hfound
    rw [occurrences_append] at ho
    rcases List.mem_append.mp ho with ho | ho
    · obtain ⟨offset, hline, hcalled⟩ := h.calledInBlock (hcode ▸ hopen) ho
      exact ⟨offset, hline, .inr hcalled⟩
    · exact ih (h.brace found.2) ho
  | case6 line comments c cs found hfound after afterLine source hsource attributes msgid hmsgid ih =>
    obtain ⟨rfl, hopen⟩ := opens_of_construct hfound
    rw [occurrences_append] at ho
    rcases List.mem_append.mp ho with ho | ho
    · obtain ⟨hline, _, htext⟩ := mem_occurrences_tagEvents ho
      obtain ⟨offset, hplace, htagged⟩ :=
        h.taggedAt (hsource ▸ hopen) hline (.inl (htext ▸ hmsgid))
      exact ⟨offset, hplace, .inl htagged⟩
    · exact ih (h.brace found.2) ho
  | case7 => cases ho
  | case8 line comments c cs found hfound after afterLine source hsource attributes hnone n hclose
      block ih =>
    obtain ⟨rfl, hopen⟩ := opens_of_construct hfound
    rw [occurrences_append] at ho
    rcases List.mem_append.mp ho with ho | ho
    · obtain ⟨hline, _, htext⟩ := mem_occurrences_tagEvents ho
      obtain ⟨offset, hplace, htagged⟩ :=
        h.taggedAt (hsource ▸ hopen) hline (.inr ⟨hnone, n, hclose, htext⟩)
      exact ⟨offset, hplace, .inl htagged⟩
    · exact ih ((h.brace found.2).skip (n + closeTag.length)) ho

end Smarty

/-! ## Every string -/

/-- **References lead to the marks.** The line of every string found in a PHP file, in settings
metadata, in a script or in a template is one more than the number of line feeds before a place
in the content, and there the string is marked: by the name of the marking function where a call
is read, by the first literal of a setting, or by the brace of a tag. -/
theorem line_of_occurrence (tag : Option Text) (keys : List Text) (path content : Text) :
    (∀ o ∈ occurrences (Php.events tag content),
      ∃ offset, o.line = 1 + Text.lineFeeds (content.take offset) ∧
        Php.MarkedAt false 1 content offset o) ∧
    (∀ o ∈ occurrences (Php.settingFileEvents tag keys content),
      ∃ offset, o.line = 1 + Text.lineFeeds (content.take offset) ∧
        (Php.MarkedAt false 1 content offset o ∨ Php.SetAt keys content offset o)) ∧
    (∀ o ∈ occurrences (Script.events tag 1 content),
      ∃ offset, o.line = 1 + Text.lineFeeds (content.take offset) ∧
        Script.MarkedAt 1 content offset o) ∧
    (∀ o ∈ occurrences (Smarty.events path tag content),
      ∃ offset, o.line = 1 + Text.lineFeeds (content.take offset) ∧
        (Smarty.TaggedAt content offset o ∨ Smarty.CalledInBlock content offset o)) := by
  refine ⟨fun o ho => ?_, fun o ho => ?_, fun o ho => ?_, fun o ho => ?_⟩
  · exact Php.exists_markedAt ho
  · exact Php.exists_setAt ho
  · exact Script.exists_markedAt ho
  · exact Smarty.mem_occurrences_eventsFrom ⟨[], rfl, rfl⟩ ho

/-- A setting whose value starts on the line after its key, and a call behind it; a call behind a
pattern with a quote in it; a template with a call on its third line and a tag on its fourth. -/
theorem line_of_occurrence_below :
    let code : Text := "<?php\n$s = ['title' =>\n'a'];\n\\ts('b');".toList
    let script : Text := "x = /'/;\nts('c');".toList
    let template : Text :=
      "\x7b* d\n *\x7d\x7bphp\x7d\n ts('e');\x7b/php\x7d\n\x7bts\x7df\x7b/ts\x7d".toList
    let found : Text → Int → Occurrence := fun msgid line => ⟨⟨msgid, line, none, none⟩, []⟩
    (occurrences (Php.events none code) = [found "b".toList 4] ∧
      ∃ offset, 4 = 1 + (Text.lineFeeds (code.take offset) : Int) ∧
        Php.MarkedAt false 1 code offset (found "b".toList 4)) ∧
    (occurrences (Php.settingFileEvents none ["title".toList] code) =
        [found "a".toList 3, found "b".toList 4] ∧
      ∃ offset, 3 = 1 + (Text.lineFeeds (code.take offset) : Int) ∧
        (Php.MarkedAt false 1 code offset (found "a".toList 3) ∨
          Php.SetAt ["title".toList] code offset (found "a".toList 3))) ∧
    (occurrences (Script.events none 1 script) = [found "c".toList 2] ∧
      ∃ offset, 2 = 1 + (Text.lineFeeds (script.take offset) : Int) ∧
        Script.MarkedAt 1 script offset (found "c".toList 2)) ∧
    (occurrences (Smarty.events [] none template) = [found "e".toList 3, found "f".toList 4] ∧
      ∀ o ∈ [found "e".toList 3, found "f".toList 4],
        ∃ offset, o.line = 1 + Text.lineFeeds (template.take offset) ∧
          (Smarty.TaggedAt template offset o ∨ Smarty.CalledInBlock template offset o)) := by
  intro code script template found
  have hcode : occurrences (Php.events none code) = [found "b".toList 4] := by decide +kernel
  have hsettings : occurrences (Php.settingFileEvents none ["title".toList] code) =
      [found "a".toList 3, found "b".toList 4] := by decide +kernel
  have hscript : occurrences (Script.events none 1 script) = [found "c".toList 2] := by
    decide +kernel
  have htemplate : occurrences (Smarty.events [] none template) =
      [found "e".toList 3, found "f".toList 4] := by decide +kernel
  obtain ⟨hphp, hsetting, _, _⟩ := line_of_occurrence none ["title".toList] [] code
  obtain ⟨_, _, hcall, _⟩ := line_of_occurrence none [] [] script
  obtain ⟨_, _, _, htag⟩ := line_of_occurrence none [] [] template
  rw [hcode] at hphp
  rw [hsettings] at hsetting
  rw [hscript] at hcall
  rw [htemplate] at htag
  exact ⟨⟨hcode, hphp _ List.mem_cons_self⟩, ⟨hsettings, hsetting _ List.mem_cons_self⟩,
    ⟨hscript, hcall _ List.mem_cons_self⟩, htemplate, htag⟩

end MessageHarvest
