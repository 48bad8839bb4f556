import MessageHarvest.Php.Settings
import MessageHarvest.Proofs.PhpBoundary
import MessageHarvest.Proofs.ScriptBoundary
import MessageHarvest.Script.Calls

/-! # Strings found before malformed code

What is found in whole lines of code is found as well when more code follows
them, whatever that is. The scan of the lines is the beginning of the longer
scan, so the tokens of the lines come first among all tokens. A call or a
setting that is read to its end among them is read the same with more tokens
behind it, since its brackets are closed and its value is ended. Only what is
left open at the end of the lines may turn out otherwise, and that is not a
string found. -/
namespace MessageHarvest

/-! ## Bracketed lists and calls with more tokens behind them -/

theorem closingIndex?_append {outer : Bracket} {inner : List Bracket} {ts : List Token} {n : Nat}
    (h : closingIndex? outer inner ts = some n) (more : List Token) :
    closingIndex? outer inner (ts ++ more) = some n ∧ n ≤ ts.length := by
  fun_induction closingIndex? outer inner ts generalizing n with
  | case1 => cases h
  | case2 inner t ts b hopen ih =>
    obtain ⟨m, hm, rfl⟩ := Option.map_eq_some_iff.mp h
    obtain ⟨hsame, hle⟩ := ih hm
    simp [closingIndex?, hopen, hsame, hle]
  | case3 t ts hopen hclose =>
    cases h
    simp [closingIndex?, hopen, hclose]
  | case4 => cases h
  | case5 t ts hopen b inner hclose ih =>
    obtain ⟨m, hm, rfl⟩ := Option.map_eq_some_iff.mp h
    obtain ⟨hsame, hle⟩ := ih hm
    simp [closingIndex?, hopen, hclose, hsame, hle]
  | case6 => cases h
  | case7 inner t ts hopen hclose ih =>
    obtain ⟨m, hm, rfl⟩ := Option.map_eq_some_iff.mp h
    obtain ⟨hsame, hle⟩ := ih hm
    simp [closingIndex?, hopen, hclose, hsame, hle]

theorem readBracketed?_append {outer : Bracket} {ts : List Token} {r : List (List Token) × Nat}
    (h : readBracketed? outer ts = some r) (more : List Token) :
    readBracketed? outer (ts ++ more) = some r := by
  obtain ⟨n, hn, rfl⟩ := Option.map_eq_some_iff.mp h
  obtain ⟨hsame, hle⟩ := closingIndex?_append hn more
  rw [readBracketed?, hsame, Option.map_some, List.take_append_of_le_length hle]

/-- A call that can be read is closed, so it is read the same with more tokens behind it. -/
theorem CallGrammar.read_append (g : CallGrammar) {name : Token} {ts : List Token} {call : Call}
    (h : g.read name ts = .found call) (more : List Token) :
    g.read name (ts ++ more) = .found call := by
  cases ts with
  | nil => cases h
  | cons t ts =>
    rw [CallGrammar.read] at h
    rw [List.cons_append, CallGrammar.read]
    split at h
    · rename_i hopen
      rw [if_pos hopen]
      cases hread : readBracketed? .round ts with
      | none =>
        rw [hread] at h
        cases h
      | some r =>
        rw [hread] at h
        rw [readBracketed?_append hread]
        exact h
    · cases h

/-- The same of a call that is read only where the tokens up to the next one tell so. -/
theorem CallGrammar.read_append_of_called (g : CallGrammar) (called : List Token → Bool)
    (hcalled : ∀ a ts more, called (a :: ts ++ more) = called (a :: ts)) {name : Token}
    {after : List Token} {call : Call}
    (h : (if called after then g.read name after else .nothing) = .found call)
    (more : List Token) :
    (if called (after ++ more) then g.read name (after ++ more) else .nothing) = .found call := by
  split at h
  · rename_i hhere
    cases after with
    | nil => cases h
    | cons a after =>
      rw [if_pos ((hcalled a after more).trans hhere)]
      exact g.read_append h more
  · cases h

/-! ## Walks over the tokens -/

namespace Event

/-- The string that an event reports. -/
def occurrence? : Event → Option Occurrence
  | .found occurrence => some occurrence
  | .notice _ => none

/-- The strings among the events, in their order. -/
def occurrences (events : List Event) : List Occurrence := events.filterMap occurrence?

theorem occurrences_append (first second : List Event) :
    occurrences (first ++ second) = occurrences first ++ occurrences second :=
  List.filterMap_append

theorem occurrences_notices (notices : List Notice) : occurrences (notices.map .notice) = [] := by
  induction notices with
  | nil => rfl
  | cons n notices ih => exact ih

/-- What a reading contributes, with the comments for the string. -/
def ofReading (comments : List Text) : Reading → List Event
  | .found call => [.found ⟨call, comments⟩]
  | .refused why => [.notice why]
  | .nothing => []

/-- Of readings only those count that find a string. -/
theorem occurrences_ofReading_sublist {r r' : Reading} (comments : List Text)
    (h : ∀ call, r = .found call → r' = .found call) :
    (occurrences (ofReading comments r)).Sublist (occurrences (ofReading comments r')) := by
  cases r with
  | found call => rw [h call rfl]
  | refused why => exact List.nil_sublist _
  | nothing => exact List.nil_sublist _

/-- A walk that looks at each token with those before and behind it finds the same strings when
more tokens follow, if each step does. -/
theorem occurrences_walk_sublist {walk : List Token → List Token → List Event}
    {step : List Token → Token → List Token → List Event}
    (hnil : ∀ before, walk before [] = [])
    (hcons : ∀ before t after,
      walk before (t :: after) = step before t after ++ walk (t :: before) after)
    (hstep : ∀ before t after more,
      (occurrences (step before t after)).Sublist (occurrences (step before t (after ++ more))))
    (before ts more : List Token) :
    (occurrences (walk before ts)).Sublist (occurrences (walk before (ts ++ more))) := by
  induction ts generalizing before with
  | nil =>
    rw [hnil]
    exact List.nil_sublist _
  | cons t ts ih =>
    rw [List.cons_append, hcons, hcons, occurrences_append, occurrences_append]
    exact (hstep before t ts more).append (ih (t :: before))

end Event

/-- The tokens of the first items stay as they are, with their comments. -/
theorem Item.significant_append (items more : List Item) :
    ∃ others, Item.significant (items ++ more) = Item.significant items ++ others := by
  have hattach : ∀ pending, ∃ others,
      attach pending (items ++ more) = attach pending items ++ others := by
    induction items with
    | nil => exact fun pending => ⟨attach pending more, rfl⟩
    | cons item items ih =>
      intro pending
      cases item with
      | comment c => exact ih (some c)
      | token t =>
        obtain ⟨others, hothers⟩ := ih none
        exact ⟨others, by rw [List.cons_append, attach, hothers]; rfl⟩
  exact hattach none

/-- A scan about which there is no notice did not break off. -/
theorem Scan.broken_of_notices {language : Language} {scan : Scan}
    (h : scan.notices language = []) : scan.broken = none := by
  cases hb : scan.broken with
  | none => rfl
  | some b => simp [Scan.notices, hb] at h

/-- The tokens of the first scan stand before those of the second. -/
theorem Scan.significant_append (first second : Scan) :
    ∃ others, Item.significant (first.append second).items =
      Item.significant first.items ++ others :=
  Item.significant_append first.items second.items

open Event (occurrences occurrences_append occurrences_notices occurrences_walk_sublist)

namespace Php

theorem readCall_append {before : List Token} {t : Token} {after : List Token} {call : Call}
    (h : readCall before t after = .found call) (more : List Token) :
    readCall before t (after ++ more) = .found call :=
  grammar.read_append_of_called (isCall before t) (fun _ _ _ => rfl) h more

theorem callEvents_sublist (tag : Option Text) (before : List Token) (t : Token)
    (after more : List Token) : (occurrences (callEvents tag before t after)).Sublist
      (occurrences (callEvents tag before t (after ++ more))) :=
  Event.occurrences_ofReading_sublist (commentLines tag (t.precedingComment? before))
    fun _ h => readCall_append h more

/-- A value that runs up to the end of its element does so with more tokens behind it. -/
theorem settingValue_append {ts value : List Token} (h : settingValue ts = .ok value)
    (more : List Token) : settingValue (ts ++ more) = .ok value := by
  have hne : (ts.takeWhile isValuePart).length ≠ ts.length := by
    intro hlen
    simp only [settingValue, hlen, List.drop_length] at h
    split at h
    · contradiction
    · cases h
  have hlt : (ts.takeWhile isValuePart).length < ts.length :=
    Nat.lt_of_le_of_ne (List.takeWhile_prefix _).length_le hne
  simp only [settingValue] at h ⊢
  rw [List.takeWhile_append, if_neg hne, List.drop_append_of_le_length (Nat.le_of_lt hlt)]
  cases hdrop : ts.drop (ts.takeWhile isValuePart).length with
  | nil =>
    have := List.drop_eq_nil_iff.mp hdrop
    omega
  | cons next rest =>
    rw [hdrop] at h
    cases hvalue : ts.takeWhile isValuePart with
    | nil =>
      rw [hvalue] at h
      cases h
    | cons first value =>
      rw [hvalue] at h
      exact h

theorem settingEvents_sublist (tag : Option Text) (keys : List Text) (t : Token)
    (after more : List Token) : (occurrences (settingEvents tag keys t after)).Sublist
      (occurrences (settingEvents tag keys t (after ++ more))) := by
  cases after with
  | nil =>
    unfold settingEvents
    split
    · contradiction
    · exact List.nil_sublist _
  | cons arrow after =>
    cases hkey : t.value? with
    | none =>
      simp only [settingEvents, hkey]
      exact List.nil_sublist _
    | some key =>
      simp only [settingEvents, hkey, List.cons_append]
      split
      · cases hvalue : settingValue after with
        | ok value => rw [settingValue_append hvalue]
        | error why =>
          simp only [occurrences_notices]
          exact List.nil_sublist _
      · exact List.nil_sublist _

/-- A literal is not the name of a function. -/
theorem readCall_of_value? {t : Token} {key : Text} (h : t.value? = some key)
    (before after : List Token) : readCall before t after = .nothing := by
  have hkind : t.kind ≠ .name := by
    intro hname
    simp [Token.value?, hname] at h
  simp [readCall, isCall, hkind]

theorem metadataEvents_sublist (tag : Option Text) (keys : List Text) (before : List Token)
    (t : Token) (after more : List Token) :
    (occurrences (metadataEvents tag keys before t after)).Sublist
      (occurrences (metadataEvents tag keys before t (after ++ more))) := by
  have hcalls := callEvents_sublist tag before t after more
  have hsettings := settingEvents_sublist tag keys t after more
  cases hkey : t.value? with
  | some key =>
    simp only [metadataEvents, readCall_of_value? hkey, occurrences_append]
    exact hcalls.append hsettings
  | none =>
    -- not a literal, so no key: what counts is the call
    have hnone : ∀ ts, settingEvents tag keys t ts = [] := by
      intro ts
      simp [settingEvents, hkey]
    have hmetadata : ∀ ts, metadataEvents tag keys before t ts = callEvents tag before t ts := by
      intro ts
      unfold metadataEvents
      split
      · rfl
      · rw [hnone, List.append_nil]
    rw [hmetadata, hmetadata]
    exact hcalls

end Php

namespace Script

theorem readCall_append {before : List Token} {t : Token} {after : List Token} {call : Call}
    (h : readCall before t after = .found call) (more : List Token) :
    readCall before t (after ++ more) = .found call :=
  grammar.read_append_of_called (isCall before t) (fun _ _ _ => rfl) h more

theorem callEvents_sublist (tag : Option Text) (before : List Token) (t : Token)
    (after more : List Token) : (occurrences (callEvents tag before t after)).Sublist
      (occurrences (callEvents tag before t (after ++ more))) :=
  Event.occurrences_ofReading_sublist (commentLines tag (t.precedingComment? before))
    fun _ h => readCall_append h more

end Script

/-! ## Whole sources -/

theorem Php.occurrences_scanEvents (tag : Option Text) (scan : Scan) :
    occurrences (scanEvents tag scan) =
      occurrences (tokenEvents tag [] (Item.significant scan.items)) := by
  rw [scanEvents, occurrences_append, occurrences_notices, List.nil_append]

theorem Php.occurrences_settingFileEvents (tag : Option Text) (keys : List Text) (source : Text) :
    occurrences (settingFileEvents tag keys source) = occurrences
      (settingTokenEvents tag keys [] (Item.significant (scan false 1 source).items)) := by
  rw [settingFileEvents, occurrences_append, occurrences_notices, List.nil_append]

theorem Script.occurrences_events (tag : Option Text) (line : Int) (source : Text) :
    occurrences (events tag line source) =
      occurrences (tokenEvents tag [] (Item.significant (scan line source).items)) := by
  rw [events, occurrences_append, occurrences_notices, List.nil_append]

/-- **Malformed code does not take away the strings before it.** For whole lines of code whose scan
gives no notice, and for anything that may follow them, the strings found in the lines are found
in the same order, with their lines, plurals, contexts and comments, in the longer source. This
holds for PHP, for settings metadata and for scripts. -/
theorem strings_before_sublist (tag : Option Text) (keys : List Text) (line : Int) {p : Text}
    (hp : p.WholeLines) (q : Text) :
    ((Php.scan false 1 p).notices .code = [] →
      (occurrences (Php.events tag p)).Sublist (occurrences (Php.events tag (p ++ q))) ∧
      (occurrences (Php.settingFileEvents tag keys p)).Sublist
        (occurrences (Php.settingFileEvents tag keys (p ++ q)))) ∧
    ((Script.scan line p).notices .script = [] →
      (occurrences (Script.events tag line p)).Sublist
        (occurrences (Script.events tag line (p ++ q)))) := by
  constructor
  · intro h
    have hscan := Php.scan_append hp (Scan.broken_of_notices h) q
    obtain ⟨others, hothers⟩ := Scan.significant_append (Php.scan false 1 p)
      (Php.scan (Php.endsInCode false p) (1 + Text.lineFeeds p) q)
    rw [← hscan] at hothers
    constructor
    · rw [Php.events, Php.events, Php.occurrences_scanEvents, Php.occurrences_scanEvents, hothers]
      exact occurrences_walk_sublist (fun _ => rfl) (fun _ _ _ => rfl)
        (Php.callEvents_sublist tag) [] _ others
    · rw [Php.occurrences_settingFileEvents, Php.occurrences_settingFileEvents, hothers]
      exact occurrences_walk_sublist (fun _ => rfl) (fun _ _ _ => rfl)
        (Php.metadataEvents_sublist tag keys) [] _ others
  · intro h
    have hscan := Script.scan_append hp (Scan.broken_of_notices h) q
    obtain ⟨others, hothers⟩ := Scan.significant_append (Script.scan line p)
      (Scan.ofLexemes (line + Text.lineFeeds p) (Script.lexemes (Script.startsBehind p) q))
    rw [← hscan] at hothers
    rw [Script.occurrences_events, Script.occurrences_events, hothers]
    exact occurrences_walk_sublist (fun _ => rfl) (fun _ _ _ => rfl)
      (Script.callEvents_sublist tag) [] _ others

/-- A line with a call and one with a setting, and behind them another setting and a call whose
string is left open; and a script with a call and an open one behind it. -/
theorem strings_before_open_quote :
    let p : Text := "<?php /* A: x */ ts('a', ['plural' => 'b']);\n$s = ['title' => 'c'];\n".toList
    let q : Text := "$t = ['title' => 'd']; ts(\"e".toList
    let script : Text := "/* A: x */ ts('a', \x7bplural: 'b'\x7d);\n".toList
    let call : Int → Occurrence := fun line => ⟨⟨['a'], line, some ['b'], none⟩, ["A: x".toList]⟩
    let setting : Occurrence := ⟨⟨['c'], 2, none, none⟩, []⟩
    (p.WholeLines ∧ (Php.scan false 1 p).notices .code = [] ∧
      occurrences (Php.events (some "A".toList) p) = [call 1] ∧
      [call 1].Sublist (occurrences (Php.events (some "A".toList) (p ++ q))) ∧
      occurrences (Php.settingFileEvents (some "A".toList) ["title".toList] p) =
        [call 1, setting] ∧
      [call 1, setting].Sublist
        (occurrences (Php.settingFileEvents (some "A".toList) ["title".toList] (p ++ q)))) ∧
    script.WholeLines ∧ (Script.scan 3 script).notices .script = [] ∧
      occurrences (Script.events (some "A".toList) 3 script) = [call 3] ∧
      [call 3].Sublist (occurrences (Script.events (some "A".toList) 3 (script ++ q))) := by
  intro p q script call setting
  have hp : p.WholeLines := by decide +kernel
  have hcode : (Php.scan false 1 p).notices .code = [] := by decide +kernel
  have hcall : occurrences (Php.events (some "A".toList) p) = [call 1] := by decide +kernel
  have hsetting : occurrences (Php.settingFileEvents (some "A".toList) ["title".toList] p) =
      [call 1, setting] := by decide +kernel
  have hlines : script.WholeLines := by decide +kernel
  have hscript : (Script.scan 3 script).notices .script = [] := by decide +kernel
  have hread : occurrences (Script.events (some "A".toList) 3 script) = [call 3] := by
    decide +kernel
  obtain ⟨hkept, hsettings⟩ :=
    (strings_before_sublist (some "A".toList) ["title".toList] 3 hp q).1 hcode
  have hscripts := (strings_before_sublist (some "A".toList) [] 3 hlines q).2 hscript
  rw [hcall] at hkept
  rw [hsetting] at hsettings
  rw [hread] at hscripts
  exact ⟨⟨hp, hcode, hcall, hkept, hsetting, hsettings⟩, hlines, hscript, hread, hscripts⟩

end MessageHarvest
