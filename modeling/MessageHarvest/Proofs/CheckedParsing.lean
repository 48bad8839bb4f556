import MessageHarvest.Dialect
import MessageHarvest.Proofs.CheckedCalls
import MessageHarvest.Proofs.NameResolution

/-! # How the reading of a file ends

Each dialect is read once more with all its operations that can fail: the
scan of code, the reading of tokens by index, the insertion of a string, which
is refused if it has no text and ends early if its place cannot be resolved, and
the number of a character reference, which is refused if it has too many digits.
What has been done by the time of a failure stays done. The reading of any file
takes what is found in it and then ends as `findings` tells (`Reader.parsing_eq`),
so only two things can end it early: a place that cannot be resolved, at the
first string, and a character reference. It is told exactly when. -/
namespace MessageHarvest

/-- A string that is reported has text. -/
def Event.HasText : Event → Prop
  | .found occurrence => occurrence.msgid ≠ []
  | .notice _ => True

/-! ## Strings that are found have text -/

/-- An empty string is passed over before the options are read. -/
theorem CallGrammar.msgid_of_readArguments {g : CallGrammar} {name : Token}
    {args : List (List Token)} {call : Call} (h : g.readArguments name args = .found call) :
    call.msgid ≠ [] := by
  unfold CallGrammar.readArguments at h
  split at h
  · cases h
  · split at h
    · cases h
    · cases h
    · split at h
      · cases h
      · cases h
        exact List.cons_ne_nil _ _

theorem CallGrammar.msgid_of_read {g : CallGrammar} {name : Token} {after : List Token}
    {call : Call} (h : g.read name after = .found call) : call.msgid ≠ [] := by
  unfold CallGrammar.read at h
  split at h
  · cases h
  · split at h
    · split at h
      · cases h
      · exact msgid_of_readArguments h
    · cases h

namespace Event

theorem hasText_notices (notices : List Notice) : ∀ e ∈ notices.map notice, e.HasText := by
  intro e he
  obtain ⟨n, _, rfl⟩ := List.mem_map.mp he
  trivial

theorem hasText_append {first second : List Event} (h₁ : ∀ e ∈ first, e.HasText)
    (h₂ : ∀ e ∈ second, e.HasText) : ∀ e ∈ first ++ second, e.HasText := by
  intro e he
  exact (List.mem_append.mp he).elim (h₁ e) (h₂ e)

theorem hasText_ofReading (comments : List Text) {r : Reading}
    (h : ∀ call, r = .found call → call.msgid ≠ []) : ∀ e ∈ ofReading comments r, e.HasText := by
  intro e he
  cases r with
  | found call =>
    obtain rfl := List.mem_singleton.mp he
    exact h call rfl
  | refused why =>
    obtain rfl := List.mem_singleton.mp he
    trivial
  | nothing => cases he

theorem hasText_call (g : CallGrammar) (called : Bool) (name : Token) (after : List Token)
    (comments : List Text) :
    ∀ e ∈ ofReading comments (if called then g.read name after else .nothing), e.HasText := by
  refine hasText_ofReading comments fun call h => ?_
  split at h
  · exact CallGrammar.msgid_of_read h
  · cases h

theorem hasText_walk {walk : List Token → List Token → List Event}
    {step : List Token → Token → List Token → List Event}
    (hnil : ∀ before, walk before [] = [])
    (hcons : ∀ before t after,
      walk before (t :: after) = step before t after ++ walk (t :: before) after)
    (hstep : ∀ before t after, ∀ e ∈ step before t after, e.HasText) (before ts : List Token) :
    ∀ e ∈ walk before ts, e.HasText := by
  induction ts generalizing before with
  | nil =>
    rw [hnil]
    exact fun e he => nomatch he
  | cons t ts ih =>
    rw [hcons]
    exact hasText_append (hstep before t ts) (ih (t :: before))

end Event

/-- What a scan contributes: first the notice if it broke off, then what its tokens do. -/
def Checked.scanEvents (language : Language) (step : List Token → Nat → Checked (List Event))
    (scan : Checked Scan) : Checked (List Event) := do
  let found ← scan
  let events ← walk step (Item.significant found.items)
  pure ((found.notices language).map .notice ++ events)

theorem Checked.scanEvents_eq (language : Language)
    {step : List Token → Nat → Checked (List Event)} (events : List Token → List Event)
    (hwalk : ∀ tokens, walk step tokens = .ok (events tokens)) {scan : Checked Scan} {found : Scan}
    (hscan : scan = .ok found) :
    scanEvents language step scan = .ok ((found.notices language).map .notice ++
      events (Item.significant found.items)) := by
  rw [scanEvents, hscan, ok_bind, hwalk]
  rfl

namespace Php

theorem hasText_callEvents (tag : Option Text) (before : List Token) (t : Token)
    (after : List Token) : ∀ e ∈ callEvents tag before t after, e.HasText :=
  Event.hasText_call grammar (isCall before t after) t after
    (commentLines tag (t.precedingComment? before))

theorem hasText_settingEvents (tag : Option Text) (keys : List Text) (t : Token)
    (after : List Token) : ∀ e ∈ settingEvents tag keys t after, e.HasText := by
  intro e he
  unfold settingEvents at he
  split at he
  · split at he
    · split at he
      · exact Event.hasText_notices _ e he
      · split at he
        · obtain ⟨first, _, rfl⟩ := List.mem_map.mp he
          exact List.cons_ne_nil _ _
        · cases he
    · cases he
  · cases he

theorem hasText_metadataEvents (tag : Option Text) (keys : List Text) (before : List Token)
    (t : Token) (after : List Token) :
    ∀ e ∈ metadataEvents tag keys before t after, e.HasText := by
  unfold metadataEvents
  split
  · exact hasText_callEvents tag before t after
  · exact Event.hasText_append (hasText_callEvents tag before t after)
      (hasText_settingEvents tag keys t after)

theorem hasText_scanEvents (tag : Option Text) (scan : Scan) :
    ∀ e ∈ scanEvents tag scan, e.HasText :=
  Event.hasText_append (Event.hasText_notices _)
    (Event.hasText_walk (fun _ => rfl) (fun _ _ _ => rfl) (hasText_callEvents tag) [] _)

theorem hasText_settingFileEvents (tag : Option Text) (keys : List Text) (source : Text) :
    ∀ e ∈ settingFileEvents tag keys source, e.HasText :=
  Event.hasText_append (Event.hasText_notices _)
    (Event.hasText_walk (fun _ => rfl) (fun _ _ _ => rfl) (hasText_metadataEvents tag keys) [] _)

/-- What code contributes, if it starts on the given line. -/
def checkedEvents (tag : Option Text) (inCode : Bool) (line : Int) (source : Text) :
    Checked (List Event) :=
  Checked.scanEvents .code (Checked.callEvents checkedReadCall tag)
    (checkedScan inCode line source)

theorem checkedEvents_eq (tag : Option Text) (inCode : Bool) (line : Int) (source : Text) :
    checkedEvents tag inCode line source = .ok (scanEvents tag (scan inCode line source)) :=
  Checked.scanEvents_eq .code (tokenEvents tag [])
    (Checked.walk_eq (fun _ => rfl) (fun _ _ _ => rfl) fun before t after =>
      Checked.callEvents_eq (checkedReadCall_eq before t after) tag)
    (checkedScan_eq inCode line source)

/-- What a file of settings metadata contributes. -/
def checkedSettingFileEvents (tag : Option Text) (keys : List Text) (source : Text) :
    Checked (List Event) :=
  Checked.scanEvents .code (checkedMetadataEvents tag keys) (checkedScan false 1 source)

theorem checkedSettingFileEvents_eq (tag : Option Text) (keys : List Text) (source : Text) :
    checkedSettingFileEvents tag keys source = .ok (settingFileEvents tag keys source) :=
  Checked.scanEvents_eq .code (settingTokenEvents tag keys [])
    (Checked.walk_eq (fun _ => rfl) (fun _ _ _ => rfl) (checkedMetadataEvents_eq tag keys))
    (checkedScan_eq false 1 source)

end Php

namespace Script

theorem hasText_callEvents (tag : Option Text) (before : List Token) (t : Token)
    (after : List Token) : ∀ e ∈ callEvents tag before t after, e.HasText :=
  Event.hasText_call grammar (isCall before t after) t after
    (commentLines tag (t.precedingComment? before))

theorem hasText_events (tag : Option Text) (line : Int) (source : Text) :
    ∀ e ∈ events tag line source, e.HasText :=
  Event.hasText_append (Event.hasText_notices _)
    (Event.hasText_walk (fun _ => rfl) (fun _ _ _ => rfl) (hasText_callEvents tag) [] _)

/-- What a script contributes, if it starts on the given line. -/
def checkedEvents (tag : Option Text) (line : Int) (source : Text) : Checked (List Event) :=
  Checked.scanEvents .script (Checked.callEvents checkedReadCall tag) (checkedScan line source)

theorem checkedEvents_eq (tag : Option Text) (line : Int) (source : Text) :
    checkedEvents tag line source = .ok (events tag line source) :=
  Checked.scanEvents_eq .script (tokenEvents tag [])
    (Checked.walk_eq (fun _ => rfl) (fun _ _ _ => rfl) fun before t after =>
      Checked.callEvents_eq (checkedReadCall_eq before t after) tag)
    (checkedScan_eq line source)

end Script

/-! ## Templates -/

namespace Smarty

theorem hasText_tagEvents (path : Text) (line : Int) (comments : List Text)
    (attributes : Keyed (Option Text)) (text : Option Text) :
    ∀ e ∈ tagEvents path line comments attributes text, e.HasText := by
  intro e he
  unfold tagEvents at he
  split at he
  · obtain rfl := List.mem_singleton.mp he
    trivial
  · cases he
  · split at he
    all_goals obtain rfl := List.mem_singleton.mp he
    · trivial
    · trivial
    · exact List.cons_ne_nil _ _

theorem hasText_eventsFrom (path : Text) (tag : Option Text) (line : Int) (comments : List Text)
    (s : Text) : ∀ e ∈ eventsFrom path tag line comments s, e.HasText := by
  fun_induction eventsFrom path tag line comments s with
  | case1 => exact fun e he => nomatch he
  | case2 _ _ _ _ _ ih => exact ih
  | case3 _ _ _ _ _ _ _ _ _ _ ih => exact ih
  | case4 _ _ _ _ _ _ _ _ _ ih => exact ih
  | case5 _ _ _ _ _ _ _ _ code _ ih =>
    exact Event.hasText_append (Php.hasText_scanEvents tag _) ih
  | case6 _ _ _ _ _ _ _ _ _ _ _ _ _ ih =>
    exact Event.hasText_append (hasText_tagEvents _ _ _ _ _) ih
  | case7 =>
    intro e he
    obtain rfl := List.mem_singleton.mp he
    trivial
  | case8 _ _ _ _ _ _ _ _ _ _ _ _ _ _ _ ih =>
    exact Event.hasText_append (hasText_tagEvents _ _ _ _ _) ih

/-- What the text contributes from the given line on. Blocks of code are read with operations that
may fail. -/
def checkedEventsFrom (path : Text) (tag : Option Text) :
    Int → List Text → Text → Checked (List Event)
  | _, _, [] => pure []
  | line, comments, c :: cs =>
    match if c = '{' then construct? cs else none with
    | none =>
      checkedEventsFrom path tag (line + Text.lineFeeds [c])
        (if Text.isTrimmed c then comments else []) cs
    | some found =>
      let after := cs.drop found.2
      let afterLine := line + Text.lineFeeds (cs.take found.2)
      match found.1 with
      | .comment text => checkedEventsFrom path tag afterLine (taggedLines tag text) after
      | .literal => checkedEventsFrom path tag afterLine [] after
      | .php code => do
        let events ← Php.checkedEvents tag true line code
        let rest ← checkedEventsFrom path tag afterLine [] after
        pure (events ++ rest)
      | .ts source =>
        let attributes := attributes source
        match attributes.get? "msgid".toList with
        | some msgid => do
          let rest ← checkedEventsFrom path tag afterLine [] after
          pure (tagEvents path line comments attributes msgid ++ rest)
        | none =>
          match Text.position? closeTag after with
          | none => pure [.notice (.openTag path line)]
          | some n => do
            let block := after.take (n + closeTag.length)
            let rest ← checkedEventsFrom path tag (afterLine + Text.lineFeeds block) []
              (after.drop (n + closeTag.length))
            pure (tagEvents path line comments attributes (blockText? (after.take n)) ++ rest)
termination_by _ _ s => s.length
decreasing_by all_goals simp only [List.length_cons, List.length_drop]; omega

theorem checkedEventsFrom_eq (path : Text) (tag : Option Text) (line : Int)
    (comments : List Text) (s : Text) :
    checkedEventsFrom path tag line comments s = .ok (eventsFrom path tag line comments s) := by
  induction hlen : s.length using Nat.strongRecOn generalizing line comments s with
  | ind n ih =>
    subst hlen
    cases s with
    | nil =>
      rw [checkedEventsFrom, eventsFrom]
      rfl
    | cons c cs =>
      -- What is left behind a construct is shorter, so it is read to its end.
      have hrest : ∀ (line : Int) (comments : List Text) (k : Nat),
          checkedEventsFrom path tag line comments (cs.drop k) =
            .ok (eventsFrom path tag line comments (cs.drop k)) := by
        intro line comments k
        refine ih _ ?_ line comments _ rfl
        rw [List.length_drop, List.length_cons]
        omega
      rw [checkedEventsFrom, eventsFrom]
      cases if c = '{' then construct? cs else none with
      | none => exact hrest _ _ 0
      | some found =>
        obtain ⟨construct, k⟩ := found
        cases construct with
        | comment text => exact hrest _ _ k
        | literal => exact hrest _ _ k
        | php code =>
          dsimp only
          rw [Php.checkedEvents_eq, Checked.ok_bind, hrest]
          rfl
        | ts source =>
          dsimp only
          cases (attributes source).get? "msgid".toList with
          | some msgid =>
            dsimp only
            rw [hrest]
            rfl
          | none =>
            cases Text.position? closeTag (cs.drop k) with
            | none => rfl
            | some m =>
              dsimp only
              rw [List.drop_drop, hrest]
              rfl

end Smarty

/-! ## Markup -/

namespace Markup

/-- A decimal character reference with more digits than are read as one number. -/
def HasLongNumber (s : Text) : Prop :=
  ∃ before digits after, s = before ++ '&' :: '#' :: (digits ++ after) ∧
    TooManyDigits.limit < digits.length ∧ ∀ d ∈ digits, d.isDigit = true

theorem HasLongNumber.append {s : Text} (h : HasLongNumber s) (front : Text) :
    HasLongNumber (front ++ s) := by
  obtain ⟨before, digits, after, rfl, hlong, hdigits⟩ := h
  exact ⟨front ++ before, digits, after, by rw [List.append_assoc], hlong, hdigits⟩

/-- What cannot stand in a word stands in none, nor is it the semicolon behind one. -/
theorem not_mem_take_word {d : Char} (hd : d ≠ ';') {p : Char → Bool} (hp : p d = false)
    {word s : Text} (hword : word <+: s) (h : ∀ c ∈ word, p c = true) :
    d ∉ s.take (word.length + semicolon (s.drop word.length)) := by
  obtain ⟨rest, rfl⟩ := hword
  rw [List.drop_left, List.take_length_add_append, List.mem_append, not_or]
  constructor
  · intro hmem
    have hnot := h d hmem
    rw [hp] at hnot
    cases hnot
  · rw [semicolon]
    split
    · rename_i hhead
      obtain ⟨more, rfl⟩ := List.head?_eq_some_iff.mp hhead
      simpa using hd
    · simp

/-- No reference goes over the ampersand of another or over the end of a line. -/
theorem not_mem_take_reference? {d : Char} (hd : d = '&' ∨ d = '\n') {s : Text}
    {r : Nat × Except TooManyDigits Text} (h : reference? s = some r) : d ∉ s.take r.1 := by
  have hsemicolon : d ≠ ';' := by rcases hd with rfl | rfl <;> decide
  have hsharp : d ≠ '#' := by rcases hd with rfl | rfl <;> decide
  unfold reference? at h
  split at h
  · cases h
  · rename_i cs
    dsimp only at h
    split at h
    · cases h
      have hdigits := not_mem_take_word (p := Char.isDigit) hsemicolon
        (by rcases hd with rfl | rfl <;> rfl)
        (List.takeWhile_prefix (l := cs) Char.isDigit) fun c hc => List.mem_takeWhile_imp hc
      rw [Nat.add_assoc, Nat.add_comm 1, List.take_succ_cons]
      simpa [hsharp] using hdigits
    · split at h
      · rename_i x cs _
        split at h
        · rename_i hhex
          cases h
          have hdigits := not_mem_take_word (p := Text.isHexDigit) hsemicolon
            (by rcases hd with rfl | rfl <;> rfl)
            (List.takeWhile_prefix (l := cs) Text.isHexDigit) fun c hc => List.mem_takeWhile_imp hc
          have hx : d ≠ x := by
            rintro rfl
            rcases hd with rfl | rfl <;> simp at hhex
          rw [Nat.add_assoc, Nat.add_comm 2, List.take_succ_cons, List.take_succ_cons]
          simpa [hsharp, hx] using hdigits
        · cases h
      · cases h
  · dsimp only at h
    split at h
    · cases h
    · cases h
      exact not_mem_take_word (p := isEntityNameChar) hsemicolon
        (by rcases hd with rfl | rfl <;> rfl)
        ((List.takeWhile_prefix isEntityNameChar).trans (List.take_prefix 32 _))
        fun c hc => List.mem_takeWhile_imp hc

theorem reference?_long {digits : Text} (hlong : TooManyDigits.limit < digits.length)
    (hdigits : ∀ d ∈ digits, d.isDigit = true) (after : Text) :
    ∃ n e, reference? ('#' :: (digits ++ after)) = some (n, .error e) := by
  have htake : (digits ++ after).takeWhile Char.isDigit = digits ++ after.takeWhile Char.isDigit :=
    List.takeWhile_append_of_pos hdigits
  have hlength : TooManyDigits.limit < ((digits ++ after).takeWhile Char.isDigit).length := by
    rw [htake, List.length_append]
    omega
  have hsome : (!((digits ++ after).takeWhile Char.isDigit).isEmpty) = true := by
    cases hd : (digits ++ after).takeWhile Char.isDigit with
    | nil =>
      rw [hd] at hlength
      cases hlength
    | cons d ds => rfl
  simp only [reference?, if_pos hsome, if_neg (Nat.not_le.mpr hlength)]
  exact ⟨_, _, rfl⟩

theorem long_of_reference? {s : Text} {n : Nat} {e : TooManyDigits}
    (h : reference? s = some (n, .error e)) :
    ∃ digits after, s = '#' :: (digits ++ after) ∧ TooManyDigits.limit < digits.length ∧
      ∀ d ∈ digits, d.isDigit = true := by
  unfold reference? at h
  split at h
  · cases h
  · rename_i cs
    obtain ⟨rest, hrest⟩ := List.takeWhile_prefix (l := cs) Char.isDigit
    dsimp only at h
    split at h
    · split at h
      · cases h
      · rename_i hlong
        exact ⟨_, rest, by rw [hrest], Nat.not_le.mp hlong, fun d hd => List.mem_takeWhile_imp hd⟩
    · split at h
      · split at h <;> cases h
      · cases h
  · dsimp only at h
    split at h <;> cases h

theorem HasLongNumber.of_unescape {s : Text} {e : TooManyDigits} (h : unescape s = .error e) :
    HasLongNumber s := by
  induction hlen : s.length using Nat.strongRecOn generalizing s with
  | ind n ih =>
    subst hlen
    cases s with
    | nil =>
      rw [unescape] at h
      cases h
    | cons c cs =>
      -- A failure further on is one of the rest, which is shorter.
      have hrest : ∀ k (f : Text → Text), (unescape (cs.drop k)).map f = .error e →
          HasLongNumber (c :: cs) := by
        intro k f hmap
        cases hread : unescape (cs.drop k) with
        | ok value =>
          rw [hread] at hmap
          cases hmap
        | error e' =>
          rw [hread] at hmap
          cases hmap
          have hlt : (cs.drop k).length < (c :: cs).length := by
            rw [List.length_drop, List.length_cons]
            omega
          have hlong := (ih _ hlt hread rfl).append (c :: cs.take k)
          rwa [List.cons_append, List.take_append_drop] at hlong
      rw [unescape] at h
      split at h
      · rename_i hc
        subst hc
        cases hreference : reference? cs with
        | none =>
          rw [hreference] at h
          exact hrest 0 _ h
        | some r =>
          obtain ⟨k, value⟩ := r
          rw [hreference] at h
          cases value with
          | error e' =>
            obtain ⟨digits, after, rfl, hlong, hdigits⟩ := long_of_reference? hreference
            exact ⟨[], digits, after, rfl, hlong, hdigits⟩
          | ok value => exact hrest k _ h
      · exact hrest 0 _ h

theorem HasLongNumber.unescape {s : Text} (h : HasLongNumber s) :
    ∃ e, Markup.unescape s = .error e := by
  obtain ⟨before, digits, after, rfl, hlong, hdigits⟩ := h
  induction hlen : before.length using Nat.strongRecOn generalizing before with
  | ind n ih =>
    subst hlen
    cases before with
    | nil =>
      obtain ⟨k, e, hread⟩ := reference?_long hlong hdigits after
      refine ⟨e, ?_⟩
      rw [List.nil_append, Markup.unescape, if_pos rfl, hread]
    | cons c cs =>
      have hrest : ∀ k ≤ cs.length, ∃ e,
          Markup.unescape ((cs ++ '&' :: '#' :: (digits ++ after)).drop k) = .error e := by
        intro k hk
        rw [List.drop_append_of_le_length hk]
        refine ih _ ?_ (cs.drop k) rfl
        rw [List.length_drop, List.length_cons]
        omega
      obtain ⟨e, hnext⟩ := hrest 0 (Nat.zero_le _)
      rw [List.drop_zero] at hnext
      rw [List.cons_append, Markup.unescape]
      split
      · cases hreference : reference? (cs ++ '&' :: '#' :: (digits ++ after)) with
        | none => exact ⟨e, by rw [hnext]; rfl⟩
        | some r =>
          -- The reference ends before the ampersand of the long number.
          have hle : r.1 ≤ cs.length := by
            by_contra hgt
            refine not_mem_take_reference? (.inl rfl) hreference ?_
            obtain ⟨m, hm⟩ : ∃ m, r.1 = cs.length + (m + 1) := ⟨r.1 - cs.length - 1, by omega⟩
            rw [hm, List.take_length_add_append]
            simp
          obtain ⟨e', herror⟩ := hrest r.1 hle
          obtain ⟨k, value⟩ := r
          cases value with
          | error e => exact ⟨e, rfl⟩
          | ok value => exact ⟨e', by dsimp only at herror ⊢; rw [herror]; rfl⟩
      · exact ⟨e, by rw [hnext]; rfl⟩

/-- Only the references of a fragment can keep its script from being read. -/
theorem Fragment.script_eq_error_iff (f : Fragment) :
    (∃ e, f.script = .error e) ↔ f.hasReferences = true ∧ HasLongNumber f.text := by
  rw [script]
  constructor
  · rintro ⟨e, he⟩
    split at he
    · rename_i hreferences
      exact ⟨hreferences, .of_unescape he⟩
    · cases he
  · rintro ⟨hreferences, hlong⟩
    rw [if_pos hreferences]
    exact hlong.unescape

/-- The reading ends early exactly if some fragment cannot be read. -/
theorem isSome_failure_iff (tag : Option Text) (fs : List Fragment) :
    (fragmentEvents tag fs).failure.isSome = true ↔
      ∃ f ∈ fs, f.hasReferences = true ∧ HasLongNumber f.text := by
  induction fs with
  | nil => simp [fragmentEvents]
  | cons f fs ih =>
    rw [List.exists_mem_cons_iff, ← f.script_eq_error_iff, ← ih, fragmentEvents]
    cases f.script with
    | error e => simp
    | ok script => simp

theorem hasText_fragmentEvents (tag : Option Text) (fs : List Fragment) :
    ∀ e ∈ (fragmentEvents tag fs).events, e.HasText := by
  induction fs with
  | nil => exact fun e he => nomatch he
  | cons f fs ih =>
    rw [fragmentEvents]
    split
    · exact fun e he => nomatch he
    · refine Event.hasText_append ?_ ih
      rw [scriptEvents]
      split
      · exact Script.hasText_events tag _ _
      · exact fun e he => nomatch he

/-- What a fragment contributes. -/
def checkedFragment (tag : Option Text) (f : Fragment) : Checked (List Event) := do
  let script ← f.script.mapError .tooManyDigits
  if Text.occurs "ts".toList script then Script.checkedEvents tag f.line script else pure []

theorem checkedFragment_eq (tag : Option Text) {f : Fragment} {script : Text}
    (h : f.script = .ok script) :
    checkedFragment tag f = .ok (scriptEvents tag f.line script) := by
  have hscript : f.script.mapError Failure.tooManyDigits = .ok script := by
    rw [h]
    rfl
  rw [checkedFragment, hscript, Checked.ok_bind, Script.checkedEvents_eq, scriptEvents]
  split <;> rfl

end Markup

/-! ## Reading into a state -/

/-- A part of the reading of a file. What it has done by the time of a failure stays done. -/
abbrev Parsing (σ : Type) := EStateM Failure σ

namespace Parsing

variable {σ : Type}

/-- What a part of the reading gives, unless it fails. -/
def ofChecked {α : Type} (x : Checked α) : Parsing σ α := fun s =>
  match x with
  | .ok a => .ok a s
  | .error e => .error e s

/-- Takes what was read, one thing after the other. -/
def takeAll (step : Event → Parsing σ Unit) (events : Checked (List Event)) : Parsing σ Unit := do
  let events ← ofChecked events
  events.forM step

/-- Reads the fragments of a document, and takes what each contributes before the next is read. -/
def takeFragments (step : Event → Parsing σ Unit) (tag : Option Text) :
    List Markup.Fragment → Parsing σ Unit
  | [] => pure ()
  | f :: fs => do
    takeAll step (Markup.checkedFragment tag f)
    takeFragments step tag fs

/-- Takes all that was found, and then ends as the reading did. -/
def ofFindings (step : Event → Parsing σ Unit) (found : Findings) : Parsing σ Unit := do
  found.events.forM step
  match found.failure with
  | none => pure ()
  | some e => throw (.tooManyDigits e)

/-- How the reading ends that took all it found. -/
def ended (found : Findings) (s : σ) : EStateM.Result Failure σ Unit :=
  match found.failure with
  | none => .ok () s
  | some e => .error (.tooManyDigits e) s

theorem run_ofFindings {step : Event → Parsing σ Unit} {found : Findings} {s after : σ}
    (h : (found.events.forM step).run s = .ok () after) :
    (ofFindings step found).run s = ended found after := by
  rw [ofFindings, EStateM.run_bind, h, ended]
  cases found.failure <;> rfl

theorem run_ofFindings_error {step : Event → Parsing σ Unit} {found : Findings} {s after : σ}
    {e : Failure} (h : (found.events.forM step).run s = .error e after) :
    (ofFindings step found).run s = .error e after := by
  rw [ofFindings, EStateM.run_bind, h]

theorem takeAll_ok (step : Event → Parsing σ Unit) (events : List Event) :
    takeAll step (.ok events) = events.forM step := rfl

/-- What is taken from the fragments before one that cannot be read stays taken. -/
theorem takeFragments_eq (step : Event → Parsing σ Unit) (tag : Option Text)
    (fs : List Markup.Fragment) :
    takeFragments step tag fs = ofFindings step (Markup.fragmentEvents tag fs) := by
  induction fs with
  | nil => rfl
  | cons f fs ih =>
    rw [takeFragments, Markup.fragmentEvents, ih]
    cases hscript : f.script with
    | error e =>
      rw [Markup.checkedFragment, hscript]
      rfl
    | ok script =>
      rw [Markup.checkedFragment_eq tag hscript, takeAll_ok]
      simp only [ofFindings, List.forM_eq_forM, List.forM_append, bind_assoc]

end Parsing

/-! ## Every reader -/

/-- The ways in which text is read: as a file in a dialect, or as code or a script that starts on
the given line. -/
inductive Reader where
  | file (d : Dialect)
  | code (line : Int)
  | script (line : Int)

/-- What a file contributes if it is read in this dialect, unless it is a document of markup, which
is read in parts. -/
def Dialect.checkedEvents (tag : Option Text) (keys : List Text) (path content : Text) :
    Dialect → Checked (List Event)
  | script => Script.checkedEvents tag 1 content
  | setting => Php.checkedSettingFileEvents tag keys content
  | template => Smarty.checkedEventsFrom path tag 1 [] content
  | php => Php.checkedEvents tag false 1 content

/-- The file is a document of markup. -/
def Dialect.IsMarkup (path : Text) (d : Dialect) : Prop :=
  d = script ∧ hasSuffix path [".html".toList] = true

instance (path : Text) (d : Dialect) : Decidable (d.IsMarkup path) :=
  inferInstanceAs (Decidable (_ ∧ _))

namespace Reader

variable {σ : Type}

/-- What is found in a text, and how the reading ends. -/
def findings (tag : Option Text) (keys : List Text) (path content : Text) : Reader → Findings
  | file d => d.findings tag keys path content
  | code line => ⟨Php.codeEvents tag line content, none⟩
  | script line => ⟨Script.events tag line content, none⟩

/-- Reads a text, and takes what it contributes. -/
def parsing (step : Event → Parsing σ Unit) (tag : Option Text) (keys : List Text)
    (path content : Text) : Reader → Parsing σ Unit
  | file d =>
    if d.IsMarkup path then
      Parsing.takeFragments step tag (Markup.fragments 1 (Markup.pieces content))
    else Parsing.takeAll step (d.checkedEvents tag keys path content)
  | code line => Parsing.takeAll step (Php.checkedEvents tag true line content)
  | script line => Parsing.takeAll step (Script.checkedEvents tag line content)

end Reader

namespace Dialect

theorem findings_of_isMarkup (tag : Option Text) (keys : List Text) {path : Text} (content : Text)
    {d : Dialect} (h : d.IsMarkup path) :
    d.findings tag keys path content = Markup.findings tag content := by
  obtain ⟨rfl, hsuffix⟩ := h
  rw [findings, if_pos hsuffix]

/-- What is not markup is read to its end. -/
theorem checkedEvents_eq (tag : Option Text) (keys : List Text) {path : Text} (content : Text)
    {d : Dialect} (h : ¬ d.IsMarkup path) :
    d.checkedEvents tag keys path content = .ok (d.findings tag keys path content).events ∧
      (d.findings tag keys path content).failure = none := by
  cases d with
  | script =>
    rw [findings, if_neg fun hsuffix => h ⟨rfl, hsuffix⟩]
    exact ⟨Script.checkedEvents_eq tag 1 content, rfl⟩
  | setting => exact ⟨Php.checkedSettingFileEvents_eq tag keys content, rfl⟩
  | template => exact ⟨Smarty.checkedEventsFrom_eq path tag 1 [] content, rfl⟩
  | php => exact ⟨Php.checkedEvents_eq tag false 1 content, rfl⟩

theorem hasText_findings (tag : Option Text) (keys : List Text) (path content : Text)
    (d : Dialect) : ∀ e ∈ (d.findings tag keys path content).events, e.HasText := by
  cases d with
  | script =>
    rw [findings]
    split
    · exact Markup.hasText_fragmentEvents tag _
    · exact Script.hasText_events tag 1 content
  | setting => exact Php.hasText_settingFileEvents tag keys content
  | template => exact Smarty.hasText_eventsFrom path tag 1 [] content
  | php => exact Php.hasText_scanEvents tag _

end Dialect

namespace Reader

theorem hasText_findings (tag : Option Text) (keys : List Text) (path content : Text)
    (r : Reader) : ∀ e ∈ (r.findings tag keys path content).events, e.HasText := by
  cases r with
  | file d => exact d.hasText_findings tag keys path content
  | code line => exact Php.hasText_scanEvents tag _
  | script line => exact Script.hasText_events tag line content

/-- Whatever is done with what is found, the reading takes it all and ends as told. -/
theorem parsing_eq {σ : Type} (step : Event → Parsing σ Unit) (tag : Option Text)
    (keys : List Text) (path content : Text) (r : Reader) :
    r.parsing step tag keys path content =
      .ofFindings step (r.findings tag keys path content) := by
  cases r with
  | file d =>
    rw [parsing, findings]
    split
    · rename_i hmarkup
      rw [d.findings_of_isMarkup tag keys content hmarkup]
      exact Parsing.takeFragments_eq step tag _
    · rename_i hother
      obtain ⟨hread, hfailure⟩ := d.checkedEvents_eq tag keys content hother
      rw [hread, Parsing.takeAll_ok, Parsing.ofFindings, hfailure]
      exact (bind_pure _).symm
  | code line =>
    rw [parsing, Php.checkedEvents_eq]
    exact (bind_pure _).symm
  | script line =>
    rw [parsing, Script.checkedEvents_eq]
    exact (bind_pure _).symm

/-- Only a document of markup can fail by what stands in it. -/
theorem isSome_failure_iff (tag : Option Text) (keys : List Text) (path content : Text)
    (r : Reader) :
    (r.findings tag keys path content).failure.isSome = true ↔
      ∃ d, r = .file d ∧ d.IsMarkup path ∧
        ∃ f ∈ Markup.fragments 1 (Markup.pieces content),
          f.hasReferences = true ∧ Markup.HasLongNumber f.text := by
  cases r with
  | code line => simp [findings]
  | script line => simp [findings]
  | file d =>
    rw [findings]
    by_cases hmarkup : d.IsMarkup path
    · rw [d.findings_of_isMarkup tag keys content hmarkup, Markup.findings,
        Markup.isSome_failure_iff]
      simp [hmarkup]
    · rw [(d.checkedEvents_eq tag keys content hmarkup).2]
      simp [hmarkup]

end Reader

/-! ## Reading into a catalog -/

namespace Ledger

/-- The ledger after all of these events. -/
def after (tree : File.Tree) (path : Text) (l : Ledger) (events : List Event) : Ledger :=
  let added := l.catalog.apply tree path events
  ⟨added.1, l.notices ++ added.2⟩

/-- The ledger in which the entry of an occurrence was made, and its place was not found. -/
def afterEntry (path : Text) (l : Ledger) (notices : List Notice) (o : Occurrence) : Ledger :=
  let i : Insertion := ⟨o, path, []⟩
  ⟨l.catalog.enter i, l.notices ++ notices ++
    ((l.catalog.get? (l.catalog.keyOf i.toCall)).bind (Catalog.conflict? i)).toList⟩

end Ledger

/-- Adds one thing that was found. -/
def Parsing.add (chars : Charset) (tree : File.Tree) (path : Text) (e : Event) :
    Parsing Ledger Unit := fun l =>
  match Adding.event chars tree path e l with
  | .ok u l => .ok u l
  | .error cause l => .error (.insertion cause) l

namespace Parsing

variable {chars : Charset} {tree : File.Tree} {path : Text}

theorem run_add_notice (n : Notice) (l : Ledger) :
    (add chars tree path (.notice n)).run l = .ok () ⟨l.catalog, l.notices ++ [n]⟩ := rfl

theorem run_add_found {o : Occurrence} (ho : o.msgid ≠ []) (l : Ledger) :
    (add chars tree path (.found o)).run l =
      match tree.reference chars l.catalog.base path with
      | .error fault => .error (.insertion (.name fault)) (l.afterEntry path [] o)
      | .ok shown => .ok () ⟨l.catalog.record ⟨o.line, shown⟩ ⟨o, path, []⟩,
          (l.afterEntry path [] o).notices⟩ := by
  have hempty : o.msgid.isEmpty = false := by simpa using ho
  simp only [add, EStateM.run, Adding.event, Adding.insert, hempty, Ledger.afterEntry,
    List.append_nil]
  cases tree.reference chars l.catalog.base path <;> rfl

/-- Where the place is found, an event is added as always. -/
theorem run_add {e : Event} (he : e.HasText) {l : Ledger} {shown : Text}
    (hshown : tree.reference chars l.catalog.base path = .ok shown) :
    (add chars tree path e).run l = .ok () (l.after tree path [e]) := by
  cases e with
  | notice n => rfl
  | found o =>
    have hempty : o.msgid.isEmpty = false := by simpa [Event.HasText] using he
    obtain rfl := File.Tree.reference_eq_ok hshown
    rw [run_add_found he, hshown]
    simp only [Ledger.after, Catalog.apply, Catalog.insert, hempty, Ledger.afterEntry,
      List.append_nil]
    rfl

theorem base_after (l : Ledger) (e : Event) :
    (l.after tree path [e]).catalog.base = l.catalog.base := by
  cases e with
  | notice n => rfl
  | found o =>
    simp only [Ledger.after, Catalog.apply, Catalog.insert]
    cases o.msgid.isEmpty <;> rfl

theorem after_cons (l : Ledger) (e : Event) (events : List Event) :
    (l.after tree path [e]).after tree path events = l.after tree path (e :: events) := by
  cases e with
  | notice n => simp [Ledger.after, Catalog.apply]
  | found o =>
    simp only [Ledger.after, Catalog.apply]
    cases l.catalog.insert tree ⟨o, path, []⟩ <;> simp

/-- Where the place is found, all events are added as always. -/
theorem run_forM_add {events : List Event} (h : ∀ e ∈ events, e.HasText) {l : Ledger}
    {shown : Text} (hshown : tree.reference chars l.catalog.base path = .ok shown) :
    (events.forM (add chars tree path)).run l = .ok () (l.after tree path events) := by
  induction events generalizing l with
  | nil => simp [Ledger.after, Catalog.apply, EStateM.run, pure, EStateM.pure]
  | cons e events ih =>
    obtain ⟨he, hevents⟩ := List.forall_mem_cons.mp h
    rw [List.forM, EStateM.run_bind, run_add he hshown]
    dsimp only
    rw [ih hevents ((base_after l e).symm ▸ hshown), after_cons]

/-- Where nothing is found, no place is looked for. -/
theorem run_forM_add_notices {events : List Event} (h : ∀ o, .found o ∉ events) (l : Ledger) :
    (events.forM (add chars tree path)).run l = .ok () (l.after tree path events) := by
  induction events generalizing l with
  | nil => simp [Ledger.after, Catalog.apply, EStateM.run, pure, EStateM.pure]
  | cons e events ih =>
    have hevents := fun o ho => h o (List.mem_cons_of_mem e ho)
    cases e with
    | notice n =>
      rw [List.forM, EStateM.run_bind, run_add_notice]
      dsimp only
      rw [ih hevents, ← after_cons]
      rfl
    | found o => exact absurd List.mem_cons_self (h o)

/-- Where the place is not found, the first string is the last that is taken. -/
theorem run_forM_add_fault {fault : File.NameFault} {notices : List Notice} {o : Occurrence}
    (ho : o.msgid ≠ []) (rest : List Event) {l : Ledger}
    (hfault : tree.reference chars l.catalog.base path = .error fault) :
    ((notices.map Event.notice ++ .found o :: rest).forM (add chars tree path)).run l =
      .error (.insertion (.name fault)) (l.afterEntry path notices o) := by
  induction notices generalizing l with
  | nil =>
    rw [List.map_nil, List.nil_append, List.forM, EStateM.run_bind, run_add_found ho, hfault]
  | cons n notices ih =>
    rw [List.map_cons, List.cons_append, List.forM, EStateM.run_bind, run_add_notice]
    dsimp only
    have hrest := ih (l := ⟨l.catalog, l.notices ++ [n]⟩) hfault
    rw [hrest]
    simp [Ledger.afterEntry]

end Parsing

theorem Event.exists_first_found {events : List Event} (h : ∃ o, .found o ∈ events) :
    ∃ (notices : List Notice) (o : Occurrence) (rest : List Event),
      events = notices.map .notice ++ .found o :: rest := by
  induction events with
  | nil => simp at h
  | cons e events ih =>
    cases e with
    | found o => exact ⟨[], o, events, rfl⟩
    | notice n =>
      obtain ⟨notices, o, rest, rfl⟩ := ih (by simpa using h)
      exact ⟨n :: notices, o, rest, rfl⟩

/-- Where the place cannot be told, the first string ends the reading. -/
theorem Reader.run_parsing_fault {chars : Charset} {tree : File.Tree} {path : Text} {l : Ledger}
    {fault : File.NameFault} (hfault : tree.reference chars l.catalog.base path = .error fault)
    (tag : Option Text) (keys : List Text) (content : Text) {r : Reader}
    (hsome : ∃ o, .found o ∈ (r.findings tag keys path content).events) :
    ∃ (notices : List Notice) (o : Occurrence) (rest : List Event),
      (r.findings tag keys path content).events = notices.map .notice ++ .found o :: rest ∧
      (r.parsing (.add chars tree path) tag keys path content).run l =
        .error (.insertion (.name fault)) (l.afterEntry path notices o) := by
  obtain ⟨notices, o, rest, hevents⟩ := Event.exists_first_found hsome
  have ho : o.msgid ≠ [] :=
    r.hasText_findings tag keys path content (.found o) (by simp [hevents])
  refine ⟨notices, o, rest, hevents, ?_⟩
  rw [r.parsing_eq, Parsing.run_ofFindings_error]
  rw [hevents]
  exact Parsing.run_forM_add_fault ho rest hfault

/-- **Malformed files are read.** Whatever the content, the path, the catalog and the files are, a
file in any dialect, and code and scripts on any line, are read to their end with every operation
that could fail in place, and all that is found is added, as long as the place of the strings can be
told. It can be if neither the path nor the base directory has a NUL or a character without an
encoding. Where it cannot, the first string ends the reading, and has got an entry without a
reference; a text without strings is read all the same. Else a document of markup alone can fail,
and it does if and only if the quoted value of an attribute has a decimal character reference of too
many digits. -/
theorem parsing_fails_only_by_name_or_number (chars : Charset) (tree : File.Tree)
    (tag : Option Text) (keys : List Text) (path content : Text) (r : Reader) (l : Ledger) :
    let found := r.findings tag keys path content
    let run := (r.parsing (.add chars tree path) tag keys path content).run l
    let place := tree.reference chars l.catalog.base path
    (File.Nameable chars path → File.Nameable chars l.catalog.base → ∃ shown, place = .ok shown) ∧
    ((∃ shown, place = .ok shown) ∨ (∀ o, .found o ∉ found.events) →
      run = Parsing.ended found (l.after tree path found.events)) ∧
    (∀ fault, place = .error fault → (∃ o, .found o ∈ found.events) →
      ∃ (notices : List Notice) (o : Occurrence) (rest : List Event),
        found.events = notices.map .notice ++ .found o :: rest ∧
        run = .error (.insertion (.name fault)) (l.afterEntry path notices o)) ∧
    (found.failure.isSome = true ↔ ∃ d, r = .file d ∧ d.IsMarkup path ∧
      ∃ f ∈ Markup.fragments 1 (Markup.pieces content),
        f.hasReferences = true ∧ Markup.HasLongNumber f.text) := by
  intro found run place
  have htext : ∀ e ∈ found.events, e.HasText := r.hasText_findings tag keys path content
  have hrun : run = (Parsing.ofFindings (.add chars tree path) found).run l :=
    congrArg (EStateM.run · l) (r.parsing_eq (.add chars tree path) tag keys path content)
  refine ⟨File.Tree.reference_of_nameable, ?_, ?_, r.isSome_failure_iff tag keys path content⟩
  · rintro (⟨shown, hshown⟩ | hnone)
    · rw [hrun, Parsing.run_ofFindings (Parsing.run_forM_add htext hshown)]
    · rw [hrun, Parsing.run_ofFindings (Parsing.run_forM_add_notices hnone l)]
  · intro fault hfault hsome
    exact Reader.run_parsing_fault hfault tag keys content hsome

/-- A file with one string. -/
def oneString : Text := "<?php ts('x');".toList

/-- The string is added, with its place as seen from the base. -/
theorem parsing_fails_only_by_name_or_number_added :
    let l : Ledger := ⟨.empty "/p".toList none 2, []⟩
    File.Nameable .unicode "/a.php".toList ∧ File.Nameable .unicode "/p".toList ∧
    ∃ after, ((Reader.file .php).parsing (.add .unicode .empty "/a.php".toList) none []
        "/a.php".toList oneString).run l = .ok () after ∧
      after.catalog.entries = [⟨['x'], none, none, [⟨1, "../a.php".toList⟩], [], []⟩] := by
  intro l
  have hpath : File.Nameable .unicode "/a.php".toList := by
    intro c hc
    refine ⟨rfl, ?_⟩
    rintro rfl
    exact absurd hc (by decide)
  have hbase : File.Nameable .unicode "/p".toList := by
    intro c hc
    refine ⟨rfl, ?_⟩
    rintro rfl
    exact absurd hc (by decide)
  obtain ⟨hplace, hread, _⟩ := parsing_fails_only_by_name_or_number .unicode .empty none []
    "/a.php".toList oneString (.file .php) l
  refine ⟨hpath, hbase, _, hread (.inl (hplace hpath hbase)), ?_⟩
  decide +kernel

/-- A base directory with a NUL ends the reading, though the path has none. So does, where the
system takes ASCII only, a path with another character. -/
theorem unresolvable_place_ends_parsing :
    ¬ (∀ (content path : Text) (c : Catalog), '\x00' ∉ path → ∃ after,
        ((Reader.file .php).parsing (.add .unicode .empty path) none [] path content).run ⟨c, []⟩ =
          .ok () after) ∧
      ¬ ∀ (content path : Text) (c : Catalog), '\x00' ∉ path → '\x00' ∉ c.base → ∃ after,
        ((Reader.file .php).parsing (.add .ascii .empty path) none [] path content).run ⟨c, []⟩ =
          .ok () after := by
  have hsome : ∀ path, ∃ o, .found o ∈
      ((Reader.file .php).findings none [] path oneString).events := by
    intro path
    have hmem : Event.found ⟨⟨['x'], 1, none, none⟩, []⟩ ∈ Php.events none oneString := by
      decide +kernel
    exact ⟨_, hmem⟩
  refine ⟨?_, ?_⟩
  · intro hall
    obtain ⟨after, hread⟩ := hall oneString "/a.php".toList (.empty ['\x00'] none 2) (by decide)
    have hfault : File.Tree.reference .unicode .empty ['\x00'] "/a.php".toList =
        .error .embeddedNul := by decide +kernel
    obtain ⟨_, _, _, _, hends⟩ := Reader.run_parsing_fault
      (l := ⟨.empty ['\x00'] none 2, []⟩) hfault none [] oneString (hsome "/a.php".toList)
    rw [hends] at hread
    cases hread
  · intro hall
    obtain ⟨after, hread⟩ := hall oneString "/é.php".toList (.empty ['/'] none 2) (by decide)
      (by decide)
    have hfault : File.Tree.reference .ascii .empty ['/'] "/é.php".toList =
        .error (.unencodable ⟨'é', 0⟩) := by decide +kernel
    obtain ⟨_, _, _, _, hends⟩ := Reader.run_parsing_fault
      (l := ⟨.empty ['/'] none 2, []⟩) hfault none [] oneString (hsome "/é.php".toList)
    rw [hends] at hread
    cases hread

end MessageHarvest
