import MessageHarvest.Proofs.MalformedText
import MessageHarvest.Proofs.ReferenceLines
import MessageHarvest.Proofs.RepeatedInsertion

/-! # The filter before fragments of markup

A document of markup has many fragments of script, and those in which `ts`
does not occur are passed over without a scan. Nothing is lost by that. A
token is cut out of its source as it stands, whatever branch of the lexer
cuts it, so a name is never made up from an escape, from a string or from
pieces that are joined, and without the letters there is no call. Only
notices about scans that break off are saved. -/
namespace MessageHarvest

open Event (occurrences occurrences_append occurrences_notices insertions)

theorem Text.occurs_iff {word s : Text} : occurs word s = true ↔ word <:+: s := by
  rw [occurs, Option.isSome_iff_exists]
  constructor
  · rintro ⟨n, hn⟩
    exact (prefix_drop_of_position? hn).isInfix.trans (List.drop_suffix n s).isInfix
  · intro h
    cases hword : position? word s with
    | none => exact absurd h (not_infix_of_position?_eq_none hword)
    | some n => exact ⟨n, rfl⟩

namespace Script

/-! ## Tokens stand in the script -/

theorem infix_of_mem_significant {line : Int} {source : Text} {t : Token}
    (h : t ∈ Item.significant (scan line source).items) : t.text <:+: source := by
  obtain ⟨offset, -, hcut⟩ := exists_cutAt (cuts.flatMap_text true source) h
  exact hcut.stands.isInfix.trans (List.drop_suffix offset source).isInfix

/-- A token with another text is no call, nor a notice about one. -/
theorem callEvents_eq_nil (tag : Option Text) (before : List Token) {t : Token}
    (ht : t.text ≠ "ts".toList) (after : List Token) : callEvents tag before t after = [] := by
  have hcall : isCall before t after = false := by
    simp only [isCall, ht, decide_false, Bool.and_false, Bool.false_and]
  have hread : readCall before t after = .nothing := by
    rw [readCall, hcall]
    rfl
  rw [callEvents, hread]

theorem tokenEvents_eq_nil (tag : Option Text) (before : List Token) {ts : List Token}
    (hts : ∀ t ∈ ts, t.text ≠ "ts".toList) : tokenEvents tag before ts = [] := by
  induction ts generalizing before with
  | nil => rfl
  | cons t ts ih =>
    obtain ⟨ht, hts⟩ := List.forall_mem_cons.mp hts
    rw [tokenEvents, callEvents_eq_nil tag before ht, ih _ hts, List.append_nil]

/-- A script in which `ts` does not occur has nothing to say but that its scan breaks off. -/
theorem events_of_not_infix (tag : Option Text) (line : Int) {source : Text}
    (h : ¬ "ts".toList <:+: source) :
    events tag line source = ((scan line source).notices .script).map .notice := by
  have htokens : ∀ t ∈ Item.significant (scan line source).items, t.text ≠ "ts".toList := by
    intro t ht htext
    exact h (htext ▸ infix_of_mem_significant ht)
  rw [events, tokenEvents_eq_nil tag [] htokens, List.append_nil]

end Script

namespace Markup

/-! ## Documents -/

/-- What the fragments contribute if each is handed to the reader, up to one that cannot be
decoded. -/
def eventsBy (read : Int → Text → List Event) : List Fragment → Findings
  | [] => ⟨[], none⟩
  | f :: fs =>
    match f.script with
    | .error e => ⟨[], some e⟩
    | .ok script =>
      let rest := eventsBy read fs
      ⟨read f.line script ++ rest.events, rest.failure⟩

/-- What a document contributes if every fragment is scanned. -/
def unfilteredFindings (tag : Option Text) (source : Text) : Findings :=
  eventsBy (Script.events tag) (fragments 1 (pieces source))

theorem fragmentEvents_eq_eventsBy (tag : Option Text) (fs : List Fragment) :
    fragmentEvents tag fs = eventsBy (scriptEvents tag) fs := by
  induction fs with
  | nil => rfl
  | cons f fs ih =>
    rewrite [fragmentEvents, eventsBy, ih]
    cases f.script <;> rfl

theorem occurrences_scriptEvents (tag : Option Text) (line : Int) (script : Text) :
    occurrences (scriptEvents tag line script) = occurrences (Script.events tag line script) := by
  rw [scriptEvents]
  split
  · rfl
  · rename_i hword
    rw [Script.events_of_not_infix tag line (mt Text.occurs_iff.mpr hword), occurrences_notices]
    rfl

/-- Readers that find the same strings in every fragment find the same ones in a document, and
they stop at the same fragment. -/
theorem eventsBy_congr {read other : Int → Text → List Event}
    (h : ∀ line script, occurrences (read line script) = occurrences (other line script))
    (fs : List Fragment) :
    occurrences (eventsBy read fs).events = occurrences (eventsBy other fs).events ∧
      (eventsBy read fs).failure = (eventsBy other fs).failure := by
  induction fs with
  | nil => exact ⟨rfl, rfl⟩
  | cons f fs ih =>
    rw [eventsBy, eventsBy]
    cases f.script with
    | error e => exact ⟨rfl, rfl⟩
    | ok script =>
      refine ⟨?_, ih.2⟩
      dsimp only
      rw [occurrences_append, occurrences_append, h, ih.1]

theorem findings_eq_unfiltered (tag : Option Text) (source : Text) :
    occurrences (findings tag source).events =
        occurrences (unfilteredFindings tag source).events ∧
      (findings tag source).failure = (unfilteredFindings tag source).failure := by
  rw [findings, fragmentEvents_eq_eventsBy]
  exact eventsBy_congr (occurrences_scriptEvents tag) _

end Markup

/-- **The filter before fragments loses no string.** A document makes the same insertions, in the
same order, as if all its fragments were scanned; it breaks off at the same fragment, and every
catalog ends up the same. For where `ts` does not occur, a script contributes nothing on whatever
line it starts, except notices about its own scan. -/
theorem fragment_filter_sound (tag : Option Text) :
    (∀ source path : Text,
      insertions path (Markup.findings tag source).events =
          insertions path (Markup.unfilteredFindings tag source).events ∧
        (Markup.findings tag source).failure = (Markup.unfilteredFindings tag source).failure ∧
        ∀ (tree : File.Tree) (c : Catalog),
          (c.apply tree path (Markup.findings tag source).events).1 =
            (c.apply tree path (Markup.unfilteredFindings tag source).events).1) ∧
    ∀ (line : Int) (script : Text), ¬ "ts".toList <:+: script →
      Script.events tag line script =
          ((Script.scan line script).notices .script).map .notice ∧
        ∀ path, insertions path (Script.events tag line script) = [] := by
  refine ⟨?_, ?_⟩
  · intro source path
    obtain ⟨hfound, hfailure⟩ := Markup.findings_eq_unfiltered tag source
    refine ⟨?_, hfailure, ?_⟩
    · rw [insertions, insertions, hfound]
    · intro tree c
      rw [Catalog.apply_fst, Catalog.apply_fst, hfound]
  · intro line script hword
    have hevents := Script.events_of_not_infix tag line hword
    refine ⟨hevents, ?_⟩
    intro path
    rw [hevents, insertions, occurrences_notices]
    rfl

/-- The letters come about by an escape, by joining strings and around a comment, in a script that
breaks off. In an attribute they may come from a reference, which is resolved before the test. -/
theorem fragment_filter_sound_made_up :
    let script : Text := "t\\u0073('x'); 't' + 's'('y'); t/**/s('z'); 'w".toList
    let content : Text := "<a b=\"t\\u0073('x')\" c=\"&#116;s('y')\">".toList
    let path : Text := "a.html".toList
    ¬ "ts".toList <:+: script ∧ ((Script.scan 7 script).notices .script).length = 1 ∧
      (Script.events none 7 script =
          ((Script.scan 7 script).notices .script).map .notice ∧
        insertions path (Script.events none 7 script) = []) ∧
      insertions path (Markup.unfilteredFindings none content).events =
        [⟨⟨⟨"y".toList, 1, none, none⟩, []⟩, path, []⟩] := by
  intro script content path
  have hword : ¬ "ts".toList <:+: script := mt Text.occurs_iff.mpr (by decide)
  obtain ⟨hdocument, hscript⟩ := fragment_filter_sound none
  obtain ⟨hevents, hnone⟩ := hscript 7 script hword
  refine ⟨hword, by decide +kernel, ⟨hevents, hnone path⟩, ?_⟩
  rw [← (hdocument content path).1]
  decide +kernel

end MessageHarvest
