import MessageHarvest.Proofs.PathResolution
import MessageHarvest.Proofs.TextParts
import Mathlib.Data.List.Induction

/-! # References name one place

A reference is the way from the base to the real location of a path: up as far
as the two part, then down. Real locations have no name left that stays or
goes up (`Location.Normal`), so each name of the reference is one step, and
the reference followed from the base comes back to the real location. It can
therefore stand for two paths only if they really are one place.

Where no link is met on the way from the root, the real location is the
meaning of the names alone, and the reference may be put behind the base as it
was written. -/
namespace MessageHarvest.File

/-! ## Names and slashes -/

theorem not_mem_of_mem_names {path name : Text} (h : name ∈ names path) : '/' ∉ name := by
  intro hslash
  have hnot := Text.not_isSeparator_of_mem_pieces h '/' hslash
  cases hnot

theorem names_of_not_mem {name : Text} (h : '/' ∉ name) : names name = [name] := by
  unfold names
  induction name with
  | nil => rfl
  | cons c name ih =>
    obtain ⟨hc, hrest⟩ := not_or.mp (mt List.mem_cons.mpr h)
    have hc' : ¬ decide (c = '/') = true := by simpa using Ne.symm hc
    rw [Text.pieces, if_neg hc', ih hrest]

theorem names_joinWith {path : List Text} (hne : path ≠ []) (h : ∀ n ∈ path, '/' ∉ n) :
    names (Text.joinWith ['/'] path) = path := by
  unfold Text.joinWith
  induction path with
  | nil => exact absurd rfl hne
  | cons name path ih =>
    obtain ⟨hname, hpath⟩ := List.forall_mem_cons.mp h
    cases path with
    | nil => exact (congrArg names (List.intercalate_singleton ..)).trans (names_of_not_mem hname)
    | cons next path =>
      rw [List.intercalate_cons_cons, List.append_assoc, List.singleton_append,
        names_append_slash, names_of_not_mem hname, ih (List.cons_ne_nil next path) hpath]
      rfl

/-! ## Steps along the names of a reference -/

namespace Location

/-- Each name leads down: none is empty, stays or goes up, and none holds a slash. -/
def Normal (l : Location) : Prop := ∀ n ∈ l, Tree.isDots n = false ∧ '/' ∉ n

theorem kept_normal : Kept Normal ('/' ∉ ·) where
  root := by simp [Normal]
  step := by
    intro dir name hdir hname
    cases hdots : Tree.isDots name with
    | true =>
      intro n hn
      refine hdir n ?_
      simp only [Tree.isDots, Bool.or_eq_true, decide_eq_true_eq] at hdots
      rcases hdots with (rfl | rfl) | rfl
      · exact hn
      · exact hn
      · exact List.dropLast_subset dir hn
    | false =>
      rw [Tree.step_of_not_isDots hdots]
      intro n hn
      rcases List.mem_append.mp hn with hn | hn
      · exact hdir n hn
      · exact List.mem_singleton.mp hn ▸ ⟨hdots, hname⟩

theorem step_up (dir : Location) (name : Text) : (dir ++ [name]).step "..".toList = dir := by
  show (dir ++ [name]).dropLast = dir
  exact List.dropLast_concat

theorem foldl_step_up (dir l : Location) :
    (l.map fun _ => "..".toList).foldl Location.step (dir ++ l) = dir := by
  induction l using List.reverseRecOn with
  | nil => simp
  | append_singleton l name ih =>
    rw [List.map_const', List.length_append, List.length_singleton, List.replicate_succ,
      List.foldl_cons, ← List.append_assoc, step_up, ← List.map_const']
    exact ih

theorem foldl_step_down (dir : Location) {l : Location} (hl : Normal l) :
    l.foldl Location.step dir = dir ++ l := by
  induction l generalizing dir with
  | nil => simp
  | cons name l ih =>
    obtain ⟨hname, hrest⟩ := List.forall_mem_cons.mp hl
    rw [List.foldl_cons, Tree.step_of_not_isDots hname.1, ih _ hrest, List.append_assoc]
    rfl

/-- The way from a base leads up to where the two part, and down from there. -/
theorem exists_relativeTo (base location : Location) : ∃ common up down : Location,
    base = common ++ up ∧ location = common ++ down ∧
      base.relativeTo location = up.map (fun _ => "..".toList) ++ down := by
  fun_induction relativeTo base location with
  | case1 base b location ih =>
    obtain ⟨common, up, down, hbase, hlocation, hway⟩ := ih
    exact ⟨b :: common, up, down, congrArg (b :: ·) hbase, congrArg (b :: ·) hlocation, hway⟩
  | case2 b base n location _ => exact ⟨[], b :: base, n :: location, rfl, rfl, rfl⟩
  | case3 base location _ => exact ⟨[], base, location, rfl, rfl, rfl⟩

/-- The way from a base leads to the location. -/
theorem foldl_step_relativeTo (base : Location) {location : Location} (hl : Normal location) :
    (base.relativeTo location).foldl Location.step base = location := by
  obtain ⟨common, up, down, rfl, rfl, hway⟩ := exists_relativeTo base location
  rw [hway, List.foldl_append, foldl_step_up]
  exact foldl_step_down common fun n hn => hl n (List.mem_append_right common hn)

theorem not_mem_of_mem_relativeTo {base location : Location} (hl : Normal location) {n : Text}
    (h : n ∈ base.relativeTo location) : '/' ∉ n := by
  rcases mem_relativeTo h with rfl | h
  · decide
  · exact (hl n h).2

end Location

/-- Names that are written as a path lead where they lead as names. -/
theorem foldl_step_names_showNames (dir : Location) {path : List Text}
    (h : ∀ n ∈ path, '/' ∉ n) :
    (names (showNames path)).foldl Location.step dir = path.foldl Location.step dir := by
  unfold showNames
  cases path with
  | nil => rfl
  | cons name path =>
    rw [if_neg (by simp), names_joinWith (List.cons_ne_nil name path) h]

namespace Tree

variable {tree : Tree}

/-! ## References from the real location of the base -/

theorem normal_realLocation (hwork : tree.workDir.Normal) (path : Text) :
    (tree.realLocation path).Normal := by
  have hlinks : tree.LinksHold ('/' ∉ ·) := fun _ _ _ _ => not_mem_of_mem_names
  exact Location.kept_normal.realLocation hlinks hwork fun _ => not_mem_of_mem_names

/-- A reference leads from the base to the place that it refers to. -/
theorem foldl_step_relativePath (hwork : tree.workDir.Normal) (base path : Text) :
    (names (tree.relativePath base path)).foldl Location.step (tree.realLocation base) =
      tree.realLocation path := by
  have hnormal := normal_realLocation hwork path
  rw [relativePath, foldl_step_names_showNames _ fun n hn =>
    Location.not_mem_of_mem_relativeTo hnormal hn]
  exact Location.foldl_step_relativeTo _ hnormal

theorem relativePath_eq_iff (hwork : tree.workDir.Normal) {base path other : Text} :
    tree.relativePath base path = tree.relativePath base other ↔
      tree.realLocation path = tree.realLocation other := by
  constructor
  · intro hsame
    rw [← foldl_step_relativePath hwork base path, hsame, foldl_step_relativePath hwork]
  · intro hsame
    rw [relativePath, hsame, relativePath]

/-! ## Ways without links -/

/-- The names of a path from the root on. -/
def way (tree : Tree) (path : Text) : List Text := tree.start path ++ names path

/-- Where a path leads by the meaning of its names alone. -/
def normalised (tree : Tree) (path : Text) : Location := (tree.way path).foldl Location.step []

/-- Names that meet no link, one after the other. -/
def MeetsNoLink (tree : Tree) : Location → List Text → Prop
  | _, [] => True
  | dir, name :: rest => tree.linkTarget? dir name = none ∧ tree.MeetsNoLink (dir.step name) rest

/-- No link stands on the way of the path. -/
def Unlinked (tree : Tree) (path : Text) : Prop := tree.MeetsNoLink [] (tree.way path)

theorem meetsNoLink_append {dir : Location} {path more : List Text} :
    tree.MeetsNoLink dir (path ++ more) ↔
      tree.MeetsNoLink dir path ∧ tree.MeetsNoLink (path.foldl Location.step dir) more := by
  induction path generalizing dir with
  | nil => simp [MeetsNoLink]
  | cons name path ih => simp [MeetsNoLink, ih, and_assoc]

theorem MeetsNoLink.realFollow {active : List Location}
    {resolve : Location → Location → List Text → Location × Bool} {dir : Location}
    {path : List Text} (h : tree.MeetsNoLink dir path) :
    tree.realFollow active resolve dir path = (path.foldl Location.step dir, true) := by
  induction path generalizing dir with
  | nil => rfl
  | cons name path ih =>
    rw [realFollow_plain h.1, ih h.2]
    rfl

theorem normal_start (hwork : tree.workDir.Normal) (path : Text) : (tree.start path).Normal := by
  unfold start
  split
  · exact Location.kept_normal.root
  · exact hwork

theorem normalised_eq (hwork : tree.workDir.Normal) (path : Text) :
    tree.normalised path = (names path).foldl Location.step (tree.start path) := by
  rw [normalised, way, List.foldl_append, Location.foldl_step_down [] (normal_start hwork path)]
  rfl

/-- Without links the real location is what the names mean. -/
theorem Unlinked.realLocation_eq {path : Text} (h : tree.Unlinked path)
    (hwork : tree.workDir.Normal) : tree.realLocation path = tree.normalised path := by
  obtain ⟨_, hnames⟩ := meetsNoLink_append.mp h
  rw [Location.foldl_step_down [] (normal_start hwork path), List.nil_append] at hnames
  rw [realLocation, realWalk, hnames.realFollow, normalised_eq hwork]

/-- Neither the location nor a place above it is a link. -/
def Clear (tree : Tree) (l : Location) : Prop :=
  ∀ dir name rest, l = dir ++ name :: rest → tree.linkTarget? dir name = none

theorem Clear.step {dir : Location} {name : Text} (h : tree.Clear dir)
    (hname : tree.linkTarget? dir name = none) : tree.Clear (dir.step name) := by
  unfold Location.step
  split
  · exact h
  · split
    · intro d n rest he
      obtain ⟨last, hlast⟩ := List.dropLast_prefix dir
      exact h d n (rest ++ last) (by rw [← hlast, he, List.append_assoc]; rfl)
    · intro d n rest he
      rcases List.eq_nil_or_concat rest with rfl | ⟨front, last, rfl⟩
      · obtain ⟨rfl, hn⟩ := List.append_inj' he rfl
        rw [← List.singleton_inj.mp hn]
        exact hname
      · rw [List.concat_eq_append, ← List.cons_append, ← List.append_assoc] at he
        exact h d n front (List.append_inj' he rfl).1

/-- All that a way without links comes to is clear of them, so also what it ends at. -/
theorem MeetsNoLink.clear {dir : Location} {path : List Text} (h : tree.MeetsNoLink dir path)
    (hdir : tree.Clear dir) : tree.Clear (path.foldl Location.step dir) := by
  induction path generalizing dir with
  | nil => exact hdir
  | cons name path ih => exact ih h.2 (hdir.step h.1)

theorem Clear.meetsNoLink {dir l : Location} (h : tree.Clear (dir ++ l)) (hl : l.Normal) :
    tree.MeetsNoLink dir l := by
  induction l generalizing dir with
  | nil => trivial
  | cons name l ih =>
    obtain ⟨hname, hrest⟩ := List.forall_mem_cons.mp hl
    refine ⟨h dir name l rfl, ?_⟩
    rw [step_of_not_isDots hname.1]
    exact ih (by rwa [List.append_assoc]) hrest

theorem meetsNoLink_of_isDots {dir : Location} {path : List Text}
    (h : ∀ n ∈ path, isDots n = true) : tree.MeetsNoLink dir path := by
  induction path generalizing dir with
  | nil => trivial
  | cons name path ih =>
    obtain ⟨hname, hrest⟩ := List.forall_mem_cons.mp h
    exact ⟨linkTarget?_of_isDots hname dir, ih hrest⟩

/-- Going up meets no link, and going down meets only places that are above the location. -/
theorem Clear.meetsNoLink_relativeTo {base location : Location} (h : tree.Clear location)
    (hl : location.Normal) : tree.MeetsNoLink base (base.relativeTo location) := by
  obtain ⟨common, up, down, rfl, rfl, hway⟩ := Location.exists_relativeTo base location
  rw [hway, meetsNoLink_append, Location.foldl_step_up]
  refine ⟨meetsNoLink_of_isDots fun n hn => ?_, ?_⟩
  · obtain ⟨_, _, rfl⟩ := List.mem_map.mp hn
    rfl
  · exact h.meetsNoLink fun n hn => hl n (List.mem_append_right common hn)

end Tree

/-! ## References behind the base as it was written -/

/-- A path as it is meant in a base directory: one from the root stands for itself, any other goes
on behind the base, with one slash more if there is none. -/
def joined (base path : Text) : Text :=
  if isAbsolute path then path
  else if base = [] ∨ base.getLast? = some '/' then base ++ path
  else base ++ '/' :: path

/-- Behind the names of the base, up to an empty one at their end, come those of the path. -/
theorem exists_names_joined {path : Text} (hpath : isAbsolute path = false) (base : Text) :
    ∃ front, names (joined base path) = front ++ names path ∧
      (names base = front ∨ names base = front ++ [[]]) := by
  unfold joined
  rw [if_neg (Bool.eq_false_iff.mp hpath)]
  split
  · rename_i hbase
    rcases hbase with rfl | hlast
    · exact ⟨[], rfl, .inr rfl⟩
    · obtain ⟨front, rfl⟩ := List.getLast?_eq_some_iff.mp hlast
      refine ⟨names front, ?_, .inr (names_append_slash front [])⟩
      rw [List.append_assoc, List.singleton_append, names_append_slash]
  · exact ⟨names base, names_append_slash base path, .inl rfl⟩

namespace Tree

variable {tree : Tree}

theorem start_joined {path : Text} (hpath : isAbsolute path = false) (base : Text) :
    tree.start (joined base path) = tree.start base := by
  have hjoined : isAbsolute (joined base path) = isAbsolute base := by
    unfold joined
    rw [if_neg (Bool.eq_false_iff.mp hpath)]
    cases base with
    | nil => exact hpath
    | cons c base =>
      split
      · rfl
      · rfl
  rw [start, start, hjoined]

theorem normalised_joined (hwork : tree.workDir.Normal) {path : Text}
    (hpath : isAbsolute path = false) (base : Text) :
    tree.normalised (joined base path) =
      (names path).foldl Location.step (tree.normalised base) := by
  obtain ⟨front, hnames, hbase⟩ := exists_names_joined hpath base
  rw [normalised_eq hwork, normalised_eq hwork, start_joined hpath, hnames, List.foldl_append]
  rcases hbase with hbase | hbase
  · rw [hbase]
  · rw [hbase, List.foldl_append]
    rfl

theorem Unlinked.joined {base path : Text} (hbase : tree.Unlinked base)
    (hpath : isAbsolute path = false)
    (hnames : tree.MeetsNoLink (tree.normalised base) (names path)) :
    tree.Unlinked (joined base path) := by
  obtain ⟨front, hjoined, hfront⟩ := exists_names_joined hpath base
  unfold Unlinked way at hbase ⊢
  rw [start_joined hpath, hjoined, ← List.append_assoc, meetsNoLink_append]
  rcases hfront with hfront | hfront
  · rw [normalised, way, hfront] at hnames
    exact ⟨hfront ▸ hbase, hnames⟩
  · rw [normalised, way, hfront, ← List.append_assoc, List.foldl_append] at hnames
    rw [hfront, ← List.append_assoc] at hbase
    exact ⟨(meetsNoLink_append.mp hbase).1, hnames⟩

/-- A reference starts with a name, so it is never taken from the root. -/
theorem isAbsolute_relativePath (hwork : tree.workDir.Normal) (base path : Text) :
    isAbsolute (tree.relativePath base path) = false := by
  have hnormal := normal_realLocation hwork path
  unfold relativePath showNames
  cases hway : (tree.realLocation base).relativeTo (tree.realLocation path) with
  | nil => rfl
  | cons name rest =>
    rw [if_neg (by simp)]
    have hmem : ∀ n ∈ name :: rest, '/' ∉ n := fun n hn =>
      Location.not_mem_of_mem_relativeTo hnormal (hway ▸ hn)
    have hname : name ≠ [] := by
      rcases Location.mem_relativeTo (hway ▸ List.mem_cons_self) with rfl | hname
      · decide
      · rintro rfl
        exact absurd (hnormal [] hname).1 (by decide)
    by_contra habsolute
    obtain ⟨s, hs⟩ : ∃ s, Text.joinWith ['/'] (name :: rest) = '/' :: s :=
      List.head?_eq_some_iff.mp (of_decide_eq_true (eq_true_of_ne_false habsolute))
    have hnames := names_joinWith (List.cons_ne_nil name rest) hmem
    rw [hs] at hnames
    exact hname (List.cons.inj hnames).1.symm

/-- A reference behind the base leads to the real location of its path, and meets no link. -/
theorem Unlinked.relativePath {base path : Text} (hbase : tree.Unlinked base)
    (hpath : tree.Unlinked path) (hwork : tree.workDir.Normal) :
    tree.normalised (File.joined base (tree.relativePath base path)) = tree.realLocation path ∧
      tree.Unlinked (File.joined base (tree.relativePath base path)) := by
  have hrelative := isAbsolute_relativePath hwork base path
  have hnormal := normal_realLocation hwork path
  refine ⟨?_, hbase.joined hrelative ?_⟩
  · rw [normalised_joined hwork hrelative, ← hbase.realLocation_eq hwork]
    exact foldl_step_relativePath hwork base path
  · have hclear : tree.Clear (tree.realLocation path) := by
      rw [hpath.realLocation_eq hwork]
      exact MeetsNoLink.clear hpath fun dir name rest he => by simp at he
    have hway : tree.MeetsNoLink (tree.realLocation base) _ :=
      hclear.meetsNoLink_relativeTo hnormal
    rw [← hbase.realLocation_eq hwork, Tree.relativePath, showNames]
    split
    · exact ⟨linkTarget?_of_isDots rfl _, trivial⟩
    · rename_i hne
      rwa [names_joinWith (fun he => hne (by rw [he]; rfl)) fun n hn =>
        Location.not_mem_of_mem_relativeTo hnormal hn]

/-- **References identify files.** Where no link stands on the way, the real location of a path is
what its names mean, and the reference that is written for it, put behind the base and resolved,
gives that location back. Two paths have one reference exactly if their real locations are the
same, in whatever way they are written. -/
theorem references_identify_files (tree : Tree) (hwork : tree.workDir.Normal) (base : Text) :
    (∀ path, tree.Unlinked base → tree.Unlinked path →
      tree.realLocation path = tree.normalised path ∧
      tree.normalised (joined base (tree.relativePath base path)) = tree.realLocation path ∧
      tree.realLocation (joined base (tree.relativePath base path)) = tree.realLocation path) ∧
    (∀ path other, tree.relativePath base path = tree.relativePath base other ↔
      tree.realLocation path = tree.realLocation other) := by
  refine ⟨fun path hbase hpath => ?_, fun path other => relativePath_eq_iff hwork⟩
  obtain ⟨hnormalised, hunlinked⟩ := hbase.relativePath hpath hwork
  exact ⟨hpath.realLocation_eq hwork, hnormalised,
    (hunlinked.realLocation_eq hwork).trans hnormalised⟩

instance decidableMeetsNoLink (tree : Tree) :
    (dir : Location) → (path : List Text) → Decidable (tree.MeetsNoLink dir path)
  | _, [] => .isTrue trivial
  | dir, name :: rest =>
    have := decidableMeetsNoLink tree (dir.step name) rest
    inferInstanceAs (Decidable
      (tree.linkTarget? dir name = none ∧ tree.MeetsNoLink (dir.step name) rest))

instance (tree : Tree) (path : Text) : Decidable (tree.Unlinked path) :=
  inferInstanceAs (Decidable (tree.MeetsNoLink [] (tree.way path)))

/-- Two spellings of one file, one of them from above the root, and a base with slashes to spare.
A link to the base stands beside them. -/
theorem references_identify_files_spelled :
    let tree : Tree :=
      { nodes := [(["old".toList], .link "srv/app".toList), (["srv".toList], .directory)]
        workDir := [] }
    let base := "srv/../srv//app/".toList
    let path := "/srv/lib/./x.php".toList
    let other := "../srv/old/../lib//x.php/".toList
    tree.workDir.Normal ∧ tree.Unlinked base ∧ tree.Unlinked path ∧ tree.Unlinked other ∧
      tree.relativePath base path = "../lib/x.php".toList ∧
      tree.realLocation "srv/../srv//app/../lib/x.php".toList = tree.realLocation path ∧
      tree.relativePath base path = tree.relativePath base other := by
  intro tree base path other
  have hwork : tree.workDir.Normal := by simp [tree, Location.Normal]
  have hbase : tree.Unlinked base := by decide +kernel
  have hpath : tree.Unlinked path := by decide +kernel
  have hother : tree.Unlinked other := by decide +kernel
  have hreference : tree.relativePath base path = "../lib/x.php".toList := by decide +kernel
  obtain ⟨hresolve, hsame⟩ := references_identify_files tree hwork base
  refine ⟨hwork, hbase, hpath, hother, hreference, ?_, ?_⟩
  · have hjoined := (hresolve path hbase hpath).2.2
    rw [hreference] at hjoined
    exact hjoined
  · rw [hsame, (hresolve path hbase hpath).1, (hresolve other hbase hother).1]
    decide +kernel

end Tree

end MessageHarvest.File
