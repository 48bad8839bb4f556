import MessageHarvest.Discovery
import MessageHarvest.Proofs.DistinctLists
import MessageHarvest.Proofs.PathResolution

/-! # The search for files

The search goes down through directories and links, and shares one list of
visited directories between all of them. It comes to an end because each level
opens a directory whose entries have not been seen (`unseen`), so the bound on
its depth is never met. It finds every file that a path can be walked to: once
the search is over, each visited directory has been opened under some path,
and all that it holds has been dealt with (`Done`). A file that can be walked
to on another way stands in a directory that was visited, and is found there
under its own name. -/
namespace MessageHarvest.Discovery

open File (entryPath parentPath baseName)

variable {tree : File.Tree} {excluded inputs : List Text}

/-! ## What can be walked to -/

/-- The path leads to a directory, and the name of that is not excluded. -/
def Opens (tree : File.Tree) (excluded : List Text) (path : Text) : Prop :=
  tree.isDirectory path = true ∧ directoryName path ∉ excluded

/-- The path is one of the given ones, or goes on from a directory that can be walked to by the name
of an entry. The real locations of the directories above it are listed, the nearest first. -/
inductive Reached (tree : File.Tree) (excluded inputs : List Text) :
    List File.Location → Text → Prop
  | input {path : Text} (hinput : path ∈ inputs) : Reached tree excluded inputs [] path
  | entry {above : List File.Location} {dir name : Text} (hdir : Reached tree excluded inputs above dir)
      (hopen : Opens tree excluded dir) (hname : name ∈ tree.list dir) :
      Reached tree excluded inputs (tree.realLocation dir :: above) (entryPath dir name)

/-- On a way that passes no directory twice, a name leads where it leads on any other way to its
directory. -/
def NamesAgree (tree : File.Tree) (excluded inputs : List Text) : Prop :=
  ∀ above dir above' dir' name t, Reached tree excluded inputs above dir →
    Opens tree excluded dir → (tree.realLocation dir :: above).Nodup →
    Reached tree excluded inputs above' dir' → Opens tree excluded dir' →
    tree.realLocation dir' = tree.realLocation dir → name ∈ tree.list dir →
    tree.target false (entryPath dir' name) = .ok t → tree.target false (entryPath dir name) = .ok t

/-- Names are not empty and hold no slash. -/
def NamesProper (tree : File.Tree) : Prop :=
  ∀ entry ∈ tree.nodes, ∀ name ∈ entry.1, name ≠ [] ∧ '/' ∉ name

theorem namesProper_of_all (h : tree.nodes.all (fun entry => entry.1.all fun name =>
    decide (name ≠ [] ∧ '/' ∉ name)) = true) : NamesProper tree := by
  intro entry hentry name hname
  exact of_decide_eq_true (List.all_eq_true.mp (List.all_eq_true.mp h entry hentry) name hname)

theorem mem_children {path child : Text} :
    child ∈ children tree path ↔ ∃ name ∈ tree.list path, entryPath path name = child := by
  simp [children, Text.mem_sortedSet, entryPath]

theorem list_of_target {path : Text} {l : File.Location}
    (h : tree.target false path = .ok (.directory l)) :
    tree.list path = if tree.locked.contains l then [] else tree.childNames l := by
  rw [File.Tree.list, h]

theorem list_of_not_isDirectory {path : Text} (h : tree.isDirectory path = false) :
    tree.list path = [] := by
  unfold File.Tree.isDirectory at h
  unfold File.Tree.list
  split at h
  · cases h
  · rfl

theorem mem_list_iff {path name : Text} {l : File.Location}
    (h : tree.target false path = .ok (.directory l)) :
    name ∈ tree.list path ↔ l ∉ tree.locked ∧ name ∈ tree.childNames l := by
  rw [list_of_target h]
  by_cases hlocked : l ∈ tree.locked
  · simp [hlocked]
  · simp [hlocked]

theorem isFile_iff {path : Text} :
    tree.isFile path = true ↔ ∃ l content, tree.target false path = .ok (.file l content) := by
  unfold File.Tree.isFile
  split
  · rename_i l content h
    simp [h]
  · rename_i hother
    refine ⟨fun h => absurd h Bool.false_ne_true, ?_⟩
    rintro ⟨l, content, h⟩
    exact absurd h (hother l content)

theorem not_isDirectory_of_isFile {path : Text} (h : tree.isFile path = true) :
    tree.isDirectory path = false := by
  obtain ⟨l, content, htarget⟩ := isFile_iff.mp h
  simp [File.Tree.isDirectory, htarget]

/-! ## One path -/

@[simp]
theorem files_enter (s : Search) (path : Text) : (s.enter tree path).files = s.files := by
  unfold Search.enter
  split <;> rfl

@[simp]
theorem visited_enter (s : Search) (path : Text) :
    (s.enter tree path).visited = tree.realLocation path :: s.visited := by
  unfold Search.enter
  split <;> rfl

theorem subset_visited_enter (s : Search) (path : Text) :
    tree.realLocation path :: s.visited ⊆ (s.enter tree path).visited := by
  rw [visited_enter]
  exact List.Subset.refl _

/-- What is no new directory is settled at once, at any depth. -/
theorem visit_settled {s : Search} {path : Text}
    (h : Opens tree excluded path → tree.realLocation path ∈ s.visited) (depth : Nat) :
    visit tree excluded depth s path = visit tree excluded 0 s path := by
  rw [visit.eq_def, visit.eq_def tree excluded 0]
  by_cases hdir : tree.isDirectory path = true
  · by_cases hname : directoryName path ∈ excluded
    · simp [hdir, hname]
    · simp [hdir, hname, h ⟨hdir, hname⟩]
  · simp [hdir]

/-- A new directory is opened. -/
theorem visit_new {s : Search} {path : Text} (hopen : Opens tree excluded path)
    (hnew : tree.realLocation path ∉ s.visited) (depth : Nat) :
    visit tree excluded (depth + 1) s path =
      (children tree path).foldl (visit tree excluded depth) (s.enter tree path) := by
  rw [visit.eq_def]
  simp [hopen.1, hopen.2, hnew]

theorem visited_visit_zero (s : Search) (path : Text) :
    (visit tree excluded 0 s path).visited = s.visited := by
  rw [visit.eq_def]
  by_cases hdir : tree.isDirectory path = true
  · by_cases hname : directoryName path ∈ excluded
    · simp [hdir, hname, Search.report]
    · by_cases hseen : tree.realLocation path ∈ s.visited
      · simp [hdir, hname, hseen, Search.report]
      · simp [hdir, hname, hseen]
  · by_cases hfile : tree.isFile path = true
    · simp [hdir, hfile]
    · by_cases hmark : path = inputMark
      · subst hmark
        simp [hdir, hfile]
      · simp [hdir, hfile, hmark, Search.report]

theorem files_visit_zero (s : Search) (path : Text) :
    (visit tree excluded 0 s path).files =
      s.files ++ if tree.isFile path then [path] else [] := by
  rw [visit.eq_def]
  by_cases hfile : tree.isFile path = true
  · simp [hfile, not_isDirectory_of_isFile hfile]
  · by_cases hdir : tree.isDirectory path = true
    · by_cases hname : directoryName path ∈ excluded
      · simp [hdir, hname, hfile, Search.report]
      · by_cases hseen : tree.realLocation path ∈ s.visited
        · simp [hdir, hname, hfile, hseen, Search.report]
        · simp [hdir, hname, hfile, hseen]
    · by_cases hmark : path = inputMark
      · subst hmark
        simp [hdir, hfile]
      · simp [hdir, hfile, hmark, Search.report]

/-- A search only gains files and directories. -/
structure Grows (s s' : Search) : Prop where
  visited : s.visited ⊆ s'.visited
  files : s.files ⊆ s'.files

theorem Grows.refl (s : Search) : Grows s s := ⟨List.Subset.refl _, List.Subset.refl _⟩

theorem Grows.trans {s s' s'' : Search} (h : Grows s s') (h' : Grows s' s'') : Grows s s'' :=
  ⟨List.Subset.trans h.visited h'.visited, List.Subset.trans h.files h'.files⟩

theorem Grows.foldl {f : Search → Text → Search} (h : ∀ s path, Grows s (f s path))
    (paths : List Text) (s : Search) : Grows s (paths.foldl f s) := by
  induction paths generalizing s with
  | nil => exact Grows.refl s
  | cons path paths ih => exact (h s path).trans (ih (f s path))

theorem visit_zero_grows (s : Search) (path : Text) : Grows s (visit tree excluded 0 s path) := by
  refine ⟨?_, ?_⟩
  · rw [visited_visit_zero]
    exact List.Subset.refl _
  · rw [files_visit_zero]
    exact List.subset_append_left _ _

theorem visit_grows (depth : Nat) (s : Search) (path : Text) :
    Grows s (visit tree excluded depth s path) := by
  induction depth generalizing s path with
  | zero => exact visit_zero_grows s path
  | succ depth ih =>
    by_cases hnew : Opens tree excluded path ∧ tree.realLocation path ∉ s.visited
    · rw [visit_new hnew.1 hnew.2]
      have hopened : Grows s (s.enter tree path) := by
        refine ⟨?_, ?_⟩
        · rw [visited_enter]
          exact List.subset_cons_self _ _
        · rw [files_enter]
          exact List.Subset.refl _
      exact hopened.trans (Grows.foldl ih _ _)
    · rw [visit_settled fun hopen => not_not.mp fun hseen => hnew ⟨hopen, hseen⟩]
      exact visit_zero_grows s path

/-! ## The end of the search -/

/-- The number of entries in directories that have not been visited. -/
def unseen (tree : File.Tree) (visited : List File.Location) : Nat :=
  tree.nodes.countP fun entry => !visited.contains entry.1.dropLast

theorem unseen_le_of_subset {visited visited' : List File.Location} (h : visited ⊆ visited') :
    unseen tree visited' ≤ unseen tree visited := by
  refine List.countP_mono_left fun entry _ hnew => ?_
  simp only [Bool.not_eq_true', List.contains_eq_mem, decide_eq_false_iff_not] at hnew ⊢
  exact fun hseen => hnew (h hseen)

/-- In a new directory with an entry, that entry has not been seen. -/
theorem unseen_cons_lt {visited : List File.Location} {l : File.Location} (hl : l ∉ visited)
    {name : Text} (hname : name ∈ tree.childNames l) :
    unseen tree (l :: visited) < unseen tree visited := by
  obtain ⟨entry, hentry, hhere⟩ := List.mem_filterMap.mp hname
  have hparent : entry.1.dropLast = l := by
    by_contra hne
    simp [hne] at hhere
  obtain ⟨before, after, hnodes⟩ := List.append_of_mem hentry
  have hle : ∀ part : List (File.Location × File.Node),
      part.countP (fun e => !(l :: visited).contains e.1.dropLast) ≤
        part.countP (fun e => !visited.contains e.1.dropLast) := by
    intro part
    refine List.countP_mono_left fun e _ hnew => ?_
    rw [List.contains_cons, Bool.not_or, Bool.and_eq_true] at hnew
    exact hnew.2
  have hcounted : (!visited.contains entry.1.dropLast) = true := by
    simp [hparent, hl]
  have hseen : ¬ (!(l :: visited).contains entry.1.dropLast) = true := by
    simp [hparent]
  have hbefore := hle before
  have hafter := hle after
  simp only [unseen, hnodes, List.countP_append, List.countP_cons, if_pos hcounted, if_neg hseen]
  omega

theorem unseen_le_length (visited : List File.Location) :
    unseen tree visited ≤ tree.nodes.length := List.countP_le_length

/-- Below a new directory the depth still exceeds what is unseen. A directory without entries has
nothing below it. -/
theorem unseen_below {depth : Nat} {s s' : Search} {path child : Text}
    (hdepth : unseen tree s.visited < depth + 1) (hopen : Opens tree excluded path)
    (hnew : tree.realLocation path ∉ s.visited)
    (hgrown : tree.realLocation path :: s.visited ⊆ s'.visited)
    (hchild : child ∈ children tree path) : unseen tree s'.visited < depth := by
  obtain ⟨l, htarget⟩ := File.Tree.isDirectory_iff.mp hopen.1
  obtain ⟨name, hname, _⟩ := mem_children.mp hchild
  have hhere : name ∈ tree.childNames l := ((mem_list_iff htarget).mp hname).2
  have hreal : tree.realLocation path = l := File.Tree.realLocation_of_target htarget
  have hless : unseen tree (tree.realLocation path :: s.visited) < unseen tree s.visited :=
    unseen_cons_lt hnew (hreal ▸ hhere)
  have hle : unseen tree s'.visited ≤ unseen tree (tree.realLocation path :: s.visited) :=
    unseen_le_of_subset hgrown
  omega

theorem foldl_congr_of_grows {f g : Search → Text → Search} {visited : List File.Location}
    (hgrows : ∀ s path, Grows s (f s path)) {paths : List Text}
    (h : ∀ s, ∀ path ∈ paths, visited ⊆ s.visited → f s path = g s path) {s : Search}
    (hs : visited ⊆ s.visited) : paths.foldl f s = paths.foldl g s := by
  induction paths generalizing s with
  | nil => rfl
  | cons path paths ih =>
    rw [List.foldl_cons, List.foldl_cons, ← h s path List.mem_cons_self hs]
    exact ih (fun s other hother => h s other (List.mem_cons_of_mem _ hother))
      (List.Subset.trans hs (hgrows s path).visited)

/-- A depth that exceeds what is unseen does not cut the search off. -/
theorem visit_eq_of_unseen_lt {depth depth' : Nat} {s : Search} {path : Text}
    (h : unseen tree s.visited < depth) (h' : unseen tree s.visited < depth') :
    visit tree excluded depth s path = visit tree excluded depth' s path := by
  induction depth generalizing depth' s path with
  | zero => omega
  | succ depth ih =>
    obtain ⟨depth', rfl⟩ : ∃ k, depth' = k + 1 := ⟨depth' - 1, by omega⟩
    by_cases hnew : Opens tree excluded path ∧ tree.realLocation path ∉ s.visited
    · rw [visit_new hnew.1 hnew.2, visit_new hnew.1 hnew.2]
      refine foldl_congr_of_grows (visit_grows depth) (fun s' child hchild hgrown => ?_)
        (subset_visited_enter s path)
      exact ih (unseen_below h hnew.1 hnew.2 hgrown hchild)
        (unseen_below h' hnew.1 hnew.2 hgrown hchild)
    · have hseen : Opens tree excluded path → tree.realLocation path ∈ s.visited :=
        fun hopen => not_not.mp fun hseen => hnew ⟨hopen, hseen⟩
      rw [visit_settled hseen (depth + 1), visit_settled hseen (depth' + 1)]

/-- The search through all the paths, to a depth. -/
def search (tree : File.Tree) (excluded inputs : List Text) (depth : Nat) : Search :=
  (Text.sortedSet inputs).foldl (visit tree excluded depth) Search.empty

theorem search_eq_of_length_lt {depth : Nat} (h : tree.nodes.length < depth) :
    search tree excluded inputs (tree.nodes.length + 1) = search tree excluded inputs depth := by
  refine foldl_congr_of_grows (visit_grows _) (fun s path _ _ => ?_) (List.nil_subset _)
  have hle : unseen tree s.visited ≤ tree.nodes.length := unseen_le_length s.visited
  exact visit_eq_of_unseen_lt (by omega) (by omega)

/-! ## What a finished search has dealt with -/

/-- What the path names has been found, if it is a file, or visited, if it is a directory. -/
structure Handled (tree : File.Tree) (excluded : List Text) (s : Search) (path : Text) : Prop where
  directory : Opens tree excluded path → tree.realLocation path ∈ s.visited
  file : tree.isFile path = true → path ∈ s.files

theorem Handled.mono {s s' : Search} {path : Text} (h : Handled tree excluded s path)
    (hgrows : Grows s s') : Handled tree excluded s' path :=
  ⟨fun hopen => hgrows.visited (h.directory hopen), fun hfile => hgrows.files (h.file hfile)⟩

/-- The directory was opened on a way that passes no directory twice, and all that it holds there
has been dealt with. -/
def Expanded (tree : File.Tree) (excluded inputs : List Text) (s : Search)
    (l : File.Location) : Prop :=
  ∃ above dir, Reached tree excluded inputs above dir ∧ Opens tree excluded dir ∧
    tree.realLocation dir = l ∧ (l :: above).Nodup ∧
    ∀ child ∈ children tree dir, Handled tree excluded s child

theorem Expanded.mono {s s' : Search} {l : File.Location} (h : Expanded tree excluded inputs s l)
    (hgrows : Grows s s') : Expanded tree excluded inputs s' l := by
  obtain ⟨above, dir, hreached, hopen, hreal, hnodup, hchildren⟩ := h
  exact ⟨above, dir, hreached, hopen, hreal, hnodup,
    fun child hchild => (hchildren child hchild).mono hgrows⟩

/-- The search has gone through these paths and all that is new below them. -/
structure Done (tree : File.Tree) (excluded inputs : List Text) (s s' : Search)
    (paths : List Text) : Prop where
  grows : Grows s s'
  handled : ∀ path ∈ paths, Handled tree excluded s' path
  expanded : ∀ l ∈ s'.visited, l ∈ s.visited ∨ Expanded tree excluded inputs s' l
  reached : ∀ file ∈ s'.files, file ∈ s.files ∨
    tree.isFile file = true ∧ ∃ above, Reached tree excluded inputs above file

theorem Done.nil (s : Search) : Done tree excluded inputs s s [] where
  grows := Grows.refl s
  handled := fun _ hpath => absurd hpath List.not_mem_nil
  expanded := fun _ hl => .inl hl
  reached := fun _ hfile => .inl hfile

theorem Done.cons {s s' s'' : Search} {path : Text} {paths : List Text}
    (h : Done tree excluded inputs s s' [path]) (h' : Done tree excluded inputs s' s'' paths) :
    Done tree excluded inputs s s'' (path :: paths) where
  grows := h.grows.trans h'.grows
  handled := by
    intro other hother
    rcases List.mem_cons.mp hother with rfl | hother
    · exact (h.handled other List.mem_cons_self).mono h'.grows
    · exact h'.handled other hother
  expanded := by
    intro l hl
    rcases h'.expanded l hl with hl | hl
    · exact (h.expanded l hl).imp_right fun hexpanded => hexpanded.mono h'.grows
    · exact .inr hl
  reached := by
    intro file hfile
    rcases h'.reached file hfile with hfile | hfile
    · exact h.reached file hfile
    · exact .inr hfile

theorem Done.foldl {f : Search → Text → Search} {visited : List File.Location} {paths : List Text}
    (hstep : ∀ s, ∀ path ∈ paths, visited ⊆ s.visited →
      Done tree excluded inputs s (f s path) [path]) {s : Search} (hs : visited ⊆ s.visited) :
    Done tree excluded inputs s (paths.foldl f s) paths := by
  induction paths generalizing s with
  | nil => exact Done.nil s
  | cons path paths ih =>
    have hfirst := hstep s path List.mem_cons_self hs
    have hrest := ih (fun s other hother => hstep s other (List.mem_cons_of_mem _ hother))
      (List.Subset.trans hs hfirst.grows.visited)
    exact hfirst.cons hrest

theorem settled_done {s : Search} {path : Text} {above : List File.Location}
    (hreached : Reached tree excluded inputs above path)
    (hseen : Opens tree excluded path → tree.realLocation path ∈ s.visited) :
    Done tree excluded inputs s (visit tree excluded 0 s path) [path] where
  grows := visit_zero_grows s path
  handled := by
    intro other hother
    obtain rfl := List.mem_singleton.mp hother
    refine ⟨?_, fun hfile => ?_⟩
    · rw [visited_visit_zero]
      exact hseen
    · simp [files_visit_zero, hfile]
  expanded := by
    intro l hl
    rw [visited_visit_zero] at hl
    exact .inl hl
  reached := by
    intro file hfile
    rw [files_visit_zero, List.mem_append] at hfile
    refine hfile.imp_right fun hfile => ?_
    by_cases hpath : tree.isFile path = true
    · rw [if_pos hpath, List.mem_singleton] at hfile
      exact hfile ▸ ⟨hpath, above, hreached⟩
    · rw [if_neg hpath] at hfile
      exact absurd hfile List.not_mem_nil

/-- Induction on the depth: the directories above are among the visited ones, so a new directory is
none of them. -/
theorem visit_done {depth : Nat} {s : Search} {path : Text} {above : List File.Location}
    (hreached : Reached tree excluded inputs above path) (hnodup : above.Nodup)
    (habove : above ⊆ s.visited) (hdepth : unseen tree s.visited < depth) :
    Done tree excluded inputs s (visit tree excluded depth s path) [path] := by
  induction depth generalizing s path above with
  | zero => omega
  | succ depth ih =>
    by_cases hnew : Opens tree excluded path ∧ tree.realLocation path ∉ s.visited
    · obtain ⟨hopen, hnew⟩ := hnew
      have hbelow : (tree.realLocation path :: above).Nodup :=
        List.nodup_cons.mpr ⟨fun hmem => hnew (habove hmem), hnodup⟩
      rw [visit_new hopen hnew]
      have hchild : ∀ s', ∀ child ∈ children tree path,
          tree.realLocation path :: s.visited ⊆ s'.visited →
            Done tree excluded inputs s' (visit tree excluded depth s' child) [child] := by
        intro s' child hchild hgrown
        obtain ⟨name, hname, rfl⟩ := mem_children.mp hchild
        exact ih (.entry hreached hopen hname) hbelow
          (List.Subset.trans (List.cons_subset_cons _ habove) hgrown)
          (unseen_below hdepth hopen hnew hgrown hchild)
      have hchildren := Done.foldl hchild (subset_visited_enter s path)
      have hvisited := List.Subset.trans (subset_visited_enter s path) hchildren.grows.visited
      have hfiles : (s.enter tree path).files = s.files := files_enter s path
      refine ⟨⟨fun l hl => hvisited (List.mem_cons_of_mem _ hl), hfiles ▸ hchildren.grows.files⟩,
        ?_, ?_, hfiles ▸ hchildren.reached⟩
      · intro other hother
        obtain rfl := List.mem_singleton.mp hother
        refine ⟨fun _ => hvisited List.mem_cons_self, fun hfile => ?_⟩
        exact absurd hopen.1 (Bool.eq_false_iff.mp (not_isDirectory_of_isFile hfile))
      · intro l hl
        rcases hchildren.expanded l hl with hl | hl
        · rw [visited_enter] at hl
          rcases List.mem_cons.mp hl with rfl | hl
          · exact .inr ⟨above, path, hreached, hopen, rfl, hbelow, hchildren.handled⟩
          · exact .inl hl
        · exact .inr hl
    · have hseen : Opens tree excluded path → tree.realLocation path ∈ s.visited :=
        fun hopen => not_not.mp fun hseen => hnew ⟨hopen, hseen⟩
      rw [visit_settled hseen]
      exact settled_done hreached hseen

theorem search_done {depth : Nat} (h : tree.nodes.length < depth) :
    Done tree excluded inputs Search.empty (search tree excluded inputs depth)
      (Text.sortedSet inputs) := by
  refine Done.foldl (fun s path hpath _ => ?_) (List.nil_subset _)
  have hle : unseen tree s.visited ≤ tree.nodes.length := unseen_le_length s.visited
  exact visit_done (.input (Text.mem_sortedSet.mp hpath)) List.nodup_nil (List.nil_subset _) (by omega)

/-! ## Every file is found -/

theorem mem_of_mem_childNames {l : File.Location} {name : Text} (h : name ∈ tree.childNames l) :
    ∃ entry ∈ tree.nodes, name ∈ entry.1 := by
  obtain ⟨entry, hentry, hhere⟩ := List.mem_filterMap.mp h
  refine ⟨entry, hentry, ?_⟩
  split at hhere
  · exact List.mem_of_getLast? hhere
  · exact absurd hhere (by simp)

theorem NamesProper.of_mem_list (h : NamesProper tree) {path name : Text}
    (hname : name ∈ tree.list path) : name ≠ [] ∧ '/' ∉ name := by
  cases hdir : tree.isDirectory path with
  | true =>
    obtain ⟨l, hl⟩ := File.Tree.isDirectory_iff.mp hdir
    obtain ⟨entry, hentry, hmem⟩ := mem_of_mem_childNames ((mem_list_iff hl).mp hname).2
    exact h entry hentry name hmem
  | false =>
    rw [list_of_not_isDirectory hdir] at hname
    exact absurd hname List.not_mem_nil

theorem directoryName_entryPath {name : Text} (h : name ≠ [] ∧ '/' ∉ name) (path : Text) :
    directoryName (entryPath path name) = name := by
  rw [directoryName, File.stripSlashes_entryPath h.1 h.2, File.baseName_entryPath h.2]
  simp [h.1]

/-- Two paths to one directory list the same names, and lead back to it. -/
theorem Opens.same_directory {dir dir' : Text} (h : Opens tree excluded dir)
    (h' : Opens tree excluded dir') (hreal : tree.realLocation dir' = tree.realLocation dir) :
    tree.list dir' = tree.list dir ∧
      tree.realLocation (entryPath dir' []) = tree.realLocation (entryPath dir []) := by
  obtain ⟨l, hl⟩ := File.Tree.isDirectory_iff.mp h.1
  obtain ⟨l', hl'⟩ := File.Tree.isDirectory_iff.mp h'.1
  rw [File.Tree.realLocation_of_target hl, File.Tree.realLocation_of_target hl'] at hreal
  have hsame : l' = l := hreal
  subst hsame
  rw [list_of_target hl, list_of_target hl', File.Tree.realLocation_parent hl,
    File.Tree.realLocation_parent hl']
  exact ⟨rfl, rfl⟩

/-- Induction on the way to a path. Its directory was visited under another path, from where the
same name leads to the same place. -/
theorem Done.of_reached (hproper : NamesProper tree) (hagree : NamesAgree tree excluded inputs)
    {s : Search} {paths : List Text} (hinputs : ∀ path ∈ inputs, path ∈ paths)
    (hdone : Done tree excluded inputs Search.empty s paths) {above : List File.Location}
    {path : Text} (hreached : Reached tree excluded inputs above path) :
    (Opens tree excluded path → tree.realLocation path ∈ s.visited) ∧
    (tree.isFile path = true → ∃ found ∈ s.files, baseName found = baseName path ∧
      tree.realLocation (parentPath found) = tree.realLocation (parentPath path)) := by
  induction hreached with
  | input hinput =>
    have hhandled := hdone.handled _ (hinputs _ hinput)
    exact ⟨hhandled.directory, fun hfile => ⟨_, hhandled.file hfile, rfl, rfl⟩⟩
  | @entry above dir name hdir hopen hname ih =>
    obtain ⟨above', dir', hdir', hopen', hreal, hnodup, hchildren⟩ :=
      (hdone.expanded _ (ih.1 hopen)).resolve_left List.not_mem_nil
    obtain ⟨hlist, hparent⟩ := hopen.same_directory hopen' hreal
    have hok : name ≠ [] ∧ '/' ∉ name := hproper.of_mem_list hname
    have hname' : name ∈ tree.list dir' := hlist ▸ hname
    have hhandled := hchildren _ (mem_children.mpr ⟨name, hname', rfl⟩)
    have hsame : ∀ {t}, tree.target false (entryPath dir name) = .ok t →
        tree.target false (entryPath dir' name) = .ok t :=
      hagree above' dir' above dir name _ hdir' hopen' (hreal ▸ hnodup) hdir hopen hreal.symm hname'
    refine ⟨fun hopens => ?_, fun hfile => ?_⟩
    · obtain ⟨l, hl⟩ := File.Tree.isDirectory_iff.mp hopens.1
      have hopens' : Opens tree excluded (entryPath dir' name) := by
        refine ⟨File.Tree.isDirectory_iff.mpr ⟨l, hsame hl⟩, ?_⟩
        rw [directoryName_entryPath hok, ← directoryName_entryPath hok dir]
        exact hopens.2
      rw [File.Tree.realLocation_of_target hl, ← File.Tree.realLocation_of_target (hsame hl)]
      exact hhandled.directory hopens'
    · obtain ⟨l, content, hl⟩ := isFile_iff.mp hfile
      refine ⟨entryPath dir' name, hhandled.file (isFile_iff.mpr ⟨l, content, hsame hl⟩), ?_, ?_⟩
      · rw [File.baseName_entryPath hok.2, File.baseName_entryPath hok.2]
      · rw [File.parentPath_entryPath hok.2, File.parentPath_entryPath hok.2]
        exact hparent

theorem findFiles_eq (tree : File.Tree) (excluded inputs : List Text) :
    findFiles tree excluded inputs =
      ((search tree excluded inputs (tree.nodes.length + 1)).files.eraseDups,
        (search tree excluded inputs (tree.nodes.length + 1)).notices) := rfl

/-- The search comes to an end by itself: no greater depth finds or reports more. It lists no path
twice, and only files that can be walked to. Every file that can be walked to is listed, under
its own name in the same directory. -/
theorem findFiles_reached (tree : File.Tree) (excluded inputs : List Text)
    (hproper : NamesProper tree) (hagree : NamesAgree tree excluded inputs) :
    (∀ depth, tree.nodes.length < depth → findFiles tree excluded inputs =
      ((search tree excluded inputs depth).files.eraseDups,
        (search tree excluded inputs depth).notices)) ∧
    (findFiles tree excluded inputs).1.Nodup ∧
    (∀ file ∈ (findFiles tree excluded inputs).1, tree.isFile file = true ∧
      ∃ above, Reached tree excluded inputs above file) ∧
    (∀ above file, Reached tree excluded inputs above file → tree.isFile file = true →
      ∃ found ∈ (findFiles tree excluded inputs).1, baseName found = baseName file ∧
        tree.realLocation (parentPath found) = tree.realLocation (parentPath file)) := by
  have hdone : Done tree excluded inputs Search.empty _ _ :=
    search_done (Nat.lt_succ_self tree.nodes.length)
  refine ⟨fun depth hdepth => ?_, ?_, fun file hfile => ?_, fun above file hreached hfile => ?_⟩
  · rw [findFiles_eq, search_eq_of_length_lt hdepth]
  · exact nodup_eraseDups _
  · rw [findFiles_eq, List.mem_eraseDups] at hfile
    exact (hdone.reached file hfile).resolve_left List.not_mem_nil
  · have hinputs : ∀ path ∈ inputs, path ∈ Text.sortedSet inputs :=
      fun _ hpath => Text.mem_sortedSet.mpr hpath
    obtain ⟨found, hfound, hsame⟩ := (hdone.of_reached hproper hagree hinputs hreached).2 hfile
    exact ⟨found, by rwa [findFiles_eq, List.mem_eraseDups], hsame⟩

/-! ## Trees in which names agree -/

instance (tree : File.Tree) (excluded : List Text) (path : Text) :
    Decidable (Opens tree excluded path) :=
  inferInstanceAs (Decidable (tree.isDirectory path = true ∧ directoryName path ∉ excluded))

/-- Two ways to a directory can differ only in whether the limits on links and on the length of a
path are met. -/
theorem namesAgree_of_target_ok
    (h : ∀ above dir, Reached tree excluded inputs above dir → above.Nodup →
      Opens tree excluded dir → ∀ name ∈ tree.list dir,
        ∃ t, tree.target false (entryPath dir name) = .ok t) : NamesAgree tree excluded inputs := by
  intro above dir above' dir' name t hdir hopen hnodup _ hopen' hreal hname ht
  obtain ⟨l, hl⟩ := File.Tree.isDirectory_iff.mp hopen.1
  obtain ⟨l', hl'⟩ := File.Tree.isDirectory_iff.mp hopen'.1
  rw [File.Tree.realLocation_of_target hl, File.Tree.realLocation_of_target hl'] at hreal
  have hsame : l' = l := hreal
  subst hsame
  obtain ⟨u, hu⟩ := h above dir hdir (List.nodup_cons.mp hnodup).2 hopen name hname
  rw [hu, File.Tree.target_entryPath_unique hl hl' hu ht]

/-- From a directory that is opened on this way, each entry can be opened, and the way to it is among
the given ones or passes a directory twice. -/
def goesOn (tree : File.Tree) (excluded : List Text) (ways : List (List File.Location × Text))
    (way : List File.Location × Text) : Bool :=
  let above := tree.realLocation way.2 :: way.1
  !decide (Opens tree excluded way.2) || (tree.list way.2).all fun name =>
    (tree.target false (entryPath way.2 name)).isOk &&
      (!decide above.Nodup || decide ((above, entryPath way.2 name) ∈ ways))

section Ways

variable {ways : List (List File.Location × Text)}

theorem goesOn_entry {way : List File.Location × Text} (h : goesOn tree excluded ways way = true)
    (hopen : Opens tree excluded way.2) {name : Text} (hname : name ∈ tree.list way.2) :
    (tree.target false (entryPath way.2 name)).isOk = true ∧
      ((tree.realLocation way.2 :: way.1).Nodup →
        (tree.realLocation way.2 :: way.1, entryPath way.2 name) ∈ ways) := by
  simp only [goesOn, hopen, decide_true, Bool.not_true, Bool.false_or, List.all_eq_true] at h
  obtain ⟨hok, hmem⟩ := Bool.and_eq_true_iff.mp (h name hname)
  refine ⟨hok, fun hnodup => ?_⟩
  simpa [hnodup] using hmem

theorem Reached.mem_ways (hinputs : ∀ path ∈ inputs, ([], path) ∈ ways)
    (hways : ways.all (goesOn tree excluded ways) = true) {above : List File.Location} {path : Text}
    (h : Reached tree excluded inputs above path) (hnodup : above.Nodup) :
    (above, path) ∈ ways := by
  induction h with
  | input hinput => exact hinputs _ hinput
  | entry hdir hopen hname ih =>
    have hway := List.all_eq_true.mp hways _ (ih (List.nodup_cons.mp hnodup).2)
    exact (goesOn_entry hway hopen hname).2 hnodup

/-- The ways that pass no directory twice are finitely many, so agreement can be computed. -/
theorem namesAgree_of_ways (hinputs : ∀ path ∈ inputs, ([], path) ∈ ways)
    (hways : ways.all (goesOn tree excluded ways) = true) : NamesAgree tree excluded inputs := by
  refine namesAgree_of_target_ok fun above dir hdir hnodup hopen name hname => ?_
  have hway := List.all_eq_true.mp hways _ (hdir.mem_ways hinputs hways hnodup)
  have hok := (goesOn_entry hway hopen hname).1
  cases htarget : tree.target false (entryPath dir name) with
  | ok t => exact ⟨t, rfl⟩
  | error fault => simp [htarget, Except.isOk, Except.toBool] at hok

end Ways

/-- The working directory holds the directory `src`, a link `lib` to it, and the directories `vendor`
and `keys`, of which `keys` cannot be listed. In `src` a link leads back up. -/
def cyclicTree : File.Tree :=
  let w := "w".toList
  let src := "src".toList
  { nodes := [([w], .directory), ([w, src], .directory),
      ([w, src, "a.php".toList], .file []), ([w, src, "up".toList], .link "..".toList),
      ([w, "lib".toList], .link src), ([w, "vendor".toList], .directory),
      ([w, "vendor".toList, "b.php".toList], .file []), ([w, "keys".toList], .directory),
      ([w, "keys".toList, "c.php".toList], .file [])],
    workDir := [w],
    locked := [[w, "keys".toList]] }

/-- The ways through that tree that pass no directory twice. -/
def cyclicWays : List (List File.Location × Text) :=
  let w : File.Location := ["w".toList]
  let src := w ++ ["src".toList]
  [([], ".".toList), ([w], "./src".toList), ([w], "./lib".toList), ([w], "./vendor".toList),
    ([w], "./keys".toList),
    ([src, w], "./src/a.php".toList), ([src, w], "./src/up".toList),
    ([src, w], "./lib/a.php".toList), ([src, w], "./lib/up".toList)]

theorem namesProper_cyclicTree : NamesProper cyclicTree := namesProper_of_all (by decide +kernel)

theorem namesAgree_cyclicTree : NamesAgree cyclicTree ["vendor".toList] [".".toList] := by
  have hinputs : ∀ path ∈ [".".toList], ([], path) ∈ cyclicWays := by
    intro path hpath
    rw [List.mem_singleton.mp hpath]
    decide +kernel
  exact namesAgree_of_ways hinputs (by decide +kernel)

/-- The file is listed once although endlessly many ways lead to it. The files in the excluded
directory and in the one that cannot be listed are not. -/
theorem findFiles_cyclicTree :
    findFiles cyclicTree ["vendor".toList] [".".toList] = (["./lib/a.php".toList],
      [.unlisted ⟨.noAccess, "./keys".toList⟩, .visitedDirectory "./lib/up".toList,
        .visitedDirectory "./src".toList, .excludedDirectory "./vendor".toList]) ∧
    (∀ above file, Reached cyclicTree ["vendor".toList] [".".toList] above file →
      cyclicTree.isFile file = true → baseName file = "a.php".toList) ∧
    ∃ above, Reached cyclicTree ["vendor".toList] [".".toList] above
      "./src/up/lib/a.php".toList := by
  have hfound : findFiles cyclicTree ["vendor".toList] [".".toList] = (["./lib/a.php".toList],
      [.unlisted ⟨.noAccess, "./keys".toList⟩, .visitedDirectory "./lib/up".toList,
        .visitedDirectory "./src".toList, .excludedDirectory "./vendor".toList]) := by
    have hdot : children cyclicTree ".".toList =
        ["./keys".toList, "./lib".toList, "./src".toList, "./vendor".toList] :=
      Text.sortedSet_eq_of_perm (by decide +kernel) (by decide +kernel)
    have hkeys : children cyclicTree "./keys".toList = [] :=
      Text.sortedSet_eq_of_perm .nil (by decide +kernel)
    have hlib : children cyclicTree "./lib".toList = ["./lib/a.php".toList, "./lib/up".toList] :=
      Text.sortedSet_eq_of_perm (by decide +kernel) (by decide +kernel)
    have hlength : cyclicTree.nodes.length = 9 := rfl
    rw [findFiles_eq, search, hlength, Text.sortedSet_singleton, List.foldl_cons, List.foldl_nil,
      visit_new (by decide +kernel) (by decide +kernel), hdot, List.foldl_cons,
      visit_new (by decide +kernel) (by decide +kernel), hkeys, List.foldl_nil, List.foldl_cons,
      visit_new (by decide +kernel) (by decide +kernel), hlib]
    decide +kernel
  refine ⟨hfound, fun above file hreached hfile => ?_, ?_⟩
  · obtain ⟨_, _, _, hcomplete⟩ := findFiles_reached cyclicTree ["vendor".toList] [".".toList]
      namesProper_cyclicTree namesAgree_cyclicTree
    obtain ⟨found, hmem, hbase, _⟩ := hcomplete above file hreached hfile
    rw [hfound, List.mem_singleton] at hmem
    rw [← hbase, hmem]
    decide +kernel
  · have hdot : Reached cyclicTree ["vendor".toList] [".".toList] [] ".".toList :=
      .input List.mem_cons_self
    have hsrc : Reached _ _ _ _ (entryPath ".".toList "src".toList) :=
      .entry hdot (by decide +kernel) (by decide +kernel)
    have hup : Reached _ _ _ _ (entryPath _ "up".toList) :=
      .entry hsrc (by decide +kernel) (by decide +kernel)
    have hlib : Reached _ _ _ _ (entryPath _ "lib".toList) :=
      .entry hup (by decide +kernel) (by decide +kernel)
    have hfile : Reached _ _ _ _ (entryPath _ "a.php".toList) :=
      .entry hlib (by decide +kernel) (by decide +kernel)
    exact ⟨_, hfile⟩

end MessageHarvest.Discovery
