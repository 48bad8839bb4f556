import MessageHarvest.Proofs.FileSearch
import MessageHarvest.Proofs.RelativeReferences

/-! # The order of discovery

Each level of the search goes through its paths as a sorted set, so neither
the order in which paths are given nor the order in which a directory lists
its entries is ever seen: trees that differ in nothing else are searched step
by step alike (`visit_congr`).

What one path adds stands below that path, and paths of one level part at one
name, the smaller one first. So the files of a directory come in increasing
order of their names, compared one after the other (`addsBelow_visit`).
Directories that are passed over only leave files out. -/
namespace MessageHarvest

/-! ## The order of texts -/

namespace Text

theorem lt_of_append_lt {s t u : Text} (h : s ++ t < s ++ u) : t < u := by
  by_contra hle
  rcases lt_or_eq_of_le (not_lt.mp hle) with hlt | rfl
  · exact lt_asymm h (List.append_left_lt hlt)
  · exact lt_irrefl _ h

end Text

/-! ## Trees that list their entries in another order -/

namespace File.Tree

/-- The trees are the same but for the order in which directories list their entries. -/
structure Reordered (tree other : Tree) : Prop where
  workDir : other.workDir = tree.workDir
  locked : other.locked = tree.locked
  node : ∀ l, other.node? l = tree.node? l
  entries : ∀ l, (other.childNames l).Perm (tree.childNames l)

variable {tree other : Tree}

theorem lookup_eq_some_iff_mem {nodes : List (Location × Node)}
    (hnodup : (nodes.map Prod.fst).Nodup) {l : Location} {node : Node} :
    nodes.lookup l = some node ↔ (l, node) ∈ nodes := by
  induction nodes with
  | nil => simp
  | cons entry nodes ih =>
    obtain ⟨hnew, hrest⟩ := List.nodup_cons.mp hnodup
    rw [List.lookup_cons, List.mem_cons]
    cases hl : l == entry.1 with
    | true =>
      obtain rfl := beq_iff_eq.mp hl
      have hold : (entry.1, node) ∉ nodes := fun hmem =>
        hnew (List.mem_map.mpr ⟨_, hmem, rfl⟩)
      simp [hold, Prod.ext_iff, eq_comm]
    | false =>
      have hne : (l, node) ≠ entry := fun he => beq_eq_false_iff_ne.mp hl (congrArg Prod.fst he)
      simp [hne, ih hrest]

/-- Where no location is listed twice, the nodes may be listed in any order. -/
theorem Reordered.of_perm {nodes nodes' : List (Location × Node)} (hperm : nodes'.Perm nodes)
    (hnodup : (nodes.map Prod.fst).Nodup) (workDir : Location) (locked : List Location) :
    Reordered ⟨nodes, workDir, locked⟩ ⟨nodes', workDir, locked⟩ where
  workDir := rfl
  locked := rfl
  node := by
    intro l
    have hnodup' := (hperm.map Prod.fst).nodup_iff.mpr hnodup
    unfold node?
    split
    · rfl
    · refine Option.ext fun node => ?_
      rw [lookup_eq_some_iff_mem hnodup', lookup_eq_some_iff_mem hnodup, hperm.mem_iff]
  entries := fun _ => hperm.filterMap _

theorem Reordered.linkTarget?_eq (h : Reordered tree other) (dir : Location) (name : Text) :
    other.linkTarget? dir name = tree.linkTarget? dir name := by
  rw [linkTarget?, linkTarget?, h.node]

theorem Reordered.start_eq (h : Reordered tree other) (path : Text) :
    other.start path = tree.start path := by
  rw [start, start, h.workDir]

theorem Reordered.advance_eq (h : Reordered tree other) (creating : Bool) (dir : Location)
    (path : List Text) : other.advance creating dir path = tree.advance creating dir path := by
  induction path generalizing dir with
  | nil => rfl
  | cons name rest ih =>
    rw [advance, advance, h.node, ih]
    split
    · rfl
    · split
      · rfl
      · split
        · rfl
        · split
          · rfl
          · exact ih _
          · rfl
          · rfl

theorem Reordered.walk_eq (h : Reordered tree other) (creating : Bool) (links : Nat)
    (dir : Location) (path : List Text) :
    other.walk creating links dir path = tree.walk creating links dir path := by
  induction links generalizing dir path with
  | zero => rw [walk, walk, h.advance_eq]
  | succ links ih =>
    rw [walk, walk, h.advance_eq]
    split
    · rfl
    · rfl
    · exact ih _ _

theorem Reordered.target_eq (h : Reordered tree other) (creating : Bool) (path : Text) :
    other.target creating path = tree.target creating path := by
  rw [target, target, h.start_eq, h.walk_eq]

theorem Reordered.isDirectory_eq (h : Reordered tree other) (path : Text) :
    other.isDirectory path = tree.isDirectory path := by
  rw [isDirectory, isDirectory, h.target_eq]

theorem Reordered.isFile_eq (h : Reordered tree other) (path : Text) :
    other.isFile path = tree.isFile path := by
  rw [isFile, isFile, h.target_eq]

theorem Reordered.mem_list_iff (h : Reordered tree other) {path name : Text} :
    name ∈ other.list path ↔ name ∈ tree.list path := by
  rw [list, list, h.target_eq, h.locked]
  split
  · split
    · rfl
    · exact (h.entries _).mem_iff
  · rfl

theorem Reordered.isLocked_eq (h : Reordered tree other) (path : Text) :
    other.isLocked path = tree.isLocked path := by
  rw [isLocked, isLocked, h.target_eq, h.locked]

/-! ## Their real locations -/

theorem following_nil (tree : Tree) : tree.Following (tree.nodes.length + 1) [] 0 :=
  ⟨List.nodup_nil, by simp, by simp, fun _ _ _ _ _ _ _ _ => Nat.zero_le _⟩

/-- A link that is not being followed can be, and there is room for it. -/
theorem Following.cons {depth : Nat} {active : List Location} {dir : Location}
    {name target : Text} (h : tree.Following (depth + 1) active 0)
    (hlink : tree.linkTarget? dir name = some target) (hnew : dir ++ [name] ∉ active) :
    tree.Following depth ((dir ++ [name]) :: active) 0 where
  nodup := List.nodup_cons.mpr ⟨hnew, h.nodup⟩
  known := List.forall_mem_cons.mpr
    ⟨List.mem_map_of_mem (mem_nodes_of_linkTarget? hlink), h.known⟩
  room := by
    have hroom := h.room
    rw [List.length_cons]
    omega
  long := fun _ _ _ _ _ _ _ _ => Nat.zero_le _

theorem step_of_linkTarget? {dir : Location} {name target : Text}
    (h : tree.linkTarget? dir name = some target) : dir.step name = dir ++ [name] := by
  cases hname : isDots name with
  | true =>
    rw [linkTarget?_of_isDots hname] at h
    cases h
  | false => exact step_of_not_isDots hname dir

theorem Reordered.realFollow_eq (h : Reordered tree other) {active : List Location}
    {resolve resolve' : Location → Location → List Text → Location × Bool}
    (hresolve : ∀ dir name target, tree.linkTarget? dir name = some target →
      dir ++ [name] ∉ active → resolve' (dir ++ [name]) = resolve (dir ++ [name]))
    (dir : Location) (path : List Text) :
    other.realFollow active resolve' dir path = tree.realFollow active resolve dir path := by
  induction path generalizing dir with
  | nil => rfl
  | cons name path ih =>
    rw [realFollow, realFollow, h.linkTarget?_eq]
    cases hlink : tree.linkTarget? dir name with
    | none => exact ih _
    | some target =>
      rw [step_of_linkTarget? hlink]
      by_cases hactive : dir ++ [name] ∈ active
      · simp only [if_pos hactive]
      · simp only [if_neg hactive, hresolve dir name target hlink hactive, ih]

/-- Any depth with room for all links gives the same, in either tree. -/
theorem Reordered.realWalk_eq (h : Reordered tree other) {depth depth' : Nat}
    {active : List Location} (hf : tree.Following depth active 0)
    (hf' : other.Following depth' active 0) :
    other.realWalk depth' active = tree.realWalk depth active := by
  induction depth generalizing depth' active with
  | zero =>
    obtain ⟨_, hdepth⟩ := hf.depth_pos
    cases hdepth
  | succ depth ih =>
    obtain ⟨depth', rfl⟩ := hf'.depth_pos
    funext dir path
    refine h.realFollow_eq (fun dir name target hlink hnew => ?_) dir path
    have hlink' := (h.linkTarget?_eq dir name).trans hlink
    exact ih (hf.cons hlink hnew) (hf'.cons hlink' hnew)

theorem Reordered.realLocation_eq (h : Reordered tree other) (path : Text) :
    other.realLocation path = tree.realLocation path := by
  rw [realLocation, realLocation, h.start_eq, h.realWalk_eq (following_nil tree)
    (following_nil other)]

end File.Tree

/-! ## Searching them -/

namespace Discovery

open File (entryPath)

variable {tree other : File.Tree} {excluded : List Text}

theorem children_congr (h : tree.Reordered other) (path : Text) :
    children other path = children tree path := by
  refine Text.sortedSet_congr fun child => ?_
  simp only [List.mem_map, h.mem_list_iff]

theorem enter_congr (h : tree.Reordered other) (s : Search) (path : Text) :
    s.enter other path = s.enter tree path := by
  simp only [Search.enter, h.realLocation_eq, h.isLocked_eq]

theorem visit_congr (h : tree.Reordered other) (depth : Nat) (s : Search) (path : Text) :
    visit other excluded depth s path = visit tree excluded depth s path := by
  induction depth generalizing s path with
  | zero =>
    rw [visit.eq_def, visit.eq_def tree]
    simp only [h.isDirectory_eq, h.isFile_eq, h.realLocation_eq]
  | succ depth ih =>
    have hvisit : visit other excluded depth = visit tree excluded depth :=
      funext fun s => funext fun path => ih s path
    rw [visit.eq_def, visit.eq_def tree]
    simp only [h.isDirectory_eq, h.isFile_eq, h.realLocation_eq, hvisit, children_congr h,
      enter_congr h]

/-- Only the set of the given paths counts, and no order in which entries are listed. -/
theorem search_congr (h : tree.Reordered other) {inputs inputs' : List Text}
    (hinputs : ∀ path, path ∈ inputs ↔ path ∈ inputs') (depth : Nat) :
    search other excluded inputs' depth = search tree excluded inputs depth := by
  have hvisit : visit other excluded depth = visit tree excluded depth :=
    funext fun s => funext fun path => visit_congr h depth s path
  rw [search, search, hvisit, Text.sortedSet_congr hinputs]

/-! ## The order of the files -/

/-- The names of one path come before those of the other, by the first in which they differ. -/
def Before (first second : Text) : Prop := File.names first < File.names second

/-- The file is what the path names, or something that it holds. -/
def Below (path file : Text) : Prop :=
  file = path ∨ File.names (File.stripSlashes path) <+: File.names file

/-- What was added comes in order, and stands below the path. -/
def AddsBelow (path : Text) (s s' : Search) : Prop :=
  ∃ new, s'.files = s.files ++ new ∧ new.Pairwise Before ∧ ∀ file ∈ new, Below path file

/-- What is added on the way through paths comes in order, if what stands below different ones
does. -/
theorem exists_files_foldl {step : Search → Text → Search} {paths : List Text}
    (hstep : ∀ s, ∀ path ∈ paths, AddsBelow path s (step s path))
    (hpaths : paths.Pairwise fun path other => ∀ file file', Below path file →
      Below other file' → Before file file') (s : Search) :
    ∃ new, (paths.foldl step s).files = s.files ++ new ∧ new.Pairwise Before ∧
      ∀ file ∈ new, ∃ path ∈ paths, Below path file := by
  induction paths generalizing s with
  | nil => exact ⟨[], by simp, List.Pairwise.nil, by simp⟩
  | cons path paths ih =>
    obtain ⟨hfirst, hothers⟩ := List.pairwise_cons.mp hpaths
    obtain ⟨hpath, hsteps⟩ := List.forall_mem_cons.mp (fun p hp s => hstep s p hp)
    obtain ⟨new, hnew, hsorted, hbelow⟩ := hpath s
    obtain ⟨more, hmore, hsorted', hbelow'⟩ := ih (fun s p hp => hsteps p hp s) hothers (step s path)
    refine ⟨new ++ more, ?_, ?_, ?_⟩
    · rw [List.foldl_cons, hmore, hnew, List.append_assoc]
    · refine List.pairwise_append.mpr ⟨hsorted, hsorted', fun file hfile file' hfile' => ?_⟩
      obtain ⟨other, hother, hunder⟩ := hbelow' file' hfile'
      exact hfirst other hother file file' (hbelow file hfile) hunder
    · intro file hfile
      rcases List.mem_append.mp hfile with hfile | hfile
      · exact ⟨path, List.mem_cons_self, hbelow file hfile⟩
      · obtain ⟨other, hother, hunder⟩ := hbelow' file hfile
        exact ⟨other, List.mem_cons_of_mem path hother, hunder⟩

theorem names_entryPath {name : Text} (h : '/' ∉ name) (path : Text) :
    File.names (entryPath path name) = File.names (File.stripSlashes path) ++ [name] := by
  rw [entryPath, File.names_append_slash, File.names_of_not_mem h]

/-- What stands below an entry has the name of the entry behind the names of its directory. -/
theorem Below.exists_names {path name file : Text} (h : Below (entryPath path name) file)
    (hname : name ≠ [] ∧ '/' ∉ name) :
    ∃ more, File.names file = File.names (File.stripSlashes path) ++ name :: more := by
  have hentry := names_entryPath hname.2 path
  rcases h with rfl | ⟨more, hmore⟩
  · exact ⟨[], hentry⟩
  · rw [File.stripSlashes_entryPath hname.1 hname.2, hentry, List.append_assoc] at hmore
    exact ⟨more, hmore.symm⟩

/-- Entries of a directory come in the order of their names, with all that stands below them. -/
theorem pairwise_children (hproper : NamesProper tree) (path : Text) :
    (children tree path).Pairwise fun child other => ∀ file file', Below child file →
      Below other file' → Before file file' := by
  have hsorted : (children tree path).Pairwise (· < ·) := Text.pairwise_sortedSet _
  refine hsorted.imp_of_mem fun {child other} hchild hother hlt file file' hfile hfile' => ?_
  obtain ⟨name, hname, rfl⟩ := mem_children.mp hchild
  obtain ⟨name', hname', rfl⟩ := mem_children.mp hother
  obtain ⟨more, hmore⟩ := hfile.exists_names (hproper.of_mem_list hname)
  obtain ⟨more', hmore'⟩ := hfile'.exists_names (hproper.of_mem_list hname')
  have hnames : name < name' := by
    have hcons : '/' :: name < '/' :: name' := Text.lt_of_append_lt hlt
    exact Text.lt_of_append_lt (s := ['/']) hcons
  rw [Before, hmore, hmore']
  exact List.append_left_lt (List.Lex.rel hnames)

theorem addsBelow_visit_zero (s : Search) (path : Text) :
    AddsBelow path s (visit tree excluded 0 s path) := by
  refine ⟨_, files_visit_zero s path, ?_, ?_⟩
  · split
    · exact List.pairwise_singleton _ _
    · exact List.Pairwise.nil
  · intro file hfile
    split at hfile
    · exact .inl (List.mem_singleton.mp hfile)
    · cases hfile

/-- Induction on the depth: below a directory that is opened, its entries add in their order. -/
theorem addsBelow_visit (hproper : NamesProper tree) (depth : Nat) (s : Search) (path : Text) :
    AddsBelow path s (visit tree excluded depth s path) := by
  induction depth generalizing s path with
  | zero => exact addsBelow_visit_zero s path
  | succ depth ih =>
    by_cases hnew : Opens tree excluded path ∧ tree.realLocation path ∉ s.visited
    · rw [visit_new hnew.1 hnew.2]
      obtain ⟨new, hfiles, hsorted, hbelow⟩ := exists_files_foldl (fun s child _ => ih s child)
        (pairwise_children hproper path) (s.enter tree path)
      rw [files_enter] at hfiles
      refine ⟨new, hfiles, hsorted, fun file hfile => ?_⟩
      obtain ⟨child, hchild, hunder⟩ := hbelow file hfile
      obtain ⟨name, hname, rfl⟩ := mem_children.mp hchild
      obtain ⟨more, hmore⟩ := hunder.exists_names (hproper.of_mem_list hname)
      exact .inr ⟨name :: more, hmore.symm⟩
    · rw [visit_settled fun hopen => not_not.mp fun hseen => hnew ⟨hopen, hseen⟩]
      exact addsBelow_visit_zero s path

/-- **The order of discovery is canonical.** What is found and what is reported depends on the set
of the given paths and on no order in which directories list their entries. The files that one
path holds come in strictly increasing order of their names, compared one after the other. -/
theorem discovery_order_canonical (tree : File.Tree) (excluded : List Text) :
    (∀ other inputs inputs', tree.Reordered other → (∀ path, path ∈ inputs ↔ path ∈ inputs') →
      findFiles other excluded inputs' = findFiles tree excluded inputs) ∧
    (NamesProper tree → ∀ path, (findFiles tree excluded [path]).1.Pairwise fun file file' =>
      File.names file < File.names file') := by
  constructor
  · intro other inputs inputs' hother hinputs
    have hdepth : tree.nodes.length < tree.nodes.length + other.nodes.length + 1 := by omega
    have hdepth' : other.nodes.length < tree.nodes.length + other.nodes.length + 1 := by omega
    rw [findFiles_eq, findFiles_eq, search_eq_of_length_lt hdepth, search_eq_of_length_lt hdepth',
      search_congr hother hinputs]
  · intro hproper path
    have hadds : AddsBelow path Search.empty (visit tree excluded _ Search.empty path) :=
      addsBelow_visit hproper (tree.nodes.length + 1) Search.empty path
    obtain ⟨new, hfiles, hsorted, _⟩ := hadds
    rw [findFiles_eq, search, Text.sortedSet_singleton, List.foldl_cons, List.foldl_nil, hfiles]
    exact hsorted.sublist (eraseDups_sublist new)

/-- A directory and a file whose names begin alike, and in the directory a link that leads back. -/
def crossedTree : File.Tree :=
  let d := "d".toList
  { nodes := [(["d.php".toList], .file []), ([d], .directory), ([d, "x.php".toList], .file []),
      ([d, "up".toList], .link "..".toList)],
    workDir := [] }

/-- With its entries listed the other way round, and the paths in another order and repeated, the
same is found. The directory comes before the file, although as texts their paths would not. -/
theorem discovery_order_canonical_crossed :
    let other : File.Tree := { crossedTree with nodes := crossedTree.nodes.reverse }
    (crossedTree.Reordered other ∧
      findFiles other [] ["d".toList, ".".toList, "d".toList] =
        findFiles crossedTree [] [".".toList, "d".toList]) ∧
    (NamesProper crossedTree ∧
      (findFiles crossedTree [] [".".toList]).1 = ["./d/x.php".toList, "./d.php".toList] ∧
      File.names "./d/x.php".toList < File.names "./d.php".toList) := by
  intro other
  obtain ⟨hcongr, hsorted⟩ := discovery_order_canonical crossedTree []
  have hproper : NamesProper crossedTree := namesProper_of_all (by decide +kernel)
  have hother : crossedTree.Reordered other :=
    .of_perm crossedTree.nodes.reverse_perm (by decide +kernel) [] []
  have hinputs : ∀ path, path ∈ [".".toList, "d".toList] ↔
      path ∈ ["d".toList, ".".toList, "d".toList] := by
    intro path
    simp only [List.mem_cons, List.not_mem_nil, or_false]
    tauto
  have hfound : (findFiles crossedTree [] [".".toList]).1 =
      ["./d/x.php".toList, "./d.php".toList] := by
    have hdot : children crossedTree ".".toList = ["./d".toList, "./d.php".toList] :=
      Text.sortedSet_eq_of_perm (by decide +kernel) (by decide +kernel)
    have hd : children crossedTree "./d".toList = ["./d/up".toList, "./d/x.php".toList] :=
      Text.sortedSet_eq_of_perm (by decide +kernel) (by decide +kernel)
    have hlength : crossedTree.nodes.length = 4 := rfl
    rw [findFiles_eq, search, hlength, Text.sortedSet_singleton, List.foldl_cons, List.foldl_nil,
      visit_new (by decide +kernel) (by decide +kernel), hdot, List.foldl_cons,
      visit_new (by decide +kernel) (by decide +kernel), hd]
    decide +kernel
  have hpairwise := hsorted hproper ".".toList
  rw [hfound, List.pairwise_pair] at hpairwise
  exact ⟨⟨hother, hcongr other _ _ hother hinputs⟩, hproper, hfound, hpairwise⟩

end Discovery

end MessageHarvest
