import MessageHarvest.Proofs.RealLocation
import MessageHarvest.Proofs.TextParts
import Mathlib.Data.List.Perm.Subperm
import Mathlib.Data.List.TakeWhile

/-! # Where names lead

Opening a path follows its names through directories and links, as far as a
limit of links. The real location is found in another way, link inside link,
with no such limit. `Leads` says where names lead from a directory and how
many links they pass on the way. Opening is this relation cut off at the limit
(`walk_eq_ok_iff`), and whatever names lead to, the real location is the same
place (`realLocation_of_leads`). A link that stands on the way of its own
target leads nowhere, so none is met while it is being followed. -/
namespace MessageHarvest.File

namespace Tree

variable {tree : Tree}

/-- Names for which nothing is looked up. -/
def isDots (name : Text) : Bool := name = [] || name = ['.'] || name = ['.', '.']

/-- Where the names of a link are followed from. -/
def linkStart (dir : Location) (target : Text) : Location := if isAbsolute target then [] else dir

/-- The name is looked up in the directory, and this stands there. -/
structure Finds (tree : Tree) (dir : Location) (name : Text) (found : Option Node) : Prop where
  proper : isDots name = false
  short : byteLength name ≤ maxNameBytes
  node : tree.node? (dir ++ [name]) = found

/-- The names lead from a directory to a target, and pass so many links. -/
inductive Leads (tree : Tree) : Location → List Text → Nat → Target → Prop
  | here (dir : Location) : Leads tree dir [] 0 (.directory dir)
  | dots {dir : Location} {name : Text} {rest : List Text} {n : Nat} {t : Target}
      (hname : isDots name = true) :
      Leads tree (dir.step name) rest n t → Leads tree dir (name :: rest) n t
  | down {dir : Location} {name : Text} {rest : List Text} {n : Nat} {t : Target}
      (hfind : tree.Finds dir name (some .directory)) :
      Leads tree (dir ++ [name]) rest n t → Leads tree dir (name :: rest) n t
  | link {dir : Location} {name : Text} {rest : List Text} {n : Nat} {t : Target} {target : Text}
      (hfind : tree.Finds dir name (some (.link target))) :
      Leads tree (linkStart dir target) (names target ++ rest) n t →
      Leads tree dir (name :: rest) (n + 1) t
  | file {dir : Location} {name : Text} {content : List UInt8}
      (hfind : tree.Finds dir name (some (.file content))) :
      Leads tree dir [name] 0 (.file (dir ++ [name]) content)
  | absent {dir : Location} {name : Text} (hfind : tree.Finds dir name none) :
      Leads tree dir [name] 0 (.absent (dir ++ [name]))

/-! ## Opening -/

theorem advance_dots {name : Text} (hname : isDots name = true) (dir : Location)
    (rest : List Text) :
    tree.advance false dir (name :: rest) = tree.advance false (dir.step name) rest := by
  unfold isDots at hname
  rw [advance, if_pos hname]

theorem advance_lookup {name : Text} (hname : isDots name = false)
    (hshort : byteLength name ≤ maxNameBytes) (dir : Location) (rest : List Text) :
    tree.advance false dir (name :: rest) = match tree.node? (dir ++ [name]) with
      | none => if rest = [] then .ok (.ends (.absent (dir ++ [name]))) else .error .missing
      | some .directory => tree.advance false (dir ++ [name]) rest
      | some (.file content) =>
        if rest = [] then .ok (.ends (.file (dir ++ [name]) content)) else .error .notDirectory
      | some (.link target) => .ok (.link (linkStart dir target) (names target ++ rest)) := by
  unfold isDots at hname
  have hlen : ¬ maxNameBytes < byteLength name := Nat.not_lt.mpr hshort
  rw [advance, if_neg (Bool.eq_false_iff.mp hname), if_neg (by simp), if_neg hlen]
  rfl

/-- A name that is followed is not too long. -/
theorem short_of_advance {dir : Location} {name : Text} {rest : List Text} {way : Way}
    (hname : isDots name = false) (h : tree.advance false dir (name :: rest) = .ok way) :
    byteLength name ≤ maxNameBytes := by
  unfold isDots at hname
  by_contra hlong
  rw [advance, if_neg (Bool.eq_false_iff.mp hname), if_neg (by simp),
    if_pos (Nat.lt_of_not_le hlong)] at h
  cases h

/-- Names that end before a link lead there, and names that come to a link lead where its names
and the names left over lead. -/
theorem leads_of_advance {dir : Location} {path : List Text} {way : Way}
    (h : tree.advance false dir path = .ok way) :
    match way with
    | .ends t => Leads tree dir path 0 t
    | .link start left => ∀ n t, Leads tree start left n t → Leads tree dir path (n + 1) t := by
  induction path generalizing dir with
  | nil =>
    obtain rfl := Except.ok.inj h
    exact .here dir
  | cons name rest ih =>
    cases hname : isDots name with
    | true =>
      rw [advance_dots hname] at h
      cases way with
      | ends t => exact .dots hname (ih h)
      | link start left => exact fun n t hleads => .dots hname (ih h n t hleads)
    | false =>
      have hshort := short_of_advance hname h
      rw [advance_lookup hname hshort] at h
      split at h
      · rename_i hnode
        split at h
        · rename_i hrest
          obtain rfl := Except.ok.inj h
          exact hrest ▸ .absent ⟨hname, hshort, hnode⟩
        · cases h
      · rename_i hnode
        have hfind : tree.Finds dir name (some .directory) := ⟨hname, hshort, hnode⟩
        cases way with
        | ends t => exact .down hfind (ih h)
        | link start left => exact fun n t hleads => .down hfind (ih h n t hleads)
      · rename_i hnode
        split at h
        · rename_i hrest
          obtain rfl := Except.ok.inj h
          exact hrest ▸ .file ⟨hname, hshort, hnode⟩
        · cases h
      · rename_i hnode
        obtain rfl := Except.ok.inj h
        exact fun n t hleads => .link ⟨hname, hshort, hnode⟩ hleads

theorem walk_eq (links : Nat) (dir : Location) (path : List Text) :
    tree.walk false links dir path = match tree.advance false dir path with
      | .error fault => .error fault
      | .ok (.ends target) => .ok target
      | .ok (.link start left) =>
        match links with
        | 0 => .error .tooManyLinks
        | links + 1 => tree.walk false links start left :=
  walk.eq_def tree false links dir path

theorem walk_of_leads {dir : Location} {path : List Text} {n : Nat} {t : Target}
    (h : Leads tree dir path n t) {links : Nat} (hle : n ≤ links) :
    tree.walk false links dir path = .ok t := by
  induction h generalizing links with
  | here dir => rw [walk_eq, advance]
  | dots hname _ ih => rw [walk_eq, advance_dots hname, ← walk_eq, ih hle]
  | down hfind _ ih =>
    rw [walk_eq, advance_lookup hfind.proper hfind.short, hfind.node, ← walk_eq, ih hle]
  | @link dir name rest n t target hfind _ ih =>
    obtain ⟨more, rfl⟩ := Nat.exists_eq_add_of_le hle
    rw [Nat.add_right_comm, walk_eq, advance_lookup hfind.proper hfind.short, hfind.node]
    exact ih (Nat.le_add_right n more)
  | file hfind => rw [walk_eq, advance_lookup hfind.proper hfind.short, hfind.node]; rfl
  | absent hfind => rw [walk_eq, advance_lookup hfind.proper hfind.short, hfind.node]; rfl

theorem leads_of_walk {links : Nat} {dir : Location} {path : List Text} {t : Target}
    (h : tree.walk false links dir path = .ok t) : ∃ n ≤ links, Leads tree dir path n t := by
  induction links generalizing dir path with
  | zero =>
    rw [walk_eq] at h
    split at h
    · cases h
    · rename_i target hway
      obtain rfl := Except.ok.inj h
      exact ⟨0, Nat.le_refl 0, leads_of_advance hway⟩
    · cases h
  | succ links ih =>
    rw [walk_eq] at h
    split at h
    · cases h
    · rename_i target hway
      obtain rfl := Except.ok.inj h
      exact ⟨0, Nat.zero_le _, leads_of_advance hway⟩
    · rename_i start left hway
      obtain ⟨n, hle, hleads⟩ := ih h
      exact ⟨n + 1, Nat.succ_le_succ hle, leads_of_advance hway n t hleads⟩

/-- A path is opened if its names lead somewhere through no more links than are followed. -/
theorem walk_eq_ok_iff {links : Nat} {dir : Location} {path : List Text} {t : Target} :
    tree.walk false links dir path = .ok t ↔ ∃ n ≤ links, Leads tree dir path n t := by
  refine ⟨leads_of_walk, ?_⟩
  rintro ⟨n, hle, hleads⟩
  exact walk_of_leads hleads hle

/-! ## One name after the other -/

theorem leads_dots {dir : Location} {name : Text} {rest : List Text} {n : Nat} {t : Target}
    (hname : isDots name = true) :
    Leads tree dir (name :: rest) n t ↔ Leads tree (dir.step name) rest n t := by
  refine ⟨fun h => ?_, .dots hname⟩
  cases h with
  | dots _ h => exact h
  | down hfind => exact absurd hname (Bool.eq_false_iff.mp hfind.proper)
  | link hfind => exact absurd hname (Bool.eq_false_iff.mp hfind.proper)
  | file hfind => exact absurd hname (Bool.eq_false_iff.mp hfind.proper)
  | absent hfind => exact absurd hname (Bool.eq_false_iff.mp hfind.proper)

/-- What stands under a name decides how it is passed. -/
theorem Finds.leads {dir : Location} {name : Text} {found : Option Node}
    (hfind : tree.Finds dir name found) {rest : List Text} {n : Nat} {t : Target}
    (h : Leads tree dir (name :: rest) n t) :
    (found = some .directory → Leads tree (dir ++ [name]) rest n t) ∧
    (∀ target, found = some (.link target) →
      ∃ m, n = m + 1 ∧ Leads tree (linkStart dir target) (names target ++ rest) m t) ∧
    (∀ content, found = some (.file content) →
      rest = [] ∧ n = 0 ∧ t = .file (dir ++ [name]) content) ∧
    (found = none → rest = [] ∧ n = 0 ∧ t = .absent (dir ++ [name])) := by
  have hsame : ∀ {other}, tree.Finds dir name other → other = found := fun hother =>
    hother.node.symm.trans hfind.node
  cases h with
  | dots hname => exact absurd hname (Bool.eq_false_iff.mp hfind.proper)
  | down hother h =>
    obtain rfl := hsame hother
    simpa using h
  | link hother h =>
    obtain rfl := hsame hother
    simpa using h
  | file hother =>
    obtain rfl := hsame hother
    simp
  | absent hother =>
    obtain rfl := hsame hother
    simp

/-- Names lead to one target, through one number of links. -/
theorem Leads.unique {dir : Location} {path : List Text} {n m : Nat} {t u : Target}
    (h : Leads tree dir path n t) (h' : Leads tree dir path m u) : n = m ∧ t = u := by
  induction h generalizing m with
  | here dir =>
    cases h'
    exact ⟨rfl, rfl⟩
  | dots hname _ ih => exact ih ((leads_dots hname).mp h')
  | down hfind _ ih => exact ih ((hfind.leads h').1 rfl)
  | link hfind _ ih =>
    obtain ⟨k, rfl, hk⟩ := (hfind.leads h').2.1 _ rfl
    obtain ⟨rfl, rfl⟩ := ih hk
    exact ⟨rfl, rfl⟩
  | file hfind =>
    obtain ⟨_, rfl, rfl⟩ := (hfind.leads h').2.2.1 _ rfl
    exact ⟨rfl, rfl⟩
  | absent hfind =>
    obtain ⟨_, rfl, rfl⟩ := (hfind.leads h').2.2.2 rfl
    exact ⟨rfl, rfl⟩

theorem Leads.append {dir l : Location} {path more : List Text} {n m : Nat} {t : Target}
    (h : Leads tree dir path n (.directory l)) (h' : Leads tree l more m t) :
    Leads tree dir (path ++ more) (n + m) t := by
  generalize hd : Target.directory l = d at h
  induction h with
  | here dir =>
    obtain rfl := Target.directory.inj hd
    rwa [List.nil_append, Nat.zero_add]
  | dots hname _ ih => exact .dots hname (ih hd)
  | down hfind _ ih => exact .down hfind (ih hd)
  | @link dir name rest n t target hfind _ ih =>
    have hrest := ih hd
    rw [List.append_assoc] at hrest
    rw [List.cons_append, Nat.add_right_comm]
    exact .link hfind hrest
  | file _ => cases hd
  | absent _ => cases hd

/-- Names that go on behind a beginning pass a directory there. -/
theorem Leads.split {dir : Location} {path more : List Text} {k : Nat} {t : Target}
    (h : Leads tree dir (path ++ more) k t) (hne : more ≠ []) :
    ∃ l n m, k = n + m ∧ Leads tree dir path n (.directory l) ∧ Leads tree l more m t := by
  generalize hall : path ++ more = all at h
  induction h generalizing path with
  | here dir => simp_all
  | @dots dir name rest n t hname h ih =>
    cases path with
    | nil =>
      obtain rfl := hall
      exact ⟨dir, 0, n, (Nat.zero_add n).symm, .here dir, .dots hname h⟩
    | cons first path =>
      obtain ⟨rfl, hrest⟩ := List.cons.inj hall
      obtain ⟨l, n, m, hk, hpath, hmore⟩ := ih hrest
      exact ⟨l, n, m, hk, .dots hname hpath, hmore⟩
  | @down dir name rest n t hfind h ih =>
    cases path with
    | nil =>
      obtain rfl := hall
      exact ⟨dir, 0, n, (Nat.zero_add n).symm, .here dir, .down hfind h⟩
    | cons first path =>
      obtain ⟨rfl, hrest⟩ := List.cons.inj hall
      obtain ⟨l, n, m, hk, hpath, hmore⟩ := ih hrest
      exact ⟨l, n, m, hk, .down hfind hpath, hmore⟩
  | @link dir name rest n t target hfind h ih =>
    cases path with
    | nil =>
      obtain rfl := hall
      exact ⟨dir, 0, n + 1, (Nat.zero_add _).symm, .here dir, .link hfind h⟩
    | cons first path =>
      obtain ⟨rfl, hrest⟩ := List.cons.inj hall
      obtain ⟨l, n, m, rfl, hpath, hmore⟩ :=
        ih ((List.append_assoc _ path more).trans (congrArg (names target ++ ·) hrest))
      exact ⟨l, n + 1, m, Nat.add_right_comm n m 1, .link hfind hpath, hmore⟩
  | @file dir name content hfind =>
    cases path with
    | nil =>
      obtain rfl := hall
      exact ⟨dir, 0, 0, rfl, .here dir, .file hfind⟩
    | cons first path => simp_all
  | @absent dir name hfind =>
    cases path with
    | nil =>
      obtain rfl := hall
      exact ⟨dir, 0, 0, rfl, .here dir, .absent hfind⟩
    | cons first path => simp_all

/-- Behind a directory the names lead where they lead from it. -/
theorem Leads.behind {dir l : Location} {path more : List Text} {n k : Nat} {t : Target}
    (h : Leads tree dir path n (.directory l)) (hne : more ≠ [])
    (hall : Leads tree dir (path ++ more) k t) : ∃ m, k = n + m ∧ Leads tree l more m t := by
  obtain ⟨l', n', m, hk, hpath, hmore⟩ := hall.split hne
  obtain ⟨rfl, hl⟩ := h.unique hpath
  obtain rfl := Target.directory.inj hl
  exact ⟨m, hk, hmore⟩

/-! ## The real location -/

/-- The location of what a path leads to. -/
def Target.location : Target → Location
  | .directory l => l
  | .file l _ => l
  | .absent l => l

/-- The links that are being followed are different links of the tree, there is room for more, and
each of them that leads somewhere passes at least `n` links. -/
structure Following (tree : Tree) (depth : Nat) (active : List Location) (n : Nat) : Prop where
  nodup : active.Nodup
  known : ∀ l ∈ active, l ∈ tree.nodes.map Prod.fst
  room : tree.nodes.length < depth + active.length
  long : ∀ dir name target m t, dir ++ [name] ∈ active →
    tree.linkTarget? dir name = some target →
    Leads tree (linkStart dir target) (names target) m t → n ≤ m

theorem Following.mono {depth : Nat} {active : List Location} {n m : Nat}
    (h : tree.Following depth active n) (hle : m ≤ n) : tree.Following depth active m :=
  ⟨h.nodup, h.known, h.room, fun dir name target k t hmem hlink hleads =>
    Nat.le_trans hle (h.long dir name target k t hmem hlink hleads)⟩

theorem Following.depth_pos {depth : Nat} {active : List Location} {n : Nat}
    (h : tree.Following depth active n) : ∃ less, depth = less + 1 := by
  have hlen := (h.nodup.subperm h.known).length_le
  rw [List.length_map] at hlen
  have hroom := h.room
  exact ⟨depth - 1, by omega⟩

theorem step_of_not_isDots {name : Text} (hname : isDots name = false) (dir : Location) :
    dir.step name = dir ++ [name] := by
  simp only [isDots, Bool.or_eq_false_iff, decide_eq_false_iff_not] at hname
  simp [Location.step, hname]

theorem linkTarget?_of_isDots {name : Text} (hname : isDots name = true) (dir : Location) :
    tree.linkTarget? dir name = none := by
  unfold isDots at hname
  rw [linkTarget?, if_pos hname]

theorem Finds.linkTarget?_eq_some {dir : Location} {name target : Text}
    (h : tree.Finds dir name (some (.link target))) : tree.linkTarget? dir name = some target := by
  have hname := h.proper
  unfold isDots at hname
  rw [linkTarget?, if_neg (Bool.eq_false_iff.mp hname), h.node]

theorem Finds.linkTarget?_eq_none {dir : Location} {name : Text} {found : Option Node}
    (h : tree.Finds dir name found) (hother : ∀ target, found ≠ some (.link target)) :
    tree.linkTarget? dir name = none := by
  have hname := h.proper
  unfold isDots at hname
  rw [linkTarget?, if_neg (Bool.eq_false_iff.mp hname), h.node]
  split
  · exact absurd rfl (hother _)
  · rfl

section Follow

variable {active : List Location} {resolve : Location → Location → List Text → Location × Bool}

theorem realFollow_plain {dir : Location} {name : Text} (h : tree.linkTarget? dir name = none)
    (rest : List Text) :
    realFollow tree active resolve dir (name :: rest) =
      realFollow tree active resolve (dir.step name) rest := by
  rw [realFollow, h]

theorem realFollow_link {dir l : Location} {name target : Text}
    (h : tree.linkTarget? dir name = some target) (hnew : dir.step name ∉ active)
    (hfound : resolve (dir.step name) (linkStart dir target) (names target) = (l, true))
    (rest : List Text) :
    realFollow tree active resolve dir (name :: rest) =
      realFollow tree active resolve l rest := by
  unfold linkStart at hfound
  simp only [realFollow, h, if_neg hnew, hfound, if_true]

end Follow

/-- The names of a link lead to the directory from which the other names go on, or if there are
no others to the target itself. -/
theorem Leads.split_target {dir : Location} {path rest : List Text} {k : Nat} {t : Target}
    (h : Leads tree dir (path ++ rest) k t) :
    ∃ u n m, k = n + m ∧ Leads tree dir path n u ∧
      ((rest = [] ∧ u = t) ∨ ∃ l, u = .directory l ∧ Leads tree l rest m t) := by
  by_cases hrest : rest = []
  · subst hrest
    rw [List.append_nil] at h
    exact ⟨t, k, 0, rfl, h, .inl ⟨rfl, rfl⟩⟩
  · obtain ⟨l, n, m, hk, hpath, hmore⟩ := h.split hrest
    exact ⟨.directory l, n, m, hk, hpath, .inr ⟨l, rfl, hmore⟩⟩

/-- A link that is met leads on through fewer links than those that are being followed, so it is
none of them and can be followed as well. -/
theorem Following.enter {depth : Nat} {active : List Location} {k n : Nat} {dir : Location}
    {name target : Text} {u : Target} (h : tree.Following (depth + 1) active k)
    (hlink : tree.linkTarget? dir name = some target)
    (hleads : Leads tree (linkStart dir target) (names target) n u) (hlt : n < k) :
    dir ++ [name] ∉ active ∧ tree.Following depth ((dir ++ [name]) :: active) n := by
  have hnew : dir ++ [name] ∉ active := by
    intro hmem
    have hle := h.long dir name target n u hmem hlink hleads
    omega
  refine ⟨hnew, List.nodup_cons.mpr ⟨hnew, h.nodup⟩, ?_, ?_, ?_⟩
  · intro l hl
    rcases List.mem_cons.mp hl with rfl | hl
    · exact List.mem_map_of_mem (mem_nodes_of_linkTarget? hlink)
    · exact h.known l hl
  · have hroom := h.room
    rw [List.length_cons]
    omega
  · intro dir' name' target' m t hmem hlink' hleads'
    rcases List.mem_cons.mp hmem with he | hmem
    · obtain ⟨rfl, hname⟩ := List.append_inj' he rfl
      obtain rfl := List.singleton_inj.mp hname
      obtain rfl := Option.some.inj (hlink'.symm.trans hlink)
      exact Nat.le_of_eq (hleads.unique hleads').1
    · have hle := h.long dir' name' target' m t hmem hlink' hleads'
      omega

/-- Following link inside link comes to what the names lead to. -/
theorem realWalk_of_leads {depth : Nat} {active : List Location} {dir : Location}
    {path : List Text} {n : Nat} {t : Target} (h : Leads tree dir path n t)
    (hf : tree.Following depth active n) :
    tree.realWalk depth active dir path = (t.location, true) := by
  -- on the number of links, and among names without a link on the names
  induction n using Nat.strongRecOn generalizing depth active dir path t with
  | ind n ihLinks =>
    obtain ⟨depth, rfl⟩ := hf.depth_pos
    induction path generalizing dir with
    | nil =>
      cases h
      rfl
    | cons name rest ih =>
      cases h with
      | dots hname h =>
        exact (realFollow_plain (linkTarget?_of_isDots hname dir) rest).trans (ih h)
      | down hfind h =>
        refine (realFollow_plain (hfind.linkTarget?_eq_none (by simp)) rest).trans ?_
        rw [step_of_not_isDots hfind.proper]
        exact ih h
      | file hfind =>
        refine (realFollow_plain (hfind.linkTarget?_eq_none (by simp)) []).trans ?_
        rw [step_of_not_isDots hfind.proper]
        rfl
      | absent hfind =>
        refine (realFollow_plain (hfind.linkTarget?_eq_none (by simp)) []).trans ?_
        rw [step_of_not_isDots hfind.proper]
        rfl
      | @link _ _ _ k _ target hfind h =>
        obtain ⟨u, n, m, rfl, htarget, hrest⟩ := h.split_target
        obtain ⟨hnew, hinner⟩ := hf.enter hfind.linkTarget?_eq_some htarget (by omega)
        have hstep := step_of_not_isDots hfind.proper dir
        have hfound := ihLinks n (by omega) htarget hinner
        rw [← hstep] at hnew hfound
        refine (realFollow_link hfind.linkTarget?_eq_some hnew hfound rest).trans ?_
        rcases hrest with ⟨rfl, rfl⟩ | ⟨l, rfl, hrest⟩
        · rfl
        · exact ihLinks m (by omega) hrest (hf.mono (by omega))

/-- Whatever the names of a path lead to, its real location is the same place. -/
theorem realLocation_of_leads {path : Text} {n : Nat} {t : Target}
    (h : Leads tree (tree.start path) (names path) n t) : tree.realLocation path = t.location := by
  have hf : tree.Following (tree.nodes.length + 1) [] n := by
    refine ⟨List.nodup_nil, by simp, by simp, ?_⟩
    intro dir name target m t hmem
    cases hmem
  rw [realLocation, realWalk_of_leads h hf]

end Tree

/-! ## Paths of entries -/

/-- The path of an entry of the directory that a path leads to. -/
def entryPath (path name : Text) : Text := stripSlashes path ++ '/' :: name

/-- The path up to its last slash. -/
def parentPath (path : Text) : Text := (path.reverse.dropWhile (· ≠ '/')).reverse

theorem names_ne_nil (s : Text) : names s ≠ [] := Text.pieces_ne_nil _ s

theorem names_append_slash (s t : Text) : names (s ++ '/' :: t) = names s ++ names t :=
  Text.pieces_append rfl s t

theorem names_append_slashes (s : Text) (n : Nat) :
    names (s ++ List.replicate n '/') = names s ++ List.replicate n [] := by
  induction n with
  | zero => simp
  | succ n ih =>
    rw [List.replicate_succ', ← List.append_assoc, names_append_slash, ih, List.append_assoc,
      List.replicate_succ']
    rfl

theorem stripSlashes_append (path : Text) :
    ∃ n, path = stripSlashes path ++ List.replicate n '/' := by
  have hall : ∀ c ∈ path.reverse.takeWhile (· = '/'), c = '/' := fun c hc => by
    simpa using List.mem_takeWhile_imp hc
  refine ⟨(path.reverse.takeWhile (· = '/')).length, ?_⟩
  have hparts := congrArg List.reverse
    (List.takeWhile_append_dropWhile (p := (· = '/')) (l := path.reverse))
  rw [List.eq_replicate_of_mem hall, List.reverse_append, List.reverse_reverse,
    List.reverse_replicate] at hparts
  exact hparts.symm

theorem baseName_entryPath {name : Text} (h : '/' ∉ name) (path : Text) :
    baseName (entryPath path name) = name := by
  have hall : ∀ c ∈ name.reverse, decide (c ≠ '/') = true := fun c hc =>
    decide_eq_true fun he => h (he ▸ List.mem_reverse.mp hc)
  rw [baseName, entryPath, List.reverse_append, List.reverse_cons, List.append_assoc,
    List.takeWhile_append_of_pos hall]
  simp

theorem parentPath_entryPath {name : Text} (h : '/' ∉ name) (path : Text) :
    parentPath (entryPath path name) = entryPath path [] := by
  have hall : ∀ c ∈ name.reverse, decide (c ≠ '/') = true := fun c hc =>
    decide_eq_true fun he => h (he ▸ List.mem_reverse.mp hc)
  rw [parentPath, entryPath, List.reverse_append, List.reverse_cons, List.append_assoc,
    List.dropWhile_append_of_pos hall]
  simp [entryPath]

theorem stripSlashes_entryPath {name : Text} (hne : name ≠ []) (h : '/' ∉ name) (path : Text) :
    stripSlashes (entryPath path name) = entryPath path name := by
  obtain ⟨before, last, rfl⟩ := List.eq_nil_or_concat name |>.resolve_left hne
  have hlast : last ≠ '/' := fun he => h (by simp [he])
  simp [stripSlashes, entryPath, hlast]

namespace Tree

variable {tree : Tree}

theorem target_eq_ok_iff {path : Text} {t : Target} :
    tree.target false path = .ok t ↔ pathFault? path = none ∧
      ∃ n ≤ maxLinks, Leads tree (tree.start path) (names path) n t := by
  rw [← walk_eq_ok_iff, target]
  cases pathFault? path with
  | some fault => simp
  | none => simp

theorem ne_nil_of_pathFault? {path : Text} (h : pathFault? path = none) : path ≠ [] := by
  rintro rfl
  cases h

theorem isDirectory_iff {path : Text} :
    tree.isDirectory path = true ↔ ∃ l, tree.target false path = .ok (.directory l) := by
  unfold isDirectory
  split
  · rename_i l h
    simp [h]
  · rename_i hother
    refine ⟨fun h => absurd h Bool.false_ne_true, ?_⟩
    rintro ⟨l, h⟩
    exact absurd h (hother l)

theorem start_entryPath {path : Text} (hne : path ≠ []) (name : Text) :
    tree.start (entryPath path name) = tree.start path := by
  obtain ⟨n, hn⟩ := stripSlashes_append path
  have hhead : (entryPath path name).head? = path.head? := by
    unfold entryPath
    cases hstrip : stripSlashes path with
    | nil =>
      rw [hstrip, List.nil_append] at hn
      cases n with
      | zero => exact absurd hn hne
      | succ n => rw [hn]; rfl
    | cons c cs => rw [hn, hstrip]; rfl
  unfold start isAbsolute
  rw [hhead]

theorem leads_empty {dir : Location} {n k : Nat} {t : Target}
    (h : Leads tree dir (List.replicate k []) n t) : n = 0 ∧ t = .directory dir := by
  induction k with
  | zero =>
    cases h
    exact ⟨rfl, rfl⟩
  | succ k ih => exact ih ((leads_dots rfl).mp h)

theorem Leads.stripSlashes {dir l : Location} {path : Text} {n : Nat}
    (h : Leads tree dir (names path) n (.directory l)) :
    Leads tree dir (names (File.stripSlashes path)) n (.directory l) := by
  obtain ⟨k, hk⟩ := stripSlashes_append path
  rw [hk, names_append_slashes] at h
  cases k with
  | zero => simpa using h
  | succ k =>
    obtain ⟨l', n', m, rfl, hpath, hempty⟩ := h.split (by simp)
    obtain ⟨rfl, hl⟩ := leads_empty hempty
    rw [hl]
    exact hpath

/-- An entry of a directory leads where its name leads from the directory. -/
theorem leads_entryPath {path : Text} {l : Location} {n : Nat} (hne : path ≠ [])
    (h : Leads tree (tree.start path) (names path) n (.directory l)) {name : Text} {k : Nat}
    {t : Target} :
    Leads tree (tree.start (entryPath path name)) (names (entryPath path name)) k t ↔
      ∃ m, k = n + m ∧ Leads tree l (names name) m t := by
  rw [start_entryPath hne, entryPath, names_append_slash]
  constructor
  · exact h.stripSlashes.behind (names_ne_nil name)
  · rintro ⟨m, rfl, hm⟩
    exact h.stripSlashes.append hm

/-- The parent of an entry is the directory. -/
theorem realLocation_parent {path : Text} {l : Location}
    (h : tree.target false path = .ok (.directory l)) :
    tree.realLocation (entryPath path []) = l := by
  obtain ⟨hpath, n, _, hleads⟩ := target_eq_ok_iff.mp h
  have hhere : Leads tree l (names []) 0 (.directory l) := .dots rfl (.here l)
  exact realLocation_of_leads
    ((leads_entryPath (ne_nil_of_pathFault? hpath) hleads).mpr ⟨0, rfl, hhere⟩)

theorem realLocation_of_target {path : Text} {t : Target} (h : tree.target false path = .ok t) :
    tree.realLocation path = t.location := by
  obtain ⟨_, n, _, hleads⟩ := target_eq_ok_iff.mp h
  exact realLocation_of_leads hleads

/-- On two ways to one directory a name leads to the same target, if it can be followed on both. -/
theorem target_entryPath_unique {path path' name : Text} {l : Location} {t u : Target}
    (h : tree.target false path = .ok (.directory l))
    (h' : tree.target false path' = .ok (.directory l))
    (ht : tree.target false (entryPath path name) = .ok t)
    (hu : tree.target false (entryPath path' name) = .ok u) : t = u := by
  obtain ⟨hpath, n, _, hleads⟩ := target_eq_ok_iff.mp h
  obtain ⟨hpath', n', _, hleads'⟩ := target_eq_ok_iff.mp h'
  obtain ⟨_, k, _, ht⟩ := target_eq_ok_iff.mp ht
  obtain ⟨_, k', _, hu⟩ := target_eq_ok_iff.mp hu
  obtain ⟨m, _, hm⟩ := (leads_entryPath (ne_nil_of_pathFault? hpath) hleads).mp ht
  obtain ⟨m', _, hm'⟩ := (leads_entryPath (ne_nil_of_pathFault? hpath') hleads').mp hu
  exact (hm.unique hm').2

end Tree

end MessageHarvest.File
