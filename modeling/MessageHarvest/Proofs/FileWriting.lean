import MessageHarvest.Proofs.PathResolution

/-! # Files after they were written

A path can be opened for writing where it leads to a file, or to a place in a
directory where nothing stands yet (`writeLocation_eq_ok_iff`). Writing puts a
file at that place and leaves every other node alone (`Updated`). On its way
through directories and links the path does not pass the place where it ends,
so the way is the same afterwards: the path leads to the file that was written
(`Updated.target`), and can be opened for writing again. -/
namespace MessageHarvest.File.Tree

variable {tree : Tree}

/-! ## One node -/

theorem lookup_replace (nodes : List (Location × Node)) (l k : Location) (node : Node) :
    (nodes.map fun entry => if entry.1 = l then (l, node) else entry).lookup k =
      if k = l then (nodes.lookup l).map fun _ => node else nodes.lookup k := by
  induction nodes with
  | nil => simp
  | cons entry nodes ih =>
    obtain ⟨first, old⟩ := entry
    rw [List.map_cons]
    by_cases hfirst : first = l
    · subst hfirst
      by_cases hk : k = first
      · simp [hk]
      · have hne : (k == first) = false := by simpa using hk
        simp [List.lookup_cons, ih, hk, hne]
    · by_cases hk : k = first
      · simp [hk, hfirst]
      · have hne : (k == first) = false := by simpa using hk
        have hne' : (l == first) = false := by simpa using Ne.symm hfirst
        simp [List.lookup_cons, ih, hfirst, hne, hne']

/-- What is put at a location stands there, and elsewhere stands what stood there before. -/
theorem node?_put {l : Location} (hl : l ≠ []) (node : Node) (k : Location) :
    (tree.put l node).node? k = if k = l then some node else tree.node? k := by
  unfold node? put
  by_cases hroot : k = []
  · simp [hroot, Ne.symm hl]
  · simp only [if_neg hroot]
    split
    · rename_i hsome
      obtain ⟨old, hold⟩ := Option.isSome_iff_exists.mp hsome
      simp [lookup_replace, hold]
    · rename_i hnone
      rw [Option.not_isSome_iff_eq_none] at hnone
      rw [List.lookup_append]
      by_cases hk : k = l
      · simp [hk, hnone]
      · have hne : (k == l) = false := by simpa using hk
        simp [hk, List.lookup_cons, hne]

/-- The second tree is the first with a file of these bytes at a location. -/
structure Updated (tree : Tree) (l : Location) (bytes : List UInt8) (tree' : Tree) : Prop where
  here : tree'.node? l = some (.file bytes)
  elsewhere : ∀ k, k ≠ l → tree'.node? k = tree.node? k
  workDir : tree'.workDir = tree.workDir
  locked : tree'.locked = tree.locked

theorem updated_put (tree : Tree) {l : Location} (hl : l ≠ []) (bytes : List UInt8) :
    Updated tree l bytes (tree.put l (.file bytes)) where
  here := by rw [node?_put hl, if_pos rfl]
  elsewhere k hk := by rw [node?_put hl, if_neg hk]
  workDir := by
    unfold put
    split <;> rfl
  locked := by
    unfold put
    split <;> rfl

theorem Updated.trans {tree' tree'' : Tree} {l : Location} {bytes bytes' : List UInt8}
    (h : Updated tree l bytes tree') (h' : Updated tree' l bytes' tree'') :
    Updated tree l bytes' tree'' where
  here := h'.here
  elsewhere k hk := (h'.elsewhere k hk).trans (h.elsewhere k hk)
  workDir := h'.workDir.trans h.workDir
  locked := h'.locked.trans h.locked

/-! ## Where a path can be opened for writing -/

/-- A place where a file can be written, with the content that it has if it is there. -/
def Target.ofFile (l : Location) : Option (List UInt8) → Target
  | none => .absent l
  | some bytes => .file l bytes

/-- Names are followed for writing as for reading, unless they end in a slash. -/
theorem advance_creating (tree : Tree) (dir : Location) (path : List Text) :
    tree.advance true dir path = tree.advance false dir path ∨
      tree.advance true dir path = .error .isDirectory ∧ path.getLast? = some [] := by
  induction path generalizing dir with
  | nil => exact .inl rfl
  | cons name rest ih =>
    have hlast : rest.getLast? = some [] → (name :: rest).getLast? = some [] := by
      intro h
      rw [List.getLast?_cons, h]
      rfl
    cases hname : isDots name with
    | true =>
      unfold isDots at hname
      rw [advance, advance, if_pos hname, if_pos hname]
      exact (ih _).imp_right fun h => ⟨h.1, hlast h.2⟩
    | false =>
      unfold isDots at hname
      have hread : ¬ (false && decide (rest ≠ []) && rest.all List.isEmpty) = true := by simp
      rw [advance, advance, if_neg (Bool.eq_false_iff.mp hname),
        if_neg (Bool.eq_false_iff.mp hname), if_neg hread]
      split
      · rename_i hslash
        simp only [Bool.true_and, Bool.and_eq_true, decide_eq_true_eq, List.all_eq_true] at hslash
        refine .inr ⟨rfl, hlast ?_⟩
        rw [List.getLast?_eq_some_getLast hslash.1]
        exact congrArg some (List.isEmpty_iff.mp (hslash.2 _ (List.getLast_mem hslash.1)))
      · split
        · exact .inl rfl
        · split
          · exact .inl rfl
          · exact (ih _).imp_right fun h => ⟨h.1, hlast h.2⟩
          · exact .inl rfl
          · exact .inl rfl

theorem walk_step (creating : Bool) (links : Nat) (dir : Location) (path : List Text) :
    tree.walk creating links dir path = match tree.advance creating dir path with
      | .error fault => .error fault
      | .ok (.ends target) => .ok target
      | .ok (.link start left) =>
        match links with
        | 0 => .error .tooManyLinks
        | links + 1 => tree.walk creating links start left :=
  walk.eq_def tree creating links dir path

/-- Names that end in a slash lead to a directory if anywhere. -/
theorem Leads.directory_of_slash {dir : Location} {path : List Text} {n : Nat} {t : Target}
    (h : Leads tree dir path n t) (hlast : path.getLast? = some []) : ∃ l, t = .directory l := by
  obtain ⟨init, rfl⟩ := List.getLast?_eq_some_iff.mp hlast
  obtain ⟨l, _, _, _, _, hempty⟩ := h.split (List.cons_ne_nil _ _)
  exact ⟨l, (leads_empty (k := 1) hempty).2⟩

/-- A path that cannot be opened for writing although it can be for reading leads to a directory. -/
theorem walk_creating (tree : Tree) (links : Nat) (dir : Location) (path : List Text) :
    tree.walk true links dir path = tree.walk false links dir path ∨
      tree.walk true links dir path = .error .isDirectory ∧
        ∀ t, tree.walk false links dir path = .ok t → ∃ l, t = .directory l := by
  induction links generalizing dir path with
  | zero =>
    rcases advance_creating tree dir path with h | ⟨h, hlast⟩
    · exact .inl (by rw [walk_step, walk_step false, h])
    · refine .inr ⟨by rw [walk_step, h], fun t ht => ?_⟩
      obtain ⟨n, _, hleads⟩ := leads_of_walk ht
      exact hleads.directory_of_slash hlast
  | succ links ih =>
    rcases advance_creating tree dir path with h | ⟨h, hlast⟩
    · rw [walk_step, walk_step false, h]
      split
      · exact .inl rfl
      · exact .inl rfl
      · exact ih _ _
    · refine .inr ⟨by rw [walk_step, h], fun t ht => ?_⟩
      obtain ⟨n, _, hleads⟩ := leads_of_walk ht
      exact hleads.directory_of_slash hlast

theorem target_creating (tree : Tree) (path : Text) :
    tree.target true path = tree.target false path ∨
      tree.target true path = .error .isDirectory ∧
        ∀ t, tree.target false path = .ok t → ∃ l, t = .directory l := by
  unfold target
  split
  · exact .inl rfl
  · exact walk_creating tree maxLinks (tree.start path) (names path)

/-- A path can be opened for writing where it leads to a file or to nothing. -/
theorem writeLocation_eq_ok_iff {path : Text} {l : Location} :
    tree.writeLocation path = .ok l ↔ ∃ old, tree.target false path = .ok (.ofFile l old) := by
  unfold writeLocation
  rcases target_creating tree path with h | ⟨h, hdirectory⟩
  · rw [h]
    cases htarget : tree.target false path with
    | error fault => simp
    | ok t => cases t <;> simp [Target.ofFile, Option.exists]
  · rw [h]
    constructor
    · intro herror
      cases herror
    · rintro ⟨old, ht⟩
      obtain ⟨k, hk⟩ := hdirectory _ ht
      cases old <;> cases hk

/-! ## The way to a file that is written -/

theorem Leads.node?_ofFile {dir l : Location} {path : List Text} {n : Nat}
    {old : Option (List UInt8)} (h : Leads tree dir path n (.ofFile l old)) :
    l ≠ [] ∧ tree.node? l = old.map .file := by
  generalize ht : Target.ofFile l old = t at h
  induction h with
  | here dir => cases old <;> cases ht
  | dots _ _ ih => exact ih ht
  | down _ _ ih => exact ih ht
  | link _ _ ih => exact ih ht
  | file hfind =>
    cases old <;> cases ht
    exact ⟨by simp, hfind.node⟩
  | absent hfind =>
    cases old <;> cases ht
    exact ⟨by simp, hfind.node⟩

variable {tree' : Tree} {l : Location} {old : Option (List UInt8)} {bytes : List UInt8}

/-- Directories and links stand where they stood, since a file is written where none of them is. -/
theorem Updated.finds (h : Updated tree l bytes tree') (hl : tree.node? l = old.map .file)
    {dir : Location} {name : Text} {node : Node} (hfind : tree.Finds dir name (some node))
    (hnode : ∀ content, node ≠ .file content) : tree'.Finds dir name (some node) := by
  refine ⟨hfind.proper, hfind.short, (h.elsewhere _ ?_).trans hfind.node⟩
  intro hhere
  have hsame := hfind.node
  rw [hhere, hl] at hsame
  obtain ⟨content, _, hcontent⟩ := Option.map_eq_some_iff.mp hsame
  exact hnode content hcontent.symm

theorem Updated.leads (h : Updated tree l bytes tree') {dir : Location} {path : List Text} {n : Nat}
    (hleads : Leads tree dir path n (.ofFile l old)) : Leads tree' dir path n (.file l bytes) := by
  have hl := hleads.node?_ofFile.2
  generalize ht : Target.ofFile l old = t at hleads
  induction hleads with
  | here dir => cases old <;> cases ht
  | dots hname _ ih => exact .dots hname (ih ht)
  | down hfind _ ih => exact .down (h.finds hl hfind (fun _ hfile => by cases hfile)) (ih ht)
  | link hfind _ ih => exact .link (h.finds hl hfind (fun _ hfile => by cases hfile)) (ih ht)
  | file hfind =>
    cases old <;> cases ht
    exact .file ⟨hfind.proper, hfind.short, h.here⟩
  | absent hfind =>
    cases old <;> cases ht
    exact .file ⟨hfind.proper, hfind.short, h.here⟩

/-- The path by which a file was opened leads to what was written. -/
theorem Updated.target (h : Updated tree l bytes tree') {path : Text}
    (hpath : tree.writeLocation path = .ok l) : tree'.target false path = .ok (.file l bytes) := by
  obtain ⟨old, htarget⟩ := writeLocation_eq_ok_iff.mp hpath
  obtain ⟨hpath, n, hle, hleads⟩ := target_eq_ok_iff.mp htarget
  have hstart : tree'.start path = tree.start path := by
    unfold start
    rw [h.workDir]
  refine target_eq_ok_iff.mpr ⟨hpath, n, hle, ?_⟩
  rw [hstart]
  exact h.leads hleads

/-- The path can be opened for writing again, at the same location. -/
theorem Updated.writeLocation (h : Updated tree l bytes tree') {path : Text}
    (hpath : tree.writeLocation path = .ok l) : tree'.writeLocation path = .ok l :=
  writeLocation_eq_ok_iff.mpr ⟨some bytes, h.target hpath⟩

/-! ## Reading and writing -/

theorem read_eq_ok_iff {path : Text} :
    tree.read path = .ok bytes ↔ ∃ l, tree.target false path = .ok (.file l bytes) := by
  unfold read
  cases htarget : tree.target false path with
  | error fault => simp
  | ok t => cases t <;> simp

/-- A file that can be read can be written. -/
theorem writeLocation_of_read {path : Text} (h : tree.read path = .ok bytes) :
    ∃ l, tree.writeLocation path = .ok l ∧ tree.node? l = some (.file bytes) := by
  obtain ⟨l, htarget⟩ := read_eq_ok_iff.mp h
  obtain ⟨_, n, _, hleads⟩ := target_eq_ok_iff.mp htarget
  change Leads tree _ _ n (.ofFile l (some bytes)) at hleads
  exact ⟨l, writeLocation_eq_ok_iff.mpr ⟨some bytes, htarget⟩, hleads.node?_ofFile.2⟩

/-- What is found at the place where a file is to be written is also what the path leads to. -/
theorem node?_of_writeLocation {path : Text} (h : tree.writeLocation path = .ok l) :
    l ≠ [] ∧ (tree.pathExists path = false ∧ tree.node? l = none ∨
      tree.pathExists path = true ∧
        ∃ bytes, tree.node? l = some (.file bytes) ∧ tree.read path = .ok bytes) := by
  obtain ⟨old, htarget⟩ := writeLocation_eq_ok_iff.mp h
  obtain ⟨_, n, _, hleads⟩ := target_eq_ok_iff.mp htarget
  obtain ⟨hne, hnode⟩ := hleads.node?_ofFile
  refine ⟨hne, ?_⟩
  cases old with
  | none => exact .inl ⟨by simp [pathExists, isDirectory, isFile, htarget, Target.ofFile], hnode⟩
  | some bytes =>
    exact .inr ⟨by simp [pathExists, isDirectory, isFile, htarget, Target.ofFile], bytes, hnode,
      read_eq_ok_iff.mpr ⟨l, htarget⟩⟩

theorem content_of_file (h : tree.node? l = some (.file bytes)) : tree.content l = bytes := by
  unfold content
  rw [h]

theorem content_of_none (h : tree.node? l = none) : tree.content l = [] := by
  unfold content
  rw [h]

theorem Updated.extend (h : Updated tree l bytes tree') (hl : l ≠ []) (more : List UInt8) :
    Updated tree l (bytes ++ more) (tree'.extend l more) := by
  unfold Tree.extend
  rw [content_of_file h.here]
  exact h.trans (updated_put tree' hl (bytes ++ more))

/-- A file that is opened and written holds its old content, if that is kept, and the new one. -/
theorem openFile_eq {path : Text} (h : tree.writeLocation path = .ok l) (append : Bool) :
    ∃ opened, tree.openFile path append = .ok (opened, l) ∧
      Updated tree l (if append then tree.content l else []) opened := by
  refine ⟨_, by rw [openFile, h]; rfl, ?_⟩
  exact updated_put tree (node?_of_writeLocation h).1 _

/-! ## Paths that hold a NUL -/

theorem advance_ne_embeddedNul (creating : Bool) (dir : Location) (path : List Text) :
    tree.advance creating dir path ≠ .error .embeddedNul := by
  induction path generalizing dir with
  | nil => simp [advance]
  | cons name rest ih =>
    rw [advance]
    repeat' split
    all_goals first
      | exact ih _
      | simp

theorem walk_ne_embeddedNul (creating : Bool) (links : Nat) (dir : Location) (path : List Text) :
    tree.walk creating links dir path ≠ .error .embeddedNul := by
  induction links generalizing dir path with
  | zero =>
    rw [walk_step]
    split
    · rename_i fault hfault
      intro h
      cases h
      exact advance_ne_embeddedNul creating dir path hfault
    · simp
    · simp
  | succ links ih =>
    rw [walk_step]
    split
    · rename_i fault hfault
      intro h
      cases h
      exact advance_ne_embeddedNul creating dir path hfault
    · simp
    · exact ih _ _

/-- Only what the path itself holds is refused in this way. -/
theorem target_eq_embeddedNul_iff (tree : Tree) (creating : Bool) {path : Text} :
    tree.target creating path = .error .embeddedNul ↔ '\x00' ∈ path := by
  rw [target, pathFault?]
  by_cases hempty : path = []
  · simp [hempty]
  · by_cases hnul : '\x00' ∈ path
    · simp [hempty, hnul]
    · by_cases hlong : maxPathBytes < byteLength path
      · simp [hempty, hnul, hlong]
      · simp [hempty, hnul, hlong, walk_ne_embeddedNul]

theorem embeddedNul_of_read {path : Text} {cause : Error} (h : tree.read path = .error cause) :
    cause.fault = .embeddedNul ↔ '\x00' ∈ path := by
  rw [← target_eq_embeddedNul_iff tree false]
  unfold read at h
  split at h
  all_goals cases h
  all_goals simp_all

theorem embeddedNul_of_writeLocation {path : Text} {cause : Error}
    (h : tree.writeLocation path = .error cause) :
    cause.fault = .embeddedNul ↔ '\x00' ∈ path := by
  rw [← target_eq_embeddedNul_iff tree true]
  unfold writeLocation at h
  split at h
  all_goals cases h
  all_goals simp_all

end MessageHarvest.File.Tree
