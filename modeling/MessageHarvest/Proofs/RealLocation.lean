import MessageHarvest.Proofs.TextParts
import MessageHarvest.File.Tree
import Mathlib.Data.List.Basic

/-! # Where the names of a real location come from

Finding the real location of a path puts links in the place of names, many
times over. The names that it ends with all come from the path, from the
working directory, or from the target of a link, so whatever holds of those
names holds of the result. -/
namespace MessageHarvest

namespace File

/-- What holds of the root and is kept by a step along any name that `Q` holds of. -/
structure Location.Kept (I : Location → Prop) (Q : Text → Prop) : Prop where
  root : I []
  step : ∀ {dir : Location} {name : Text}, I dir → Q name → I (dir.step name)

section Kept

variable {I : Location → Prop} {P Q : Text → Prop}

theorem Location.kept_forall_mem (P : Text → Prop) : Kept (fun l => ∀ n ∈ l, P n) P where
  root := by simp
  step := by
    intro dir name hd hn
    unfold Location.step
    split
    · exact hd
    · split
      · exact fun n h => hd n (List.dropLast_subset dir h)
      · intro n h
        rcases List.mem_append.mp h with h | h
        · exact hd n h
        · exact List.mem_singleton.mp h ▸ hn

theorem Location.Kept.foldl (hk : Kept I Q) {dir : Location} {path : List Text} (hd : I dir)
    (hp : ∀ n ∈ path, Q n) : I (path.foldl Location.step dir) := by
  induction path generalizing dir with
  | nil => exact hd
  | cons name path ih =>
    exact ih (hk.step hd (hp name List.mem_cons_self))
      (fun n h => hp n (List.mem_cons_of_mem name h))

theorem Location.Kept.follow (hk : Kept I Q) {dir : Location} {path : List Text} (hd : I dir)
    (hp : ∀ n ∈ path, Q n) : I (dir.follow path) := by
  unfold Location.follow
  split
  · exact hk.foldl hk.root hp
  · exact hk.foldl hd hp

namespace Tree

variable {tree : Tree}

/-- The targets of all links of the tree are made of names that `P` holds of. -/
def LinksHold (P : Text → Prop) (tree : Tree) : Prop :=
  ∀ l target, (l, Node.link target) ∈ tree.nodes → ∀ n ∈ names target, P n

theorem mem_nodes_of_linkTarget? {dir : Location} {name target : Text}
    (h : tree.linkTarget? dir name = some target) :
    (dir ++ [name], Node.link target) ∈ tree.nodes := by
  unfold linkTarget? at h
  split at h
  · cases h
  · split at h
    · rename_i t hnode
      obtain rfl := Option.some.inj h
      unfold node? at hnode
      split at hnode
      · cases hnode
      · obtain ⟨before, after, hnodes, _⟩ := List.lookup_eq_some_iff.mp hnode
        simp [hnodes]
    · cases h

end Tree

variable {tree : Tree}

theorem Location.Kept.realFollow (hk : Kept I Q) {active : List Location}
    {resolve : Location → Location → List Text → Location × Bool} (hl : tree.LinksHold Q)
    (hr : ∀ here dir path, I here → I dir → (∀ n ∈ path, Q n) → I (resolve here dir path).1)
    {dir : Location} {path : List Text} (hd : I dir) (hp : ∀ n ∈ path, Q n) :
    I (tree.realFollow active resolve dir path).1 := by
  induction path generalizing dir with
  | nil => exact hd
  | cons name path ih =>
    have hhere := hk.step hd (hp name List.mem_cons_self)
    have hpath : ∀ n ∈ path, Q n := fun n h => hp n (List.mem_cons_of_mem name h)
    rw [Tree.realFollow]
    split
    · exact ih hhere hpath
    · rename_i target hlink
      split
      · exact hk.follow hhere hpath
      · have hstart : I (if isAbsolute target then [] else dir) := by
          split
          · exact hk.root
          · exact hd
        have hfound := hr (dir.step name) _ (names target) hhere hstart
          (hl _ target (Tree.mem_nodes_of_linkTarget? hlink))
        generalize (if isAbsolute target then [] else dir) = start at hfound ⊢
        dsimp only
        split
        · exact ih hfound hpath
        · exact hk.follow hfound hpath

theorem Location.Kept.realWalk (hk : Kept I Q) (hl : tree.LinksHold Q) (depth : Nat)
    (active : List Location) {dir : Location} {path : List Text} (hd : I dir)
    (hp : ∀ n ∈ path, Q n) : I (tree.realWalk depth active dir path).1 := by
  induction depth generalizing active dir path with
  | zero => exact hk.realFollow hl (fun _ _ _ hhere _ _ => hhere) hd hp
  | succ depth ih =>
    exact hk.realFollow hl (fun here _ _ _ hd hp => ih (here :: active) hd hp) hd hp

/-- What is kept along the names of the path and of the links of the tree holds of the real
location, if it holds of the working directory. -/
theorem Location.Kept.realLocation (hk : Kept I Q) (hl : tree.LinksHold Q) (hw : I tree.workDir)
    {path : Text} (hp : ∀ n ∈ names path, Q n) : I (tree.realLocation path) := by
  have hstart : I (tree.start path) := by
    unfold Tree.start
    split
    · exact hk.root
    · exact hw
  exact hk.realWalk hl _ [] hstart hp

/-- What holds of the names of the path, the working directory and the links of the tree holds of
the names of the real location. -/
theorem Tree.forall_mem_realLocation (hl : tree.LinksHold P) (hw : ∀ n ∈ tree.workDir, P n)
    {path : Text} (hp : ∀ n ∈ names path, P n) : ∀ n ∈ tree.realLocation path, P n :=
  (Location.kept_forall_mem P).realLocation hl hw hp

end Kept

theorem Location.mem_relativeTo {base location : Location} {n : Text}
    (h : n ∈ base.relativeTo location) : n = "..".toList ∨ n ∈ location := by
  fun_induction relativeTo base location with
  | case1 b base location ih =>
    rcases ih h with h | h
    · exact .inl h
    · exact .inr (List.mem_cons_of_mem _ h)
  | case2 b base n' location _ =>
    rcases List.mem_append.mp h with h | h
    · obtain ⟨_, _, rfl⟩ := List.mem_map.mp h
      exact .inl rfl
    · exact .inr h
  | case3 base location _ =>
    rcases List.mem_append.mp h with h | h
    · obtain ⟨_, _, rfl⟩ := List.mem_map.mp h
      exact .inl rfl
    · exact .inr h

end File

end MessageHarvest
