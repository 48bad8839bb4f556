import MessageHarvest.File.Resolve
import MessageHarvest.Proofs.TextParts

/-! # Paths that can be resolved

The system is asked about the names of a path one after the other, so a path
without a NUL whose characters all have an encoding can be resolved
(`Tree.reference_of_nameable`). Whatever can be resolved has its real location
(`Tree.reference_eq_ok`). -/
namespace MessageHarvest.File

/-- The system can be asked about every part of the path. -/
def Nameable (chars : Charset) (path : Text) : Prop :=
  ∀ c ∈ path, chars.has c = true ∧ c ≠ '\x00'

theorem Nameable.nameFault?_eq_none {chars : Charset} {name : Text} (h : Nameable chars name) :
    nameFault? chars name = none := by
  have hchars : chars.lacking? name = none :=
    Charset.lacking?_eq_none_iff.mpr fun c hc => (h c hc).1
  have hnul : name.contains '\x00' = false := by
    simpa using fun hmem => (h _ hmem).2 rfl
  rw [nameFault?, hchars]
  dsimp only
  rw [hnul]
  rfl

theorem Nameable.stepFault?_eq_none {chars : Charset} {path name : Text} (h : Nameable chars path)
    (hname : name ∈ names path) : Tree.stepFault? chars name = none := by
  have hnameable : Nameable chars name := fun c hc => h c (Text.mem_of_mem_pieces hname hc)
  rw [Tree.stepFault?, hnameable.nameFault?_eq_none]
  split <;> rfl

namespace Tree

variable {chars : Charset} {tree : Tree}

theorem exists_resolveNames {path : List Text} (h : ∀ name ∈ path, stepFault? chars name = none)
    (dir : Location) : ∃ l, resolveNames chars tree dir path = .ok l := by
  induction path generalizing dir with
  | nil => exact ⟨dir, rfl⟩
  | cons name path ih =>
    obtain ⟨hname, hpath⟩ := List.forall_mem_cons.mp h
    rw [resolveNames, hname]
    cases tree.linkTarget? dir name with
    | none => exact ih hpath _
    | some target =>
      dsimp only
      generalize tree.realWalk _ _ _ (names target) = found
      split
      · exact ih hpath _
      · exact ⟨_, rfl⟩

/-- No link is being followed at the start, so none leads to itself there. -/
theorem realWalk_of_resolveNames {dir l : Location} {path : List Text}
    (h : resolveNames chars tree dir path = .ok l) :
    (tree.realWalk (tree.nodes.length + 1) [] dir path).1 = l := by
  induction path generalizing dir with
  | nil =>
    cases h
    rfl
  | cons name path ih =>
    rw [resolveNames] at h
    cases hname : stepFault? chars name with
    | some fault =>
      rw [hname] at h
      cases h
    | none =>
      rw [hname] at h
      rw [realWalk, realFollow]
      cases hlink : tree.linkTarget? dir name with
      | none =>
        rw [hlink] at h
        exact ih h
      | some target =>
        rw [hlink] at h
        dsimp only at h ⊢
        rw [if_neg List.not_mem_nil]
        generalize tree.realWalk _ _ _ (names target) = found at h ⊢
        split at h
        · rename_i hfound
          rw [if_pos hfound]
          exact ih h
        · rename_i hfound
          rw [if_neg hfound]
          exact Except.ok.inj h

theorem realLocation_of_resolve {path : Text} {l : Location}
    (h : tree.resolve chars path = .ok l) : tree.realLocation path = l :=
  realWalk_of_resolveNames h

theorem exists_resolve (tree : Tree) {path : Text} (h : Nameable chars path) :
    ∃ l, tree.resolve chars path = .ok l :=
  exists_resolveNames (fun _ hname => h.stepFault?_eq_none hname) _

/-- A reference that is found is the one from real location to real location. -/
theorem reference_eq_ok {base path shown : Text}
    (h : tree.reference chars base path = .ok shown) : shown = tree.relativePath base path := by
  rw [reference] at h
  cases hpath : tree.resolve chars path with
  | error fault =>
    rw [hpath] at h
    cases h
  | ok there =>
    cases hbase : tree.resolve chars base with
    | error fault =>
      rw [hpath, hbase] at h
      cases h
    | ok here =>
      rw [hpath, hbase] at h
      rw [relativePath, realLocation_of_resolve hpath, realLocation_of_resolve hbase]
      exact (Except.ok.inj h).symm

theorem reference_of_nameable {base path : Text} (hpath : Nameable chars path)
    (hbase : Nameable chars base) : ∃ shown, tree.reference chars base path = .ok shown := by
  obtain ⟨there, hthere⟩ := exists_resolve tree hpath
  obtain ⟨here, hhere⟩ := exists_resolve tree hbase
  rw [reference, hthere, hhere]
  exact ⟨_, rfl⟩

end Tree

end MessageHarvest.File
