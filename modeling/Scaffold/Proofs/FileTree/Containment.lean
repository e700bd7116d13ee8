import Scaffold.Proofs.FileTree.NamedPaths

/-!
# What stays below a directory

The file that a path leads to lies below the directory that the path was joined to when the path stays
below.

A write that the system refuses may have created directories on the way and changes nothing else, so the
only file that any write creates or changes is the one that its path leads to.
-/

namespace Scaffold
namespace Path

section StaysBelow

variable {base r : Path}

theorem staysBelow_ofNames (names : List Name) : (ofNames names).StaysBelow where
  relative := by
    cases names with
    | nil => decide
    | cons name names => exact (solid_ofNames (List.cons_ne_nil _ _)).relative
  descending := descending_ofNames names

/-- Behind a solid path that stays below, another one stays below exactly when it does on its own. -/
theorem Solid.staysBelow_join_iff
    (solid : base.Solid)
    (below : base.StaysBelow) :
    (base.join r).StaysBelow ↔ r.StaysBelow := by
  constructor
  · rintro ⟨relative, descending⟩
    rw [solid.isAbsolute_join] at relative
    obtain ⟨front, whole, -⟩ := steps_join base relative
    exact ⟨relative, fun step later => descending step (by simp [whole, later])⟩
  · rintro ⟨relative, descending⟩
    obtain ⟨front, whole, ends⟩ := steps_join base relative
    have earlier : ∀ step ∈ front, step ≠ .up := by
      intro step member
      apply below.descending step
      rcases ends with same | slash
      · rwa [same]
      · rw [slash]
        exact List.mem_append_left _ member
    refine ⟨by rw [solid.isAbsolute_join, relative], ?_⟩
    rw [whole]
    exact List.forall_mem_append.2 ⟨earlier, descending⟩

end StaysBelow

end Path

namespace FileTree

/-- A location lies below the directory that a path leads to. -/
def LiesBelow
    (tree : FileTree)
    (base : Path)
    (location : Location) : Prop :=
  ∃ root names, tree.trace base = .ok root ∧ names ≠ [] ∧ location = root ++ names

section Containment

variable {tree old new : FileTree} {base relative p : Path} {location : Location}

/-- A file lies below the directory when the path to it from there stays below. -/
theorem liesBelow_of_locate
    {bytes : ByteArray}
    (below : relative.StaysBelow)
    (leads : tree.locate (base.join relative) = .ok location)
    (holds : tree.find? location = some (.file bytes)) :
    tree.LiesBelow base location := by
  obtain ⟨root, toRoot, onwards⟩ := (trace_join_eq_ok below.relative).1 (locate_eq_ok.1 leads).2.1
  obtain ⟨names, rfl, -⟩ := exists_append_of_follow below.descending onwards
  refine ⟨root, names, toRoot, ?_, rfl⟩
  rintro rfl
  -- the first move leaves a directory, so the file cannot be where the moves start
  obtain ⟨step, rest, moves⟩ := List.exists_cons_of_ne_nil (Path.steps_ne_nil relative)
  have directory := (follow_cons_eq_ok.1 (moves ▸ onwards)).1
  rw [List.append_nil, directory] at holds
  cases holds

/-- Where directories are only added, nothing is taken away. -/
theorem Extends.persists
    (h : Extends old new) :
    Persists old new where
  working := h.working
  stands location here := by
    obtain ⟨entry, stood⟩ := Option.isSome_iff_exists.1 here
    simp [h.find?_eq stood]
  directory location here := by
    obtain ⟨entry, stood⟩ := Option.isSome_iff_exists.1 here
    rw [stood, h.find?_eq stood]

theorem replaceFile_of_error
    {bytes : ByteArray}
    {fault : SystemFault}
    (refused : (tree.replaceFile p bytes).2 = .error fault) :
    (tree.replaceFile p bytes).1 = tree := by
  unfold replaceFile at refused ⊢
  split at refused
  · cases refused
  · rfl

/-- A write that is refused adds directories at most. -/
theorem extends_of_write_error
    {bytes : ByteArray}
    {fault : SystemFault}
    (refused : (tree.write p bytes).2 = .error fault) :
    Extends tree (tree.write p bytes).1 := by
  unfold write at refused ⊢
  split at refused
  · rw [replaceFile_of_error refused]
    exact .refl tree
  · next parent above =>
      have extended := tree.extends_createDirectories parent
      split at refused
      · next mid made =>
          rw [made] at extended
          rwa [replaceFile_of_error refused]
      · next mid fault made => rwa [made] at extended

/-- A write stores a file where its path leads, or adds directories at most. -/
theorem stored_or_extends_of_write
    (tree : FileTree)
    (p : Path)
    (bytes : ByteArray) :
    (∃ location, Stored tree (tree.write p bytes).1 p bytes location) ∨
      Extends tree (tree.write p bytes).1 := by
  rcases done : tree.write p bytes with ⟨new, fault | ⟨⟩⟩
  · have refused : (tree.write p bytes).2 = .error fault := by rw [done]
    exact .inr (by simpa [done] using extends_of_write_error refused)
  · exact .inl (stored_of_write done)

end Containment

end FileTree
end Scaffold
