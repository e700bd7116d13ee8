import Mathlib.Data.List.Lex
import Mathlib.Data.List.Nodup
import Mathlib.Data.List.Perm.Basic
import Mathlib.Data.String.Basic
import Scaffold.FileTree

/-!
# The files of a tree

The files below a location are the entries there that are files, each once and in the order of their
locations, which are compared name by name.  In a tree that was made by writing files, nothing takes the
place of the root.
-/

namespace Scaffold

namespace FileTree

/-- A tree without an entry in the place of the root. -/
def Bare (tree : FileTree) : Prop :=
  tree.entries.get? [] = none

section Bare

variable {tree : FileTree}

theorem bare_empty : empty.Bare := rfl

theorem Bare.put
    (h : tree.Bare)
    {location : Location}
    (entry : Entry)
    (room : tree.hasRoom location = true) :
    (tree.put location entry room).Bare :=
  (OrderedMap.get?_insert_of_ne _ _ (ne_nil_of_hasRoom room).symm).trans h

theorem Bare.createAlong
    (h : tree.Bare)
    (location : Location)
    (here : tree.isDirectory location = true)
    (steps : List Path.Step) :
    (tree.createAlong location here steps).1.Bare := by
  fun_induction FileTree.createAlong tree location here steps with
  | case1 => exact h
  | case2 tree location here rest ih => exact ih h
  | case3 tree location here rest ih => exact ih h
  | case4 tree location here name rest next found ih => exact ih h
  | case5 => exact h
  | case6 tree location here name rest next found accepted room ih => exact ih (h.put _ room)
  | case7 => exact h

theorem Bare.createDirectories
    (h : tree.Bare)
    (p : Path) :
    (tree.createDirectories p).1.Bare := by
  have along := h.createAlong (tree.start p) (tree.isDirectory_start p) p.steps
  unfold FileTree.createDirectories
  split
  · exact h
  · split
    · split
      · next made ends => simpa [ends] using along
      · next made ends => simpa [ends] using along
    · exact h

theorem Bare.replaceFile
    (h : tree.Bare)
    (p : Path)
    (bytes : ByteArray) :
    (tree.replaceFile p bytes).1.Bare := by
  unfold FileTree.replaceFile
  split
  · next placed => exact h.put _ (hasRoom_of_place placed)
  · exact h

/-- Writing a file never puts an entry in the place of the root. -/
theorem Bare.write
    (h : tree.Bare)
    (p : Path)
    (bytes : ByteArray) :
    (tree.write p bytes).1.Bare := by
  unfold FileTree.write
  split
  · exact h.replaceFile p bytes
  · next parent above =>
      have made := h.createDirectories parent
      split
      · next ends => exact (ends ▸ made).replaceFile p bytes
      · next ends => exact ends ▸ made

end Bare

section Files

variable {tree : FileTree} {a b location names : Location} {bytes : ByteArray}

/-- Locations are compared name by name. -/
theorem comesBefore_iff :
    comesBefore a b = true ↔ a.map Path.Name.text ≤ b.map Path.Name.text := by
  induction a generalizing b with
  | nil =>
      cases b with
      | nil => simp [comesBefore]
      | cons name b => simpa [comesBefore] using (List.nil_lt_cons _ _).le
  | cons name a ih =>
      cases b with
      | nil => simp [comesBefore]
      | cons name' b =>
          by_cases same : name = name'
          · subst same
            simp [comesBefore, ih, le_iff_lt_or_eq]
          · have differs : name.text ≠ name'.text := fun text => same (Path.Name.text_injective text)
            simp [comesBefore, same, differs, le_iff_lt_or_eq, List.cons_lt_cons_iff]

theorem map_text_injective : Function.Injective (List.map Path.Name.text) :=
  List.map_injective_iff.2 Path.Name.text_injective

theorem fileBelow_eq_some
    {stored : Location × Entry} :
    (match location.isPrefixOf? stored.1, stored.2 with
      | some relative, .file bytes => some (relative, bytes)
      | _, _ => none) = some (names, bytes) ↔ stored = (location ++ names, .file bytes) := by
  obtain ⟨known, entry⟩ := stored
  have inside : location.isPrefixOf? known = some names ↔ known = location ++ names := by
    rw [List.isPrefixOf?_eq_some_iff_append_eq, eq_comm]
  rw [Prod.mk.injEq, ← inside]
  cases location.isPrefixOf? known <;> cases entry <;> simp

/-- The files below a location are the entries there that are files. -/
theorem mem_filesBelow :
    (names, bytes) ∈ tree.filesBelow location ↔
      tree.entries.get? (location ++ names) = some (.file bytes) := by
  rw [filesBelow, List.mem_mergeSort, List.mem_filterMap, OrderedMap.get?_eq_some_iff]
  constructor
  · rintro ⟨stored, member, found⟩
    exact fileBelow_eq_some.1 found ▸ member
  · intro member
    exact ⟨_, member, fileBelow_eq_some.2 rfl⟩

theorem nodup_filesBelow : (tree.filesBelow location).Nodup := by
  refine (List.mergeSort_perm _ _).nodup_iff.2 (List.Nodup.filterMap ?_ ?_)
  · rintro stored stored' ⟨names, bytes⟩ found found'
    exact (fileBelow_eq_some.1 found).trans (fileBelow_eq_some.1 found').symm
  · exact List.Nodup.of_map Prod.fst tree.entries.distinct

theorem pairwise_filesBelow :
    (tree.filesBelow location).Pairwise fun a b => comesBefore a.1 b.1 = true := by
  refine List.pairwise_mergeSort (fun a b c => ?_) (fun a b => ?_) _
  · simpa only [comesBefore_iff] using le_trans
  · simpa only [Bool.or_eq_true, comesBefore_iff] using le_total _ _

end Files

end FileTree
end Scaffold
