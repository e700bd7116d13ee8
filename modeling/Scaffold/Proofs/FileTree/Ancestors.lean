import Mathlib.Data.List.DropRight
import Scaffold.Proofs.FileTree.Rewriting

/-!
# What a written file brings with it

Before a file is written, the directories on the way to it are created.  The path to its directory begins
as its own path does, so wherever a write adds a directory, a beginning of the path leads there.

Whether the system takes a file at a path does not depend on the bytes.
-/

namespace Scaffold
namespace Path

section Parents

variable {p parent : Path} {parts front : List String}

theorem trimIdle_prefix (parts : List String) :
    trimIdle parts <+: parts :=
  List.rdropWhile_prefix isIdlePart parts

/-- Some of the first parts of a path are written in front of the others. -/
theorem exists_text_of_parts
    (first : front <+: Text.pieces '/' p.text)
    (shorter : front ≠ Text.pieces '/' p.text)
    (something : (ofParts front).text ≠ "") :
    ∃ rest, p.text = (ofParts front).text ++ "/" ++ rest := by
  obtain ⟨back, whole⟩ := first
  have nonempty : front ≠ [] := by
    rintro rfl
    exact something rfl
  have more : back ≠ [] := by
    rintro rfl
    exact shorter (by simpa using whole)
  refine ⟨String.intercalate "/" back, ?_⟩
  rw [← Text.intercalate_pieces '/' p.text, ← whole]
  exact String.intercalate_append_of_ne_nil nonempty more

/-- Without the last part that is not idle there are fewer parts. -/
theorem trimIdle_dropLast_prefix
    {part : String}
    {others : List String}
    (kept : trimIdle parts = part :: others) :
    trimIdle (part :: others).dropLast <+: parts ∧ trimIdle (part :: others).dropLast ≠ parts := by
  have dropped : trimIdle (part :: others).dropLast <+: (part :: others).dropLast :=
    trimIdle_prefix _
  have whole : part :: others <+: parts := kept ▸ trimIdle_prefix parts
  refine ⟨dropped.trans ((List.dropLast_prefix _).trans whole), fun same => ?_⟩
  have length := dropped.length_le
  have bound := whole.length_le
  rw [same, List.length_dropLast, List.length_cons] at length
  rw [List.length_cons] at bound
  omega

/-- An absolute path begins with a part without characters. -/
theorem eq_empty_of_isAbsolute
    {head : String}
    {rest : List String}
    (absolute : p.isAbsolute = true)
    (cut : Text.pieces '/' p.text = head :: rest) :
    head = "" := by
  obtain ⟨others, shape⟩ : ∃ others, p.text.toList = '/' :: others := by
    cases shape : p.text.toList with
    | nil => simp [isAbsolute, shape] at absolute
    | cons first others =>
        obtain rfl : first = '/' := by simpa [isAbsolute, shape] using absolute
        exact ⟨others, rfl⟩
  have whole : p.text = "" ++ "/" ++ String.ofList others := by
    apply String.toList_injective
    simp [shape]
  have first : Text.pieces '/' p.text = [""] ++ Text.pieces '/' (String.ofList others) := by
    rw [whole]
    exact Text.pieces_append '/' "" (String.ofList others)
  rw [cut] at first
  exact (List.cons.inj first).1

/-- A path is written behind its directory, unless this is the root or the working directory. -/
theorem exists_text_of_parent?
    (above : p.parent? = some parent)
    (something : parent.text ≠ "")
    (notRoot : parent ≠ ⟨"/"⟩) :
    ∃ rest, p.text = parent.text ++ "/" ++ rest := by
  unfold parent? at above
  split at above
  · cases above
  · next head rest cut =>
      split at above
      · next absolute =>
          obtain rfl := eq_empty_of_isAbsolute absolute cut
          split at above
          · cases above
          · next part parts kept =>
              obtain rfl := Option.some.inj above
              obtain ⟨first, shorter⟩ := trimIdle_dropLast_prefix kept
              have some : trimIdle (part :: parts).dropLast ≠ [] := by
                intro nothing
                rw [nothing] at notRoot
                exact notRoot rfl
              have same : (⟨"/" ++ (ofParts (trimIdle (part :: parts).dropLast)).text⟩ : Path) =
                  ofParts ("" :: trimIdle (part :: parts).dropLast) := by
                simp [ofParts, String.intercalate_cons_of_ne_nil some]
              rw [same] at something ⊢
              refine exists_text_of_parts ?_ ?_ something
              · rw [cut]
                exact (List.cons_prefix_cons).2 ⟨rfl, first⟩
              · rw [cut]
                simpa using shorter
      · split at above
        · split at above
          · obtain rfl : Path.empty = parent := Option.some.inj above
            exact absurd rfl something
          · next part parts kept =>
              obtain rfl := Option.some.inj above
              obtain ⟨first, shorter⟩ := trimIdle_dropLast_prefix kept
              refine exists_text_of_parts ?_ ?_ something
              · rw [cut]
                exact (List.cons_prefix_cons).2 ⟨rfl, first⟩
              · rw [cut]
                simpa using shorter
        · split at above
          · cases above
          · next part parts kept =>
              obtain rfl := Option.some.inj above
              obtain ⟨first, shorter⟩ := trimIdle_dropLast_prefix kept
              exact exists_text_of_parts (cut ▸ first) (cut ▸ shorter) something

/-- A path starts where its directory does, and is followed by going there first. -/
theorem exists_append_of_parent?
    (above : p.parent? = some parent)
    (something : parent.text ≠ "")
    (notRoot : parent ≠ ⟨"/"⟩) :
    p.isAbsolute = parent.isAbsolute ∧
      ∃ back, back ≠ [] ∧ p.steps = parent.steps ++ back := by
  obtain ⟨rest, whole⟩ := exists_text_of_parent? above something notRoot
  obtain rfl : p = ⟨parent.text ++ "/" ++ rest⟩ := congrArg Path.mk whole
  refine ⟨?_, Path.steps ⟨rest⟩, steps_ne_nil _, steps_append parent.text rest⟩
  obtain ⟨first, others, shape⟩ :=
    List.exists_cons_of_ne_nil (mt String.toList_eq_nil_iff.1 something)
  simp [isAbsolute, shape]

end Parents

end Path

namespace FileTree

section Ancestors

variable {tree old new : FileTree} {p : Path} {bytes : ByteArray} {location other : Location}

/-- A location is on the way of a path: a beginning of its moves leads there, and more moves follow. -/
def OnTheWay
    (tree : FileTree)
    (p : Path)
    (location : Location) : Prop :=
  ∃ front back,
    back ≠ [] ∧ p.steps = front ++ back ∧ tree.follow (tree.start p) front = .ok location

/-- One file was written where a path leads, directories on the way to it were created where nothing
stood, and nothing else was changed. -/
structure WroteOnly
    (old new : FileTree)
    (p : Path)
    (bytes : ByteArray)
    (location : Location) : Prop where
  stored : Stored old new p bytes location
  onTheWay : ∀ other, other ≠ location → new.find? other ≠ old.find? other → new.OnTheWay p other

/-- The system takes a file at a path. -/
def Takes
    (tree : FileTree)
    (p : Path) : Prop :=
  (tree.write p .empty).2 = .ok ()

/-- Where directories are created along moves, a beginning of the moves leads to each new one. -/
theorem exists_front_of_createAlong
    {here : tree.isDirectory location = true}
    {steps : List Path.Step}
    (changed : (tree.createAlong location here steps).1.find? other ≠ tree.find? other) :
    ∃ front back,
      steps = front ++ back ∧
        ∀ later reached, FileTree.follow later location front = .ok reached → reached = other := by
  fun_induction createAlong tree location here steps with
  | case1 => exact absurd rfl changed
  | case2 tree location here rest ih =>
      obtain ⟨front, back, rfl, leads⟩ := ih changed
      refine ⟨.stay :: front, back, rfl, fun later reached led => ?_⟩
      obtain ⟨-, next, moved, onwards⟩ := follow_cons_eq_ok.1 led
      cases moved
      exact leads later reached onwards
  | case3 tree location here rest ih =>
      obtain ⟨front, back, rfl, leads⟩ := ih changed
      refine ⟨.up :: front, back, rfl, fun later reached led => ?_⟩
      obtain ⟨-, next, moved, onwards⟩ := follow_cons_eq_ok.1 led
      cases moved
      exact leads later reached onwards
  | case4 tree location here name rest next found ih =>
      obtain ⟨front, back, rfl, leads⟩ := ih changed
      refine ⟨.down name :: front, back, rfl, fun later reached led => ?_⟩
      obtain ⟨-, next, moved, onwards⟩ := follow_cons_eq_ok.1 led
      obtain ⟨-, rfl⟩ := move_down_eq_ok.1 moved
      exact leads later reached onwards
  | case5 => exact absurd rfl changed
  | case6 tree location here name rest next found accepted room ih =>
      by_cases same : other = next
      · subst same
        refine ⟨[.down name], rest, rfl, fun later reached led => ?_⟩
        obtain ⟨-, next, moved, done⟩ := follow_cons_eq_ok.1 led
        cases done
        exact (move_down_eq_ok.1 moved).2
      · rw [← tree.find?_put_of_ne .directory room same] at changed
        obtain ⟨front, back, rfl, leads⟩ := ih changed
        refine ⟨.down name :: front, back, rfl, fun later reached led => ?_⟩
        obtain ⟨-, next, moved, onwards⟩ := follow_cons_eq_ok.1 led
        obtain ⟨-, rfl⟩ := move_down_eq_ok.1 moved
        exact leads later reached onwards
  | case7 => exact absurd rfl changed

/-- Nothing is created for the root. -/
theorem createDirectories_root (tree : FileTree) :
    tree.createDirectories ⟨"/"⟩ = (tree, .ok ()) := by
  have idle : Path.steps ⟨"/"⟩ = [.stay, .stay] := by decide
  have accepted : accepts ⟨"/"⟩ = true := by decide
  simp [createDirectories, accepted, idle, createAlong]

/-- Directories that are created for a path are on the way of every path that begins as it does. -/
theorem exists_front_of_createDirectories
    {parent : Path}
    (changed : (tree.createDirectories parent).1.find? other ≠ tree.find? other) :
    parent.text ≠ "" ∧
      ∃ front back,
        parent.steps = front ++ back ∧
          ∀ later reached,
            FileTree.follow later (tree.start parent) front = .ok reached → reached = other := by
  unfold createDirectories at changed
  split at changed
  · exact absurd rfl changed
  · next something =>
      refine ⟨something, ?_⟩
      split at changed
      · have along : (tree.createAlong (tree.start parent) (tree.isDirectory_start parent)
            parent.steps).1.find? other ≠ tree.find? other := by
          split at changed
          · next made => rwa [made]
          · next made => rwa [made]
        exact exists_front_of_createAlong along
      · exact absurd rfl changed

/-- Replacing a file changes nothing but what its path leads to. -/
theorem find?_of_replaceFile
    (done : old.replaceFile p bytes = (new, .ok ()))
    (leads : new.locate p = .ok location)
    (differs : other ≠ location) :
    new.find? other = old.find? other := by
  obtain ⟨target, placed, stored⟩ := exists_place_of_replaceFile done
  obtain rfl : target = location := Except.ok.inj (stored.leads.symm.trans leads)
  rw [replaceFile_of_place placed] at done
  cases done
  exact old.find?_put_of_ne _ _ differs

/-- A write creates nothing but directories on the way to its file. -/
theorem wroteOnly_of_write
    (done : old.write p bytes = (new, .ok ())) :
    ∃ location, WroteOnly old new p bytes location := by
  obtain ⟨location, stored⟩ := stored_of_write done
  refine ⟨location, stored, fun other differs changed => ?_⟩
  obtain ⟨-, led, -⟩ := locate_eq_ok.1 stored.leads
  unfold write at done
  split at done
  · exact absurd (find?_of_replaceFile done stored.leads differs) changed
  · next parent above =>
      split at done
      · next mid _ made =>
          rw [find?_of_replaceFile done stored.leads differs] at changed
          have created : (old.createDirectories parent).1.find? other ≠ old.find? other := by
            rwa [made]
          have notRoot : parent ≠ ⟨"/"⟩ := by
            rintro rfl
            rw [old.createDirectories_root] at created
            exact created rfl
          obtain ⟨something, front, back, shape, leads⟩ := exists_front_of_createDirectories created
          obtain ⟨alike, rest, more, whole⟩ :=
            Path.exists_append_of_parent? above something notRoot
          have start : new.start p = old.start parent := by
            rw [stored.persists.start_eq p, FileTree.start, FileTree.start, alike]
          rw [shape, List.append_assoc] at whole
          rw [trace, whole, start] at led
          obtain ⟨reached, toFront, -⟩ := follow_append_eq_ok.1 led
          obtain rfl : reached = other := leads new reached toFront
          exact ⟨front, back ++ rest, by simp [more], whole, start ▸ toFront⟩
      · cases done

theorem snd_replaceFile_eq
    (tree : FileTree)
    (p : Path)
    (bytes bytes' : ByteArray) :
    (tree.replaceFile p bytes).2 = (tree.replaceFile p bytes').2 := by
  unfold replaceFile
  split <;> rfl

/-- What the system says to a write does not depend on the bytes. -/
theorem snd_write_eq
    (tree : FileTree)
    (p : Path)
    (bytes bytes' : ByteArray) :
    (tree.write p bytes).2 = (tree.write p bytes').2 := by
  unfold write
  split
  · exact tree.snd_replaceFile_eq p bytes bytes'
  · split
    · next mid _ made => exact mid.snd_replaceFile_eq p bytes bytes'
    · rfl

/-- Where the system takes a file, writing it writes the file and nothing else. -/
theorem Takes.exists_wroteOnly
    (h : tree.Takes p)
    (bytes : ByteArray) :
    ∃ new location, tree.write p bytes = (new, .ok ()) ∧ WroteOnly tree new p bytes location := by
  have done : (tree.write p bytes).2 = .ok () := (tree.snd_write_eq p bytes .empty).trans h
  obtain ⟨location, only⟩ := wroteOnly_of_write (Prod.ext rfl done)
  exact ⟨_, location, Prod.ext rfl done, only⟩

/-- What was written is read back. -/
theorem WroteOnly.read_eq
    (h : WroteOnly old new p bytes location) :
    new.read p = .ok bytes := by
  simp [read, h.stored.leads, h.stored.holds]

end Ancestors

end FileTree
end Scaffold
