import Scaffold.FileTree

/-!
# What stays in a file tree

Creating directories and writing files never takes anything away: a directory stays a directory and
a file stays a file, and the program goes on in the same directory, so a path that leads somewhere
keeps leading there.  Writing a file changes one location; elsewhere it only adds directories, and
only where nothing stood.
-/

namespace Scaffold
namespace FileTree

section Persistence

/-- `new` is `old` with directories added where nothing stood. -/
structure Extends (old new : FileTree) : Prop where
  working : new.working = old.working
  added : ∀ location, new.find? location = old.find? location ∨
    (old.find? location = none ∧ new.find? location = some .directory)

/-- What stands somewhere in `old` stands there in `new`, and is a directory there if it was one. -/
structure Persists (old new : FileTree) : Prop where
  working : new.working = old.working
  stands : ∀ location, (old.find? location).isSome → (new.find? location).isSome
  directory : ∀ location, (old.find? location).isSome →
    (old.find? location = some .directory ↔ new.find? location = some .directory)

/-- A file with some bytes was written to where a path leads, and nothing else was changed. -/
structure Stored
    (old new : FileTree)
    (p : Path)
    (bytes : ByteArray)
    (location : Location) : Prop where
  working : new.working = old.working
  leads : new.locate p = .ok location
  holds : new.find? location = some (.file bytes)
  free : old.find? location ≠ some .directory
  others : ∀ other, other ≠ location →
    new.find? other = old.find? other ∨
      (old.find? other = none ∧ new.find? other = some .directory)

namespace Extends

variable {old mid new : FileTree}

theorem refl (tree : FileTree) :
    Extends tree tree :=
  ⟨rfl, fun _ => .inl rfl⟩

theorem trans
    (first : Extends old mid)
    (later : Extends mid new) :
    Extends old new where
  working := later.working.trans first.working
  added location := by
    rcases first.added location with same | ⟨absent, added⟩
    · simpa only [same] using later.added location
    · rcases later.added location with same | ⟨missing, -⟩
      · exact .inr ⟨absent, same.trans added⟩
      · rw [added] at missing
        cases missing

/-- What stands in a tree stands unchanged in its extensions. -/
theorem find?_eq
    (h : Extends old new)
    {location : Location}
    {entry : Entry}
    (stands : old.find? location = some entry) :
    new.find? location = some entry := by
  rcases h.added location with same | ⟨absent, -⟩
  · exact same.trans stands
  · rw [stands] at absent
    cases absent

end Extends

theorem extends_put
    (tree : FileTree)
    {location : Location}
    (room : tree.hasRoom location = true)
    (absent : tree.find? location = none) :
    Extends tree (tree.put location .directory room) := by
  refine ⟨rfl, fun other => ?_⟩
  by_cases same : other = location
  · subst same
    exact .inr ⟨absent, tree.find?_put_self _ room⟩
  · exact .inl (tree.find?_put_of_ne _ room same)

/-- Creating directories along steps extends a tree, even where it fails. -/
theorem extends_createAlong
    (tree : FileTree)
    (location : Location)
    (here : tree.isDirectory location = true)
    (steps : List Path.Step) :
    Extends tree (tree.createAlong location here steps).1 := by
  fun_induction createAlong tree location here steps with
  | case1 => exact .refl _
  | case2 tree location here rest ih => exact ih
  | case3 tree location here rest ih => exact ih
  | case4 tree location here name rest next found ih => exact ih
  | case5 => exact .refl _
  | case6 tree location here name rest next found accepted room ih =>
      exact (tree.extends_put room found).trans ih
  | case7 => exact .refl _

/-- Creating directories extends a tree, even where it fails. -/
theorem extends_createDirectories
    (tree : FileTree)
    (p : Path) :
    Extends tree (tree.createDirectories p).1 := by
  have along := tree.extends_createAlong (tree.start p) (tree.isDirectory_start p) p.steps
  unfold createDirectories
  split
  · exact .refl tree
  · split
    · split
      · rename_i made ends
        simpa [ends] using along
      · rename_i made ends
        simpa [ends] using along
    · exact .refl tree

namespace Persists

variable {old mid new : FileTree}

theorem refl (tree : FileTree) :
    Persists tree tree :=
  ⟨rfl, fun _ stands => stands, fun _ _ => Iff.rfl⟩

theorem trans
    (first : Persists old mid)
    (later : Persists mid new) :
    Persists old new where
  working := later.working.trans first.working
  stands location here := later.stands location (first.stands location here)
  directory location here :=
    (first.directory location here).trans (later.directory location (first.stands location here))

theorem find?_directory
    (h : Persists old new)
    {location : Location}
    (here : old.find? location = some .directory) :
    new.find? location = some .directory :=
  (h.directory location (by simp [here])).1 here

/-- Steps that lead somewhere keep leading there. -/
theorem follow
    (h : Persists old new)
    {start location : Location}
    {steps : List Path.Step}
    (led : old.follow start steps = .ok location) :
    new.follow start steps = .ok location := by
  induction steps generalizing start with
  | nil => exact led
  | cons step rest ih =>
      obtain ⟨stands, next, moved, onwards⟩ := follow_cons_eq_ok.1 led
      exact follow_cons_eq_ok.2 ⟨h.find?_directory stands, next, moved, ih onwards⟩

/-- A path starts where it started. -/
theorem start_eq
    (h : Persists old new)
    (p : Path) :
    new.start p = old.start p := by
  simp [start, h.working]

/-- The steps of a path that lead somewhere keep leading there. -/
theorem trace
    (h : Persists old new)
    {p : Path}
    {location : Location}
    (led : old.trace p = .ok location) :
    new.trace p = .ok location := by
  rw [FileTree.trace, h.start_eq p]
  exact h.follow led

end Persists

/-- A path leads to a location when its steps do and something stands there. -/
theorem locate_eq_ok
    {tree : FileTree}
    {p : Path}
    {location : Location} :
    tree.locate p = .ok location ↔
      accepts p = true ∧ tree.trace p = .ok location ∧
        (tree.find? location).isSome := by
  unfold locate
  by_cases accepted : accepts p = true
  · cases led : tree.trace p with
    | error fault => simp [accepted]
    | ok reached =>
        by_cases stands : (tree.find? reached).isSome = true
        · simp only [accepted, stands, if_true, Except.ok.injEq, true_and]
          exact ⟨fun same => ⟨same, same ▸ stands⟩, fun both => both.1⟩
        · simp only [accepted, stands, if_true, Except.ok.injEq, true_and]
          constructor
          · intro impossible
            cases impossible
          · rintro ⟨rfl, there⟩
            exact absurd there stands
  · simp [accepted]

/-- A path that leads somewhere keeps leading there. -/
theorem Persists.locate
    {old new : FileTree}
    (h : Persists old new)
    {p : Path}
    {location : Location}
    (leads : old.locate p = .ok location) :
    new.locate p = .ok location := by
  obtain ⟨accepted, led, stands⟩ := locate_eq_ok.1 leads
  exact locate_eq_ok.2 ⟨accepted, h.trace led, h.stands location stands⟩

/-- A path exists when it leads somewhere. -/
theorem pathExists_iff
    (tree : FileTree)
    (p : Path) :
    tree.pathExists p = true ↔ ∃ location, tree.locate p = .ok location := by
  unfold pathExists entryAt?
  cases leads : tree.locate p with
  | error fault => simp
  | ok location => simpa using (locate_eq_ok.1 leads).2.2

/-- A place for a file is where the steps of its path lead, and no directory. -/
theorem follow_of_place
    {tree : FileTree}
    {p : Path}
    {location : Location}
    (placed : tree.place p = .ok location) :
    accepts p = true ∧ tree.trace p = .ok location ∧
      tree.find? location ≠ some .directory := by
  unfold place at placed
  split at placed
  · rename_i accepted
    split at placed
    · split at placed
      · cases placed
      · rename_i reached led
        split at placed
        · cases placed
        · rename_i stands
          cases placed
          exact ⟨accepted, led, by simp [stands]⟩
        · rename_i absent
          split at placed
          · cases placed
            exact ⟨accepted, led, by simp [absent]⟩
          · cases placed
    · cases placed
  · cases placed

/-- Replacing a file stores it where its path leads. -/
theorem stored_of_replaceFile
    {old new : FileTree}
    {p : Path}
    {bytes : ByteArray}
    (done : old.replaceFile p bytes = (new, .ok ())) :
    ∃ location, Stored old new p bytes location := by
  unfold replaceFile at done
  split at done
  · rename_i location placed
    obtain ⟨accepted, led, free⟩ := follow_of_place placed
    have same : old.put location (.file bytes) (hasRoom_of_place placed) = new := by
      simpa using done
    subst same
    have apart : ∀ other, other ≠ location →
        (old.put location (.file bytes) (hasRoom_of_place placed)).find? other =
          old.find? other :=
      fun other differs => old.find?_put_of_ne _ _ differs
    have persists : Persists old (old.put location (.file bytes) (hasRoom_of_place placed)) := by
      refine ⟨rfl, ?_, ?_⟩
      · intro other stands
        by_cases here : other = location
        · simp [here]
        · simpa [apart other here] using stands
      · intro other stands
        by_cases here : other = location
        · subst here
          simp [free]
        · rw [apart other here]
    have leads := locate_eq_ok.2 ⟨accepted, persists.trace led, by simp⟩
    exact ⟨location, rfl, leads, old.find?_put_self _ _, free,
      fun other differs => .inl (apart other differs)⟩
  · cases done

/-- Writing a file stores it where its path leads. -/
theorem stored_of_write
    {old new : FileTree}
    {p : Path}
    {bytes : ByteArray}
    (done : old.write p bytes = (new, .ok ())) :
    ∃ location, Stored old new p bytes location := by
  unfold write at done
  split at done
  · exact stored_of_replaceFile done
  · rename_i parent above
    have extended := old.extends_createDirectories parent
    split at done
    · rename_i mid made
      rw [made] at extended
      obtain ⟨location, stored⟩ := stored_of_replaceFile done
      refine ⟨location, ⟨stored.working.trans extended.working, stored.leads, stored.holds, ?_, ?_⟩⟩
      · intro occupied
        exact stored.free (extended.find?_eq occupied)
      · intro other differs
        rcases stored.others other differs with same | ⟨absent, added⟩
        · rw [same]
          exact extended.added other
        · rcases extended.added other with same | ⟨missing, made⟩
          · exact .inr ⟨same.symm.trans absent, added⟩
          · rw [made] at absent
            cases absent
    · cases done

/-- Storing a file takes nothing away. -/
theorem Stored.persists
    {old new : FileTree}
    {p : Path}
    {bytes : ByteArray}
    {location : Location}
    (h : Stored old new p bytes location) :
    Persists old new := by
  refine ⟨h.working, ?_, ?_⟩
  · intro other stands
    by_cases here : other = location
    · simp [here, h.holds]
    · rcases h.others other here with same | ⟨absent, -⟩
      · rwa [same]
      · simp [absent] at stands
  · intro other stands
    by_cases here : other = location
    · subst here
      simp [h.holds, h.free]
    · rcases h.others other here with same | ⟨absent, -⟩
      · rw [same]
      · simp [absent] at stands

end Persistence

end FileTree
end Scaffold
