import Scaffold.Proofs.FileTree.Persistence
import Scaffold.Proofs.Text.Pieces

/-!
# Joined paths in a file tree

The moves along a joined path are the moves along its two parts, so a joined path leads where its
second part leads from the end of the first.  A path stays below whatever it is joined to when it is
relative and never goes up.

What stands at the end of such a path is found there as soon as the path that it is joined to can be
followed.  It need not be found before: a path that goes up again from a missing directory leads
nowhere, and leads somewhere once the directory is made.  A path that never goes up at all is found
wherever something stands at its end.
-/

namespace Scaffold
namespace Path

section Moves

/-- Moves that never go up. -/
def Descending (steps : List Step) : Prop :=
  ∀ step ∈ steps, step ≠ .up

instance (steps : List Step) : Decidable (Descending steps) :=
  inferInstanceAs (Decidable (∀ step ∈ steps, step ≠ .up))

/-- A path that stays below what it is joined to: it is relative, and none of its moves goes up. -/
structure StaysBelow (p : Path) : Prop where
  relative : p.isAbsolute = false
  descending : Descending p.steps

instance (p : Path) : Decidable p.StaysBelow :=
  decidable_of_iff (p.isAbsolute = false ∧ Descending p.steps)
    ⟨fun ⟨relative, descending⟩ => ⟨relative, descending⟩, fun h => ⟨h.relative, h.descending⟩⟩

theorem steps_ne_nil (p : Path) :
    p.steps ≠ [] := by
  simp [steps, Text.pieces_ne_nil]

/-- Two parts with a slash in between are followed one after the other. -/
theorem steps_append (front back : String) :
    Path.steps ⟨front ++ "/" ++ back⟩ = Path.steps ⟨front⟩ ++ Path.steps ⟨back⟩ := by
  have cut : Text.pieces '/' (front ++ "/" ++ back) =
      Text.pieces '/' front ++ Text.pieces '/' back := Text.pieces_append '/' front back
  rw [steps, cut, List.map_append]
  rfl

theorem exists_append_slash
    {text : String}
    (ends : text.toList.getLast? = some '/') :
    ∃ front, text = front ++ "/" := by
  obtain ⟨front, whole⟩ := List.getLast?_eq_some_iff.1 ends
  refine ⟨String.ofList front, ?_⟩
  apply String.toList_injective
  simp [whole]

/-- What stands between a path and what is joined to it. -/
def joint (p : Path) : String :=
  if p.text = "" ∨ p.text.toList.getLast? = some '/' then "" else "/"

theorem text_join_of_relative
    (base : Path)
    {r : Path}
    (relative : r.isAbsolute = false) :
    (base.join r).text = base.text ++ base.joint ++ r.text := by
  by_cases ends : base.text = "" ∨ base.text.toList.getLast? = some '/'
  · simp [join, joint, relative, ends]
  · simp [join, joint, relative, ends]

/-- A joined path begins at the root when its first part does. -/
theorem isAbsolute_join
    (base : Path)
    {r : Path}
    (relative : r.isAbsolute = false) :
    (base.join r).isAbsolute = base.isAbsolute := by
  by_cases nothing : base.text = ""
  · have same : (base.join r) = r := by simp [join, relative, nothing]
    rw [same, relative, isAbsolute, nothing]
    rfl
  · obtain ⟨first, rest, shape⟩ :=
      List.exists_cons_of_ne_nil (mt String.toList_eq_nil_iff.1 nothing)
    simp [isAbsolute, text_join_of_relative base relative, shape]

/-- The moves along a joined path end with those along its second part.  Before them stand the moves
along its first part, without the idle one that a slash at its end stands for. -/
theorem steps_join
    (base : Path)
    {relative : Path}
    (below : relative.isAbsolute = false) :
    ∃ front,
      (base.join relative).steps = front ++ relative.steps ∧
        (base.steps = front ∨ base.steps = front ++ [.stay]) := by
  have idle : Path.steps ⟨""⟩ = [.stay] := by decide
  by_cases nowhere : base.text = ""
  · refine ⟨[], ?_, .inr ?_⟩
    · simp [join, below, nowhere]
    · rw [List.nil_append, ← idle, ← nowhere]
  · by_cases slash : base.text.toList.getLast? = some '/'
    · obtain ⟨front, whole⟩ := exists_append_slash slash
      have base_steps : base.steps = Path.steps ⟨front⟩ ++ [.stay] := by
        have split := steps_append front ""
        rwa [String.append_empty, idle, ← whole] at split
      refine ⟨Path.steps ⟨front⟩, ?_, .inr base_steps⟩
      simp [join, below, whole, steps_append]
    · refine ⟨base.steps, ?_, .inl rfl⟩
      simp [join, below, nowhere, slash, steps_append]

theorem steps_name (name : Name) :
    Path.steps ⟨name.text⟩ = [.down name] := by
  have parts := name.valid
  simp only [isName, Bool.and_eq_true, Bool.not_eq_true'] at parts
  have whole : name.text.toList.splitOn '/' = [name.text.toList] :=
    List.splitOn_eq_singleton (by simpa using parts.2)
  simp [steps, Text.pieces, whole, Step.ofPart, Name.ofText?, name.valid]

/-- The moves along some names lead down to one after the other. -/
theorem steps_ofNames
    (name : Name)
    (names : List Name) :
    (ofNames (name :: names)).steps = (name :: names).map .down := by
  induction names generalizing name with
  | nil => simpa [ofNames, ofParts] using steps_name name
  | cons second names ih =>
      have split := steps_append name.text (ofNames (second :: names)).text
      calc (ofNames (name :: second :: names)).steps
          = Path.steps ⟨name.text⟩ ++ (ofNames (second :: names)).steps := by
            rw [← split]
            simp [ofNames, ofParts, String.intercalate_cons_cons]
        _ = (name :: second :: names).map .down := by
            rw [steps_name, ih second]
            rfl

/-- A path made of names never goes up. -/
theorem descending_ofNames (names : List Name) :
    Descending (ofNames names).steps := by
  cases names with
  | nil => decide
  | cons name names => simp [Descending, steps_ofNames]

end Moves

end Path

namespace FileTree

section Anchoring

variable {tree old new : FileTree} {base relative : Path} {start location : Location}

/-- Moves lead where the later ones lead from where the earlier ones lead. -/
theorem follow_append_eq_ok
    {first later : List Path.Step} :
    tree.follow start (first ++ later) = .ok location ↔
      ∃ mid, tree.follow start first = .ok mid ∧ tree.follow mid later = .ok location := by
  induction first generalizing start with
  | nil => simp [follow]
  | cons step first ih =>
      simp only [List.cons_append, follow_cons_eq_ok, ih]
      constructor
      · rintro ⟨here, next, moved, mid, led, onwards⟩
        exact ⟨mid, ⟨here, next, moved, led⟩, onwards⟩
      · rintro ⟨mid, ⟨here, next, moved, led⟩, onwards⟩
        exact ⟨here, next, moved, mid, led, onwards⟩

/-- A joined path starts where its first part does. -/
theorem start_join
    (tree : FileTree)
    (base : Path)
    (below : relative.isAbsolute = false) :
    tree.start (base.join relative) = tree.start base := by
  rw [start, start, Path.isAbsolute_join base below]

/-- A joined path leads where its second part leads from the end of the first. -/
theorem trace_join_eq_ok
    (below : relative.isAbsolute = false) :
    tree.trace (base.join relative) = .ok location ↔
      ∃ mid, tree.trace base = .ok mid ∧ tree.follow mid relative.steps = .ok location := by
  rw [trace, trace, tree.start_join base below]
  obtain ⟨front, whole, same | slash⟩ := Path.steps_join base below
  · rw [whole, same, follow_append_eq_ok]
  · obtain ⟨step, rest, moves⟩ := List.exists_cons_of_ne_nil (Path.steps_ne_nil relative)
    rw [whole, slash, follow_append_eq_ok]
    constructor
    · rintro ⟨mid, led, onwards⟩
      -- the first move of the second part leaves a directory, where one can also stay
      have here : tree.find? mid = some .directory := (follow_cons_eq_ok.1 (moves ▸ onwards)).1
      have stays : tree.follow mid [.stay] = .ok mid := by simp [follow, move, here]
      exact ⟨mid, follow_append_eq_ok.2 ⟨mid, led, stays⟩, onwards⟩
    · rintro ⟨mid, led, onwards⟩
      obtain ⟨earlier, led, stays⟩ := follow_append_eq_ok.1 led
      obtain ⟨-, next, moved, done⟩ := follow_cons_eq_ok.1 stays
      cases moved
      cases done
      exact ⟨mid, led, onwards⟩

/-- What stands below a location stands below something. -/
theorem isSome_find?_of_append
    {names : List Path.Name}
    (stands : (tree.find? (location ++ names)).isSome) :
    (tree.find? location).isSome := by
  induction names generalizing location with
  | nil => simpa using stands
  | cons name names ih =>
      have next : (tree.find? (location ++ [name])).isSome := ih (by simpa using stands)
      simp [tree.find?_of_below next]

/-- Moves that never go up lead to the location with their names at its end. -/
theorem exists_append_of_follow
    {steps : List Path.Step}
    (descending : Path.Descending steps)
    (led : tree.follow start steps = .ok location) :
    ∃ names, location = start ++ names ∧ steps.filter (· ≠ .stay) = names.map .down := by
  induction steps generalizing start with
  | nil =>
      cases led
      exact ⟨[], by simp, rfl⟩
  | cons step rest ih =>
      obtain ⟨-, next, moved, onwards⟩ := follow_cons_eq_ok.1 led
      obtain ⟨names, rfl, moves⟩ := ih (fun s later => descending s (by simp [later])) onwards
      cases step with
      | stay =>
          cases moved
          exact ⟨names, rfl, by simpa using moves⟩
      | up => exact absurd rfl (descending .up (by simp))
      | down name =>
          obtain ⟨-, rfl⟩ := move_down_eq_ok.1 moved
          exact ⟨name :: names, by simp, by simpa using moves⟩

/-- Moves that never go up lead to what already stood where they lead later. -/
theorem Persists.follow_of_stands
    {steps : List Path.Step}
    (h : Persists old new)
    (descending : Path.Descending steps)
    (led : new.follow start steps = .ok location)
    (stands : (old.find? location).isSome) :
    old.follow start steps = .ok location := by
  induction steps generalizing start with
  | nil => exact led
  | cons step rest ih =>
      obtain ⟨here, next, moved, onwards⟩ := follow_cons_eq_ok.1 led
      obtain ⟨names, rfl, -⟩ := exists_append_of_follow descending led
      have stood : (old.find? start).isSome := isSome_find?_of_append stands
      exact follow_cons_eq_ok.2 ⟨(h.directory start stood).2 here, next, moved,
        ih (fun s later => descending s (by simp [later])) onwards⟩

/-- The moves along a path can be made. -/
def Anchored
    (tree : FileTree)
    (base : Path) : Prop :=
  ∃ location, tree.trace base = .ok location

theorem Persists.anchored
    (h : Persists old new)
    (anchored : Anchored old base) :
    Anchored new base := by
  obtain ⟨location, led⟩ := anchored
  exact ⟨location, h.trace led⟩

/-- The moves along the first part of a joined path that leads somewhere can be made. -/
theorem anchored_of_locate_join
    (below : relative.isAbsolute = false)
    (leads : tree.locate (base.join relative) = .ok location) :
    Anchored tree base := by
  obtain ⟨mid, led, -⟩ := (trace_join_eq_ok below).1 (locate_eq_ok.1 leads).2.1
  exact ⟨mid, led⟩

/-- A path below which everything that stands is found: its moves can be made, or none of them goes
up. -/
def Reliable
    (tree : FileTree)
    (base : Path) : Prop :=
  Anchored tree base ∨ Path.Descending base.steps

theorem Persists.reliable
    (h : Persists old new)
    (reliable : Reliable old base) :
    Reliable new base :=
  reliable.imp h.anchored id

/-- A joined path leads to what already stood where it leads later. -/
theorem Persists.locate_of_stands
    (h : Persists old new)
    (reliable : Reliable old base)
    (below : relative.StaysBelow)
    (leads : new.locate (base.join relative) = .ok location)
    (stands : (old.find? location).isSome) :
    old.locate (base.join relative) = .ok location := by
  obtain ⟨accepted, led, -⟩ := locate_eq_ok.1 leads
  refine locate_eq_ok.2 ⟨accepted, ?_, stands⟩
  obtain ⟨mid, toMid, onwards⟩ := (trace_join_eq_ok below.relative).1 led
  refine (trace_join_eq_ok below.relative).2 ⟨mid, ?_, ?_⟩
  · rcases reliable with ⟨start, toStart⟩ | descending
    · obtain rfl := Except.ok.inj ((h.trace toStart).symm.trans toMid)
      exact toStart
    · -- the end of the first part stands, because something stands below it
      obtain ⟨names, rfl, -⟩ := exists_append_of_follow below.descending onwards
      rw [FileTree.trace, h.start_eq base] at toMid
      exact h.follow_of_stands descending toMid (isSome_find?_of_append stands)
  · exact h.follow_of_stands below.descending onwards stands

end Anchoring

end FileTree
end Scaffold
