import Scaffold.Proofs.FileTree.NamedPaths

/-!
# The components of paths

Paths are compared part by part.  Whether they start at the root counts, as does a dot that a relative
path starts with; parts in between that are empty or a dot do not.  A move upwards is a part like the
others: what it leads to is a question for a file tree.

Behind a path made of names the dot counts no longer, so joined paths are equal when their second parts
have the same trail.  Below one directory, two paths that stay below lead to one location only when their
trails are equal.
-/

namespace Scaffold
namespace Path

/-- What counts of a path behind another one: whether it starts at the root, and the moves along it that
lead somewhere. -/
structure Trail where
  rooted : Bool
  moves : List Step
  deriving DecidableEq

/-- What counts when paths are compared: besides its trail, whether a relative path starts with a dot. -/
structure Components extends Trail where
  dotted : Bool
  deriving DecidableEq

def trail (p : Path) : Trail where
  rooted := p.isAbsolute
  moves := p.moves

/-- Whether the first part of a relative path is a dot. -/
def isDotted (p : Path) : Bool :=
  !p.isAbsolute && (Text.pieces '/' p.text).head? == some "."

def components (p : Path) : Components where
  toTrail := p.trail
  dotted := p.isDotted

section Components

variable {base r r' : Path} {names : List Name} {name : Name}

/-- The moves along a joined path are those along its parts. -/
theorem moves_join
    (base : Path)
    (relative : r.isAbsolute = false) :
    (base.join r).moves = base.moves ++ r.moves := by
  obtain ⟨front, whole, same | slash⟩ := steps_join base relative
  · simp [moves, whole, same]
  · simp [moves, whole, slash]

theorem moves_ofNames (names : List Name) :
    (ofNames names).moves = names.map .down := by
  cases names with
  | nil => decide
  | cons name names =>
      rw [moves, steps_ofNames, List.filter_eq_self]
      intro step member
      obtain ⟨name, -, rfl⟩ := List.mem_map.1 member
      simp

theorem trail_ofNames_injective : Function.Injective fun names => (ofNames names).trail := by
  intro names later same
  have moves : names.map Step.down = later.map Step.down := by
    rw [← moves_ofNames, ← moves_ofNames]
    exact congrArg Trail.moves same
  exact (List.map_inj_right fun _ _ => Step.down.inj).1 moves

theorem trail_name_join
    (name : Name)
    (relative : r.isAbsolute = false) :
    (Path.join ⟨name.text⟩ r).trail = ⟨false, .down name :: r.moves⟩ := by
  have single : Path.moves ⟨name.text⟩ = [.down name] := by simp [moves, steps_name]
  have solid := solid_name name
  rw [trail, solid.isAbsolute_join, relative, moves_join _ relative, single]
  rfl

/-- Behind a relative path, trails are equal exactly when they are on their own. -/
theorem trail_join_inj (relative : base.isAbsolute = false) :
    (base.join r).trail = (base.join r').trail ↔ r.trail = r'.trail := by
  -- a joined path is absolute exactly when its second part is
  cases here : r.isAbsolute with
  | true =>
      cases there : r'.isAbsolute with
      | true => rw [join_of_isAbsolute here, join_of_isAbsolute there]
      | false =>
          simp [trail, join_of_isAbsolute here, isAbsolute_join base there, here, there, relative]
  | false =>
      cases there : r'.isAbsolute with
      | true =>
          simp [trail, join_of_isAbsolute there, isAbsolute_join base here, here, there, relative]
      | false =>
          simp [trail, isAbsolute_join base here, isAbsolute_join base there, here, there,
            moves_join base here, moves_join base there]

/-- Behind a path made of names, no path starts with a dot. -/
theorem isDotted_join_ofNames
    (nonempty : names ≠ [])
    (r : Path) :
    ((ofNames names).join r).isDotted = false := by
  cases relative : r.isAbsolute with
  | true => simp [join_of_isAbsolute relative, isDotted, relative]
  | false =>
      obtain ⟨name, later, rfl⟩ := List.exists_cons_of_ne_nil nonempty
      have parts : Text.pieces '/' (ofNames (name :: later)).text =
          (name :: later).map Name.text := by
        refine Text.pieces_intercalate (fun part member => ?_) (by simp)
        obtain ⟨name, -, rfl⟩ := List.mem_map.1 member
        exact name.slash_not_mem
      have notDot : name.text ≠ "." := by
        have valid := name.valid
        simp only [isName, Bool.and_eq_true, decide_eq_true_eq] at valid
        exact valid.1.1.2
      have slash : "/" = String.singleton '/' := rfl
      rw [isDotted, (solid_ofNames nonempty).text_join relative, slash, Text.pieces_append, parts]
      simp [notDot]

/-- Behind a path made of names, paths are equal exactly when their trails are. -/
theorem components_join_ofNames_inj (nonempty : names ≠ []) :
    ((ofNames names).join r).components = ((ofNames names).join r').components ↔
      r.trail = r'.trail := by
  rw [components, components, isDotted_join_ofNames nonempty, isDotted_join_ofNames nonempty,
    Components.mk.injEq, trail_join_inj (solid_ofNames nonempty).relative]
  simp

theorem StaysBelow.trail_eq
    (below : r.StaysBelow)
    (moves : r.moves = names.map .down) :
    r.trail = ⟨false, names.map .down⟩ := by
  rw [trail, below.relative, moves]

end Components

end Path

namespace FileTree

section Components

variable {tree : FileTree} {base r r' : Path} {location : Location}

/-- What stays below a directory leads to the location that has its moves at the end. -/
theorem exists_append_of_locate_join
    (below : r.StaysBelow)
    (leads : tree.locate (base.join r) = .ok location) :
    ∃ start names, tree.trace base = .ok start ∧ location = start ++ names ∧
      r.moves = names.map .down := by
  obtain ⟨start, led, onwards⟩ := (trace_join_eq_ok below.relative).1 (locate_eq_ok.1 leads).2.1
  obtain ⟨names, whole, moves⟩ := exists_append_of_follow below.descending onwards
  exact ⟨start, names, led, whole, moves⟩

/-- Below one directory, two paths that stay below lead to one location only when their trails are
equal. -/
theorem trail_eq_of_locate_join
    (below : r.StaysBelow)
    (below' : r'.StaysBelow)
    (leads : tree.locate (base.join r) = .ok location)
    (leads' : tree.locate (base.join r') = .ok location) :
    r.trail = r'.trail := by
  obtain ⟨start, names, led, rfl, moves⟩ := exists_append_of_locate_join below leads
  obtain ⟨start', names', led', same, moves'⟩ := exists_append_of_locate_join below' leads'
  obtain rfl := Except.ok.inj (led.symm.trans led')
  obtain rfl := List.append_cancel_left same
  rw [below.trail_eq moves, below'.trail_eq moves']

end Components

end FileTree
end Scaffold
