import Scaffold.Generator
import Scaffold.Proofs.FileTree.Anchoring

/-!
# A run turn by turn

Artifacts are put on disk one after the other, and each meets the tree that the ones before it left.
A rendered artifact that the system takes either leaves the tree alone or stores its bytes where its
path leads.  From one turn to the next nothing is taken away, so every artifact of a run has its
location in the tree at the end, and a location keeps what it holds once only artifacts that are
written once still come to it.
-/

namespace Scaffold

open FileTree (Persists Reliable Stored)

namespace Artifact

section Turn

variable {a : Artifact} {base : Path} {tree : FileTree} {content : Content}

/-- An artifact with its content at hand and no header left to add. -/
structure Rendered
    (a : Artifact)
    (content : Content) : Prop where
  holds : a.content = .ok content
  header : a.rules.header = none

/-- Whether an artifact leaves alone what its path leads to. -/
def keeps
    (a : Artifact)
    (base : Path)
    (tree : FileTree) : Bool :=
  a.rules.overwrite = .ifMissing && tree.pathExists (base.join a.path)

/-- The system does not refuse to write an artifact. -/
def Accepted
    (a : Artifact)
    (base : Path)
    (tree : FileTree) : Prop :=
  (a.write tree base).2 ≠ .error .refusedBySystem

/-- The path of an artifact leads to a location. -/
def LandsAt
    (a : Artifact)
    (base : Path)
    (tree : FileTree)
    (location : Location) : Prop :=
  tree.locate (base.join a.path) = .ok location

theorem LandsAt.unique
    {first second : Location}
    (h : a.LandsAt base tree first)
    (h' : a.LandsAt base tree second) :
    first = second := by
  have both := Eq.symm h |>.trans h'
  cases both
  rfl

theorem LandsAt.persists
    {new : FileTree}
    {location : Location}
    (h : a.LandsAt base tree location)
    (persists : Persists tree new) :
    a.LandsAt base new location :=
  persists.locate h

/-- The location of an artifact, as it is evaluated. -/
theorem LandsAt.toOption_locate
    {location : Location}
    (h : a.LandsAt base tree location) :
    (tree.locate (base.join a.path)).toOption = some location :=
  congrArg Except.toOption h

theorem Rendered.bytes_eq
    (h : a.Rendered content) :
    a.bytes = .ok content.bytes := by
  cases content with
  | text text => simp [bytes, renderWithHeader, render, h.holds, h.header, Content.bytes]
  | binary bytes => simp [Artifact.bytes, h.holds, Content.bytes]

/-- An artifact that leaves something alone leaves the tree alone. -/
theorem write_of_keeps
    (kept : a.keeps base tree = true) :
    a.write tree base = (tree, .ok .skipped) := by
  have both : a.rules.overwrite = .ifMissing ∧ tree.pathExists (base.join a.path) = true := by
    simpa [keeps] using kept
  simp [write_eq, both.1, both.2]

/-- A rendered artifact that is not left out is stored where its path leads. -/
theorem write_of_not_keeps
    (rendered : a.Rendered content)
    (accepted : a.Accepted base tree)
    (notKept : a.keeps base tree = false) :
    ∃ new location,
      a.write tree base = (new, .ok .written) ∧
        Stored tree new (base.join a.path) content.bytes location := by
  have goesOn : ¬ (a.rules.overwrite = .ifMissing ∧
      tree.pathExists (base.join a.path) = true) := by
    simpa [keeps] using notKept
  unfold Accepted at accepted
  simp only [write_eq, goesOn, if_false, rendered.bytes_eq] at accepted ⊢
  rcases done : tree.write (base.join a.path) content.bytes with ⟨new, fault | ⟨⟩⟩
  · simp [done] at accepted
  · obtain ⟨location, stored⟩ := FileTree.stored_of_write done
    exact ⟨new, location, rfl, stored⟩

/-- A turn takes nothing away. -/
theorem persists_write
    (rendered : a.Rendered content)
    (accepted : a.Accepted base tree) :
    Persists tree (a.write tree base).1 := by
  cases kept : a.keeps base tree with
  | true =>
      rw [write_of_keeps kept]
      exact .refl tree
  | false =>
      obtain ⟨new, location, done, stored⟩ := write_of_not_keeps rendered accepted kept
      rw [done]
      exact stored.persists

/-- After its turn the path of an artifact leads somewhere. -/
theorem landsAt_write
    (rendered : a.Rendered content)
    (accepted : a.Accepted base tree) :
    ∃ location, a.LandsAt base (a.write tree base).1 location := by
  cases kept : a.keeps base tree with
  | true =>
      have pathExists : tree.pathExists (base.join a.path) = true :=
        ((Bool.and_eq_true _ _).mp kept).2
      rw [write_of_keeps kept]
      exact (tree.pathExists_iff _).1 pathExists
  | false =>
      obtain ⟨new, location, done, stored⟩ := write_of_not_keeps rendered accepted kept
      rw [done]
      exact ⟨location, stored.leads⟩

theorem keeps_of_always
    (always : a.rules.overwrite = .always) :
    a.keeps base tree = false := by
  simp [keeps, always]

/-- An artifact that is not left out is at its location after its turn. -/
theorem find?_write_of_not_keeps
    {location : Location}
    (rendered : a.Rendered content)
    (accepted : a.Accepted base tree)
    (notKept : a.keeps base tree = false)
    (lands : a.LandsAt base (a.write tree base).1 location) :
    (a.write tree base).1.find? location = some (.file content.bytes) := by
  obtain ⟨new, target, done, stored⟩ := write_of_not_keeps rendered accepted notKept
  rw [done] at lands ⊢
  have same : target = location := LandsAt.unique stored.leads lands
  exact same ▸ stored.holds

end Turn

end Artifact

namespace Generator

section Turns

variable {base : Path} {tree : FileTree} {units front back : List Artifact}

/-- An artifact and the tree that it meets. -/
structure Turn where
  artifact : Artifact
  tree : FileTree

namespace Turn

/-- Whether the artifact leaves alone what its path leads to. -/
def keeps
    (turn : Turn)
    (base : Path) : Bool :=
  turn.artifact.keeps base turn.tree

/-- The system does not refuse to write the artifact. -/
def Accepted
    (turn : Turn)
    (base : Path) : Prop :=
  turn.artifact.Accepted base turn.tree

def path (turn : Turn) : Path :=
  turn.artifact.path

end Turn

/-- The turns of a run. -/
def turns
    (base : Path) : List Artifact → FileTree → List Turn
  | [], _ => []
  | a :: rest, tree => ⟨a, tree⟩ :: turns base rest (a.write tree base).1

/-- The tree after a run. -/
def after
    (base : Path)
    (units : List Artifact)
    (tree : FileTree) : FileTree :=
  units.foldl (fun tree a => (a.write tree base).1) tree

/-- Every artifact has its turn, in order. -/
theorem map_artifact_turns
    (base : Path)
    (units : List Artifact)
    (tree : FileTree) :
    (turns base units tree).map Turn.artifact = units := by
  induction units generalizing tree with
  | nil => rfl
  | cons a rest ih => simp [turns, ih]

theorem mem_of_mem_turns
    {turn : Turn}
    (member : turn ∈ turns base units tree) :
    turn.artifact ∈ units := by
  rw [← map_artifact_turns base units tree]
  exact List.mem_map_of_mem member

@[simp] theorem after_cons (a : Artifact) :
    after base (a :: units) tree = after base units (a.write tree base).1 :=
  rfl

@[simp] theorem after_append :
    after base (front ++ back) tree = after base back (after base front tree) := by
  simp [after]

theorem turns_append :
    turns base (front ++ back) tree =
      turns base front tree ++ turns base back (after base front tree) := by
  induction front generalizing tree with
  | nil => rfl
  | cons a front ih => simp [turns, ih]

/-- The turns that meet what earlier artifacts left. -/
theorem exists_append_of_mem_turns
    {turn : Turn}
    (h : turn ∈ turns base units tree) :
    ∃ front back, units = front ++ turn.artifact :: back ∧ turn.tree = after base front tree := by
  induction units generalizing tree with
  | nil => simp [turns] at h
  | cons a rest ih =>
      rcases List.mem_cons.1 h with rfl | later
      · exact ⟨[], rest, rfl, rfl⟩
      · obtain ⟨front, back, whole, meets⟩ := ih later
        exact ⟨a :: front, back, by simp [whole], meets⟩

/-- The turns before and behind a turn are those of the artifacts there. -/
theorem exists_of_turns_eq_append
    {before behind : List Turn}
    {turn : Turn}
    (whole : turns base units tree = before ++ turn :: behind) :
    ∃ front back,
      units = front ++ turn.artifact :: back ∧
        turn.tree = after base front tree ∧
        behind = turns base back (turn.artifact.write turn.tree base).1 := by
  induction before generalizing units tree with
  | nil =>
      cases units with
      | nil => cases whole
      | cons a rest =>
          obtain ⟨rfl, rfl⟩ := List.cons.inj whole
          exact ⟨[], rest, rfl, rfl, rfl⟩
  | cons first before ih =>
      cases units with
      | nil => cases whole
      | cons a rest =>
          obtain ⟨-, later⟩ := List.cons.inj whole
          obtain ⟨front, back, rfl, meets, onwards⟩ := ih later
          exact ⟨a :: front, back, rfl, meets, onwards⟩

/-- The artifacts of a run are rendered, and the system takes each of them in its turn. -/
def Taken
    (base : Path)
    (units : List Artifact)
    (tree : FileTree) : Prop :=
  ∀ turn ∈ turns base units tree,
    (∃ content, turn.artifact.Rendered content) ∧ turn.Accepted base

theorem taken_cons
    {a : Artifact} :
    Taken base (a :: units) tree ↔
      (∃ content, a.Rendered content) ∧ a.Accepted base tree ∧
        Taken base units (a.write tree base).1 := by
  simp [Taken, turns, Turn.Accepted, and_assoc]

theorem taken_append :
    Taken base (front ++ back) tree ↔
      Taken base front tree ∧ Taken base back (after base front tree) := by
  simp only [Taken, turns_append, List.forall_mem_append]

/-- A run that is taken goes on from each of its turns. -/
theorem Taken.of_mem_turns
    (h : Taken base units tree)
    {turn : Turn}
    (member : turn ∈ turns base units tree) :
    ∃ front back,
      units = front ++ turn.artifact :: back ∧
        turn.tree = after base front tree ∧
        Taken base (turn.artifact :: back) turn.tree ∧
        after base units tree = after base (turn.artifact :: back) turn.tree := by
  obtain ⟨front, back, whole, meets⟩ := exists_append_of_mem_turns member
  refine ⟨front, back, whole, meets, ?_, ?_⟩
  · rw [whole] at h
    exact meets ▸ (taken_append.1 h).2
  · rw [whole, after_append, meets]

/-- A run puts everything on disk and reports each path once. -/
theorem writeAll_of_taken
    (h : Taken base units tree) :
    writeAll base units tree =
      (after base units tree,
        .ok ⟨((turns base units tree).filter fun turn => !turn.keeps base).map Turn.path,
          ((turns base units tree).filter fun turn => turn.keeps base).map Turn.path⟩) := by
  induction units generalizing tree with
  | nil => rfl
  | cons a rest ih =>
      obtain ⟨⟨content, rendered⟩, accepted, later⟩ := taken_cons.1 h
      cases kept : a.keeps base tree with
      | true =>
          have done := Artifact.write_of_keeps kept
          rw [done] at later
          simp [writeAll_cons, turns, done, ih later, Turn.keeps, Turn.path, kept, Written.add]
      | false =>
          obtain ⟨new, -, done, -⟩ := Artifact.write_of_not_keeps rendered accepted kept
          rw [done] at later
          simp [writeAll_cons, turns, done, ih later, Turn.keeps, Turn.path, kept, Written.add]

/-- A run that succeeds is refused nothing. -/
theorem accepted_of_writeAll
    {new : FileTree}
    {written : Written}
    (done : writeAll base units tree = (new, .ok written)) :
    ∀ turn ∈ turns base units tree, turn.Accepted base := by
  induction units generalizing tree written with
  | nil => simp [turns]
  | cons a rest ih =>
      rcases wrote : a.write tree base with ⟨next, failure | result⟩
      · simp [writeAll_cons, wrote] at done
      · rcases later : writeAll base rest next with ⟨last, failure | others⟩
        · simp [writeAll_cons, wrote, later] at done
        · obtain ⟨rfl, -⟩ : last = new ∧ others.add a.path result = written := by
            simpa [writeAll_cons, wrote, later] using done
          have here : a.Accepted base tree := by simp [Artifact.Accepted, wrote]
          simpa [turns, wrote, Turn.Accepted, here] using ih later

/-- A run takes nothing away. -/
theorem Taken.persists
    (h : Taken base units tree) :
    Persists tree (after base units tree) := by
  induction units generalizing tree with
  | nil => exact .refl tree
  | cons a rest ih =>
      obtain ⟨⟨content, rendered⟩, accepted, later⟩ := taken_cons.1 h
      exact (Artifact.persists_write rendered accepted).trans (ih later)

/-- Every artifact of a run has its location in the tree at the end. -/
theorem Taken.landsAt
    (h : Taken base units tree)
    {a : Artifact}
    (member : a ∈ units) :
    ∃ location, a.LandsAt base (after base units tree) location := by
  obtain ⟨front, back, rfl⟩ := List.append_of_mem member
  obtain ⟨⟨content, rendered⟩, accepted, later⟩ := taken_cons.1 (taken_append.1 h).2
  obtain ⟨location, lands⟩ := Artifact.landsAt_write rendered accepted
  refine ⟨location, ?_⟩
  rw [after_append]
  exact later.persists.locate lands

/-- An artifact that is not left out is in its place after its turn. -/
theorem Taken.exists_put
    {a : Artifact}
    {location : Location}
    (h : Taken base (a :: back) tree)
    (goesOn : a.keeps base tree = false)
    (lands : a.LandsAt base (after base (a :: back) tree) location) :
    ∃ content,
      a.content = .ok content ∧
        (a.write tree base).1.find? location = some (.file content.bytes) := by
  obtain ⟨⟨content, rendered⟩, accepted, later⟩ := taken_cons.1 h
  obtain ⟨target, arrives⟩ := Artifact.landsAt_write rendered accepted
  obtain rfl : target = location := (arrives.persists later.persists).unique lands
  exact ⟨content, rendered.holds,
    Artifact.find?_write_of_not_keeps rendered accepted goesOn arrives⟩

/-- An artifact that spares what it finds: it is written once, and its path stays below. -/
structure Spares (a : Artifact) : Prop where
  once : a.rules.overwrite = .ifMissing
  below : a.path.StaysBelow

/-- A location where every artifact that comes to it is kept is as it was, or holds a new directory. -/
theorem Taken.find?_after_of_keeps
    (h : Taken base units tree)
    {location : Location}
    (kept : ∀ turn ∈ turns base units tree,
      turn.artifact.LandsAt base (after base units tree) location → turn.keeps base = true) :
    (after base units tree).find? location = tree.find? location ∨
      (tree.find? location = none ∧
        (after base units tree).find? location = some .directory) := by
  induction units generalizing tree with
  | nil => exact .inl rfl
  | cons a rest ih =>
      obtain ⟨⟨content, rendered⟩, accepted, later⟩ := taken_cons.1 h
      have onwards := ih later fun turn member => kept turn (List.mem_cons_of_mem _ member)
      rw [after_cons]
      cases keeps : a.keeps base tree with
      | true =>
          rw [Artifact.write_of_keeps keeps] at onwards ⊢
          exact onwards
      | false =>
          obtain ⟨new, target, done, stored⟩ := Artifact.write_of_not_keeps rendered accepted keeps
          have differs : location ≠ target := by
            rintro rfl
            rw [done] at later
            have lands : a.LandsAt base (after base (a :: rest) tree) location := by
              have leads := later.persists.locate stored.leads
              simpa [Artifact.LandsAt, done] using leads
            have keeps' : a.keeps base tree = true := kept ⟨a, tree⟩ List.mem_cons_self lands
            rw [keeps] at keeps'
            cases keeps'
          rw [done] at onwards ⊢
          rcases stored.others location differs with same | ⟨absent, added⟩
          · rwa [same] at onwards
          · rcases onwards with same | ⟨absent', -⟩
            · exact .inr ⟨absent, same.trans added⟩
            · rw [added] at absent'
              cases absent'

/-- What stands somewhere stays when whatever comes there later is kept. -/
theorem Taken.find?_of_keeps
    (h : Taken base units tree)
    {location : Location}
    {entry : Entry}
    (holds : tree.find? location = some entry)
    (kept : ∀ turn ∈ turns base units tree,
      turn.artifact.LandsAt base (after base units tree) location → turn.keeps base = true) :
    (after base units tree).find? location = some entry := by
  rcases h.find?_after_of_keeps kept with same | ⟨absent, -⟩
  · exact same.trans holds
  · rw [holds] at absent
    cases absent

/-- An artifact that spares what it finds is kept when something stands where it leads in the end, as
long as the directory can be relied on. -/
theorem Taken.keeps_of_spares
    (h : Taken base units tree)
    {turn : Turn}
    {location : Location}
    (member : turn ∈ turns base units tree)
    (reliable : Reliable turn.tree base)
    (spares : Spares turn.artifact)
    (stands : (turn.tree.find? location).isSome)
    (lands : turn.artifact.LandsAt base (after base units tree) location) :
    turn.keeps base = true := by
  obtain ⟨_, _, -, -, onwards, final⟩ := h.of_mem_turns member
  rw [final] at lands
  have found : turn.tree.pathExists (base.join turn.artifact.path) = true :=
    (turn.tree.pathExists_iff _).2
      ⟨location, onwards.persists.locate_of_stands reliable spares.below lands stands⟩
  simp [Turn.keeps, Artifact.keeps, spares.once, found]

/-- A turn meets a tree from which nothing was taken away. -/
theorem Taken.persists_of_mem_turns
    (h : Taken base units tree)
    {turn : Turn}
    (member : turn ∈ turns base units tree) :
    Persists tree turn.tree := by
  obtain ⟨front, back, whole, meets⟩ := exists_append_of_mem_turns member
  rw [whole] at h
  exact meets ▸ (taken_append.1 h).1.persists

/-- A location keeps what it holds when no artifact comes to it, or only artifacts that spare it. -/
theorem Taken.find?_after
    (h : Taken base units tree)
    {location : Location}
    {entry : Entry}
    (holds : tree.find? location = some entry)
    (spared : ∀ a ∈ units, a.LandsAt base (after base units tree) location →
      Reliable tree base ∧ Spares a) :
    (after base units tree).find? location = some entry := by
  refine h.find?_of_keeps holds fun turn member lands => ?_
  obtain ⟨reliable, spares⟩ := spared turn.artifact (mem_of_mem_turns member) lands
  have persists := h.persists_of_mem_turns member
  exact h.keeps_of_spares member (persists.reliable reliable) spares
    (persists.stands location (by simp [holds])) lands

end Turns

end Generator
end Scaffold
