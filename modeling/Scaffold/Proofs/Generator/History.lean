import Scaffold.Proofs.Generator.Regeneration

/-!
# Histories of an output directory

Generators run into one directory again and again, for whatever projects, and in between the user edits
what is there.  A steady run leaves a file alone unless one of its sources leads to it: the sources come
first and go elsewhere, and then the output directory can be relied on, so a template file that leads to the
file finds it.  What one run keeps, any stretch of runs without an edit keeps.

A run is steady unless every source has an absolute path and the path of the output directory goes up from
a directory that is not there.  Such a run looks for the files of the user before this directory is made,
finds none and replaces them.

Where no class name has a slash, the source that leads to a place stands at the path of this place, so it
can be read off the paths which files are safe.
-/

namespace Scaffold

namespace Generator

/-- What happens to a file tree: a generator runs, or the user leaves another tree. -/
inductive Event where
  | run (g : Generator)
  | edit (tree : FileTree)

namespace Event

/-- The tree after an event. -/
def apply
    (base : Path)
    (tree : FileTree) : Event → FileTree
  | run g => (g.generate base tree).1
  | edit new => new

/-- An event that is no edit. -/
def IsRun (event : Event) : Prop :=
  ∃ g, event = run g

end Event

/-- The tree after a history. -/
def replay
    (base : Path)
    (events : List Event)
    (tree : FileTree) : FileTree :=
  events.foldl (Event.apply base) tree

/-- A run of a history: a generator and the tree that it meets. -/
structure Run where
  generator : Generator
  tree : FileTree

namespace Run

/-- The tree after a run. -/
def after
    (r : Run)
    (base : Path) : FileTree :=
  (r.generator.generate base r.tree).1

def Succeeds
    (r : Run)
    (base : Path) : Prop :=
  ∃ written, (r.generator.generate base r.tree).2 = .ok written

def Steady
    (r : Run)
    (base : Path) : Prop :=
  r.generator.Steady base r.tree

/-- The units of a run that are written whatever they find. -/
def Overwrites
    (r : Run)
    (a : Artifact) : Prop :=
  ∃ units, r.generator.artifacts r.tree = .ok units ∧ a ∈ units ∧ a.rules.overwrite = .always

/-- A run renders something for a location that is written whatever it finds. -/
def Replaces
    (r : Run)
    (base : Path)
    (location : Location) : Prop :=
  ∃ a, r.Overwrites a ∧ a.LandsAt base (r.after base) location

end Run

/-- The runs of a history. -/
def runs
    (base : Path) : List Event → FileTree → List Run
  | [], _ => []
  | .run g :: rest, tree => ⟨g, tree⟩ :: runs base rest (g.generate base tree).1
  | .edit new :: rest, _ => runs base rest new

section History

variable {base : Path} {tree : FileTree} {front between back : List Event} {location : Location}
  {entry : Entry} {r : Run}

theorem replay_append :
    replay base (front ++ back) tree = replay base back (replay base front tree) := by
  simp [replay]

theorem runs_append :
    runs base (front ++ back) tree =
      runs base front tree ++ runs base back (replay base front tree) := by
  induction front generalizing tree with
  | nil => rfl
  | cons event rest ih =>
      cases event with
      | run g => exact congrArg (List.cons _) ih
      | edit new => exact ih

/-- A run that sends no source to a location, as this is evaluated, replaces nothing there. -/
theorem Run.not_replaces_of_elsewhere
    (elsewhere : ∀ units ∈ (r.generator.artifacts r.tree).toOption, ∀ a ∈ units,
      a.rules.overwrite = .always →
        ((r.after base).locate (base.join a.path)).toOption ≠ some location) :
    ¬ r.Replaces base location := by
  rintro ⟨a, ⟨units, made, member, always⟩, lands⟩
  exact elsewhere units (by simp [made, Except.toOption]) a member always lands.toOption_locate

/-- A steady run keeps what stands where none of its sources leads. -/
theorem Run.Succeeds.find?_after
    (h : r.Succeeds base)
    (steady : r.Steady base)
    (spared : ¬ r.Replaces base location)
    (holds : r.tree.find? location = some entry) :
    (r.after base).find? location = some entry := by
  obtain ⟨written, done⟩ := h
  have whole : r.generator.generate base r.tree = (r.after base, .ok written) := Prod.ext rfl done
  obtain ⟨sources, templates, made, emits, taken, ends⟩ := emits_of_generate whole
  have reliable := emits.reliable taken steady
  rw [after_append] at ends
  obtain ⟨takenSources, takenTemplates⟩ := taken_append.1 taken
  -- no source leads to the location, so it is untouched when the template files have their turn
  have between := takenSources.find?_after holds fun a member lands => by
    obtain ⟨always, -⟩ := emits.rendered_sources member
    have atEnd : a.LandsAt base (r.after base) location :=
      ends ▸ lands.persists takenTemplates.persists
    exact absurd ⟨a, ⟨_, made, List.mem_append_left templates member, always⟩, atEnd⟩ spared
  rw [← ends]
  exact takenTemplates.find?_after between fun a member _ =>
    ⟨reliable, (emits.spares_templates member).1⟩

/-- Runs without an edit between them keep what stands where none of their sources leads. -/
theorem find?_replay_of_runs
    (noEdit : ∀ event ∈ between, event.IsRun)
    (spared : ∀ r ∈ runs base between tree,
      r.Succeeds base ∧ r.Steady base ∧ ¬ r.Replaces base location)
    (holds : tree.find? location = some entry) :
    (replay base between tree).find? location = some entry := by
  induction between generalizing tree with
  | nil => exact holds
  | cons event rest ih =>
      obtain ⟨g, rfl⟩ := noEdit event List.mem_cons_self
      obtain ⟨succeeds, steady, apart⟩ := spared ⟨g, tree⟩ List.mem_cons_self
      exact ih (fun later member => noEdit later (List.mem_cons_of_mem _ member))
        (fun r member => spared r (List.mem_cons_of_mem _ member))
        (succeeds.find?_after steady apart holds)

/-- Where no class name has a slash, a run replaces what stands at a path exactly when it renders a source
at this path. -/
theorem Run.replaces_iff_of_plain
    (accepted : r.generator.project.Accepted)
    (plain : r.generator.Plain)
    {names : List Path.Name}
    (leads : (r.after base).locate (base.join (Path.ofNames names)) = .ok location) :
    r.Replaces base location ↔ ∃ a, r.Overwrites a ∧ a.path = Path.ofNames names := by
  constructor
  · rintro ⟨a, ⟨units, made, member, always⟩, lands⟩
    refine ⟨a, ⟨units, made, member, always⟩, ?_⟩
    obtain ⟨sources, templates, rfl, emits⟩ := exists_emits_of_artifacts made
    rcases List.mem_append.1 member with source | template
    · obtain ⟨unit, known, body, -, rfl⟩ := emits.exists_source source
      obtain ⟨names', -, path⟩ := exists_names_of_mem_sources accepted plain known
      have arrives : (r.after base).locate (base.join (Path.ofNames names')) = .ok location :=
        path ▸ lands
      have trails := FileTree.trail_eq_of_locate_join (Path.staysBelow_ofNames names')
        (Path.staysBelow_ofNames names) arrives leads
      exact path.trans (congrArg Path.ofNames (Path.trail_ofNames_injective trails))
    · simp [(emits.spares_templates template).1.once] at always
  · rintro ⟨a, overwrites, path⟩
    refine ⟨a, overwrites, ?_⟩
    rwa [Artifact.LandsAt, path]

/-- Generating again changes nothing, and never what the user owns, as long as the runs are steady.

A run over what the same run has left, with the same template files, succeeds, leaves the tree as it is,
and tells every source as written and every template file as kept.  In a history of runs that succeed and
of edits, a file stays as it is along every stretch of runs unless a source of some run leads to it.  Where
no class name has a slash, such a source is one that stands at the path of the file. -/
theorem steady_regeneration_changes_nothing_and_spares_the_user
    (base : Path) :
    (∀ (g : Generator) (tree new : FileTree) (written : Written),
      g.Steady base tree → g.generate base tree = (new, .ok written) →
        g.templates.artifacts new g.tokens = g.templates.artifacts tree g.tokens →
          ∃ sources templates,
            g.artifacts tree = .ok (sources ++ templates) ∧
              (∀ a ∈ sources, a.rules.overwrite = .always) ∧
              g.templates.artifacts tree g.tokens = .ok templates ∧
              (∀ a ∈ templates, a.rules.overwrite = .ifMissing) ∧
              g.generate base new =
                (new, .ok ⟨sources.map Artifact.path, templates.map Artifact.path⟩)) ∧
      (∀ (events : List Event) (tree : FileTree) (location : Location),
        (∀ r ∈ runs base events tree,
          r.Succeeds base ∧ r.Steady base ∧ ¬ r.Replaces base location) →
          ∀ front between back bytes,
            events = front ++ between ++ back → (∀ event ∈ between, event.IsRun) →
              (replay base front tree).find? location = some (.file bytes) →
                (replay base (front ++ between) tree).find? location = some (.file bytes)) ∧
      ∀ (r : Run) (names : List Path.Name) (location : Location),
        r.generator.project.violation? = none → r.generator.Plain →
          (r.after base).locate (base.join (Path.ofNames names)) = .ok location →
            (r.Replaces base location ↔ ∃ a, r.Overwrites a ∧ a.path = Path.ofNames names) := by
  refine ⟨fun g tree new written steady done sameFiles => ?_,
    fun events tree location spared front between back bytes whole noEdit holds => ?_,
    fun r names location accepted plain => ?_⟩
  · obtain ⟨sources, templates, made, emits, again⟩ := generate_again steady done sameFiles
    exact ⟨sources, templates, made, fun a member => (emits.rendered_sources member).1,
      emits.templates, fun a member => (emits.spares_templates member).1.once, again⟩
  · subst whole
    rw [replay_append]
    refine find?_replay_of_runs noEdit (fun r member => spared r ?_) holds
    rw [runs_append, runs_append]
    exact List.mem_append_left _ (List.mem_append_right _ member)
  · exact Run.replaces_iff_of_plain (Manifest.Project.violation?_eq_none_iff.1 accepted) plain

/-- The notes of a user survive two runs, of which the second changes nothing, as no source stands at their
path. -/
theorem notes_of_user_survive_runs :
    let out : Path := ⟨"/work/out"⟩
    let new := (outfitter.generate out outfitted).1
    outfitter.project.violation? = none ∧
      (∃ written, outfitter.generate out new = (new, .ok ⟨written, [⟨"notes.txt"⟩]⟩)) ∧
      (replay out [.edit outfitted, .run outfitter, .run outfitter] .empty).find?
          [FileTree.home, ⟨"out", by decide⟩, ⟨"notes.txt", by decide⟩] =
        some (.file "mine".toUTF8) ∧
      ¬ ∃ a, (⟨outfitter, outfitted⟩ : Run).Overwrites a ∧
        a.path = Path.ofNames [⟨"notes.txt", by decide⟩] := by
  intro out new
  let kit : Location := [FileTree.home, ⟨"kit", by decide⟩]
  let notes : Location := [FileTree.home, ⟨"out", by decide⟩, ⟨"notes.txt", by decide⟩]
  -- the kernel evaluates each run once when all that is asked of them stands in one statement
  obtain ⟨accepted, plain, leads, found, found', sameFiles, template, mine, runsWell⟩ :
      outfitter.project.violation? = none ∧
        ((∀ c ∈ outfitter.controllers, '/' ∉ c.className.toList) ∧
          '/' ∉ outfitter.application.className.toList) ∧
        (new.locate (out.join (Path.ofNames [⟨"notes.txt", by decide⟩]))).toOption = some notes ∧
        (new.locate ⟨"kit"⟩).toOption = some kit ∧
        (outfitted.locate ⟨"kit"⟩).toOption = some kit ∧
        new.filesBelow kit = outfitted.filesBelow kit ∧
        (outfitter.templates.artifacts outfitted outfitter.tokens).toOption.map
          (List.map Artifact.path) = some [⟨"notes.txt"⟩] ∧
        outfitted.find? notes = some (.file "mine".toUTF8) ∧
        ∀ r ∈ runs out [.edit outfitted, .run outfitter, .run outfitter] .empty,
          (r.generator.generate out r.tree).2.toOption.isSome = true ∧
            ∀ units ∈ (r.generator.artifacts r.tree).toOption, ∀ a ∈ units,
              a.rules.overwrite = .always →
                ((r.after out).locate (out.join a.path)).toOption ≠ some notes := by
    decide +kernel
  have succeeds : ∀ r ∈ runs out [.edit outfitted, .run outfitter, .run outfitter] .empty,
      r.Succeeds out := by
    intro r member
    obtain ⟨written, told⟩ := Option.isSome_iff_exists.1 (runsWell r member).1
    exact ⟨written, eq_ok_of_toOption told⟩
  have steady : ∀ (g : Generator) (tree : FileTree), g.Steady out tree := by
    have descending : Path.Descending out.steps := by decide
    exact fun _ _ => .inl (.inr descending)
  have apart : ∀ r ∈ runs out [.edit outfitted, .run outfitter, .run outfitter] .empty,
      ¬ r.Replaces out notes :=
    fun r member => Run.not_replaces_of_elsewhere (runsWell r member).2
  obtain ⟨again, spared, places⟩ := steady_regeneration_changes_nothing_and_spares_the_user out
  refine ⟨accepted, ?_, ?_, ?_⟩
  · have sameTemplates : outfitter.templates.artifacts new outfitter.tokens =
        outfitter.templates.artifacts outfitted outfitter.tokens := by
      change Template.directoryArtifacts new ⟨"kit"⟩ _ = Template.directoryArtifacts outfitted ⟨"kit"⟩ _
      simp only [Template.directoryArtifacts_eq, eq_ok_of_toOption found, eq_ok_of_toOption found',
        sameFiles]
    obtain ⟨written, done⟩ := succeeds ⟨outfitter, outfitted⟩ List.mem_cons_self
    obtain ⟨sources, templates, -, -, made, -, twice⟩ :=
      again outfitter outfitted new written (steady _ _) (Prod.ext rfl done) sameTemplates
    have kept : templates.map Artifact.path = [⟨"notes.txt"⟩] := by
      simpa [made, Except.toOption] using template
    exact ⟨sources.map Artifact.path, kept ▸ twice⟩
  · exact spared [.edit outfitted, .run outfitter, .run outfitter] .empty notes
      (fun r member => ⟨succeeds r member, steady _ _, apart r member⟩)
      [.edit outfitted] [.run outfitter, .run outfitter] [] _ rfl (by simp [Event.IsRun]) mine
  · have stands := places ⟨outfitter, outfitted⟩ _ notes accepted ⟨plain.1, plain.2⟩
      (eq_ok_of_toOption leads)
    exact (not_congr stands).1 (apart _ List.mem_cons_self)

/-- A run that is not steady replaces what a user has in place of a template file, though no source leads
there. -/
theorem notes_of_user_are_lost_behind_a_gap :
    let r : Run := ⟨stranger, outfitted⟩
    let base : Path := ⟨"gap/../out"⟩
    let notes : Location := [FileTree.home, ⟨"out", by decide⟩, ⟨"notes.txt", by decide⟩]
    estranged.violation? = none ∧ r.Succeeds base ∧ ¬ r.Replaces base notes ∧
      r.tree.find? notes = some (.file "mine".toUTF8) ∧
      (r.after base).find? notes ≠ some (.file "mine".toUTF8) := by
  intro r base notes
  -- the kernel evaluates the run once when all that is asked of it stands in one statement
  obtain ⟨accepted, runs, before, after, elsewhere⟩ :
      estranged.violation? = none ∧
        (r.generator.generate base r.tree).2.toOption.isSome = true ∧
        r.tree.find? notes = some (.file "mine".toUTF8) ∧
        (r.after base).find? notes ≠ some (.file "mine".toUTF8) ∧
        ∀ units ∈ (r.generator.artifacts r.tree).toOption, ∀ a ∈ units,
          a.rules.overwrite = .always →
            ((r.after base).locate (base.join a.path)).toOption ≠ some notes := by
    decide +kernel
  obtain ⟨written, told⟩ := Option.isSome_iff_exists.1 runs
  exact ⟨accepted, ⟨written, eq_ok_of_toOption told⟩, Run.not_replaces_of_elsewhere elsewhere, before,
    after⟩

end History

end Generator
end Scaffold
