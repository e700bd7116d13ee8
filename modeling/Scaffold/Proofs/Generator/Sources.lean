import Mathlib.Data.List.Perm.Basic
import Scaffold.Proofs.Generator.AllOrNothing

/-!
# The sources of a run by kind

The sources of a run come module by module.  Sorted by kind they are the controllers, the model classes
and the application class.  What a run renders are these and then the template files, each at the path
that it is given, and only a handler or the template files can keep a run from succeeding.
-/

namespace Scaffold

open Java (Controller Model)
open Manifest (Project)

namespace Generator

section Sources

variable {g : Generator} {tree : FileTree} {units : List Artifact} {module : String} {c : Controller}

/-- The controllers of a run, in the order of their modules. -/
def controllers (g : Generator) : List Controller :=
  g.project.modules.entries.filterMap fun entry => g.controller? entry.1

/-- The model classes of a run, as their entities are declared. -/
def models (g : Generator) : List Model :=
  (g.project.declarations.filter fun d => d.entity.isModel).map g.model

theorem mem_entries_of_controller
    (present : g.controller? module = some c) :
    ∃ m, (module, m) ∈ g.project.modules.entries := by
  unfold controller? at present
  split at present
  · cases present
  · next given =>
      cases found : g.project.modules.get? module with
      | none => exact absurd (by simp [Project.handlers, Project.declarationsIn, found]) given
      | some m => exact ⟨m, g.project.modules.get?_eq_some_iff.1 found⟩

theorem mem_controllers :
    c ∈ g.controllers ↔ ∃ module, g.controller? module = some c := by
  constructor
  · intro member
    obtain ⟨entry, -, present⟩ := List.mem_filterMap.1 member
    exact ⟨entry.1, present⟩
  · rintro ⟨module, present⟩
    obtain ⟨m, known⟩ := mem_entries_of_controller present
    exact List.mem_filterMap.2 ⟨(module, m), known, present⟩

theorem module_controller
    (present : g.controller? module = some c) :
    c.module = module := by
  unfold controller? at present
  split at present
  · cases present
  · cases present
    rfl

/-- Each controller of a run is that of its module. -/
theorem present_of_mem_controllers
    (member : c ∈ g.controllers) :
    g.controller? c.module = some c := by
  obtain ⟨module, present⟩ := mem_controllers.1 member
  rwa [module_controller present]

theorem mem_models
    {m : Model} :
    m ∈ g.models ↔ ∃ d ∈ g.project.declarations, d.entity.isModel = true ∧ g.model d = m := by
  simp [models, and_assoc]

/-- Sorted by kind, the sources are the controllers, the model classes and the application class. -/
theorem perm_sources (g : Generator) :
    g.sources.Perm (g.controllers.map Controller.artifact ++ g.models.map Model.artifact ++
      [g.application.artifact]) := by
  have controllers : g.project.modules.entries.flatMap
      (fun entry => ((g.controller? entry.1).map Controller.artifact).toList) =
        g.controllers.map Controller.artifact := by
    rw [Generator.controllers, List.map_filterMap, ← List.filterMap_eq_flatMap_toList]
  have models : g.project.modules.entries.flatMap
      (fun entry => (modelsOf entry).map fun d => (g.model d).artifact) =
        g.models.map Model.artifact := by
    simp [Generator.models, Project.declarations, modelsOf, List.filter_flatMap, List.map_flatMap,
      Function.comp_def]
  refine List.Perm.append_right _ ?_
  rw [← controllers, ← models]
  exact (List.flatMap_append_perm _ _ _).symm

/-- Each source is rendered at its own path. -/
theorem Emits.paths_sources
    {sources templates : List Artifact}
    (h : g.Emits tree sources templates) :
    sources.map Artifact.path = g.sources.map Artifact.path := by
  have same : List.Forall₂ (fun source unit : Artifact => source.path = unit.path)
      g.sources sources := h.headed.imp fun source unit ⟨_, _, shape⟩ => by rw [shape]
  exact (List.forall₂_eq_eq_eq ▸ List.forall₂_map_left_iff.2 (List.forall₂_map_right_iff.2 same) :
    g.sources.map Artifact.path = sources.map Artifact.path).symm

/-- With the program's own template files, a run renders its sources and these, at their paths. -/
theorem paths_of_artifacts
    (templates : g.templates = .builtIn)
    (done : g.artifacts tree = .ok units) :
    units.map Artifact.path = g.sources.map Artifact.path ++ Template.builtIn.map Prod.fst := by
  obtain ⟨sources, files, rfl, emits⟩ := exists_emits_of_artifacts done
  have made := emits.templates
  rw [templates] at made
  obtain rfl := Except.ok.inj made
  simp [emits.paths_sources, Template.builtInArtifact, Template.artifact, Function.comp_def]

/-- Only a handler can keep a run with the program's own template files from succeeding. -/
theorem exists_artifacts_of_handlers
    (tree : FileTree)
    (templates : g.templates = .builtIn)
    (made : ∀ module c, g.controller? module = some c →
      ∀ h ∈ c.handlers, c.handlerResult h = .ok ()) :
    ∃ units, g.artifacts tree = .ok units := by
  cases done : g.artifacts tree with
  | ok units => exact ⟨units, rfl⟩
  | error failure =>
      rcases handlers_or_templates_of_firstFailure (artifacts_eq_error.1 done) with
        ⟨entry, -, c, present, front, h, back, whole, -, fails⟩ | unreadable
      · rw [made entry.1 c present h (by simp [whole])] at fails
        cases fails
      · rw [templates] at unreadable
        cases unreadable

end Sources

end Generator
end Scaffold
