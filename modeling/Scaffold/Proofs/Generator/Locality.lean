import Scaffold.Proofs.Generator.FailureCauses
import Scaffold.Proofs.Java.Locality

/-!
# One more module leaves the other files alone

Two runs are compared: one for a project, and one for the project with one more module somewhere among
the others.  When no reference of the project reaches an entity of that module, every other module
renders to what it rendered to, so the second run puts the files of the first on disk, in their order,
and the files of the module as one block in between.
-/

namespace Scaffold

open Java (Controller)
open Manifest (Declaration Project)

/-- Two sources of template files give the same files, whatever their placeholders stand for. -/
def TemplateSource.SameFiles
    (source : TemplateSource)
    (tree : FileTree)
    (other : TemplateSource)
    (otherTree : FileTree) : Prop :=
  ∀ tokens files, source.artifacts tree tokens = .ok files ↔ other.artifacts otherTree tokens = .ok files

namespace Generator

section Locality

variable {wide narrow : Project} {added : String × Manifest.Module} {module : String}
  {base wideBase : Path} {tree wideTree : FileTree} {units : List Artifact}

/-- The fields of what the narrow project declares refer to what they referred to. -/
theorem refersAlike_of_enlarges
    (enlarged : wide.Enlarges added narrow)
    (ignored : narrow.Ignores added) :
    Java.Mock.RefersAlike narrow wide :=
  fun _ declared _ _ entry =>
    enlarged.resolve?_of_declared ignored declared (Declaration.mem_references_of_field entry)

/-- The other modules have the controllers that they had. -/
theorem controller_artifact_eq
    (enlarged : wide.Enlarges added narrow)
    (ignored : narrow.Ignores added)
    (other : module ≠ added.1) :
    ((ofProject wide wideBase).controller? module).map Controller.artifact =
      ((ofProject narrow base).controller? module).map Controller.artifact := by
  have data : (ofProject wide wideBase).demoData = (ofProject narrow base).demoData := by
    simp [ofProject, enlarged.options]
  have handlers : (ofProject wide wideBase).project.handlers module =
      (ofProject narrow base).project.handlers module := enlarged.handlers_eq ignored other
  have indent : indentOf (ofProject wide wideBase).project.options =
      indentOf (ofProject narrow base).project.options := congrArg indentOf enlarged.options
  simp only [controller?, data, handlers, indent]
  cases given : (ofProject narrow base).project.handlers module with
  | nil => rfl
  | cons h rest =>
      have answers : ∀ h' ∈ h :: rest, wide.resolve? h'.response.module h'.response.name =
          narrow.resolve? h'.response.module h'.response.name := by
        intro h' among
        have among' : h' ∈ narrow.handlers module := given ▸ among
        exact enlarged.resolve?_self_eq (Project.response_of_mem_handlers among').1
      exact congrArg some (Controller.artifact_congr
        (c := ⟨narrow, module, h :: rest, (ofProject narrow base).demoData, _⟩)
        (standard_ofProject narrow base) enlarged.settings enlarged.options (enlarged.get?_eq other)
        (refersAlike_of_enlarges enlarged ignored) answers)

/-- The other modules have the sources that they had. -/
theorem moduleArtifacts_eq
    (enlarged : wide.Enlarges added narrow)
    (ignored : narrow.Ignores added)
    {entry : String × Manifest.Module}
    (member : entry ∈ narrow.modules.entries) :
    (ofProject wide wideBase).moduleArtifacts entry =
      (ofProject narrow base).moduleArtifacts entry := by
  have controllers : ((ofProject wide wideBase).controller? entry.1).map Controller.artifact =
      ((ofProject narrow base).controller? entry.1).map Controller.artifact :=
    controller_artifact_eq enlarged ignored (enlarged.ne_of_mem member)
  have models : (ofProject wide wideBase).model = (ofProject narrow base).model := by
    funext d
    simp [model, ofProject, enlarged.settings, enlarged.options]
  rw [moduleArtifacts, moduleArtifacts, controllers, models]

/-- The sources of the added module stand as one block among those that there were. -/
theorem exists_sources_eq
    (enlarged : wide.Enlarges added narrow)
    (ignored : narrow.Ignores added) :
    ∃ front back,
      (ofProject narrow base).sources = front ++ back ∧
        (ofProject wide wideBase).sources =
          front ++ ((ofProject wide wideBase).moduleArtifacts added ++ back) := by
  obtain ⟨earlier, later, before, after⟩ := enlarged.inserted
  have same : ∀ entries ⊆ narrow.modules.entries,
      entries.flatMap (ofProject wide wideBase).moduleArtifacts =
        entries.flatMap (ofProject narrow base).moduleArtifacts := fun entries within =>
    List.flatMap_congr fun entry member =>
      moduleArtifacts_eq enlarged ignored (within member)
  have application : (ofProject wide wideBase).application = (ofProject narrow base).application := by
    simp [application, ofProject, enlarged.settings, enlarged.options]
  have narrowSources : (ofProject narrow base).sources =
      earlier.flatMap (ofProject narrow base).moduleArtifacts ++
        (later.flatMap (ofProject narrow base).moduleArtifacts ++
          [(ofProject narrow base).application.artifact]) := by
    simp [sources, ofProject, before]
  have wideSources : (ofProject wide wideBase).sources =
      earlier.flatMap (ofProject wide wideBase).moduleArtifacts ++
        ((ofProject wide wideBase).moduleArtifacts added ++
          (later.flatMap (ofProject wide wideBase).moduleArtifacts ++
            [(ofProject wide wideBase).application.artifact])) := by
    simp [sources, ofProject, after]
  refine ⟨_, _, narrowSources, ?_⟩
  rw [wideSources, application, same earlier (by simp [before]), same later (by simp [before])]

/-- A run for a project with one more module puts the same files on disk and those of the module.

When no response and no field of a project refers to an entity of the module, by its name or behind the
name of the module, and the template files are the same, the run for the larger project succeeds only if
the run for the project does.  It puts on disk what that run does, path by path and byte by byte in the
same order, and in between, as one block, the controller and the model classes of the module. -/
theorem added_module_leaves_other_files_alone
    (enlarged : wide.Enlarges added narrow)
    (ignored : narrow.Ignores added)
    (sameFiles : (TemplateSource.ofProject wide wideBase).SameFiles wideTree
      (.ofProject narrow base) tree)
    (done : (ofProject wide wideBase).artifacts wideTree = .ok units) :
    ∃ front own back,
      units = front ++ own ++ back ∧
        (ofProject narrow base).artifacts tree = .ok (front ++ back) ∧
        List.Forall₂ Headed ((ofProject wide wideBase).moduleArtifacts added) own := by
  obtain ⟨rendered, templates, rfl, emits⟩ := exists_emits_of_artifacts done
  obtain ⟨front, back, narrowSources, wideSources⟩ :
      ∃ front back, (ofProject narrow base).sources = front ++ back ∧
        (ofProject wide wideBase).sources =
          front ++ ((ofProject wide wideBase).moduleArtifacts added ++ back) :=
    exists_sources_eq enlarged ignored
  have headed := emits.headed
  rw [wideSources] at headed
  obtain ⟨first, others, rfl, before, rest⟩ := exists_append_of_forall₂ headed
  obtain ⟨own, last, rfl, inside, after⟩ := exists_append_of_forall₂ rest
  have tokens : (ofProject wide wideBase).tokens = (ofProject narrow base).tokens := by
    simp [Generator.tokens, Tokens.ofProject, ofProject, enlarged.settings]
  have narrowEmits : (ofProject narrow base).Emits tree (first ++ last) templates := by
    constructor
    · rw [narrowSources]
      exact List.rel_append before after
    · exact (sameFiles _ _).1 (tokens ▸ emits.templates)
  refine ⟨first, own, last ++ templates, by simp, ?_, inside⟩
  rw [narrowEmits.artifacts_eq, List.append_assoc]

/-- The clinic with mock responses. -/
def practice : Project :=
  { clinic with options := { demoData := true } }

/-- A module of people with a name of its own for each of them, one of which another module has too. -/
def staff : String × Manifest.Module :=
  ("staff", { entities := ⟨
    [("Vet", { kind := .data, fields := ⟨[("likes", .ref "m.Kind")], by decide⟩ }),
     ("GetVet", { kind := .request, method := some "GET", response := some "Vet" }),
     ("GetPet", { kind := .request, method := some "GET", response := some "m.Pet" })],
    by decide⟩ })

/-- The practice with its staff in front. -/
def staffedPractice : Project :=
  { practice with modules := ⟨staff :: practice.modules.entries, by decide⟩ }

theorem staffedPractice_references :
    ∀ d ∈ staffedPractice.declarations, Java.Mock.ReferencesHold staffedPractice d := by
  decide +kernel

theorem staff_leaves_practice_alone :
    staffedPractice.Enlarges staff practice ∧ practice.Ignores staff ∧
      ∃ front own back,
        (ofProject staffedPractice ⟨""⟩).artifacts .empty = .ok (front ++ own ++ back) ∧
          (ofProject practice ⟨""⟩).artifacts .empty = .ok (front ++ back) ∧
          List.Forall₂ Headed ((ofProject staffedPractice ⟨""⟩).moduleArtifacts staff) own := by
  have enlarged : staffedPractice.Enlarges staff practice := ⟨rfl, rfl, [], _, rfl, rfl⟩
  have ignored : practice.Ignores staff := by
    unfold Project.Ignores
    decide
  have sameFiles : (TemplateSource.ofProject staffedPractice ⟨""⟩).SameFiles .empty
      (.ofProject practice ⟨""⟩) .empty := fun _ _ => Iff.rfl
  obtain ⟨units, done⟩ : ∃ units, (ofProject staffedPractice ⟨""⟩).artifacts .empty = .ok units :=
    exists_artifacts_of_handlers .empty rfl fun _ _ present =>
      handlerResult_of_hold rfl staffedPractice_references present
  obtain ⟨front, own, back, rfl, before, headed⟩ :=
    added_module_leaves_other_files_alone enlarged ignored sameFiles done
  exact ⟨enlarged, ignored, front, own, back, done, before, headed⟩

end Locality

end Generator
end Scaffold
