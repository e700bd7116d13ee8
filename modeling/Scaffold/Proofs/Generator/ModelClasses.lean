import Scaffold.Proofs.Generator.Sources
import Scaffold.Proofs.Java.Agreement

/-!
# References and model files

A reference is resolved at its first dot and named after its last one, and which classes are declared
twice is decided for a whole project.  In an accepted project the three agree: the class that a
reference stands for is that of the entity which the reference resolves to, and of the model files of a
run, exactly one has this class.
-/

namespace Scaffold

open Java (Controller)
open Manifest (Declaration Project)

namespace Generator

/-- The class is that of one model file of the run and of no other: the file of the entity. -/
structure HasOneModel
    (g : Generator)
    (className : String)
    (d : Declaration) : Prop extends HasModel g className d where
  single : g.models.filter (fun m => m.className = className) = [g.model d]

section ModelClasses

variable {g : Generator} {d : Declaration}

/-- The only member of a list without repetitions that has a property is what is left of the list. -/
theorem filter_eq_singleton
    {α : Type}
    {p : α → Bool}
    {x : α}
    {xs : List α}
    (distinct : xs.Nodup)
    (member : x ∈ xs)
    (holds : p x = true)
    (only : ∀ y ∈ xs, p y = true → y = x) :
    xs.filter p = [x] := by
  have kept : ∀ y ∈ xs.filter p, y = x := fun y among =>
    only y (List.mem_filter.1 among).1 (List.mem_filter.1 among).2
  exact List.perm_singleton.1 ((List.perm_ext_iff_of_nodup (distinct.filter p)
    (List.nodup_singleton x)).2 fun y => by
      constructor
      · exact fun among => List.mem_singleton.2 (kept y among)
      · intro same
        rw [List.mem_singleton.1 same]
        exact List.mem_filter.2 ⟨member, holds⟩)

/-- Of the model classes of a run, those of a class are those of the entities with that class. -/
theorem filter_models
    (g : Generator)
    (className : String) :
    g.models.filter (fun m => m.className = className) =
      (g.project.declarations.filter fun d =>
        d.entity.isModel && Naming.className d.name = className).map g.model := by
  rw [models, List.filter_map, List.filter_filter]
  refine congrArg (List.map g.model) (List.filter_congr fun d _ => ?_)
  have named : (g.model d).className = Naming.className d.name := rfl
  rw [Function.comp_apply, named, Bool.and_comm]

/-- In an accepted project, an entity that becomes a model class has its class for itself. -/
theorem hasOneModel
    (accepted : g.project.Accepted)
    (declared : d ∈ g.project.declarations)
    (isModel : d.entity.isModel = true) :
    g.HasOneModel (Naming.className d.name) d := by
  have file := hasModel accepted declared isModel
  have only : g.project.declarations.filter (fun e =>
      e.entity.isModel && Naming.className e.name = Naming.className d.name) = [d] := by
    refine filter_eq_singleton g.project.nodup_declarations declared (by simp [isModel])
      fun e declared' same => ?_
    obtain ⟨isModel', named⟩ : e.entity.isModel = true ∧
        Naming.className e.name = Naming.className d.name := by simpa using same
    exact file.only e declared' isModel' named
  exact ⟨file, by rw [filter_models, only, List.map_singleton]⟩

/-- References, class names and model files agree.

In an accepted project, a reference that resolves to an enumeration or to concrete data stands for the
class named for that entity, seen from any module and with or without a module in it.  Exactly one
model file of the run has this class, and it is the file of the entity.  So does the return type of
every handler. -/
theorem references_agree_with_model_files
    (g : Generator)
    (accepted : g.project.violation? = none) :
    (∀ module reference d,
      g.project.resolve? module reference = some d → d.entity.isModel = true →
        Naming.className reference = Naming.pascal d.name ∧
          g.HasOneModel (Naming.className reference) d) ∧
      ∀ module, ∀ h ∈ g.project.handlers module,
        Controller.responseClass h = Naming.pascal h.response.name ∧
          g.HasOneModel (Controller.responseClass h) h.response := by
  have kept := Project.violation?_eq_none_iff.1 accepted
  constructor
  · intro module reference d resolved isModel
    have declared := Project.mem_declarations_of_resolve resolved
    have named := kept.className_of_resolve resolved
    rw [named]
    exact ⟨kept.className_eq declared, hasOneModel kept declared isModel⟩
  · intro module h among
    obtain ⟨declared, concrete⟩ := Project.response_of_mem_handlers among
    have isModel := Manifest.Entity.isModel_of_isConcreteData concrete
    exact ⟨kept.className_eq declared, hasOneModel kept declared isModel⟩

/-- In a clinic, a reference to a kind of pet with its module in it stands for the class of the file. -/
theorem clinic_references_agree_with_model_files :
    clinic.violation? = none ∧
      (∃ d, clinic.resolve? "m" "m.Kind" = some d ∧ d.entity.isModel = true ∧
        Naming.className "m.Kind" = Naming.pascal d.name ∧
          (mocking clinic).HasOneModel (Naming.className "m.Kind") d) ∧
      ∃ h ∈ clinic.handlers "m",
        Controller.responseClass h = Naming.pascal h.response.name ∧
          (mocking clinic).HasOneModel (Controller.responseClass h) h.response := by
  have project : (mocking clinic).project = clinic := rfl
  have agree := references_agree_with_model_files (mocking clinic) clinic_accepted
  rw [project] at agree
  have isModel : (clinic.resolve? "m" "m.Kind").any (·.entity.isModel) = true := by
    decide +kernel
  obtain ⟨d, resolved, isModel⟩ := (Option.any_eq_true _ _).1 isModel
  obtain ⟨h, among, -⟩ : ∃ h ∈ clinic.handlers "m", h.response.name = "Pet" := by decide +kernel
  exact ⟨clinic_accepted, ⟨d, resolved, isModel, agree.1 "m" "m.Kind" d resolved isModel⟩,
    h, among, agree.2 "m" h among⟩

end ModelClasses

end Generator
end Scaffold
