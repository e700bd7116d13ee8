import Scaffold.Proofs.Generator.Members

/-!
# Which emitted names are identifiers

The rules for manifests look at names as they are written and, for keywords, at what is made of them.
What is emitted in their place has letters and digits only, and is no keyword.  It is an identifier
exactly when the first letter or digit of the name is a letter: a name may start with an underscore,
which is dropped, and go on with a digit.  The suffix of controllers makes up for a module without
letters and digits, and not for one whose first is a digit.
-/

namespace Scaffold

open Java (Controller ModelField)
open Manifest (IsIdentifier IsName Project keywords)

namespace Generator

section UsableNames

variable {g : Generator} {c : Controller}

/-- Every name that is emitted is an identifier unless the name it stands for has a digit first.

In an accepted project, the names of the classes of entities, of their fields, of handlers and of their
parameters for path variables have letters and digits only, and each is an identifier exactly when the
first letter or digit of the name it is made from is a letter.  Those of fields, handlers and parameters
are no keywords.  With the usual suffix, the name of a controller has letters and digits only, and is an
identifier exactly when the name of the module has no digit first. -/
theorem emitted_names_are_identifiers_unless_digits_lead
    (g : Generator)
    (accepted : g.project.violation? = none) :
    (∀ d ∈ g.project.declarations,
        Naming.Spells d.name (g.model d).className ∧
          List.Forall₂ Naming.StandsFor d.entity.fields.keys
            ((g.model d).fields.map ModelField.name)) ∧
      ∀ c ∈ g.controllers,
        (c.project.options.controllerSuffix = "Controller" →
          (∀ char ∈ c.className.toList, char.isAlphanum = true) ∧
            (IsIdentifier c.className ↔ (Naming.lead? c.module).any Char.isDigit = false)) ∧
        ∀ h ∈ c.handlers,
          Naming.StandsFor h.request.name (Controller.methodName h) ∧
            List.Forall₂ Naming.StandsFor h.request.entity.pathVariables
              (Controller.variableNames h) ∧
            Controller.parameterNames h =
              Controller.variableNames h ++ (if Controller.takesBody h then ["body"] else []) := by
  have kept := Project.violation?_eq_none_iff.1 accepted
  constructor
  · intro d declared
    have className : (g.model d).className = Naming.pascal d.name := kept.className_eq declared
    refine ⟨className ▸ Naming.spells_pascal (kept.isName declared), ?_⟩
    rw [Java.Model.map_name_fields]
    exact Naming.forall₂_standsFor_camel (kept.fields d declared)
  · intro c member
    have named := isName_of_mem_controllers kept member
    refine ⟨fun usual => ?_, fun h among => ?_⟩
    · have suffix : ∀ char ∈ "Controller".toList, char.isAlphanum = true := by simp
      rw [Controller.className, usual]
      exact ⟨Naming.isAlphanum_of_mem_pascal_append named suffix,
        Naming.isIdentifier_pascal_append_iff named suffix (by decide)⟩
    · obtain ⟨declared, kind⟩ := request_of_mem_controllers member among
      exact ⟨Naming.standsFor_camel (kept.entities _ declared),
        Naming.forall₂_standsFor_camel (kept.pathVariables _ declared kind),
        Controller.parameterNames_eq h⟩

/-- All names that are emitted for the shelter are identifiers. -/
theorem shelter_names_are_identifiers :
    shelter.violation? = none ∧
      (∀ d ∈ shelter.declarations, IsIdentifier ((ofProject shelter .empty).model d).className ∧
        ∀ name ∈ ((ofProject shelter .empty).model d).fields.map ModelField.name,
          IsIdentifier name ∧ name ∉ keywords) ∧
      ∀ c ∈ (ofProject shelter .empty).controllers, IsIdentifier c.className ∧
        ∀ h ∈ c.handlers, ∀ name ∈ Controller.methodName h :: Controller.variableNames h,
          IsIdentifier name ∧ name ∉ keywords := by
  have accepted : shelter.violation? = none := by decide +kernel
  have entityLetters : ∀ d ∈ shelter.declarations,
      (Naming.lead? d.name).any Char.isAlpha = true ∧
        ∀ name ∈ d.entity.fields.keys, (Naming.lead? name).any Char.isAlpha = true := by
    decide +kernel
  have controllerLetters : ∀ c ∈ (ofProject shelter .empty).controllers,
      c.project.options.controllerSuffix = "Controller" ∧
        (Naming.lead? c.module).any Char.isDigit = false ∧
        ∀ h ∈ c.handlers, (Naming.lead? h.request.name).any Char.isAlpha = true ∧
          ∀ name ∈ h.request.entity.pathVariables,
            (Naming.lead? name).any Char.isAlpha = true := by
    decide +kernel
  obtain ⟨entities, controllers⟩ :=
    emitted_names_are_identifiers_unless_digits_lead (ofProject shelter .empty) accepted
  refine ⟨accepted, fun d declared => ?_, fun c member => ?_⟩
  · obtain ⟨spells, fields⟩ := entities d declared
    obtain ⟨letter, letters⟩ := entityLetters d declared
    exact ⟨spells.isIdentifier_iff.2 letter, Naming.isIdentifier_of_standsFor fields letters⟩
  · obtain ⟨ofClass, ofHandlers⟩ := controllers c member
    obtain ⟨usual, noDigit, letters⟩ := controllerLetters c member
    refine ⟨(ofClass usual).2.2 noDigit, fun h among => ?_⟩
    obtain ⟨method, parameters, -⟩ := ofHandlers h among
    obtain ⟨letter, letters⟩ := letters h among
    exact Naming.isIdentifier_of_standsFor (.cons method parameters)
      (List.forall_mem_cons.2 ⟨letter, letters⟩)

/-- A project with a field whose name has a digit behind its first underscore. -/
def numbered : Project where
  settings := { name := "numbered" }
  modules := ⟨[("m", { entities := ⟨
    [("Pet", { kind := .data, fields := ⟨[("_1", .int)], by decide⟩ })], by decide⟩ })], by decide⟩

/-- A class of this project declares a field under a name that is no identifier. -/
theorem numbered_field_is_no_identifier :
    numbered.violation? = none ∧
      (∃ units, (ofProject numbered .empty).artifacts .empty = .ok units) ∧
      ∃ m ∈ (ofProject numbered .empty).models, ∃ field ∈ m.fields,
        m.Prints field.declaration ∧ ¬ IsIdentifier field.name := by
  obtain ⟨units, done, -⟩ :=
    exists_preview_of_placeholders (g := ofProject numbered .empty) .empty rfl rfl
  obtain ⟨m, isModel, kind, field, isField, digits⟩ : ∃ m ∈ (ofProject numbered .empty).models,
      m.entity.kind = .data ∧ ∃ field ∈ m.fields,
        Manifest.isPlainIdentifier field.name.toList = false := by
    decide +kernel
  refine ⟨by decide +kernel, ⟨units, done⟩, m, isModel, field, isField,
    Java.Model.prints_declaration kind isField, ?_⟩
  rw [← Manifest.isPlainIdentifier_iff, digits]
  exact Bool.false_ne_true

end UsableNames

end Generator
end Scaffold
