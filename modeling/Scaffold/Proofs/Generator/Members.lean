import Scaffold.Proofs.Generator.DistinctFiles
import Scaffold.Proofs.Java.Signatures
import Scaffold.Proofs.Naming.Spelling

/-!
# The members of generated classes

The names as they are written in a manifest are distinct, and those that are emitted are made from
them.  So two fields of a class collide exactly when their names are spelled alike, and two handlers of a
controller exactly when the names of their requests are and both take the same types.  No rule for
manifests keeps names of fields or of requests from being spelled alike.
-/

namespace Scaffold

open Java (Controller Model ModelField Parameter)
open Manifest (Handler IsName Project)
open Naming (Alike)

namespace Java

namespace Model

section Fields

variable {m : Model}

/-- The file of data declares each of the fields of the class. -/
theorem prints_declaration
    (kind : m.entity.kind = .data)
    {field : ModelField}
    (member : field ∈ m.fields) :
    m.Prints field.declaration := by
  have among : Code.Operation.line field.declaration ∈ m.classUnit.body :=
    List.mem_append_left _ (List.mem_map_of_mem (List.mem_map_of_mem member))
  refine prints_of_mem ?_ rfl m.completed_classUnit among ?_
  · simp [artifact, kind]
  · simp only [Code.Operation.emitted, Code.Emission.linesOf_text, List.infix_rfl]

theorem map_name_fields (m : Model) :
    m.fields.map ModelField.name = m.entity.fields.keys.map Naming.camel := by
  simp [fields, OrderedMap.keys, Entries.keys, ModelField.ofEntry, Function.comp_def]

/-- The fields of a class have different names exactly when no two of the entity are spelled alike. -/
theorem nodup_fields_iff
    (named : ∀ field ∈ m.entity.fields.keys, IsName field) :
    (m.fields.map ModelField.name).Nodup ↔
      m.entity.fields.keys.Pairwise fun a b => ¬ Alike a b := by
  rw [map_name_fields, Naming.nodup_map_camel_iff named]

end Fields

end Model

namespace Controller

/-- The names of the requests are spelled alike, and their handlers take the same types. -/
structure Clash (h h' : Handler) : Prop where
  alike : Alike h.request.name h'.request.name
  pathVariables :
    h.request.entity.pathVariables.length = h'.request.entity.pathVariables.length
  body : takesBody h = takesBody h'

section Clashes

variable {h h' : Handler}

instance : Decidable (Clash h h') :=
  decidable_of_iff
    (Alike h.request.name h'.request.name ∧
      h.request.entity.pathVariables.length = h'.request.entity.pathVariables.length ∧
      takesBody h = takesBody h')
    ⟨fun ⟨alike, lengths, bodies⟩ => ⟨alike, lengths, bodies⟩,
      fun clash => ⟨clash.alike, clash.pathVariables, clash.body⟩⟩

theorem signature_eq_iff
    (named : IsName h.request.name)
    (named' : IsName h'.request.name) :
    signature h = signature h' ↔ Clash h h' := by
  rw [signature, signature, Prod.mk.injEq, methodName, methodName,
    Naming.camel_eq_camel_iff named named', parameterTypes_eq_iff]
  exact ⟨fun ⟨alike, lengths, bodies⟩ => ⟨alike, lengths, bodies⟩,
    fun clash => ⟨clash.alike, clash.pathVariables, clash.body⟩⟩

/-- Handlers have different signatures exactly when no two of them clash. -/
theorem nodup_signatures_iff
    {handlers : List Handler}
    (named : ∀ h ∈ handlers, IsName h.request.name) :
    (handlers.map signature).Nodup ↔ handlers.Pairwise fun h h' => ¬ Clash h h' := by
  rw [List.Nodup, List.pairwise_map]
  exact List.Pairwise.iff_of_mem fun {h h'} member member' =>
    not_congr (signature_eq_iff (named h member) (named h' member'))

end Clashes

end Controller

end Java

namespace Generator

section Members

variable {g : Generator} {c : Controller} {h : Handler}

/-- What the handlers of a run handle are requests that the project declares. -/
theorem request_of_mem_controllers
    (member : c ∈ g.controllers)
    (among : h ∈ c.handlers) :
    h.request ∈ g.project.declarations ∧ h.request.entity.kind = .request := by
  obtain ⟨module, present⟩ := mem_controllers.1 member
  exact Project.request_of_mem_handlers ((controller_eq present).2.2 ▸ among)

/-- No two members of a generated class collide unless the manifest spells their names alike.

In an accepted project, the file of a class declares each of its fields, and these have different names
exactly when no two fields of the entity are spelled alike.  The header of a handler declares the name of
the method and the parameters, and no two handlers of a controller have both the same method name and the
same types of parameters exactly when no two of them clash. -/
theorem members_collide_only_when_spelled_alike
    (g : Generator)
    (accepted : g.project.violation? = none) :
    (∀ m ∈ g.models,
        (m.entity.kind = .data → ∀ field ∈ m.fields, m.Prints field.declaration) ∧
          ((m.fields.map ModelField.name).Nodup ↔
            m.entity.fields.keys.Pairwise fun a b => ¬ Alike a b)) ∧
      ∀ c ∈ g.controllers,
        (∀ h ∈ c.handlers, Controller.header h =
          "public " ++ Controller.responseClass h ++ " " ++ Controller.methodName h ++ "(" ++
            String.intercalate ", " ((Controller.parameterList h).map Parameter.render) ++ ")") ∧
          ((c.handlers.map Controller.signature).Nodup ↔
            c.handlers.Pairwise fun h h' => ¬ Controller.Clash h h') := by
  have kept := Project.violation?_eq_none_iff.1 accepted
  constructor
  · intro m member
    obtain ⟨d, declared, -, rfl⟩ := mem_models.1 member
    exact ⟨fun kind field => Model.prints_declaration kind,
      Model.nodup_fields_iff fun field known => (kept.fields d declared field known).1⟩
  · intro c member
    refine ⟨fun h _ => Controller.header_eq h, Controller.nodup_signatures_iff fun h among => ?_⟩
    exact kept.isName (request_of_mem_controllers member among).1

/-- A shelter in which one pet or all of them can be asked for under one name. -/
def shelter : Project where
  settings := { name := "shelter" }
  modules := ⟨[("m", { entities := ⟨
    [("Pet", { kind := .data, fields := ⟨
        [("owner", .string), ("owner_name", .string)], by decide⟩ }),
     ("get_pet", {
        kind := .request, method := some "GET", path := some "/pets/\x7bid\x7d",
        response := some "Pet" }),
     ("GetPet", {
        kind := .request, method := some "GET", path := some "/pets",
        response := some "Pet" })],
    by decide⟩ })], by decide⟩

/-- The fields of a pet of the shelter are distinct, and so are the two methods of one name. -/
theorem shelter_members_are_distinct :
    shelter.violation? = none ∧
      (∃ m ∈ (ofProject shelter .empty).models, m.entity.kind = .data ∧
        (∀ field ∈ m.fields, m.Prints field.declaration) ∧
          (m.fields.map ModelField.name).Nodup) ∧
      ∃ c ∈ (ofProject shelter .empty).controllers,
        c.handlers.map Controller.methodName = ["getPet", "getPet"] ∧
          (c.handlers.map Controller.signature).Nodup := by
  have accepted : shelter.violation? = none := by decide +kernel
  obtain ⟨m, isModel, kind, spelled⟩ : ∃ m ∈ (ofProject shelter .empty).models,
      m.entity.kind = .data ∧ m.entity.fields.keys.Pairwise fun a b => ¬ Alike a b := by
    decide +kernel
  obtain ⟨c, isController, names, apart⟩ : ∃ c ∈ (ofProject shelter .empty).controllers,
      c.handlers.map Controller.methodName = ["getPet", "getPet"] ∧
        c.handlers.Pairwise fun h h' => ¬ Controller.Clash h h' := by
    decide +kernel
  obtain ⟨models, controllers⟩ :=
    members_collide_only_when_spelled_alike (ofProject shelter .empty) accepted
  obtain ⟨declares, distinct⟩ := models m isModel
  exact ⟨accepted, ⟨m, isModel, kind, declares kind, distinct.2 spelled⟩,
    c, isController, names, (controllers c isController).2.2 apart⟩

/-- A shelter with two fields and two requests that are spelled alike. -/
def doubles : Project where
  settings := { name := "doubles" }
  modules := ⟨[("m", { entities := ⟨
    [("Pet", { kind := .data, fields := ⟨
        [("owner_id", .long), ("ownerId", .long)], by decide⟩ }),
     ("get_pet", {
        kind := .request, method := some "GET", path := some "/pet",
        response := some "Pet" }),
     ("GetPet", {
        kind := .request, method := some "GET", path := some "/pets",
        response := some "Pet" })],
    by decide⟩ })], by decide⟩

/-- A class of this project has one field twice, and its controller has one method twice. -/
theorem doubles_have_colliding_members :
    doubles.violation? = none ∧
      (∃ units, (ofProject doubles .empty).artifacts .empty = .ok units) ∧
      (∃ m ∈ (ofProject doubles .empty).models, m.entity.kind = .data ∧
        ¬ (m.fields.map ModelField.name).Nodup) ∧
      ∃ c ∈ (ofProject doubles .empty).controllers,
        ¬ (c.handlers.map Controller.signature).Nodup := by
  obtain ⟨units, done, -⟩ :=
    exists_preview_of_placeholders (g := ofProject doubles .empty) .empty rfl rfl
  exact ⟨by decide +kernel, ⟨units, done⟩, by decide +kernel, by decide +kernel⟩

end Members

end Generator
end Scaffold
