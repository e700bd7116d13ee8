import Mathlib.Data.List.Nodup
import Scaffold.Manifest.Eligibility

/-!
# The declarations of a project

No two declarations of a project have the same module and name, so an entity that is found by its
module and its name is the one that is declared there, and it finds itself again.  What the handlers
of a project answer with is among its declarations.
-/

namespace Scaffold
namespace Manifest

section Declarations

variable {project : Project} {d e : Declaration}

theorem mem_declarationsOf
    {entry : String × Module} :
    d ∈ Project.declarationsOf entry ↔
      d.module = entry.1 ∧ (d.name, d.entity) ∈ entry.2.entities.entries := by
  unfold Project.declarationsOf
  rw [List.mem_map]
  constructor
  · rintro ⟨⟨name, entity⟩, member, rfl⟩
    exact ⟨rfl, member⟩
  · rintro ⟨home, member⟩
    exact ⟨(d.name, d.entity), member, by rw [← home]⟩

theorem Project.mem_declarations :
    d ∈ project.declarations ↔
      ∃ entry ∈ project.modules.entries, d ∈ Project.declarationsOf entry := by
  simp [Project.declarations]

theorem nodup_ids_declarationsOf (entry : String × Module) :
    ((Project.declarationsOf entry).map Declaration.id).Nodup := by
  have same : (Project.declarationsOf entry).map Declaration.id =
      entry.2.entities.keys.map fun name => (entry.1, name) := by
    simp [Project.declarationsOf, Declaration.id, OrderedMap.keys, Entries.keys]
  rw [same]
  exact entry.2.entities.distinct.map fun _ _ same => (Prod.mk.inj same).2

/-- No two declarations have the same module and name. -/
theorem Project.nodup_ids_declarations (project : Project) :
    (project.declarations.map Declaration.id).Nodup := by
  unfold Project.declarations
  rw [List.map_flatMap, List.nodup_flatMap]
  constructor
  · intro entry _
    exact nodup_ids_declarationsOf entry
  · have apart : project.modules.entries.Pairwise fun a b => a.1 ≠ b.1 :=
      List.pairwise_map.1 project.modules.distinct
    refine apart.imp ?_
    intro first second differ id inFirst inSecond
    obtain ⟨d, left, rfl⟩ := List.mem_map.1 inFirst
    obtain ⟨e, right, same⟩ := List.mem_map.1 inSecond
    have homes : e.module = d.module := (Prod.mk.inj same).1
    exact differ ((mem_declarationsOf.1 left).1.symm.trans
      (homes.symm.trans (mem_declarationsOf.1 right).1))

theorem Project.nodup_declarations (project : Project) : project.declarations.Nodup :=
  project.nodup_ids_declarations.of_map Declaration.id

/-- A declaration is determined by its module and its name. -/
theorem Project.eq_of_id_eq
    (left : d ∈ project.declarations)
    (right : e ∈ project.declarations)
    (same : d.id = e.id) :
    d = e :=
  List.inj_on_of_nodup_map project.nodup_ids_declarations left right same

/-- What stands before a declaration are the declarations up to the first with its module and
name. -/
theorem Project.takeWhile_ne_id
    {front back : List Declaration}
    (whole : project.declarations = front ++ d :: back) :
    project.declarations.takeWhile (fun e => e.id != d.id) = front := by
  have distinct := project.nodup_ids_declarations
  rw [whole, List.map_append, List.map_cons, List.nodup_append] at distinct
  have others : ∀ e ∈ front, (e.id != d.id) = true := by
    intro e member
    have differ := distinct.2.2 e.id (List.mem_map_of_mem member) d.id List.mem_cons_self
    simpa using differ
  rw [whole, List.takeWhile_append_of_pos others]
  simp

/-- What a module declares under a name is a declaration with that module and name. -/
theorem Project.id_of_declared
    {module name : String}
    (found : project.declared? module name = some d) :
    d.id = (module, name) := by
  unfold Project.declared? at found
  split at found
  · cases found
  · obtain ⟨entity, -, rfl⟩ := Option.map_eq_some_iff.1 found
    rfl

/-- A declaration is what its module declares under its name. -/
theorem Project.declared_self
    (member : d ∈ project.declarations) :
    project.declared? d.module d.name = some d := by
  obtain ⟨⟨module, m⟩, known, among⟩ := Project.mem_declarations.1 member
  obtain ⟨rfl, entry⟩ := mem_declarationsOf.1 among
  have home : project.modules.get? d.module = some m :=
    project.modules.get?_eq_some_iff.2 known
  have own : m.entities.get? d.name = some d.entity :=
    m.entities.get?_eq_some_iff.2 entry
  simp [Project.declared?, home, own]

/-- Seen from its own module, the name of a declaration resolves to it. -/
theorem Project.resolve_self
    (member : d ∈ project.declarations) :
    project.resolve? d.module d.name = some d := by
  simp [Project.resolve?, Project.declared_self member]

/-- The response of a request is concrete data that the project declares. -/
theorem Project.concrete_of_response
    (answered : project.response? d = some e) :
    e ∈ project.declarations ∧ e.entity.isConcreteData = true := by
  unfold Project.response? at answered
  split at answered
  · cases answered
  split at answered
  · next target resolved =>
      split at answered
      · next concrete =>
          cases answered
          exact ⟨Project.mem_declarations_of_resolve resolved, concrete⟩
      · cases answered
  · cases answered

/-- What an entity is classified as: no request, abstract, without a method, without a response, or
handled. -/
theorem Project.classify_cases
    (project : Project)
    (d : Declaration) :
    (d.entity.kind ≠ .request ∧ project.classify d = .error .notARequest) ∨
      (d.entity.kind = .request ∧ d.entity.isAbstract = true ∧
        project.classify d = .error .abstract) ∨
      (d.entity.kind = .request ∧ d.entity.isAbstract = false ∧ d.entity.httpMethod? = none ∧
        project.classify d = .error (.unresolvedMethod d.entity.method)) ∨
      (d.entity.kind = .request ∧ d.entity.isAbstract = false ∧ d.entity.httpMethod? ≠ none ∧
        project.response? d = none ∧
        project.classify d = .error (.unresolvedResponse d.entity.response)) ∨
      (d.entity.kind = .request ∧ d.entity.isAbstract = false ∧ d.entity.httpMethod? ≠ none ∧
        project.response? d ≠ none ∧ ∃ h, project.classify d = .ok h) := by
  by_cases kind : d.entity.kind = .request
  · cases isAbstract : d.entity.isAbstract with
    | true => simp [classify, kind, isAbstract]
    | false =>
        cases method : d.entity.httpMethod? with
        | none => simp [classify, kind, isAbstract, method]
        | some method' =>
            cases answered : project.response? d with
            | none => simp [classify, kind, isAbstract, method, answered]
            | some response => simp [classify, kind, isAbstract, method, answered]
  · simp [classify, kind]

/-- A concrete request with a method and a response becomes the handler that has them, and nothing else
does. -/
theorem Project.classify_eq_ok_iff
    {h : Handler} :
    project.classify d = .ok h ↔
      h.request = d ∧ d.entity.kind = .request ∧ d.entity.isAbstract = false ∧
        d.entity.httpMethod? = some h.method ∧ project.response? d = some h.response := by
  constructor
  · intro classified
    unfold classify at classified
    split at classified
    · cases classified
    · next isRequest =>
        split at classified
        · cases classified
        · next concrete =>
            split at classified
            · cases classified
            · next method read =>
                split at classified
                · cases classified
                · next response answered =>
                    cases classified
                    exact ⟨rfl, not_not.1 isRequest, by simpa using concrete, read, answered⟩
  · rintro ⟨rfl, isRequest, concrete, read, answered⟩
    simp [classify, isRequest, concrete, read, answered]

/-- What a handler answers with is concrete data that the project declares. -/
theorem Project.response_of_mem_handlers
    {module : String}
    {h : Handler}
    (member : h ∈ project.handlers module) :
    h.response ∈ project.declarations ∧ h.response.entity.isConcreteData = true := by
  obtain ⟨d, -, found⟩ := List.mem_filterMap.1 member
  split at found
  · next handler classified =>
      cases found
      obtain ⟨-, -, -, -, answered⟩ := Project.classify_eq_ok_iff.1 classified
      exact Project.concrete_of_response answered
  · cases found

/-- What a module declares is declared in the project. -/
theorem Project.mem_declarations_of_declarationsIn
    {module : String}
    (member : d ∈ project.declarationsIn module) :
    d ∈ project.declarations := by
  unfold Project.declarationsIn at member
  split at member
  · cases member
  · next m home =>
      exact Project.mem_declarations.2
        ⟨(module, m), project.modules.get?_eq_some_iff.1 home, member⟩

/-- What a handler handles is a request that the project declares. -/
theorem Project.request_of_mem_handlers
    {module : String}
    {h : Handler}
    (member : h ∈ project.handlers module) :
    h.request ∈ project.declarations ∧ h.request.entity.kind = .request := by
  obtain ⟨d, among, found⟩ := List.mem_filterMap.1 member
  split at found
  · next handler classified =>
      cases found
      obtain ⟨rfl, kind, -⟩ := Project.classify_eq_ok_iff.1 classified
      exact ⟨Project.mem_declarations_of_declarationsIn among, kind⟩
  · cases found

/-- The requests of the handlers of a module are those of its requests that are classified as such, in
the order in which they are declared. -/
theorem Project.map_request_handlers
    (project : Project)
    (module : String) :
    (project.handlers module).map Handler.request =
      (project.declarationsIn module).filter fun d => (project.classify d).isOk := by
  unfold Project.handlers
  induction project.declarationsIn module with
  | nil => rfl
  | cons d rest ih =>
      cases classified : project.classify d with
      | error reason => simpa [classified, Except.isOk, Except.toBool] using ih
      | ok h =>
          have own := (Project.classify_eq_ok_iff.1 classified).1
          simpa [classified, Except.isOk, Except.toBool, own] using ih

end Declarations

end Manifest
end Scaffold
