import Scaffold.Manifest.Project

/-!
# Resolution of references

A reference is looked up in the module that mentions it first.  Failing that, a dotted reference
names its module before the first dot, and a bare one must be declared by exactly one module.
-/

namespace Scaffold
namespace Manifest
namespace Project

open Text

/-- The declarations of a name, one for each module that declares it. -/
def declarationsNamed
    (project : Project)
    (name : String) : List Declaration :=
  project.modules.entries.filterMap fun (module, m) =>
    (m.entities.get? name).map fun entity => ⟨module, name, entity⟩

/-- The entity that a reference outside its own module names. -/
def resolveAbroad?
    (project : Project)
    (reference : String) : Option Declaration :=
  match cutAt? '.' reference.toList with
  | some (module, name) => project.declared? (String.ofList module) (String.ofList name)
  | none =>
      match project.declarationsNamed reference with
      | [only] => some only
      | _ => none

/-- The entity that a reference names, seen from a module. -/
def resolve?
    (project : Project)
    (module reference : String) : Option Declaration :=
  match project.declared? module reference with
  | some found => some found
  | none => project.resolveAbroad? reference

/-- What a module declares is among the declarations of the project. -/
theorem mem_declarations_of_declared
    {project : Project}
    {module name : String}
    {d : Declaration}
    (h : project.declared? module name = some d) :
    d ∈ project.declarations := by
  unfold declared? at h
  split at h
  · cases h
  · next m found =>
      obtain ⟨entity, known, same⟩ := Option.map_eq_some_iff.1 h
      refine List.mem_flatMap.2 ⟨(module, m), Entries.mem_of_lookup_eq_some found, ?_⟩
      exact List.mem_map.2 ⟨(name, entity), Entries.mem_of_lookup_eq_some known, same⟩

/-- What is declared under a name anywhere is among the declarations of the project. -/
theorem mem_declarations_of_named
    {project : Project}
    {name : String}
    {d : Declaration}
    (h : d ∈ project.declarationsNamed name) :
    d ∈ project.declarations := by
  obtain ⟨⟨module, m⟩, member, found⟩ := List.mem_filterMap.1 h
  obtain ⟨entity, known, same⟩ := Option.map_eq_some_iff.1 found
  refine List.mem_flatMap.2 ⟨(module, m), member, ?_⟩
  exact List.mem_map.2 ⟨(name, entity), Entries.mem_of_lookup_eq_some known, same⟩

/-- What a reference resolves to is among the declarations of the project. -/
theorem mem_declarations_of_resolve
    {project : Project}
    {module reference : String}
    {d : Declaration}
    (h : project.resolve? module reference = some d) :
    d ∈ project.declarations := by
  unfold resolve? at h
  split at h
  · next found hit =>
      cases h
      exact mem_declarations_of_declared hit
  · unfold resolveAbroad? at h
    split at h
    · exact mem_declarations_of_declared h
    · split at h
      · next only hit =>
          cases h
          exact mem_declarations_of_named (hit ▸ List.mem_singleton_self d)
      · cases h

end Project
end Manifest
end Scaffold
