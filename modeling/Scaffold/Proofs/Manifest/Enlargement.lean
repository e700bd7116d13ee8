import Scaffold.Proofs.Manifest.Declarations
import Scaffold.Proofs.Text.Pieces

/-!
# Projects with one more module

A bare reference is looked up in all modules, so one more module can take over a reference anywhere:
by declaring its name first, or by declaring it a second time.  A module can be referred to from
outside only by the names of its entities, bare or behind its own name and a dot.  As long as no
reference of a project is one of these, whatever the project declares resolves, and is classified, as
it was without the module.
-/

namespace Scaffold
namespace Manifest

open Text

namespace FieldType

/-- What a field of the type refers to; a list refers to nothing, whatever its items are. -/
def reference? : FieldType → Option String
  | ref name => some name
  | _ => none

end FieldType

namespace Declaration

/-- The references of an entity as they are written: its response and those of its fields. -/
def references (d : Declaration) : List String :=
  d.entity.response.toList ++ d.entity.fields.values.filterMap FieldType.reference?

/-- The reference of a field is one of its entity. -/
theorem mem_references_of_field
    {d : Declaration}
    {field reference : String}
    (entry : (field, FieldType.ref reference) ∈ d.entity.fields.entries) :
    reference ∈ d.references := by
  have type : FieldType.ref reference ∈ d.entity.fields.values := List.mem_map.2 ⟨_, entry, rfl⟩
  exact List.mem_append_right _ (List.mem_filterMap.2 ⟨_, type, rfl⟩)

end Declaration

namespace Project

/-- The references of a project as they are written. -/
def references (project : Project) : List String :=
  project.declarations.flatMap Declaration.references

/-- The references by which other modules reach the entities of a module. -/
def addresses (entry : String × Module) : List String :=
  entry.2.entities.keys.flatMap fun name => [name, entry.1 ++ "." ++ name]

/-- No reference of the project reaches an entity of the module. -/
def Ignores
    (project : Project)
    (entry : String × Module) : Prop :=
  ∀ reference ∈ project.references, reference ∉ addresses entry

/-- The first project is the second with one more module, somewhere among the others. -/
structure Enlarges
    (wide : Project)
    (added : String × Module)
    (narrow : Project) : Prop where
  settings : wide.settings = narrow.settings
  options : wide.options = narrow.options
  inserted : ∃ front back,
    narrow.modules.entries = front ++ back ∧ wide.modules.entries = front ++ added :: back

section Enlargement

variable {wide narrow : Project} {added : String × Module} {module name reference : String}
  {d : Declaration}

theorem mem_references
    (declared : d ∈ narrow.declarations)
    (member : reference ∈ d.references) :
    reference ∈ narrow.references :=
  List.mem_flatMap.2 ⟨d, declared, member⟩

/-- A reference that reaches no entity of a module is the name of none, bare or behind a dot. -/
theorem get?_eq_none_of_not_mem_addresses
    (apart : name ∉ addresses added ∨ added.1 ++ "." ++ name ∉ addresses added) :
    added.2.entities.get? name = none := by
  cases found : added.2.entities.get? name with
  | none => rfl
  | some entity =>
      have key : name ∈ added.2.entities.keys :=
        List.mem_map.2 ⟨_, added.2.entities.get?_eq_some_iff.1 found, rfl⟩
      have reached : name ∈ addresses added ∧ added.1 ++ "." ++ name ∈ addresses added :=
        ⟨List.mem_flatMap.2 ⟨name, key, by simp⟩, List.mem_flatMap.2 ⟨name, key, by simp⟩⟩
      rcases apart with bare | dotted
      · exact absurd reached.1 bare
      · exact absurd reached.2 dotted

namespace Enlarges

variable (enlarged : wide.Enlarges added narrow)
include enlarged

/-- The modules of the narrow project are not called as the added one. -/
theorem ne_of_mem
    {entry : String × Module}
    (member : entry ∈ narrow.modules.entries) :
    entry.1 ≠ added.1 := by
  obtain ⟨front, back, before, after⟩ := enlarged.inserted
  have distinct := wide.modules.distinct
  rw [after, Entries.keys, List.map_append, List.map_cons, List.nodup_middle,
    ← List.map_append, ← before] at distinct
  intro same
  exact (List.nodup_cons.1 distinct).1 (same ▸ List.mem_map_of_mem member)

/-- The other modules are as they were. -/
theorem get?_eq
    (other : module ≠ added.1) :
    wide.modules.get? module = narrow.modules.get? module := by
  obtain ⟨front, back, before, after⟩ := enlarged.inserted
  have differs : (module == added.1) = false := by simpa using other
  have skipped : (added :: back).lookup module = back.lookup module := by
    obtain ⟨home, m⟩ := added
    simp [List.lookup_cons, differs]
  simp [OrderedMap.get?, before, after, List.lookup_append, skipped]

theorem get?_added :
    wide.modules.get? added.1 = some added.2 := by
  obtain ⟨front, back, -, after⟩ := enlarged.inserted
  exact wide.modules.get?_eq_some_iff.2 (by simp [after])

theorem get?_narrow_added :
    narrow.modules.get? added.1 = none := by
  cases found : narrow.modules.get? added.1 with
  | none => rfl
  | some m =>
      have differs := enlarged.ne_of_mem (narrow.modules.get?_eq_some_iff.1 found)
      exact absurd rfl differs

/-- What is declared in the narrow project has its place in another module than the added one. -/
theorem module_ne
    (declared : d ∈ narrow.declarations) :
    d.module ≠ added.1 := by
  obtain ⟨entry, member, among⟩ := mem_declarations.1 declared
  rw [(mem_declarationsOf.1 among).1]
  exact enlarged.ne_of_mem member

/-- A module declares under a name what it declared, unless it is the added one and has the name. -/
theorem declared?_eq
    (apart : module = added.1 → added.2.entities.get? name = none) :
    wide.declared? module name = narrow.declared? module name := by
  by_cases same : module = added.1
  · have absent := apart same
    subst same
    simp [declared?, enlarged.get?_added, enlarged.get?_narrow_added, absent]
  · simp [declared?, enlarged.get?_eq same]

/-- A name that the added module does not declare is declared by the modules that declared it. -/
theorem declarationsNamed_eq
    (absent : added.2.entities.get? name = none) :
    wide.declarationsNamed name = narrow.declarationsNamed name := by
  obtain ⟨front, back, before, after⟩ := enlarged.inserted
  simp [declarationsNamed, before, after, List.filterMap_append, absent]

/-- Outside its own module, a reference that does not reach the added one names what it named. -/
theorem resolveAbroad?_eq
    (apart : reference ∉ addresses added) :
    wide.resolveAbroad? reference = narrow.resolveAbroad? reference := by
  unfold resolveAbroad?
  cases cut : cutAt? '.' reference.toList with
  | none => rw [enlarged.declarationsNamed_eq (get?_eq_none_of_not_mem_addresses (.inl apart))]
  | some parts =>
      obtain ⟨home, name⟩ := parts
      refine enlarged.declared?_eq fun same => get?_eq_none_of_not_mem_addresses (.inr ?_)
      have whole : reference = String.ofList home ++ "." ++ String.ofList name := by
        rw [← String.toList_inj]
        simp [eq_append_of_cutAt cut]
      rwa [← same, ← whole]

/-- Seen from another module, a reference that does not reach the added one names what it named. -/
theorem resolve?_eq
    (other : module ≠ added.1)
    (apart : reference ∉ addresses added) :
    wide.resolve? module reference = narrow.resolve? module reference := by
  have same : wide.declared? module reference = narrow.declared? module reference :=
    enlarged.declared?_eq fun home => absurd home other
  rw [resolve?, resolve?, same, enlarged.resolveAbroad?_eq apart]

/-- What is declared finds itself as it did. -/
theorem resolve?_self_eq
    (declared : d ∈ narrow.declarations) :
    wide.resolve? d.module d.name = narrow.resolve? d.module d.name := by
  have same : wide.declared? d.module d.name = narrow.declared? d.module d.name :=
    enlarged.declared?_eq fun home => absurd home (enlarged.module_ne declared)
  simp [resolve?, same, declared_self declared]

variable (ignored : narrow.Ignores added)
include ignored

/-- The references of what is declared name what they named. -/
theorem resolve?_of_declared
    (declared : d ∈ narrow.declarations)
    (member : reference ∈ d.references) :
    wide.resolve? d.module reference = narrow.resolve? d.module reference :=
  enlarged.resolve?_eq (enlarged.module_ne declared) (ignored _ (mem_references declared member))

theorem response?_eq
    (declared : d ∈ narrow.declarations) :
    wide.response? d = narrow.response? d := by
  unfold response?
  cases answer : d.entity.response with
  | none => rfl
  | some reference =>
      have member : reference ∈ d.references := by simp [Declaration.references, answer]
      simp only [enlarged.resolve?_of_declared ignored declared member]

/-- What is declared is classified as it was. -/
theorem classify_eq
    (declared : d ∈ narrow.declarations) :
    wide.classify d = narrow.classify d := by
  unfold classify
  rw [enlarged.response?_eq ignored declared]

/-- The other modules have the handlers that they had. -/
theorem handlers_eq
    (other : module ≠ added.1) :
    wide.handlers module = narrow.handlers module := by
  have same : wide.declarationsIn module = narrow.declarationsIn module := by
    simp [declarationsIn, enlarged.get?_eq other]
  unfold handlers
  rw [same]
  refine List.filterMap_congr fun d member => ?_
  rw [enlarged.classify_eq ignored (mem_declarations_of_declarationsIn member)]

end Enlarges

end Enlargement

end Project
end Manifest
end Scaffold
