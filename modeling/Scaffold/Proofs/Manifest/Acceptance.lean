import Scaffold.Manifest.Reading
import Scaffold.Proofs.Manifest.Sites

/-!
# Accepted projects

The rules of a manifest are said here without a search and without anything carried along: each name
for itself, path variables and model classes in pairs.  A project is accepted exactly when all of
them hold, and of any other project the violation at the first broken site is reported.  A model
class that is declared twice is reported with the first entity that declares it.
-/

namespace Scaffold
namespace Manifest

open Text

namespace Project

/-- A project that keeps all rules. -/
structure Accepted (project : Project) : Prop where
  named : ∃ c ∈ project.settings.name.toList, isBlank c = false
  packaged : IsPackage project.settings.package
  indented : 1 ≤ project.options.indent.toNat ∧ project.options.indent.toNat ≤ 8
  modules : ∀ entry ∈ project.modules.entries, IsUsable entry.1 entry.1
  entities : ∀ d ∈ project.declarations, IsUsable d.name (Naming.camel d.name)
  fields : ∀ d ∈ project.declarations, ∀ field ∈ d.entity.fields.keys,
    IsUsable field (Naming.camel field)
  values : ∀ d ∈ project.declarations, d.entity.kind = .enumeration →
    ∀ value ∈ d.entity.values, IsUsable value value
  pathVariables : ∀ d ∈ project.declarations, d.entity.kind = .request →
    ∀ name ∈ d.entity.pathVariables, IsUsable name (Naming.camel name)
  distinctPathVariables : ∀ d ∈ project.declarations, d.entity.kind = .request →
    (d.entity.pathVariables.map Naming.camel).Nodup
  distinctModels : ∀ d ∈ project.declarations, ∀ e ∈ project.declarations,
    d.entity.isModel = true → e.entity.isModel = true →
      Naming.pascal d.name = Naming.pascal e.name → d.id = e.id

/-- The violation at the first broken site of a project. -/
def FirstBroken
    (project : Project)
    (v : Violation) : Prop :=
  ∃ front site back,
    project.sites = front ++ site :: back ∧
      (∀ earlier ∈ front, ∀ w, ¬ earlier.Breaks project w) ∧ site.Breaks project v

/-- Two entities declare a model class, and none before the first of them does. -/
def DeclaredTwice
    (project : Project)
    (className : String)
    (first second : Declaration) : Prop :=
  ∃ front middle back,
    project.declarations = front ++ first :: (middle ++ second :: back) ∧
      first.entity.isModel = true ∧ second.entity.isModel = true ∧
      Naming.pascal first.name = className ∧ Naming.pascal second.name = className ∧
      ∀ e ∈ front, e.entity.isModel = true → Naming.pascal e.name ≠ className

section Acceptance

variable {project : Project} {v : Violation}

/-- The violation that is reported is the one at the first broken site. -/
theorem violation?_eq_some_iff :
    project.violation? = some v ↔ project.FirstBroken v := by
  unfold violation? FirstBroken
  rw [Site.violations_eq_flatMap, List.head?_flatMap, List.findSome?_eq_some_iff]
  constructor
  · rintro ⟨front, site, back, whole, reported, passed⟩
    refine ⟨front, site, back, whole, ?_, (Site.head?_violations (by simp [whole])).1 reported⟩
    intro earlier member
    exact (Site.head?_violations_eq_none_iff (by simp [whole, member])).1 (passed earlier member)
  · rintro ⟨front, site, back, whole, kept, broken⟩
    refine ⟨front, site, back, whole, (Site.head?_violations (by simp [whole])).2 broken, ?_⟩
    intro earlier member
    exact (Site.head?_violations_eq_none_iff (by simp [whole, member])).2 (kept earlier member)

/-- Nothing is reported exactly when no site is broken. -/
theorem violation?_eq_none_iff_sites :
    project.violation? = none ↔ ∀ site ∈ project.sites, ∀ w, ¬ site.Breaks project w := by
  unfold violation?
  rw [Site.violations_eq_flatMap, List.head?_flatMap, List.findSome?_eq_none_iff]
  exact forall₂_congr fun site member => Site.head?_violations_eq_none_iff member

/-- Two entities that declare one model class break the rule at the later of them. -/
theorem exists_breaks_of_before
    {d e : Declaration}
    {front back : List Declaration}
    (whole : project.declarations = front ++ d :: back)
    (before : e ∈ front)
    (earlierModel : e.entity.isModel = true)
    (isModel : d.entity.isModel = true)
    (same : Naming.pascal e.name = Naming.pascal d.name) :
    ∃ v, (Site.model d).Breaks project v := by
  have declares : ∃ x ∈ front,
      (x.entity.isModel && Naming.pascal x.name == Naming.pascal d.name) = true :=
    ⟨e, before, by simp [earlierModel, same]⟩
  obtain ⟨first, found⟩ := Option.isSome_iff_exists.1 (List.find?_isSome.2 declares)
  have reported : (Site.violations project (.model d)).head? =
      some (.duplicateModel (Naming.pascal d.name) first.module first.name d.module d.name) := by
    simp [Site.violations, Project.takeWhile_ne_id whole, modelViolation?, isModel, found]
  exact ⟨_, (Site.head?_violations_model (by simp [whole])).1 reported⟩

/-- In an accepted project, the name at a site can be used. -/
theorem Accepted.isUsable
    (accepted : project.Accepted)
    {site : Site}
    {use : NameUse}
    {spelling : String}
    (member : site ∈ project.sites)
    (uses : site.Uses use spelling) :
    IsUsable use.name spelling := by
  cases uses with
  | module =>
      obtain ⟨m, among⟩ : ∃ m, (spelling, m) ∈ project.modules.entries := by
        simpa [Site.mem_sites, Site.mem_ofDeclaration] using member
      exact accepted.modules (spelling, m) among
  | @entity d =>
      have among : d ∈ project.declarations := by
        simpa [Site.mem_sites, Site.mem_ofDeclaration] using member
      exact accepted.entities d among
  | @field d name =>
      obtain ⟨among, known⟩ : d ∈ project.declarations ∧ name ∈ d.entity.fields.keys := by
        simpa [Site.mem_sites, Site.mem_ofDeclaration] using member
      exact accepted.fields d among name known
  | @enumValue d =>
      obtain ⟨among, kind, known⟩ : d ∈ project.declarations ∧
          d.entity.kind = .enumeration ∧ spelling ∈ d.entity.values := by
        simpa [Site.mem_sites, Site.mem_ofDeclaration] using member
      exact accepted.values d among kind spelling known
  | @pathVariable d position name here =>
      obtain ⟨among, kind, -⟩ : d ∈ project.declarations ∧
          d.entity.kind = .request ∧ position < d.entity.pathVariables.length := by
        simpa [Site.mem_sites, Site.mem_ofDeclaration] using member
      exact accepted.pathVariables d among kind name (List.mem_of_getElem? here)

theorem not_breaks_of_accepted
    (accepted : project.Accepted)
    {site : Site}
    (member : site ∈ project.sites) :
    ¬ site.Breaks project v := by
  intro bad
  cases bad with
  | missingName blank =>
      obtain ⟨c, among, visible⟩ := accepted.named
      simp [blank c among] at visible
  | badPackage first =>
      have found := packageFlaw?_eq_some_iff.2 first
      simp [packageFlaw?_eq_none_iff.2 accepted.packaged] at found
  | badIndent outside => exact outside accepted.indented
  | module bad => exact bad.not_isUsable (accepted.isUsable member .module)
  | entity bad => exact bad.not_isUsable (accepted.isUsable member .entity)
  | field bad => exact bad.not_isUsable (accepted.isUsable member .field)
  | enumValue bad => exact bad.not_isUsable (accepted.isUsable member .enumValue)
  | pathVariable here bad => exact bad.not_isUsable (accepted.isUsable member (.pathVariable here))
  | @repeatedVariable d position before name other here usable earlier there same =>
      obtain ⟨among, kind, -⟩ : d ∈ project.declarations ∧
          d.entity.kind = .request ∧ position < d.entity.pathVariables.length := by
        simpa [Site.mem_sites, Site.mem_ofDeclaration] using member
      obtain ⟨inside, hereAt⟩ := List.getElem?_eq_some_iff.1 here
      obtain ⟨inside', thereAt⟩ := List.getElem?_eq_some_iff.1 there
      have apart := List.pairwise_iff_getElem.1 (accepted.distinctPathVariables d among kind)
        before position (by simpa using inside') (by simpa using inside) earlier
      simp [hereAt, thereAt, same] at apart
  | @duplicateModel first d front middle back whole firstModel isModel same earliest =>
      have sameId : first.id = d.id := accepted.distinctModels first (by simp [whole])
        d (by simp [whole]) firstModel isModel same
      have distinct := project.nodup_ids_declarations
      rw [whole] at distinct
      simp [sameId, List.nodup_append, List.nodup_cons] at distinct

section Kept

variable (kept : ∀ site ∈ project.sites, ∀ w, ¬ site.Breaks project w)

include kept

theorem not_breaks_of_declaration
    {d : Declaration}
    {site : Site}
    (among : d ∈ project.declarations)
    (own : site ∈ Site.ofDeclaration d) :
    ∀ w, ¬ site.Breaks project w :=
  kept site (Site.mem_sites_of_declaration among own)

theorem isUsable_pathVariable
    {d : Declaration}
    {position : Nat}
    (among : d ∈ project.declarations)
    (kind : d.entity.kind = .request)
    (inside : position < d.entity.pathVariables.length) :
    IsUsable d.entity.pathVariables[position] (Naming.camel d.entity.pathVariables[position]) :=
  (Site.Uses.pathVariable (List.getElem?_eq_getElem inside)).isUsable
    (not_breaks_of_declaration kept among (by simp [Site.mem_ofDeclaration, kind, inside]))

/-- The variables of a path are told apart when none is reported as repeated. -/
theorem nodup_pathVariables
    {d : Declaration}
    (among : d ∈ project.declarations)
    (kind : d.entity.kind = .request) :
    (d.entity.pathVariables.map Naming.camel).Nodup := by
  refine List.pairwise_iff_getElem.2 ?_
  intro before position beforeInside inside earlier same
  rw [List.length_map] at beforeInside inside
  rw [List.getElem_map, List.getElem_map] at same
  have own : Site.pathVariable d position ∈ Site.ofDeclaration d := by
    simp [Site.mem_ofDeclaration, kind, inside]
  exact not_breaks_of_declaration kept among own _
    (.repeatedVariable (List.getElem?_eq_getElem inside)
      (isUsable_pathVariable kept among kind inside) earlier
      (List.getElem?_eq_getElem beforeInside) same)

/-- The model classes are told apart when none is reported as a duplicate. -/
theorem id_eq_of_same_model
    {d e : Declaration}
    (among : d ∈ project.declarations)
    (among' : e ∈ project.declarations)
    (isModel : d.entity.isModel = true)
    (isModel' : e.entity.isModel = true)
    (same : Naming.pascal d.name = Naming.pascal e.name) :
    d.id = e.id := by
  by_contra differ
  obtain ⟨front, back, whole⟩ := List.append_of_mem among'
  have place := among
  rw [whole, List.mem_append, List.mem_cons] at place
  rcases place with before | rfl | after
  · obtain ⟨v, bad⟩ := exists_breaks_of_before whole before isModel isModel' same
    exact not_breaks_of_declaration kept among' (by simp [Site.mem_ofDeclaration]) v bad
  · exact differ rfl
  · obtain ⟨middle, rest, rfl⟩ := List.append_of_mem after
    have whole' : project.declarations = (front ++ e :: middle) ++ d :: rest := by
      simpa using whole
    obtain ⟨v, bad⟩ := exists_breaks_of_before whole' (by simp) isModel' isModel same.symm
    exact not_breaks_of_declaration kept among (by simp [Site.mem_ofDeclaration]) v bad

theorem accepted_of_not_breaks : project.Accepted where
  named := by
    by_contra blank
    refine kept .projectName (by simp [Site.mem_sites]) _ (.missingName ?_)
    simpa using blank
  packaged := by
    rw [← packageFlaw?_eq_none_iff, Option.eq_none_iff_forall_ne_some]
    intro flaw found
    exact kept .package (by simp [Site.mem_sites]) _
      (.badPackage (packageFlaw?_eq_some_iff.1 found))
  indented := by
    by_contra outside
    exact kept .indent (by simp [Site.mem_sites]) _ (.badIndent outside)
  modules entry among :=
    Site.Uses.module.isUsable
      (kept (.module entry.1) (Site.mem_sites.2 (.inr (.inr (.inr (.inl ⟨entry, among, rfl⟩))))))
  entities _ among :=
    Site.Uses.entity.isUsable
      (not_breaks_of_declaration kept among (by simp [Site.mem_ofDeclaration]))
  fields d among _ known :=
    (Site.Uses.field (d := d)).isUsable
      (not_breaks_of_declaration kept among (by simp [Site.mem_ofDeclaration, known]))
  values d among kind _ known :=
    (Site.Uses.enumValue (d := d)).isUsable
      (not_breaks_of_declaration kept among (by simp [Site.mem_ofDeclaration, kind, known]))
  pathVariables _ among kind _ known := by
    obtain ⟨position, inside, rfl⟩ := List.getElem_of_mem known
    exact isUsable_pathVariable kept among kind inside
  distinctPathVariables _ among kind := nodup_pathVariables kept among kind
  distinctModels _ among _ among' isModel isModel' same :=
    id_eq_of_same_model kept among among' isModel isModel' same

end Kept

/-- Nothing is reported of an accepted project, and only of such a project. -/
theorem violation?_eq_none_iff :
    project.violation? = none ↔ project.Accepted := by
  rw [violation?_eq_none_iff_sites]
  exact ⟨accepted_of_not_breaks, fun accepted _ member _ => not_breaks_of_accepted accepted member⟩

/-- A model class that is reported twice is reported with the first entity that declares it. -/
theorem FirstBroken.declaredTwice
    {className firstModule firstName secondModule secondName : String}
    (broken : project.FirstBroken
      (.duplicateModel className firstModule firstName secondModule secondName)) :
    ∃ first second : Declaration,
      first.id = (firstModule, firstName) ∧ second.id = (secondModule, secondName) ∧
        project.DeclaredTwice className first second := by
  obtain ⟨-, site, -, -, -, here⟩ := broken
  cases here with
  | @duplicateModel first second front middle back whole firstModel isModel same earliest =>
      exact ⟨first, second, rfl, rfl, front, middle, back, whole, firstModel, isModel, same, rfl,
        earliest⟩
  | module bad => cases bad
  | entity bad => cases bad
  | field bad => cases bad
  | enumValue bad => cases bad
  | pathVariable here bad => cases bad

end Acceptance

end Project

section Diagnosis

/-- What the reader of a source is told about a project that was read from it, if anything. -/
def Source.diagnosis?
    (source : Source)
    (project : Project) : Option Diagnostic :=
  project.violation?.map fun v => (Refusal.violated v).diagnostic source

/-- Reading a manifest ends with the project when the project is accepted. -/
theorem load_eq_of_readProject
    {text : String}
    {project : Project}
    (found : readProject text = .ok project) :
    load text = match project.violation? with
      | some violation => .error (.violated violation)
      | none => .ok project := by
  cases reported : project.violation? <;> simp [load, found, reported]

/-- A project is validated by its rules.

Nothing is reported exactly when the project is accepted, whatever its source and the name of that
source; otherwise it is the violation at the first broken site that is reported.  Reading a manifest
ends accordingly.  A model class that is declared twice is reported with the first entity that
declares it. -/
theorem validation_reports_first_broken_rule
    (project : Project)
    (source : Source) :
    (source.diagnosis? project = none ↔ project.Accepted) ∧
      (∀ told, source.diagnosis? project = some told ↔
        ∃ v, project.FirstBroken v ∧ told = (Refusal.violated v).diagnostic source) ∧
      (∀ v w, project.FirstBroken v → project.FirstBroken w → v = w) ∧
      (readProject source.text = .ok project →
        (load source.text = .ok project ↔ project.Accepted) ∧
          ∀ v, load source.text = .error (.violated v) ↔ project.FirstBroken v) ∧
      ∀ className firstModule firstName secondModule secondName,
        project.FirstBroken
            (.duplicateModel className firstModule firstName secondModule secondName) →
          ∃ first second : Declaration,
            first.id = (firstModule, firstName) ∧ second.id = (secondModule, secondName) ∧
              project.DeclaredTwice className first second := by
  refine ⟨?_, ?_, ?_, ?_, ?_⟩
  · rw [Source.diagnosis?, Option.map_eq_none_iff]
    exact Project.violation?_eq_none_iff
  · intro told
    rw [Source.diagnosis?, Option.map_eq_some_iff]
    constructor
    · rintro ⟨v, reported, rfl⟩
      exact ⟨v, Project.violation?_eq_some_iff.1 reported, rfl⟩
    · rintro ⟨v, first, rfl⟩
      exact ⟨v, Project.violation?_eq_some_iff.2 first, rfl⟩
  · intro v w left right
    rw [← Project.violation?_eq_some_iff] at left right
    exact Option.some.inj (left.symm.trans right)
  · intro found
    rw [load_eq_of_readProject found, ← Project.violation?_eq_none_iff]
    constructor
    · cases project.violation? <;> simp
    · intro v
      rw [← Project.violation?_eq_some_iff]
      cases project.violation? <;> simp
  · intro className firstModule firstName secondModule secondName first
    exact first.declaredTwice

/-- What is found out about the project of a text is found out about the project that is read. -/
theorem exists_of_bind_readProject
    {α : Type}
    (text : String)
    (f : Project → Option α)
    (a : α)
    (read : (readProject text).toOption.bind f = some a) :
    ∃ project, readProject text = .ok project ∧ f project = some a := by
  cases found : readProject text with
  | error cause => simp [found, Except.toOption] at read
  | ok project => exact ⟨project, rfl, by simpa [found, Except.toOption] using read⟩

/-- An enumeration whose class an earlier module declares. -/
theorem second_pet_is_reported :
    ∃ project,
      readProject ("[project]\nname=\"clinic\"\n[modules.a.entities.pet]\nkind=\"data\"\n" ++
          "[modules.b.entities.Pet]\nkind=\"enum\"") = .ok project ∧
        ¬ project.Accepted ∧ project.FirstBroken (.duplicateModel "Pet" "a" "pet" "b" "Pet") := by
  -- the text is kept apart until the end, so that only one step reads it
  have refused : ∀ text v, (readProject text).toOption.bind Project.violation? = some v →
      ∃ project, readProject text = .ok project ∧ ¬ project.Accepted ∧ project.FirstBroken v := by
    intro text v told
    cases found : readProject text with
    | error cause => simp [found, Except.toOption] at told
    | ok project =>
        obtain ⟨-, -, -, loads, -⟩ :=
          validation_reports_first_broken_rule project ⟨text, defaultName⟩
        have first : project.FirstBroken v := by
          rw [← Project.violation?_eq_some_iff]
          simpa [found, Except.toOption] using told
        obtain ⟨accepted, refused⟩ := loads found
        refine ⟨project, rfl, ?_, first⟩
        rw [← accepted, (refused v).2 first]
        simp
  exact refused _ _ (by decide +kernel)

end Diagnosis

end Manifest
end Scaffold
