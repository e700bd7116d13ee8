import Scaffold.Proofs.Generator.Sources
import Scaffold.Proofs.Java.ControllerImports

/-!
# Imported model classes and their files

Which model classes a controller imports is decided by following references, and which entities become
model files by their kinds.  The two meet where a mock response is made: along entities of which
objects are made, every reference leads to an entity with a file.  They part at abstract data, of which
no object is made and no file is rendered, but whose references are followed when imports are
collected: there a controller may import a class that has no file.
-/

namespace Scaffold

open Java (Controller Imports Model importBlock importStatement)
open Java.Mock
open Manifest (Declaration Project)
open Relation (ReflTransGen)

namespace Java
namespace Mock

/-- The second entity can be reached from the first past abstract data. -/
def PastAbstract
    (project : Project)
    (target e : Declaration) : Prop :=
  ∃ d, d.entity.kind = .data ∧ d.entity.isAbstract = true ∧
    ReflTransGen (Refers project) target d ∧ ReflTransGen (Refers project) d e

section Reaching

variable {project : Project} {target d e : Declaration}

/-- Where a mock response is made, only abstract data lead away from entities with a file.

What is reached from concrete data is concrete data of which an object is made, an enumeration, or
something past abstract data. -/
theorem reaches_or_pastAbstract
    (concrete : target.entity.isConcreteData = true)
    (hold : ∀ d, Reaches project target d → ReferencesHold project d)
    (path : ReflTransGen (Refers project) target e) :
    (Reaches project target e ∧ e.entity.isConcreteData = true) ∨ e.entity.kind = .enumeration ∨
      PastAbstract project target e := by
  induction path with
  | refl => exact .inl ⟨.refl, concrete⟩
  | @tail d e before refers ih =>
      obtain ⟨kind, field, reference, entry, resolved⟩ := refers
      -- references are known to hold only in data of which an object is made, so past abstract
      -- data nothing is known about the kind of what follows
      rcases ih with ⟨built, -⟩ | enumeration | ⟨x, isData, isAbstract, first, second⟩
      · obtain ⟨found, resolved', isData | isEnumeration⟩ := hold d built field reference entry
        · obtain rfl := Option.some.inj (resolved.symm.trans resolved')
          cases isAbstract : e.entity.isAbstract with
          | false =>
              have isConcrete := Manifest.Entity.isConcreteData_iff.2 ⟨isData, isAbstract⟩
              exact .inl ⟨built.tail ⟨field, reference, entry, resolved, isConcrete⟩, isConcrete⟩
          | true =>
              have path := before.tail ⟨kind, field, reference, entry, resolved⟩
              exact .inr (.inr ⟨e, isData, isAbstract, path, .refl⟩)
        · obtain rfl := Option.some.inj (resolved.symm.trans resolved')
          exact .inr (.inl isEnumeration)
      · cases kind.symm.trans enumeration
      · exact .inr (.inr ⟨x, isData, isAbstract, first,
          second.tail ⟨kind, field, reference, entry, resolved⟩⟩)

/-- What is reached has a model class, unless it is past abstract data. -/
theorem isModel_or_pastAbstract
    (concrete : target.entity.isConcreteData = true)
    (hold : ∀ d, Reaches project target d → ReferencesHold project d)
    (path : ReflTransGen (Refers project) target e) :
    e.entity.isModel = true ∨ PastAbstract project target e := by
  rcases reaches_or_pastAbstract concrete hold path with ⟨-, isConcrete⟩ | enumeration | past
  · exact .inl (Manifest.Entity.isModel_of_isConcreteData isConcrete)
  · exact .inl (by simp [Manifest.Entity.isModel, enumeration])
  · exact .inr past

end Reaching

end Mock
end Java

namespace Generator

section Imported

variable {g : Generator} {tree : FileTree} {units : List Artifact} {module className : String}
  {c : Controller}

/-- A controller of a generator with mock responses or placeholders is proper. -/
theorem proper_of_controller
    (accepted : g.project.Accepted)
    (demo : g.demoData = none ∨ g.demoData = some Java.Mock.demoData)
    (present : g.controller? module = some c) :
    c.Proper := by
  obtain ⟨sameProject, sameData, sameHandlers⟩ := controller_eq present
  exact ⟨sameProject ▸ accepted, fun h among => ⟨module, sameProject ▸ sameHandlers ▸ among⟩,
    sameData ▸ demo⟩

/-- A run that succeeds renders the file of every controller. -/
theorem exists_unit_of_controller
    (done : g.artifacts tree = .ok units)
    (present : g.controller? module = some c) :
    ∃ text, c.artifact.renderWithHeader = .ok text ∧
      ∃ unit ∈ units, unit.path = c.artifact.path ∧ unit.content = .ok (.text text) := by
  obtain ⟨m, member⟩ := mem_entries_of_controller present
  obtain ⟨unit, among, headed⟩ :=
    exists_headed_of_artifacts done (mem_sources_of_controller member present)
  obtain ⟨text, rendered, shape⟩ :=
    headed.exists_renderWithHeader (Java.classArtifact_rules c.className c.unit)
  exact ⟨text, rendered, unit, among, by rw [shape], by rw [shape]⟩

/-- What a handler asks for has a file, unless it is found past abstract data. -/
theorem hasModel_or_pastAbstract
    {h : Manifest.Handler}
    (accepted : g.project.Accepted)
    (demo : g.demoData = none ∨ g.demoData = some Java.Mock.demoData)
    (present : g.controller? module = some c)
    (among : h ∈ c.handlers)
    (made : c.handlerResult h = .ok ())
    (asks : c.Asks h className) :
    (∃ d, g.HasModel className d) ∨
      g.demoData = some Java.Mock.demoData ∧
        ∃ e, PastAbstract g.project h.response e ∧ Naming.className e.name = className := by
  obtain ⟨sameProject, sameData, sameHandlers⟩ := controller_eq present
  obtain ⟨declared, concrete⟩ := Project.response_of_mem_handlers (sameHandlers ▸ among)
  rcases asks with rfl | ⟨demoData, given, member⟩
  · have isModel := Manifest.Entity.isModel_of_isConcreteData concrete
    exact .inl ⟨h.response, hasModel accepted declared isModel⟩
  · rcases demo with without | mocked
    · rw [sameData, without] at given
      cases given
    · obtain rfl : Java.Mock.demoData = demoData :=
        Option.some.inj (mocked.symm.trans (sameData.symm.trans given))
      rw [Controller.handlerResult, handlerBody_eq mocked present h] at made
      have self := Project.resolve_self declared
      rw [sameProject] at member
      obtain ⟨target, e, resolved, path, rfl⟩ := mem_models_iff.1 member
      obtain rfl := Option.some.inj (self.symm.trans resolved)
      obtain ⟨target, resolved, -, hold⟩ := (result_response_eq_ok_iff _ _ _).1
        ((result_operations _).symm.trans made)
      obtain rfl := Option.some.inj (self.symm.trans resolved)
      rcases isModel_or_pastAbstract concrete hold path with isModel | past
      · exact .inl ⟨e, hasModel accepted (mem_declarations_of_path self path) isModel⟩
      · exact .inr ⟨mocked, e, past, rfl⟩

/-- A controller imports a class without a file only past abstract data.

When the run of an accepted project succeeds, the file of every controller is among what is rendered,
and every model class that it imports has a model file of the same run, unless the controller has mock
responses and the class is that of an entity that a response leads to past abstract data. -/
theorem imported_models_have_files_or_follow_abstract_data
    (g : Generator)
    (tree : FileTree)
    (accepted : g.project.violation? = none)
    (demo : g.demoData = none ∨ g.demoData = some Java.Mock.demoData)
    {units : List Artifact}
    (done : g.artifacts tree = .ok units)
    {module : String}
    {c : Controller}
    (present : g.controller? module = some c) :
    ∃ text, c.artifact.renderWithHeader = .ok text ∧
      (∃ unit ∈ units, unit.path = c.artifact.path ∧ unit.content = .ok (.text text)) ∧
      ∀ className,
        importStatement (Imports.qualified c.modelPackage className) ∈ importBlock text →
          (∃ d, g.HasModel className d) ∨
            g.demoData = some Java.Mock.demoData ∧
              ∃ h ∈ c.handlers, ∃ e, PastAbstract g.project h.response e ∧
                Naming.className e.name = className := by
  have kept := Project.violation?_eq_none_iff.1 accepted
  obtain ⟨text, rendered, unit⟩ := exists_unit_of_controller done present
  refine ⟨text, rendered, unit, fun className imported => ?_⟩
  have proper := proper_of_controller kept demo present
  have made := Controller.exists_renderWithHeader_iff.1 ⟨text, rendered⟩
  obtain ⟨body, shape, rfl⟩ := Controller.exists_of_renderWithHeader rendered
  rw [Java.importBlock_header] at imported
  obtain ⟨h, among, asks⟩ := (proper.mem_importBlock_iff shape).1 imported
  rcases hasModel_or_pastAbstract kept demo present among (made h among) asks with
    model | ⟨mocked, past⟩
  · exact .inl model
  · exact .inr ⟨mocked, h, among, past⟩

/-- A kennel whose pets refer to abstract data. -/
def kennel : Project where
  settings := { name := "kennel" }
  modules := ⟨[("m", { entities := ⟨
    [("Pet", { kind := .data, fields := ⟨[("base", .ref "Base")], by decide⟩ }),
     ("Base", { kind := .data, isAbstract := true }),
     ("GetPet", { kind := .request, method := some "GET", response := some "Pet" })],
    by decide⟩ })], by decide⟩

theorem kennel_accepted : kennel.violation? = none := by
  decide +kernel

theorem kennel_references : ∀ d ∈ kennel.declarations, ReferencesHold kennel d := by
  decide +kernel

theorem exists_kennel_artifacts :
    ∃ units, (mocking kennel).artifacts .empty = .ok units :=
  exists_artifacts_of_handlers .empty rfl fun _ _ present =>
    handlerResult_of_hold rfl kennel_references present

theorem exists_kennel_controller :
    ∃ c h, (mocking kennel).controller? "m" = some c ∧ h ∈ c.handlers ∧
      h.response.module = "m" ∧ h.response.name = "Pet" := by
  obtain ⟨h, among, answers⟩ : ∃ h ∈ kennel.handlers "m",
      h.response.module = "m" ∧ h.response.name = "Pet" := by decide +kernel
  obtain ⟨c, present, own⟩ := exists_controller_of_handler (g := mocking kennel) among
  exact ⟨c, h, present, own, answers⟩

/-- What the controller of a kennel imports has a file or follows abstract data. -/
theorem kennel_imports_follow_abstract_data :
    kennel.violation? = none ∧
      ∃ units c, (mocking kennel).artifacts .empty = .ok units ∧
        (mocking kennel).controller? "m" = some c ∧
          ∃ text, c.artifact.renderWithHeader = .ok text ∧
            (∃ unit ∈ units, unit.path = c.artifact.path ∧ unit.content = .ok (.text text)) ∧
            ∀ className,
              importStatement (Imports.qualified c.modelPackage className) ∈ importBlock text →
                (∃ d, (mocking kennel).HasModel className d) ∨
                  (mocking kennel).demoData = some Java.Mock.demoData ∧
                    ∃ h ∈ c.handlers, ∃ e, PastAbstract kennel h.response e ∧
                      Naming.className e.name = className := by
  obtain ⟨units, done⟩ := exists_kennel_artifacts
  obtain ⟨c, h, present, -⟩ := exists_kennel_controller
  exact ⟨kennel_accepted, units, c, done, present,
    imported_models_have_files_or_follow_abstract_data (mocking kennel) .empty kennel_accepted
      (.inr rfl) done present⟩

/-- The controller of a kennel imports the class of the abstract data, which has no file. -/
theorem kennel_imports_class_without_file :
    ∃ units c text,
      kennel.violation? = none ∧ (mocking kennel).artifacts .empty = .ok units ∧
        (mocking kennel).controller? "m" = some c ∧ c.artifact.renderWithHeader = .ok text ∧
        importStatement (Imports.qualified c.modelPackage "Base") ∈ importBlock text ∧
        (¬ ∃ d, (mocking kennel).HasModel "Base" d) ∧
        ∀ unit ∈ units,
          unit.path ≠ Java.classPath (Model.packageOf kennel.settings.package) "Base" := by
  obtain ⟨units, done⟩ := exists_kennel_artifacts
  obtain ⟨c, h, present, among, home, name⟩ := exists_kennel_controller
  obtain ⟨sameProject, sameData, -⟩ := controller_eq present
  obtain ⟨text, rendered, -⟩ := exists_unit_of_controller done present
  refine ⟨units, c, text, kennel_accepted, done, present, rendered, ?_, ?_, ?_⟩
  · have collected : "Base" ∈ Java.Mock.models kennel "m" "Pet" := by decide +kernel
    have asks : c.Asks h "Base" := by
      refine .inr ⟨Java.Mock.demoData, sameData, ?_⟩
      rw [sameProject, home, name]
      exact collected
    have proper : c.Proper := proper_of_controller (g := mocking kennel)
      (Project.violation?_eq_none_iff.1 kennel_accepted) (.inr rfl) present
    obtain ⟨body, shape, whole⟩ := Controller.exists_of_renderWithHeader rendered
    have imported : importStatement (Imports.qualified c.modelPackage "Base") ∈
        importBlock body := (proper.mem_importBlock_iff shape).2 ⟨h, among, asks⟩
    rwa [whole, Java.importBlock_header]
  · have others : ∀ d ∈ kennel.declarations, d.entity.isModel = true →
        Naming.className d.name ≠ "Base" := by decide +kernel
    rintro ⟨d, model⟩
    exact others d model.declared model.isModel model.named
  · have apart : ∀ path ∈ (mocking kennel).sources.map Artifact.path ++
        Template.builtIn.map Prod.fst,
          path ≠ Java.classPath (Model.packageOf kennel.settings.package) "Base" := by
      decide +kernel
    intro unit member
    exact apart _ (paths_of_artifacts rfl done ▸ List.mem_map_of_mem member)

end Imported

end Generator
end Scaffold
