import Scaffold.Proofs.Java.Agreement
import Scaffold.Proofs.Java.Collection
import Scaffold.Proofs.Java.ImportBlock

/-!
# The imports of controllers

A controller imports a model class exactly when one of its handlers asks for it, as the class of its
response or through its demo data: model classes stand neither in its own package nor in the package
that every file sees.  Mock responses ask for every class that their statements mention, so no class
that a handler mentions by its simple name is without its import statement.
-/

namespace Scaffold
namespace Java

open Code (Operation)
open Manifest (Handler Project)

namespace Controller

section Asking

variable {c : Controller} {h : Handler} {className text : String}

/-- A controller of an accepted project: its handlers are handlers of modules of the project, and its
demo data, if any, are mock responses. -/
structure Proper (c : Controller) : Prop where
  accepted : c.project.Accepted
  handlers : ∀ h ∈ c.handlers, ∃ module, h ∈ c.project.handlers module
  demoData : c.demoData = none ∨ c.demoData = some Mock.demoData

/-- A handler asks for a model class: that of its response, or one that its demo data mention. -/
def Asks
    (c : Controller)
    (h : Handler)
    (className : String) : Prop :=
  className = responseClass h ∨
    ∃ demoData, c.demoData = some demoData ∧
      className ∈ demoData.models c.project h.response.module h.response.name

/-- The qualified names outside the project that controllers mention. -/
def libraryNames : List String :=
  ["RestController", "GetMapping", "PostMapping", "PutMapping", "DeleteMapping", "PatchMapping",
    "PathVariable", "RequestBody"].map (Imports.qualified webPackage) ++ ["java.util.Map"]

theorem mem_mentions
    {name : String} :
    name ∈ c.unit.imports.names ↔
      name = Imports.qualified webPackage "RestController" ∨
        ∃ h ∈ c.handlers, name ∈ c.handlerMentions h := by
  simp [unit, NameSet.mem_names_ofList]

/-- A handler mentions every class for which it asks, and otherwise only names from libraries. -/
theorem mem_handlerMentions
    {name : String}
    (member : name ∈ c.handlerMentions h) :
    name ∈ libraryNames ∨
      ∃ className, c.Asks h className ∧ Imports.qualified c.modelPackage className = name := by
  have annotation : Imports.qualified webPackage (mapping h.method) ∈ libraryNames := by
    cases h.method <;> simp [libraryNames, mapping]
  have pathVariable : Imports.qualified webPackage "PathVariable" ∈ libraryNames := by
    simp [libraryNames]
  have body : ∀ x ∈ [Imports.qualified webPackage "RequestBody", "java.util.Map"],
      x ∈ libraryNames := by simp [libraryNames]
  unfold handlerMentions at member
  simp only [List.mem_append, or_assoc] at member
  rcases member with own | inPath | inBody | demo
  · rcases (by simpa using own : _ ∨ _) with rfl | rfl
    · exact .inl annotation
    · exact .inr ⟨_, .inl rfl, rfl⟩
  · obtain ⟨_, -, rfl⟩ := List.mem_map.1 inPath
    exact .inl pathVariable
  · split at inBody
    · exact .inl (body name inBody)
    · cases inBody
  · split at demo
    · next demoData given =>
        obtain ⟨className, among, rfl⟩ := List.mem_map.1 demo
        exact .inr ⟨className, .inr ⟨demoData, given, among⟩, rfl⟩
    · cases demo

theorem mem_handlerMentions_of_asks
    (asks : c.Asks h className) :
    Imports.qualified c.modelPackage className ∈ c.handlerMentions h := by
  unfold handlerMentions
  rcases asks with rfl | ⟨demoData, given, among⟩
  · simp
  · exact List.mem_append_right _ (by simpa [given] using List.mem_map_of_mem among)

/-- No name from a library is the name of a model class. -/
theorem qualified_not_mem_libraryNames (basePackage className : String) :
    Imports.qualified (Model.packageOf basePackage) className ∉ libraryNames := by
  have apart : ∀ name ∈ libraryNames, ¬ ".model.".toList <:+: name.toList := by decide +kernel
  intro member
  refine apart _ member ⟨basePackage.toList, className.toList, ?_⟩
  simp [Imports.qualified, Model.packageOf]

/-- A controller mentions a model class when one of its handlers asks for it. -/
theorem mem_mentions_model :
    Imports.qualified c.modelPackage className ∈ c.unit.imports.names ↔
      ∃ h ∈ c.handlers, c.Asks h className := by
  have noLibrary := qualified_not_mem_libraryNames c.project.settings.package className
  rw [mem_mentions]
  constructor
  · rintro (first | ⟨h, among, mentions⟩)
    · exact absurd (by simp [modelPackage] at first; simp [first, libraryNames]) noLibrary
    · rcases mem_handlerMentions mentions with library | ⟨className', asks, same⟩
      · exact absurd library noLibrary
      · exact ⟨h, among, Imports.qualified_injective _ same ▸ asks⟩
  · rintro ⟨h, among, asks⟩
    exact .inr ⟨h, among, mem_handlerMentions_of_asks asks⟩

end Asking

section Importing

variable {c : Controller} {h : Handler} {className text : String}

namespace Proper

/-- The class for which a handler asks is that of an entity of the project. -/
theorem exists_declaration
    (proper : c.Proper)
    (among : h ∈ c.handlers)
    (asks : c.Asks h className) :
    ∃ d ∈ c.project.declarations, Naming.className d.name = className := by
  rcases asks with rfl | ⟨demoData, given, member⟩
  · obtain ⟨module, handles⟩ := proper.handlers h among
    exact ⟨h.response, (Project.response_of_mem_handlers handles).1, rfl⟩
  · rcases proper.demoData with without | mocked
    · rw [without] at given
      cases given
    · obtain rfl := Option.some.inj (mocked.symm.trans given)
      obtain ⟨target, d, resolved, path, rfl⟩ := Mock.mem_models_iff.1 member
      exact ⟨d, Mock.mem_declarations_of_path resolved path, rfl⟩

/-- The name of the class for which a handler asks has letters and digits only. -/
theorem isAlphanum_of_asks
    (proper : c.Proper)
    (among : h ∈ c.handlers)
    (asks : c.Asks h className) :
    ∀ d ∈ className.toList, d.isAlphanum = true := by
  obtain ⟨e, declared, rfl⟩ := proper.exists_declaration among asks
  rw [proper.accepted.className_eq declared]
  exact fun _ => Naming.isAlphanum_of_mem_pascal (proper.accepted.isName declared)

theorem lineEnd_not_mem_package
    (proper : c.Proper) :
    '\n' ∉ c.project.settings.package.toList :=
  proper.accepted.packaged.not_mem (by decide) (by decide) (by decide)

/-- No name above the declaration of a controller has a line end. -/
theorem oneLineNames
    (proper : c.Proper) :
    c.unit.OneLineNames where
  package := by simpa [unit, package] using proper.lineEnd_not_mem_package
  imports := by
    have libraries : ∀ name ∈ libraryNames, '\n' ∉ name.toList := by decide +kernel
    intro name mentioned
    rcases mem_mentions.1 mentioned with rfl | ⟨h, among, mentions⟩
    · exact libraries _ (by simp [libraryNames])
    · rcases mem_handlerMentions mentions with library | ⟨className, asks, rfl⟩
      · exact libraries _ library
      · have noLineEnd : '\n' ∉ className.toList := fun member =>
          absurd (proper.isAlphanum_of_asks among asks _ member) (by decide)
        simpa [Imports.qualified, modelPackage, Model.packageOf] using
          ⟨proper.lineEnd_not_mem_package, noLineEnd⟩

end Proper

/-- A controller needs the annotation of its class. -/
theorem restController_mem_needed (c : Controller) :
    Imports.qualified webPackage "RestController" ∈ c.unit.needed := by
  refine Imports.mem_neededFrom.2 ⟨mem_mentions.2 (.inl rfl), ?_, ?_⟩
  · rw [Imports.owner_qualified (by decide)]
    intro same
    -- the two packages end in different letters
    have last := congrArg (fun text => text.toList.getLast?) same
    simp [unit, package, webPackage] at last
  · rw [Imports.owner_qualified (by decide)]
    decide

/-- A model class stands in no package whose classes need no import statement. -/
theorem mem_needed_of_mentioned
    (noDot : '.' ∉ className.toList)
    (mentioned : Imports.qualified c.modelPackage className ∈ c.unit.imports.names) :
    Imports.qualified c.modelPackage className ∈ c.unit.needed := by
  refine Imports.mem_neededFrom.2 ⟨mentioned, ?_, ?_⟩
  · rw [Imports.owner_qualified noDot]
    simp [unit, package, modelPackage, Model.packageOf]
  · rw [Imports.owner_qualified noDot]
    intro same
    have last := congrArg (fun text => text.toList.getLast?) same
    simp [modelPackage, Model.packageOf, Imports.visiblePackage] at last

/-- A controller imports exactly the model classes for which its handlers ask. -/
theorem Proper.mem_importBlock_iff
    (proper : c.Proper)
    (rendered : c.unit.render = .ok text) :
    importStatement (Imports.qualified c.modelPackage className) ∈ importBlock text ↔
      ∃ h ∈ c.handlers, c.Asks h className := by
  have nonempty : c.unit.needed ≠ [] := List.ne_nil_of_mem c.restController_mem_needed
  rw [proper.oneLineNames.importBlock_eq nonempty rendered,
    List.mem_map_of_injective importStatement_injective, ← mem_mentions_model]
  constructor
  · exact fun needed => (Imports.mem_neededFrom.1 needed).1
  · intro mentioned
    obtain ⟨h, among, asks⟩ := mem_mentions_model.1 mentioned
    refine mem_needed_of_mentioned (fun dot => ?_) mentioned
    exact absurd (proper.isAlphanum_of_asks among asks _ dot) (by decide)

end Importing

/-- A handler with these statements mentions a model class by its simple name. -/
inductive Mentions
    (h : Handler)
    (statements : List Statement) : String → Prop
  | returned : Mentions h statements (responseClass h)
  | stated
      {st : Statement}
      {className : String}
      (member : st ∈ statements)
      (mentions : st.mentioned? = some className) :
      Mentions h statements className

section Rendered

variable {c : Controller} {h : Handler} {text : String}

/-- The file of a controller is its text below the header. -/
theorem exists_of_renderWithHeader
    (rendered : c.artifact.renderWithHeader = .ok text) :
    ∃ body, c.unit.render = .ok body ∧ text = generatedHeader ++ "\n" ++ body :=
  renderWithHeader_classArtifact.1 rendered

/-- The file of a controller is rendered when the body of every handler comes to its end. -/
theorem exists_renderWithHeader_iff :
    (∃ text, c.artifact.renderWithHeader = .ok text) ↔
      ∀ h ∈ c.handlers, c.handlerResult h = .ok () := by
  constructor
  · rintro ⟨text, rendered⟩ h among
    cases ended : c.handlerResult h with
    | ok => rfl
    | error failure =>
        obtain ⟨first, fails⟩ := exists_firstFails among ended
        simp [Artifact.renderWithHeader, c.render_artifact_eq_error.2 fails] at rendered
  · intro all
    cases rendered : c.unit.render with
    | ok body =>
        exact ⟨_, by simp [Artifact.renderWithHeader, Artifact.render, artifact, classArtifact,
          rendered, Except.map, WriteRules.generated]; rfl⟩
    | error failure =>
        have failed : c.artifact.render = .error failure := by
          simp [Artifact.render, artifact, classArtifact, rendered, Except.map]
        obtain ⟨front, h, back, whole, -, fails⟩ := c.render_artifact_eq_error.1 failed
        rw [all h (by simp [whole])] at fails
        cases fails

/-- Without demo data there is nothing that a handler could fail with. -/
theorem exists_renderWithHeader_of_placeheld
    (placeheld : c.demoData = none) :
    ∃ text, c.artifact.renderWithHeader = .ok text := by
  refine exists_renderWithHeader_iff.2 fun h _ => ?_
  rw [handlerResult, handlerBody, placeheld]
  rfl

end Rendered

end Controller

namespace Controller

end Controller

end Java
end Scaffold
