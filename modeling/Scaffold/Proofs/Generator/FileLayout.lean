import Scaffold.Proofs.Generator.DistinctFiles
import Scaffold.Proofs.Java.Layout

/-!
# The layout of the files of a run

Package, directory, file and class of a source are named in different places, and agree: the file stands
in the directory of the package that its second line names, under the name of the class that it
declares.  What is known of the file of any class is used here for controllers, model classes and the
application class.  Two names are made from what manifests may choose freely, the suffix of controllers
and the name of the project, so these are taken to be plain.
-/

namespace Scaffold

open Java (Application Controller Model classFile)
open Manifest (IsPackage Project)
namespace Generator

section FileLayout

variable {g : Generator} {c : Controller} {m : Model} {text : String}

/-- The packages of the classes of a project. -/
def packages (g : Generator) : List String :=
  [g.project.settings.package, g.project.settings.package ++ ".controller",
   g.project.settings.package ++ ".model"]

/-- A text at a path is the file of a class in one of the packages of a project. -/
def HasClassFile
    (g : Generator)
    (path : Path)
    (text : String) : Prop :=
  ∃ package ∈ g.packages, ∃ className, Java.ClassFile package className path text

/-- Names that manifests may choose freely are plain: that of the project has letters, digits,
underscores, hyphens and spaces only, and the suffix of controllers letters, digits and underscores. -/
structure PlainlyNamed (project : Project) : Prop where
  name : ∀ c ∈ project.settings.name.toList,
    c.isAlphanum = true ∨ c = '_' ∨ c = '-' ∨ c = ' '
  suffix : ∀ c ∈ project.options.controllerSuffix.toList, c.isAlphanum = true ∨ c = '_'

theorem indent_controller
    {module : String}
    (present : g.controller? module = some c) :
    c.indent = indentOf g.project.options := by
  unfold controller? at present
  split at present
  · cases present
  · cases present
    rfl

/-- A step of indentation is not empty. -/
theorem step_indentOf_ne_nil
    (accepted : g.project.Accepted) :
    (indentOf g.project.options).step ≠ [] := by
  have width : g.project.options.indent.toNat ≠ 0 := by
    have indented := accepted.indented
    omega
  unfold indentOf
  split
  · simp [Code.Indent.step]
  · simpa [Code.Indent.step] using width

theorem isPackage_folder
    (accepted : g.project.Accepted)
    (folder : Path.Name)
    (noDot : '.' ∉ folder.text.toList)
    (segment : Manifest.segmentFlaw? folder.text = none) :
    IsPackage (g.project.settings.package ++ "." ++ folder.text) :=
  Java.isPackage_within accepted.packaged noDot (Manifest.segmentFlaw?_eq_none_iff.1 segment)

theorem hasClassFile_controller
    (accepted : g.project.Accepted)
    (plain : PlainlyNamed g.project)
    (member : c ∈ g.controllers)
    (rendered : c.artifact.renderWithHeader = .ok text) :
    g.HasClassFile c.artifact.path text := by
  have present := present_of_mem_controllers member
  obtain ⟨sameProject, -⟩ := controller_eq present
  have named : Manifest.IsName c.module := isName_of_mem_controllers accepted member
  have isPackage : IsPackage c.package := by
    rw [package_controller, sameProject]
    exact isPackage_folder accepted Java.controllerFolder (by decide) (by decide +kernel)
  have isPlain : ∀ char ∈ c.className.toList, char.isAlphanum = true ∨ char = '_' := by
    rw [Controller.className, sameProject, String.toList_append]
    exact List.forall_mem_append.2
      ⟨fun _ among => .inl (Naming.isAlphanum_of_mem_pascal named among), plain.suffix⟩
  have wide : c.indent.step ≠ [] := by
    rw [indent_controller present]
    exact step_indentOf_ne_nil accepted
  refine ⟨c.package, by simp [packages, Controller.package, sameProject], c.className, ?_⟩
  exact Java.classFile_of_render c.unit c.heading c.declaration_eq isPackage isPlain wide rendered

theorem hasClassFile_model
    (accepted : g.project.Accepted)
    (member : m ∈ g.models)
    (rendered : m.artifact.renderWithHeader = .ok text) :
    g.HasClassFile m.artifact.path text := by
  have isPlain : ∀ char ∈ m.className.toList, char.isAlphanum = true ∨ char = '_' :=
    fun _ among => .inl (isAlphanum_of_mem_models accepted member among)
  obtain ⟨d, -, -, own⟩ := mem_models.1 member
  have base : m.basePackage = g.project.settings.package := own ▸ rfl
  have isPackage : IsPackage (Model.packageOf m.basePackage) := by
    rw [packageOf_eq, base]
    exact isPackage_folder accepted Java.modelFolder (by decide) (by decide +kernel)
  have wide : m.indent.step ≠ [] := own ▸ step_indentOf_ne_nil accepted
  refine ⟨Model.packageOf m.basePackage, by simp [packages, Model.packageOf, base], m.className, ?_⟩
  cases kind : m.entity.kind with
  | data =>
      have shape : m.artifact = Java.classArtifact m.className m.classUnit := by
        simp [Model.artifact, kind]
      rw [shape] at rendered ⊢
      exact Java.classFile_of_render m.classUnit (m.heading "class" (.inl rfl))
        (m.declaration_eq (.inl rfl)) isPackage isPlain wide rendered
  | enumeration =>
      have shape : m.artifact = Java.classArtifact m.className m.enumUnit := by
        simp [Model.artifact, kind]
      rw [shape] at rendered ⊢
      exact Java.classFile_of_render m.enumUnit (m.heading "enum" (.inr rfl))
        (m.declaration_eq (.inr rfl)) isPackage isPlain wide rendered
  | request =>
      simp [Model.artifact, kind, Artifact.renderWithHeader, Artifact.render] at rendered

theorem hasClassFile_application
    (accepted : g.project.Accepted)
    (plain : PlainlyNamed g.project)
    (rendered : g.application.artifact.renderWithHeader = .ok text) :
    g.HasClassFile g.application.artifact.path text := by
  have spaced : Naming.IsSpaced g.project.settings.name := by
    intro c among
    rcases plain.name c among with alphanumeric | rfl | rfl | rfl
    · exact .inl alphanumeric
    · exact .inr rfl
    · exact .inr rfl
    · exact .inr rfl
  have isPlain : ∀ char ∈ g.application.className.toList,
      char.isAlphanum = true ∨ char = '_' := by
    have suffix : ∀ char ∈ "Application".toList, char.isAlphanum = true := by simp
    rw [Application.className, String.toList_append]
    exact List.forall_mem_append.2 ⟨fun _ among => .inl (spaced.isAlphanum_of_mem_pascal among),
      fun char among => .inl (suffix char among)⟩
  refine ⟨g.project.settings.package, List.mem_cons_self, g.application.className, ?_⟩
  exact Java.classFile_of_render g.application.unit g.application.heading rfl accepted.packaged
    isPlain (step_indentOf_ne_nil accepted) rendered

/-- Every source that is rendered is the file of a class. -/
theorem hasClassFile_of_mem_sources
    (accepted : g.project.Accepted)
    (plain : PlainlyNamed g.project)
    {a : Artifact}
    (member : a ∈ g.sources)
    (rendered : a.renderWithHeader = .ok text) :
    g.HasClassFile a.path text := by
  have among := g.perm_sources.mem_iff.1 member
  simp only [List.mem_append, List.mem_map, List.mem_singleton, or_assoc] at among
  rcases among with ⟨c, isController, rfl⟩ | ⟨m, isModel, rfl⟩ | rfl
  · exact hasClassFile_controller accepted plain isController rendered
  · exact hasClassFile_model accepted isModel rendered
  · exact hasClassFile_application accepted plain rendered

/-- The sources of a run are the files of classes, laid out alike.

In an accepted project with plain names, whatever fills its handlers and whatever its template files
are, each source that is rendered starts with the header and the line of its package, which is that of
the project, of its controllers or of its model classes; it stands in the directory of that package,
under the name of the class that its one block at no depth declares.  A run that succeeds puts these
files on disk and then its template files.  Classes with different packages or names have different
paths. -/
theorem sources_are_laid_out_alike
    (g : Generator)
    (accepted : g.project.violation? = none)
    (plain : PlainlyNamed g.project) :
    (∀ a ∈ g.sources, ∀ text, a.renderWithHeader = .ok text → g.HasClassFile a.path text) ∧
      (∀ tree units, g.artifacts tree = .ok units →
        ∃ sources files, units = sources ++ files ∧
          g.templates.artifacts tree g.tokens = .ok files ∧
          sources.map Artifact.path = g.sources.map Artifact.path ∧
          ∀ unit ∈ sources, unit.rules.header = none ∧
            ∃ text, unit.content = .ok (.text text) ∧ g.HasClassFile unit.path text) ∧
      ∀ package package' className className', IsPackage package → IsPackage package' →
        '/' ∉ className.toList → '/' ∉ className'.toList →
          (package, className) ≠ (package', className') →
            classFile package className ≠ classFile package' className' := by
  have kept := Project.violation?_eq_none_iff.1 accepted
  refine ⟨fun a member text => hasClassFile_of_mem_sources kept plain member, ?_, ?_⟩
  · intro tree units done
    obtain ⟨sources, files, rfl, emits⟩ := exists_emits_of_artifacts done
    refine ⟨sources, files, rfl, emits.templates, emits.paths_sources, fun unit member => ?_⟩
    obtain ⟨source, isSource, headed⟩ := emits.exists_source member
    obtain ⟨text, rendered, rfl⟩ := headed.exists_renderWithHeader (rules_of_mem_sources isSource)
    have file := hasClassFile_of_mem_sources kept plain isSource rendered
    exact ⟨rfl, text, rfl, file⟩
  · intro package package' className className' isPackage isPackage' noSlash noSlash' differ same
    obtain ⟨rfl, rfl⟩ := Java.classFile_inj isPackage isPackage' noSlash noSlash' same
    exact differ rfl

/-- A library with a desk where books are lent. -/
def library : Project where
  settings := { name := "my first-library", declaredPackage := some "org.books" }
  options := { controllerSuffix := "Rest_API" }
  modules := ⟨[("lending_desk", { description := some "Where books\ngo out.", entities := ⟨
    [("Book", { kind := .data, fields := ⟨[("title", .string)], by decide⟩ }),
     ("Shelf", { kind := .enumeration, values := ["UPPER"] }),
     ("GetBook", { kind := .request, method := some "GET", response := some "Book" })],
    by decide⟩ })], by decide⟩

/-- A run for the library has the file of each class, laid out for its package and its name. -/
theorem library_files_are_laid_out :
    library.violation? = none ∧ PlainlyNamed library ∧
      ∃ units, (ofProject library .empty).artifacts .empty = .ok units ∧
        ∀ named ∈ [("org.books.controller", "LendingDeskRest_API"), ("org.books.model", "Book"),
            ("org.books.model", "Shelf"), ("org.books", "MyFirstLibraryApplication")],
          ∃ unit ∈ units, ∃ text, unit.content = .ok (.text text) ∧
            Java.ClassFile named.1 named.2 unit.path text := by
  have accepted : library.violation? = none := by decide +kernel
  have plain : PlainlyNamed library := ⟨by simp [library], by simp [library]⟩
  obtain ⟨units, done, -⟩ :=
    exists_preview_of_placeholders (g := ofProject library .empty) .empty rfl rfl
  obtain ⟨-, runs, apart⟩ := sources_are_laid_out_alike (ofProject library .empty) accepted plain
  obtain ⟨sources, files, rfl, -, paths, laidOut⟩ := runs .empty units done
  refine ⟨accepted, plain, _, done, fun named member => ?_⟩
  have listed : ∀ named ∈ [("org.books.controller", "LendingDeskRest_API"),
      ("org.books.model", "Book"), ("org.books.model", "Shelf"),
      ("org.books", "MyFirstLibraryApplication")],
        Path.mk (classFile named.1 named.2) ∈
            (ofProject library .empty).sources.map Artifact.path ∧
          Manifest.packageFlaw? named.1 = none ∧ '/' ∉ named.2.toList := by
    decide +kernel
  obtain ⟨isPath, isPackage, noSlash⟩ := listed named member
  obtain ⟨unit, isSource, path⟩ := List.mem_map.1 (paths ▸ isPath)
  obtain ⟨-, text, content, package, -, className, file⟩ := laidOut unit isSource
  -- the file is that of another class only if the paths of the two are different
  obtain rfl : (package, className) = named := by
    by_contra differ
    refine apart _ _ _ _ file.isPackage (Manifest.packageFlaw?_eq_none_iff.1 isPackage)
      (Java.not_mem_of_isPlain file.isPlain (by decide) (by decide)) noSlash differ ?_
    rw [← file.path, path]
  exact ⟨unit, List.mem_append_left _ isSource, text, content, file⟩

end FileLayout

end Generator
end Scaffold
