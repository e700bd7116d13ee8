import Mathlib.Data.List.Nodup
import Scaffold.Proofs.FileTree.Components
import Scaffold.Proofs.Generator.Sources
import Scaffold.Proofs.Java.Agreement
import Scaffold.Proofs.Java.ClassPaths

/-!
# The paths of sources

The sources of a run stand below the directory of the package of the project: the application class in
it, the controllers and the model classes in a folder each.  In an accepted project the model classes
have different names.  So the paths of a run are different exactly when the files of controllers are, and
when none of the others is the file of the application class.  No rule for manifests sees to that: two
modules may be named alike in the case of types, and the names of controllers and of the application class
may lead through directories.
-/

namespace Scaffold

open Java (Controller Model classPath directory fileOf)
open Manifest (Declaration)

namespace Java

/-- The folder of controllers. -/
def controllerFolder : Path.Name :=
  ⟨"controller", by decide⟩

/-- The folder of model classes. -/
def modelFolder : Path.Name :=
  ⟨"model", by decide⟩

/-- The file of a class in a folder. -/
def inFolder
    (folder : Path.Name)
    (className : String) : Path :=
  Path.join ⟨folder.text⟩ (fileOf className)

section Folders

variable {folder : Path.Name} {className className' : String}

/-- The files of classes in two folders are different, unless the name of a class is an absolute path. -/
theorem trail_inFolder_ne
    {other : Path.Name}
    (apart : folder ≠ other)
    (relative : (fileOf className').isAbsolute = false) :
    (inFolder folder className).trail ≠ (inFolder other className').trail := by
  rw [inFolder, inFolder, Path.trail_name_join other relative]
  cases here : (fileOf className).isAbsolute with
  | true => simp [Path.join_of_isAbsolute here, Path.trail, here]
  | false => simp [Path.trail_name_join folder here, apart]

/-- The file of a class is one name when the name of the class leads nowhere else. -/
theorem exists_name_of_fileOf
    (noSlash : '/' ∉ className.toList) :
    ∃ name : Path.Name, name.text = className ++ ".java" ∧ fileOf className = Path.ofNames [name] := by
  have long : ∀ other : String, other.toList.length < 5 → className ++ ".java" ≠ other := by
    rintro other short rfl
    rw [String.toList_append, List.length_append] at short
    exact absurd short (by simp)
  have valid : Path.isName (className ++ ".java") = true := by
    simp [Path.isName, long "" (by decide), long "." (by decide), long ".." (by decide), noSlash]
  exact ⟨⟨_, valid⟩, rfl, by simp [fileOf, Path.ofNames, Path.ofParts]⟩

/-- The file of a class in a folder is two names when the name of the class leads nowhere else. -/
theorem inFolder_eq_ofNames
    (folder : Path.Name)
    {name : Path.Name}
    (same : fileOf className = Path.ofNames [name]) :
    inFolder folder className = Path.ofNames [folder, name] := by
  have first : (⟨folder.text⟩ : Path) = Path.ofNames [folder] := by
    simp [Path.ofNames, Path.ofParts]
  rw [inFolder, same, first, Path.join_ofNames (by simp) (by simp)]
  rfl

/-- Where names of classes lead nowhere else, they are equal when their files have one trail. -/
theorem trail_fileOf_inj
    (noSlash : '/' ∉ className.toList)
    (noSlash' : '/' ∉ className'.toList) :
    (fileOf className).trail = (fileOf className').trail ↔ className = className' := by
  obtain ⟨name, text, same⟩ := exists_name_of_fileOf noSlash
  obtain ⟨name', text', same'⟩ := exists_name_of_fileOf noSlash'
  rw [same, same', Path.trail_ofNames_injective.eq_iff (a := [name]), List.cons.injEq,
    and_iff_left rfl]
  constructor
  · rintro rfl
    exact by simpa [String.ext_iff] using text.symm.trans text'
  · rintro rfl
    exact Path.Name.text_injective (text.trans text'.symm)

end Folders

end Java

namespace Generator

section SourcePaths

variable {g : Generator} {tree : FileTree} {c : Controller} {m : Model}

/-- The directory of the package of a project. -/
def home (g : Generator) : Path :=
  directory g.project.settings.package

theorem solid_home
    (accepted : g.project.Accepted) :
    g.home.Solid :=
  Java.solid_directory accepted.packaged

theorem directory_within_home
    (accepted : g.project.Accepted)
    (folder : Path.Name)
    (noDot : '.' ∉ folder.text.toList)
    (className : String) :
    classPath (g.project.settings.package ++ "." ++ folder.text) className =
      g.home.join (Java.inFolder folder className) := by
  rw [Java.classPath_eq, Java.directory_within accepted.packaged folder noDot,
    Path.join_assoc]
  rfl

theorem package_controller (c : Controller) :
    c.package = c.project.settings.package ++ "." ++ Java.controllerFolder.text := by
  simp [Controller.package, Java.controllerFolder, String.ext_iff]

theorem packageOf_eq (basePackage : String) :
    Model.packageOf basePackage = basePackage ++ "." ++ Java.modelFolder.text := by
  simp [Model.packageOf, Java.modelFolder, String.ext_iff]

theorem path_controller
    (accepted : g.project.Accepted)
    (member : c ∈ g.controllers) :
    c.artifact.path = g.home.join (Java.inFolder Java.controllerFolder c.className) := by
  obtain ⟨module, present⟩ := mem_controllers.1 member
  have path : c.artifact.path = classPath c.package c.className := by
    simp only [Controller.artifact, Java.classArtifact, Controller.unit]
  rw [path, package_controller, (controller_eq present).1,
    directory_within_home accepted Java.controllerFolder (by decide)]

theorem path_model
    (accepted : g.project.Accepted)
    (member : m ∈ g.models) :
    m.artifact.path = g.home.join (Java.inFolder Java.modelFolder m.className) := by
  obtain ⟨d, -, -, rfl⟩ := mem_models.1 member
  have package : (g.model d).basePackage = g.project.settings.package := rfl
  rw [(g.model d).path_artifact, packageOf_eq, package,
    directory_within_home accepted Java.modelFolder (by decide)]

theorem path_application (g : Generator) :
    g.application.artifact.path = g.home.join (fileOf g.application.className) := by
  simp only [Java.Application.artifact, Java.classArtifact, Java.Application.unit,
    Java.classPath_eq, application, home]

/-- The module of a controller has an accepted name. -/
theorem isName_of_mem_controllers
    (accepted : g.project.Accepted)
    (member : c ∈ g.controllers) :
    Manifest.IsName c.module := by
  obtain ⟨m, known⟩ := mem_entries_of_controller (present_of_mem_controllers member)
  exact (accepted.modules (c.module, m) known).1

/-- The name of a model class has letters and digits only. -/
theorem isAlphanum_of_mem_models
    (accepted : g.project.Accepted)
    (member : m ∈ g.models)
    {char : Char}
    (among : char ∈ m.className.toList) :
    char.isAlphanum = true := by
  obtain ⟨d, declared, -, rfl⟩ := mem_models.1 member
  have named : (g.model d).className = Naming.pascal d.name := accepted.className_eq declared
  rw [named] at among
  exact Naming.isAlphanum_of_mem_pascal (accepted.isName declared) among

theorem slash_not_mem_of_mem_models
    (accepted : g.project.Accepted)
    (member : m ∈ g.models) :
    '/' ∉ m.className.toList := fun slash =>
  absurd (isAlphanum_of_mem_models accepted member slash) (by decide)

/-- The model classes of an accepted project have different names. -/
theorem nodup_className_models
    (accepted : g.project.Accepted) :
    (g.models.map Model.className).Nodup := by
  rw [models, List.map_map]
  refine List.Nodup.map_on ?_ (g.project.nodup_declarations.filter _)
  intro d among e among' same
  obtain ⟨declared, isModel⟩ := List.mem_filter.1 among
  obtain ⟨declared', isModel'⟩ := List.mem_filter.1 among'
  exact (hasModel accepted declared' isModel').only d declared isModel same

/-- Nothing is in the way of the application class: seen from the directory of the package, no other
file has the trail of its file. -/
structure Apart (g : Generator) : Prop where
  controllers : ∀ c ∈ g.controllers,
    (Java.inFolder Java.controllerFolder c.className).trail ≠ (fileOf g.application.className).trail
  models : ∀ m ∈ g.models,
    (Java.inFolder Java.modelFolder m.className).trail ≠ (fileOf g.application.className).trail

/-- The trails of the files of controllers, seen from their folder. -/
def controllerTrails (g : Generator) : List Path.Trail :=
  g.controllers.map fun c => (fileOf c.className).trail

/-- Below the directory of the package, the paths of the sources by kind. -/
def keys (g : Generator) : List Path :=
  (g.controllers.map Controller.className).map (Java.inFolder Java.controllerFolder) ++
    (g.models.map Model.className).map (Java.inFolder Java.modelFolder) ++
    [fileOf g.application.className]

theorem perm_paths
    (accepted : g.project.Accepted) :
    (g.sources.map Artifact.path).Perm (g.keys.map g.home.join) := by
  have controllers : (g.controllers.map Controller.artifact).map Artifact.path =
      ((g.controllers.map Controller.className).map
        (Java.inFolder Java.controllerFolder)).map g.home.join := by
    simp only [List.map_map]
    refine List.map_congr_left fun c member => ?_
    simp only [Function.comp_apply, path_controller accepted member]
  have models : (g.models.map Model.artifact).map Artifact.path =
      ((g.models.map Model.className).map
        (Java.inFolder Java.modelFolder)).map g.home.join := by
    simp only [List.map_map]
    refine List.map_congr_left fun m member => ?_
    simp only [Function.comp_apply, path_model accepted member]
  refine (g.perm_sources.map Artifact.path).trans (List.Perm.of_eq ?_)
  rw [keys, List.map_append, List.map_append, List.map_append, List.map_append, controllers,
    models, List.map_singleton, List.map_singleton, path_application]

/-- The files in the two folders are different exactly when those of the controllers are. -/
theorem nodup_folders_iff
    (accepted : g.project.Accepted) :
    (((g.controllers.map Controller.className).map (Java.inFolder Java.controllerFolder) ++
        (g.models.map Model.className).map (Java.inFolder Java.modelFolder)).map Path.trail).Nodup ↔
      g.controllerTrails.Nodup := by
  have inner : ∀ folder className className',
      (Java.inFolder folder className).trail = (Java.inFolder folder className').trail ↔
        (fileOf className).trail = (fileOf className').trail := fun folder _ _ =>
    Path.trail_join_inj (Path.solid_name folder).relative
  have controllers : (((g.controllers.map Controller.className).map
      (Java.inFolder Java.controllerFolder)).map Path.trail).Nodup ↔ g.controllerTrails.Nodup := by
    simp only [controllerTrails, List.Nodup, List.pairwise_map, ne_eq, inner]
  have models : (((g.models.map Model.className).map
      (Java.inFolder Java.modelFolder)).map Path.trail).Nodup := by
    have distinct := nodup_className_models accepted
    rw [List.Nodup, List.pairwise_map] at distinct
    simp only [List.Nodup, List.pairwise_map, ne_eq, inner]
    refine distinct.imp_of_mem fun {m m'} member member' differ => ?_
    rwa [Java.trail_fileOf_inj (slash_not_mem_of_mem_models accepted member)
      (slash_not_mem_of_mem_models accepted member')]
  rw [List.map_append, List.nodup_append, controllers]
  refine ⟨fun distinct => distinct.1, fun distinct => ⟨distinct, models, ?_⟩⟩
  simp only [List.forall_mem_map]
  intro c _ m member
  obtain ⟨name, -, same⟩ :=
    Java.exists_name_of_fileOf (slash_not_mem_of_mem_models accepted member)
  refine Java.trail_inFolder_ne (by decide) ?_
  rw [same]
  exact (Path.solid_ofNames (List.cons_ne_nil _ _)).relative

/-- The paths of sources differ from the trails of their files by the directory of the package. -/
theorem components_home_join_inj
    (accepted : g.project.Accepted)
    {key key' : Path} :
    (g.home.join key).components = (g.home.join key').components ↔ key.trail = key'.trail := by
  obtain ⟨names, nonempty, same⟩ := Java.exists_names_of_directory accepted.packaged
  rw [home, same, Path.components_join_ofNames_inj nonempty]

theorem nodup_keys_iff
    (accepted : g.project.Accepted) :
    (g.keys.map Path.trail).Nodup ↔ g.controllerTrails.Nodup ∧ g.Apart := by
  rw [keys, List.map_append, List.nodup_append, nodup_folders_iff accepted]
  refine and_congr_right fun _ => ?_
  simp only [List.map_append, List.forall_mem_append, List.forall_mem_map, List.map_cons,
    List.map_nil, List.nodup_singleton, List.mem_singleton, forall_eq, true_and]
  exact ⟨fun ⟨controllers, models⟩ => ⟨controllers, models⟩, fun ⟨controllers, models⟩ =>
    ⟨controllers, models⟩⟩

/-- The sources of an accepted project have different paths exactly when its controllers have different
files and nothing is in the way of the application class. -/
theorem nodup_paths_iff
    (accepted : g.project.Accepted) :
    ((g.sources.map Artifact.path).map Path.components).Nodup ↔
      g.controllerTrails.Nodup ∧ g.Apart := by
  rw [((perm_paths accepted).map Path.components).nodup_iff, ← nodup_keys_iff accepted]
  simp only [List.Nodup, List.pairwise_map, ne_eq, components_home_join_inj accepted]

/-- Sources have equal paths as soon as the trails of these are equal. -/
theorem components_eq_of_trail_eq
    (accepted : g.project.Accepted)
    {a b : Artifact}
    (isSource : a.path ∈ g.sources.map Artifact.path)
    (isSource' : b.path ∈ g.sources.map Artifact.path)
    (same : a.path.trail = b.path.trail) :
    a.path.components = b.path.components := by
  obtain ⟨key, -, path⟩ := List.mem_map.1 ((perm_paths accepted).mem_iff.1 isSource)
  obtain ⟨key', -, path'⟩ := List.mem_map.1 ((perm_paths accepted).mem_iff.1 isSource')
  rw [← path, ← path'] at same ⊢
  rw [Path.trail_join_inj (solid_home accepted).relative] at same
  exact (components_home_join_inj accepted).2 same

end SourcePaths

end Generator
end Scaffold
