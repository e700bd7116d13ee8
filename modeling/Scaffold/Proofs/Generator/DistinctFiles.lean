import Scaffold.Proofs.Generator.SourcePaths

/-!
# Which files of a run are distinct

The paths that a preview lists are different, part by part, exactly when the files of the controllers are
and nothing is in the way of the application class.  Then, if all of them stay below the output directory
and the system takes every write, each source of the run is on disk with its own content in the end.  Two
modules whose names are alike in the case of types have controllers with one name, and the file of one is
lost; so is a controller when the name of the project leads to its file.
-/

namespace Scaffold

open Java (Controller fileOf)
open Manifest (Project)

namespace Java

/-- A source file is named after its extension. -/
theorem exists_fileName?_of_suffix
    {path : Path}
    (ends : ".java".toList <:+ path.text.toList) :
    ∃ front, path.fileName? = some (front ++ ".java") := by
  obtain ⟨cs, whole⟩ := ends
  have text : path.text = String.ofList cs ++ ".java" := by simp [String.ext_iff, ← whole]
  obtain ⟨front, last, before, pieces⟩ :=
    Text.exists_pieces_append (String.ofList cs) (show '/' ∉ ".java".toList by decide)
  have noSlash : '/' ∉ last.toList :=
    Text.separator_not_mem_of_mem_pieces (before ▸ List.mem_append_right front List.mem_cons_self)
  obtain ⟨name, named, -⟩ := exists_name_of_fileOf noSlash
  have step : Path.Step.ofPart (last ++ ".java") = .down name := by
    simp [Path.Step.ofPart, Path.Name.ofText?, ← named, name.valid]
  refine ⟨last, ?_⟩
  simp [Path.fileName?, Path.lastStep?, Path.moves, Path.steps, text, pieces, step, named]

end Java

namespace Generator

section DistinctFiles

variable {g : Generator} {tree : FileTree} {base : Path} {units : List Artifact}

/-- No name of a controller or of the application class leads into another directory. -/
structure Plain (g : Generator) : Prop where
  controllers : ∀ c ∈ g.controllers, '/' ∉ c.className.toList
  application : '/' ∉ g.application.className.toList

theorem Plain.nodup_controllerTrails_iff
    (plain : g.Plain) :
    g.controllerTrails.Nodup ↔ (g.controllers.map Controller.className).Nodup := by
  simp only [controllerTrails, List.Nodup, List.pairwise_map, ne_eq]
  refine List.Pairwise.iff_of_mem fun {c c'} member member' => not_congr ?_
  exact Java.trail_fileOf_inj (plain.controllers c member) (plain.controllers c' member')

/-- Names that lead nowhere else are in nobody's way. -/
theorem Plain.apart
    (accepted : g.project.Accepted)
    (plain : g.Plain) :
    g.Apart := by
  obtain ⟨application, -, same⟩ := Java.exists_name_of_fileOf plain.application
  have deeper : ∀ (folder : Path.Name) {className : String}, '/' ∉ className.toList →
      (Java.inFolder folder className).trail ≠ (fileOf g.application.className).trail := by
    intro folder className noSlash alike
    obtain ⟨name, -, file⟩ := Java.exists_name_of_fileOf noSlash
    rw [Java.inFolder_eq_ofNames folder file, same] at alike
    simpa using Path.trail_ofNames_injective alike
  exact ⟨fun c member => deeper _ (plain.controllers c member),
    fun m member => deeper _ (slash_not_mem_of_mem_models accepted member)⟩

/-- Without slashes in their names, it is the controllers that have to be told apart. -/
theorem Plain.nodup_paths_iff
    (accepted : g.project.Accepted)
    (plain : g.Plain) :
    ((g.sources.map Artifact.path).map Path.components).Nodup ↔
      (g.controllers.map Controller.className).Nodup := by
  rw [Generator.nodup_paths_iff accepted, plain.nodup_controllerTrails_iff]
  exact and_iff_left (plain.apart accepted)

/-- The path of a source is made of names. -/
theorem exists_names_of_mem_sources
    (accepted : g.project.Accepted)
    (plain : g.Plain)
    {a : Artifact}
    (member : a ∈ g.sources) :
    ∃ names, names ≠ [] ∧ a.path = Path.ofNames names := by
  have keys : ∀ key ∈ g.keys, ∃ names, names ≠ [] ∧ key = Path.ofNames names := by
    intro key among
    simp only [Generator.keys, List.mem_append, List.mem_map, List.mem_singleton, or_assoc] at among
    have inFolder : ∀ (folder : Path.Name) {className : String}, '/' ∉ className.toList →
        ∃ names, names ≠ [] ∧ Java.inFolder folder className = Path.ofNames names := by
      intro folder className noSlash
      obtain ⟨name, -, file⟩ := Java.exists_name_of_fileOf noSlash
      exact ⟨_, List.cons_ne_nil _ _, Java.inFolder_eq_ofNames folder file⟩
    rcases among with ⟨_, ⟨c, isController, rfl⟩, rfl⟩ | ⟨_, ⟨m, isModel, rfl⟩, rfl⟩ | rfl
    · exact inFolder _ (plain.controllers c isController)
    · exact inFolder _ (slash_not_mem_of_mem_models accepted isModel)
    · obtain ⟨name, -, same⟩ := Java.exists_name_of_fileOf plain.application
      exact ⟨[name], by simp, same⟩
  have path := (perm_paths accepted).mem_iff.1 (List.mem_map_of_mem member)
  obtain ⟨key, among, same⟩ := List.mem_map.1 path
  obtain ⟨names, nonempty, rfl⟩ := keys key among
  obtain ⟨home, nonempty', home_eq⟩ := Java.exists_names_of_directory accepted.packaged
  refine ⟨home ++ names, by simp [nonempty], ?_⟩
  rw [← same, Generator.home, home_eq, Path.join_ofNames nonempty' nonempty]

/-- The paths that a preview lists are those of the sources and of the template files. -/
theorem paths_of_preview
    {files : List (Path × String)}
    (templates : g.templates = .builtIn)
    (previewed : g.preview tree = .ok files) :
    files.map Prod.fst = g.sources.map Artifact.path ++ Template.builtIn.map Prod.fst := by
  rw [preview_eq] at previewed
  cases done : g.artifacts tree with
  | error failure => simp [done, Except.map] at previewed
  | ok units =>
      obtain rfl : units.map shown = files := by simpa [done, Except.map] using previewed
      rw [← paths_of_artifacts templates done, List.map_map]
      rfl

/-- The path of a source ends in the extension of source files. -/
theorem suffix_of_mem_sources
    {a : Artifact}
    (member : a ∈ g.sources) :
    ".java".toList <:+ a.path.text.toList := by
  have among := g.perm_sources.mem_iff.1 member
  simp only [List.mem_append, List.mem_map, List.mem_singleton, or_assoc] at among
  rcases among with ⟨c, -, rfl⟩ | ⟨m, -, rfl⟩ | rfl
  · exact Java.suffix_classPath c.package c.className
  · rw [m.path_artifact]
    exact Java.suffix_classPath _ _
  · exact Java.suffix_classPath g.application.package g.application.className

/-- The program's own template files are in nobody's way. -/
theorem nodup_with_templates_iff :
    ((g.sources.map Artifact.path ++ Template.builtIn.map Prod.fst).map Path.components).Nodup ↔
      ((g.sources.map Artifact.path).map Path.components).Nodup := by
  have own : ((Template.builtIn.map Prod.fst).map Path.components).Nodup := by decide
  have extension : ∀ path ∈ Template.builtIn.map Prod.fst, ∀ name ∈ path.fileName?,
      ¬ ".java".toList <:+ name.toList := by decide
  rw [List.map_append, List.nodup_append]
  refine ⟨fun distinct => distinct.1, fun distinct => ⟨distinct, own, ?_⟩⟩
  simp only [List.forall_mem_map]
  intro a source file template same
  obtain ⟨front, named⟩ := Java.exists_fileName?_of_suffix (suffix_of_mem_sources source)
  -- equal paths have one file name
  have moves : a.path.moves = file.1.moves := congrArg (fun c => c.toTrail.moves) same
  have named' : file.1.fileName? = some (front ++ ".java") := by
    rw [← named, Path.fileName?, Path.fileName?, Path.lastStep?, Path.lastStep?, moves]
  exact extension _ (List.mem_map_of_mem template) _ named' ⟨front.toList, by simp⟩

/-- When all paths are different and stay below, each source is found on disk with its own content in the
end. -/
theorem Emits.read_source
    {sources templates : List Artifact}
    (h : g.Emits tree sources templates)
    (accepted : g.project.Accepted)
    (below : ∀ a ∈ g.sources, a.path.StaysBelow)
    (distinct : ((g.sources.map Artifact.path).map Path.components).Nodup)
    (taken : Taken base (sources ++ templates) tree)
    {a : Artifact}
    (member : a ∈ g.sources) :
    ∃ body, a.content = .ok (.text body) ∧
      (after base (sources ++ templates) tree).read (base.join a.path) =
        .ok (Java.generatedHeader ++ "\n" ++ body).toUTF8 := by
  obtain ⟨unit, isUnit, body, content, shape⟩ := h.exists_headed member
  have always := (h.rendered_sources isUnit).1
  obtain ⟨location, lands⟩ := taken.landsAt (List.mem_append_left templates isUnit)
  have paths := h.paths_sources
  have isPath : ∀ b ∈ sources, b.path ∈ g.sources.map Artifact.path := fun b among =>
    paths ▸ List.mem_map_of_mem among
  have stays : ∀ b ∈ sources, b.path.StaysBelow := by
    intro b among
    obtain ⟨source, known, same⟩ := List.mem_map.1 (isPath b among)
    exact same ▸ below source known
  have reliable := h.reliable taken (.inr ⟨a, member, (below a member).relative⟩)
  obtain ⟨front, back, rfl⟩ := List.append_of_mem isUnit
  -- no other source comes to this location, and template files replace nothing
  have last : ∀ b ∈ back ++ templates, b.rules.overwrite = .always →
      ¬ b.LandsAt base (after base ((front ++ unit :: back) ++ templates) tree) location := by
    intro b later replaces lands'
    rcases List.mem_append.1 later with source | template
    · have isSource : b ∈ front ++ unit :: back :=
        List.mem_append_right _ (List.mem_cons_of_mem _ source)
      have trails := FileTree.trail_eq_of_locate_join (stays _ isUnit) (stays _ isSource) lands lands'
      have same := components_eq_of_trail_eq accepted (isPath _ isUnit) (isPath _ isSource) trails
      rw [← paths, List.map_map, List.map_append, List.map_cons, List.nodup_append] at distinct
      exact (List.nodup_cons.1 distinct.2.1).1 (List.mem_map.2 ⟨b, source, same.symm⟩)
    · rw [(h.spares_templates template).1.1] at replaces
      cases replaces
  obtain ⟨found, holds, stands⟩ := (h.ruled taken reliable).replaced front unit (back ++ templates)
    location (by simp) always lands last
  have path : unit.path = a.path := by rw [shape]
  have leads : (after base ((front ++ unit :: back) ++ templates) tree).locate
      (base.join a.path) = .ok location := path ▸ lands
  have bytes : found.bytes = (Java.generatedHeader ++ "\n" ++ body).toUTF8 := by
    rw [shape] at holds
    rw [← Except.ok.inj holds, Content.bytes]
  exact ⟨body, content, by simp only [FileTree.read, leads, stands, bytes]⟩

/-- The files of a run are distinct exactly when its controllers have different files and nothing is in the
way of the application class.

This is about the paths that a preview of an accepted project with the program's own template files lists,
compared part by part.  Where no class name of a controller or of the application has a slash, it comes
down to different names of the controllers.  If the paths are distinct, if those of all sources stay below
and if the system takes every write, then the run succeeds, and in the end each source is on disk with its
own content. -/
theorem files_are_distinct_unless_class_names_clash
    (g : Generator)
    (tree : FileTree)
    (accepted : g.project.violation? = none)
    (templates : g.templates = .builtIn)
    {files : List (Path × String)}
    (previewed : g.preview tree = .ok files) :
    (((files.map Prod.fst).map Path.components).Nodup ↔ g.controllerTrails.Nodup ∧ g.Apart) ∧
      (g.Plain →
        (((files.map Prod.fst).map Path.components).Nodup ↔
          (g.controllers.map Controller.className).Nodup) ∧
          ∀ a ∈ g.sources, a.path.StaysBelow) ∧
      ∀ base units, ((files.map Prod.fst).map Path.components).Nodup →
        (∀ a ∈ g.sources, a.path.StaysBelow) →
          g.artifacts tree = .ok units →
            (∀ turn ∈ turns base units tree, turn.Accepted base) →
              ∃ new written,
                g.generate base tree = (new, .ok written) ∧
                  ∀ a ∈ g.sources, ∃ body, a.content = .ok (.text body) ∧
                    new.read (base.join a.path) =
                      .ok (Java.generatedHeader ++ "\n" ++ body).toUTF8 := by
  have kept := Project.violation?_eq_none_iff.1 accepted
  rw [paths_of_preview templates previewed, nodup_with_templates_iff]
  refine ⟨nodup_paths_iff kept, fun plain => ⟨plain.nodup_paths_iff kept, fun a member => ?_⟩,
    fun base units distinct below done takes => ?_⟩
  · obtain ⟨names, -, path⟩ := exists_names_of_mem_sources kept plain member
    exact path ▸ Path.staysBelow_ofNames names
  · obtain ⟨sources, files, rfl, emits⟩ := exists_emits_of_artifacts done
    have taken := emits.taken takes
    have generated : g.generate base tree = writeAll base (sources ++ files) tree := by
      rw [generate_eq, done]
    exact ⟨_, _, generated.trans (writeAll_of_taken taken), fun a member =>
      emits.read_source kept below distinct taken member⟩

/-- Without demo data, no handler keeps a run from succeeding. -/
theorem exists_preview_of_placeholders
    (tree : FileTree)
    (demo : g.demoData = none)
    (templates : g.templates = .builtIn) :
    ∃ units, g.artifacts tree = .ok units ∧ g.preview tree = .ok (units.map shown) := by
  obtain ⟨units, done⟩ := exists_artifacts_of_handlers tree templates fun module c present h _ => by
    obtain ⟨-, sameData, -⟩ := controller_eq present
    rw [Controller.handlerResult, Controller.handlerBody, sameData, demo]
    rfl
  exact ⟨units, done, by simp [preview_eq, done, Except.map]⟩

/-- A ward with a module for animals and one for visits. -/
def ward : Project where
  settings := { name := "ward", declaredPackage := some "vet" }
  modules := ⟨[
    ("pets", { entities := ⟨
      [("Pet", { kind := .data }),
       ("GetPet", { kind := .request, method := some "GET", response := some "Pet" })],
      by decide⟩ }),
    ("visits", { entities := ⟨
      [("Visit", { kind := .data }),
       ("GetVisit", { kind := .request, method := some "GET", response := some "Visit" })],
      by decide⟩ })], by decide⟩

/-- A run for the ward succeeds and leaves its first controller on disk. -/
theorem ward_runs :
    ((ofProject ward .empty).generate ⟨"/srv/out"⟩ .empty).2.isOk = true ∧
      ((ofProject ward .empty).generate ⟨"/srv/out"⟩ .empty).1.pathExists
        ⟨"/srv/out/src/main/java/vet/controller/PetsController.java"⟩ = true := by
  -- the kernel evaluates the run once when all that is asked of it stands in one statement
  decide +kernel

/-- All files of the ward, two controllers among them, are distinct and end up on disk. -/
theorem ward_files_are_distinct :
    ward.violation? = none ∧
      (ofProject ward .empty).controllers.map Controller.className =
        ["PetsController", "VisitsController"] ∧
      ∃ files units,
        (ofProject ward .empty).preview .empty = .ok files ∧
          (ofProject ward .empty).artifacts .empty = .ok units ∧
          (∀ turn ∈ turns ⟨"/srv/out"⟩ units .empty, turn.Accepted ⟨"/srv/out"⟩) ∧
          ((files.map Prod.fst).map Path.components).Nodup ∧
          ∃ new written,
            (ofProject ward .empty).generate ⟨"/srv/out"⟩ .empty = (new, .ok written) ∧
              ∀ a ∈ (ofProject ward .empty).sources, ∃ body, a.content = .ok (.text body) ∧
                new.read (Path.join ⟨"/srv/out"⟩ a.path) =
                  .ok (Java.generatedHeader ++ "\n" ++ body).toUTF8 := by
  have accepted : ward.violation? = none := by decide +kernel
  obtain ⟨units, done, previewed⟩ :=
    exists_preview_of_placeholders (g := ofProject ward .empty) .empty rfl rfl
  have names : (ofProject ward .empty).controllers.map Controller.className =
      ["PetsController", "VisitsController"] := by decide +kernel
  have plain : (ofProject ward .empty).Plain := ⟨by decide +kernel, by decide +kernel⟩
  have succeeds := ward_runs.1
  have takes : ∀ turn ∈ turns ⟨"/srv/out"⟩ units .empty, turn.Accepted ⟨"/srv/out"⟩ := by
    rw [generate_eq, done] at succeeds
    rcases wrote : writeAll ⟨"/srv/out"⟩ units .empty with ⟨new, failure | written⟩
    · simp [wrote, Except.isOk, Except.toBool] at succeeds
    · exact accepted_of_writeAll wrote
  obtain ⟨-, flat, run⟩ := files_are_distinct_unless_class_names_clash (ofProject ward .empty)
    .empty accepted rfl previewed
  obtain ⟨paths, below⟩ := flat plain
  have distinct := paths.2 (names ▸ by decide)
  exact ⟨accepted, names, _, units, previewed, done, takes, distinct,
    run ⟨"/srv/out"⟩ units distinct below done takes⟩

/-- A project with two modules that are named alike in the case of types. -/
def twins : Project where
  settings := { name := "twins" }
  modules := ⟨[
    ("a_b", { entities := ⟨
      [("Cat", { kind := .data }),
       ("GetCat", { kind := .request, method := some "GET", response := some "Cat" })],
      by decide⟩ }),
    ("aB", { entities := ⟨
      [("Dog", { kind := .data }),
       ("GetDog", { kind := .request, method := some "GET", response := some "Dog" })],
      by decide⟩ })], by decide⟩

/-- A preview of this project lists the path of its two controllers twice. -/
theorem twins_share_a_path :
    ∃ files,
      twins.violation? = none ∧ (ofProject twins .empty).templates = .builtIn ∧
        (ofProject twins .empty).preview .empty = .ok files ∧
          ¬ ((files.map Prod.fst).map Path.components).Nodup := by
  have accepted : twins.violation? = none := by decide +kernel
  obtain ⟨units, done, previewed⟩ :=
    exists_preview_of_placeholders (g := ofProject twins .empty) .empty rfl rfl
  have kept : twins.Accepted := Project.violation?_eq_none_iff.1 accepted
  have plain : (ofProject twins .empty).Plain := ⟨by decide +kernel, by decide +kernel⟩
  have names : (ofProject twins .empty).controllers.map Controller.className =
      ["ABController", "ABController"] := by decide +kernel
  have twice : ¬ (((ofProject twins .empty).sources.map Artifact.path ++
      Template.builtIn.map Prod.fst).map Path.components).Nodup := by
    rw [nodup_with_templates_iff, plain.nodup_paths_iff kept, names]
    simp
  exact ⟨_, accepted, rfl, previewed, paths_of_preview rfl previewed ▸ twice⟩

end DistinctFiles

end Generator
end Scaffold
