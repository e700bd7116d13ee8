import Scaffold.Generation
import Scaffold.Proofs.Generator.Refinement
import Scaffold.Proofs.Java.Rendering

/-!
# All or nothing

Everything is rendered before anything is written, in a fixed order: module by module the controller
and then the models as the entities are declared, then the application class, then the template
files.  The first failure in this order is what a run fails with, whether it shows or writes, and a
run that fails leaves the file tree as it was.  So does a run whose package is refused.
-/

namespace Scaffold

open Java (Controller)
open Manifest (Declaration Module Project)

namespace Artifact

section Rendering

variable {a : Artifact} {failure : Failure}

/-- The text of an artifact can be made. -/
def Renders (a : Artifact) : Prop :=
  ∃ text, a.render = .ok text

theorem prerender_eq_error :
    a.prerender = .error failure ↔ a.render = .error failure := by
  cases rendered : a.render with
  | error reason => simp [prerender, renderWithHeader, rendered]
  | ok body =>
      cases header : a.rules.header <;> simp [prerender, renderWithHeader, rendered, header]

theorem exists_prerender_eq_ok :
    (∃ unit, a.prerender = .ok unit) ↔ a.Renders := by
  unfold Renders
  cases rendered : a.render with
  | error reason => simp [prerender, renderWithHeader, rendered]
  | ok body =>
      cases header : a.rules.header <;> simp [prerender, renderWithHeader, rendered, header]

end Rendering

end Artifact

namespace Template

/-- A file in which placeholders should be replaced, and that is no text. -/
def Undecodable (file : Location × ByteArray) : Prop :=
  isSubstituted (Path.ofNames file.1) = true ∧ String.fromUTF8? file.2 = none

/-- A file in a template directory is no template when it is not decodable. -/
theorem directoryArtifact_eq_error
    {tokens : Tokens}
    {directory : Path}
    {file : Location × ByteArray}
    {failure : Failure} :
    directoryArtifact tokens directory file = .error failure ↔
      Undecodable file ∧ failure = .unreadableTemplate (directory.extend file.1) := by
  by_cases substituted : isSubstituted (Path.ofNames file.1) = true
  · cases text : String.fromUTF8? file.2 <;>
      simp [directoryArtifact, contentOf?, Undecodable, substituted, text, eq_comm]
  · simp [directoryArtifact, contentOf?, Undecodable, substituted]

theorem exists_directoryArtifact_eq_ok
    {tokens : Tokens}
    {directory : Path}
    {file : Location × ByteArray} :
    (∃ a, directoryArtifact tokens directory file = .ok a) ↔ ¬ Undecodable file := by
  by_cases substituted : isSubstituted (Path.ofNames file.1) = true
  · cases text : String.fromUTF8? file.2 <;>
      simp [directoryArtifact, contentOf?, Undecodable, substituted, text]
  · simp [directoryArtifact, contentOf?, Undecodable, substituted]

section Flaws

variable {tokens : Tokens} {directory : Path} {visits : List Visit} {failure : Failure}

/-- What is wrong with something that a walk through a directory comes upon, as it is told: the walk
goes wrong there, the file cannot be read, or it has to be text and is not. -/
inductive Visit.Flaw (directory : Path) : Visit → Failure → Prop
  | unlisted : Flaw directory .fault (.unreadableTemplates directory)
  | unread
      {names : Location} :
      Flaw directory (.file names none) (.unreadableTemplate (directory.extend names))
  | undecodable
      {names : Location}
      {bytes : ByteArray}
      (noText : Undecodable (names, bytes)) :
      Flaw directory (.file names (some bytes)) (.unreadableTemplate (directory.extend names))

theorem walkArtifacts_singleton_eq_error
    {visit : Visit} :
    walkArtifacts tokens directory [visit] = .error failure ↔ visit.Flaw directory failure := by
  cases visit with
  | fault => exact ⟨fun failed => by cases failed; exact .unlisted, fun | .unlisted => rfl⟩
  | other names => exact ⟨nofun, nofun⟩
  | file names bytes =>
      cases bytes with
      | none => exact ⟨fun failed => by cases failed; exact .unread, fun | .unread => rfl⟩
      | some bytes =>
          have single : walkArtifacts tokens directory [.file names (some bytes)] = .error failure ↔
              directoryArtifact tokens directory (names, bytes) = .error failure := by
            cases made : directoryArtifact tokens directory (names, bytes) <;>
              simp [walkArtifacts, made, Except.map]
          rw [single, directoryArtifact_eq_error]
          constructor
          · rintro ⟨noText, rfl⟩
            exact .undecodable noText
          · rintro ⟨⟩
            next noText => exact ⟨noText, rfl⟩

theorem exists_walkArtifacts_singleton_eq_ok
    {visit : Visit} :
    (∃ made, walkArtifacts tokens directory [visit] = .ok made) ↔
      ∀ reason, ¬ visit.Flaw directory reason := by
  have failed : ∀ reason, visit.Flaw directory reason ↔
      walkArtifacts tokens directory [visit] = .error reason :=
    fun _ => walkArtifacts_singleton_eq_error.symm
  simp only [failed]
  cases walkArtifacts tokens directory [visit] <;> simp

/-- What is made of a walk fails with the first thing that is wrong with what it comes upon. -/
theorem walkArtifacts_eq_error :
    walkArtifacts tokens directory visits = .error failure ↔
      FirstFails (fun visit => walkArtifacts tokens directory [visit]) visits failure := by
  induction visits with
  | nil => simp [walkArtifacts]
  | cons visit visits ih =>
      rw [firstFails_cons, ← ih]
      cases visit with
      | fault => simp [walkArtifacts]
      | other names => simp [walkArtifacts]
      | file names bytes =>
          cases bytes with
          | none => simp [walkArtifacts]
          | some bytes =>
              cases made : directoryArtifact tokens directory (names, bytes) <;>
                cases later : walkArtifacts tokens directory visits <;>
                  simp [walkArtifacts, made, later, Except.map]

/-- No artifacts are made of a walk exactly when something is wrong with what it comes upon. -/
theorem exists_walkArtifacts_eq_error_iff :
    (∃ failure, walkArtifacts tokens directory visits = .error failure) ↔
      ∃ visit ∈ visits, ∃ reason, visit.Flaw directory reason := by
  constructor
  · rintro ⟨failure, failed⟩
    obtain ⟨front, visit, back, rfl, -, stopped⟩ := walkArtifacts_eq_error.1 failed
    exact ⟨visit, by simp, failure, walkArtifacts_singleton_eq_error.1 stopped⟩
  · rintro ⟨visit, member, reason, flaw⟩
    let single := fun visit => walkArtifacts tokens directory [visit]
    have failed : single visit = .error reason := walkArtifacts_singleton_eq_error.2 flaw
    obtain ⟨first, fails⟩ := exists_firstFails member failed
    exact ⟨first, walkArtifacts_eq_error.2 fails⟩

end Flaws

end Template

namespace TemplateSource

section TemplateSource

variable {visits : Path → List Template.Visit} {source : TemplateSource} {tokens : Tokens}
  {failure : Failure}

/-- A template source with a directory in which something is wrong. -/
inductive Unreadable (visits : Path → List Template.Visit) : TemplateSource → Prop
  | directory
      {directory : Path}
      {visit : Template.Visit}
      {reason : Failure}
      (member : visit ∈ visits directory)
      (flaw : visit.Flaw directory reason) :
      Unreadable visits (.directory directory)

/-- The first failure of a template source: the first thing that is wrong in its directory. -/
inductive FirstFailure (visits : Path → List Template.Visit) : TemplateSource → Failure → Prop
  | directory
      {directory : Path}
      {front back : List Template.Visit}
      {visit : Template.Visit}
      {failure : Failure}
      (walk : visits directory = front ++ visit :: back)
      (sound : ∀ earlier ∈ front, ∀ reason, ¬ earlier.Flaw directory reason)
      (flaw : visit.Flaw directory failure) :
      FirstFailure visits (.directory directory) failure

/-- Template files cannot be made exactly when the source has a first failure. -/
theorem artifactsOf_eq_error :
    source.artifactsOf tokens visits = .error failure ↔ FirstFailure visits source failure := by
  cases source with
  | builtIn => exact ⟨nofun, nofun⟩
  | directory directory =>
      rw [artifactsOf, Template.walkArtifacts_eq_error]
      constructor
      · rintro ⟨front, visit, back, walk, passed, stopped⟩
        exact .directory walk
          (fun earlier member => Template.exists_walkArtifacts_singleton_eq_ok.1 (passed earlier member))
          (Template.walkArtifacts_singleton_eq_error.1 stopped)
      · rintro ⟨walk, sound, flaw⟩
        exact ⟨_, _, _, walk,
          fun earlier member => Template.exists_walkArtifacts_singleton_eq_ok.2 (sound earlier member),
          Template.walkArtifacts_singleton_eq_error.2 flaw⟩

/-- A source with a first failure is unreadable. -/
theorem FirstFailure.unreadable
    (h : FirstFailure visits source failure) :
    Unreadable visits source := by
  obtain ⟨walk, -, flaw⟩ := h
  exact .directory (by simp [walk]) flaw

/-- Template files cannot be made from an unreadable source. -/
theorem Unreadable.exists_firstFailure
    (h : Unreadable visits source) :
    ∃ failure, FirstFailure visits source failure := by
  cases h with
  | @directory directory visit reason member flaw =>
      -- no placeholder is replaced where something is wrong, so any values do
      have failed : ∃ failure,
          Template.walkArtifacts ⟨"", "", "", ""⟩ directory (visits directory) = .error failure :=
        Template.exists_walkArtifacts_eq_error_iff.2 ⟨visit, member, reason, flaw⟩
      exact failed.imp fun _ => artifactsOf_eq_error.1

/-- In a tree, the first failure is the directory that cannot be reached or the first file in it that
has to be text and is not. -/
theorem firstFailure_visits_iff
    {tree : FileTree}
    {path : Path} :
    FirstFailure tree.visits (.directory path) failure ↔
      (∃ fault, tree.locate path = .error fault ∧ failure = .unreadableTemplates path) ∨
        ∃ location front file back,
          tree.locate path = .ok location ∧
            tree.filesBelow location = front ++ file :: back ∧
            (∀ earlier ∈ front, ¬ Template.Undecodable earlier) ∧
            Template.Undecodable file ∧ failure = .unreadableTemplate (path.extend file.1) := by
  have made : (directory path).artifactsOf ⟨"", "", "", ""⟩ tree.visits =
      Template.directoryArtifacts tree path ⟨"", "", "", ""⟩ := rfl
  rw [← artifactsOf_eq_error, made, Template.directoryArtifacts_eq]
  cases reached : tree.locate path with
  | error fault => simp [eq_comm]
  | ok location =>
      simp [mapM_eq_error, FirstFails, Template.directoryArtifact_eq_error,
        Template.exists_directoryArtifact_eq_ok]

end TemplateSource

end TemplateSource

namespace Generator

section AllOrNothing

variable {g : Generator} {base : Path} {tree : FileTree} {visits : Path → List Template.Visit}
  {failure : Failure}

/-- The entities of a module that become model classes, as they are declared. -/
def modelsOf (entry : String × Module) : List Declaration :=
  (Project.declarationsOf entry).filter fun d => d.entity.isModel

/-- Every source of a module can be rendered. -/
def ModuleRenders
    (g : Generator)
    (entry : String × Module) : Prop :=
  ∀ a ∈ g.moduleArtifacts entry, a.Renders

/-- Something in a run fails: the body of a handler, a source, or the template source. -/
inductive Fails
    (g : Generator)
    (visits : Path → List Template.Visit) : Prop
  | handler
      {entry : String × Module}
      {c : Controller}
      {h : Manifest.Handler}
      {reason : Failure}
      (member : entry ∈ g.project.modules.entries)
      (present : g.controller? entry.1 = some c)
      (among : h ∈ c.handlers)
      (fails : c.handlerResult h = .error reason)
  | source
      {a : Artifact}
      {reason : Failure}
      (member : a ∈ g.sources)
      (fails : a.render = .error reason)
  | templates
      (unreadable : g.templates.Unreadable visits)

/-- The first failure of a run, in the order in which its artifacts are rendered. -/
inductive FirstFailure
    (g : Generator)
    (visits : Path → List Template.Visit)
    (failure : Failure) : Prop
  /-- A controller fails with the first of its handlers whose body fails. -/
  | controller
      {earlier later : List (String × Module)}
      {entry : String × Module}
      {c : Controller}
      (modules : g.project.modules.entries = earlier ++ entry :: later)
      (rendered : ∀ m ∈ earlier, g.ModuleRenders m)
      (present : g.controller? entry.1 = some c)
      (fails : FirstFails c.handlerResult c.handlers failure)
  /-- A model class fails after the controller of its module was rendered. -/
  | model
      {earlier later : List (String × Module)}
      {entry : String × Module}
      (modules : g.project.modules.entries = earlier ++ entry :: later)
      (rendered : ∀ m ∈ earlier, g.ModuleRenders m)
      (controllerRenders : ∀ c, g.controller? entry.1 = some c → c.artifact.Renders)
      (fails : FirstFails (fun d => (g.model d).artifact.render) (modelsOf entry) failure)
  /-- The application class fails after all modules were rendered. -/
  | application
      (rendered : ∀ m ∈ g.project.modules.entries, g.ModuleRenders m)
      (fails : g.application.artifact.render = .error failure)
  /-- The template files fail after all sources were rendered. -/
  | templates
      (rendered : ∀ a ∈ g.sources, a.Renders)
      (fails : g.templates.FirstFailure visits failure)

/-- The first failure of a module is that of its controller, or else that of its first model. -/
theorem firstFails_moduleArtifacts
    {entry : String × Module} :
    FirstFails Artifact.render (g.moduleArtifacts entry) failure ↔
      (∃ c, g.controller? entry.1 = some c ∧ FirstFails c.handlerResult c.handlers failure) ∨
        (∀ c, g.controller? entry.1 = some c → c.artifact.Renders) ∧
          FirstFails (fun d => (g.model d).artifact.render) (modelsOf entry) failure := by
  have models : FirstFails Artifact.render
      ((modelsOf entry).map fun d => (g.model d).artifact) failure ↔
        FirstFails (fun d => (g.model d).artifact.render) (modelsOf entry) failure :=
    firstFails_map
  unfold moduleArtifacts
  rw [firstFails_append]
  cases present : g.controller? entry.1 with
  | none => simpa [modelsOf] using models
  | some c =>
      simp only [Option.map_some, Option.toList_some, firstFails_cons, not_firstFails_nil,
        and_false, or_false, c.render_artifact_eq_error, List.forall_mem_singleton,
        Option.some.injEq, exists_eq_left', forall_eq']
      exact or_congr_right (and_congr_right fun _ => models)

/-- The first failure of the sources is that of the first module in which something fails, or else
that of the application class. -/
theorem firstFails_sources :
    FirstFails Artifact.render g.sources failure ↔
      (∃ earlier entry later,
        g.project.modules.entries = earlier ++ entry :: later ∧
          (∀ m ∈ earlier, g.ModuleRenders m) ∧
          FirstFails Artifact.render (g.moduleArtifacts entry) failure) ∨
        (∀ m ∈ g.project.modules.entries, g.ModuleRenders m) ∧
          g.application.artifact.render = .error failure := by
  unfold sources
  rw [firstFails_append, firstFails_flatMap, firstFails_cons]
  have modules : (∀ a ∈ g.project.modules.entries.flatMap g.moduleArtifacts,
      ∃ text, a.render = .ok text) ↔ ∀ m ∈ g.project.modules.entries, g.ModuleRenders m := by
    simp only [List.mem_flatMap, ModuleRenders, Artifact.Renders]
    exact ⟨fun all m among a member => all a ⟨m, among, member⟩,
      fun all a ⟨m, among, member⟩ => all m among a member⟩
  rw [modules]
  simp [ModuleRenders, Artifact.Renders]

/-- A run has a first failure when its sources have one, or else its template files. -/
theorem firstFailure_iff :
    g.FirstFailure visits failure ↔
      FirstFails Artifact.render g.sources failure ∨
        (∀ a ∈ g.sources, a.Renders) ∧ g.templates.artifactsOf g.tokens visits = .error failure := by
  rw [firstFails_sources, TemplateSource.artifactsOf_eq_error]
  constructor
  · intro first
    cases first with
    | controller modules rendered present fails =>
        exact .inl (.inl ⟨_, _, _, modules, rendered,
          firstFails_moduleArtifacts.2 (.inl ⟨_, present, fails⟩)⟩)
    | model modules rendered controllerRenders fails =>
        exact .inl (.inl ⟨_, _, _, modules, rendered,
          firstFails_moduleArtifacts.2 (.inr ⟨controllerRenders, fails⟩)⟩)
    | application rendered fails => exact .inl (.inr ⟨rendered, fails⟩)
    | templates rendered fails => exact .inr ⟨rendered, fails⟩
  · rintro ((⟨earlier, entry, later, modules, rendered, fails⟩ | ⟨rendered, fails⟩) |
      ⟨rendered, fails⟩)
    · rcases firstFails_moduleArtifacts.1 fails with ⟨c, present, fails⟩ | ⟨renders, fails⟩
      · exact .controller modules rendered present fails
      · exact .model modules rendered renders fails
    · exact .application rendered fails
    · exact .templates rendered fails

/-- The artifacts of a run cannot be made exactly when it has a first failure. -/
theorem artifactsWith_eq_error :
    g.artifactsWith (g.templates.artifactsOf g.tokens visits) = .error failure ↔
      g.FirstFailure visits failure := by
  rw [firstFailure_iff]
  have sameFailures : FirstFails Artifact.prerender g.sources failure ↔
      FirstFails Artifact.render g.sources failure :=
    firstFails_congr fun _ _ => Artifact.prerender_eq_error
  rw [← sameFailures]
  unfold artifactsWith
  cases ready : g.sources.mapM Artifact.prerender with
  | error first =>
      have stopped : ¬ ∀ a ∈ g.sources, a.Renders := by
        intro all
        obtain ⟨front, a, back, whole, -, failed⟩ := mapM_eq_error.1 ready
        have renders : a.Renders := all a (by simp [whole])
        obtain ⟨unit, done⟩ := Artifact.exists_prerender_eq_ok.2 renders
        rw [failed] at done
        cases done
      simp [bind, Except.bind, ← mapM_eq_error, ready, stopped]
  | ok units =>
      have all : ∀ a ∈ g.sources, a.Renders := fun a member =>
        Artifact.exists_prerender_eq_ok.1 ((exists_of_mapM_eq_ok ready).1 a member)
      cases made : g.templates.artifactsOf g.tokens visits with
      | error first => simpa [bind, Except.bind, ← mapM_eq_error, ready] using fun _ => all
      | ok templates => simp [bind, Except.bind, pure, Except.pure, ← mapM_eq_error, ready]

/-- The artifacts of a run in a tree cannot be made exactly when it has a first failure there. -/
theorem artifacts_eq_error :
    g.artifacts tree = .error failure ↔ g.FirstFailure tree.visits failure :=
  artifactsWith_eq_error

/-- Something in a run fails exactly when it has a first failure. -/
theorem fails_iff_exists_firstFailure :
    g.Fails visits ↔ ∃ failure, g.FirstFailure visits failure := by
  have ofSource : ∀ {a reason}, a ∈ g.sources → a.render = .error reason →
      ∃ failure, g.FirstFailure visits failure := by
    intro a reason member fails
    obtain ⟨first, failed⟩ := exists_firstFails member fails
    exact ⟨first, firstFailure_iff.2 (.inl failed)⟩
  constructor
  · intro fails
    cases fails with
    | @handler entry c h reason member present among fails =>
        obtain ⟨first, failed⟩ := exists_firstFails among fails
        exact ofSource (mem_sources_of_controller member present) (c.render_artifact_eq_error.2 failed)
    | source member fails => exact ofSource member fails
    | templates unreadable =>
        by_cases all : ∀ a ∈ g.sources, a.Renders
        · obtain ⟨first, stopped⟩ := unreadable.exists_firstFailure
          exact ⟨first, .templates all stopped⟩
        · push Not at all
          obtain ⟨a, member, noText⟩ := all
          cases rendered : a.render with
          | error reason => exact ofSource member rendered
          | ok text => exact absurd ⟨text, rendered⟩ noText
  · rintro ⟨failure, first⟩
    rcases firstFailure_iff.1 first with ⟨front, a, back, whole, -, fails⟩ | ⟨-, fails⟩
    · exact .source (by simp [whole]) fails
    · exact .templates (TemplateSource.artifactsOf_eq_error.1 fails).unreadable

/-- Only the body of a handler or the template source can make a run fail. -/
theorem handlers_or_templates_of_firstFailure
    (first : g.FirstFailure visits failure) :
    (∃ entry ∈ g.project.modules.entries, ∃ c,
      g.controller? entry.1 = some c ∧ FirstFails c.handlerResult c.handlers failure) ∨
        g.templates.FirstFailure visits failure := by
  cases first with
  | controller modules rendered present fails =>
      exact .inl ⟨_, by simp [modules], _, present, fails⟩
  | model modules rendered controllerRenders fails =>
      obtain ⟨front, d, back, whole, -, failed⟩ := fails
      have chosen : d ∈ modelsOf _ := whole ▸ List.mem_append_right front List.mem_cons_self
      have isModel : d.entity.isModel = true := (List.mem_filter.1 chosen).2
      exact absurd failed ((g.model d).renders_artifact isModel failure)
  | application rendered fails => exact absurd fails (g.application.renders_artifact failure)
  | templates rendered fails => exact .inr fails

section Looks

variable {look : FileTree → Path → List Template.Visit}

/-- What is shown fails with the first failure, and changes nothing. -/
theorem run_previewOn_eq_error :
    FileTree.run (g.previewOn (FileTree.systemSeeing look)) tree = (tree, .error failure) ↔
      g.FirstFailure (look tree) failure := by
  rw [← artifactsWith_eq_error]
  cases done : g.artifactsWith (g.templates.artifactsOf g.tokens (look tree)) <;>
    simp [previewOn, run_artifactsOn, done, Except.map]

/-- A run that writes fails with the first failure before it writes anything. -/
theorem run_generateOn_of_firstFailure
    (first : g.FirstFailure (look tree) failure) :
    FileTree.run (g.generateOn (FileTree.systemSeeing look) base) tree = (tree, .error failure) := by
  simp [generateOn, run_artifactsOn, artifactsWith_eq_error.2 first]

end Looks

theorem preview_eq_error :
    g.preview tree = .error failure ↔ g.FirstFailure tree.visits failure := by
  rw [← artifacts_eq_error, preview_eq]
  cases done : g.artifacts tree <;> simp [Except.map]

theorem generate_eq_of_firstFailure
    (first : g.FirstFailure tree.visits failure) :
    g.generate base tree = (tree, .error failure) :=
  run_generateOn_of_firstFailure first

end AllOrNothing

end Generator

namespace GenerationRequest

section AllOrNothing

variable {request : GenerationRequest} {project overridden : Project} {tree : FileTree}
  {look : FileTree → Path → List Template.Visit} {failure : Failure}

/-- What a run is told to be doing when it fails. -/
def activity (request : GenerationRequest) : String :=
  if request.dryRun then "Failed to render code" else "Failed to generate code"

/-- A run whose package is refused fails before anything is rendered. -/
theorem run_runOn_of_packageFlaw
    {package : String}
    {flaw : Manifest.PackageFlaw}
    (chosen : request.package = some package)
    (refused : Manifest.packageFlaw? package = some flaw) :
    FileTree.run (request.runOn (FileTree.systemSeeing look) project) tree =
      (tree, .error (.invalidPackage package flaw)) := by
  have stopped : request.applyTo project = .error (.invalidPackage package flaw) := by
    simp [applyTo, chosen, refused, bind, Except.bind, throw, throwThe, MonadExceptOf.throw]
  simp [runOn, stopped]

/-- A run on a project with overrides fails with the first failure, told with what it was doing. -/
theorem run_runOn_of_firstFailure
    (applied : request.applyTo project = .ok overridden)
    (first : (Generator.ofProject overridden request.base).FirstFailure (look tree) failure) :
    FileTree.run (request.runOn (FileTree.systemSeeing look) project) tree =
      (tree, .error (.during request.activity failure)) := by
  cases shown : request.dryRun with
  | true =>
      have previewed := Generator.run_previewOn_eq_error.2 first
      simp [runOn, performOn, applied, activity, shown, previewed, previewReport]
  | false =>
      have generated : FileTree.run ((Generator.ofProject overridden request.base).generateOn
          (FileTree.systemSeeing look) request.outputDirectory) tree = (tree, .error failure) :=
        Generator.run_generateOn_of_firstFailure first
      simp [runOn, performOn, applied, activity, shown, generated, writtenReport]

end AllOrNothing

end GenerationRequest

namespace Generator

section AllOrNothing

/-- Generation is all or nothing.

Something fails exactly when there is a first failure in the order of rendering.  Then showing and
writing fail with it, and writing leaves the tree as it was.  The same holds of a whole run with
overrides, and of a run whose package is refused.  It holds in the tree itself and however its
directories look to the program, so that files and directories may be there that cannot be read. -/
theorem generation_is_all_or_nothing
    (g : Generator)
    (base : Path)
    (tree : FileTree) :
    (∀ look : FileTree → Path → List Template.Visit,
      (g.Fails (look tree) ↔ ∃ failure, g.FirstFailure (look tree) failure) ∧
        (∀ failure,
          FileTree.run (g.previewOn (FileTree.systemSeeing look)) tree = (tree, .error failure) ↔
            g.FirstFailure (look tree) failure) ∧
        (∀ failure, g.FirstFailure (look tree) failure →
          FileTree.run (g.generateOn (FileTree.systemSeeing look) base) tree =
            (tree, .error failure)) ∧
        (∀ (request : GenerationRequest) (project overridden : Project) (failure : Failure),
          request.applyTo project = .ok overridden →
            (ofProject overridden request.base).FirstFailure (look tree) failure →
              FileTree.run (request.runOn (FileTree.systemSeeing look) project) tree =
                (tree, .error (.during request.activity failure))) ∧
        ∀ (request : GenerationRequest) (project : Project) (package : String)
          (flaw : Manifest.PackageFlaw),
          request.package = some package → Manifest.packageFlaw? package = some flaw →
            FileTree.run (request.runOn (FileTree.systemSeeing look) project) tree =
              (tree, .error (.invalidPackage package flaw))) ∧
      (g.Fails tree.visits ↔ ∃ failure, g.FirstFailure tree.visits failure) ∧
      (∀ failure, g.preview tree = .error failure ↔ g.FirstFailure tree.visits failure) ∧
      (∀ failure, g.FirstFailure tree.visits failure →
        g.generate base tree = (tree, .error failure)) ∧
      (∀ (request : GenerationRequest) (project overridden : Project) (failure : Failure),
        request.applyTo project = .ok overridden →
          (ofProject overridden request.base).FirstFailure tree.visits failure →
            request.run project tree = (tree, .error (.during request.activity failure))) ∧
      ∀ (request : GenerationRequest) (project : Project) (package : String)
        (flaw : Manifest.PackageFlaw),
        request.package = some package → Manifest.packageFlaw? package = some flaw →
          request.run project tree = (tree, .error (.invalidPackage package flaw)) :=
  ⟨fun _ => ⟨fails_iff_exists_firstFailure, fun _ => run_previewOn_eq_error,
    fun _ => run_generateOn_of_firstFailure,
    fun _ _ _ _ => GenerationRequest.run_runOn_of_firstFailure,
    fun _ _ _ _ => GenerationRequest.run_runOn_of_packageFlaw⟩,
    fails_iff_exists_firstFailure, fun _ => preview_eq_error, fun _ => generate_eq_of_firstFailure,
    fun _ _ _ _ => GenerationRequest.run_runOn_of_firstFailure,
    fun _ _ _ _ => GenerationRequest.run_runOn_of_packageFlaw⟩

/-- Demo data that fails after a line, and a template file that cannot be read: the runs fail with them
and make no output directory. -/
theorem failing_demo_data_writes_nothing :
    let item : Manifest.Entity := { kind := .data }
    let get : Manifest.Entity :=
      { kind := .request, method := some "GET", path := some "/item", response := some "Item" }
    let shop : Module := { entities := (OrderedMap.empty.insert "Item" item).insert "GetItem" get }
    let project : Project := { modules := OrderedMap.empty.insert "shop" shop }
    let g : Generator := ⟨project, some (.fixed ["// draft"] (some "no data for")), .builtIn⟩
    let kit : Generator := ⟨{}, none, .directory ⟨"kit"⟩⟩
    let look : FileTree → Path → List Template.Visit :=
      fun _ _ => [.other [], .file [⟨"notes.txt", by decide⟩] none]
    (∃ failure,
      failure.causes = [.message "no data for shop.Item"] ∧
        g.FirstFailure FileTree.empty.visits failure ∧
        g.generate ⟨"out"⟩ .empty = (.empty, .error failure)) ∧
      kit.FirstFailure (look .empty) (.unreadableTemplate ⟨"kit/notes.txt"⟩) ∧
      FileTree.run (kit.generateOn (FileTree.systemSeeing look) ⟨"out"⟩) .empty =
        (.empty, .error (.unreadableTemplate ⟨"kit/notes.txt"⟩)) := by
  intro item get shop project g kit look
  have told : (g.preview .empty).toOption = none ∧
      ∀ failure ∈ (match g.preview .empty with | .error failure => some failure | .ok _ => none),
        failure.causes = [.message "no data for shop.Item"] := by decide +kernel
  refine ⟨?_, ?_⟩
  · obtain ⟨-, -, shown, written, -⟩ := generation_is_all_or_nothing g ⟨"out"⟩ .empty
    cases previewed : g.preview .empty with
    | error failure =>
        have first := (shown failure).1 previewed
        rw [previewed] at told
        exact ⟨failure, told.2 failure rfl, first, written failure first⟩
    | ok files =>
        rw [previewed] at told
        cases told.1
  · obtain ⟨-, shown, written, -⟩ := (generation_is_all_or_nothing kit ⟨"out"⟩ .empty).1 look
    have first : kit.FirstFailure (look .empty) (.unreadableTemplate ⟨"kit/notes.txt"⟩) :=
      (shown _).1 rfl
    exact ⟨first, written _ first⟩

end AllOrNothing

end Generator
end Scaffold
