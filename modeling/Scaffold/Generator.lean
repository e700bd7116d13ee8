import Scaffold.Java.Application
import Scaffold.Java.Controller
import Scaffold.Java.Mock
import Scaffold.Template

/-!
# The generator

A generator turns a project into artifacts: for each module its controller and its model classes,
then the application class, then the template files.  Everything is rendered before anything is
written, so a run that fails leaves the file tree alone.
-/

namespace Scaffold

open Code (Indent)
open Java (Application Controller DemoData Model)
open Manifest (Declaration Options Project)

/-- How a project is turned into artifacts. -/
structure Generator where
  project : Project
  demoData : Option DemoData
  templates : TemplateSource

/-- What a run put on disk, and what it left alone. -/
structure Written where
  written : List Path
  kept : List Path

namespace Written

/-- Nothing put on disk. -/
def none : Written := ⟨[], []⟩

/-- What was put on disk with one more artifact in front. -/
def add
    (w : Written)
    (path : Path) : WriteResult → Written
  | .written => { w with written := path :: w.written }
  | .skipped => { w with kept := path :: w.kept }

end Written

namespace Generator

/-- The generator that the options of a project ask for, with templates seen from `base`. -/
def ofProject
    (project : Project)
    (base : Path) : Generator where
  project := project
  demoData := if project.options.demoData then some Java.Mock.demoData else none
  templates := .ofProject project base

/-- The indentation of generated sources. -/
def indentOf (options : Options) : Indent :=
  if options.useTabs then .tab else .spaces options.indent

/-- The controller of a module, unless it would have no handlers. -/
def controller?
    (g : Generator)
    (module : String) : Option Controller :=
  match g.project.handlers module with
  | [] => none
  | handlers => some ⟨g.project, module, handlers, g.demoData, indentOf g.project.options⟩

/-- The model class of an entity. -/
def model
    (g : Generator)
    (d : Declaration) : Model :=
  ⟨g.project.settings.package, d.name, d.entity, indentOf g.project.options⟩

/-- The sources of a module. -/
def moduleArtifacts
    (g : Generator)
    (entry : String × Manifest.Module) : List Artifact :=
  ((g.controller? entry.1).map Controller.artifact).toList ++
    ((Project.declarationsOf entry).filter fun d => d.entity.isModel).map
      fun d => (g.model d).artifact

/-- The application class. -/
def application (g : Generator) : Application :=
  ⟨g.project.settings.name, g.project.settings.package, indentOf g.project.options⟩

/-- The sources of a project. -/
def sources (g : Generator) : List Artifact :=
  g.project.modules.entries.flatMap g.moduleArtifacts ++ [g.application.artifact]

/-- The values that placeholders in template files give way to. -/
def tokens (g : Generator) : Tokens :=
  .ofProject g.project

/-- The sources of a project, ready to be written, and its template files, or the first failure. -/
def artifactsWith
    (g : Generator)
    (templates : Except Failure (List Artifact)) : Except Failure (List Artifact) := do
  let sources ← g.sources.mapM Artifact.prerender
  return sources ++ (← templates)

/-- All artifacts of a project in a tree, ready to be written, or the first failure. -/
def artifacts
    (g : Generator)
    (tree : FileTree) : Except Failure (List Artifact) :=
  g.artifactsWith (g.templates.artifacts tree g.tokens)

/-- What a reader sees of an artifact: its path and its content. -/
def shown (a : Artifact) : Path × String :=
  (a.path, match a.content with
    | .ok content => content.shown
    | .error _ => "")

section Running

variable {m : Type → Type} [Monad m]

/-- All artifacts of a project, ready to be written, or the first failure. -/
def artifactsOn
    (system : FileSystem m)
    (g : Generator) : m (Except Failure (List Artifact)) :=
  return g.artifactsWith (← g.templates.artifactsOn system g.tokens)

/-- The files that would be written, or the first failure. -/
def previewOn
    (system : FileSystem m)
    (g : Generator) : m (Except Failure (List (Path × String))) :=
  return (← g.artifactsOn system).map (List.map shown)

/-- Puts artifacts on disk one after the other, up to the first that the system refuses. -/
def writeAllOn
    (system : FileSystem m)
    (base : Path) : List Artifact → m (Except Failure Written)
  | [] => return .ok .none
  | a :: rest => do
      match ← a.writeOn system base with
      | .error failure => return .error failure
      | .ok result =>
          return (← writeAllOn system base rest).map fun later => later.add a.path result

/-- Puts everything on disk below a directory. -/
def generateOn
    (system : FileSystem m)
    (g : Generator)
    (base : Path) : m (Except Failure Written) := do
  match ← g.artifactsOn system with
  | .error failure => return .error failure
  | .ok artifacts => writeAllOn system base artifacts

end Running

/-- The files that would be written in a tree, or the first failure. -/
def preview
    (g : Generator)
    (tree : FileTree) : Except Failure (List (Path × String)) :=
  (FileTree.run (g.previewOn FileTree.system) tree).2

/-- Puts artifacts on disk in a tree. -/
def writeAll
    (base : Path)
    (artifacts : List Artifact)
    (tree : FileTree) : FileTree × Except Failure Written :=
  FileTree.run (writeAllOn FileTree.system base artifacts) tree

/-- Puts everything on disk in a tree. -/
def generate
    (g : Generator)
    (base : Path)
    (tree : FileTree) : FileTree × Except Failure Written :=
  FileTree.run (g.generateOn FileTree.system base) tree

section Trees

variable (g : Generator) (base : Path) (tree : FileTree)

theorem run_artifactsOn (look : FileTree → Path → List Template.Visit) :
    FileTree.run (g.artifactsOn (FileTree.systemSeeing look)) tree =
      (tree, g.artifactsWith (g.templates.artifactsOf g.tokens (look tree))) := by
  simp [artifactsOn, TemplateSource.run_artifactsOn]

theorem preview_eq :
    g.preview tree = (g.artifacts tree).map (List.map shown) := by
  simp [preview, previewOn, run_artifactsOn, artifacts, TemplateSource.artifacts]

@[simp] theorem writeAll_nil :
    writeAll base [] tree = (tree, .ok .none) :=
  rfl

/-- What becomes of a tree and artifacts. -/
theorem writeAll_cons
    (a : Artifact)
    (rest : List Artifact) :
    writeAll base (a :: rest) tree =
      match a.write tree base with
      | (tree, .error failure) => (tree, .error failure)
      | (tree, .ok result) =>
          match writeAll base rest tree with
          | (tree, .error failure) => (tree, .error failure)
          | (tree, .ok later) => (tree, .ok (later.add a.path result)) := by
  have head : FileTree.run (a.writeOn FileTree.system base) tree = a.write tree base := rfl
  change FileTree.run (writeAllOn FileTree.system base (a :: rest)) tree = _
  rcases wrote : a.write tree base with ⟨next, failure | result⟩
  · simp [writeAllOn, head, wrote]
  · have tail : FileTree.run (writeAllOn FileTree.system base rest) next =
        writeAll base rest next := rfl
    rcases later : writeAll base rest next with ⟨last, failure | others⟩ <;>
      simp [writeAllOn, head, wrote, tail, later, Except.map]

/-- A run writes nothing before all artifacts are there. -/
theorem generate_eq :
    g.generate base tree =
      match g.artifacts tree with
      | .error failure => (tree, .error failure)
      | .ok artifacts => writeAll base artifacts tree := by
  have made : g.artifactsWith (g.templates.artifactsOf g.tokens tree.visits) = g.artifacts tree :=
    rfl
  cases done : g.artifacts tree <;> simp [generate, generateOn, run_artifactsOn, made, done, writeAll]

end Trees

end Generator

end Scaffold
