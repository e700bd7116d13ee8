import Scaffold.Report

/-!
# Generating a project

A generation run applies the overrides of the caller to a project and runs the generator, for
writing or for showing what would be written.
-/

namespace Scaffold

open Manifest (Project)

/-- What the caller of a run decides. -/
structure GenerationRequest where
  configPath : Path
  outputDirectory : Path
  dryRun : Bool
  demoData : Bool
  package : Option String

/-- What a run did. -/
inductive GenerationResult where
  | written (directory : Path) (files : Written)
  | preview (files : List (Path × String))

/-- What is told about a run. -/
structure GenerationReport where
  project : Project
  result : GenerationResult

namespace GenerationRequest

/-- The project with the overrides of the caller, unless the package is none. -/
def applyTo
    (request : GenerationRequest)
    (project : Project) : Except Failure Project := do
  let settings ←
    match request.package with
    | none => pure project.settings
    | some package =>
        match Manifest.packageFlaw? package with
        | some flaw => throw (.invalidPackage package flaw)
        | none => pure { project.settings with declaredPackage := some package }
  let options := { project.options with demoData := project.options.demoData || request.demoData }
  return { project with settings := settings, options := options }

/-- The directory from which relative template directories are seen. -/
def base (request : GenerationRequest) : Path :=
  request.configPath.parent?.getD .empty

/-- The report on files that would be written. -/
def previewReport (project : Project) :
    Except Failure (List (Path × String)) → Except Failure GenerationReport
  | .ok files => .ok ⟨project, .preview files⟩
  | .error failure => .error (.during "Failed to render code" failure)

/-- The report on files that were written. -/
def writtenReport
    (request : GenerationRequest)
    (project : Project) : Except Failure Written → Except Failure GenerationReport
  | .ok files => .ok ⟨project, .written request.outputDirectory files⟩
  | .error failure => .error (.during "Failed to generate code" failure)

section Running

variable {m : Type → Type} [Monad m]

/-- Runs the generator on the project with overrides. -/
def performOn
    (system : FileSystem m)
    (request : GenerationRequest)
    (project : Project) : m (Except Failure GenerationReport) := do
  let generator := Generator.ofProject project request.base
  if request.dryRun then return previewReport project (← generator.previewOn system)
  else return request.writtenReport project (← generator.generateOn system request.outputDirectory)

/-- Applies the overrides and runs the generator. -/
def runOn
    (system : FileSystem m)
    (request : GenerationRequest)
    (project : Project) : m (Except Failure GenerationReport) :=
  match request.applyTo project with
  | .error failure => return .error failure
  | .ok project => request.performOn system project

end Running

/-- Applies the overrides and runs the generator in a tree. -/
def run
    (request : GenerationRequest)
    (project : Project)
    (tree : FileTree) : FileTree × Except Failure GenerationReport :=
  FileTree.run (request.runOn FileTree.system project) tree

/-- A run whose overrides are refused touches nothing. -/
theorem run_of_refused
    {request : GenerationRequest}
    {project : Project}
    {failure : Failure}
    (refused : request.applyTo project = .error failure)
    (tree : FileTree) :
    request.run project tree = (tree, .error failure) := by
  simp [run, runOn, refused]

/-- What becomes of a tree and a project with overrides. -/
theorem run_of_applied
    {request : GenerationRequest}
    {project overridden : Project}
    (applied : request.applyTo project = .ok overridden)
    (tree : FileTree) :
    request.run project tree =
      if request.dryRun then
        (tree, previewReport overridden ((Generator.ofProject overridden request.base).preview tree))
      else
        match (Generator.ofProject overridden request.base).generate request.outputDirectory tree with
        | (tree, result) => (tree, request.writtenReport overridden result) := by
  cases dry : request.dryRun with
  | true =>
      simp [run, runOn, applied, performOn, dry, Generator.preview, Generator.previewOn,
        Generator.run_artifactsOn]
  | false => simp [run, runOn, applied, performOn, dry, Generator.generate]

end GenerationRequest

namespace GenerationReport

/-- The base package that was used. -/
def package (r : GenerationReport) : String :=
  r.project.settings.package

/-- The parts of the report on files that were written. -/
def writtenParts
    (r : GenerationReport)
    (directory : Path)
    (files : Written) : List ReportPart :=
  [.text (Report.titleLine r.project), .field "Package" r.package, .blank] ++
    Report.moduleParts (Report.moduleCounts r.project) ++
    [.blank, .field "Generated" directory.text] ++
    files.written.map (fun path => .created path.text) ++
    (if files.kept.isEmpty then []
    else .blank :: .heading "Kept existing" :: files.kept.map fun path => .item path.text)

/-- The parts of the report on files that would be written. -/
def previewParts (files : List (Path × String)) : List ReportPart :=
  files.flatMap (fun (path, content) => [.divider path.text, .text content]) ++
    [.divider "Summary", .text (Text.decimal files.length ++ " files would be generated")]

/-- The parts of the report. -/
def parts (r : GenerationReport) : List ReportPart :=
  match r.result with
  | .written directory files => r.writtenParts directory files
  | .preview files => previewParts files

end GenerationReport

end Scaffold
