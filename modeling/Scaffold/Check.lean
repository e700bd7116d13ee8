import Scaffold.Report

/-!
# Checking a project

The check classifies every entity and tells what will be generated.  Requests that look intended and
become no handler are warnings; abstract requests and modules without a controller are mentioned.
-/

namespace Scaffold

open Manifest (Project SkipReason)

/-- What a check finds. -/
structure CheckReport where
  configPath : Path
  project : Project
  warnings : List String
  infos : List String

namespace CheckReport

/-- What is told about an entity that becomes no handler, if anything: a warning or a remark. -/
def remark?
    (module : String)
    (skipped : String × SkipReason) : Option (Bool × String) :=
  if skipped.2 = .notARequest then none
  else some (skipped.2.isMalformed, module ++ "." ++ skipped.1 ++ ": " ++ skipped.2.message)

/-- What is told about a module: warnings are marked by `true`. -/
def moduleRemarks
    (project : Project)
    (module : String) : List (Bool × String) :=
  (project.skipped module).filterMap (remark? module) ++
    (if (project.handlers module).isEmpty then
      [(false, "module '" ++ module ++
        "' has no eligible requests, no controller will be generated")]
    else [])

/-- Checks a project. -/
def ofProject
    (project : Project)
    (configPath : Path) : CheckReport :=
  let remarks := project.modules.keys.flatMap (moduleRemarks project)
  ⟨configPath, project, (remarks.filter (·.1)).map Prod.snd,
    (remarks.filter (!·.1)).map Prod.snd⟩

/-- The parts of the report. -/
def parts (r : CheckReport) : List ReportPart :=
  r.warnings.map .warning ++
    r.infos.map (fun info => .text ("info: " ++ info)) ++
    (if r.warnings.isEmpty && r.infos.isEmpty then [] else [.blank]) ++
    .text (Report.titleLine r.project) ::
    Report.moduleParts (Report.moduleCounts r.project) ++
    [.blank, .text ("✓ " ++ r.configPath.text ++ " is valid")]

end CheckReport

end Scaffold
