import Scaffold.Generator

/-!
# Reports

What the commands tell: a report is a list of parts, and a terminal shows each part in its own way.
Warnings are told apart from everything else.
-/

namespace Scaffold

open Manifest (Project)
open Text

/-- A part of a report. -/
inductive ReportPart where
  | heading (name : String)
  | field (label value : String)
  | item (name : String)
  | created (name : String)
  | warning (message : String)
  | divider (label : String)
  | text (content : String)
  | blank
  deriving DecidableEq

namespace ReportPart

/-- The line on the standard output, unless the part is a warning. -/
def shown? : ReportPart → Option String
  | heading name => some (name ++ ":")
  | field label value => some (label ++ ": " ++ value)
  | item name => some ("  - " ++ name)
  | created name => some ("  + " ++ name)
  | warning _ => none
  | divider label => some ("── " ++ label ++ " ──")
  | text content => some content
  | blank => some ""

/-- The line on the error output, if the part is a warning. -/
def warned? : ReportPart → Option String
  | warning message => some ("warning: " ++ message)
  | _ => none

end ReportPart

namespace Report

/-- The number of handlers of each module, in order. -/
def moduleCounts (project : Project) : List (String × Nat) :=
  project.modules.keys.map fun module => (module, (project.handlers module).length)

/-- The line about a module. -/
def moduleLine (count : String × Nat) : String :=
  match count.2 with
  | 0 => count.1 ++ " (no controller)"
  | 1 => count.1 ++ " (1 request)"
  | n => count.1 ++ " (" ++ decimal n ++ " requests)"

/-- The heading and the lines about the modules. -/
def moduleParts (counts : List (String × Nat)) : List ReportPart :=
  .heading ("Modules (" ++ decimal counts.length ++ ")") ::
    counts.map fun count => .item (moduleLine count)

/-- The line that names a project. -/
def titleLine (project : Project) : String :=
  project.settings.name ++ " v" ++ project.settings.version.render

end Report

end Scaffold
