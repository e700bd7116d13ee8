import Scaffold.Manifest.Identifier
import Scaffold.Manifest.Project

/-!
# Validation

The rules that a manifest has to keep before anything is generated from it, as the list of all
violations in the order in which they are looked for: the project name, its package and its
indentation, then module by module and entity by entity the names, the path variables and the model
classes.  A project is accepted when the list is empty; otherwise its head is reported.
-/

namespace Scaffold
namespace Manifest

open Text

/-- The use that a name is put to, and the declarations around it. -/
structure NameUse where
  kind : String
  around : List String
  name : String
  inBraces : Bool := false
  deriving DecidableEq

namespace NameUse

/-- The full name of the declarations around a name. -/
def place (around : List String) : String :=
  String.intercalate "." around

/-- The description of a use. -/
def describe
    (kind : String)
    (around : List String) : String :=
  if around = [] then kind else kind ++ " in '" ++ place around ++ "'"

end NameUse

/-- A rule that a manifest breaks. -/
inductive Violation where
  | missingName
  | badPackage (package : String) (flaw : PackageFlaw)
  | badIndent (width : UInt8)
  | badName (use : NameUse) (flaw : NameFlaw)
  | reservedName (use : NameUse) (spelling : String)
  | repeatedVariable (use : NameUse)
  | duplicateModel (className firstModule firstName secondModule secondName : String)
  deriving DecidableEq

namespace Violation

/-- The violation of a name that becomes the identifier `spelling`. -/
def ofName
    (use : NameUse)
    (spelling : String) : Option Violation :=
  match nameFlaw? use.name with
  | some flaw => some (.badName use flaw)
  | none => if isKeyword spelling then some (.reservedName use spelling) else none

end Violation

/-- The widths of an indentation step that a project may choose. -/
def isIndentWidth (width : UInt8) : Bool :=
  1 ≤ width && width ≤ 8

/-- The violations of the settings and options of a project. -/
def settingsViolations (project : Project) : List Violation :=
  (if trimList project.settings.name.toList = [] then [.missingName] else []) ++
    ((packageFlaw? project.settings.package).map
      (.badPackage project.settings.package ·)).toList ++
    (if isIndentWidth project.options.indent then [] else [.badIndent project.options.indent])

/-- The violations of the path variables of a request, given the names taken by earlier ones. -/
def variableViolations
    (around : List String)
    (taken : List String) : List String → List Violation
  | [] => []
  | name :: rest =>
      let use : NameUse := ⟨"path variable", around, name, true⟩
      let spelling := Naming.camel name
      (Violation.ofName use spelling).toList ++
        (if taken.contains spelling then [.repeatedVariable use] else []) ++
        variableViolations around (spelling :: taken) rest

/-- The violations of the names inside an entity, its own name first. -/
def entityViolations (d : Declaration) : List Violation :=
  let around := [d.module, d.name]
  (Violation.ofName ⟨"entity", [d.module], d.name, false⟩ (Naming.camel d.name)).toList ++
    d.entity.fields.keys.filterMap (fun field =>
      Violation.ofName ⟨"field", around, field, false⟩ (Naming.camel field)) ++
    (if d.entity.kind = .enumeration then
      d.entity.values.filterMap fun value =>
        Violation.ofName ⟨"enum value", around, value, false⟩ value
    else []) ++
    (if d.entity.kind = .request then variableViolations around [] d.entity.pathVariables else [])

/-- The violation of an entity whose model class an earlier entity declares. -/
def modelViolation?
    (earlier : List Declaration)
    (d : Declaration) : Option Violation :=
  if d.entity.isModel then
    (earlier.find? fun e => e.entity.isModel && Naming.pascal e.name == Naming.pascal d.name).map
      fun e => .duplicateModel (Naming.pascal d.name) e.module e.name d.module d.name
  else none

/-- The violations of the entities of a module, given the entities before them. -/
def declarationViolations
    (earlier : List Declaration) : List Declaration → List Violation
  | [] => []
  | d :: rest =>
      entityViolations d ++ (modelViolation? earlier d).toList ++
        declarationViolations (earlier ++ [d]) rest

/-- The violations of some modules, given the entities of the modules before them. -/
def moduleViolations
    (earlier : List Declaration) : List (String × Module) → List Violation
  | [] => []
  | entry :: rest =>
      (Violation.ofName ⟨"module", [], entry.1, false⟩ entry.1).toList ++
        declarationViolations earlier (Project.declarationsOf entry) ++
        moduleViolations (earlier ++ Project.declarationsOf entry) rest

namespace Project

/-- The violations of a project in the order in which they are looked for. -/
def violations (project : Project) : List Violation :=
  settingsViolations project ++ moduleViolations [] project.modules.entries

/-- The violation that is reported. -/
def violation? (project : Project) : Option Violation :=
  project.violations.head?

end Project

end Manifest
end Scaffold
