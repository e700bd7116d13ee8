import Scaffold.Code.Fragment
import Scaffold.Java.CompilationUnit
import Scaffold.Java.TypeName
import Scaffold.Manifest.Entity

/-!
# Model classes

A data entity becomes a class with private fields, getters and setters, and an enumeration becomes
an enum.  A request is no model.
-/

namespace Scaffold
namespace Java

open Code (Fragment Indent Operation)
open Manifest (Entity FieldType)

/-- A field of a model class. -/
structure ModelField where
  name : String
  accessor : String
  type : String
  isBoolean : Bool
  deriving DecidableEq

namespace ModelField

/-- The field of a class that a field of an entity becomes. -/
def ofEntry (entry : String × FieldType) : ModelField :=
  ⟨Naming.camel entry.1, Naming.pascal entry.1, TypeName.ofField entry.2, entry.2 = .boolean⟩

/-- The declaration of a field. -/
def declaration (f : ModelField) : String :=
  "private " ++ f.type ++ " " ++ f.name ++ ";"

/-- The header of the getter of a field. -/
def getterHeader (f : ModelField) : String :=
  "public " ++ f.type ++ " " ++ (if f.isBoolean then "is" else "get") ++ f.accessor ++ "()"

/-- The header of the setter of a field. -/
def setterHeader (f : ModelField) : String :=
  "public void set" ++ f.accessor ++ "(" ++ f.type ++ " " ++ f.name ++ ")"

/-- The getter and the setter of a field, each below a blank line. -/
def accessors (f : ModelField) : List Fragment :=
  [.blank,
   .scope f.getterHeader [.line ("return " ++ f.name ++ ";")],
   .blank,
   .scope f.setterHeader [.line ("this." ++ f.name ++ " = " ++ f.name ++ ";")]]

end ModelField

/-- The model class of an entity. -/
structure Model where
  basePackage : String
  name : String
  entity : Entity
  indent : Indent := .standard

namespace Model

/-- The package of model classes below a base package. -/
def packageOf (basePackage : String) : String :=
  basePackage ++ ".model"

/-- The name of the class. -/
def className (m : Model) : String :=
  Naming.className m.name

/-- The declaration of the class, below its description. -/
def declaration
    (m : Model)
    (kind : String) : String :=
  let head := "public " ++ kind ++ " " ++ m.className
  match m.entity.description with
  | some description => "/** " ++ description ++ " */\n" ++ head
  | none => head

/-- The fields of the class. -/
def fields (m : Model) : List ModelField :=
  m.entity.fields.entries.map ModelField.ofEntry

/-- The imports that the types of the fields ask for. -/
def imports (m : Model) : Imports :=
  m.entity.fields.values.foldl
    (fun imports type => TypeName.addImports (packageOf m.basePackage) type imports) .empty

/-- The source file of a class with fields. -/
def classUnit (m : Model) : CompilationUnit Failure where
  package := packageOf m.basePackage
  indent := m.indent
  imports := m.imports
  declaration := m.declaration "class"
  body :=
    Operation.each (m.fields.map ModelField.declaration) ++
      m.fields.flatMap fun field => Fragment.operationsOf field.accessors

/-- The constants of an enum, with commas in between. -/
def constants : List String → List String
  | [] => []
  | [last] => [last]
  | value :: rest => (value ++ ",") :: constants rest

/-- The source file of an enum. -/
def enumUnit (m : Model) : CompilationUnit Failure where
  package := packageOf m.basePackage
  indent := m.indent
  imports := .empty
  declaration := m.declaration "enum"
  body := Operation.each (constants m.entity.values)

/-- The artifact with the model class of an entity. -/
def artifact (m : Model) : Artifact :=
  match m.entity.kind with
  | .data => classArtifact m.className m.classUnit
  | .enumeration => classArtifact m.className m.enumUnit
  | .request =>
      { path := classPath (packageOf m.basePackage) m.className
        content := .error (.requestAsModel m.name)
        rules := .generated generatedHeader }

end Model

end Java
end Scaffold
