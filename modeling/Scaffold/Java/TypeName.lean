import Scaffold.Java.Imports
import Scaffold.Manifest.FieldType
import Scaffold.Naming

/-!
# Java types of fields

Basic types become primitives where the language allows them and their boxed classes inside a list;
a reference becomes the class of the entity it names.
-/

namespace Scaffold
namespace Java

open Manifest (FieldType)

namespace TypeName

/-- The class of lists. -/
def listClass : String := "java.util.List"

/-- The type of a field, or its boxed form when it stands in a generic position. -/
def ofFieldIn (boxed : Bool) : FieldType → String
  | .string => "String"
  | .int => if boxed then "Integer" else "int"
  | .long => if boxed then "Long" else "long"
  | .double => if boxed then "Double" else "double"
  | .float => if boxed then "Float" else "float"
  | .boolean => if boxed then "Boolean" else "boolean"
  | .list item => "List<" ++ ofFieldIn true item ++ ">"
  | .ref reference => Naming.className reference

/-- The type of a field. -/
def ofField (type : FieldType) : String :=
  ofFieldIn false type

/-- The type of a field in a generic position. -/
def boxedOfField (type : FieldType) : String :=
  ofFieldIn true type

/-- The qualified names that the type of a field mentions. -/
def mentions (modelPackage : String) : FieldType → List String
  | .list item => listClass :: mentions modelPackage item
  | .ref reference => [Imports.qualified modelPackage (Naming.className reference)]
  | _ => []

/-- The imports with those of the type of a field. -/
def addImports
    (modelPackage : String)
    (type : FieldType)
    (imports : Imports) : Imports :=
  imports.insertAll (mentions modelPackage type)

end TypeName

end Java
end Scaffold
