import Scaffold.NameSet
import Scaffold.Text.Pieces

/-!
# Imports

The qualified names that a source file mentions.  A name needs an import statement unless its owner
is the package of the file or the package that every file sees.
-/

namespace Scaffold
namespace Java

open Text

/-- The qualified names that a source file mentions. -/
abbrev Imports := NameSet

namespace Imports

/-- A name in a package. -/
def qualified (package name : String) : String :=
  package ++ "." ++ name

/-- The package of a qualified name: the text before its last dot. -/
def owner (name : String) : String :=
  match cutAtLast? '.' name.toList with
  | some (package, _) => String.ofList package
  | none => ""

/-- The package that every file sees. -/
def visiblePackage : String := "java.lang"

/-- Whether a file of a package needs an import statement for a name. -/
def isNeeded
    (package name : String) : Bool :=
  owner name != package && owner name != visiblePackage

/-- The names for which a file of a package needs import statements, in ascending order. -/
def neededFrom
    (imports : Imports)
    (package : String) : List String :=
  imports.names.filter (isNeeded package)

end Imports

end Java
end Scaffold
