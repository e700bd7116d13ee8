import Scaffold.Java.CompilationUnit
import Scaffold.Naming

/-!
# The application class

The class with the `main` method that starts the service.
-/

namespace Scaffold
namespace Java

open Code (Indent Operation)

/-- The application class of a project. -/
structure Application where
  projectName : String
  package : String
  indent : Indent := .standard

namespace Application

/-- The name of the class. -/
def className (a : Application) : String :=
  Naming.pascal a.projectName ++ "Application"

/-- The source file of the class. -/
def unit (a : Application) : CompilationUnit Failure where
  package := a.package
  indent := a.indent
  imports := .ofList
    ["org.springframework.boot.SpringApplication",
     "org.springframework.boot.autoconfigure.SpringBootApplication"]
  declaration := "@SpringBootApplication\npublic class " ++ a.className
  body :=
    [.scope "public static void main(String[] args)"
      [.line ("SpringApplication.run(" ++ a.className ++ ".class, args);")]]

/-- The artifact with the class. -/
def artifact (a : Application) : Artifact :=
  classArtifact a.className a.unit

end Application

end Java
end Scaffold
