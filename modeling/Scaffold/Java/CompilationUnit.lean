import Scaffold.Artifact
import Scaffold.Code.Builder
import Scaffold.Java.Imports

/-!
# Compilation units

The layout of a source file with one top-level declaration: the package line, the import statements
that the file needs, and the declaration with its body in braces.  Whatever the body mentions can
still get its import statement, since the body is known before the file is laid out.
-/

namespace Scaffold
namespace Java

open Code (Builder Indent Operation Outcome)

section CompilationUnit

variable {ε : Type}

/-- A source file with one top-level declaration, whose body may fail. -/
structure CompilationUnit (ε : Type) where
  package : String
  indent : Indent
  imports : Imports
  declaration : String
  body : List (Operation ε Empty)

namespace CompilationUnit

/-- The lines above the declaration. -/
def preamble (unit : CompilationUnit ε) : List (Operation ε Empty) :=
  let needed := unit.imports.neededFrom unit.package
  [.line ("package " ++ unit.package ++ ";"), .blank] ++
    Operation.when (!needed.isEmpty)
      (Operation.each (needed.map fun name => "import " ++ name ++ ";") ++ [.blank])

/-- The text of a source file, or the failure of its body. -/
def render (unit : CompilationUnit ε) : Except ε String :=
  let declaration := Builder.empty.run (.scope unit.declaration unit.body)
  let above := Builder.empty.runAll unit.preamble
  match declaration.outcome with
  | .completed =>
      .ok (above.builder.render unit.indent ++ "\n" ++ declaration.builder.render unit.indent)
  | .failed reason => .error reason
  | .aborted reason => nomatch reason

end CompilationUnit

end CompilationUnit

/-- The first line of every generated source file. -/
def generatedHeader : String := "// Code generated by javelin. DO NOT EDIT."

/-- The directory below which source files stand. -/
def sourceRoot : Path := ⟨"src/main/java"⟩

/-- Where the file of a class stands. -/
def classPath (package className : String) : Path :=
  (sourceRoot.join (Path.ofDotted package)).join ⟨className ++ ".java"⟩

/-- The artifact with the source file of a class. -/
def classArtifact
    (className : String)
    (unit : CompilationUnit Failure) : Artifact where
  path := classPath unit.package className
  content := unit.render.map Content.text
  rules := .generated generatedHeader

end Java
end Scaffold
