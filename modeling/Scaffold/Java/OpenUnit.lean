import Scaffold.Java.CompilationUnit

/-!
# Compilation units with open imports

The body of a source file is written step by step.  A step writes code, or it mentions a qualified name,
for which the file may then need an import statement.  Steps stand inside of scopes and of attempts; what
is mentioned there stays mentioned, also when the attempt fails.  So the names that a file mentions are
known when its body has come to its end, and the lines above the declaration are written last.
-/

namespace Scaffold
namespace Java

open Code (Builder Indent Operation Outcome)

section OpenUnit

variable {ε : Type}

/-- A step of writing the body of a source file. -/
inductive BodyStep (ε : Type) where
  | code (operation : Operation ε Empty)
  | mention (name : String)
  | scope (header : String) (body : List (BodyStep ε))
  | attempt (label : String) (body : List (BodyStep ε))

/-- What steps work on: the code so far, and the names that were mentioned so far. -/
structure Desk where
  builder : Builder
  imports : Imports

/-- What steps leave, and how they ended. -/
structure Stepped (ε : Type) where
  desk : Desk
  outcome : Outcome ε Empty

namespace Desk

mutual

/-- Takes a step. -/
def take (desk : Desk) : BodyStep ε → Stepped ε
  | .code operation =>
      let written := desk.builder.run operation
      ⟨{ desk with builder := written.builder }, written.outcome⟩
  | .mention name => ⟨{ desk with imports := desk.imports.insert name }, .completed⟩
  | .scope header body =>
      let inner := takeAll { desk with builder := desk.builder.enter header } body
      ⟨{ inner.desk with builder := inner.desk.builder.leave inner.outcome.isCompleted },
        inner.outcome⟩
  | .attempt _ body =>
      let inner := takeAll desk body
      match inner.outcome with
      | .failed _ => ⟨inner.desk, .completed⟩
      | outcome => ⟨inner.desk, outcome⟩

/-- Takes steps one after the other, up to the first that does not complete. -/
def takeAll (desk : Desk) : List (BodyStep ε) → Stepped ε
  | [] => ⟨desk, .completed⟩
  | step :: rest =>
      let first := take desk step
      match first.outcome with
      | .completed => takeAll first.desk rest
      | outcome => ⟨first.desk, outcome⟩

end

end Desk

namespace BodyStep

mutual

/-- The operations of a step, without what it mentions. -/
def operations : BodyStep ε → List (Operation ε Empty)
  | .code operation => [operation]
  | .mention _ => []
  | .scope header body => [.scope header (operationsOf body)]
  | .attempt label body => [.attempt label (operationsOf body)]

/-- The operations of some steps, without what they mention. -/
def operationsOf : List (BodyStep ε) → List (Operation ε Empty)
  | [] => []
  | step :: rest => step.operations ++ operationsOf rest

end

end BodyStep

/-- A source file with one top-level declaration, whose body is written step by step. -/
structure OpenUnit (ε : Type) where
  package : String
  indent : Indent
  upFront : List String
  declaration : String
  body : List (BodyStep ε)

namespace OpenUnit

/-- The declaration with its body, taken at a desk where only the names from up front are known. -/
def declared (source : OpenUnit ε) : Stepped ε :=
  Desk.take ⟨.empty, .ofList source.upFront⟩ (.scope source.declaration source.body)

/-- The source file when all names that it mentions are known. -/
def unit (source : OpenUnit ε) : CompilationUnit ε where
  package := source.package
  indent := source.indent
  imports := source.declared.desk.imports
  declaration := source.declaration
  body := BodyStep.operationsOf source.body

/-- The text of a source file, or the failure of its body. -/
def render (source : OpenUnit ε) : Except ε String :=
  let declared := source.declared
  match declared.outcome with
  | .completed =>
      let above := Builder.empty.runAll source.unit.preamble
      .ok (above.builder.render source.indent ++ "\n" ++
        declared.desk.builder.render source.indent)
  | .failed reason => .error reason
  | .aborted reason => nomatch reason

end OpenUnit

end OpenUnit

end Java
end Scaffold
