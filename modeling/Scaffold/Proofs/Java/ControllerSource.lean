import Scaffold.Proofs.Java.ModelSource

/-!
# What the file of a controller holds

A source file that is rendered is laid out from a tree: the lines above its declaration, and the
declaration with what the body emitted.  The blocks that stand directly in a class are its methods.  In
the class of a controller these are its handlers, one block for each, in their order; whatever a handler
emits besides is above its block or inside it.
-/

namespace Scaffold

open Code (Emission LineBuffer Operation)
open Manifest (Handler)

namespace Code

section Blocks

variable {ε : Type}

/-- The header of an emission that is a block. -/
def Emission.header? : Emission ε Empty → Option String
  | .text _ => none
  | .scope header _ _ => some header

/-- The headers of the blocks among emissions, in order; blocks inside of them do not count. -/
def Emission.headers (code : List (Emission ε Empty)) : List String :=
  code.filterMap header?

namespace Emission

@[simp] theorem headers_nil : headers ([] : List (Emission ε Empty)) = [] := rfl

@[simp] theorem headers_text
    (content : String)
    (rest : List (Emission ε Empty)) :
    headers (.text content :: rest) = headers rest :=
  rfl

@[simp] theorem headers_scope
    (header : String)
    (body : List (Emission ε Empty))
    (ended : Outcome ε Empty)
    (rest : List (Emission ε Empty)) :
    headers (.scope header body ended :: rest) = header :: headers rest :=
  rfl

@[simp] theorem headers_append (first later : List (Emission ε Empty)) :
    headers (first ++ later) = headers first ++ headers later :=
  List.filterMap_append

end Emission

end Blocks

end Code

namespace Java

section Sources

variable {ε : Type}

/-- A text is laid out as the source file says, with some code as the body of its declaration. -/
def CompilationUnit.Holds
    (unit : CompilationUnit ε)
    (text : String)
    (code : List (Emission ε Empty)) : Prop :=
  text =
    (LineBuffer.mk (Emission.linesOf 0 (Operation.emittedOf unit.preamble))).render unit.indent ++
      "\n" ++
        (LineBuffer.mk (Emission.linesOf 0 [.scope unit.declaration code .completed])).render
          unit.indent

/-- A source file that is rendered holds what its body emitted, and its body came to its end. -/
theorem CompilationUnit.holds_of_render
    {unit : CompilationUnit ε}
    {text : String}
    (rendered : unit.render = .ok text) :
    unit.Holds text (Operation.emittedOf unit.body) ∧ Operation.outcomeOf unit.body = .completed := by
  have ended : Operation.outcomeOf unit.body = .completed := by
    cases ended : Operation.outcomeOf unit.body with
    | completed => rfl
    | failed reason => simp [render, Operation.outcome, ended] at rendered
    | aborted reason => cases reason
  have above := Code.Builder.runAll_lines Code.Builder.empty unit.preamble
  have below := Code.Builder.run_lines Code.Builder.empty
    (.scope unit.declaration unit.body : Operation ε Empty)
  simp only [render, Code.Builder.run_outcome, Operation.outcome, ended, Except.ok.injEq] at rendered
  rw [Operation.emitted, ended] at below
  refine ⟨?_, ended⟩
  rw [Holds, ← rendered]
  simp only [Code.Builder.render, LineBuffer.render, above, below]
  simp [Code.Builder.empty, LineBuffer.empty]

namespace Controller

/-- A text is the file of the controller, and the methods of its class have these headers, in order. -/
def Declares
    (c : Controller)
    (text : String)
    (headers : List String) : Prop :=
  ∃ body code,
    text = generatedHeader ++ "\n" ++ body ∧ c.unit.Holds body code ∧ Emission.headers code = headers

variable (c : Controller)

/-- What a handler emits has one block, with the header of the handler. -/
theorem headers_handlerOperations (h : Handler) :
    Emission.headers (Operation.emittedOf (c.handlerOperations h)) = [header h] := by
  have framed : Emission.headers (Operation.emittedOf
      [.line (mappingLine h), .scope (header h) (c.handlerBody h)]) = [header h] := by
    cases ended : Operation.outcomeOf (c.handlerBody h) <;>
      simp [Operation.emittedOf, Operation.outcome, Operation.emitted, ended]
  cases described : h.request.entity.description with
  | none => simpa [handlerOperations, described] using framed
  | some text =>
      rw [← framed]
      simp [handlerOperations, described, Operation.emittedOf, Operation.outcome, Operation.emitted,
        Operation.javadoc]

/-- What the handlers emit has one block for each of them, in their order. -/
theorem headers_body
    {handlers : List Handler}
    (ended : Operation.outcomeOf (c.body handlers) = .completed) :
    Emission.headers (Operation.emittedOf (c.body handlers)) = handlers.map header := by
  induction handlers with
  | nil => rfl
  | cons h rest ih =>
      cases rest with
      | nil => exact c.headers_handlerOperations h
      | cons next rest =>
          have shape : c.body (h :: next :: rest) =
              c.handlerOperations h ++ (.blank :: c.body (next :: rest)) := rfl
          rw [shape] at ended ⊢
          have first : Operation.outcomeOf (c.handlerOperations h) = .completed := by
            rw [Operation.outcomeOf_append] at ended
            cases front : Operation.outcomeOf (c.handlerOperations h) with
            | completed => rfl
            | failed reason => simp [front] at ended
            | aborted reason => cases reason
          have later : Operation.outcomeOf (c.body (next :: rest)) = .completed := by
            simpa [Operation.outcomeOf_append, first, Operation.outcomeOf, Operation.outcome,
              Operation.blank] using ended
          have apart : Emission.headers (Operation.emittedOf (.blank :: c.body (next :: rest))) =
              Emission.headers (Operation.emittedOf (c.body (next :: rest))) := by
            simp [Operation.emittedOf, Operation.outcome, Operation.emitted, Operation.blank]
          rw [Operation.emittedOf_append first, Emission.headers_append, apart, ih later,
            c.headers_handlerOperations]
          rfl

/-- The file of a controller declares a method for each of its handlers, in their order. -/
theorem declares_of_renderWithHeader
    {text : String}
    (rendered : c.artifact.renderWithHeader = .ok text) :
    c.Declares text (c.handlers.map header) := by
  obtain ⟨body, made, whole⟩ := renderWithHeader_classArtifact.1 rendered
  obtain ⟨holds, ended⟩ := CompilationUnit.holds_of_render made
  exact ⟨body, _, whole, holds, c.headers_body ended⟩

end Controller

end Sources

end Java
end Scaffold
