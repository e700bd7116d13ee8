import Scaffold.Proofs.Java.ControllerImports
import Scaffold.Proofs.Java.Layout
import Scaffold.Proofs.Java.Signatures
import Scaffold.Proofs.Manifest.Classification
import Scaffold.Proofs.Manifest.PathVariables
import Scaffold.Proofs.Naming.Marks

/-!
# The handlers of controllers

Without demo data the class of a controller holds a block of lines for each eligible request, in the order
of their declaration and with one blank line between neighbours.  A block tells the request: its
description, its method and path, its response, the variables of its path and whether it has a body.

What the blocks mention is what the file imports.  No name is imported that they do not mention, and none
that they mention is missing, since neither the package of controllers nor the visible one owns any of
them.
-/

namespace Scaffold

open Text

namespace Java

open Code (Builder Emission Line Operation)
open Manifest (Handler Project)

namespace Controller

section Handlers

variable {h : Handler}

/-- A handler has a body parameter: its method carries a body, and its request has fields. -/
def TakesBody (h : Handler) : Prop :=
  (h.method = .post ∨ h.method = .put ∨ h.method = .patch) ∧ h.request.entity.fields.entries ≠ []

instance (h : Handler) : Decidable (TakesBody h) :=
  inferInstanceAs (Decidable (_ ∧ _))

theorem takesBody_iff : takesBody h = true ↔ TakesBody h := by
  cases method : h.method <;>
    simp [takesBody, TakesBody, method, Manifest.HttpMethod.hasBody]

/-- The parameters of a handler with some path variables. -/
def parameterTexts
    (h : Handler)
    (names : List String) : List String :=
  (names.map fun name => "@PathVariable(\"" ++ name ++ "\") String " ++ Naming.camel name) ++
    (if TakesBody h then ["@RequestBody Map<String, Object> body"] else [])

/-- The lines of a handler with some path variables. -/
def handlerLines
    (h : Handler)
    (names : List String) : List Line :=
  let comment := h.request.entity.description.map fun text => (⟨"/** " ++ text ++ " */", 1⟩ : Line)
  let place := h.request.entity.path.elim "" fun path => "(\"" ++ path ++ "\")"
  comment.toList ++
    [⟨"@" ++ mapping h.method ++ place, 1⟩,
     ⟨"public " ++ Naming.className h.response.name ++ " " ++ Naming.camel h.request.name ++ "(" ++
        String.intercalate ", " (parameterTexts h names) ++ ") \x7b", 1⟩,
     ⟨"throw new UnsupportedOperationException(\"Not yet implemented\");", 2⟩,
     ⟨"\x7d", 1⟩]

/-- The texts of a request that stand in the class as they are have no line end. -/
structure OneLine (h : Handler) : Prop where
  description : ∀ text ∈ h.request.entity.description, '\n' ∉ text.toList
  path : ∀ path ∈ h.request.entity.path, '\n' ∉ path.toList
  names : ∀ name ∈ h.request.entity.pathVariables, '\n' ∉ name.toList

theorem parameters_eq_parameterTexts (h : Handler) :
    parameters h = parameterTexts h h.request.entity.pathVariables := by
  simp only [parameters, parameterTexts, takesBody_iff]

theorem header_append_brace (h : Handler) :
    header h ++ " \x7b" =
      "public " ++ Naming.className h.response.name ++ " " ++ Naming.camel h.request.name ++ "(" ++
        String.intercalate ", " (parameterTexts h h.request.entity.pathVariables) ++ ") \x7b" := by
  rw [header, parameters_eq_parameterTexts, responseClass]
  simp [String.append_assoc]

theorem mappingLine_eq (h : Handler) :
    mappingLine h =
      "@" ++ mapping h.method ++ h.request.entity.path.elim "" fun path => "(\"" ++ path ++ "\")" := by
  unfold mappingLine
  cases h.request.entity.path <;> simp [String.append_assoc]

/-- The lines of a handler are those that its class gives it. -/
theorem handlerLines_eq (h : Handler) :
    handlerLines h h.request.entity.pathVariables =
      (h.request.entity.description.map fun text => (⟨"/** " ++ text ++ " */", 1⟩ : Line)).toList ++
        [⟨mappingLine h, 1⟩, ⟨header h ++ " \x7b", 1⟩, ⟨placeholder, 2⟩, ⟨"\x7d", 1⟩] := by
  rw [mappingLine_eq, header_append_brace]
  rfl

/-- The annotation of a handler is one line when its path is. -/
theorem isLine_mappingLine
    (single : ∀ path ∈ h.request.entity.path, '\n' ∉ path.toList) :
    IsLine (mappingLine h) := by
  have annotation : IsLine ("@" ++ mapping h.method) := by
    cases h.method <;> exact ⟨by decide, by decide⟩
  unfold mappingLine
  split
  · next path written =>
      have noLineEnd := single path (by simp [written])
      exact IsLine.behind ⟨by decide, by decide⟩ (by decide)
        (by simpa [noLineEnd] using annotation.noLineEnd)
  · exact annotation

namespace OneLine

theorem parameters
    (single : OneLine h) :
    ∀ text ∈ Controller.parameters h, '\n' ∉ text.toList := by
  unfold Controller.parameters
  refine List.forall_mem_append.2 ⟨?_, ?_⟩
  · intro text member
    obtain ⟨name, among, rfl⟩ := List.mem_map.1 member
    simp [single.names name among, Naming.noLineEnd_camel]
  · split <;> simp

theorem header
    (single : OneLine h) :
    '\n' ∉ (Controller.header h).toList := by
  have joined := not_mem_intercalate (show '\n' ∉ ", ".toList by decide) single.parameters
  have response : '\n' ∉ (responseClass h).toList := Naming.noLineEnd_pascal _
  unfold Controller.header
  generalize String.intercalate ", " (Controller.parameters h) = parameters at joined
  simp [joined, response, Naming.noLineEnd_camel]

end OneLine

/-- The lines of a handler without demo data. -/
theorem linesOf_handlerOperations
    {c : Controller}
    (placeheld : c.demoData = none)
    (single : OneLine h) :
    Emission.linesOf 1 (Operation.emittedOf (c.handlerOperations h)) =
      handlerLines h h.request.entity.pathVariables := by
  have opening := Line.ofText_opening (by simp [Controller.header]) single.header 1
  have annotation := Line.ofText_of_isLine (isLine_mappingLine single.path) 1
  have body : Line.ofText placeholder 2 = [⟨placeholder, 2⟩] :=
    Line.ofText_of_isLine ⟨by decide, by decide⟩ 2
  have framed : Emission.linesOf 1 (Operation.emittedOf
      ([.line (Controller.mappingLine h), .scope (Controller.header h) (c.handlerBody h)] :
        List (Operation Failure Empty))) =
      [⟨Controller.mappingLine h, 1⟩, ⟨Controller.header h ++ " \x7b", 1⟩, ⟨placeholder, 2⟩,
       ⟨"\x7d", 1⟩] := by
    simp [handlerBody, placeheld, Operation.emittedOf, Operation.emitted, Operation.outcome,
      Operation.outcomeOf, Emission.linesOf_cons 1 _ (_ :: _), Emission.linesOf_scope, opening,
      annotation, body, Code.Outcome.isCompleted, Builder.closing]
  rw [handlerLines_eq]
  unfold handlerOperations
  cases described : h.request.entity.description with
  | none => exact framed
  | some text =>
      have comment : Line.ofText ("/** " ++ text ++ " */") 1 = [⟨"/** " ++ text ++ " */", 1⟩] := by
        have noLineEnd := single.description text (by simp [described])
        exact Line.ofText_of_isLine
          (IsLine.behind ⟨by decide, by decide⟩ (by decide) (by simpa using noLineEnd)) 1
      rw [Operation.emittedOf_append (by rfl), Emission.linesOf_append, framed]
      simp [Operation.emittedOf, Operation.emitted, Operation.outcome, Operation.javadoc, comment]

end Handlers

section Blocks

variable {c : Controller}

theorem completed_handlerOperations
    (placeheld : c.demoData = none)
    (h : Handler) :
    Operation.outcomeOf (c.handlerOperations h) = .completed := by
  rw [c.outcomeOf_handlerOperations, handlerBody, placeheld]
  rfl

/-- The class holds a block for each handler, with a blank line between neighbours. -/
theorem linesOf_body
    (placeheld : c.demoData = none)
    {handlers : List Handler}
    (single : ∀ h ∈ handlers, OneLine h) :
    Emission.linesOf 1 (Operation.emittedOf (c.body handlers)) =
      [(⟨"", 1⟩ : Line)].intercalate
        (handlers.map fun h => handlerLines h h.request.entity.pathVariables) := by
  induction handlers with
  | nil => simp [body, Operation.emittedOf, List.intercalate]
  | cons h rest ih =>
      obtain ⟨here, later⟩ := List.forall_mem_cons.1 single
      have first := linesOf_handlerOperations placeheld here
      cases rest with
      | nil => simpa [body, List.intercalate] using first
      | cons next rest =>
          have shape : c.body (h :: next :: rest) =
              c.handlerOperations h ++ (.blank :: c.body (next :: rest)) := rfl
          have below : Operation.emittedOf (.blank :: c.body (next :: rest)) =
              .text "" :: Operation.emittedOf (c.body (next :: rest)) := by
            simp [Operation.emittedOf, Operation.outcome, Operation.emitted, Operation.blank]
          rw [shape, Operation.emittedOf_append (completed_handlerOperations placeheld h),
            Emission.linesOf_append, first, below, Emission.linesOf_cons, Emission.linesOf_text,
            Line.ofText_empty, ih later]
          simp [List.intercalate]

end Blocks

section Needs

variable {c : Controller} {name : String}

end Needs

section Files

variable {c : Controller}

theorem pieces_of_render
    {body : String}
    (proper : c.Proper)
    (rendered : c.unit.render = .ok body)
    (placeheld : c.demoData = none)
    (single : ∀ h ∈ c.handlers, OneLine h) :
    pieces '\n' (generatedHeader ++ "\n" ++ body) =
      [generatedHeader, "package " ++ c.project.settings.package ++ ".controller;", ""] ++
        c.unit.needed.map importStatement ++ [""] ++ lines (Builder.opening c.declaration) ++
        ([(⟨"", 1⟩ : Line)].intercalate
          (c.handlers.map fun h => handlerLines h h.request.entity.pathVariables)).map
            (Line.render c.indent) ++ ["\x7d"] := by
  have header : pieces '\n' generatedHeader = [generatedHeader] := by decide
  have nonempty : c.unit.needed ≠ [] := List.ne_nil_of_mem c.restController_mem_needed
  rw [show "\n" = String.singleton '\n' from rfl, pieces_append, header,
    CompilationUnit.pieces_of_render rendered, proper.oneLineNames.flatMap_lines_textsAbove,
    CompilationUnit.textsAbove, CompilationUnit.importTexts, if_neg nonempty]
  have body := linesOf_body placeheld single
  simp [unit, package, Builder.closing, body, String.append_assoc]

end Files

end Controller

end Java
end Scaffold
