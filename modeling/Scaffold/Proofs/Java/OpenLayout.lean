import Scaffold.Java.OpenUnit
import Scaffold.Proofs.Code.Composition
import Scaffold.Proofs.Java.Layout
import Scaffold.Proofs.Text.ByteOrder

/-!
# The layout of source files whose imports are open

Steps work on code and on names at once, but neither looks at the other: the code is what the operations
of the steps write, and the names are those that are mentioned by a step that is come to.  So a source
file that is written step by step is the compilation unit in which all names are known, although its body
is written before the import statements that stand above it.

The main statement tells such a file line by line.
-/

namespace Scaffold

open Text

namespace Code

/-- A line one step deeper. -/
def Line.deeper (line : Line) : Line :=
  { line with depth := line.depth + 1 }

end Code

namespace Java

open Code (Builder Emission Line Operation Outcome)

section Steps

variable {ε : Type} {desk : Desk} {name : String}

namespace BodyStep

/-- A step that is taken to its end. -/
def Completes (step : BodyStep ε) : Prop :=
  Operation.outcomeOf step.operations = .completed

/-- Some step that is come to mentions a name. -/
inductive Mentions : List (BodyStep ε) → String → Prop
  | here
      {name : String}
      {rest : List (BodyStep ε)} :
      Mentions (.mention name :: rest) name
  | inScope
      {header name : String}
      {body rest : List (BodyStep ε)}
      (within : Mentions body name) :
      Mentions (.scope header body :: rest) name
  | inAttempt
      {label name : String}
      {body rest : List (BodyStep ε)}
      (within : Mentions body name) :
      Mentions (.attempt label body :: rest) name
  | later
      {name : String}
      {step : BodyStep ε}
      {rest : List (BodyStep ε)}
      (completes : step.Completes)
      (onwards : Mentions rest name) :
      Mentions (step :: rest) name

theorem not_mentions_nil : ¬ Mentions ([] : List (BodyStep ε)) name :=
  fun mentioned => nomatch mentioned

/-- What steps mention is mentioned by the first one, or behind it when that completes. -/
theorem mentions_cons_iff
    {step : BodyStep ε}
    {rest : List (BodyStep ε)} :
    Mentions (step :: rest) name ↔ Mentions [step] name ∨ step.Completes ∧ Mentions rest name := by
  constructor
  · intro mentioned
    cases mentioned with
    | here => exact .inl .here
    | inScope within => exact .inl (.inScope within)
    | inAttempt within => exact .inl (.inAttempt within)
    | later completes onwards => exact .inr ⟨completes, onwards⟩
  · rintro (first | ⟨completes, onwards⟩)
    · cases first with
      | here => exact .here
      | inScope within => exact .inScope within
      | inAttempt within => exact .inAttempt within
      | later _ onwards => exact absurd onwards not_mentions_nil
    · exact .later completes onwards

theorem not_mentions_code (operation : Operation ε Empty) :
    ¬ Mentions [.code operation] name := by
  intro mentioned
  cases mentioned with
  | later _ onwards => exact not_mentions_nil onwards

theorem mentions_mention_iff
    {mentioned : String} :
    Mentions [(.mention mentioned : BodyStep ε)] name ↔ name = mentioned := by
  constructor
  · intro h
    cases h with
    | here => rfl
    | later _ onwards => exact absurd onwards not_mentions_nil
  · rintro rfl
    exact .here

theorem mentions_scope_iff
    {header : String}
    {body : List (BodyStep ε)} :
    Mentions [.scope header body] name ↔ Mentions body name := by
  refine ⟨fun mentioned => ?_, .inScope⟩
  cases mentioned with
  | inScope within => exact within
  | later _ onwards => exact absurd onwards not_mentions_nil

theorem mentions_attempt_iff
    {label : String}
    {body : List (BodyStep ε)} :
    Mentions [.attempt label body] name ↔ Mentions body name := by
  refine ⟨fun mentioned => ?_, .inAttempt⟩
  cases mentioned with
  | inAttempt within => exact within
  | later _ onwards => exact absurd onwards not_mentions_nil

end BodyStep

namespace Desk

mutual

/-- A step ends as its operations do. -/
@[simp] theorem take_outcome
    (desk : Desk) :
    (step : BodyStep ε) →
      (desk.take step).outcome = Operation.outcomeOf step.operations
  | .code operation => by
      cases ended : operation.outcome <;>
        simp [take, BodyStep.operations, Operation.outcomeOf, ended]
  | .mention name => by simp [take, BodyStep.operations, Operation.outcomeOf]
  | .scope header body => by
      have inner := takeAll_outcome { desk with builder := desk.builder.enter header } body
      cases ended : Operation.outcomeOf (BodyStep.operationsOf body) <;>
        simp [take, BodyStep.operations, Operation.outcomeOf, Operation.outcome, inner, ended]
  | .attempt label body => by
      have inner := takeAll_outcome desk body
      cases ended : Operation.outcomeOf (BodyStep.operationsOf body) <;>
        simp [take, BodyStep.operations, Operation.outcomeOf, Operation.outcome, inner, ended]

/-- Steps end as their operations do. -/
@[simp] theorem takeAll_outcome
    (desk : Desk) :
    (steps : List (BodyStep ε)) →
      (desk.takeAll steps).outcome = Operation.outcomeOf (BodyStep.operationsOf steps)
  | [] => by simp [takeAll, BodyStep.operationsOf, Operation.outcomeOf]
  | step :: rest => by
      have first := take_outcome desk step
      have later := takeAll_outcome (desk.take step).desk rest
      rw [BodyStep.operationsOf, Operation.outcomeOf_append]
      cases ended : Operation.outcomeOf step.operations <;>
        simp [takeAll, first, later, ended]

end

mutual

/-- The code of a step is that of its operations, whatever names are known. -/
theorem take_builder
    (desk : Desk) :
    (step : BodyStep ε) →
      (desk.take step).desk.builder = (desk.builder.runAll step.operations).builder
  | .code operation => by simp [take, BodyStep.operations, Builder.runAll_singleton]
  | .mention name => by simp [take, BodyStep.operations, Builder.runAll]
  | .scope header body => by
      have inner := takeAll_builder { desk with builder := desk.builder.enter header } body
      simp [take, BodyStep.operations, Builder.runAll_singleton, Builder.run, inner]
  | .attempt label body => by
      have inner := takeAll_builder desk body
      cases ended : Operation.outcomeOf (BodyStep.operationsOf body) <;>
        simp [take, BodyStep.operations, Builder.runAll_singleton, Builder.run, inner, ended]

/-- The code of steps is that of their operations, whatever names are known. -/
theorem takeAll_builder
    (desk : Desk) :
    (steps : List (BodyStep ε)) →
      (desk.takeAll steps).desk.builder =
        (desk.builder.runAll (BodyStep.operationsOf steps)).builder
  | [] => by simp [takeAll, BodyStep.operationsOf, Builder.runAll]
  | step :: rest => by
      have first := take_builder desk step
      have later := takeAll_builder (desk.take step).desk rest
      rw [BodyStep.operationsOf, Builder.runAll_append]
      cases ended : Operation.outcomeOf step.operations <;>
        simp [takeAll, first, later, ended]

end

mutual

/-- The names behind a step are those before it and those that it mentions. -/
theorem mem_take_imports
    (desk : Desk) :
    (step : BodyStep ε) →
      (name ∈ (desk.take step).desk.imports.names ↔
        name ∈ desk.imports.names ∨ BodyStep.Mentions [step] name)
  | .code operation => by simp [take, BodyStep.not_mentions_code]
  | .mention mentioned => by
      rw [BodyStep.mentions_mention_iff, take, NameSet.mem_names_insert, or_comm]
  | .scope header body => by
      rw [BodyStep.mentions_scope_iff]
      exact mem_takeAll_imports { desk with builder := desk.builder.enter header } body
  | .attempt label body => by
      rw [BodyStep.mentions_attempt_iff, ← mem_takeAll_imports desk body, take]
      cases ended : Operation.outcomeOf (BodyStep.operationsOf body) <;> simp [ended]

/-- The names behind some steps are those before them and those that they mention. -/
theorem mem_takeAll_imports
    (desk : Desk) :
    (steps : List (BodyStep ε)) →
      (name ∈ (desk.takeAll steps).desk.imports.names ↔
        name ∈ desk.imports.names ∨ BodyStep.Mentions steps name)
  | [] => by simp [takeAll, BodyStep.not_mentions_nil]
  | step :: rest => by
      have first := mem_take_imports desk step
      have later := mem_takeAll_imports (desk.take step).desk rest
      rw [BodyStep.mentions_cons_iff, ← or_assoc, ← first]
      cases ended : Operation.outcomeOf step.operations <;>
        simp [takeAll, BodyStep.Completes, later, ended]

end

/-- The desk without code and without names. -/
def fresh : Desk := ⟨.empty, .empty⟩

end Desk

end Steps

section OpenUnits

variable {ε : Type} {package name : String}

/-- A package owns a name: it is what stands before the last dot, and empty when there is no dot. -/
def OwnedBy (package name : String) : Prop :=
  (∃ last, '.' ∉ last.toList ∧ name = package ++ "." ++ last) ∨
    '.' ∉ name.toList ∧ package = ""

theorem Imports.owner_eq_iff : Imports.owner name = package ↔ OwnedBy package name := by
  constructor
  · rintro rfl
    cases cut : cutAtLast? '.' name.toList with
    | none =>
        exact .inr ⟨not_mem_of_cutAtLast?_eq_none cut, by simp [Imports.owner, cut]⟩
    | some parts =>
        obtain ⟨front, back⟩ := parts
        obtain ⟨absent, shape⟩ := cutAtLast?_eq_some_iff.1 cut
        refine .inl ⟨String.ofList back, by simpa using absent, ?_⟩
        have named : Imports.owner name = String.ofList front := by simp [Imports.owner, cut]
        rw [named]
        simp [String.ext_iff, shape]
  · rintro (⟨last, absent, rfl⟩ | ⟨absent, rfl⟩)
    · exact Imports.owner_qualified absent
    · simp [Imports.owner, cutAtLast?_eq_none absent]

/--
The lines that open the block of a declaration: those of the declaration, with a brace behind the last
one, or the brace alone.
-/
inductive Opens : String → List String → Prop
  | alone : Opens "" ["\x7b"]
  | behind
      {declaration last : String}
      {front : List String}
      (nonempty : declaration ≠ "")
      (cut : pieces '\n' declaration = front ++ [last]) :
      Opens declaration (front.map dropReturn ++ [last ++ " \x7b"])

theorem opens_lines_opening (declaration : String) :
    Opens declaration (lines (Builder.opening declaration)) := by
  by_cases empty : declaration = ""
  · have brace : lines (Builder.opening "") = ["\x7b"] := by decide
    rw [empty, brace]
    exact .alone
  · obtain ⟨front, last, cut, longer⟩ :=
      exists_pieces_append declaration (show '\n' ∉ " \x7b".toList by decide)
    have kept : dropReturn (last ++ " \x7b") = last ++ " \x7b" := by
      simp [dropReturn]
    rw [Builder.opening, if_neg empty, lines, longer, List.map_append, List.map_singleton, kept]
    exact .behind empty cut

namespace OpenUnit

open BodyStep (Mentions)

variable {source : OpenUnit ε}

/-- The body of a source file, written alone. -/
def bodyAlone (source : OpenUnit ε) : Stepped ε :=
  Desk.fresh.takeAll source.body

theorem declared_outcome (source : OpenUnit ε) :
    source.declared.outcome = source.bodyAlone.outcome := by
  simp [declared, bodyAlone, Desk.take]

/-- Writing the body step by step, before the lines above it, makes no difference. -/
theorem render_eq_render_unit (source : OpenUnit ε) :
    source.render = source.unit.render := by
  have code : source.declared.desk.builder =
      (Builder.empty.run (.scope source.declaration (BodyStep.operationsOf source.body))).builder := by
    rw [declared, Desk.take_builder, BodyStep.operations, Builder.runAll_singleton]
  rw [render, CompilationUnit.render, code]
  simp only [unit]
  cases ended : Operation.outcomeOf (BodyStep.operationsOf source.body) with
  | completed => simp [declared_outcome, bodyAlone, Operation.outcome, ended]
  | failed reason => simp [declared_outcome, bodyAlone, Operation.outcome, ended]
  | aborted reason => exact reason.elim

/-- The names that a file may import are those from up front and those that its body mentions. -/
theorem mem_imports_unit :
    name ∈ source.unit.imports.names ↔
      name ∈ source.upFront ∨ Mentions source.body name := by
  rw [unit, declared, Desk.mem_take_imports, BodyStep.mentions_scope_iff, NameSet.mem_names_ofList]

/-- The lines of the body in the file are those of the body alone, one step deeper. -/
theorem linesOf_body (source : OpenUnit ε) :
    Emission.linesOf 1 (Operation.emittedOf source.unit.body) =
      source.bodyAlone.desk.builder.buffer.lines.map Line.deeper := by
  rw [bodyAlone, Desk.takeAll_builder, Emission.linesOf_emittedOf]
  rfl

theorem render_eq_error_iff
    {reason : ε} :
    source.render = .error reason ↔ source.bodyAlone.outcome = .failed reason := by
  rw [render_eq_render_unit, CompilationUnit.render_eq_error, bodyAlone, Desk.takeAll_outcome, unit]
  cases ended : Operation.outcomeOf (BodyStep.operationsOf source.body) with
  | completed => simp [Outcome.result]
  | failed other => simp [Outcome.result]
  | aborted never => exact never.elim

theorem exists_render
    (completed : source.bodyAlone.outcome = .completed) :
    ∃ text, source.render = .ok text := by
  cases rendered : source.render with
  | ok text => exact ⟨text, rfl⟩
  | error reason =>
      rw [render_eq_error_iff.1 rendered] at completed
      cases completed

/-- A text holds a source file line by line, with import statements for some names. -/
structure IsLaidOut
    (source : OpenUnit ε)
    (text : String)
    (imports opened : List String) : Prop where
  ascending : imports.Pairwise fun a b => bytes a < bytes b
  mem_imports : ∀ name, name ∈ imports ↔
    (name ∈ source.upFront ∨ Mentions source.body name) ∧
      ¬ OwnedBy source.package name ∧ ¬ OwnedBy "java.lang" name
  opens : Opens source.declaration opened
  lines : pieces '\n' text =
    ["package " ++ source.package ++ ";", ""] ++
      (if imports = [] then [] else imports.map importStatement ++ [""]) ++ opened ++
      source.bodyAlone.desk.builder.buffer.lines.map
        (fun line => line.deeper.render source.indent) ++
      ["\x7d"]

theorem isLaidOut_of_render
    {text : String}
    (rendered : source.render = .ok text)
    (single : source.unit.OneLineNames) :
    source.IsLaidOut text source.unit.needed (lines (Builder.opening source.declaration)) where
  ascending :=
    (source.unit.imports.ascending.filter _).imp fun less => bytes_lt_bytes_iff.2 less
  mem_imports name := by
    rw [← Imports.owner_eq_iff, ← Imports.owner_eq_iff, ← mem_imports_unit]
    exact Imports.mem_neededFrom
  opens := opens_lines_opening source.declaration
  lines := by
    rw [render_eq_render_unit] at rendered
    rw [CompilationUnit.pieces_of_render rendered, single.flatMap_lines_textsAbove, linesOf_body,
      List.map_map]
    rfl

/--
A source file fails exactly as its body does.  Otherwise it holds the package line, an import statement
for each name from up front or mentioned by the body that neither the package of the file nor the visible
package owns, in the order of their bytes, the declaration with its brace, the lines of the body one step
deeper, and the closing brace.
-/
theorem fails_with_body_or_is_laid_out (source : OpenUnit ε) :
    (∀ reason, source.render = .error reason ↔ source.bodyAlone.outcome = .failed reason) ∧
    (source.bodyAlone.outcome = .completed →
      '\n' ∉ source.package.toList →
      (∀ name, name ∈ source.upFront ∨ Mentions source.body name → '\n' ∉ name.toList) →
      ∃ text imports opened, source.render = .ok text ∧ source.IsLaidOut text imports opened) := by
  refine ⟨fun reason => render_eq_error_iff, fun completed package names => ?_⟩
  obtain ⟨text, rendered⟩ := exists_render completed
  have single : source.unit.OneLineNames :=
    ⟨package, fun name known => names name (mem_imports_unit.1 known)⟩
  exact ⟨text, _, _, rendered, isLaidOut_of_render rendered single⟩

/-- A source file with names from up front, from a scope, from a failing attempt and from the end. -/
def bench : OpenUnit String where
  package := "com.example"
  indent := .spaces 2
  upFront := ["java.util.Map", "java.lang.String"]
  declaration := "@Tidy\npublic class Bench"
  body :=
    [.scope "void sweep()"
      [.mention "com.example.Broom",
       .attempt "dust" [.mention "a.Duster", .code (.fail "no dust"), .mention "a.Mop"],
       .code (.line "return;")],
     .mention "Bucket"]

theorem bench_is_laid_out :
    bench.bodyAlone.outcome = .completed ∧ '\n' ∉ bench.package.toList ∧
    (∀ name, name ∈ bench.upFront ∨ Mentions bench.body name → '\n' ∉ name.toList) ∧
    ∃ text imports opened, bench.render = .ok text ∧ bench.IsLaidOut text imports opened := by
  have completed : bench.bodyAlone.outcome = .completed := by
    rw [bodyAlone, Desk.takeAll_outcome]
    rfl
  have package : '\n' ∉ bench.package.toList := by decide
  have names : ∀ name, name ∈ bench.upFront ∨ Mentions bench.body name → '\n' ∉ name.toList := by
    have known : bench.unit.imports.names =
        ["Bucket", "a.Duster", "com.example.Broom", "java.lang.String", "java.util.Map"] := by decide
    intro name among
    rw [← mem_imports_unit, known] at among
    revert name
    decide
  exact ⟨completed, package, names,
    (fails_with_body_or_is_laid_out bench).2 completed package names⟩

example : bench.render = .ok
    ("package com.example;\n\nimport Bucket;\nimport a.Duster;\nimport java.util.Map;\n\n" ++
      "@Tidy\npublic class Bench \x7b\n  void sweep() \x7b\n    return;\n  \x7d\n\x7d") := by
  decide +kernel

end OpenUnit

end OpenUnits

end Java
end Scaffold
