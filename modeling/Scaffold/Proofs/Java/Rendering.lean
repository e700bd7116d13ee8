import Scaffold.Java.Application
import Scaffold.Java.Controller
import Scaffold.Java.Model
import Scaffold.Proofs.Code.Fragments
import Scaffold.Proofs.Generator.Traversal

/-!
# Which source files can be rendered

A source file is rendered when its body comes to its end, and fails with what its body fails with,
however many lines were written before.  The body of a controller fails with the first handler whose
body does.  Model classes of data and enumerations and the application class never fail.
-/

namespace Scaffold

open Manifest (Handler)

namespace Code

section Outcome

variable {ε : Type}

/-- The end of operations that nothing aborts. -/
def Outcome.result : Outcome ε Empty → Except ε Unit
  | .completed => .ok ()
  | .failed reason => .error reason
  | .aborted reason => nomatch reason

end Outcome

end Code

open Code (Fragment Operation Outcome)

namespace Java

section Rendering

variable {ε : Type}

/-- A source file is rendered or fails as its body does. -/
theorem CompilationUnit.render_eq_error
    (unit : CompilationUnit ε)
    {failure : ε} :
    unit.render = .error failure ↔ (Operation.outcomeOf unit.body).result = .error failure := by
  cases ended : Operation.outcomeOf unit.body with
  | completed => simp [render, Operation.outcome, ended, Outcome.result]
  | failed reason => simp [render, Operation.outcome, ended, Outcome.result]
  | aborted reason => exact nomatch reason

/-- The artifact of a class fails as the body of the class does. -/
theorem render_classArtifact_eq_error
    (className : String)
    (unit : CompilationUnit Failure)
    {failure : Failure} :
    (classArtifact className unit).render = .error failure ↔
      (Operation.outcomeOf unit.body).result = .error failure := by
  rw [← unit.render_eq_error]
  cases rendered : unit.render <;>
    simp [classArtifact, Artifact.render, rendered, Except.map]

/-- The file of a class is its text below the header. -/
theorem renderWithHeader_classArtifact
    {className text : String}
    {unit : CompilationUnit Failure} :
    (classArtifact className unit).renderWithHeader = .ok text ↔
      ∃ body, unit.render = .ok body ∧ text = generatedHeader ++ "\n" ++ body := by
  cases rendered : unit.render <;>
    simp [Artifact.renderWithHeader, Artifact.render, classArtifact, rendered, Except.map,
      WriteRules.generated, eq_comm]

namespace Controller

variable (c : Controller)

/-- How the body of a handler ends. -/
def handlerResult
    (c : Controller)
    (h : Handler) : Except Failure Unit :=
  (Operation.outcomeOf (c.handlerBody h)).result

theorem outcomeOf_handlerOperations (h : Handler) :
    Operation.outcomeOf (c.handlerOperations h) = Operation.outcomeOf (c.handlerBody h) := by
  have framed : Operation.outcomeOf [.line (mappingLine h), .scope (header h) (c.handlerBody h)] =
      Operation.outcomeOf (c.handlerBody h) := by
    cases ended : Operation.outcomeOf (c.handlerBody h) <;>
      simp [Operation.outcomeOf, Operation.outcome, ended]
  cases described : h.request.entity.description with
  | none => simpa [handlerOperations, described] using framed
  | some text =>
      rw [← framed]
      simp [handlerOperations, described, Operation.outcomeOf, Operation.outcome,
        Operation.javadoc]

/-- The body of a controller fails with the first handler that does. -/
theorem result_body_eq_error
    (handlers : List Handler)
    {failure : Failure} :
    (Operation.outcomeOf (c.body handlers)).result = .error failure ↔
      FirstFails c.handlerResult handlers failure := by
  induction handlers with
  | nil => simp [body, Operation.outcomeOf, Outcome.result]
  | cons h rest ih =>
      cases rest with
      | nil =>
          rw [firstFails_cons]
          simp [body, outcomeOf_handlerOperations, handlerResult]
      | cons second rest =>
          have later : Operation.outcomeOf (.blank :: c.body (second :: rest)) =
              Operation.outcomeOf (c.body (second :: rest)) := by
            simp [Operation.outcomeOf, Operation.outcome, Operation.blank]
          rw [firstFails_cons, ← ih, body, Operation.outcomeOf_append, later,
            outcomeOf_handlerOperations]
          · cases ended : Operation.outcomeOf (c.handlerBody h) with
            | completed => simp [handlerResult, ended, Outcome.result]
            | failed reason => simp [handlerResult, ended, Outcome.result]
            | aborted reason => exact nomatch reason
          · simp

/-- A controller fails with the first handler whose body does, whatever it has written by then. -/
theorem render_artifact_eq_error
    {failure : Failure} :
    c.artifact.render = .error failure ↔ FirstFails c.handlerResult c.handlers failure := by
  rw [← c.result_body_eq_error]
  exact render_classArtifact_eq_error c.className c.unit

end Controller

namespace Model

variable (m : Model)

/-- The body of a class with fields comes to its end. -/
theorem completed_classUnit : Operation.outcomeOf m.classUnit.body = .completed := by
  have accessors : ∀ fields : List ModelField,
      Operation.outcomeOf (fields.flatMap fun field =>
        (Fragment.operationsOf field.accessors : List (Operation Failure Empty))) = .completed := by
    intro fields
    induction fields with
    | nil => rfl
    | cons field fields ih =>
        exact Operation.completed_append (Fragment.completed_operationsOf field.accessors) ih
  exact Operation.completed_append (Operation.completed_each _) (accessors m.fields)

/-- The body of an enum comes to its end. -/
theorem completed_enumUnit : Operation.outcomeOf m.enumUnit.body = .completed :=
  Operation.completed_each _

/-- The model class of data or of an enumeration is always rendered. -/
theorem renders_artifact
    (isModel : m.entity.isModel = true)
    (failure : Failure) :
    m.artifact.render ≠ .error failure := by
  intro failed
  cases kind : m.entity.kind with
  | data =>
      simp only [artifact, kind, render_classArtifact_eq_error, m.completed_classUnit] at failed
      cases failed
  | enumeration =>
      simp only [artifact, kind, render_classArtifact_eq_error, m.completed_enumUnit] at failed
      cases failed
  | request => simp [Manifest.Entity.isModel, kind] at isModel

end Model

/-- The application class is always rendered. -/
theorem Application.renders_artifact
    (a : Application)
    (failure : Failure) :
    a.artifact.render ≠ .error failure := by
  intro failed
  have ended := (render_classArtifact_eq_error a.className a.unit).1 failed
  cases ended

end Rendering

end Java
end Scaffold
