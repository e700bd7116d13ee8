import Mathlib.Data.List.Basic
import Scaffold.Java.Controller

/-!
# The signatures of handlers

The header of a handler is written from a method name and a list of parameters: one for each path
variable, in order, and one for the body where there is one.  Path variables are all of one type and
the body is of another, so two handlers take the same types exactly when they have as many path
variables and both or neither of them take a body.
-/

namespace Scaffold
namespace Java

open Manifest (Handler)

/-- A parameter of a handler as its header declares it. -/
structure Parameter where
  annotation : String
  type : String
  name : String
  deriving DecidableEq

namespace Parameter

/-- The written form of a parameter. -/
def render (p : Parameter) : String :=
  p.annotation ++ " " ++ p.type ++ " " ++ p.name

/-- The parameter for a path variable. -/
def ofVariable (name : String) : Parameter :=
  ⟨"@PathVariable(\"" ++ name ++ "\")", "String", Naming.camel name⟩

/-- The parameter for the body. -/
def ofBody : Parameter :=
  ⟨"@RequestBody", "Map<String, Object>", "body"⟩

end Parameter

namespace Controller

section Signatures

variable {h h' : Handler}

/-- The name of the method that handles a request. -/
def methodName (h : Handler) : String :=
  Naming.camel h.request.name

/-- The parameters that the header of a handler declares. -/
def parameterList (h : Handler) : List Parameter :=
  h.request.entity.pathVariables.map Parameter.ofVariable ++
    (if takesBody h then [Parameter.ofBody] else [])

/-- The names of the parameters for the path variables. -/
def variableNames (h : Handler) : List String :=
  h.request.entity.pathVariables.map Naming.camel

/-- The names of all parameters. -/
def parameterNames (h : Handler) : List String :=
  (parameterList h).map Parameter.name

/-- The types of all parameters. -/
def parameterTypes (h : Handler) : List String :=
  (parameterList h).map Parameter.type

/-- What tells the methods of one class apart. -/
def signature (h : Handler) : String × List String :=
  (methodName h, parameterTypes h)

theorem parameters_eq (h : Handler) :
    parameters h = (parameterList h).map Parameter.render := by
  have spelled : ∀ name, "@PathVariable(\"" ++ name ++ "\") String " ++ Naming.camel name =
      (Parameter.ofVariable name).render := by
    intro name
    have between : "\") String " = "\")" ++ (" " ++ ("String" ++ " ")) := by decide
    change _ = "@PathVariable(\"" ++ name ++ "\")" ++ " " ++ "String" ++ " " ++ Naming.camel name
    simp only [between, String.append_assoc]
  have body : "@RequestBody Map<String, Object> body" = Parameter.ofBody.render := by decide
  unfold parameters parameterList
  rw [List.map_append, List.map_map, body]
  congr 1
  · exact List.map_congr_left fun name _ => spelled name
  · split <;> rfl

/-- The header of a handler declares its method and its parameters, and nothing else. -/
theorem header_eq (h : Handler) :
    header h =
      "public " ++ responseClass h ++ " " ++ methodName h ++ "(" ++
        String.intercalate ", " ((parameterList h).map Parameter.render) ++ ")" := by
  rw [header, parameters_eq, methodName]

theorem parameterNames_eq (h : Handler) :
    parameterNames h = variableNames h ++ (if takesBody h then ["body"] else []) := by
  rw [parameterNames, parameterList, List.map_append, List.map_map, variableNames]
  congr 1
  split <;> rfl

theorem parameterTypes_eq (h : Handler) :
    parameterTypes h =
      List.replicate h.request.entity.pathVariables.length "String" ++
        (if takesBody h then ["Map<String, Object>"] else []) := by
  rw [parameterTypes, parameterList, List.map_append, List.map_map]
  congr 1
  · exact List.map_const
  · split <;> rfl

/-- Only the body is of its type. -/
theorem mem_parameterTypes_iff :
    "Map<String, Object>" ∈ parameterTypes h ↔ takesBody h = true := by
  rw [parameterTypes_eq]
  cases takesBody h <;> simp

/-- Two handlers take the same types when they have as many path variables and both or neither take a
body. -/
theorem parameterTypes_eq_iff :
    parameterTypes h = parameterTypes h' ↔
      h.request.entity.pathVariables.length = h'.request.entity.pathVariables.length ∧
        takesBody h = takesBody h' := by
  constructor
  · intro same
    have bodies : takesBody h = takesBody h' := by
      rw [Bool.eq_iff_iff, ← mem_parameterTypes_iff, ← mem_parameterTypes_iff, same]
    have lengths := congrArg List.length same
    rw [parameterTypes_eq, parameterTypes_eq, bodies] at lengths
    exact ⟨by simpa using lengths, bodies⟩
  · rintro ⟨lengths, bodies⟩
    rw [parameterTypes_eq, parameterTypes_eq, lengths, bodies]

end Signatures

end Controller

end Java
end Scaffold
