import Scaffold.Java.DemoData
import Scaffold.Manifest.Resolution
import Scaffold.NameSet
import Scaffold.Text.Decimal

/-!
# Mock responses

A mock response builds the response object field by field with fixed example values.  The objects
that it refers to are built first, each into a local variable of its own, and a reference back to an
object that is still being built becomes `null`.

Building ends because an object is never built inside itself: every step inwards leaves fewer
entities that are not being built.
-/

namespace Scaffold
namespace Java

open Code (Operation)
open Manifest (Declaration EntityId FieldType Project)
open Text

/-- What is passed to a setter. -/
inductive Argument where
  | string
  | int
  | long
  | double
  | float
  | boolean
  | emptyList
  | null
  | constant (className name : String)
  | variableOf (name : String)
  deriving DecidableEq

namespace Argument

/-- The written form of an argument. -/
def render : Argument → String
  | string => "\"example\""
  | int => "42"
  | long => "42L"
  | double => "3.14"
  | float => "3.14f"
  | boolean => "true"
  | emptyList => "new java.util.ArrayList<>()"
  | null => "null"
  | constant className name => className ++ "." ++ name
  | variableOf name => name

end Argument

/-- A statement of a mock response. -/
inductive Statement where
  | create (className name : String)
  | set (name field : String) (argument : Argument)
  | giveBack (name : String)
  deriving DecidableEq

namespace Statement

/-- The written form of a statement. -/
def render : Statement → String
  | create className name => className ++ " " ++ name ++ " = new " ++ className ++ "();"
  | set name field argument =>
      name ++ ".set" ++ Naming.pascal field ++ "(" ++ argument.render ++ ");"
  | giveBack name => "return " ++ name ++ ";"

end Statement

/-- The statements that were made and the result or failure in which making them ended. -/
structure Draft (α : Type) where
  statements : List Statement
  result : Except Failure α

namespace Mock

/-- The candidates for a local variable of a class: its name, then its name with 2, 3, … -/
def candidate
    (base : String) : Nat → String
  | 0 => base
  | n + 1 => base ++ decimal (n + 2)

/-- The first candidate that is not used yet. -/
def freshName
    (className : String)
    (used : List String) : String :=
  let base := Naming.camel className
  (((List.range (used.length + 1)).map (candidate base)).find? (!used.contains ·)).getD base

/-- Takes the name for a new local variable; gives it and the names that are used then. -/
def takeName
    (className : String)
    (used : List String) : String × List String :=
  let name := freshName className used
  (name, name :: used)

/-- The entities of a project that are not being built. -/
def idle
    (project : Project)
    (building : List EntityId) : Nat :=
  (project.declarations.filter fun d => !building.contains d.id).length

/-- Starting to build an entity leaves fewer that are not being built. -/
theorem idle_cons_lt
    {project : Project}
    {building : List EntityId}
    {d : Declaration}
    (declared : d ∈ project.declarations)
    (fresh : building.contains d.id = false) :
    idle project (d.id :: building) < idle project building := by
  have stays : d ∈ project.declarations.filter fun d => !building.contains d.id :=
    List.mem_filter.2 ⟨declared, by simpa using fresh⟩
  have shrinks :
      (project.declarations.filter fun e => !(d.id :: building).contains e.id) =
        (project.declarations.filter fun e => !building.contains e.id).filter
          fun e => e.id != d.id := by
    rw [List.filter_filter]
    congr 1
    funext e
    by_cases same : e.id = d.id <;> simp [same, bne]
  unfold idle
  rw [shrinks]
  exact List.length_filter_lt_length_iff_exists.2 ⟨d, stays, by simp⟩

/-- The argument for a field that refers to nothing. -/
def plainArgument : FieldType → Argument
  | .string => .string
  | .int => .int
  | .long => .long
  | .double => .double
  | .float => .float
  | .boolean => .boolean
  | .list _ => .emptyList
  | .ref _ => .null

/-- The argument for a field that refers to an enumeration: its first constant. -/
def constantOf (d : Declaration) : Argument :=
  match d.entity.values with
  | constant :: _ => .constant (Naming.className d.name) constant
  | [] => .null

mutual

/-- Builds an object into a new local variable; gives its name and the names that are used then. -/
def construct
    (project : Project)
    (building : List EntityId)
    (target : Declaration)
    (used : List String)
    (_declared : target ∈ project.declarations)
    (_fresh : building.contains target.id = false) : Draft (String × List String) :=
  if target.entity.kind = .data then
    let className := Naming.className target.name
    let (name, used) := takeName className used
    let filled :=
      fill project (target.id :: building) target.module name used target.entity.fields.entries
    ⟨.create className name :: filled.statements, filled.result.map fun used => (name, used)⟩
  else ⟨[], .error (.notConstructible target.name target.entity.kind)⟩
termination_by (idle project building, 0)
decreasing_by exact Prod.Lex.left _ _ (idle_cons_lt _declared _fresh)

/-- Sets the fields of the object in a variable; gives the names that are used then. -/
def fill
    (project : Project)
    (building : List EntityId)
    (module name : String)
    (used : List String) : List (String × FieldType) → Draft (List String)
  | [] => ⟨[], .ok used⟩
  | (field, .ref reference) :: rest =>
      match resolved : project.resolve? module reference with
      | none => ⟨[], .error (.unknownType reference module)⟩
      | some target =>
          match target.entity.kind with
          | .request => ⟨[], .error (.requestAsField reference)⟩
          | .enumeration =>
              let later := fill project building module name used rest
              ⟨.set name field (constantOf target) :: later.statements, later.result⟩
          | .data =>
              if target.entity.isAbstract then
                let later := fill project building module name used rest
                ⟨.set name field .null :: later.statements, later.result⟩
              else if isBuilt : building.contains target.id then
                let later := fill project building module name used rest
                ⟨.set name field .null :: later.statements, later.result⟩
              else
                let built :=
                  construct project building target used
                    (Project.mem_declarations_of_resolve resolved) (by simpa using isBuilt)
                match built.result with
                | .error failure => ⟨built.statements, .error failure⟩
                | .ok (variableName, used) =>
                    let later := fill project building module name used rest
                    ⟨built.statements ++
                        .set name field (.variableOf variableName) :: later.statements,
                      later.result⟩
  | (field, type) :: rest =>
      let later := fill project building module name used rest
      ⟨.set name field (plainArgument type) :: later.statements, later.result⟩
termination_by fields => (idle project building, fields.length)

end

/-- The statements of a mock response up to its end or its failure. -/
def response
    (project : Project)
    (module reference : String) : Draft Unit :=
  match resolved : project.resolve? module reference with
  | none => ⟨[], .error (.unknownResponse reference module)⟩
  | some target =>
      let built :=
        construct project [] target [] (Project.mem_declarations_of_resolve resolved) rfl
      match built.result with
      | .error failure => ⟨built.statements, .error failure⟩
      | .ok (name, _) => ⟨built.statements ++ [.giveBack name], .ok ()⟩

/-- The operations that write a draft and end as it does. -/
def operations (draft : Draft Unit) : List (Operation Failure Empty) :=
  Operation.each (draft.statements.map Statement.render) ++
    match draft.result with
    | .ok _ => []
    | .error failure => [.fail failure]

/-- The entities that the fields of an entity refer to directly. -/
def referred
    (project : Project)
    (d : Declaration) : List Declaration :=
  if d.entity.kind = .data then
    d.entity.fields.values.filterMap fun
      | .ref reference => project.resolve? d.module reference
      | _ => none
  else []

/-- Adds an entity to a list that does not hold it yet. -/
def addOnce
    (seen : List Declaration)
    (d : Declaration) : List Declaration :=
  if seen.any (fun e => e.id == d.id) then seen else seen ++ [d]

/-- Adds what the members of a list refer to, as often as asked. -/
def spread
    (project : Project) : (rounds : Nat) → List Declaration → List Declaration
  | 0, seen => seen
  | rounds + 1, seen => spread project rounds ((seen.flatMap (referred project)).foldl addOnce seen)

/-- The entities that can be reached from a response by following fields. -/
def reachable
    (project : Project)
    (module reference : String) : List Declaration :=
  match project.resolve? module reference with
  | none => []
  | some target => spread project project.declarations.length [target]

/-- The model classes that a mock response may mention. -/
def models
    (project : Project)
    (module reference : String) : List String :=
  (NameSet.ofList ((reachable project module reference).map
    fun d => Naming.className d.name)).names

/-- Demo data made of mock responses. -/
def demoData : DemoData where
  body project module reference := operations (response project module reference)
  models := models

end Mock
end Java
end Scaffold
