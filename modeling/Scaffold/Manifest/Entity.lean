import Scaffold.Manifest.FieldType
import Scaffold.Manifest.HttpMethod
import Scaffold.OrderedMap

/-!
# Entities

An entity of a module is a request, a data type or an enumeration.  A request keeps its method and
its response as the manifest writes them; whether they mean something is decided when the request is
classified.
-/

namespace Scaffold
namespace Manifest

open Text

/-- What an entity describes. -/
inductive EntityKind where
  | request
  | data
  | enumeration
  deriving DecidableEq

namespace EntityKind

/-- All kinds, in the order in which they are listed to the reader. -/
def all : List EntityKind := [request, data, enumeration]

/-- The word for a kind. -/
def label : EntityKind → String
  | request => "request"
  | data => "data"
  | enumeration => "enum"

/-- The kind that a word names. -/
def read? (word : String) : Option EntityKind :=
  all.find? fun kind => kind.label = word

end EntityKind

/-- A named entity as the manifest declares it. -/
structure Entity where
  kind : EntityKind
  isAbstract : Bool := false
  method : Option String := none
  path : Option String := none
  response : Option String := none
  fields : OrderedMap String FieldType := .empty
  values : List String := []
  description : Option String := none

namespace Entity

/-- The method of a request, if its text names one. -/
def httpMethod? (entity : Entity) : Option HttpMethod :=
  entity.method.bind HttpMethod.read?

/-- The variable that a segment of a request path consists of. -/
def variableOfSegment? (segment : List Char) : Option (List Char) :=
  match segment with
  | '\x7b' :: rest =>
      if rest.getLast? = some '\x7d' ∧ rest.dropLast ≠ [] then some rest.dropLast else none
  | _ => none

/-- The variables of a request path, in order. -/
def variablesOfPath (path : String) : List String :=
  ((path.toList.splitOn '/').filterMap variableOfSegment?).map String.ofList

/-- The variables of the path of a request, in order. -/
def pathVariables (entity : Entity) : List String :=
  (entity.path.map variablesOfPath).getD []

/-- Whether an entity becomes a model class: enumerations and data that is not abstract. -/
def isModel (entity : Entity) : Bool :=
  match entity.kind with
  | .data => !entity.isAbstract
  | .enumeration => true
  | .request => false

/-- Whether an entity can be the response of a request. -/
def isConcreteData (entity : Entity) : Bool :=
  entity.kind = .data && !entity.isAbstract

theorem isConcreteData_iff {entity : Entity} :
    entity.isConcreteData = true ↔ entity.kind = .data ∧ entity.isAbstract = false := by
  simp [isConcreteData]

/-- Concrete data becomes a model class. -/
theorem isModel_of_isConcreteData
    {entity : Entity}
    (concrete : entity.isConcreteData = true) :
    entity.isModel = true := by
  obtain ⟨kind, notAbstract⟩ := isConcreteData_iff.1 concrete
  simp [isModel, kind, notAbstract]

end Entity

end Manifest
end Scaffold
