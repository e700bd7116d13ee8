import Scaffold.Manifest.Resolution

/-!
# Eligible requests

Which requests become handlers, and why the other entities do not.  A request needs a method that
exists and a response that names concrete data; abstract requests and entities of another kind are
left out on purpose.
-/

namespace Scaffold
namespace Manifest

/-- Why an entity becomes no handler. -/
inductive SkipReason where
  | notARequest
  | abstract
  | unresolvedMethod (text : Option String)
  | unresolvedResponse (text : Option String)
  deriving DecidableEq

namespace SkipReason

/-- Whether the entity looks like a request that was meant to become a handler. -/
def isMalformed : SkipReason → Bool
  | unresolvedMethod _ => true
  | unresolvedResponse _ => true
  | _ => false

/-- The explanation given to the reader. -/
def message : SkipReason → String
  | notARequest => "not a request"
  | abstract => "abstract request"
  | unresolvedMethod none => "no HTTP method"
  | unresolvedMethod (some text) => HttpMethod.unrecognized text
  | unresolvedResponse none => "no response type"
  | unresolvedResponse (some text) =>
      "response '" ++ text ++ "' does not name a concrete data entity"

end SkipReason

/-- A request that becomes a handler, with its method and its response resolved. -/
structure Handler where
  request : Declaration
  method : HttpMethod
  response : Declaration

namespace Project

/-- The response of a request, if it names concrete data. -/
def response?
    (project : Project)
    (request : Declaration) : Option Declaration :=
  match request.entity.response with
  | none => none
  | some reference =>
      match project.resolve? request.module reference with
      | some found => if found.entity.isConcreteData then some found else none
      | none => none

/-- Decides whether an entity becomes a handler. -/
def classify
    (project : Project)
    (d : Declaration) : Except SkipReason Handler :=
  if d.entity.kind ≠ .request then .error .notARequest
  else if d.entity.isAbstract then .error .abstract
  else
    match d.entity.httpMethod? with
    | none => .error (.unresolvedMethod d.entity.method)
    | some method =>
        match project.response? d with
        | none => .error (.unresolvedResponse d.entity.response)
        | some response => .ok ⟨d, method, response⟩

/-- The entities that a module declares, in order. -/
def declarationsIn
    (project : Project)
    (module : String) : List Declaration :=
  match project.modules.get? module with
  | none => []
  | some m => declarationsOf (module, m)

/-- The handlers of a module, in order. -/
def handlers
    (project : Project)
    (module : String) : List Handler :=
  (project.declarationsIn module).filterMap fun d =>
    match project.classify d with
    | .ok handler => some handler
    | .error _ => none

/-- The entities of a module that become no handler, with the reasons, in order. -/
def skipped
    (project : Project)
    (module : String) : List (String × SkipReason) :=
  (project.declarationsIn module).filterMap fun d =>
    match project.classify d with
    | .ok _ => none
    | .error reason => some (d.name, reason)

end Project

end Manifest
end Scaffold
