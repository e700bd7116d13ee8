import Scaffold.Code.Builder
import Scaffold.Failure
import Scaffold.Manifest.Project

/-!
# Demo data

What may fill the body of a handler instead of a placeholder: operations that end in a `return`, and
the model classes that they mention by simple name.
-/

namespace Scaffold
namespace Java

open Code (Operation)
open Manifest (Project)

/-- A way to fill handler bodies for a response as it is referenced from a module. -/
structure DemoData where
  body : Project → (module response : String) → List (Operation Failure Empty)
  models : Project → (module response : String) → List String

namespace DemoData

/-- The same lines for every response, and then, if asked for, a failure that names the response. -/
def fixed
    (lines : List String)
    (failure : Option String) : DemoData where
  body _ module response :=
    Operation.each lines ++
      (failure.map fun text =>
        Operation.fail (.other (text ++ " " ++ module ++ "." ++ response))).toList
  models _ _ _ := []

end DemoData

end Java
end Scaffold
