import Scaffold.Text.Pieces

/-!
# HTTP methods

The five methods that a handler can answer.  A manifest may write them in any ASCII case and with
blanks around them.
-/

namespace Scaffold
namespace Manifest

open Text

/-- A method that a handler answers. -/
inductive HttpMethod where
  | get
  | post
  | put
  | delete
  | patch
  deriving DecidableEq

namespace HttpMethod

/-- All methods. -/
def all : List HttpMethod := [get, post, put, delete, patch]

/-- The word for a method. -/
def label : HttpMethod → String
  | get => "GET"
  | post => "POST"
  | put => "PUT"
  | delete => "DELETE"
  | patch => "PATCH"

/-- Whether requests with this method carry a body. -/
def hasBody : HttpMethod → Bool
  | post => true
  | put => true
  | patch => true
  | _ => false

/-- The method that a text names. -/
def read? (text : String) : Option HttpMethod :=
  let word := String.ofList ((trimList text.toList).map Char.toUpper)
  all.find? fun method => method.label = word

/-- The explanation given for a text that names no method. -/
def unrecognized (text : String) : String :=
  "unrecognized HTTP method '" ++ text ++ "'"

end HttpMethod

end Manifest
end Scaffold
