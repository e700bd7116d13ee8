import Scaffold.Java.CompilationUnit
import Scaffold.Java.DemoData
import Scaffold.Java.Model
import Scaffold.Manifest.Eligibility

/-!
# Controllers

The handlers of a module form one class.  Each handler has the mapping annotation of its method, a
parameter for each path variable and one for the body where there is one, and a body of demo data or
a placeholder.
-/

namespace Scaffold
namespace Java

open Code (Indent Operation)
open Manifest (Handler HttpMethod Project)
open Text

/-- The controller of a module. -/
structure Controller where
  project : Project
  module : String
  handlers : List Handler
  demoData : Option DemoData := none
  indent : Indent := .standard

namespace Controller

/-- The package of the annotations of handlers. -/
def webPackage : String := "org.springframework.web.bind.annotation"

/-- The body of a handler without demo data. -/
def placeholder : String :=
  "throw new UnsupportedOperationException(\"Not yet implemented\");"

/-- The annotation of handlers that answer a method. -/
def mapping : HttpMethod → String
  | .get => "GetMapping"
  | .post => "PostMapping"
  | .put => "PutMapping"
  | .delete => "DeleteMapping"
  | .patch => "PatchMapping"

/-- The name of the class. -/
def className (c : Controller) : String :=
  Naming.pascal c.module ++ c.project.options.controllerSuffix

/-- The package of the class. -/
def package (c : Controller) : String :=
  c.project.settings.package ++ ".controller"

/-- The package of the model classes that handlers return. -/
def modelPackage (c : Controller) : String :=
  Model.packageOf c.project.settings.package

/-- Whether a handler takes a request body. -/
def takesBody (h : Handler) : Bool :=
  h.method.hasBody && !h.request.entity.fields.entries.isEmpty

/-- The parameters of a handler. -/
def parameters (h : Handler) : List String :=
  (h.request.entity.pathVariables.map fun name =>
    "@PathVariable(\"" ++ name ++ "\") String " ++ Naming.camel name) ++
    (if takesBody h then ["@RequestBody Map<String, Object> body"] else [])

/-- The class that a handler returns. -/
def responseClass (h : Handler) : String :=
  Naming.className h.response.name

/-- The line with the annotation of a handler. -/
def mappingLine (h : Handler) : String :=
  match h.request.entity.path with
  | some path => "@" ++ mapping h.method ++ "(\"" ++ path ++ "\")"
  | none => "@" ++ mapping h.method

/-- The header of a handler. -/
def header (h : Handler) : String :=
  "public " ++ responseClass h ++ " " ++ Naming.camel h.request.name ++ "(" ++
    String.intercalate ", " (parameters h) ++ ")"

/-- The body of a handler. -/
def handlerBody
    (c : Controller)
    (h : Handler) : List (Operation Failure Empty) :=
  match c.demoData with
  | some demoData => demoData.body c.project h.response.module h.response.name
  | none => [.line placeholder]

/-- A handler in the class. -/
def handlerOperations
    (c : Controller)
    (h : Handler) : List (Operation Failure Empty) :=
  (h.request.entity.description.map Operation.javadoc).toList ++
    [.line (mappingLine h), .scope (header h) (c.handlerBody h)]

/-- The qualified names that a handler mentions. -/
def handlerMentions
    (c : Controller)
    (h : Handler) : List String :=
  [Imports.qualified webPackage (mapping h.method),
   Imports.qualified c.modelPackage (responseClass h)] ++
    (h.request.entity.pathVariables.map fun _ => Imports.qualified webPackage "PathVariable") ++
    (if takesBody h then [Imports.qualified webPackage "RequestBody", "java.util.Map"] else []) ++
    (match c.demoData with
    | some demoData =>
        (demoData.models c.project h.response.module h.response.name).map
          (Imports.qualified c.modelPackage)
    | none => [])

/-- The handlers in the class, with a blank line between neighbours. -/
def body (c : Controller) : List Handler → List (Operation Failure Empty)
  | [] => []
  | [last] => c.handlerOperations last
  | h :: rest => c.handlerOperations h ++ .blank :: c.body rest

/-- The declaration of the class, below the description of the module. -/
def declaration (c : Controller) : String :=
  let head := "@RestController\npublic class " ++ c.className
  match (c.project.modules.get? c.module).bind (·.description) with
  | some description => "/** " ++ description ++ " */\n" ++ head
  | none => head

/-- The source file of the class. -/
def unit (c : Controller) : CompilationUnit Failure where
  package := c.package
  indent := c.indent
  imports := .ofList
    (Imports.qualified webPackage "RestController" :: c.handlers.flatMap c.handlerMentions)
  declaration := c.declaration
  body := c.body c.handlers

/-- The artifact with the class. -/
def artifact (c : Controller) : Artifact :=
  classArtifact c.className c.unit

end Controller

end Java
end Scaffold
