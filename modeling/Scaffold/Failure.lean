import Scaffold.Manifest.Entity
import Scaffold.Manifest.Identifier
import Scaffold.Path

/-!
# Failures

Why something cannot be generated, and how that is told: as a chain of causes from the outermost to
the innermost.  What the system says about a refused operation is its own text and not told here.
-/

namespace Scaffold

open Manifest (EntityKind PackageFlaw)

/-- Why something cannot be generated. -/
inductive Failure where
  | unknownResponse (response module : String)
  | unknownType (reference module : String)
  | requestAsField (reference : String)
  | notConstructible (name : String) (kind : EntityKind)
  | requestAsModel (name : String)
  | binaryAsText (path : Path)
  | unreadableTemplates (directory : Path)
  | unreadableTemplate (path : Path)
  | refusedBySystem
  | invalidPackage (package : String) (flaw : PackageFlaw)
  | other (message : String)
  | during (activity : String) (cause : Failure)

/-- One link of the chain that tells a failure. -/
inductive Cause where
  | message (text : String)
  | system
  deriving DecidableEq

namespace Failure

/-- The causes of a failure, outermost first. -/
def causes : Failure → List Cause
  | unknownResponse response module =>
      [.message ("unknown response type '" ++ response ++ "' in module '" ++ module ++ "'")]
  | unknownType reference module =>
      [.message ("unknown type '" ++ reference ++ "' referenced from module '" ++ module ++ "'")]
  | requestAsField reference =>
      [.message ("field type '" ++ reference ++ "' refers to a request entity")]
  | notConstructible name kind =>
      [.message ("cannot construct '" ++ name ++ "': it is a " ++ kind.label ++
        " entity, not a data entity")]
  | requestAsModel name => [.message ("'" ++ name ++ "' is a request, not a model")]
  | binaryAsText path => [.message ("'" ++ path.text ++ "' is a binary file")]
  | unreadableTemplates directory =>
      [.message ("failed to read template directory '" ++ directory.text ++ "'"), .system]
  | unreadableTemplate path =>
      [.message ("failed to read template '" ++ path.text ++ "'"), .system]
  | refusedBySystem => [.system]
  | invalidPackage package flaw =>
      [.message ("invalid package '" ++ package ++ "': " ++ flaw.message)]
  | other text => [.message text]
  | during activity cause => .message activity :: cause.causes

end Failure

end Scaffold
