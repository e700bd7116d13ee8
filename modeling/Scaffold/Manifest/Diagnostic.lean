import Scaffold.Manifest.Validation

/-!
# Diagnostics

What the reader of a manifest is told about a violation: a message, a code, a help text and, where
the cause can be found in the source text, a label on that place.

The source is searched for the text that names the cause; nothing remembers positions while the
manifest is read.
-/

namespace Scaffold
namespace Manifest

open Text

/-- A manifest text and the name under which it is reported. -/
structure Source where
  text : String
  name : String

/-- A range of bytes of a source. -/
structure Span where
  offset : Nat
  length : Nat
  deriving DecidableEq

namespace Source

/-- The first occurrence of a literal. -/
def spanOf?
    (source : Source)
    (literal : String) : Option Span :=
  (offset? literal.toList source.text.toList).map fun at0 =>
    ⟨at0, byteLength literal.toList⟩

/-- The texts that a name may stand in, most telling first: headers, keys and quoted values. -/
def namePatterns (name : List Char) : List (Nat × List Char) :=
  let quoteAhead := fun cs : List Char => if cs.head? = some '"' then 1 else 0
  [(1, ['.'] ++ name ++ [']']),
   (1, ['.'] ++ name ++ ['.']),
   (quoteAhead (name ++ [' ', '=']), name ++ [' ', '=']),
   (1, ['"'] ++ name ++ ['"'])]

/-- The first occurrence of a name in one of its patterns. -/
def spanOfName?
    (source : Source)
    (name : String) : Option Span :=
  (namePatterns name.toList).findSome? fun (ahead, pattern) =>
    (offset? pattern source.text.toList).map fun at0 =>
      ⟨at0 + ahead, byteLength name.toList⟩

end Source

namespace NameUse

/-- The place of a used name in the source. -/
def span?
    (use : NameUse)
    (source : Source) : Option Span :=
  if use.inBraces then source.spanOf? ("\x7b" ++ use.name ++ "\x7d")
  else source.spanOfName? use.name

/-- The description of a used name. -/
def context (use : NameUse) : String :=
  describe use.kind use.around

end NameUse

namespace Violation

/-- The message of a violation. -/
def message : Violation → String
  | missingName => "project name is missing"
  | badPackage package _ => "invalid package '" ++ package ++ "'"
  | badIndent width =>
      "indent must be between 1 and 8 spaces, got " ++ decimal width.toNat
  | badName use _ => "invalid " ++ use.context ++ " name '" ++ use.name ++ "'"
  | reservedName _ spelling => "'" ++ spelling ++ "' is a Java reserved keyword"
  | repeatedVariable use =>
      "path variable '" ++ use.name ++ "' appears more than once in '" ++
        NameUse.place use.around ++ "'"
  | duplicateModel className firstModule firstName secondModule secondName =>
      "model class '" ++ className ++ "' is declared by both '" ++ firstModule ++ "." ++
        firstName ++ "' and '" ++ secondModule ++ "." ++ secondName ++ "'"

/-- The code under which a violation is documented. -/
def code : Violation → String
  | missingName => "javelin::missing_name"
  | badPackage .. => "javelin::invalid_package"
  | badIndent _ => "javelin::validation_error"
  | badName .. => "javelin::invalid_identifier"
  | reservedName .. => "javelin::reserved_keyword"
  | repeatedVariable _ => "javelin::validation_error"
  | duplicateModel .. => "javelin::duplicate_model"

/-- The advice that comes with a violation. -/
def help? : Violation → Option String
  | missingName => some "add \x60name = \"my-service\"\x60 under the [project] table"
  | badPackage _ flaw =>
      some (flaw.message ++
        ". Packages are dot-separated Java identifiers, e.g. 'com.example.shop'")
  | badIndent _ => none
  | badName _ flaw =>
      some (flaw.message ++
        ". Use only letters, digits, '_' and '-', starting with a letter or underscore.")
  | reservedName use spelling =>
      some ("rename the " ++ use.context ++ " '" ++ spelling ++ "' to something else")
  | repeatedVariable _ => none
  | duplicateModel .. =>
      some "all models share one package; rename one of the entities"

/-- The text of the label on the source. -/
def label : Violation → String
  | missingName => "project declared here"
  | badPackage .. => "invalid package"
  | badName .. => "invalid identifier"
  | reservedName .. => "reserved keyword used here"
  | duplicateModel .. => "second declaration"
  | other => other.message

/-- The place of the cause in the source. -/
def span?
    (source : Source) : Violation → Option Span
  | missingName => source.spanOf? "[project]"
  | badPackage package _ => source.spanOf? package
  | badIndent _ => source.spanOf? "indent"
  | badName use _ => use.span? source
  | reservedName use _ => use.span? source
  | repeatedVariable use => use.span? source
  | duplicateModel _ _ _ module name =>
      source.spanOf? ("modules." ++ module ++ ".entities." ++ name)

end Violation

end Manifest
end Scaffold
