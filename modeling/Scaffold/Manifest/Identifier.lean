import Scaffold.Text.Pieces

/-!
# Identifiers and packages

Which names of a manifest can become names in the generated code, and why the others cannot.  A name
may hold hyphens, since it changes case before it is written; a package is taken as it stands.
-/

namespace Scaffold
namespace Manifest

open Text

/-- The words that the generated language keeps for itself. -/
def keywords : List String :=
  ["abstract", "assert", "boolean", "break", "byte", "case", "catch", "char", "class", "const",
   "continue", "default", "do", "double", "else", "enum", "extends", "final", "finally", "float",
   "for", "goto", "if", "implements", "import", "instanceof", "int", "interface", "long",
   "native", "new", "package", "private", "protected", "public", "return", "short", "static",
   "strictfp", "super", "switch", "synchronized", "this", "throw", "throws", "transient", "try",
   "void", "volatile", "while", "true", "false", "null", "_"]

/-- Whether a word is kept by the generated language. -/
def isKeyword (word : String) : Bool :=
  keywords.contains word

/-- What keeps a name from becoming an identifier. -/
inductive NameFlaw where
  | empty
  | badStart (c : Char)
  | badRest (c : Char)
  deriving DecidableEq

namespace NameFlaw

/-- The explanation given to the reader. -/
def message : NameFlaw → String
  | empty => "name cannot be empty"
  | badStart c => "name cannot start with '" ++ c.toString ++ "'"
  | badRest c => "'" ++ c.toString ++ "' is not allowed in a name"

end NameFlaw

/-- The characters that a name may go on with. -/
def isNameRest (c : Char) : Bool :=
  isIdentifierRest c || c == '-'

/-- The first flaw of a name. -/
def nameFlaw? (name : String) : Option NameFlaw :=
  match name.toList with
  | [] => some .empty
  | c :: rest =>
      if !isIdentifierStart c then some (.badStart c)
      else (rest.find? (!isNameRest ·)).map .badRest

/-- What keeps a text from being a package. -/
inductive PackageFlaw where
  | empty
  | emptySegment
  | keyword (segment : String)
  | malformed (segment : String)
  deriving DecidableEq

namespace PackageFlaw

/-- The explanation given to the reader. -/
def message : PackageFlaw → String
  | empty => "package cannot be empty"
  | emptySegment => "package segments cannot be empty"
  | keyword segment => "'" ++ segment ++ "' is a Java keyword"
  | malformed segment => "'" ++ segment ++ "' is not a valid package segment"

end PackageFlaw

/-- Whether a text is an identifier as it stands. -/
def isPlainIdentifier (cs : List Char) : Bool :=
  match cs with
  | [] => false
  | c :: rest => isIdentifierStart c && rest.all isIdentifierRest

/-- The flaw of one segment of a package. -/
def segmentFlaw? (segment : String) : Option PackageFlaw :=
  if segment = "" then some .emptySegment
  else if isKeyword segment then some (.keyword segment)
  else if isPlainIdentifier segment.toList then none
  else some (.malformed segment)

/-- The first flaw of a package. -/
def packageFlaw? (package : String) : Option PackageFlaw :=
  if package = "" then some .empty else (pieces '.' package).findSome? segmentFlaw?

end Manifest
end Scaffold
