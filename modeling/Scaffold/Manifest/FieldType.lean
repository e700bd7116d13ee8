import Scaffold.Text.Pieces

/-!
# Field types

The type of a field is a basic type, a list of some type or a reference to an entity.  It is written
as a word, or as `list<…>` around a type, with blanks allowed around every type.
-/

namespace Scaffold
namespace Manifest

open Text

/-- The type of a field. -/
inductive FieldType where
  | string
  | int
  | long
  | double
  | float
  | boolean
  | list (item : FieldType)
  | ref (name : String)
  deriving DecidableEq

namespace FieldType

/-- Why a text is no field type. -/
inductive Fault where
  | empty
  | invalid (text : String)
  deriving DecidableEq

namespace Fault

/-- The explanation given to the reader. -/
def message : Fault → String
  | empty => "empty field type"
  | invalid text =>
      "invalid field type '" ++ text ++
        "', expected string, int, long, double, float, boolean, list<T> or an entity name"

end Fault

/-- The normal form in which a type is written. -/
def render : FieldType → String
  | string => "string"
  | int => "int"
  | long => "long"
  | double => "double"
  | float => "float"
  | boolean => "boolean"
  | list item => "list<" ++ item.render ++ ">"
  | ref name => name

/-- The characters of a word. -/
def isWordChar (c : Char) : Bool :=
  c.isAlphanum || c == '_' || c == '.'

/-- The words for basic types. -/
def basicTypes : List (String × FieldType) :=
  [("string", string), ("int", int), ("integer", int), ("long", long), ("double", double),
   ("float", float), ("bool", boolean), ("boolean", boolean)]

/-- The type that a text without blanks around it stands for, when it is no list. -/
def ofWord (word : List Char) : Except Fault FieldType :=
  match basicTypes.lookup (String.ofList word) with
  | some type => .ok type
  | none =>
      if word = [] then .error .empty
      else if word.all isWordChar then .ok (ref (String.ofList word))
      else .error (.invalid (String.ofList word))

/-- The text in front of the closing bracket at its end. -/
def beforeBracket? (cs : List Char) : Option (List Char) :=
  if cs.getLast? = some '>' then some cs.dropLast else none

/-- What stands inside the angle brackets of a list type. -/
def itemText? : List Char → Option (List Char)
  | 'l' :: 'i' :: 's' :: 't' :: '<' :: rest => beforeBracket? rest
  | 'L' :: 'i' :: 's' :: 't' :: '<' :: rest => beforeBracket? rest
  | _ => none

/-- What precedes a bracket is no longer than the text. -/
theorem length_le_of_beforeBracket
    {text front : List Char}
    (h : beforeBracket? text = some front) :
    front.length ≤ text.length := by
  unfold beforeBracket? at h
  split at h
  · cases h
    simp
  · cases h

/-- The item of a list type is shorter than the list type. -/
theorem length_lt_of_itemText
    {text item : List Char}
    (h : itemText? text = some item) :
    item.length < text.length := by
  unfold itemText? at h
  split at h
  · have bound := length_le_of_beforeBracket h
    simp
    omega
  · have bound := length_le_of_beforeBracket h
    simp
    omega
  · cases h

/-- Trimming makes no text longer. -/
theorem length_trimList_le (cs : List Char) :
    (trimList cs).length ≤ cs.length := by
  have outer := (List.dropWhile_sublist isBlank (l := (cs.dropWhile isBlank).reverse)).length_le
  have inner := (List.dropWhile_sublist isBlank (l := cs)).length_le
  simp [trimList] at outer ⊢
  omega

/-- Reads a field type. -/
def readList (cs : List Char) : Except Fault FieldType :=
  match _found : itemText? (trimList cs) with
  | some item =>
      match readList item with
      | .ok type => .ok (list type)
      | .error fault => .error fault
  | none => ofWord (trimList cs)
termination_by cs.length
decreasing_by
  have shorter := length_lt_of_itemText _found
  have trimmed := length_trimList_le cs
  omega

/-- Reads a field type. -/
def read (text : String) : Except Fault FieldType :=
  readList text.toList

end FieldType

end Manifest
end Scaffold
