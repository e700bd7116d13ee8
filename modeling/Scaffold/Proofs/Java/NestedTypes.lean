import Scaffold.Java.TypeName

/-!
# Nested types

A field type is a type that is no list, inside of some lists.  Its Java type is that inner type behind
as many opening brackets, and it is a primitive only where there is none of these.

A type can be written in one pass that records what it mentions on the way.  Such a pass is made of two
functions that call each other, one for a type on its own and one for a type in a generic position.  They
record the class of lists if there is a list, the class of the entity if the inner type is a reference,
and nothing else.
-/

namespace Scaffold

namespace Manifest.FieldType

/-- The number of lists that a type is made of. -/
def levels : FieldType → Nat
  | .list item => levels item + 1
  | _ => 0

/-- The type inside of all lists. -/
def innermost : FieldType → FieldType
  | .list item => innermost item
  | type => type

end Manifest.FieldType

namespace Java

open Manifest (FieldType)

namespace TypeName

/-- A type inside of some lists. -/
def inLists
    (levels : Nat)
    (inner : String) : String :=
  String.join (List.replicate levels "List<") ++ inner ++ String.join (List.replicate levels ">")

/-- The types that have a primitive besides the class that boxes it. -/
inductive IsPrimitive : FieldType → String → String → Prop
  | int : IsPrimitive .int "int" "Integer"
  | long : IsPrimitive .long "long" "Long"
  | double : IsPrimitive .double "double" "Double"
  | float : IsPrimitive .float "float" "Float"
  | boolean : IsPrimitive .boolean "boolean" "Boolean"

/-- How a type that is no list is written, on its own and in a generic position. -/
inductive IsWritten : FieldType → String → String → Prop
  | primitive
      {type : FieldType}
      {own boxed : String}
      (names : IsPrimitive type own boxed) :
      IsWritten type own boxed
  | string : IsWritten .string "String" "String"
  | ref
      {reference : String} :
      IsWritten (.ref reference) (Naming.className reference) (Naming.className reference)

mutual

/-- Writes a type and records what it mentions. -/
def write
    (modelPackage : String)
    (imports : Imports) : FieldType → String × Imports
  | .string => ("String", imports)
  | .int => ("int", imports)
  | .long => ("long", imports)
  | .double => ("double", imports)
  | .float => ("float", imports)
  | .boolean => ("boolean", imports)
  | .list item =>
      let (text, after) := writeBoxed modelPackage (imports.insert listClass) item
      ("List<" ++ text ++ ">", after)
  | .ref reference =>
      let className := Naming.className reference
      (className, imports.insert (Imports.qualified modelPackage className))
termination_by type => (type, 0)

/-- Writes a type in a generic position and records what it mentions. -/
def writeBoxed
    (modelPackage : String)
    (imports : Imports) : FieldType → String × Imports
  | .int => ("Integer", imports)
  | .long => ("Long", imports)
  | .double => ("Double", imports)
  | .float => ("Float", imports)
  | .boolean => ("Boolean", imports)
  | other => write modelPackage imports other
termination_by type => (type, 1)

end

section Passes

variable {modelPackage name own boxed : String} {type : FieldType}

/-- One pass writes a type and adds what it mentions, on its own and in a generic position. -/
theorem write_and_writeBoxed_eq
    (modelPackage : String)
    (type : FieldType)
    (imports : Imports) :
    write modelPackage imports type = (ofField type, addImports modelPackage type imports) ∧
      writeBoxed modelPackage imports type =
        (boxedOfField type, addImports modelPackage type imports) := by
  induction type generalizing imports with
  | list item ih =>
      have inner := (ih (imports.insert listClass)).2
      have alone : write modelPackage imports (.list item) =
          (ofField (.list item), addImports modelPackage (.list item) imports) := by
        rw [write, inner]
        rfl
      refine ⟨alone, ?_⟩
      rw [writeBoxed, alone]
      · rfl
      all_goals nofun
  | _ =>
      simp only [write, writeBoxed]
      exact ⟨rfl, rfl⟩

theorem exists_isWritten_innermost (type : FieldType) :
    ∃ own boxed, IsWritten type.innermost own boxed := by
  induction type with
  | list item ih => exact ih
  | string => exact ⟨_, _, .string⟩
  | ref reference => exact ⟨_, _, .ref⟩
  | int => exact ⟨_, _, .primitive .int⟩
  | long => exact ⟨_, _, .primitive .long⟩
  | double => exact ⟨_, _, .primitive .double⟩
  | float => exact ⟨_, _, .primitive .float⟩
  | boolean => exact ⟨_, _, .primitive .boolean⟩

/-- What a type that is no list is written as. -/
theorem IsWritten.texts
    (written : IsWritten type own boxed) :
    ofField type = own ∧ boxedOfField type = boxed := by
  cases written with
  | primitive names => cases names <;> exact ⟨rfl, rfl⟩
  | string => exact ⟨rfl, rfl⟩
  | ref => exact ⟨rfl, rfl⟩

theorem inLists_zero (inner : String) : inLists 0 inner = inner := by
  simp [inLists]

theorem inLists_succ
    (levels : Nat)
    (inner : String) :
    inLists (levels + 1) inner = "List<" ++ inLists levels inner ++ ">" := by
  have closing : String.join (List.replicate (levels + 1) ">") =
      String.join (List.replicate levels ">") ++ ">" := by
    rw [List.replicate_succ', String.join_append]
    simp
  rw [inLists, closing, List.replicate_succ, String.join_cons]
  simp [inLists, String.append_assoc]

/-- In a generic position a type is written with boxed names only. -/
theorem boxedOfField_eq
    (written : IsWritten type.innermost own boxed) :
    boxedOfField type = inLists type.levels boxed := by
  induction type with
  | list item ih =>
      have inner : boxedOfField item = inLists item.levels boxed := ih written
      rw [FieldType.levels, inLists_succ, ← inner]
      rfl
  | _ => exact written.texts.2.trans (inLists_zero boxed).symm

/-- On its own a type is written with its primitive if it is no list. -/
theorem ofField_eq
    (written : IsWritten type.innermost own boxed) :
    ofField type = inLists type.levels (if type.levels = 0 then own else boxed) := by
  cases type with
  | list item =>
      have inner : boxedOfField item = inLists item.levels boxed := boxedOfField_eq written
      rw [FieldType.levels, if_neg (Nat.succ_ne_zero _), inLists_succ, ← inner]
      rfl
  | _ => exact written.texts.1.trans (inLists_zero own).symm

/-- A type mentions the class of lists if it has one, and the class of the entity that it refers to. -/
theorem mem_mentions_iff :
    name ∈ mentions modelPackage type ↔
      (0 < type.levels ∧ name = listClass) ∨
        ∃ reference, type.innermost = .ref reference ∧
          name = Imports.qualified modelPackage (Naming.className reference) := by
  induction type with
  | list item ih =>
      rw [mentions, List.mem_cons, ih]
      simp only [FieldType.levels, FieldType.innermost, Nat.succ_pos, true_and]
      constructor
      · rintro (isList | ⟨-, isList⟩ | refers)
        · exact .inl isList
        · exact .inl isList
        · exact .inr refers
      · rintro (isList | refers)
        · exact .inl isList
        · exact .inr (.inr refers)
  | _ => simp [mentions, FieldType.levels, FieldType.innermost]

/-- What has no primitive is written in one way. -/
theorem boxedOfField_eq_ofField
    (noPrimitive : ∀ own boxed, ¬ IsPrimitive type own boxed) :
    boxedOfField type = ofField type := by
  obtain ⟨own, boxed, written⟩ := exists_isWritten_innermost type
  rw [boxedOfField_eq written, ofField_eq written]
  cases type with
  | list item => rw [FieldType.levels, if_neg (Nat.succ_ne_zero _)]
  | _ =>
      cases written with
      | primitive names => exact absurd names (noPrimitive _ _)
      | _ => rfl

/--
Writing a type gives as many opening brackets as it has lists, then its innermost type and as many closing
brackets.  The innermost type is boxed if there is a list, or if the whole type stands in a generic
position; a type without a primitive is written alike in both positions.  The names that are recorded are
those from before, the class of lists exactly if there is a list, the class of the entity exactly if the
innermost type is a reference, and no others.
-/
theorem primitives_stand_outside_of_lists
    (modelPackage : String)
    (imports : Imports)
    (type : FieldType) :
    let alone := write modelPackage imports type
    let generic := writeBoxed modelPackage imports type
    alone = (ofField type, addImports modelPackage type imports) ∧
      generic = (boxedOfField type, addImports modelPackage type imports) ∧
      (∃ own boxed, IsWritten type.innermost own boxed ∧
        alone.1 = inLists type.levels (if type.levels = 0 then own else boxed) ∧
        generic.1 = inLists type.levels boxed) ∧
      ((∀ own boxed, ¬ IsPrimitive type own boxed) → generic.1 = alone.1) ∧
      generic.2 = alone.2 ∧
      ∀ name, name ∈ alone.2.names ↔
        name ∈ imports.names ∨ (0 < type.levels ∧ name = "java.util.List") ∨
          ∃ reference, type.innermost = .ref reference ∧
            name = modelPackage ++ "." ++ Naming.className reference := by
  intro alone generic
  obtain ⟨first, second⟩ := write_and_writeBoxed_eq modelPackage type imports
  have first : alone = (ofField type, addImports modelPackage type imports) := first
  have second : generic = (boxedOfField type, addImports modelPackage type imports) := second
  rw [first, second]
  refine ⟨rfl, rfl, ?_, boxedOfField_eq_ofField, rfl, fun name => ?_⟩
  · obtain ⟨own, boxed, written⟩ := exists_isWritten_innermost type
    exact ⟨own, boxed, written, ofField_eq written, boxedOfField_eq written⟩
  · rw [addImports, NameSet.mem_names_insertAll, mem_mentions_iff]
    rfl

/-- A list of lists of numbers boxes them, and a reference in a list brings two imports. -/
example :
    ofField (.list (.list .long)) = "List<List<Long>>" ∧ ofField .long = "long" ∧
      (addImports "app.model" (.list (.ref "pets.pet_owner")) .empty).names =
        ["app.model.PetOwner", "java.util.List"] := by
  decide +kernel

end Passes

end TypeName

end Java
end Scaffold
