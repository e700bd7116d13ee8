import Mathlib.Data.List.Sort
import Scaffold.Proofs.Java.Layout
import Scaffold.Proofs.Naming.Marks

/-!
# The members of model classes

The class of a data entity holds one line for each field, then a getter and a setter for each field, in
the order of the fields and with nothing else in between.  Each of these texts is one line, whatever the
fields are named and refer to.  A class refers to other model classes without importing them, since they
are in its own package; all that it may import is the class of lists.
-/

namespace Scaffold

open Text

namespace Java

open Code (Builder Emission Fragment Line Operation)
open Manifest (FieldType)

namespace TypeName

variable {modelPackage name : String}

/-- Whether a list is in a type; all that a type can be inside of is a list. -/
def containsList : FieldType → Bool
  | .list _ => true
  | _ => false

theorem noLineEnd_ofFieldIn
    (boxed : Bool)
    (type : FieldType) :
    '\n' ∉ (ofFieldIn boxed type).toList := by
  induction type generalizing boxed with
  | list item ih => simp [ofFieldIn, ih]
  | ref reference => exact Naming.noLineEnd_pascal _
  | string => simp [ofFieldIn]
  | _ => cases boxed <;> simp [ofFieldIn]

/-- Beyond the package of model classes a type mentions the class of lists alone. -/
theorem mem_mentions_and_isNeeded_iff
    (needed : Imports.isNeeded modelPackage listClass = true)
    (type : FieldType) :
    name ∈ mentions modelPackage type ∧ Imports.isNeeded modelPackage name = true ↔
      name = listClass ∧ containsList type = true := by
  induction type with
  | list item ih =>
      constructor
      · rintro ⟨member, beyond⟩
        rcases List.mem_cons.1 member with rfl | inItem
        · exact ⟨rfl, rfl⟩
        · exact ⟨(ih.1 ⟨inItem, beyond⟩).1, rfl⟩
      · rintro ⟨rfl, -⟩
        exact ⟨List.mem_cons_self, needed⟩
  | ref reference =>
      have own : Imports.owner (Imports.qualified modelPackage (Naming.className reference)) =
          modelPackage := Imports.owner_qualified (Naming.noDot_className reference)
      constructor
      · rintro ⟨member, beyond⟩
        rw [List.mem_singleton.1 member] at beyond
        simp [Imports.isNeeded, own] at beyond
      · rintro ⟨-, contains⟩
        cases contains
  | _ => simp [mentions, containsList]

end TypeName

namespace ModelField

/-- The line that declares a field of a class. -/
def declarationLine (entry : String × FieldType) : Line :=
  ⟨"private " ++ TypeName.ofField entry.2 ++ " " ++ Naming.camel entry.1 ++ ";", 1⟩

/-- The lines of the getter and the setter of a field, each below a blank line. -/
def accessorLines (entry : String × FieldType) : List Line :=
  let name := Naming.camel entry.1
  let suffix := Naming.pascal entry.1
  let type := TypeName.ofField entry.2
  let verb := if entry.2 = .boolean then "is" else "get"
  [⟨"", 1⟩,
   ⟨"public " ++ type ++ " " ++ verb ++ suffix ++ "() \x7b", 1⟩,
   ⟨"return " ++ name ++ ";", 2⟩,
   ⟨"\x7d", 1⟩,
   ⟨"", 1⟩,
   ⟨"public void set" ++ suffix ++ "(" ++ type ++ " " ++ name ++ ") \x7b", 1⟩,
   ⟨"this." ++ name ++ " = " ++ name ++ ";", 2⟩,
   ⟨"\x7d", 1⟩]

/-- A field of which no part has a line end. -/
structure OneLine (f : ModelField) : Prop where
  name : '\n' ∉ f.name.toList
  accessor : '\n' ∉ f.accessor.toList
  type : '\n' ∉ f.type.toList

theorem oneLine_ofEntry (entry : String × FieldType) : (ofEntry entry).OneLine where
  name := Naming.noLineEnd_camel entry.1
  accessor := Naming.noLineEnd_pascal entry.1
  type := TypeName.noLineEnd_ofFieldIn false entry.2

namespace OneLine

variable {f : ModelField}

theorem declaration (h : f.OneLine) : IsLine f.declaration :=
  isLine_statement (by simp [h.type, h.name])

theorem getterHeader (h : f.OneLine) : '\n' ∉ f.getterHeader.toList := by
  unfold ModelField.getterHeader
  split
  · simp [h.type, h.accessor]
  · simp [h.type, h.accessor]

theorem setterHeader (h : f.OneLine) : '\n' ∉ f.setterHeader.toList := by
  unfold ModelField.setterHeader
  simp [h.type, h.accessor, h.name]

/-- What the accessors of a field emit, line by line. -/
theorem linesOf_accessors (h : f.OneLine) :
    Emission.linesOf 1 (Operation.emittedOf
        (Fragment.operationsOf f.accessors : List (Operation Failure Empty))) =
      [⟨"", 1⟩, ⟨f.getterHeader ++ " \x7b", 1⟩, ⟨"return " ++ f.name ++ ";", 2⟩, ⟨"\x7d", 1⟩,
       ⟨"", 1⟩, ⟨f.setterHeader ++ " \x7b", 1⟩, ⟨"this." ++ f.name ++ " = " ++ f.name ++ ";", 2⟩,
       ⟨"\x7d", 1⟩] := by
  have getter : Line.ofText (Builder.opening f.getterHeader) 1 = [⟨f.getterHeader ++ " \x7b", 1⟩] :=
    Line.ofText_opening (by simp [ModelField.getterHeader]) h.getterHeader 1
  have setter : Line.ofText (Builder.opening f.setterHeader) 1 = [⟨f.setterHeader ++ " \x7b", 1⟩] :=
    Line.ofText_opening (by unfold ModelField.setterHeader; simp) h.setterHeader 1
  have returns : Line.ofText ("return " ++ f.name ++ ";") 2 = [⟨"return " ++ f.name ++ ";", 2⟩] :=
    Line.ofText_of_isLine (isLine_statement (by simp [h.name])) 2
  have assigns : Line.ofText ("this." ++ f.name ++ " = " ++ f.name ++ ";") 2 =
      [⟨"this." ++ f.name ++ " = " ++ f.name ++ ";", 2⟩] :=
    Line.ofText_of_isLine (isLine_statement (by simp [h.name])) 2
  simp [accessors, Fragment.operationsOf, Fragment.operations, Operation.emittedOf,
    Operation.emitted, Operation.outcome, Operation.outcomeOf, Operation.blank,
    Emission.linesOf_cons 1 _ (_ :: _), Emission.linesOf_scope, Line.ofText_empty, getter, setter,
    returns, assigns, Code.Outcome.isCompleted, Builder.closing]

end OneLine

theorem linesOf_accessors_ofEntry (entry : String × FieldType) :
    Emission.linesOf 1 (Operation.emittedOf
        (Fragment.operationsOf (ofEntry entry).accessors : List (Operation Failure Empty))) =
      accessorLines entry := by
  have getter : (ofEntry entry).getterHeader ++ " \x7b" =
      "public " ++ TypeName.ofField entry.2 ++ " " ++ (if entry.2 = .boolean then "is" else "get") ++
        Naming.pascal entry.1 ++ "() \x7b" := by
    unfold getterHeader ofEntry
    simp [String.append_assoc]
  have setter : (ofEntry entry).setterHeader ++ " \x7b" =
      "public void set" ++ Naming.pascal entry.1 ++ "(" ++ TypeName.ofField entry.2 ++ " " ++
        Naming.camel entry.1 ++ ") \x7b" := by
    unfold setterHeader ofEntry
    simp [String.append_assoc]
  rw [(oneLine_ofEntry entry).linesOf_accessors, getter, setter]
  rfl

end ModelField

namespace Model

variable {m : Model}

/-- What a class may import is what its fields mention. -/
theorem mem_imports {name : String} :
    name ∈ m.imports.names ↔
      ∃ type ∈ m.entity.fields.values,
        name ∈ TypeName.mentions (packageOf m.basePackage) type := by
  have general : ∀ (types : List FieldType) (imports : Imports),
      name ∈ (types.foldl
          (fun imports type => TypeName.addImports (packageOf m.basePackage) type imports)
          imports).names ↔
        name ∈ imports.names ∨
          ∃ type ∈ types, name ∈ TypeName.mentions (packageOf m.basePackage) type := by
    intro types
    induction types with
    | nil => simp
    | cons type types ih =>
        intro imports
        rw [List.foldl_cons, ih, TypeName.addImports, NameSet.mem_names_insertAll, or_assoc,
          List.exists_mem_cons_iff]
  simpa [imports, NameSet.empty] using general m.entity.fields.values .empty

/-- The package of model classes is not that of lists. -/
theorem isNeeded_listClass (basePackage : String) :
    Imports.isNeeded (packageOf basePackage) TypeName.listClass = true := by
  have owner : Imports.owner TypeName.listClass = "java.util" := by decide
  have apart : "java.util" ≠ packageOf basePackage := by
    intro same
    have second := congrArg (fun s => s.toList.reverse[1]?) same
    simp [packageOf] at second
  simp [Imports.isNeeded, owner, apart, Imports.visiblePackage]

/-- The names that the class of a data entity imports. -/
def importedNames (m : Model) : List String :=
  if m.entity.fields.values.any TypeName.containsList then [TypeName.listClass] else []

theorem needed_classUnit (m : Model) : m.classUnit.needed = m.importedNames := by
  have ascending : m.importedNames.Pairwise (· < ·) := by
    unfold importedNames
    split <;> simp
  refine (m.imports.ascending.filter _).eq_of_mem_iff ascending fun name => ?_
  calc name ∈ m.imports.names.filter (Imports.isNeeded (packageOf m.basePackage))
      ↔ ∃ type ∈ m.entity.fields.values,
          name ∈ TypeName.mentions (packageOf m.basePackage) type ∧
            Imports.isNeeded (packageOf m.basePackage) name = true := by
        rw [List.mem_filter, mem_imports]
        exact ⟨fun ⟨⟨type, among, mentioned⟩, beyond⟩ => ⟨type, among, mentioned, beyond⟩,
          fun ⟨type, among, mentioned, beyond⟩ => ⟨⟨type, among, mentioned⟩, beyond⟩⟩
    _ ↔ ∃ type ∈ m.entity.fields.values,
          name = TypeName.listClass ∧ TypeName.containsList type = true := by
        simp only [TypeName.mem_mentions_and_isNeeded_iff (isNeeded_listClass m.basePackage)]
    _ ↔ name ∈ m.importedNames := by
        unfold importedNames
        split
        · next some =>
            obtain ⟨type, among, contains⟩ := List.any_eq_true.1 some
            exact ⟨fun ⟨_, _, same, _⟩ => List.mem_singleton.2 same,
              fun member => ⟨type, among, List.mem_singleton.1 member, contains⟩⟩
        · next none =>
            exact ⟨fun ⟨type, among, _, contains⟩ =>
                absurd (List.any_eq_true.2 ⟨type, among, contains⟩) none,
              fun member => nomatch member⟩

/-- The lines of the members of a class. -/
theorem linesOf_classUnit (m : Model) :
    Emission.linesOf 1 (Operation.emittedOf m.classUnit.body) =
      m.entity.fields.entries.map ModelField.declarationLine ++
        m.entity.fields.entries.flatMap ModelField.accessorLines := by
  have declarations : (m.fields.map ModelField.declaration).flatMap (Line.ofText · 1) =
      m.entity.fields.entries.map ModelField.declarationLine := by
    rw [fields, List.map_map, List.flatMap_map, List.map_eq_flatMap]
    exact List.flatMap_congr fun entry _ =>
      Line.ofText_of_isLine (ModelField.oneLine_ofEntry entry).declaration 1
  have accessors : ∀ entries : List (String × FieldType),
      Emission.linesOf 1 (Operation.emittedOf
          ((entries.map ModelField.ofEntry).flatMap fun field =>
            (Fragment.operationsOf field.accessors : List (Operation Failure Empty)))) =
        entries.flatMap ModelField.accessorLines := by
    intro entries
    induction entries with
    | nil => simp [Operation.emittedOf]
    | cons entry entries ih =>
        rw [List.map_cons, List.flatMap_cons,
          Operation.emittedOf_append (Fragment.completed_operationsOf _), Emission.linesOf_append,
          ModelField.linesOf_accessors_ofEntry, ih, List.flatMap_cons]
  have body : m.classUnit.body =
      Operation.each (m.fields.map ModelField.declaration) ++
        m.fields.flatMap fun field => Fragment.operationsOf field.accessors := rfl
  rw [body, Operation.emittedOf_append (Operation.completed_each _), Emission.linesOf_append,
    CompilationUnit.linesOf_each_eq_flatMap, declarations, fields, accessors]

/-- The lines above the class of a data entity. -/
theorem textsAbove_classUnit (m : Model) :
    m.classUnit.textsAbove.flatMap lines =
      lines ("package " ++ packageOf m.basePackage ++ ";") ++ [""] ++
        (if m.entity.fields.values.any TypeName.containsList then
          ["import java.util.List;", ""] else []) := by
  have statement : lines (importStatement TypeName.listClass) = ["import java.util.List;"] := by
    decide
  rw [CompilationUnit.textsAbove, needed_classUnit, importedNames]
  split <;> simp [CompilationUnit.importTexts, classUnit, isLine_empty.lines_eq, statement]

/-- The lines of a heading open the class of a data entity. -/
theorem lines_opening_classUnit (m : Model) :
    lines (Builder.opening m.classUnit.declaration) = (m.heading "class" (.inl rfl)).lines := by
  rw [classUnit, m.declaration_eq (.inl rfl)]
  exact Heading.lines_opening_declaration _ (Naming.noLineEnd_pascal _)

/--
The class of a data entity holds a private field for each field of the entity, and then a getter and a
setter for each of them, each below a blank line and all with one type, in the order of the fields.  A
getter is named for a question exactly when the type is boolean.  The file imports the class of lists when
some field has a list in its type and nothing else, whatever the fields refer to.
-/
theorem class_holds_members_in_order
    (m : Model)
    (kind : m.entity.kind = .data) :
    ∃ text, m.artifact.render = .ok text ∧
      pieces '\n' text =
        lines ("package " ++ packageOf m.basePackage ++ ";") ++ [""] ++
          (if m.entity.fields.values.any TypeName.containsList then
            ["import java.util.List;", ""] else []) ++
          (m.heading "class" (.inl rfl)).lines ++
          (m.entity.fields.entries.map ModelField.declarationLine ++
            m.entity.fields.entries.flatMap ModelField.accessorLines).map (Line.render m.indent) ++
          ["\x7d"] := by
  obtain ⟨text, rendered, whole⟩ := exists_render_classArtifact m.className m.completed_classUnit
  have source : m.artifact = classArtifact m.className m.classUnit := by simp [artifact, kind]
  refine ⟨text, source ▸ whole, ?_⟩
  rw [CompilationUnit.pieces_of_render rendered, textsAbove_classUnit, lines_opening_classUnit,
    linesOf_classUnit]
  rfl

/-- A class with a list of lists, a reference to another module and a boolean. -/
def leash : Model where
  basePackage := "com.example"
  name := "dog_leash"
  entity :=
    { kind := .data
      fields := ⟨[("old-owners", .list (.list (.ref "people.Owner"))), ("red", .boolean)], by decide⟩ }
  indent := .spaces 2

theorem leash_holds_its_members :
    leash.entity.kind = .data ∧ ∃ text, leash.artifact.render = .ok text ∧
      pieces '\n' text =
        ["package com.example.model;", "", "import java.util.List;", "",
         "public class DogLeash \x7b",
         "  private List<List<Owner>> oldOwners;",
         "  private boolean red;",
         "",
         "  public List<List<Owner>> getOldOwners() \x7b",
         "    return oldOwners;",
         "  \x7d",
         "",
         "  public void setOldOwners(List<List<Owner>> oldOwners) \x7b",
         "    this.oldOwners = oldOwners;",
         "  \x7d",
         "",
         "  public boolean isRed() \x7b",
         "    return red;",
         "  \x7d",
         "",
         "  public void setRed(boolean red) \x7b",
         "    this.red = red;",
         "  \x7d",
         "\x7d"] := by
  obtain ⟨text, rendered, whole⟩ := class_holds_members_in_order leash rfl
  exact ⟨rfl, text, rendered, whole.trans (by decide +kernel)⟩

end Model

end Java
end Scaffold
