import Scaffold.Proofs.Java.ModelMembers
import Scaffold.Proofs.Manifest.Classification

/-!
# The constants of enums

The enum of an enumeration declares the values of the manifest as they are written there, one on a line
and in their order.  The rules for names let a value have a hyphen, since the case of a name is changed
before it is emitted; but values are emitted unchanged.  So a constant is an identifier exactly when it
has no hyphen, and constants are distinct exactly when the written values are.
-/

namespace Scaffold

open Text

namespace Naming

open Manifest (ContinuesIdentifier ContinuesName IsIdentifier IsName)

section Written

variable {name : String}

theorem isBlank_eq_false_of_mem
    (h : IsName name)
    {c : Char}
    (member : c ∈ name.toList) :
    isBlank c = false := by
  have continues := continuesName_of_mem h member
  have solid : Manifest.isNameRest c = true → isBlank c = false :=
    of_forall_ofNat (P := fun c => Manifest.isNameRest c = true → isBlank c = false)
      (by decide +kernel) (toNat_lt_of_continuesName continues)
  exact solid (Manifest.isNameRest_iff.2 continues)

/-- A name is one line as it is written. -/
theorem isLine_of_isName (h : IsName name) : IsLine name where
  noLineEnd member := absurd (isBlank_eq_false_of_mem h member) (by decide)
  noReturn last := absurd (isBlank_eq_false_of_mem h (List.mem_of_getLast? last)) (by decide)

theorem ne_empty_of_isName (h : IsName name) : name ≠ "" := by
  rintro rfl
  obtain ⟨first, rest, shape, -⟩ := h
  cases shape

/-- A name is an identifier as it is written exactly when it has no hyphen. -/
theorem isIdentifier_iff_of_isName (h : IsName name) :
    IsIdentifier name ↔ '-' ∉ name.toList := by
  have hyphen : ¬ ContinuesIdentifier '-' := by
    unfold ContinuesIdentifier
    decide
  obtain ⟨first, rest, shape, starts, others⟩ := h
  have noHyphenFirst : first ≠ '-' := by
    rintro rfl
    exact hyphen (starts.imp_left fun letter => by simp [Char.isAlphanum, letter])
  constructor
  · rintro ⟨first', rest', shape', -, kept⟩ member
    obtain ⟨rfl, rfl⟩ := List.cons.inj (shape'.symm.trans shape)
    rw [shape] at member
    rcases List.mem_cons.1 member with same | later
    · exact noHyphenFirst same.symm
    · exact hyphen (kept _ later)
  · intro absent
    refine ⟨first, rest, shape, starts, fun c member => ?_⟩
    refine (others c member).resolve_right ?_
    rintro rfl
    exact absent (shape ▸ List.mem_cons_of_mem _ member)

end Written

end Naming

namespace Java

open Code (Builder Emission Indent Line Operation)
open Manifest (IsIdentifier IsName Project keywords)

namespace Model

section Constants

variable {values : List String} {indent : Indent}

/-- A text without the blanks around it. -/
def trim (piece : String) : String :=
  String.ofList (trimList piece.toList)

/-- The constants that the lines inside of an enum declare: what stands between commas, without the
blanks around it. -/
def constantsIn (inside : List String) : List String :=
  if inside = [] then [] else (pieces ',' (String.intercalate "\n" inside)).map trim

/-- Each value has a comma behind it, except for the last one. -/
theorem constants_eq_mapIdx (values : List String) :
    constants values =
      values.mapIdx fun i value => value ++ if i + 1 < values.length then "," else "" := by
  induction values with
  | nil => rfl
  | cons value rest ih =>
      cases rest with
      | nil => simp [constants]
      | cons second rest =>
          rw [constants, ih, List.mapIdx_cons]
          · simp
          · simp

theorem of_mem_constants
    {text : String}
    (member : text ∈ constants values) :
    ∃ value ∈ values, text = value ∨ text = value ++ "," := by
  induction values with
  | nil => cases member
  | cons value rest ih =>
      cases rest with
      | nil => exact ⟨value, List.mem_cons_self, .inl (List.mem_singleton.1 member)⟩
      | cons second rest =>
          rcases List.mem_cons.1 member with same | later
          · exact ⟨value, List.mem_cons_self, .inr same⟩
          · obtain ⟨other, among, shape⟩ := ih later
            exact ⟨other, List.mem_cons_of_mem _ among, shape⟩

/-- The lines of an enum, when its values are names. -/
theorem map_render_linesOf_constants
    (named : ∀ value ∈ values, IsName value)
    (indent : Indent) :
    (Emission.linesOf 1 (Operation.emittedOf
        (Operation.each (constants values) : List (Operation Failure Empty)))).map
          (Line.render indent) =
      (constants values).map fun text => String.ofList indent.step ++ text := by
  rw [CompilationUnit.linesOf_each_eq_flatMap, List.map_flatMap, List.map_eq_flatMap]
  refine List.flatMap_congr fun text member => ?_
  obtain ⟨value, among, shape⟩ := of_mem_constants member
  have isLine := Naming.isLine_of_isName (named value among)
  have nonempty := Naming.ne_empty_of_isName (named value among)
  have single : IsLine text ∧ text ≠ "" := by
    rcases shape with rfl | rfl
    · exact ⟨isLine, nonempty⟩
    · exact ⟨.behind ⟨by decide, by decide⟩ (by decide) isLine.noLineEnd, by simp⟩
  rw [Line.ofText_of_isLine single.1 1]
  simp [Line.render, single.2, Indent.atDepth]

theorem isBlank_of_mem_step
    {c : Char}
    (member : c ∈ indent.step) :
    isBlank c = true := by
  rcases Indent.blank_of_mem_step member with rfl | rfl <;> decide

section Reading

variable {front value : String}

/-- A value below blanks has no comma, and nothing but the value is left of it when it is trimmed. -/
theorem map_trim_pieces_written
    (blank : ∀ c ∈ front.toList, isBlank c = true)
    (isName : IsName value)
    (indent : Indent) :
    (pieces ',' (front ++ (String.ofList indent.step ++ value))).map trim = [value] := by
  have absent : ',' ∉ (front ++ (String.ofList indent.step ++ value)).toList := by
    have comma : isBlank ',' = false := by decide
    have noFront : ',' ∉ front.toList := fun member => by simp [blank _ member] at comma
    have noStep : ',' ∉ indent.step := fun member => by simp [isBlank_of_mem_step member] at comma
    have noName : ',' ∉ value.toList := Naming.not_mem_of_isName isName (by decide)
    simp [noName, noFront, noStep]
  have blanks : ∀ c ∈ front.toList ++ indent.step, isBlank c = true := by
    intro c member
    exact (List.mem_append.1 member).elim (blank c) isBlank_of_mem_step
  have trimmed : trimList (front.toList ++ indent.step ++ value.toList ++ []) = value.toList :=
    trimList_append blanks (fun c => Naming.isBlank_eq_false_of_mem isName) (by simp)
  rw [List.append_nil, List.append_assoc] at trimmed
  simp only [pieces, List.splitOn_eq_singleton absent, List.map_singleton, String.ofList_toList]
  simp [trim, trimmed]

/-- The values are read back from the lines of an enum, whatever blanks are in front of them. -/
theorem map_trim_pieces
    (front : String)
    (blank : ∀ c ∈ front.toList, isBlank c = true)
    (nonempty : values ≠ [])
    (named : ∀ value ∈ values, IsName value)
    (indent : Indent) :
    (pieces ',' (front ++ String.intercalate "\n"
      ((constants values).map fun text => String.ofList indent.step ++ text))).map trim = values := by
  induction values generalizing front with
  | nil => exact absurd rfl nonempty
  | cons value rest ih =>
      have first := map_trim_pieces_written blank (named value List.mem_cons_self) indent
      cases rest with
      | nil => simpa [constants] using first
      | cons second rest =>
          -- the line end behind a comma is one of the blanks in front of the next value
          have later := ih "\n" (by simp [isBlank]) (List.cons_ne_nil _ _)
            (fun other among => named other (List.mem_cons_of_mem _ among))
          have further : (constants (second :: rest)).map
              (fun text => String.ofList indent.step ++ text) ≠ [] := by
            cases rest <;> simp [constants]
          have shape : front ++ String.intercalate "\n" ((constants (value :: second :: rest)).map
                fun text => String.ofList indent.step ++ text) =
              front ++ (String.ofList indent.step ++ value) ++ String.singleton ',' ++
                ("\n" ++ String.intercalate "\n" ((constants (second :: rest)).map
                  fun text => String.ofList indent.step ++ text)) := by
            rw [constants, List.map_cons, String.intercalate_cons_of_ne_nil further]
            · simp [String.ext_iff]
            · simp
          rw [shape, pieces_append, List.map_append, first, later, List.singleton_append]

end Reading

end Constants

section Enums

variable {m : Model} {values : List String}

/-- The lines of the file of an enum. -/
theorem pieces_of_render_enum
    {text : String}
    (rendered : m.enumUnit.render = .ok text)
    (named : ∀ value ∈ m.entity.values, IsName value) :
    pieces '\n' text =
      lines ("package " ++ packageOf m.basePackage ++ ";") ++ [""] ++
        (m.heading "enum" (.inr rfl)).lines ++
        (constants m.entity.values).map (fun text => String.ofList m.indent.step ++ text) ++
        ["\x7d"] := by
  have above : m.enumUnit.textsAbove.flatMap lines =
      lines ("package " ++ packageOf m.basePackage ++ ";") ++ [""] := by
    simp [CompilationUnit.textsAbove, CompilationUnit.needed, CompilationUnit.importTexts, enumUnit,
      Imports.neededFrom, NameSet.empty, isLine_empty.lines_eq]
  have heading : lines (Builder.opening m.enumUnit.declaration) =
      (m.heading "enum" (.inr rfl)).lines := by
    rw [enumUnit, m.declaration_eq (.inr rfl)]
    exact Heading.lines_opening_declaration _ (Naming.noLineEnd_pascal _)
  rw [CompilationUnit.pieces_of_render rendered, above, heading, enumUnit,
    map_render_linesOf_constants named]
  rfl

/-- The values of an enumeration are read back from the lines of its enum. -/
theorem constantsIn_map_constants
    (named : ∀ value ∈ values, IsName value)
    (indent : Indent) :
    constantsIn ((constants values).map fun text => String.ofList indent.step ++ text) = values := by
  cases values with
  | nil => rfl
  | cons first rest =>
      have nonempty : (constants (first :: rest)).map
          (fun text => String.ofList indent.step ++ text) ≠ [] := by
        cases rest <;> simp [constants]
      have read := map_trim_pieces "" (by simp) (List.cons_ne_nil first rest) named indent
      rwa [constantsIn, if_neg nonempty, ← String.empty_append (s := String.intercalate _ _)]

/-- The file of an enum, when its values are names. -/
theorem exists_render_enum
    (kind : m.entity.kind = .enumeration)
    (named : ∀ value ∈ m.entity.values, IsName value) :
    ∃ text, m.artifact.render = .ok text ∧
      pieces '\n' text =
        lines ("package " ++ packageOf m.basePackage ++ ";") ++ [""] ++
          (m.heading "enum" (.inr rfl)).lines ++
          (constants m.entity.values).map (fun text => String.ofList m.indent.step ++ text) ++
          ["\x7d"] := by
  obtain ⟨text, rendered, whole⟩ := exists_render_classArtifact m.className m.completed_enumUnit
  have source : m.artifact = classArtifact m.className m.enumUnit := by simp [artifact, kind]
  exact ⟨text, source ▸ whole, pieces_of_render_enum rendered named⟩

/--
In an accepted project, the enum of an enumeration holds the values as they are written, one on a line
and in their order, with a comma behind each but the last; and these are the constants that it declares.
None of them is a keyword, and each is an identifier exactly when it has no hyphen.
-/
theorem constants_are_values_as_written
    {project : Project}
    (accepted : project.violation? = none)
    {d : Manifest.Declaration}
    (declared : d ∈ project.declarations)
    (kind : d.entity.kind = .enumeration)
    {m : Model}
    (entity : m.entity = d.entity) :
    ∃ text inside, m.artifact.render = .ok text ∧
      pieces '\n' text =
        lines ("package " ++ packageOf m.basePackage ++ ";") ++ [""] ++
          (m.heading "enum" (.inr rfl)).lines ++ inside ++ ["\x7d"] ∧
      inside = (d.entity.values.mapIdx fun i value =>
        value ++ if i + 1 < d.entity.values.length then "," else "").map
          (fun text => String.ofList m.indent.step ++ text) ∧
      constantsIn inside = d.entity.values ∧
      ∀ value ∈ d.entity.values,
        value ∉ keywords ∧ IsName value ∧ (IsIdentifier value ↔ '-' ∉ value.toList) := by
  have usable := (Project.violation?_eq_none_iff.1 accepted).values d declared kind
  have named : ∀ value ∈ d.entity.values, IsName value := fun value among => (usable value among).1
  obtain ⟨text, rendered, whole⟩ :=
    exists_render_enum (entity ▸ kind : m.entity.kind = .enumeration) (entity ▸ named)
  rw [entity] at whole
  refine ⟨text, _, rendered, whole, ?_, constantsIn_map_constants named m.indent, ?_⟩
  · rw [constants_eq_mapIdx]
  · intro value among
    exact ⟨(usable value among).2, named value among,
      Naming.isIdentifier_iff_of_isName (named value among)⟩

/-- A project with an enumeration of the given values. -/
def store (values : List String) : Project where
  settings := { name := "store" }
  modules := ⟨[("m", { entities := ⟨
    [("Stock", { kind := .enumeration, values := values })],
    List.nodup_singleton _⟩ })], List.nodup_singleton _⟩

/-- The model class of the enumeration of a store. -/
def stock (values : List String) : Model where
  basePackage := "com.example"
  name := "Stock"
  entity := { kind := .enumeration, values := values }
  indent := .spaces 2

theorem stock_declares_its_values :
    (store ["IN_STOCK", "SOLD"]).violation? = none ∧
      (⟨"m", "Stock", (stock ["IN_STOCK", "SOLD"]).entity⟩ : Manifest.Declaration) ∈
        (store ["IN_STOCK", "SOLD"]).declarations ∧
      ∃ text inside, (stock ["IN_STOCK", "SOLD"]).artifact.render = .ok text ∧
        pieces '\n' text =
          ["package com.example.model;", "", "public enum Stock \x7b"] ++ inside ++ ["\x7d"] ∧
        inside = ["  IN_STOCK,", "  SOLD"] ∧ constantsIn inside = ["IN_STOCK", "SOLD"] ∧
        ∀ value ∈ ["IN_STOCK", "SOLD"], value ∉ keywords ∧ IsIdentifier value := by
  have accepted : (store ["IN_STOCK", "SOLD"]).violation? = none := by decide +kernel
  have declared : (⟨"m", "Stock", (stock ["IN_STOCK", "SOLD"]).entity⟩ : Manifest.Declaration) ∈
      (store ["IN_STOCK", "SOLD"]).declarations := List.mem_cons_self
  obtain ⟨text, inside, rendered, whole, shape, read, usable⟩ :=
    constants_are_values_as_written accepted declared rfl (m := stock ["IN_STOCK", "SOLD"]) rfl
  have noHyphen : ∀ value ∈ ["IN_STOCK", "SOLD"], '-' ∉ value.toList := by decide
  have above : lines ("package " ++ packageOf "com.example" ++ ";") ++ [""] ++
      ((stock ["IN_STOCK", "SOLD"]).heading "enum" (.inr rfl)).lines =
        ["package com.example.model;", "", "public enum Stock \x7b"] := by decide
  refine ⟨accepted, declared, text, inside, rendered, above ▸ whole, ?_, read, ?_⟩
  · rw [shape]
    decide
  · intro value among
    obtain ⟨noKeyword, -, identifier⟩ := usable value among
    exact ⟨noKeyword, identifier.2 (noHyphen value among)⟩

/-- An accepted enumeration whose enum has a constant that is no identifier, and one constant twice. -/
theorem stock_has_unusable_constants :
    (store ["IN-STOCK", "SOLD", "SOLD"]).violation? = none ∧
      (⟨"m", "Stock", (stock ["IN-STOCK", "SOLD", "SOLD"]).entity⟩ : Manifest.Declaration) ∈
        (store ["IN-STOCK", "SOLD", "SOLD"]).declarations ∧
      (∃ text, (stock ["IN-STOCK", "SOLD", "SOLD"]).artifact.render = .ok text ∧
        pieces '\n' text =
          ["package com.example.model;", "", "public enum Stock \x7b", "  IN-STOCK,", "  SOLD,",
           "  SOLD", "\x7d"]) ∧
      ¬ IsIdentifier "IN-STOCK" ∧ ¬ ["IN-STOCK", "SOLD", "SOLD"].Nodup := by
  have accepted : (store ["IN-STOCK", "SOLD", "SOLD"]).violation? = none := by decide +kernel
  have declared :
      (⟨"m", "Stock", (stock ["IN-STOCK", "SOLD", "SOLD"]).entity⟩ : Manifest.Declaration) ∈
        (store ["IN-STOCK", "SOLD", "SOLD"]).declarations := List.mem_cons_self
  have usable := (Project.violation?_eq_none_iff.1 accepted).values _ declared rfl
  obtain ⟨text, rendered, whole⟩ := exists_render_enum (m := stock ["IN-STOCK", "SOLD", "SOLD"])
    rfl fun value among => (usable value among).1
  refine ⟨accepted, declared, ⟨text, rendered, whole.trans (by decide)⟩, ?_, by decide⟩
  rw [← Manifest.isPlainIdentifier_iff]
  decide

end Enums

end Model

end Java
end Scaffold
