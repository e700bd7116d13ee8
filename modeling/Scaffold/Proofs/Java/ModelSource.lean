import Scaffold.Proofs.Java.Rendering

/-!
# What the file of a model class holds

A source file that is rendered holds the lines of its body, and of each part of its body, one step
deep.  So the file of a class with fields declares a setter for each of them, and the file of an enum
lists its constants.
-/

namespace Scaffold
namespace Code

section Parts

variable {ε : Type}

/-- What a part emits is among what the whole emits. -/
theorem Operation.emitted_infix
    {operations : List (Operation ε Empty)}
    (ended : outcomeOf operations = .completed)
    {operation : Operation ε Empty}
    (member : operation ∈ operations) :
    operation.emitted <:+: emittedOf operations := by
  obtain ⟨front, back, rfl⟩ := List.append_of_mem member
  rw [outcomeOf_append] at ended
  cases first : outcomeOf front with
  | completed =>
      rw [first] at ended
      cases last : operation.outcome with
      | completed =>
          refine ⟨emittedOf front, emittedOf back, ?_⟩
          rw [emittedOf_append first]
          simp [emittedOf, last]
      | failed reason => simp [outcomeOf, last] at ended
      | aborted reason => exact nomatch reason
  | failed reason => simp [first] at ended
  | aborted reason => exact nomatch reason

theorem Emission.linesOf_infix
    {inner outer : List (Emission ε Empty)}
    (depth : Nat)
    (h : inner <:+: outer) :
    linesOf depth inner <:+: linesOf depth outer := by
  obtain ⟨before, after, rfl⟩ := h
  exact ⟨linesOf depth before, linesOf depth after, by simp⟩

end Parts

end Code

open Code (Builder Fragment Line LineBuffer Operation Emission)

namespace Java

section Sources

variable {ε : Type}

/-- A source file is the text above its declaration and then lines with those of its body. -/
theorem CompilationUnit.exists_render
    (unit : CompilationUnit ε)
    (ended : Operation.outcomeOf unit.body = .completed) :
    ∃ above lines,
      unit.render = .ok (above ++ "\n" ++ (LineBuffer.mk lines).render unit.indent) ∧
        Emission.linesOf 1 (Operation.emittedOf unit.body) <:+: lines := by
  refine ⟨(Builder.empty.runAll unit.preamble).builder.render unit.indent,
    (Builder.empty.run (.scope unit.declaration unit.body)).builder.buffer.lines, ?_, ?_⟩
  · simp only [render, Builder.run_outcome, Operation.outcome, ended]
    rfl
  · rw [Builder.run_lines, Operation.emitted, Emission.linesOf_scope]
    exact (List.infix_append _ _ _).trans (List.suffix_append _ _).isInfix

/-- A class whose body comes to its end has a file. -/
theorem exists_render_classArtifact
    (className : String)
    {unit : CompilationUnit Failure}
    (ended : Operation.outcomeOf unit.body = .completed) :
    ∃ text, unit.render = .ok text ∧ (classArtifact className unit).render = .ok text := by
  obtain ⟨above, lines, rendered, -⟩ := unit.exists_render ended
  exact ⟨_, rendered, by simp [classArtifact, Artifact.render, rendered, Except.map]⟩

namespace Model

/-- The file of a model class has a text in its body, one step deep. -/
def Prints
    (m : Model)
    (text : String) : Prop :=
  ∃ above lines,
    m.artifact.render = .ok (above ++ "\n" ++ (LineBuffer.mk lines).render m.indent) ∧
      Line.ofText text 1 <:+: lines

/-- The file of a model class declares a setter for a field, with a parameter of a type. -/
def DeclaresSetter
    (m : Model)
    (field type : String) : Prop :=
  ∃ parameter, m.Prints (Builder.opening
    ("public void set" ++ Naming.pascal field ++ "(" ++ type ++ " " ++ parameter ++ ")"))

/-- The file of an enum lists a constant. -/
def ListsConstant
    (m : Model)
    (constant : String) : Prop :=
  m.Prints constant ∨ m.Prints (constant ++ ",")

variable {m : Model}

/-- The file of a model class stands where its package and its name say. -/
theorem path_artifact (m : Model) :
    m.artifact.path = classPath (packageOf m.basePackage) m.className := by
  unfold artifact
  split
  · simp only [classArtifact, classUnit]
  · simp only [classArtifact, enumUnit]
  · simp only

/-- A class file has what a part of its body emits. -/
theorem prints_of_mem
    {unit : CompilationUnit Failure}
    (source : m.artifact = classArtifact m.className unit)
    (indent : unit.indent = m.indent)
    (ended : Operation.outcomeOf unit.body = .completed)
    {operation : Operation Failure Empty}
    (member : operation ∈ unit.body)
    {text : String}
    (emits : Line.ofText text 1 <:+: Emission.linesOf 1 operation.emitted) :
    m.Prints text := by
  obtain ⟨above, lines, rendered, inside⟩ := unit.exists_render ended
  refine ⟨above, lines, ?_, ?_⟩
  · simp [source, classArtifact, Artifact.render, rendered, Except.map, indent]
  · exact (emits.trans (Emission.linesOf_infix 1 (Operation.emitted_infix ended member))).trans
      inside

/-- The file of data declares a setter for each of its fields, with a parameter of its type. -/
theorem declaresSetter
    (kind : m.entity.kind = .data)
    {field : String}
    {type : Manifest.FieldType}
    (member : (field, type) ∈ m.entity.fields.entries) :
    m.DeclaresSetter field (TypeName.ofField type) := by
  let f := ModelField.ofEntry (field, type)
  let setter : Operation Failure Empty :=
    .scope f.setterHeader [.line ("this." ++ f.name ++ " = " ++ f.name ++ ";")]
  have among : setter ∈ m.classUnit.body := by
    refine List.mem_append_right _ (List.mem_flatMap.2 ⟨f, List.mem_map_of_mem member, ?_⟩)
    simp [setter, ModelField.accessors, Fragment.operationsOf, Fragment.operations]
  refine ⟨f.name, prints_of_mem ?_ rfl m.completed_classUnit among ?_⟩
  · simp [artifact, kind]
  · rw [Operation.emitted, Emission.linesOf_scope, List.append_assoc]
    exact (List.prefix_append _ _).isInfix

theorem mem_constants
    {values : List String}
    {value : String}
    (member : value ∈ values) :
    value ∈ constants values ∨ value ++ "," ∈ constants values := by
  induction values with
  | nil => cases member
  | cons first rest ih =>
      cases rest with
      | nil => exact .inl member
      | cons second rest =>
          rcases List.mem_cons.1 member with rfl | member
          · exact .inr List.mem_cons_self
          · exact (ih member).imp (List.mem_cons_of_mem _) (List.mem_cons_of_mem _)

/-- The file of an enumeration lists each of its constants. -/
theorem listsConstant
    (kind : m.entity.kind = .enumeration)
    {value : String}
    (member : value ∈ m.entity.values) :
    m.ListsConstant value := by
  have printed : ∀ text ∈ constants m.entity.values, m.Prints text := by
    intro text among
    have operation : Operation.line text ∈ m.enumUnit.body := List.mem_map_of_mem among
    refine prints_of_mem ?_ rfl m.completed_enumUnit operation ?_
    · simp [artifact, kind]
    · simp only [Operation.emitted, Emission.linesOf_text, List.infix_rfl]
  exact (mem_constants member).imp (printed _) (printed _)

end Model

end Sources

end Java
end Scaffold
