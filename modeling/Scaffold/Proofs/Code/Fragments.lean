import Mathlib.Logic.Relation
import Scaffold.Code.Fragment
import Scaffold.Proofs.Code.Composition

/-!
# Emission of fragments

Fragments are emitted into a builder at once, or as the operations they stand for: the lines are the same,
nothing fails on the way, and the depth is given back.  Fragments one after the other are emitted one after
the other.

A sequence is no more than its members.  When one is replaced by its members in place, whatever scopes and
sequences it stands in, one sequence fewer is left, so that in the end there is none; what then is left is
the flattening of the fragments.  Fragments are emitted as their flattening is, so two lists of fragments
with one flattening cannot be told apart in the code.
-/

namespace Scaffold
namespace Code

section Calls

variable {ε π : Type}

namespace Fragment

mutual

theorem completed_operations :
    (fragment : Fragment) →
      Operation.outcomeOf (fragment.operations : List (Operation ε π)) = .completed
  | .line _ => rfl
  | .blank => rfl
  | .javadoc _ => rfl
  | .scope header body => by
      simp [operations, Operation.outcomeOf, Operation.outcome, completed_operationsOf body]
  | .sequence members => completed_operationsOf members

theorem completed_operationsOf :
    (fragments : List Fragment) →
      Operation.outcomeOf (operationsOf fragments : List (Operation ε π)) = .completed
  | [] => rfl
  | fragment :: rest =>
      Operation.completed_append (completed_operations fragment) (completed_operationsOf rest)

end

end Fragment

namespace Builder

mutual

/-- A fragment is emitted as the operations it stands for. -/
theorem emitOne_eq_runAll
    (b : Builder) :
    (fragment : Fragment) →
      b.emitOne fragment = (b.runAll (fragment.operations : List (Operation ε π))).builder
  | .line text => by simp [emitOne, Fragment.operations, runAll_singleton, run]
  | .blank => by simp [emitOne, Fragment.operations, runAll_singleton, run, Operation.blank]
  | .javadoc text => by
      simp [emitOne, Fragment.operations, runAll_singleton, run, Operation.javadoc]
  | .scope header body => by
      have inner := emit_eq_runAll (b.enter header) body
      have completed : Operation.outcomeOf
          (Fragment.operationsOf body : List (Operation ε π)) = .completed :=
        Fragment.completed_operationsOf body
      simp [emitOne, Fragment.operations, runAll_singleton, run, inner, completed,
        Outcome.isCompleted]
  | .sequence members => emit_eq_runAll b members

/-- Fragments are emitted as the operations they stand for. -/
theorem emit_eq_runAll
    (b : Builder) :
    (fragments : List Fragment) →
      b.emit fragments =
        (b.runAll (Fragment.operationsOf fragments : List (Operation ε π))).builder
  | [] => by simp [emit, Fragment.operationsOf, runAll]
  | fragment :: rest => by
      have first := emitOne_eq_runAll b fragment
      have later := emit_eq_runAll (b.emitOne fragment) rest
      rw [emit, later, first, Fragment.operationsOf, runAll_append, Fragment.completed_operations]

end

theorem emit_append
    (b : Builder)
    (front back : List Fragment) :
    b.emit (front ++ back) = (b.emit front).emit back := by
  induction front generalizing b with
  | nil => rfl
  | cons fragment front ih => exact ih (b.emitOne fragment)

/-- What several parts describe is emitted part by part. -/
theorem emit_flatten_parts
    (b : Builder)
    (parts : List (List Fragment)) :
    b.emit parts.flatten = parts.foldl emit b := by
  induction parts generalizing b with
  | nil => rfl
  | cons part parts ih => rw [List.flatten_cons, emit_append, ih, List.foldl_cons]

end Builder

end Calls

section Flattening

namespace Fragment

mutual

/-- A fragment with every sequence in it replaced by its members. -/
def flatten : Fragment → List Fragment
  | line text => [line text]
  | blank => [blank]
  | javadoc text => [javadoc text]
  | scope header body => [scope header (flattenAll body)]
  | sequence members => flattenAll members

/-- Fragments with every sequence in them replaced by its members. -/
def flattenAll : List Fragment → List Fragment
  | [] => []
  | fragment :: rest => fragment.flatten ++ flattenAll rest

end

/-- One sequence among fragments, at any level, is replaced by its members in place. -/
inductive Inlines : List Fragment → List Fragment → Prop
  | here
      {front members back : List Fragment} :
      Inlines (front ++ sequence members :: back) (front ++ members ++ back)
  | inScope
      {header : String}
      {front body inlined back : List Fragment}
      (within : Inlines body inlined) :
      Inlines (front ++ scope header body :: back) (front ++ scope header inlined :: back)
  | inSequence
      {front members inlined back : List Fragment}
      (within : Inlines members inlined) :
      Inlines (front ++ sequence members :: back) (front ++ sequence inlined :: back)

@[simp] theorem flattenAll_append (front back : List Fragment) :
    flattenAll (front ++ back) = flattenAll front ++ flattenAll back := by
  induction front with
  | nil => rfl
  | cons fragment front ih => simp [flattenAll, ih]

/-- Replacing a sequence by its members leaves the flattening alone. -/
theorem Inlines.flattenAll_eq
    {fragments inlined : List Fragment}
    (h : Inlines fragments inlined) :
    flattenAll inlined = flattenAll fragments := by
  induction h with
  | here => simp [flattenAll, flatten]
  | inScope within ih => simp [flattenAll, flatten, ih]
  | inSequence within ih => simp [flattenAll, flatten, ih]

mutual

/-- The number of sequences in a fragment. -/
def sequences : Fragment → Nat
  | line _ => 0
  | blank => 0
  | javadoc _ => 0
  | scope _ body => sequencesIn body
  | sequence members => sequencesIn members + 1

/-- The number of sequences in fragments. -/
def sequencesIn : List Fragment → Nat
  | [] => 0
  | fragment :: rest => fragment.sequences + sequencesIn rest

end

@[simp] theorem sequencesIn_append (front back : List Fragment) :
    sequencesIn (front ++ back) = sequencesIn front + sequencesIn back := by
  induction front with
  | nil => simp [sequencesIn]
  | cons fragment front ih => simp [sequencesIn, ih, Nat.add_assoc]

/-- Each replacement takes away one sequence. -/
theorem Inlines.sequencesIn_eq
    {fragments inlined : List Fragment}
    (h : Inlines fragments inlined) :
    sequencesIn fragments = sequencesIn inlined + 1 := by
  induction h with
  | here =>
      simp only [sequencesIn_append, sequencesIn, sequences]
      omega
  | inScope within ih =>
      simp only [sequencesIn_append, sequencesIn, sequences, ih]
      omega
  | inSequence within ih =>
      simp only [sequencesIn_append, sequencesIn, sequences, ih]
      omega

mutual

theorem sequencesIn_flatten :
    (fragment : Fragment) → sequencesIn fragment.flatten = 0
  | .line _ => rfl
  | .blank => rfl
  | .javadoc _ => rfl
  | .scope header body => by
      simp [flatten, sequencesIn, sequences, sequencesIn_flattenAll body]
  | .sequence members => sequencesIn_flattenAll members

/-- There are no sequences in a flattening. -/
theorem sequencesIn_flattenAll :
    (fragments : List Fragment) → sequencesIn (flattenAll fragments) = 0
  | [] => rfl
  | fragment :: rest => by
      simp [flattenAll, sequencesIn_flatten fragment, sequencesIn_flattenAll rest]

end

/-- Nothing is left to be replaced in a flattening. -/
theorem not_inlines_flattenAll (fragments other : List Fragment) :
    ¬ Inlines (flattenAll fragments) other := by
  intro inlines
  have fewer := inlines.sequencesIn_eq
  rw [sequencesIn_flattenAll] at fewer
  exact absurd fewer (Nat.succ_ne_zero _).symm

open Relation (ReflTransGen) in
mutual

/-- A fragment among others is flattened by replacing one sequence after the other. -/
theorem inlines_flatten
    (front back : List Fragment) :
    (fragment : Fragment) →
      ReflTransGen Inlines (front ++ fragment :: back) (front ++ fragment.flatten ++ back)
  | .line text => by simpa [flatten] using ReflTransGen.refl
  | .blank => by simpa [flatten] using ReflTransGen.refl
  | .javadoc text => by simpa [flatten] using ReflTransGen.refl
  | .scope header body => by
      have within := inlines_flattenAll [] [] body
      have lifted := ReflTransGen.lift (fun body => front ++ scope header body :: back)
        (fun _ _ => Inlines.inScope) _ _ within
      simpa [flatten] using lifted
  | .sequence members => by
      have members := inlines_flattenAll front back members
      exact .head .here members

/-- Fragments among others are flattened by replacing one sequence after the other. -/
theorem inlines_flattenAll
    (front back : List Fragment) :
    (fragments : List Fragment) →
      ReflTransGen Inlines (front ++ fragments ++ back) (front ++ flattenAll fragments ++ back)
  | [] => .refl
  | fragment :: rest => by
      have first := inlines_flatten front (rest ++ back) fragment
      have later := inlines_flattenAll (front ++ fragment.flatten) back rest
      rw [← List.append_assoc] at first
      simpa [flattenAll, List.append_assoc] using first.trans later

end

end Fragment

namespace Builder

mutual

theorem emit_flatten
    (b : Builder) :
    (fragment : Fragment) → b.emit fragment.flatten = b.emitOne fragment
  | .line _ => rfl
  | .blank => rfl
  | .javadoc _ => rfl
  | .scope header body => by
      simp [Fragment.flatten, emit, emitOne, emit_flattenAll (b.enter header) body]
  | .sequence members => emit_flattenAll b members

/-- Fragments are emitted as their flattening is. -/
theorem emit_flattenAll
    (b : Builder) :
    (fragments : List Fragment) → b.emit (Fragment.flattenAll fragments) = b.emit fragments
  | [] => rfl
  | fragment :: rest => by
      rw [Fragment.flattenAll, emit_append, emit_flatten b fragment, emit,
        emit_flattenAll (b.emitOne fragment) rest]

end

theorem emit_eq_of_flattenAll_eq
    {fragments other : List Fragment}
    (same : Fragment.flattenAll other = Fragment.flattenAll fragments)
    (b : Builder) :
    b.emit other = b.emit fragments := by
  rw [← emit_flattenAll b other, same, emit_flattenAll]

end Builder

end Flattening

section Emitting

open Relation (ReflTransGen)

variable {ε π : Type}

/--
Emitting fragments does to a builder what running their operations does: nothing fails, the same lines
are appended, and the depth is given back.  Fragments one after the other, and the parts of a longer
description, are emitted one after the other.  Replacing a sequence by its members in place, at any level,
makes no difference; in the end, when none is left, this gives the flattening, and fragments with one
flattening leave the same buffer and are written alike.
-/
theorem emitting_runs_operations_and_ignores_sequences
    (b : Builder)
    (fragments : List Fragment) :
    let called : Run ε π := b.runAll (Fragment.operationsOf fragments)
    (called.outcome = .completed ∧ b.emit fragments = called.builder ∧
      (b.emit fragments).depth = b.depth ∧
      ∃ appended,
        (b.emit fragments).buffer.lines = b.buffer.lines ++ appended ∧
        called.builder.buffer.lines = b.buffer.lines ++ appended) ∧
    (∀ later, b.emit (fragments ++ later) = (b.emit fragments).emit later) ∧
    (∀ parts : List (List Fragment), b.emit parts.flatten = parts.foldl Builder.emit b) ∧
    (∀ inlined, Fragment.Inlines fragments inlined → b.emit inlined = b.emit fragments) ∧
    ReflTransGen Fragment.Inlines fragments (Fragment.flattenAll fragments) ∧
    (∀ other, ¬ Fragment.Inlines (Fragment.flattenAll fragments) other) ∧
    ∀ other, Fragment.flattenAll other = Fragment.flattenAll fragments →
      (b.emit other).buffer = (b.emit fragments).buffer ∧
      ∀ indent, (b.emit other).render indent = (b.emit fragments).render indent := by
  intro called
  have same : b.emit fragments = called.builder := b.emit_eq_runAll fragments
  have lines := b.runAll_lines (Fragment.operationsOf fragments : List (Operation ε π))
  refine ⟨⟨?_, same, ?_, _, (congrArg (·.buffer.lines) same).trans lines, lines⟩,
    b.emit_append fragments, b.emit_flatten_parts, fun inlined inlines => ?_, ?_,
    Fragment.not_inlines_flattenAll fragments, fun other flat => ?_⟩
  · exact (b.runAll_outcome _).trans (Fragment.completed_operationsOf fragments)
  · rw [same]
    exact b.runAll_depth _
  · exact Builder.emit_eq_of_flattenAll_eq inlines.flattenAll_eq b
  · simpa using Fragment.inlines_flattenAll [] [] fragments
  · have emitted := Builder.emit_eq_of_flattenAll_eq flat b
    exact ⟨by rw [emitted], fun indent => by rw [emitted]⟩

/-- A method with a sequence in its body, and the same method written without sequences. -/
theorem greeter_ignores_sequences :
    let b : Builder := ⟨1, ⟨[⟨"class Greeter \x7b", 0⟩]⟩⟩
    let statements : List Fragment := [.line "greet();", .sequence [], .blank]
    let fragments : List Fragment :=
      [.javadoc "Greets.", .sequence [.scope "void run()" [.sequence statements, .line "return;"]]]
    let inlined : List Fragment :=
      [.javadoc "Greets.", .sequence [.scope "void run()" (statements ++ [.line "return;"])]]
    let plain : List Fragment :=
      [.javadoc "Greets.", .scope "void run()" [.line "greet();", .blank, .line "return;"]]
    Fragment.Inlines fragments inlined ∧ b.emit inlined = b.emit fragments ∧
    Fragment.flattenAll plain = Fragment.flattenAll fragments ∧
    (b.emit plain).render .tab = (b.emit fragments).render .tab := by
  intro b statements fragments inlined plain
  have within : Fragment.Inlines [.sequence statements, .line "return;"]
      (statements ++ [.line "return;"]) :=
    @Fragment.Inlines.here [] statements [.line "return;"]
  have inlines : Fragment.Inlines fragments inlined :=
    @Fragment.Inlines.inSequence [.javadoc "Greets."] _ _ []
      (@Fragment.Inlines.inScope "void run()" [] _ _ [] within)
  have flat : Fragment.flattenAll plain = Fragment.flattenAll fragments := rfl
  obtain ⟨-, -, -, replaced, -, -, alike⟩ :=
    @emitting_runs_operations_and_ignores_sequences Empty Empty b fragments
  exact ⟨inlines, replaced inlined inlines, flat, (alike plain flat).2 .tab⟩

end Emitting

end Code
end Scaffold
