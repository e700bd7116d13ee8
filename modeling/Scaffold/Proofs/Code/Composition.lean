import Scaffold.Proofs.Code.Emission
import Scaffold.Proofs.Code.WrittenLines

/-!
# Composition of runs

Operations that are run one after the other do what their parts do, up to the first part that does not
complete.

What operations do depends on the builder they are run on in one way only: their lines stand behind those
of the builder, and as much deeper as the builder stands.  A builder that was filled apart is placed on
another one in this way, and running operations commutes with it, whatever ends their bodies.  So emitters
that know nothing of each other can share a builder, and on the page the part of each is its own text,
indented as far as the builder stood.
-/

namespace Scaffold
namespace Code

open Text

section Sequence

variable {ε π : Type}

namespace Operation

/-- Operations end with the first part of them that does not complete. -/
theorem outcomeOf_append
    {front back : List (Operation ε π)} :
    outcomeOf (front ++ back) =
      match outcomeOf front with
      | .completed => outcomeOf back
      | .failed reason => .failed reason
      | .aborted reason => .aborted reason := by
  induction front with
  | nil => simp [outcomeOf]
  | cons operation front ih =>
      cases ended : operation.outcome <;> simp [outcomeOf, ended, ih]

theorem completed_append
    {front back : List (Operation ε π)}
    (first : outcomeOf front = .completed)
    (later : outcomeOf back = .completed) :
    outcomeOf (front ++ back) = .completed := by
  rw [outcomeOf_append, first, later]

theorem completed_each (items : List String) :
    outcomeOf (each items : List (Operation ε π)) = .completed := by
  induction items with
  | nil => rfl
  | cons item items ih => simpa [each, outcomeOf, outcome] using ih

/-- Behind operations that complete, others emit what they emit. -/
theorem emittedOf_append
    {front back : List (Operation ε π)}
    (first : outcomeOf front = .completed) :
    emittedOf (front ++ back) = emittedOf front ++ emittedOf back := by
  induction front with
  | nil => rfl
  | cons operation front ih =>
      cases ended : operation.outcome with
      | completed =>
          have later : outcomeOf front = .completed := by simpa [outcomeOf, ended] using first
          simp [emittedOf, ended, ih later]
      | failed reason => simp [outcomeOf, ended] at first
      | aborted reason => simp [outcomeOf, ended] at first

end Operation

namespace Builder

theorem runAll_singleton
    (b : Builder)
    (operation : Operation ε π) :
    (b.runAll [operation]).builder = (b.run operation).builder := by
  cases ended : operation.outcome <;> simp [runAll, ended]

/-- Operations that do not complete keep the ones behind them from running. -/
theorem runAll_append
    (b : Builder)
    (front back : List (Operation ε π)) :
    (b.runAll (front ++ back)).builder =
      match Operation.outcomeOf front with
      | .completed => ((b.runAll front).builder.runAll back).builder
      | _ => (b.runAll front).builder := by
  induction front generalizing b with
  | nil => simp [runAll, Operation.outcomeOf]
  | cons operation front ih =>
      cases ended : operation.outcome <;> simp [runAll, Operation.outcomeOf, ended, ih]

end Builder

end Sequence

section Placement

variable {ε π : Type}

/-- A line some steps deeper. -/
def Line.deepen
    (steps : Nat)
    (line : Line) : Line :=
  { line with depth := line.depth + steps }

/-- What was filled apart, behind what a base holds and as much deeper as the base stands. -/
def Builder.placedOn (b base : Builder) : Builder where
  depth := b.depth + base.depth
  buffer := ⟨base.buffer.lines ++ b.buffer.lines.map (Line.deepen base.depth)⟩

/-- What was seen apart, with the builder there placed on a base. -/
def Observation.placedOn
    (seen : Observation ε)
    (base : Builder) : Observation ε :=
  { seen with builder := seen.builder.placedOn base }

/-- What a run left apart, with every builder in it placed on a base. -/
def Run.placedOn
    (run : Run ε π)
    (base : Builder) : Run ε π where
  builder := run.builder.placedOn base
  log := run.log.map (Observation.placedOn · base)
  outcome := run.outcome

theorem Line.map_deepen_ofText
    (steps : Nat)
    (text : String)
    (depth : Nat) :
    (ofText text depth).map (deepen steps) = ofText text (depth + steps) := by
  simp [ofText, deepen, Function.comp_def]

namespace Builder

theorem empty_placedOn (base : Builder) :
    empty.placedOn base = base := by
  simp [placedOn, empty, LineBuffer.empty]

theorem write_placedOn
    (b base : Builder)
    (text : String) :
    (b.placedOn base).write text = (b.write text).placedOn base := by
  simp [write, placedOn, LineBuffer.append, Line.map_deepen_ofText]

theorem enter_placedOn
    (b base : Builder)
    (header : String) :
    (b.placedOn base).enter header = (b.enter header).placedOn base := by
  rw [enter, write_placedOn, enter]
  simp only [placedOn]
  congr 1
  omega

/-- A scope is left alike on every base; below depth zero there is none to leave. -/
theorem leave_placedOn
    {b : Builder}
    (inside : 1 ≤ b.depth)
    (base : Builder)
    (completed : Bool) :
    (b.placedOn base).leave completed = (b.leave completed).placedOn base := by
  have outside : { b.placedOn base with depth := (b.placedOn base).depth - 1 } =
      Builder.placedOn { b with depth := b.depth - 1 } base := by
    simp only [placedOn]
    congr 1
    omega
  cases completed with
  | true => simp only [leave, outside, if_true, write_placedOn]
  | false => simpa [leave] using outside

mutual

/-- An operation does on a builder that is placed on a base what it does apart. -/
theorem run_placedOn
    (b base : Builder) :
    (operation : Operation ε π) →
      (b.placedOn base).run operation = (b.run operation).placedOn base
  | .line text => by simp [run, Run.placedOn, write_placedOn]
  | .scope header body => by
      have inner := runAll_placedOn (b.enter header) base body
      have inside : 1 ≤ ((b.enter header).runAll body).builder.depth := by simp [enter]
      simp only [run, enter_placedOn, inner]
      simp only [Run.placedOn, leave_placedOn inside]
  | .attempt label body => by
      have inner := runAll_placedOn b base body
      simp only [run, inner]
      cases ended : Operation.outcomeOf body <;>
        simp [Run.placedOn, ended, Observation.placedOn]
  | .observe label => by simp [run, Run.placedOn, Observation.placedOn]
  | .fail reason => by simp [run, Run.placedOn]
  | .abort reason => by simp [run, Run.placedOn]

/-- Operations do on a builder that is placed on a base what they do apart. -/
theorem runAll_placedOn
    (b base : Builder) :
    (operations : List (Operation ε π)) →
      (b.placedOn base).runAll operations = (b.runAll operations).placedOn base
  | [] => by simp [runAll, Run.placedOn]
  | operation :: rest => by
      have first := run_placedOn b base operation
      have later := runAll_placedOn (b.run operation).builder base rest
      simp only [runAll, first]
      cases ended : operation.outcome <;>
        simp [Run.placedOn, ended, later]

end

/-- A run on a builder is the run on the empty one, placed on the builder. -/
theorem runAll_eq_placedOn
    (b : Builder)
    (operations : List (Operation ε π)) :
    b.runAll operations = (empty.runAll operations).placedOn b := by
  rw [← runAll_placedOn, empty_placedOn]

/-- Operations append the lines that they store on the empty builder, as much deeper as the builder is. -/
theorem lines_runAll
    (b : Builder)
    (operations : List (Operation ε π)) :
    (b.runAll operations).builder.buffer.lines =
      b.buffer.lines ++
        (empty.runAll operations).builder.buffer.lines.map (Line.deepen b.depth) := by
  rw [runAll_eq_placedOn]
  rfl

end Builder

/-- At a depth, emissions of operations are laid out as at none, and so much deeper. -/
theorem Emission.linesOf_emittedOf
    (depth : Nat)
    (operations : List (Operation ε π)) :
    linesOf depth (Operation.emittedOf operations) =
      (Builder.empty.runAll operations).builder.buffer.lines.map (Line.deepen depth) := by
  have placed := Builder.lines_runAll ⟨depth, .empty⟩ operations
  simpa [Builder.runAll_lines, LineBuffer.empty] using placed

end Placement

section Page

variable {ε π : Type}

/-- A text with an indentation in front of every line that is not empty. -/
def indented
    (indent : Indent)
    (depth : Nat)
    (text : String) : String :=
  String.intercalate "\n" <| (pieces '\n' text).map fun line =>
    if line = "" then "" else String.ofList (indent.atDepth depth) ++ line

theorem Indent.atDepth_add
    (indent : Indent)
    (depth steps : Nat) :
    indent.atDepth (depth + steps) = indent.atDepth steps ++ indent.atDepth depth := by
  rw [atDepth, Nat.add_comm, List.replicate_add, List.flatten_append, atDepth, atDepth]

/-- A line that is deeper has the further indentation in front of its written form. -/
theorem Line.render_deepen
    (indent : Indent)
    (steps : Nat)
    (line : Line) :
    (line.deepen steps).render indent =
      if line.render indent = "" then ""
      else String.ofList (indent.atDepth steps) ++ line.render indent := by
  by_cases empty : line.text = ""
  · simp [render, deepen, empty]
  · rw [if_neg (mt (Line.render_eq_empty_iff indent).1 empty)]
    simp [render, deepen, empty, Indent.atDepth_add, String.append_assoc]

namespace LineBuffer

/-- Lines that are deeper are written as the text of the lines, indented. -/
theorem render_map_deepen
    {lines : List Line}
    (single : ∀ line ∈ lines, '\n' ∉ line.text.toList)
    (indent : Indent)
    (steps : Nat) :
    (LineBuffer.mk (lines.map (Line.deepen steps))).render indent =
      indented indent steps ((LineBuffer.mk lines).render indent) := by
  by_cases none : lines = []
  · simp [none, render, indented, pieces]
  · rw [indented, pieces_render none single]
    simp only [render, List.map_map, Function.comp_def, Line.render_deepen]

theorem render_append
    {front back : List Line}
    (nonempty : front ≠ [])
    (nonemptyBack : back ≠ [])
    (indent : Indent) :
    (LineBuffer.mk (front ++ back)).render indent =
      (LineBuffer.mk front).render indent ++ "\n" ++ (LineBuffer.mk back).render indent := by
  simp only [render, List.map_append]
  exact String.intercalate_append_of_ne_nil (by simpa using nonempty) (by simpa using nonemptyBack)

end LineBuffer

namespace Builder

theorem render_deepened
    (operations : List (Operation ε π))
    (indent : Indent)
    (steps : Nat) :
    (LineBuffer.mk ((empty.runAll operations).builder.buffer.lines.map (Line.deepen steps))).render
        indent =
      indented indent steps ((empty.runAll operations).builder.render indent) := by
  refine LineBuffer.render_map_deepen (fun line stored => ?_) indent steps
  rw [runAll_lines] at stored
  exact Emission.noLineEnd_of_mem_linesOf (by simpa [empty, LineBuffer.empty] using stored)

end Builder

/--
What operations do is independent of the builder they are run on, but for where their lines stand.  They
end as on the empty builder, and append the lines that they store there, as much deeper as the builder
stands; they see on the way what they see there.  So the part of the page that they add is the page they
fill alone, with as many steps of indentation in front of every line that is not empty.  Operations that
are run behind them, whatever ended them, append their own lines to theirs.
-/
theorem run_is_placed_on_builder
    (b : Builder)
    (operations : List (Operation ε π)) :
    let alone := Builder.empty.runAll operations
    let whole := b.runAll operations
    whole.outcome = alone.outcome ∧
    whole.builder.buffer.lines =
      b.buffer.lines ++ alone.builder.buffer.lines.map (Line.deepen b.depth) ∧
    whole.log = alone.log.map (Observation.placedOn · b) ∧
    (∀ indent,
      (LineBuffer.mk (whole.builder.buffer.lines.drop b.buffer.length)).render indent =
        indented indent b.depth (alone.builder.render indent) ∧
      (b.buffer.lines ≠ [] → alone.builder.buffer.lines ≠ [] →
        whole.builder.render indent =
          b.render indent ++ "\n" ++ indented indent b.depth (alone.builder.render indent))) ∧
    ∀ later : List (Operation ε π),
      let apart := Builder.empty.runAll later
      (whole.builder.runAll later).outcome = apart.outcome ∧
      (whole.builder.runAll later).builder.buffer.lines =
        b.buffer.lines ++
          (alone.builder.buffer.lines ++ apart.builder.buffer.lines).map (Line.deepen b.depth) ∧
      (whole.outcome = .completed →
        (b.runAll (operations ++ later)).outcome = apart.outcome ∧
        (b.runAll (operations ++ later)).builder = (whole.builder.runAll later).builder) := by
  intro alone whole
  have placed : whole = alone.placedOn b := b.runAll_eq_placedOn operations
  have lines := b.lines_runAll operations
  refine ⟨by rw [placed]; rfl, lines, by rw [placed]; rfl, fun indent => ⟨?_, ?_⟩, fun later => ?_⟩
  · rw [lines, LineBuffer.length, List.drop_left]
    exact Builder.render_deepened operations indent b.depth
  · intro nonempty nonemptyAlone
    have page := LineBuffer.render_append nonempty
      (mt (List.map_eq_nil_iff (f := Line.deepen b.depth)).1 nonemptyAlone) indent
    rwa [← lines, Builder.render_deepened] at page
  · refine ⟨by simp, ?_, fun completed => ⟨?_, ?_⟩⟩
    · rw [Builder.lines_runAll, lines, Builder.runAll_depth, List.map_append, List.append_assoc]
    · rw [Builder.runAll_outcome] at completed
      simp [Operation.outcomeOf_append, completed]
    · rw [Builder.runAll_outcome] at completed
      rw [Builder.runAll_append, completed]

/-- Fields and a method that is given up in a class, and behind them a block that is aborted. -/
theorem members_are_placed_in_class :
    let b : Builder := ⟨1, ⟨[⟨"class A \x7b", 0⟩]⟩⟩
    let operations : List (Operation String String) :=
      [.line "int x;\n\nint y;",
       .attempt "caught" [.scope "void m()" [.line "go();", .fail "no type"]]]
    let later : List (Operation String String) := [.scope "" [.abort "stop"]]
    let alone := Builder.empty.runAll operations
    b.buffer.lines ≠ [] ∧ alone.builder.buffer.lines ≠ [] ∧
    (b.runAll operations).outcome = .completed ∧
    (b.runAll operations).builder.render .tab =
      b.render .tab ++ "\n" ++ indented .tab 1 (alone.builder.render .tab) ∧
    (b.runAll (operations ++ later)).outcome = .aborted "stop" := by
  intro b operations later alone
  have nonempty : b.buffer.lines ≠ [] := by decide
  have nonemptyAlone : alone.builder.buffer.lines ≠ [] := by decide
  have completed : (b.runAll operations).outcome = .completed := by decide
  obtain ⟨-, -, -, pages, sequels⟩ := run_is_placed_on_builder b operations
  obtain ⟨-, -, sequel⟩ := sequels later
  have ended : (Builder.empty.runAll later).outcome = .aborted "stop" := by decide
  exact ⟨nonempty, nonemptyAlone, completed, (pages .tab).2 nonempty nonemptyAlone,
    (sequel completed).1.trans ended⟩

end Page

end Code
end Scaffold
