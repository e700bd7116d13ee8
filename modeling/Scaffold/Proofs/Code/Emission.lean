import Scaffold.Code.Builder
import Scaffold.Proofs.Text.Pieces

/-!
# What a run emits

A run of operations is described twice more, without a builder.  Its outcome depends on the
operations alone, and what it emits is a tree: texts, and scopes that hold what their bodies emitted
and how these ended.

Laid out at a depth, such a tree becomes lines, each marked with what it is for.  The main statements
are that running operations restores the depth, ends as the operations say, and appends exactly the
lines of the tree they emit.
-/

namespace Scaffold
namespace Code

section Emission

variable {ε π : Type}

namespace Operation

mutual

/-- How an operation ends; the builder plays no part in it. -/
def outcome : Operation ε π → Outcome ε π
  | .line _ => .completed
  | .scope _ body => outcomeOf body
  | .attempt _ body =>
      match outcomeOf body with
      | .completed => .completed
      | .failed _ => .completed
      | .aborted reason => .aborted reason
  | .observe _ => .completed
  | .fail reason => .failed reason
  | .abort reason => .aborted reason

/-- How operations end that are run one after the other. -/
def outcomeOf : List (Operation ε π) → Outcome ε π
  | [] => .completed
  | operation :: rest =>
      match operation.outcome with
      | .completed => outcomeOf rest
      | .failed reason => .failed reason
      | .aborted reason => .aborted reason

end

end Operation

/-- What a run emits: texts, and scopes with what their bodies emitted and how these ended. -/
inductive Emission (ε π : Type) where
  | text (text : String)
  | scope (header : String) (body : List (Emission ε π)) (ended : Outcome ε π)

namespace Operation

mutual

/-- What an operation emits. -/
def emitted : Operation ε π → List (Emission ε π)
  | .line text => [.text text]
  | .scope header body => [.scope header (emittedOf body) (outcomeOf body)]
  | .attempt _ body => emittedOf body
  | .observe _ => []
  | .fail _ => []
  | .abort _ => []

/-- What operations emit that are run one after the other, up to the first that does not complete. -/
def emittedOf : List (Operation ε π) → List (Emission ε π)
  | [] => []
  | operation :: rest =>
      match operation.outcome with
      | .completed => operation.emitted ++ emittedOf rest
      | _ => operation.emitted

end

end Operation

/-- What a stored line is for. -/
inductive Role where
  | plain
  | opener
  | closer
  deriving DecidableEq

/-- A stored line and what it is for. -/
structure MarkedLine where
  role : Role
  line : Line
  deriving DecidableEq

namespace MarkedLine

/-- A line of no scope's own. -/
def plain (line : Line) : MarkedLine := ⟨.plain, line⟩

/-- The lines of a header; the last one has the brace and opens the scope. -/
def opening : List Line → List MarkedLine
  | [] => []
  | [last] => [⟨.opener, last⟩]
  | line :: rest => plain line :: opening rest

/-- The line that closes a scope whose body ended in this way, if there is one. -/
def closing
    (ended : Outcome ε π)
    (depth : Nat) : List MarkedLine :=
  if ended.isCompleted then [⟨.closer, ⟨Builder.closing, depth⟩⟩] else []

end MarkedLine

namespace Emission

mutual

/-- The lines of an emission at a depth. -/
def marked (depth : Nat) : Emission ε π → List MarkedLine
  | .text content => (Line.ofText content depth).map MarkedLine.plain
  | .scope header body ended =>
      MarkedLine.opening (Line.ofText (Builder.opening header) depth) ++
        markedOf (depth + 1) body ++ MarkedLine.closing ended depth

/-- The lines of emissions at a depth. -/
def markedOf (depth : Nat) : List (Emission ε π) → List MarkedLine
  | [] => []
  | emission :: rest => emission.marked depth ++ markedOf depth rest

end

/-- The stored lines of emissions at a depth. -/
def linesOf
    (depth : Nat)
    (emissions : List (Emission ε π)) : List Line :=
  (markedOf depth emissions).map MarkedLine.line

end Emission

theorem ofText_ne_nil
    (text : String)
    (depth : Nat) :
    Line.ofText text depth ≠ [] := by
  simp [Line.ofText, Text.lines_ne_nil]

theorem depth_of_mem_ofText
    {text : String}
    {depth : Nat}
    {line : Line}
    (h : line ∈ Line.ofText text depth) :
    line.depth = depth := by
  obtain ⟨piece, -, rfl⟩ := List.mem_map.1 h
  rfl

theorem noLineEnd_of_mem_ofText
    {text : String}
    {depth : Nat}
    {line : Line}
    (h : line ∈ Line.ofText text depth) :
    '\n' ∉ line.text.toList := by
  obtain ⟨piece, isLine, rfl⟩ := List.mem_map.1 h
  exact Text.noLineEnd_of_mem_lines isLine

@[simp] theorem ofText_closing (depth : Nat) :
    Line.ofText Builder.closing depth = [⟨Builder.closing, depth⟩] := by
  have brace : Text.lines Builder.closing = [Builder.closing] := by decide
  simp [Line.ofText, brace]

namespace MarkedLine

@[simp] theorem map_line_opening (lines : List Line) :
    (opening lines).map line = lines := by
  induction lines with
  | nil => rfl
  | cons first rest ih =>
      cases rest with
      | nil => rfl
      | cons second rest => simpa [opening, plain] using ih

@[simp] theorem line_comp_plain :
    line ∘ plain = id := by
  rfl

end MarkedLine

namespace Emission

@[simp] theorem linesOf_nil (depth : Nat) :
    linesOf depth ([] : List (Emission ε π)) = [] := by
  simp [linesOf, markedOf]

/-- Emissions one after the other are laid out one after the other. -/
@[simp] theorem markedOf_append
    (depth : Nat)
    (first later : List (Emission ε π)) :
    markedOf depth (first ++ later) = markedOf depth first ++ markedOf depth later := by
  induction first with
  | nil => simp [markedOf]
  | cons emission rest ih => simp [markedOf, ih]

@[simp] theorem linesOf_append
    (depth : Nat)
    (first later : List (Emission ε π)) :
    linesOf depth (first ++ later) = linesOf depth first ++ linesOf depth later := by
  simp [linesOf]

theorem linesOf_cons
    (depth : Nat)
    (emission : Emission ε π)
    (rest : List (Emission ε π)) :
    linesOf depth (emission :: rest) = linesOf depth [emission] ++ linesOf depth rest := by
  rw [← linesOf_append, List.singleton_append]

@[simp] theorem linesOf_text
    (depth : Nat)
    (content : String) :
    linesOf depth [(.text content : Emission ε π)] = Line.ofText content depth := by
  simp [linesOf, markedOf, marked]

/-- The lines of one scope: its header, its body one step deeper, and its brace if it has one. -/
theorem linesOf_scope
    (depth : Nat)
    (header : String)
    (body : List (Emission ε π))
    (ended : Outcome ε π) :
    linesOf depth [.scope header body ended] =
      Line.ofText (Builder.opening header) depth ++ linesOf (depth + 1) body ++
        (if ended.isCompleted then [⟨Builder.closing, depth⟩] else []) := by
  by_cases completed : ended.isCompleted = true
  · simp [linesOf, markedOf, marked, MarkedLine.closing, completed]
  · simp [linesOf, markedOf, marked, MarkedLine.closing, completed]

mutual

/-- What holds of the lines of every text at some depths holds of the lines of an emission there. -/
theorem forall_mem_marked
    {P : Line → Prop}
    {depth : Nat}
    (texts : ∀ text deeper, depth ≤ deeper → ∀ line ∈ Line.ofText text deeper, P line) :
    (emission : Emission ε π) → ∀ marked ∈ emission.marked depth, P marked.line
  | .text content, marked, member => by
      obtain ⟨line, inText, rfl⟩ := List.mem_map.1 member
      exact texts content depth (Nat.le_refl depth) line inText
  | .scope header body ended, marked, member => by
      rcases List.mem_append.1 member with earlier | brace
      · rcases List.mem_append.1 earlier with inHeader | inBody
        · refine texts (Builder.opening header) depth (Nat.le_refl depth) marked.line ?_
          rw [← MarkedLine.map_line_opening (Line.ofText (Builder.opening header) depth)]
          exact List.mem_map_of_mem inHeader
        · exact forall_mem_markedOf
            (fun text deeper below => texts text deeper (by omega)) body marked inBody
      · unfold MarkedLine.closing at brace
        split at brace
        · rw [List.mem_singleton.1 brace]
          exact texts Builder.closing depth (Nat.le_refl depth) _ (by simp)
        · exact absurd brace List.not_mem_nil

theorem forall_mem_markedOf
    {P : Line → Prop}
    {depth : Nat}
    (texts : ∀ text deeper, depth ≤ deeper → ∀ line ∈ Line.ofText text deeper, P line) :
    (emissions : List (Emission ε π)) → ∀ marked ∈ markedOf depth emissions, P marked.line
  | [], marked, member => absurd member List.not_mem_nil
  | emission :: rest, marked, member => by
      rcases List.mem_append.1 member with first | later
      · exact forall_mem_marked texts emission marked first
      · exact forall_mem_markedOf texts rest marked later

end

/-- What holds of the lines of every text at some depths holds of the lines of emissions there. -/
theorem forall_mem_linesOf
    {P : Line → Prop}
    {depth : Nat}
    (texts : ∀ text deeper, depth ≤ deeper → ∀ line ∈ Line.ofText text deeper, P line)
    (emissions : List (Emission ε π)) :
    ∀ line ∈ linesOf depth emissions, P line := by
  intro line member
  obtain ⟨marked, isMarked, rfl⟩ := List.mem_map.1 member
  exact forall_mem_markedOf texts emissions marked isMarked

/-- No line of emissions stands above their depth. -/
theorem le_depth_of_mem_linesOf
    {depth : Nat}
    {emissions : List (Emission ε π)}
    {line : Line}
    (member : line ∈ linesOf depth emissions) :
    depth ≤ line.depth := by
  refine forall_mem_linesOf (P := fun line => depth ≤ line.depth) ?_ emissions line member
  intro text deeper below line inText
  rwa [depth_of_mem_ofText inText]

/-- No stored line has a line end in it. -/
theorem noLineEnd_of_mem_linesOf
    {depth : Nat}
    {emissions : List (Emission ε π)}
    {line : Line}
    (member : line ∈ linesOf depth emissions) :
    '\n' ∉ line.text.toList := by
  refine forall_mem_linesOf (P := fun line => '\n' ∉ line.text.toList) ?_ emissions line member
  intro text deeper _ line inText
  exact noLineEnd_of_mem_ofText inText

end Emission

namespace Builder

mutual

/-- An operation ends as it says, on every builder. -/
@[simp] theorem run_outcome
    (b : Builder) :
    (operation : Operation ε π) → (b.run operation).outcome = operation.outcome
  | .line _ => by simp [run, Operation.outcome]
  | .scope header body => by
      simp [run, Operation.outcome, runAll_outcome (b.enter header) body]
  | .attempt label body => by
      have inner := runAll_outcome b body
      cases ended : Operation.outcomeOf body <;>
        simp [run, Operation.outcome, ended, inner]
  | .observe _ => by simp [run, Operation.outcome]
  | .fail _ => by simp [run, Operation.outcome]
  | .abort _ => by simp [run, Operation.outcome]

/-- Operations one after the other end as they say, on every builder. -/
@[simp] theorem runAll_outcome
    (b : Builder) :
    (operations : List (Operation ε π)) →
      (b.runAll operations).outcome = Operation.outcomeOf operations
  | [] => by simp [runAll, Operation.outcomeOf]
  | operation :: rest => by
      have first := run_outcome b operation
      have later := runAll_outcome (b.run operation).builder rest
      cases ended : operation.outcome <;>
        simp [runAll, Operation.outcomeOf, ended, first, later]

end

mutual

/-- An operation gives the builder back at the depth at which it got it. -/
@[simp] theorem run_depth
    (b : Builder) :
    (operation : Operation ε π) → (b.run operation).builder.depth = b.depth
  | .line _ => by simp [run, write]
  | .scope header body => by
      have inner := runAll_depth (b.enter header) body
      have entered : (b.enter header).depth = b.depth + 1 := rfl
      simp only [run, leave]
      split <;> simp [write, inner, entered]
  | .attempt label body => by
      have inner := runAll_depth b body
      simp only [run]
      split <;> simpa using inner
  | .observe _ => by simp [run]
  | .fail _ => by simp [run]
  | .abort _ => by simp [run]

/-- Operations one after the other give the builder back at the depth at which they got it. -/
@[simp] theorem runAll_depth
    (b : Builder) :
    (operations : List (Operation ε π)) → (b.runAll operations).builder.depth = b.depth
  | [] => by simp [runAll]
  | operation :: rest => by
      have first := run_depth b operation
      have later := runAll_depth (b.run operation).builder rest
      simp only [runAll]
      split
      · exact later.trans first
      · exact first

end

/-- Leaving a scope keeps the lines, and adds the closing brace when the body was completed. -/
theorem leave_lines
    (b : Builder)
    (completed : Bool) :
    (b.leave completed).buffer.lines =
      b.buffer.lines ++ (if completed then [⟨closing, b.depth - 1⟩] else []) := by
  cases completed <;> simp [leave, write, LineBuffer.append]

mutual

/-- An operation appends the lines of what it emits. -/
theorem run_lines
    (b : Builder) :
    (operation : Operation ε π) →
      (b.run operation).builder.buffer.lines =
        b.buffer.lines ++ Emission.linesOf b.depth operation.emitted
  | .line text => by simp [run, write, LineBuffer.append, Operation.emitted]
  | .scope header body => by
      have inner := runAll_lines (b.enter header) body
      have entered : (b.enter header).buffer.lines =
          b.buffer.lines ++ Line.ofText (opening header) b.depth := rfl
      have deeper : (b.enter header).depth = b.depth + 1 := rfl
      have left := leave_lines ((b.enter header).runAll body).builder
        ((b.enter header).runAll body).outcome.isCompleted
      rw [runAll_outcome, runAll_depth, inner, entered, deeper] at left
      simp only [run, runAll_outcome, Operation.emitted, Emission.linesOf_scope, left]
      simp [List.append_assoc]
  | .attempt label body => by
      have inner := runAll_lines b body
      simp only [run, Operation.emitted]
      split <;> simpa using inner
  | .observe _ => by simp [run, Operation.emitted]
  | .fail _ => by simp [run, Operation.emitted]
  | .abort _ => by simp [run, Operation.emitted]

/-- Operations one after the other append the lines of what they emit. -/
theorem runAll_lines
    (b : Builder) :
    (operations : List (Operation ε π)) →
      (b.runAll operations).builder.buffer.lines =
        b.buffer.lines ++ Emission.linesOf b.depth (Operation.emittedOf operations)
  | [] => by simp [runAll, Operation.emittedOf]
  | operation :: rest => by
      have first := run_lines b operation
      have later := runAll_lines (b.run operation).builder rest
      rw [first, run_depth] at later
      cases ended : operation.outcome <;>
        simp [runAll, Operation.emittedOf, ended, first, later]

end

end Builder

end Emission

end Code
end Scaffold
