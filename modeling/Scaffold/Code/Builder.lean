import Scaffold.Code.Line

/-!
# Builders of code in braces

A builder holds the lines emitted so far and the current depth.  Entering a scope writes its header
and goes one step deeper; leaving it comes back and writes the closing brace, but only when the body
was completed.

What is emitted is described by operations.  Running them follows their nesting, so that every scope
that is entered is left exactly once, whether its body completes, fails or is aborted.  A failure
travels outwards until an attempt catches it; nothing catches an abort.  Observations on the way are
kept in a log.
-/

namespace Scaffold
namespace Code

section Builder

variable {ε π : Type}

/-- The lines emitted so far and the current depth. -/
structure Builder where
  depth : Nat
  buffer : LineBuffer
  deriving DecidableEq

namespace Builder

/-- The builder without lines. -/
def empty : Builder := ⟨0, .empty⟩

/-- Writes a text at the current depth. -/
def write
    (b : Builder)
    (text : String) : Builder :=
  { b with buffer := b.buffer.append text b.depth }

/-- The line that opens a scope. -/
def opening (header : String) : String :=
  if header = "" then "\x7b" else header ++ " \x7b"

/-- The line that closes a scope. -/
def closing : String := "\x7d"

/-- Enters a scope. -/
def enter
    (b : Builder)
    (header : String) : Builder :=
  { b.write (opening header) with depth := b.depth + 1 }

/-- Leaves a scope; only a completed one is closed by a brace. -/
def leave
    (b : Builder)
    (completed : Bool) : Builder :=
  let outside := { b with depth := b.depth - 1 }
  if completed then outside.write closing else outside

/-- The written form of what was emitted. -/
def render
    (b : Builder)
    (indent : Indent) : String :=
  b.buffer.render indent

end Builder

/-- What is emitted: lines, scopes around operations, and the ways to stop early.

A failure carries a value of `ε` and can be caught; an abort carries a value of `π` and cannot. -/
inductive Operation (ε π : Type) where
  | line (text : String)
  | scope (header : String) (body : List (Operation ε π))
  | attempt (label : String) (body : List (Operation ε π))
  | observe (label : String)
  | fail (reason : ε)
  | abort (reason : π)

namespace Operation

/-- A comment to the end of the line. -/
def comment (text : String) : Operation ε π :=
  line ("// " ++ text)

/-- A documentation comment on one line. -/
def javadoc (text : String) : Operation ε π :=
  line ("/** " ++ text ++ " */")

/-- An empty line. -/
def blank : Operation ε π :=
  line ""

/-- A line for each item. -/
def each (items : List String) : List (Operation ε π) :=
  items.map line

/-- Some operations under a condition. -/
def when
    (condition : Bool)
    (body : List (Operation ε π)) : List (Operation ε π) :=
  if condition then body else []

end Operation

/-- How a run ends. -/
inductive Outcome (ε π : Type) where
  | completed
  | failed (reason : ε)
  | aborted (reason : π)
  deriving DecidableEq

namespace Outcome

/-- Whether a run came to its end. -/
def isCompleted : Outcome ε π → Bool
  | completed => true
  | _ => false

end Outcome

/-- What was seen at one point of a run: the builder there and the failure caught there, if any. -/
structure Observation (ε : Type) where
  label : String
  builder : Builder
  caught : Option ε

/-- What a run leaves behind. -/
structure Run (ε π : Type) where
  builder : Builder
  log : List (Observation ε)
  outcome : Outcome ε π

namespace Builder

mutual

/-- Runs an operation. -/
def run (b : Builder) : Operation ε π → Run ε π
  | .line text => ⟨b.write text, [], .completed⟩
  | .scope header body =>
      let inner := runAll (b.enter header) body
      ⟨inner.builder.leave inner.outcome.isCompleted, inner.log, inner.outcome⟩
  | .attempt label body =>
      let inner := runAll b body
      match inner.outcome with
      | .failed reason =>
          ⟨inner.builder, inner.log ++ [⟨label, inner.builder, some reason⟩], .completed⟩
      | outcome => ⟨inner.builder, inner.log, outcome⟩
  | .observe label => ⟨b, [⟨label, b, none⟩], .completed⟩
  | .fail reason => ⟨b, [], .failed reason⟩
  | .abort reason => ⟨b, [], .aborted reason⟩

/-- Runs operations one after the other, up to the first that does not complete. -/
def runAll (b : Builder) : List (Operation ε π) → Run ε π
  | [] => ⟨b, [], .completed⟩
  | operation :: rest =>
      let first := run b operation
      match first.outcome with
      | .completed =>
          let later := runAll first.builder rest
          ⟨later.builder, first.log ++ later.log, later.outcome⟩
      | outcome => ⟨first.builder, first.log, outcome⟩

end

end Builder

end Builder

end Code
end Scaffold
