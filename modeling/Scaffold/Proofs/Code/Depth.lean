import Scaffold.Proofs.Code.Emission

/-!
# Depth along a run

The points that a run comes to are the places between operations where the next one is about to
start, each with the builder there, the operations that are still ahead in the same body, and the
number of scopes that were entered on the way.

At every point the depth is the depth at the start of the run plus the number of open scopes, and the
lines stored so far only grow.  This holds whatever ends a body, since the depth is given back on
each of the three ways out of a scope.
-/

namespace Scaffold
namespace Code

section Depth

variable {ε π : Type}

/--
`Reaches b operations inner point ahead`: running `operations` from `b` comes to the builder `point`
with the operations `ahead` still to run, inside `inner` scopes that were entered on the way.
-/
inductive Reaches :
    Builder → List (Operation ε π) → Nat → Builder → List (Operation ε π) → Prop
  | here
      {b : Builder}
      {operations : List (Operation ε π)} :
      Reaches b operations 0 b operations
  | after
      {b point : Builder}
      {operation : Operation ε π}
      {rest ahead : List (Operation ε π)}
      {inner : Nat}
      (completed : (b.run operation).outcome = .completed)
      (onwards : Reaches (b.run operation).builder rest inner point ahead) :
      Reaches b (operation :: rest) inner point ahead
  | inScope
      {b point : Builder}
      {header : String}
      {body rest ahead : List (Operation ε π)}
      {inner : Nat}
      (inwards : Reaches (b.enter header) body inner point ahead) :
      Reaches b (.scope header body :: rest) (inner + 1) point ahead
  | inAttempt
      {b point : Builder}
      {label : String}
      {body rest ahead : List (Operation ε π)}
      {inner : Nat}
      (inwards : Reaches b body inner point ahead) :
      Reaches b (.attempt label body :: rest) inner point ahead

namespace Builder

theorem lines_prefix_run
    (b : Builder)
    (operation : Operation ε π) :
    b.buffer.lines <+: (b.run operation).builder.buffer.lines := by
  rw [run_lines]
  exact List.prefix_append _ _

theorem lines_prefix_runAll
    (b : Builder)
    (operations : List (Operation ε π)) :
    b.buffer.lines <+: (b.runAll operations).builder.buffer.lines := by
  rw [runAll_lines]
  exact List.prefix_append _ _

theorem lines_prefix_enter
    (b : Builder)
    (header : String) :
    b.buffer.lines <+: (b.enter header).buffer.lines :=
  List.prefix_append _ _

theorem lines_prefix_leave
    (b : Builder)
    (completed : Bool) :
    b.buffer.lines <+: (b.leave completed).buffer.lines := by
  rw [leave_lines]
  exact List.prefix_append _ _

/-- The lines of a first operation are a beginning of the lines of the whole run. -/
theorem run_prefix_runAll
    (b : Builder)
    (operation : Operation ε π)
    (rest : List (Operation ε π)) :
    (b.run operation).builder.buffer.lines <+:
      (b.runAll (operation :: rest)).builder.buffer.lines := by
  simp only [runAll]
  split
  · exact lines_prefix_runAll _ rest
  · exact List.prefix_rfl

end Builder

namespace Reaches

variable {b point : Builder} {operations ahead : List (Operation ε π)} {inner : Nat}

/-- The depth at a point is the depth at the start plus the number of scopes around it. -/
theorem depth
    (reached : Reaches b operations inner point ahead) :
    point.depth = b.depth + inner := by
  induction reached with
  | here => rfl
  | after completed onwards ih => simpa using ih
  | @inScope b point header body rest ahead inner inwards ih =>
      have entered : (b.enter header).depth = b.depth + 1 := rfl
      omega
  | inAttempt inwards ih => exact ih

/-- What was stored at the start is still stored at a point. -/
theorem lines_prefix
    (reached : Reaches b operations inner point ahead) :
    b.buffer.lines <+: point.buffer.lines := by
  induction reached with
  | here => exact List.prefix_rfl
  | after completed onwards ih => exact (Builder.lines_prefix_run _ _).trans ih
  | inScope inwards ih => exact (Builder.lines_prefix_enter _ _).trans ih
  | inAttempt inwards ih => exact ih

/-- What is stored when a body ends is still stored when the whole run ends. -/
theorem runAll_prefix
    (reached : Reaches b operations inner point ahead) :
    (point.runAll ahead).builder.buffer.lines <+:
      (b.runAll operations).builder.buffer.lines := by
  induction reached with
  | here => exact List.prefix_rfl
  | after completed onwards ih =>
      rw [Builder.runAll]
      split
      · exact ih
      · rename_i incomplete
        exact absurd completed (incomplete ·)
  | @inScope b point header body rest ahead inner inwards ih =>
      have left : ((b.enter header).runAll body).builder.buffer.lines <+:
          (b.run (.scope header body : Operation ε π)).builder.buffer.lines :=
        Builder.lines_prefix_leave _ _
      exact (ih.trans left).trans (Builder.run_prefix_runAll b _ rest)
  | @inAttempt b point label body rest ahead inner inwards ih =>
      have same : (b.run (.attempt label body : Operation ε π)).builder =
          (b.runAll body).builder := by
        simp only [Builder.run]
        split <;> rfl
      have first := Builder.run_prefix_runAll b (.attempt label body) rest
      rw [same] at first
      exact ih.trans first

end Reaches

namespace Builder

mutual

/-- What an operation observes, it observes at points that it comes to. -/
theorem reaches_of_mem_run_log
    (b : Builder) :
    (operation : Operation ε π) → (rest : List (Operation ε π)) →
      ∀ seen ∈ (b.run operation).log,
        ∃ inner ahead, Reaches b (operation :: rest) inner seen.builder ahead
  | .line _, _, seen, member => by simp [run] at member
  | .scope header body, rest, seen, member => by
      obtain ⟨inner, ahead, reached⟩ :=
        reaches_of_mem_runAll_log (b.enter header) body seen member
      exact ⟨inner + 1, ahead, .inScope reached⟩
  | .attempt label body, rest, seen, member => by
      have within := reaches_of_mem_runAll_log b body seen
      cases ended : Operation.outcomeOf body with
      | completed =>
          have unchanged : seen ∈ (b.runAll body).log := by simpa [run, ended] using member
          obtain ⟨inner, ahead, reached⟩ := within unchanged
          exact ⟨inner, ahead, .inAttempt reached⟩
      | aborted reason =>
          have unchanged : seen ∈ (b.runAll body).log := by simpa [run, ended] using member
          obtain ⟨inner, ahead, reached⟩ := within unchanged
          exact ⟨inner, ahead, .inAttempt reached⟩
      | failed reason =>
          have either : seen ∈ (b.runAll body).log ∨
              seen = ⟨label, (b.runAll body).builder, some reason⟩ := by
            simpa [run, ended] using member
          rcases either with earlier | caught
          · obtain ⟨inner, ahead, reached⟩ := within earlier
            exact ⟨inner, ahead, .inAttempt reached⟩
          · have completed : (b.run (.attempt label body)).outcome = .completed := by
              simp [Operation.outcome, ended]
            have same : (b.run (.attempt label body)).builder = seen.builder := by
              simp [run, ended, caught]
            exact ⟨0, rest, .after completed (same ▸ .here)⟩
  | .observe label, rest, seen, member => by
      have observed : seen = ⟨label, b, none⟩ := by simpa [run] using member
      subst observed
      exact ⟨0, .observe label :: rest, .here⟩
  | .fail _, _, seen, member => by simp [run] at member
  | .abort _, _, seen, member => by simp [run] at member

/-- What a run observes, it observes at points that it comes to. -/
theorem reaches_of_mem_runAll_log
    (b : Builder) :
    (operations : List (Operation ε π)) →
      ∀ seen ∈ (b.runAll operations).log,
        ∃ inner ahead, Reaches b operations inner seen.builder ahead
  | [], seen, member => by simp [runAll] at member
  | operation :: rest, seen, member => by
      have first := reaches_of_mem_run_log b operation rest seen
      cases ended : operation.outcome with
      | completed =>
          have either : seen ∈ (b.run operation).log ∨
              seen ∈ ((b.run operation).builder.runAll rest).log := by
            simpa [runAll, ended] using member
          rcases either with earlier | later
          · exact first earlier
          · obtain ⟨inner, ahead, reached⟩ :=
              reaches_of_mem_runAll_log (b.run operation).builder rest seen later
            exact ⟨inner, ahead, .after (by simp [ended]) reached⟩
      | failed reason => exact first (by simpa [runAll, ended] using member)
      | aborted reason => exact first (by simpa [runAll, ended] using member)

end

end Builder

/--
Whatever ends it, a run gives back the depth at which it started and keeps the lines that were
stored before.  At each of its points the depth counts the open scopes; an operation that starts
there gives this depth back, whether it completes, fails or is aborted, and what it stored stays
stored; and the body of a scope that starts there runs one step deeper throughout, so that leaving
the scope never takes a step below zero.  What is observed on the way is observed at such points.
-/
theorem depth_and_lines_along_run
    (b : Builder)
    (operations : List (Operation ε π)) :
    (b.runAll operations).builder.depth = b.depth ∧
    b.buffer.lines <+: (b.runAll operations).builder.buffer.lines ∧
    (∀ seen ∈ (b.runAll operations).log,
      ∃ inner ahead, Reaches b operations inner seen.builder ahead) ∧
    ∀ inner point ahead, Reaches b operations inner point ahead →
      point.depth = b.depth + inner ∧
      b.buffer.lines <+: point.buffer.lines ∧
      (∀ operation later, ahead = operation :: later →
        (point.run operation).builder.depth = point.depth ∧
        point.buffer.lines <+: (point.run operation).builder.buffer.lines ∧
        (point.run operation).builder.buffer.lines <+:
          (b.runAll operations).builder.buffer.lines) ∧
      (∀ header body later, ahead = .scope header body :: later →
        ((point.enter header).runAll body).builder.depth = point.depth + 1 ∧
        ∀ spot remaining, Reaches (point.enter header) body 0 spot remaining →
          spot.depth = point.depth + 1) := by
  refine ⟨b.runAll_depth operations, b.lines_prefix_runAll operations,
    b.reaches_of_mem_runAll_log operations, ?_⟩
  intro inner point ahead reached
  refine ⟨reached.depth, reached.lines_prefix, ?_, ?_⟩
  · rintro operation later rfl
    exact ⟨point.run_depth operation, point.lines_prefix_run operation,
      (point.run_prefix_runAll operation later).trans reached.runAll_prefix⟩
  · rintro header body later rfl
    have entered : (point.enter header).depth = point.depth + 1 := rfl
    refine ⟨by simp [entered], ?_⟩
    intro spot remaining within
    exact within.depth.trans (by simp [entered])

end Depth

end Code
end Scaffold
