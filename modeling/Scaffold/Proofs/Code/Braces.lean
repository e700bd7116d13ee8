import Scaffold.Proofs.Code.Depth

/-!
# Braces of scopes

A scope that is entered at some depth stores its header there, then the lines of its body deeper
down, and then its closing brace if and only if the body was completed.  So the braces that are
missing at the end of a run are those of the scopes whose bodies failed or were aborted.

Comments, blank lines, fragments, blocks and scopes that are left unused are all made of the same few
operations, so what is shown of operations is shown of them.

A reader who sees only the stored lines can pair the braces with a stack, as long as no other line
looks like one: a line that ends in an opening brace puts its depth on the stack, and a closing brace
takes the same depth off again.
-/

namespace Scaffold
namespace Code

section Braces

variable {ε π : Type}

namespace Line

/-- Whether a line ends in an opening brace. -/
def opens (line : Line) : Prop :=
  line.text.toList.getLast? = some '\x7b'

instance (line : Line) : Decidable line.opens :=
  inferInstanceAs (Decidable (_ = _))

/-- Whether a line is a closing brace. -/
def closes (line : Line) : Prop :=
  line.text = Builder.closing

instance (line : Line) : Decidable line.closes :=
  inferInstanceAs (Decidable (_ = _))

end Line

/-- Pairs the braces of lines, given the depths that are still open, innermost first. -/
def pairBraces : List Nat → List Line → Option (List Nat)
  | stack, [] => some stack
  | stack, line :: rest =>
      if line.opens then pairBraces (line.depth :: stack) rest
      else if line.closes then
        match stack with
        | top :: below => if top = line.depth then pairBraces below rest else none
        | [] => none
      else pairBraces stack rest

namespace MarkedLine

/-- A line looks like a brace only where it is the line of a scope. -/
def Faithful (marked : MarkedLine) : Prop :=
  (marked.line.opens → marked.role = .opener) ∧ (marked.line.closes → marked.role = .closer)

instance (marked : MarkedLine) : Decidable marked.Faithful :=
  inferInstanceAs (Decidable (_ ∧ _))

/-- A faithful line of no scope's own does not look like a brace. -/
theorem Faithful.of_plain
    {line : Line}
    (faithful : (plain line).Faithful) :
    ¬ line.opens ∧ ¬ line.closes := by
  constructor
  · intro opens
    cases faithful.1 opens
  · intro closes
    cases faithful.2 closes

end MarkedLine

namespace Emission

mutual

/-- The number of scopes in an emission whose bodies were not completed. -/
def broken : Emission ε π → Nat
  | .text _ => 0
  | .scope _ body ended => brokenIn body + (if ended.isCompleted then 0 else 1)

/-- The number of scopes in emissions whose bodies were not completed. -/
def brokenIn : List (Emission ε π) → Nat
  | [] => 0
  | emission :: rest => emission.broken + brokenIn rest

end

/-- The number of lines that have a role. -/
def count
    (role : Role)
    (lines : List MarkedLine) : Nat :=
  lines.countP fun marked => marked.role = role

@[simp] theorem count_append
    (role : Role)
    (first later : List MarkedLine) :
    count role (first ++ later) = count role first + count role later := by
  simp [count]

theorem count_plain
    {role : Role}
    (brace : role ≠ .plain)
    (lines : List Line) :
    count role (lines.map MarkedLine.plain) = 0 := by
  simp [count, MarkedLine.plain, brace.symm]

theorem count_opener_opening
    {lines : List Line}
    (nonempty : lines ≠ []) :
    count .opener (MarkedLine.opening lines) = 1 := by
  induction lines with
  | nil => exact absurd rfl nonempty
  | cons first rest ih =>
      cases rest with
      | nil => rfl
      | cons second rest =>
          have later := ih (List.cons_ne_nil _ _)
          simpa [MarkedLine.opening, MarkedLine.plain, count] using later

theorem count_closer_opening (lines : List Line) :
    count .closer (MarkedLine.opening lines) = 0 := by
  induction lines with
  | nil => rfl
  | cons first rest ih =>
      cases rest with
      | nil => rfl
      | cons second rest => simpa [MarkedLine.opening, MarkedLine.plain, count] using ih

theorem count_opener_closing
    (ended : Outcome ε π)
    (depth : Nat) :
    count .opener (MarkedLine.closing ended depth) = 0 := by
  unfold MarkedLine.closing
  split <;> rfl

theorem count_closer_closing
    (ended : Outcome ε π)
    (depth : Nat) :
    count .closer (MarkedLine.closing ended depth) = if ended.isCompleted then 1 else 0 := by
  unfold MarkedLine.closing
  split <;> rfl

mutual

/-- In an emission every opened scope is closed or broken. -/
theorem count_opener_marked
    (depth : Nat) :
    (emission : Emission ε π) →
      count .opener (emission.marked depth) =
        count .closer (emission.marked depth) + emission.broken
  | .text content => by simp [marked, broken, count_plain]
  | .scope header body ended => by
      have inner := count_opener_markedOf (depth + 1) body
      have opened := count_opener_opening (ofText_ne_nil (Builder.opening header) depth)
      simp only [marked, broken, count_append, opened, count_closer_opening, inner,
        count_opener_closing, count_closer_closing]
      split <;> omega

theorem count_opener_markedOf
    (depth : Nat) :
    (emissions : List (Emission ε π)) →
      count .opener (markedOf depth emissions) =
        count .closer (markedOf depth emissions) + brokenIn emissions
  | [] => rfl
  | emission :: rest => by
      have first := count_opener_marked depth emission
      have later := count_opener_markedOf depth rest
      simp only [markedOf, brokenIn, count_append, first, later]
      omega

end

end Emission

/-- A header ends in the line with its brace. -/
theorem last_line_of_opening
    (header : String)
    (depth : Nat) :
    ∃ last, (Line.ofText (Builder.opening header) depth).getLast? = some last ∧
      last.depth = depth ∧ last.opens := by
  have brace : (Builder.opening header).toList.getLast? = some '\x7b' := by
    unfold Builder.opening
    split
    · rfl
    · simp
  obtain ⟨text, isLast, ends⟩ := Text.getLast?_lines brace (by decide) (by decide)
  exact ⟨⟨text, depth⟩, by simp [Line.ofText, isLast], rfl, ends⟩

/-- A line that opens is no line that closes. -/
theorem not_closes_of_opens
    {line : Line}
    (h : line.opens) :
    ¬ line.closes := by
  intro closes
  rw [Line.opens, closes] at h
  exact absurd h (by decide)

/-- The closing brace of a scope takes its depth off the stack. -/
theorem pairBraces_closing
    (depth : Nat)
    (stack : List Nat) :
    pairBraces (depth :: stack) [⟨Builder.closing, depth⟩] = some stack := by
  have closes : Line.closes ⟨Builder.closing, depth⟩ := rfl
  have opensNot : ¬ Line.opens ⟨Builder.closing, depth⟩ := by
    intro opens
    exact not_closes_of_opens opens closes
  simp [pairBraces, opensNot, closes]

/-- Lines one after the other are paired one after the other. -/
theorem pairBraces_append
    (stack : List Nat)
    (first later : List Line) :
    pairBraces stack (first ++ later) = (pairBraces stack first).bind (pairBraces · later) := by
  induction first generalizing stack with
  | nil => rfl
  | cons line rest ih =>
      by_cases opens : line.opens
      · simp [pairBraces, opens, ih]
      · by_cases closes : line.closes
        · cases stack with
          | nil => simp [pairBraces, opens, closes]
          | cons top below =>
              by_cases same : top = line.depth
              · simp [pairBraces, opens, closes, same, ih]
              · simp [pairBraces, opens, closes, same]
        · simp [pairBraces, opens, closes, ih]

/-- Lines that do not look like braces leave the stack alone. -/
theorem pairBraces_of_plain
    {lines : List Line}
    (plain : ∀ line ∈ lines, ¬ line.opens ∧ ¬ line.closes)
    (stack : List Nat) :
    pairBraces stack lines = some stack := by
  induction lines with
  | nil => rfl
  | cons line rest ih =>
      obtain ⟨opens, closes⟩ := plain line List.mem_cons_self
      have later := ih fun other member => plain other (List.mem_cons_of_mem _ member)
      simp [pairBraces, opens, closes, later]

/-- A faithful header puts its depth on the stack. -/
theorem pairBraces_opening
    {lines : List Line}
    {last : Line}
    (isLast : lines.getLast? = some last)
    (opens : last.opens)
    (faithful : ∀ marked ∈ MarkedLine.opening lines, marked.Faithful)
    (stack : List Nat) :
    pairBraces stack lines = some (last.depth :: stack) := by
  induction lines with
  | nil => simp at isLast
  | cons line rest ih =>
      cases rest with
      | nil =>
          have same : line = last := by simpa using isLast
          simp [pairBraces, same, opens]
      | cons second rest =>
          have front : (MarkedLine.plain line).Faithful := faithful _ List.mem_cons_self
          obtain ⟨opensNot, closesNot⟩ := front.of_plain
          have later := ih (by simpa using isLast)
            fun marked member => faithful marked (List.mem_cons_of_mem _ member)
          simpa [pairBraces, opensNot, closesNot] using later

namespace Emission

mutual

/-- The braces of a faithful emission without broken scopes are paired among themselves. -/
theorem pairBraces_marked
    (depth : Nat)
    (stack : List Nat) :
    (emission : Emission ε π) → emission.broken = 0 →
      (∀ marked ∈ emission.marked depth, marked.Faithful) →
        pairBraces stack ((emission.marked depth).map MarkedLine.line) = some stack
  | .text content, _, faithful => by
      have plain : ∀ line ∈ Line.ofText content depth, ¬ line.opens ∧ ¬ line.closes := by
        intro line member
        exact (faithful (.plain line) (List.mem_map_of_mem member)).of_plain
      simpa [marked] using pairBraces_of_plain plain stack
  | .scope header body ended, whole, faithful => by
      obtain ⟨last, isLast, atDepth, opens⟩ := last_line_of_opening header depth
      simp only [marked, List.mem_append] at faithful
      have opened := pairBraces_opening isLast opens
        (fun marked member => faithful marked (.inl (.inl member))) stack
      have bodyWhole : brokenIn body = 0 := by
        simp only [broken] at whole
        omega
      have inner := pairBraces_markedOf (depth + 1) (depth :: stack) body bodyWhole
        (fun marked member => faithful marked (.inl (.inr member)))
      have completed : ended.isCompleted = true := by
        cases state : ended.isCompleted with
        | true => rfl
        | false => simp [broken, state] at whole
      have closed := pairBraces_closing depth stack
      rw [atDepth] at opened
      simp [marked, MarkedLine.closing, completed, pairBraces_append, opened, inner, closed]

theorem pairBraces_markedOf
    (depth : Nat)
    (stack : List Nat) :
    (emissions : List (Emission ε π)) → brokenIn emissions = 0 →
      (∀ marked ∈ markedOf depth emissions, marked.Faithful) →
        pairBraces stack ((markedOf depth emissions).map MarkedLine.line) = some stack
  | [], _, _ => rfl
  | emission :: rest, whole, faithful => by
      simp only [brokenIn] at whole
      simp only [markedOf, List.mem_append] at faithful
      have first := pairBraces_marked depth stack emission (by omega)
        (fun marked member => faithful marked (.inl member))
      have later := pairBraces_markedOf depth stack rest (by omega)
        (fun marked member => faithful marked (.inr member))
      simp [markedOf, pairBraces_append, first, later]

end

end Emission

/-- A scope stores its header, then its body one step deeper, then its brace if it has one. -/
theorem Builder.run_scope_lines
    (b : Builder)
    (header : String)
    (body : List (Operation ε π)) :
    ∃ within,
      ((b.enter header).runAll body).builder.buffer.lines =
        b.buffer.lines ++ Line.ofText (Builder.opening header) b.depth ++ within ∧
      (∀ line ∈ within, b.depth + 1 ≤ line.depth) ∧
      (b.run (.scope header body)).builder.buffer.lines =
        b.buffer.lines ++ Line.ofText (Builder.opening header) b.depth ++ within ++
          (if ((b.enter header).runAll body).outcome.isCompleted
            then [⟨Builder.closing, b.depth⟩] else []) := by
  let within := Emission.linesOf (b.depth + 1) (Operation.emittedOf body)
  have filled : ((b.enter header).runAll body).builder.buffer.lines =
      b.buffer.lines ++ Line.ofText (Builder.opening header) b.depth ++ within :=
    Builder.runAll_lines (b.enter header) body
  have whole := Builder.run_lines b (.scope header body)
  rw [Operation.emitted, Emission.linesOf_scope] at whole
  refine ⟨within, filled, ?_, ?_⟩
  · intro line member
    exact Emission.le_depth_of_mem_linesOf member
  · rw [whole, Builder.runAll_outcome]
    simp [within, List.append_assoc]

/--
Braces of a run, whatever its bodies do.  The run ends as its operations say and appends the lines of
what they emit.  Every scope that is entered on the way stores its header at the depth it finds, then
lines that are all deeper, and then one closing brace at its own depth if and only if its body was
completed; so the scopes without a brace are those whose bodies failed or were aborted.  If there is
none of them and no other line looks like a brace, the braces are paired with nothing left over.
-/
theorem scopes_emit_paired_braces
    (b : Builder)
    (operations : List (Operation ε π)) :
    let emissions := Operation.emittedOf operations
    let added := Emission.markedOf b.depth emissions
    let final := (b.runAll operations).builder.buffer.lines
    (b.runAll operations).outcome = Operation.outcomeOf operations ∧
    final = b.buffer.lines ++ added.map MarkedLine.line ∧
    (∀ inner point header body ahead,
      Reaches b operations inner point (.scope header body :: ahead) →
        ∃ within,
          ((point.enter header).runAll body).builder.buffer.lines =
            point.buffer.lines ++ Line.ofText (Builder.opening header) point.depth ++ within ∧
          (∀ line ∈ within, point.depth + 1 ≤ line.depth) ∧
          (point.run (.scope header body)).builder.buffer.lines =
            point.buffer.lines ++ Line.ofText (Builder.opening header) point.depth ++ within ++
              (if ((point.enter header).runAll body).outcome.isCompleted
                then [⟨Builder.closing, point.depth⟩] else []) ∧
          (point.run (.scope header body)).builder.buffer.lines <+: final) ∧
    Emission.count .opener added = Emission.count .closer added + Emission.brokenIn emissions ∧
    (Emission.brokenIn emissions = 0 → (∀ marked ∈ added, marked.Faithful) →
      (∀ stack, pairBraces stack (added.map MarkedLine.line) = some stack) ∧
      ((∀ line ∈ b.buffer.lines, ¬ line.opens ∧ ¬ line.closes) →
        pairBraces [] final = some [])) := by
  intro emissions added final
  have stored : final = b.buffer.lines ++ added.map MarkedLine.line :=
    b.runAll_lines operations
  refine ⟨b.runAll_outcome operations, stored, ?_, ?_, ?_⟩
  · intro inner point header body ahead reached
    obtain ⟨within, filled, deeper, whole⟩ := point.run_scope_lines header body
    refine ⟨within, filled, deeper, whole, ?_⟩
    exact (point.run_prefix_runAll (.scope header body) ahead).trans reached.runAll_prefix
  · exact Emission.count_opener_markedOf b.depth emissions
  · intro whole faithful
    have paired : ∀ stack, pairBraces stack (added.map MarkedLine.line) = some stack :=
      fun stack => Emission.pairBraces_markedOf b.depth stack emissions whole faithful
    refine ⟨paired, ?_⟩
    intro plain
    rw [stored, pairBraces_append, pairBraces_of_plain plain]
    exact paired []

/-- A class with a method, after a failure that was caught outside of any scope. -/
theorem class_with_method_is_paired :
    let b : Builder := ⟨1, ⟨[⟨"// shop", 1⟩]⟩⟩
    let operations : List (Operation String String) :=
      [.attempt "caught" [.line "// draft", .fail "no type"],
       .scope "@Data\nclass A" [.line "int x;", .scope "void m()" []]]
    Emission.brokenIn (Operation.emittedOf operations) = 0 ∧
    pairBraces [] (b.runAll operations).builder.buffer.lines = some [] := by
  intro b operations
  have whole : Emission.brokenIn (Operation.emittedOf operations) = 0 := by decide
  obtain ⟨-, -, -, -, paired⟩ := scopes_emit_paired_braces b operations
  exact ⟨whole, (paired whole (by decide)).2 (by decide)⟩

end Braces

end Code
end Scaffold
