import Mathlib.Data.List.Infix
import Scaffold.Text.Pieces

/-!
# Replacing a literal

How often a literal stands in a text, and what replacing it makes of a text that is put together from
parts.  Literals that cannot overlap, neither each other nor themselves, are told apart wherever they
stand: a text with one of them in the middle is replaced part by part, and replacing one of them leaves
the others where they are.
-/

namespace Scaffold
namespace Text

/-- At how many places of a text a literal stands. -/
def places (literal : List Char) : List Char → Nat
  | [] => 0
  | c :: rest => (if literal.isPrefixOf (c :: rest) then 1 else 0) + places literal rest

/-- Where the first literal stands, the second begins nowhere behind its first character. -/
def ClearOf (literal other : List Char) : Prop :=
  ∀ tail ∈ literal.tail.tails, tail ≠ [] → ¬ other <+: tail ∧ ¬ tail <+: other

instance (literal other : List Char) : Decidable (ClearOf literal other) :=
  inferInstanceAs (Decidable (∀ tail ∈ literal.tail.tails, _))

/-- Neither of two literals is a beginning of the other. -/
def Incomparable (literal other : List Char) : Prop :=
  ¬ literal <+: other ∧ ¬ other <+: literal

instance (literal other : List Char) : Decidable (Incomparable literal other) :=
  inferInstanceAs (Decidable (_ ∧ _))

section Places

variable {literal other front back tail : List Char}

theorem places_append_le (literal front back : List Char) :
    places literal front + places literal back ≤ places literal (front ++ back) := by
  induction front with
  | nil => simp [places]
  | cons c front ih =>
      have kept : literal.isPrefixOf (c :: front) = true →
          literal.isPrefixOf (c :: (front ++ back)) = true := by
        simp only [List.isPrefixOf_iff_prefix]
        exact fun first => first.trans (List.prefix_append _ _)
      simp only [places, List.cons_append]
      split
      · next first => simpa [kept first, Nat.add_assoc] using ih
      · split <;> omega

theorem not_prefix_of_clearOf
    (clear : ClearOf literal other)
    (isTail : tail <:+ literal.tail)
    (nonempty : tail ≠ [])
    (back : List Char) :
    ¬ other <+: tail ++ back := by
  intro begins
  obtain ⟨apart, apart'⟩ := clear tail ((List.mem_tails _ _).2 isTail) nonempty
  rcases List.prefix_or_prefix_of_prefix begins (List.prefix_append tail back) with first | first
  · exact apart first
  · exact apart' first

/-- No place of a literal lies behind the first character of a literal that is clear of it. -/
theorem places_tail_append
    (clear : ClearOf literal other)
    (isTail : tail <:+ literal.tail)
    (back : List Char) :
    places other (tail ++ back) = places other back := by
  induction tail with
  | nil => rfl
  | cons c tail ih =>
      have apart := not_prefix_of_clearOf clear isTail (by simp) back
      rw [List.cons_append] at apart
      simp [places, apart, ih ((List.suffix_cons c tail).trans isTail)]

/-- A literal stands once where it stands. -/
theorem places_self_append
    (clear : ClearOf literal literal)
    (nonempty : literal ≠ [])
    (back : List Char) :
    places literal (literal ++ back) = places literal back + 1 := by
  obtain ⟨c, tail, rfl⟩ := List.exists_cons_of_ne_nil nonempty
  have later := places_tail_append clear List.suffix_rfl back
  rw [List.tail_cons] at later
  simp [places, later, Nat.add_comm]

/-- Another literal does not stand there. -/
theorem places_other_append
    (clear : ClearOf literal other)
    (apart : Incomparable literal other)
    (back : List Char) :
    places other (literal ++ back) = places other back := by
  cases literal with
  | nil => rfl
  | cons c tail =>
      have notFirst : ¬ other <+: c :: (tail ++ back) := fun begins =>
        (List.prefix_or_prefix_of_prefix begins (List.prefix_append (c :: tail) back)).elim
          apart.2 apart.1
      simpa [places, notFirst] using places_tail_append clear List.suffix_rfl back

/-- What stands at the beginning of a text does not reach into a literal further on. -/
theorem prefix_append_iff_of_clearOf
    (clear : ClearOf literal other)
    (nonempty : front ≠ [])
    (back : List Char) :
    literal <+: front ++ (other ++ back) ↔ literal <+: front := by
  refine ⟨fun begins => ?_, fun begins => begins.trans (List.prefix_append _ _)⟩
  rcases List.prefix_or_prefix_of_prefix begins (List.prefix_append front _) with within | ⟨rest, rfl⟩
  · exact within
  · by_cases whole : rest = []
    · simp [whole]
    · -- the rest of the literal would share its beginning with the other one
      have isTail : rest <:+ (front ++ rest).tail := by
        obtain ⟨c, front, rfl⟩ := List.exists_cons_of_ne_nil nonempty
        exact List.suffix_append front rest
      obtain ⟨apart, apart'⟩ := clear rest ((List.mem_tails _ _).2 isTail) whole
      have shared : rest <+: other ++ back := (List.prefix_append_right_inj front).1 begins
      rcases List.prefix_or_prefix_of_prefix shared (List.prefix_append other back) with first | first
      · exact absurd first apart'
      · exact absurd first apart

/-- The places in front of a literal and those from there on are all places. -/
theorem places_append_of_clearOf
    (clear : ClearOf literal other)
    (front back : List Char) :
    places literal (front ++ (other ++ back)) =
      places literal front + places literal (other ++ back) := by
  induction front with
  | nil => simp [places]
  | cons c front ih =>
      have first := prefix_append_iff_of_clearOf clear (List.cons_ne_nil c front) back
      rw [List.cons_append] at first
      simp [places, ih, first, Nat.add_assoc]

/-- A literal stands nowhere in a text that lacks its first character. -/
theorem places_append_of_not_mem
    {c : Char}
    (begins : literal.head? = some c)
    (absent : c ∉ front)
    (back : List Char) :
    places literal (front ++ back) = places literal back := by
  obtain ⟨rest, rfl⟩ := List.head?_eq_some_iff.1 begins
  induction front with
  | nil => rfl
  | cons d front ih =>
      obtain ⟨differs, absent⟩ : c ≠ d ∧ c ∉ front := by simpa using absent
      simp [places, differs, ih absent]

end Places

section ReplaceAll

variable {literal other value front back tail cs : List Char}

theorem replaceAll_skip
    (literal value : List Char)
    (skip : Nat)
    (cs : List Char) :
    replaceAll literal value skip cs = replaceAll literal value 0 (cs.drop skip) := by
  induction cs generalizing skip with
  | nil => simp [replaceAll]
  | cons c rest ih =>
      cases skip with
      | zero => rfl
      | succ skip => rw [replaceAll, ih, List.drop_succ_cons]

/-- Where the literal stands, its value is put. -/
theorem replaceAll_self_append
    (nonempty : literal ≠ [])
    (back : List Char) :
    replaceAll literal value 0 (literal ++ back) = value ++ replaceAll literal value 0 back := by
  obtain ⟨c, tail, rfl⟩ := List.exists_cons_of_ne_nil nonempty
  have first : (c :: tail) <+: c :: (tail ++ back) := List.prefix_append (c :: tail) back
  rw [List.cons_append, replaceAll, if_pos (List.isPrefixOf_iff_prefix.2 first), replaceAll_skip]
  simp

/-- A text without the literal stays as it is. -/
theorem replaceAll_of_places_eq_zero
    (none : places literal cs = 0) :
    replaceAll literal value 0 cs = cs := by
  induction cs with
  | nil => rfl
  | cons c rest ih =>
      obtain ⟨notFirst, later⟩ : ¬ literal.isPrefixOf (c :: rest) = true ∧ places literal rest = 0 := by
        simpa [places] using none
      rw [replaceAll, if_neg notFirst, ih later]

/-- A text in which the literal stands is replaced in front of that place and from there on. -/
theorem replaceAll_append_self
    (clear : ClearOf literal literal)
    (front back : List Char) :
    replaceAll literal value 0 (front ++ (literal ++ back)) =
      replaceAll literal value 0 front ++ replaceAll literal value 0 (literal ++ back) := by
  have general : ∀ skip ≤ front.length,
      replaceAll literal value skip (front ++ (literal ++ back)) =
        replaceAll literal value skip front ++ replaceAll literal value 0 (literal ++ back) := by
    induction front with
    | nil =>
        intro skip bound
        obtain rfl : skip = 0 := by simpa using bound
        rfl
    | cons c front ih =>
        intro skip bound
        cases skip with
        | succ skip => exact ih skip (by simpa using bound)
        | zero =>
            have first : literal.isPrefixOf (c :: (front ++ (literal ++ back))) =
                literal.isPrefixOf (c :: front) := by
              rw [Bool.eq_iff_iff, List.isPrefixOf_iff_prefix, List.isPrefixOf_iff_prefix]
              exact prefix_append_iff_of_clearOf clear (List.cons_ne_nil c front) back
            simp only [List.cons_append, replaceAll, first]
            split
            · next begins =>
                have within := (List.isPrefixOf_iff_prefix.1 begins).length_le
                have bound : literal.length - 1 ≤ front.length := by
                  rw [List.length_cons] at within
                  omega
                rw [ih _ bound, List.append_assoc]
            · rw [ih 0 (Nat.zero_le _), List.cons_append]
  exact general 0 (Nat.zero_le _)

/-- A literal that cannot overlap with the replaced one is left as it stands. -/
theorem replaceAll_tail_append
    (clear : ClearOf other literal)
    (isTail : tail <:+ other.tail)
    (back : List Char) :
    replaceAll literal value 0 (tail ++ back) = tail ++ replaceAll literal value 0 back := by
  induction tail with
  | nil => rfl
  | cons c tail ih =>
      have apart := not_prefix_of_clearOf clear isTail (by simp) back
      rw [List.cons_append] at apart
      rw [List.cons_append, replaceAll, if_neg (by simpa using apart),
        ih ((List.suffix_cons c tail).trans isTail), List.cons_append]

theorem replaceAll_other_append
    (clear : ClearOf other literal)
    (apart : Incomparable literal other)
    (back : List Char) :
    replaceAll literal value 0 (other ++ back) = other ++ replaceAll literal value 0 back := by
  cases other with
  | nil => rfl
  | cons c tail =>
      have notFirst : ¬ literal <+: c :: (tail ++ back) := fun begins =>
        (List.prefix_or_prefix_of_prefix begins (List.prefix_append (c :: tail) back)).elim
          apart.1 apart.2
      have later : tail <:+ (c :: tail).tail := List.suffix_rfl
      rw [List.cons_append, replaceAll, if_neg (by simpa using notFirst),
        replaceAll_tail_append clear later, List.cons_append]

/-- What stands at the beginning still stands there when another literal is replaced behind it. -/
theorem prefix_cons_replaceAll
    {c : Char}
    (clear : ClearOf other literal)
    (begins : other <+: c :: cs) :
    other <+: c :: replaceAll literal value 0 cs := by
  obtain ⟨back, whole⟩ := begins
  cases other with
  | nil => exact List.nil_prefix
  | cons first tail =>
      obtain ⟨rfl, rfl⟩ : first = c ∧ tail ++ back = cs := by simpa using whole
      have isTail : tail <:+ (first :: tail).tail := List.suffix_rfl
      rw [replaceAll_tail_append clear isTail]
      exact List.prefix_append (first :: tail) _

/-- Replacing one literal takes away no place of another that cannot overlap with it. -/
theorem places_le_places_replaceAll
    (clear : ClearOf literal other)
    (clear' : ClearOf other literal)
    (apart : Incomparable literal other)
    (cs : List Char) :
    places other cs ≤ places other (replaceAll literal value 0 cs) := by
  have general : ∀ skip, places other (cs.drop skip) ≤ places other (replaceAll literal value skip cs) := by
    induction cs with
    | nil => simp [replaceAll]
    | cons c rest ih =>
        intro skip
        cases skip with
        | succ skip => simpa [replaceAll] using ih skip
        | zero =>
            rw [List.drop_zero, replaceAll]
            split
            · next begins =>
                obtain ⟨back, whole⟩ := List.isPrefixOf_iff_prefix.1 begins
                cases literal with
                | nil => exact absurd List.nil_prefix apart.1
                | cons first tail =>
                    obtain ⟨rfl, rfl⟩ : first = c ∧ tail ++ back = rest := by simpa using whole
                    have later : places other back ≤
                        places other (replaceAll (first :: tail) value tail.length (tail ++ back)) := by
                      simpa using ih tail.length
                    rw [← whole, places_other_append clear apart]
                    exact later.trans ((Nat.le_add_left _ _).trans (places_append_le other value _))
            · have later : places other rest ≤ places other (replaceAll literal value 0 rest) := ih 0
              have kept : other.isPrefixOf (c :: rest) = true →
                  other.isPrefixOf (c :: replaceAll literal value 0 rest) = true := by
                simpa using prefix_cons_replaceAll clear'
              simp only [places]
              split
              · next first => simpa [kept first] using later
              · omega
  exact general 0

end ReplaceAll

end Text
end Scaffold
