import Mathlib.Data.List.Pairwise
import Mathlib.Data.List.TakeWhile
import Scaffold.Proofs.Text.Pieces
import Scaffold.Proofs.Text.Replacement

/-!
# Replacing literals one after the other and all at once

A text is cut from the left into literals and other characters.  Replacing all literals at once gives
every one of these literals its value.  Replacing one literal after the other does the same, pass by
pass, as long as no pass finds the literal anywhere else: in a value that was put in before, or where
such a value meets what stands around it.  Values without opening brackets cannot bring that about in
a text whose brackets are closed.
-/

namespace Scaffold
namespace Text

/-- A literal and the value that it gives way to. -/
abbrev Substitution := List Char × List Char

/-- What a text is cut into: literals that are replaced and single characters. -/
inductive Segment where
  | plain (c : Char)
  | literal (sub : Substitution)
  deriving DecidableEq

/-- The segments of a text, from the left. -/
def cut (subs : List Substitution) : (skip : Nat) → List Char → List Segment
  | _, [] => []
  | skip + 1, _ :: rest => cut subs skip rest
  | 0, c :: rest =>
      match subs.find? (·.1.isPrefixOf (c :: rest)) with
      | some sub => .literal sub :: cut subs (sub.1.length - 1) rest
      | none => .plain c :: cut subs 0 rest

/-- How a segment is written when some of the literals have given way to their values. -/
def Segment.spelled (done : List Substitution) : Segment → List Char
  | plain c => [c]
  | literal sub => if sub ∈ done then sub.2 else sub.1

/-- How segments are written when some of the literals have given way to their values. -/
def spell
    (done : List Substitution)
    (segments : List Segment) : List Char :=
  segments.flatMap (Segment.spelled done)

/-- The text with all literals replaced at once, from the left and without overlap. -/
def replaceTogether (subs : List Substitution) : (skip : Nat) → List Char → List Char
  | _, [] => []
  | skip + 1, _ :: rest => replaceTogether subs skip rest
  | 0, c :: rest =>
      match subs.find? (·.1.isPrefixOf (c :: rest)) with
      | some sub => sub.2 ++ replaceTogether subs (sub.1.length - 1) rest
      | none => c :: replaceTogether subs 0 rest

/-- The text with one literal replaced after the other. -/
def replaceEach
    (subs : List Substitution)
    (cs : List Char) : List Char :=
  subs.foldl (fun cs sub => replaceAll sub.1 sub.2 0 cs) cs

/-- Literals that are told apart wherever they stand. -/
structure Distinguishable (literals : List (List Char)) : Prop where
  nonempty : ∀ literal ∈ literals, literal ≠ []
  clear : ∀ literal ∈ literals, ∀ other ∈ literals, ClearOf literal other
  apart : literals.Pairwise Incomparable

section Spelling

variable {done : List Substitution} {sub : Substitution}

theorem Segment.spelled_of_mem
    (given : sub ∈ done) :
    Segment.spelled done (.literal sub) = sub.2 :=
  if_pos given

theorem Segment.spelled_of_not_mem
    (pending : sub ∉ done) :
    Segment.spelled done (.literal sub) = sub.1 :=
  if_neg pending

theorem spell_cons
    (done : List Substitution)
    (segment : Segment)
    (segments : List Segment) :
    spell done (segment :: segments) = segment.spelled done ++ spell done segments :=
  List.flatMap_cons

end Spelling

section Cutting

variable {subs : List Substitution} {sub : Substitution} {cs : List Char}

theorem cut_skip
    (subs : List Substitution)
    (skip : Nat)
    (cs : List Char) :
    cut subs skip cs = cut subs 0 (cs.drop skip) := by
  induction cs generalizing skip with
  | nil => simp [cut]
  | cons c rest ih =>
      cases skip with
      | zero => rfl
      | succ skip => rw [cut, ih, List.drop_succ_cons]

/-- A property of a text and its segments that each segment in front keeps holds of every text. -/
theorem cut_induction
    {P : List Char → List Segment → Prop}
    (nonempty : ∀ sub ∈ subs, sub.1 ≠ [])
    (nil : P [] [])
    (plain : ∀ c rest, (∀ sub ∈ subs, ¬ sub.1 <+: c :: rest) → P rest (cut subs 0 rest) →
      P (c :: rest) (.plain c :: cut subs 0 rest))
    (literal : ∀ sub ∈ subs, ∀ back, P back (cut subs 0 back) →
      P (sub.1 ++ back) (.literal sub :: cut subs 0 back))
    (cs : List Char) :
    P cs (cut subs 0 cs) := by
  induction size : cs.length using Nat.strongRecOn generalizing cs with
  | ind size ih =>
      subst size
      cases cs with
      | nil => exact nil
      | cons c rest =>
          rw [cut]
          split
          · next sub found =>
              have member := List.mem_of_find?_eq_some found
              have begins : sub.1.isPrefixOf (c :: rest) = true := by simpa using List.find?_some found
              obtain ⟨back, whole⟩ := List.isPrefixOf_iff_prefix.1 begins
              obtain ⟨first, tail, shape⟩ := List.exists_cons_of_ne_nil (nonempty sub member)
              obtain ⟨rfl, rfl⟩ : first = c ∧ tail ++ back = rest := by simpa [shape] using whole
              have skipped : cut subs (sub.1.length - 1) (tail ++ back) = cut subs 0 back := by
                rw [cut_skip, shape, List.length_cons, Nat.add_sub_cancel, List.drop_left]
              have shorter : back.length < (first :: (tail ++ back)).length := by
                rw [List.length_cons, List.length_append]
                omega
              rw [skipped, ← whole]
              exact literal sub member back (ih _ shorter back rfl)
          · next none =>
              refine plain c rest (fun sub member begins => ?_) (ih _ (by simp) rest rfl)
              exact List.find?_eq_none.1 none sub member (List.isPrefixOf_iff_prefix.2 begins)

/-- Replacing all at once writes the segments with every literal given way. -/
theorem replaceTogether_eq_spell
    (subs : List Substitution)
    (skip : Nat)
    (cs : List Char) :
    replaceTogether subs skip cs = spell subs (cut subs skip cs) := by
  induction cs generalizing skip with
  | nil => simp [replaceTogether, cut, spell]
  | cons c rest ih =>
      cases skip with
      | succ skip => exact ih skip
      | zero =>
          rw [replaceTogether, cut]
          split
          · next sub found =>
              rw [spell_cons, Segment.spelled_of_mem (List.mem_of_find?_eq_some found), ih]
          · rw [spell_cons, ih]
            rfl

/-- Before any literal gives way, the segments are the text. -/
theorem spell_nil_cut
    (nonempty : ∀ sub ∈ subs, sub.1 ≠ [])
    (cs : List Char) :
    spell [] (cut subs 0 cs) = cs := by
  refine cut_induction (P := fun cs segments => spell [] segments = cs) nonempty rfl ?_ ?_ cs
  · intro c rest _ ih
    rw [spell_cons, ih]
    rfl
  · intro sub _ back ih
    rw [spell_cons, Segment.spelled_of_not_mem List.not_mem_nil, ih]

end Cutting

section Passes

variable {subs done front back : List Substitution} {sub other : Substitution}
  {cs text : List Char} {segments : List Segment}

theorem replaceEach_append
    (front back : List Substitution)
    (cs : List Char) :
    replaceEach (front ++ back) cs = replaceEach back (replaceEach front cs) :=
  List.foldl_append

theorem Distinguishable.nonempty_of_mem
    (h : Distinguishable (subs.map Prod.fst)) :
    ∀ sub ∈ subs, sub.1 ≠ [] :=
  fun _ member => h.nonempty _ (List.mem_map_of_mem member)

theorem Distinguishable.clearOf
    (h : Distinguishable (subs.map Prod.fst))
    (member : sub ∈ subs)
    (member' : other ∈ subs) :
    ClearOf sub.1 other.1 :=
  h.clear _ (List.mem_map_of_mem member) _ (List.mem_map_of_mem member')

theorem Distinguishable.incomparable
    (h : Distinguishable (subs.map Prod.fst))
    (member : sub ∈ subs)
    (member' : other ∈ subs)
    (differs : sub ≠ other) :
    Incomparable sub.1 other.1 := by
  have symmetric : Std.Symm fun sub other : Substitution => Incomparable sub.1 other.1 :=
    ⟨fun _ _ => And.symm⟩
  exact (List.pairwise_map.1 h.apart).forall member member' differs

/-- No literal is among those that are replaced before it. -/
theorem Distinguishable.not_mem_front
    (h : Distinguishable ((front ++ sub :: back).map Prod.fst)) :
    sub ∉ front := by
  intro member
  have apart := (List.pairwise_append.1 (List.pairwise_map.1 h.apart)).2.2 sub member sub
    List.mem_cons_self
  exact apart.1 List.prefix_rfl

/-- A text has as many places of a literal as segments that are this literal. -/
theorem count_literal_cut
    (h : Distinguishable (subs.map Prod.fst))
    (member : sub ∈ subs)
    (cs : List Char) :
    (cut subs 0 cs).count (.literal sub) = places sub.1 cs := by
  refine cut_induction (P := fun cs segments => segments.count (.literal sub) = places sub.1 cs)
    h.nonempty_of_mem rfl ?_ ?_ cs
  · intro c rest none ih
    have notFirst := none sub member
    simp [places, notFirst, ih]
  · intro other among back ih
    by_cases same : other = sub
    · subst same
      rw [List.count_cons_self, ih,
        places_self_append (h.clearOf among among) (h.nonempty_of_mem other among)]
    · have differs : (Segment.literal other) ≠ .literal sub := by simpa using same
      rw [List.count_cons_of_ne differs, ih,
        places_other_append (h.clearOf among member) (h.incomparable among member same)]

/-- Where a literal has not given way, it stands at least where it is a segment. -/
theorem count_literal_le_places_spell
    (clear : ClearOf sub.1 sub.1)
    (nonempty : sub.1 ≠ [])
    (pending : sub ∉ done)
    (segments : List Segment) :
    segments.count (.literal sub) ≤ places sub.1 (spell done segments) := by
  induction segments with
  | nil => simp
  | cons segment rest ih =>
      rw [spell_cons]
      by_cases same : segment = .literal sub
      · subst same
        rw [List.count_cons_self, Segment.spelled_of_not_mem pending,
          places_self_append clear nonempty]
        exact Nat.succ_le_succ ih
      · rw [List.count_cons_of_ne same]
        exact ih.trans ((Nat.le_add_left _ _).trans (places_append_le _ _ _))

/-- A pass that finds no literal but the segments makes just these give way. -/
theorem replaceAll_spell
    (clear : ClearOf sub.1 sub.1)
    (nonempty : sub.1 ≠ [])
    (pending : sub ∉ done)
    (few : places sub.1 (text ++ spell done segments) ≤ segments.count (.literal sub)) :
    replaceAll sub.1 sub.2 0 (text ++ spell done segments) =
      text ++ spell (done ++ [sub]) segments := by
  -- `text` is what was written since the last place of the literal
  induction segments generalizing text with
  | nil =>
      have none : places sub.1 text = 0 := by simpa [spell] using few
      simpa [spell] using replaceAll_of_places_eq_zero none
  | cons segment rest ih =>
      rw [spell_cons] at few ⊢
      rw [spell_cons]
      by_cases same : segment = .literal sub
      · subst same
        have stands := Segment.spelled_of_not_mem pending
        have given : sub ∈ done ++ [sub] := List.mem_append_right _ List.mem_cons_self
        have atLeast := count_literal_le_places_spell clear nonempty pending rest
        rw [stands, places_append_of_clearOf clear, places_self_append clear nonempty,
          List.count_cons_self] at few
        have none : places sub.1 text = 0 := by omega
        have later : replaceAll sub.1 sub.2 0 ([] ++ spell done rest) = [] ++ spell (done ++ [sub]) rest :=
          ih (by rw [List.nil_append]; omega)
        rw [List.nil_append, List.nil_append] at later
        rw [stands, Segment.spelled_of_mem given, replaceAll_append_self clear,
          replaceAll_of_places_eq_zero none, replaceAll_self_append nonempty, later]
      · have kept : segment.spelled (done ++ [sub]) = segment.spelled done := by
          cases segment with
          | plain c => rfl
          | literal other =>
              have differs : other ≠ sub := by simpa using same
              simp [Segment.spelled, differs]
        rw [List.count_cons_of_ne same, ← List.append_assoc] at few
        rw [kept, ← List.append_assoc, ih few, List.append_assoc]

/-- Passes that find no literals but the segments make these give way, one literal after the other. -/
theorem replaceEach_eq_spell
    (h : Distinguishable (subs.map Prod.fst))
    (few : ∀ front sub back, subs = front ++ sub :: back →
      replaceEach front cs = spell front (cut subs 0 cs) →
        places sub.1 (spell front (cut subs 0 cs)) ≤ places sub.1 cs)
    (whole : subs = front ++ back) :
    replaceEach front cs = spell front (cut subs 0 cs) := by
  induction front using List.reverseRecOn generalizing back with
  | nil => exact (spell_nil_cut h.nonempty_of_mem cs).symm
  | append_singleton front sub ih =>
      have split : subs = front ++ sub :: back := by simpa using whole
      have member : sub ∈ subs := by simp [split]
      have pending : sub ∉ front := (split ▸ h).not_mem_front
      have earlier := ih split
      have bound := (few front sub back split earlier).trans_eq (count_literal_cut h member cs).symm
      rw [replaceEach_append, earlier]
      have onwards : replaceAll sub.1 sub.2 0 ([] ++ spell front (cut subs 0 cs)) =
          [] ++ spell (front ++ [sub]) (cut subs 0 cs) :=
        replaceAll_spell (h.clearOf member member) (h.nonempty_of_mem sub member) pending bound
      exact onwards

/-- A pass takes away no place of a later literal. -/
theorem places_le_places_replaceEach
    (h : Distinguishable (subs.map Prod.fst))
    (member : sub ∈ subs)
    (among : ∀ other ∈ front, other ∈ subs ∧ other ≠ sub)
    (cs : List Char) :
    places sub.1 cs ≤ places sub.1 (replaceEach front cs) := by
  induction front generalizing cs with
  | nil => exact Nat.le_refl _
  | cons other front ih =>
      obtain ⟨⟨isSub, differs⟩, among⟩ := List.forall_mem_cons.1 among
      have first : places sub.1 cs ≤ places sub.1 (replaceAll other.1 other.2 0 cs) :=
        places_le_places_replaceAll (h.clearOf isSub member) (h.clearOf member isSub)
          (h.incomparable isSub member differs) cs
      exact first.trans (ih among _)

/-- The value of a literal goes through the later passes only. -/
theorem replaceEach_literal
    (h : Distinguishable ((front ++ sub :: back).map Prod.fst)) :
    replaceEach (front ++ sub :: back) sub.1 = replaceEach back sub.2 := by
  have member : sub ∈ front ++ sub :: back := by simp
  have untouched : ∀ other ∈ front, replaceAll other.1 other.2 0 sub.1 = sub.1 := by
    intro other among
    have isSub : other ∈ front ++ sub :: back := List.mem_append_left _ among
    have differs : other ≠ sub := fun same => h.not_mem_front (same ▸ among)
    have stays : replaceAll other.1 other.2 0 (sub.1 ++ []) = sub.1 ++ replaceAll other.1 other.2 0 [] :=
      replaceAll_other_append (h.clearOf member isSub) (h.incomparable isSub member differs) []
    simpa [replaceAll] using stays
  have given : replaceAll sub.1 sub.2 0 sub.1 = sub.2 := by
    have put : replaceAll sub.1 sub.2 0 (sub.1 ++ []) = sub.2 ++ replaceAll sub.1 sub.2 0 [] :=
      replaceAll_self_append (h.nonempty_of_mem sub member) []
    simpa [replaceAll] using put
  have stays : replaceEach front sub.1 = sub.1 := by
    clear member h
    induction front with
    | nil => rfl
    | cons other front ih =>
        obtain ⟨first, untouched⟩ := List.forall_mem_cons.1 untouched
        rw [replaceEach, List.foldl_cons, first]
        exact ih untouched
  rw [replaceEach_append, stays, replaceEach, List.foldl_cons, given]
  rfl

/-- Two opening brackets begin a literal, or something that two closing brackets end before any other
bracket comes. -/
def Bracketed
    (opening closing : Char)
    (subs : List Substitution)
    (cs : List Char) : Prop :=
  ∀ back ∈ cs.tails, [opening, opening] <+: back →
    (∃ sub ∈ subs, sub.1 <+: back) ∨
      [closing, closing] <+: (back.drop 2).dropWhile fun c => c ≠ opening ∧ c ≠ closing

instance
    (opening closing : Char)
    (subs : List Substitution)
    (cs : List Char) :
    Decidable (Bracketed opening closing subs cs) :=
  inferInstanceAs (Decidable (∀ back ∈ cs.tails, _))

theorem exists_inner_of_ends
    {opening closing : Char}
    (ends : [closing, closing] <+: cs.dropWhile fun c => c ≠ opening ∧ c ≠ closing) :
    ∃ inner more, cs = inner ++ closing :: closing :: more ∧ opening ∉ inner ∧ closing ∉ inner := by
  obtain ⟨more, ends⟩ := ends
  have parts := List.takeWhile_append_dropWhile (p := fun c => c ≠ opening ∧ c ≠ closing) (l := cs)
  rw [← ends] at parts
  refine ⟨_, more, parts.symm, fun member => ?_, fun member => ?_⟩
  · simpa using List.mem_takeWhile_imp member
  · simpa using List.mem_takeWhile_imp member

/-- Literals that are words in two brackets. -/
def InBrackets
    (opening closing : Char)
    (subs : List Substitution) : Prop :=
  ∀ sub ∈ subs, ∃ word, closing ∉ word ∧ sub.1 = opening :: opening :: (word ++ [closing, closing])

theorem InBrackets.head?_eq
    {opening closing : Char}
    (shapes : InBrackets opening closing subs)
    (member : sub ∈ subs) :
    sub.1.head? = some opening := by
  obtain ⟨word, -, shape⟩ := shapes sub member
  simp [shape]

theorem Bracketed.of_suffix
    {opening closing : Char}
    (h : Bracketed opening closing subs cs)
    (isBack : text <:+ cs) :
    Bracketed opening closing subs text := by
  intro back isTail
  exact h back ((List.mem_tails _ _).2 (((List.mem_tails _ _).1 isTail).trans isBack))

theorem cut_cons_of_not_begins
    {c : Char}
    (none : ∀ sub ∈ subs, ¬ sub.1 <+: c :: cs) :
    cut subs 0 (c :: cs) = .plain c :: cut subs 0 cs := by
  have notFound : subs.find? (·.1.isPrefixOf (c :: cs)) = Option.none :=
    List.find?_eq_none.2 (by simpa using none)
  simp [cut, notFound]

/-- Nothing without an opening bracket gives way. -/
theorem spell_cut_append_of_not_mem
    {opening : Char}
    (first : ∀ sub ∈ subs, sub.1.head? = some opening)
    (absent : opening ∉ text)
    (cs : List Char) :
    spell done (cut subs 0 (text ++ cs)) = text ++ spell done (cut subs 0 cs) := by
  induction text with
  | nil => rfl
  | cons c text ih =>
      obtain ⟨differs, absent⟩ : opening ≠ c ∧ opening ∉ text := by simpa using absent
      have none : ∀ sub ∈ subs, ¬ sub.1 <+: c :: (text ++ cs) := by
        intro sub member begins
        obtain ⟨rest, shape⟩ := List.head?_eq_some_iff.1 (first sub member)
        exact differs (List.cons_prefix_cons.1 (shape ▸ begins)).1
      rw [List.cons_append, cut_cons_of_not_begins none]
      exact congrArg (c :: ·) (ih absent)

/-- What is written begins with a bracket only where the text does. -/
theorem head?_of_spell_cut
    {opening : Char}
    (h : Distinguishable (subs.map Prod.fst))
    (first : ∀ sub ∈ subs, sub.1.head? = some opening)
    (begins : (spell done (cut subs 0 cs)).head? = some opening) :
    cs.head? = some opening := by
  revert begins
  refine cut_induction
    (P := fun cs segments => (spell done segments).head? = some opening → cs.head? = some opening)
    h.nonempty_of_mem id ?_ ?_ cs
  · exact fun c rest _ _ begins => by simpa [spell, Segment.spelled] using begins
  · intro sub member back _ _
    simp [List.head?_append, first sub member]

/-- Where the text has no literal, none is written. -/
theorem not_prefix_cons_spell_cut
    {opening closing c : Char}
    (h : Distinguishable (subs.map Prod.fst))
    (differ : opening ≠ closing)
    (shapes : InBrackets opening closing subs)
    (closed : Bracketed opening closing subs (c :: cs))
    (none : ∀ sub ∈ subs, ¬ sub.1 <+: c :: cs)
    (member : sub ∈ subs) :
    ¬ sub.1 <+: c :: spell done (cut subs 0 cs) := by
  intro begins
  obtain ⟨word, noneInWord, shape⟩ := shapes sub member
  obtain ⟨rfl, onwards⟩ : opening = c ∧ opening :: (word ++ [closing, closing]) <+:
      spell done (cut subs 0 cs) := List.cons_prefix_cons.1 (shape ▸ begins)
  have next : (spell done (cut subs 0 cs)).head? = some opening := by
    obtain ⟨back, whole⟩ := onwards
    simp [← whole]
  have first : ∀ sub ∈ subs, sub.1.head? = some opening := fun _ => shapes.head?_eq
  obtain ⟨after, rfl⟩ := List.head?_eq_some_iff.1 (head?_of_spell_cut h first next)
  rcases closed _ ((List.mem_tails _ _).2 List.suffix_rfl)
    (List.prefix_append [opening, opening] after) with ⟨other, among, stands⟩ | ends
  · exact none other among stands
  · -- what stands in the brackets is written as it is, and would have to be the word
    obtain ⟨inner, more, rfl, noOpening, noClosing⟩ := exists_inner_of_ends ends
    have shifted : ∀ sub ∈ subs, ¬ sub.1 <+: opening :: (inner ++ closing :: closing :: more) := by
      intro sub member begins
      obtain ⟨word, -, shape⟩ := shapes sub member
      rw [shape, List.cons_prefix_cons] at begins
      cases inner with
      | nil => exact differ (List.cons_prefix_cons.1 begins.2).1
      | cons d inner => exact noOpening (by simp [(List.cons_prefix_cons.1 begins.2).1])
    have noOpening' : opening ∉ inner ++ [closing, closing] := by simp [noOpening, differ]
    have written : spell done (cut subs 0 (opening :: (inner ++ closing :: closing :: more))) =
        opening :: (inner ++ closing :: closing :: spell done (cut subs 0 more)) := by
      have kept : spell done (cut subs 0 ((inner ++ [closing, closing]) ++ more)) =
          (inner ++ [closing, closing]) ++ spell done (cut subs 0 more) :=
        spell_cut_append_of_not_mem first noOpening' more
      simp only [List.append_assoc, List.cons_append, List.nil_append] at kept
      rw [cut_cons_of_not_begins shifted, ← kept]
      rfl
    rw [written, List.cons_prefix_cons] at onwards
    obtain ⟨later, whole⟩ := onwards.2
    have same : word = inner := by
      simp only [List.append_assoc, List.cons_append] at whole
      have cuts := congrArg (cutAt? closing) whole
      rw [cutAt?_append noneInWord, cutAt?_append noClosing] at cuts
      exact congrArg Prod.fst (Option.some.inj cuts)
    refine none sub member ⟨more, ?_⟩
    simp [shape, same]

/-- Values without opening brackets bring no literal into a text with closed brackets. -/
theorem places_spell_of_bracketed
    {opening closing : Char}
    (h : Distinguishable (subs.map Prod.fst))
    (differ : opening ≠ closing)
    (shapes : InBrackets opening closing subs)
    (plain : ∀ sub ∈ done, opening ∉ sub.2)
    (member : sub ∈ subs)
    (pending : sub ∉ done)
    (closed : Bracketed opening closing subs cs) :
    places sub.1 (spell done (cut subs 0 cs)) = (cut subs 0 cs).count (.literal sub) := by
  revert closed
  refine cut_induction
    (P := fun cs segments => Bracketed opening closing subs cs →
      places sub.1 (spell done segments) = segments.count (.literal sub))
    h.nonempty_of_mem (fun _ => rfl) ?_ ?_ cs
  · intro c rest none ih closed
    have later := ih (closed.of_suffix (List.suffix_cons c rest))
    have notFirst : ¬ sub.1 <+: c :: spell done (cut subs 0 rest) :=
      not_prefix_cons_spell_cut h differ shapes closed none member
    have written : spell done (.plain c :: cut subs 0 rest) = c :: spell done (cut subs 0 rest) := rfl
    rw [List.count_cons_of_ne (by simp), ← later, written]
    simp [places, notFirst]
  · intro other among back ih closed
    have later := ih (closed.of_suffix (List.suffix_append other.1 back))
    rw [spell_cons]
    by_cases same : other = sub
    · subst same
      rw [Segment.spelled_of_not_mem pending, places_self_append (h.clearOf member member)
        (h.nonempty_of_mem other member), List.count_cons_self, later]
    · rw [List.count_cons_of_ne (by simpa using same), ← later]
      by_cases given : other ∈ done
      · rw [Segment.spelled_of_mem given,
          places_append_of_not_mem (shapes.head?_eq member) (plain other given)]
      · rw [Segment.spelled_of_not_mem given,
          places_other_append (h.clearOf among member) (h.incomparable among member same)]

end Passes

end Text
end Scaffold
