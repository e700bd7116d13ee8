import Scaffold.Proofs.Text.Passes
import Scaffold.Template

/-!
# Placeholders

Placeholders are replaced one after the other, each in the text that the passes before it left.  That
is replacing all of them at once as long as no pass finds a placeholder that the text did not have, so
as long as no value contains a later placeholder or completes one with what stands around it.  What a
pass puts in goes through the later passes and through no other.
-/

namespace Scaffold
namespace Tokens

open Text

section Placeholders

variable {tokens : Tokens} {text : String}

/-- The text after some passes, each of which replaces one placeholder everywhere. -/
def passed
    (passes : List (String × String))
    (text : String) : String :=
  passes.foldl (fun text (mark, value) => replace mark value text) text

/-- Placeholders with their values, as lists of characters. -/
def literals (entries : List (String × String)) : List Substitution :=
  entries.map fun entry => (entry.1.toList, entry.2.toList)

/-- The text with all placeholders replaced at once. -/
def substituteTogether
    (tokens : Tokens)
    (text : String) : String :=
  String.ofList (replaceTogether (literals tokens.substitutions) 0 text.toList)

/-- Some pass finds more of its placeholders than the text has: a value that was put in before contains
one, or completes one with what stands around it. -/
def Interferes
    (tokens : Tokens)
    (text : String) : Prop :=
  ∃ front mark value back, tokens.substitutions = front ++ (mark, value) :: back ∧
    places mark.toList text.toList < places mark.toList (passed front text).toList

theorem toList_passed
    (passes : List (String × String))
    (text : String) :
    (passed passes text).toList = replaceEach (literals passes) text.toList := by
  induction passes generalizing text with
  | nil => rfl
  | cons entry passes ih =>
      have first : (replace entry.1 entry.2 text).toList =
          replaceAll entry.1.toList entry.2.toList 0 text.toList := String.toList_ofList
      exact (ih (replace entry.1 entry.2 text)).trans (congrArg (replaceEach (literals passes)) first)

/-- The placeholders are told apart wherever they stand. -/
theorem distinguishable_literals (tokens : Tokens) :
    Distinguishable ((literals tokens.substitutions).map Prod.fst) := by
  have marks : (literals tokens.substitutions).map Prod.fst =
      ["name", "version", "package", "description"].map fun name => (placeholder name).toList := by
    simp [literals, substitutions]
  rw [marks]
  constructor <;> decide +kernel

theorem literals_eq_append
    {front back : List (String × String)}
    {mark value : String}
    (whole : tokens.substitutions = front ++ (mark, value) :: back) :
    literals tokens.substitutions =
      literals front ++ (mark.toList, value.toList) :: literals back := by
  rw [whole, literals, List.map_append, List.map_cons]
  rfl

/-- Without interference, one placeholder after the other is all at once. -/
theorem substitute_eq_substituteTogether
    (calm : ¬ tokens.Interferes text) :
    tokens.substitute text = tokens.substituteTogether text := by
  have few : ∀ front sub back, literals tokens.substitutions = front ++ sub :: back →
      replaceEach front text.toList = spell front (cut (literals tokens.substitutions) 0 text.toList) →
        places sub.1 (spell front (cut (literals tokens.substitutions) 0 text.toList)) ≤
          places sub.1 text.toList := by
    intro front sub back whole stage
    obtain ⟨first, second, split, rfl, others⟩ := List.map_eq_append_iff.1 whole
    obtain ⟨⟨mark, value⟩, later, rfl, rfl, rfl⟩ := List.map_eq_cons_iff.1 others
    by_contra more
    refine calm ⟨first, mark, value, later, split, ?_⟩
    rw [toList_passed]
    exact stage ▸ Nat.lt_of_not_le more
  have all := replaceEach_eq_spell tokens.distinguishable_literals few (List.append_nil _).symm
  rw [← toList_passed, ← replaceTogether_eq_spell] at all
  exact String.toList_injective (all.trans String.toList_ofList.symm)

/-- A value goes through the later passes and through no other. -/
theorem substitute_mark
    {front back : List (String × String)}
    {mark value : String}
    (whole : tokens.substitutions = front ++ (mark, value) :: back) :
    tokens.substitute mark = passed back value := by
  have split := literals_eq_append whole
  apply String.toList_injective
  have each : (tokens.substitute mark).toList = replaceEach (literals tokens.substitutions) mark.toList :=
    toList_passed _ _
  rw [each, toList_passed, split]
  exact replaceEach_literal (split ▸ tokens.distinguishable_literals)

/-- No pass takes away a placeholder that a later one replaces. -/
theorem places_le_places_passed
    {front back : List (String × String)}
    {mark value : String}
    (whole : tokens.substitutions = front ++ (mark, value) :: back)
    (text : String) :
    places mark.toList text.toList ≤ places mark.toList (passed front text).toList := by
  have split := literals_eq_append whole
  have apart := tokens.distinguishable_literals
  rw [split] at apart
  have member : (mark.toList, value.toList) ∈
      literals front ++ (mark.toList, value.toList) :: literals back := by simp
  rw [toList_passed]
  refine places_le_places_replaceEach apart member (fun other among => ?_) _
  exact ⟨List.mem_append_left _ among, fun same => apart.not_mem_front (same ▸ among)⟩

/-- Values without opening braces do not interfere with a text whose braces are closed. -/
theorem not_interferes_of_plain
    (plain : ∀ value ∈ [tokens.name, tokens.version, tokens.package], '\x7b' ∉ value.toList)
    (closed : Bracketed '\x7b' '\x7d' (literals tokens.substitutions) text.toList) :
    ¬ tokens.Interferes text := by
  have apart := tokens.distinguishable_literals
  have shapes : InBrackets '\x7b' '\x7d' (literals tokens.substitutions) := by
    intro sub member
    obtain ⟨entry, isEntry, rfl⟩ := List.mem_map.1 member
    have named : ∃ name, '\x7d' ∉ name.toList ∧ entry.1 = placeholder name := by
      simp only [substitutions, List.mem_cons, List.not_mem_nil, or_false] at isEntry
      rcases isEntry with rfl | rfl | rfl | rfl <;> exact ⟨_, by decide, rfl⟩
    obtain ⟨name, open', shape⟩ := named
    exact ⟨name.toList, open', by simp [shape, placeholder]⟩
  -- the passes before another one are among the first three
  have early : ∀ front sub back, literals tokens.substitutions = front ++ sub :: back →
      ∀ other ∈ front, '\x7b' ∉ other.2 := by
    intro front sub back whole other among
    have inFront : other ∈ (literals tokens.substitutions).dropLast := by
      rw [whole, List.dropLast_append_of_ne_nil (List.cons_ne_nil sub back)]
      exact List.mem_append_left _ among
    have three : (literals tokens.substitutions).dropLast = literals
        [(placeholder "name", tokens.name), (placeholder "version", tokens.version),
         (placeholder "package", tokens.package)] := rfl
    rw [three] at inFront
    obtain ⟨entry, isEntry, rfl⟩ := List.mem_map.1 inFront
    exact plain entry.2 (List.mem_map_of_mem isEntry)
  have few : ∀ front sub back, literals tokens.substitutions = front ++ sub :: back →
      places sub.1 (spell front (cut (literals tokens.substitutions) 0 text.toList)) =
        places sub.1 text.toList := by
    intro front sub back whole
    have member : sub ∈ literals tokens.substitutions := by simp [whole]
    rw [places_spell_of_bracketed apart (by decide) shapes (early front sub back whole) member
      (whole ▸ apart).not_mem_front closed, count_literal_cut apart member]
  rintro ⟨front, mark, value, back, split, more⟩
  have whole := literals_eq_append split
  have stage := replaceEach_eq_spell apart
    (fun front sub back whole _ => (few front sub back whole).le) whole
  rw [toList_passed, stage, few _ _ _ whole] at more
  exact Nat.lt_irrefl _ more

/-- Placeholders are replaced one after the other, which is all at once as long as no pass finds more of
its placeholders than the text has.  No pass finds fewer, and a value goes through the later passes
only.  Values without opening braces do not interfere with a text whose braces are closed, be what
stands in them a known name or not. -/
theorem substitution_is_simultaneous_without_interference
    (tokens : Tokens)
    (text : String) :
    (¬ tokens.Interferes text → tokens.substitute text = tokens.substituteTogether text) ∧
      (∀ front mark value back, tokens.substitutions = front ++ (mark, value) :: back →
        places mark.toList text.toList ≤ places mark.toList (passed front text).toList ∧
          tokens.substitute mark = passed back value) ∧
      ((∀ value ∈ [tokens.name, tokens.version, tokens.package], '\x7b' ∉ value.toList) →
        Bracketed '\x7b' '\x7d' (literals tokens.substitutions) text.toList →
          ¬ tokens.Interferes text) :=
  ⟨substitute_eq_substituteTogether,
    fun _ _ _ _ whole => ⟨places_le_places_passed whole text, substitute_mark whole⟩,
    not_interferes_of_plain⟩

/-- A text with a known placeholder and another one is replaced at once. -/
theorem known_and_unknown_are_replaced_at_once :
    (Tokens.mk "petstore" "1.0.0" "com.example.petstore" "").substitute
        (placeholder "version" ++ " " ++ placeholder "other") =
      (Tokens.mk "petstore" "1.0.0" "com.example.petstore" "").substituteTogether
        (placeholder "version" ++ " " ++ placeholder "other") := by
  obtain ⟨together, -, calm⟩ := substitution_is_simultaneous_without_interference
    ⟨"petstore", "1.0.0", "com.example.petstore", ""⟩ (placeholder "version" ++ " " ++ placeholder "other")
  exact together (calm (by decide) (by decide +kernel))

/-- A value that is itself a placeholder, or becomes one between the braces of the text, is replaced
by the later pass. -/
theorem inserted_placeholders_are_replaced :
    (Tokens.mk (placeholder "version") "1.0.0" "app" "").substitute (placeholder "name") = "1.0.0" ∧
      (Tokens.mk (placeholder "version") "1.0.0" "app" "").substituteTogether (placeholder "name") =
        placeholder "version" ∧
      (Tokens.mk "version" "1.0.0" "app" "").substitute (placeholder (placeholder "name")) = "1.0.0" ∧
      (Tokens.mk "version" "1.0.0" "app" "").substituteTogether (placeholder (placeholder "name")) =
        placeholder "version" := by
  decide +kernel

end Placeholders

end Tokens
end Scaffold
