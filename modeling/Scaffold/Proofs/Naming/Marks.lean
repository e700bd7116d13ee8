import Scaffold.Proofs.Java.ClassNames

/-!
# Marks in converted names

Blanks, digits and most punctuation stand in front of the capitals in the character set.  A change of
case leads to none of them, in any script, so a converted name has such a mark only where the written
name has it.  A line end separates words, so no converted name has one, whatever it is made from; and
since only the part behind the last dot is converted, no class name has a dot.
-/

namespace Scaffold

namespace Text

/-- A character in front of the capitals, other than the one with number zero. -/
def IsMark (c : Char) : Prop :=
  1 ≤ c.toNat ∧ c.toNat ≤ 64

section Marks

variable {c mark : Char}

/-- Characters that are read off two tables are marks only when they are not in the tables. -/
theorem eq_of_mark_mem_respell
    {shifts : List CaseRun}
    {spellings : List (Nat × List Nat)}
    (farShifts : ∀ row ∈ shifts, 64 < row.run.first + row.shift)
    (farSpellings : ∀ entry ∈ spellings, ∀ code ∈ entry.2, 64 < code)
    (isMark : IsMark mark)
    (member : mark ∈ respell shifts spellings c) :
    mark = c := by
  have apart : ∀ {code}, 64 < code → mark ≠ Char.ofNat code := by
    rintro code far rfl
    obtain ⟨low, high⟩ := isMark
    have number := toNat_ofNat code
    omega
  unfold respell at member
  split at member
  · next codes found =>
      obtain ⟨code, among, rfl⟩ := List.mem_map.1 member
      exact absurd rfl (apart (farSpellings _ (Entries.mem_of_lookup_eq_some found) code among))
  · split at member
    · next code found =>
        obtain ⟨row, among, found⟩ := List.exists_of_findSome?_eq_some found
        have far := farShifts row among
        unfold CaseRun.counterpart? at found
        split at found
        · next holds =>
            obtain ⟨⟨above, -⟩, -⟩ : (row.run.first ≤ c.toNat ∧ c.toNat ≤ row.run.last) ∧ _ := by
              simpa [CodeRun.holds] using holds
            cases found
            exact absurd (List.mem_singleton.1 member) (apart (by omega))
        · cases found
    · exact List.mem_singleton.1 member

/-- A change of case that changes no basic character into a mark, and whose tables lead to none, leads to
a mark only from this mark. -/
theorem eq_of_mark_mem_recase
    {shift : Char → Char}
    {shifts : List CaseRun}
    {spellings : List (Nat × List Nat)}
    (basic : ∀ code < 128,
      IsMark (shift (Char.ofNat code)) → shift (Char.ofNat code) = Char.ofNat code)
    (farShifts : ∀ row ∈ shifts, 64 < row.run.first + row.shift)
    (farSpellings : ∀ entry ∈ spellings, ∀ code ∈ entry.2, 64 < code)
    (isMark : IsMark mark)
    (member : mark ∈ if c.toNat < 128 then [shift c] else respell shifts spellings c) :
    mark = c := by
  split at member
  · next low =>
      have same : IsMark (shift c) → shift c = c :=
        of_forall_ofNat (P := fun c => IsMark (shift c) → shift c = c) basic low
      rw [List.mem_singleton.1 member] at isMark ⊢
      exact same isMark
  · exact eq_of_mark_mem_respell farShifts farSpellings isMark member

/-- The upper case of a character has a mark only when the character is that mark. -/
theorem eq_of_mark_mem_upper
    (isMark : IsMark mark)
    (member : mark ∈ upper c) :
    mark = c :=
  eq_of_mark_mem_recase (by unfold IsMark; decide +kernel) (by decide +kernel) (by decide +kernel)
    isMark member

/-- The lower case of a character has a mark only when the character is that mark. -/
theorem eq_of_mark_mem_lower
    (isMark : IsMark mark)
    (member : mark ∈ lower c) :
    mark = c :=
  eq_of_mark_mem_recase (by unfold IsMark; decide +kernel) (by decide +kernel) (by decide +kernel)
    isMark member

end Marks

end Text

namespace Naming

open Text

section Marks

variable {name : String} {mark : Char}

/-- A type name has a mark only where the written name has it, and separators are dropped. -/
theorem of_mark_mem_pascal
    (isMark : IsMark mark)
    (member : mark ∈ (pascal name).toList) :
    mark ∈ name.toList ∧ isSeparator mark = false := by
  obtain ⟨word, isWord, member⟩ : ∃ word ∈ words name.toList, mark ∈ capitalize word := by
    simpa [pascal, pascalList] using member
  refine of_mem_words isWord ?_
  cases word with
  | nil => cases member
  | cons first rest =>
      rcases List.mem_append.1 member with inFirst | later
      · exact eq_of_mark_mem_upper isMark inFirst ▸ List.mem_cons_self
      · exact List.mem_cons_of_mem _ later

/-- A variable name has no marks but those of the type name. -/
theorem mem_pascal_of_mark_mem_camel
    (isMark : IsMark mark)
    (member : mark ∈ (camel name).toList) :
    mark ∈ (pascal name).toList := by
  cases shape : pascalList name.toList with
  | nil => simp [camel, shape, uncapitalize] at member
  | cons first rest =>
      have spelled : (camel name).toList = lower first ++ rest := by
        simp [camel, shape, uncapitalize]
      have whole : (pascal name).toList = first :: rest := by simp [pascal, shape]
      rw [spelled] at member
      rw [whole]
      rcases List.mem_append.1 member with inFirst | later
      · exact eq_of_mark_mem_lower isMark inFirst ▸ List.mem_cons_self
      · exact List.mem_cons_of_mem _ later

theorem noLineEnd_pascal (name : String) : '\n' ∉ (pascal name).toList := by
  intro member
  have separates := (of_mark_mem_pascal ⟨by decide, by decide⟩ member).2
  exact absurd separates (by decide)

theorem noLineEnd_camel (name : String) : '\n' ∉ (camel name).toList :=
  fun member => noLineEnd_pascal name (mem_pascal_of_mark_mem_camel ⟨by decide, by decide⟩ member)

/-- The part behind the last dot has no dot. -/
theorem noDot_lastPart (reference : String) : '.' ∉ (lastPart reference).toList := by
  unfold lastPart
  split
  · next front name cut => simpa using (cutAtLast?_eq_some_iff.1 cut).1
  · next uncut => exact not_mem_of_cutAtLast?_eq_none uncut

theorem noDot_className (reference : String) : '.' ∉ (className reference).toList := by
  intro member
  exact noDot_lastPart reference (of_mark_mem_pascal ⟨by decide, by decide⟩ member).1

end Marks

end Naming
end Scaffold
