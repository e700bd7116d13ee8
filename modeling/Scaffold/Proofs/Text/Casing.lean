import Scaffold.Entries
import Scaffold.Proofs.Text.BasicLetters
import Scaffold.Text.Casing

/-!
# Upper case

The upper case of a character is never empty, and it starts with no basic small letter, whatever
script the character is from.  For the basic letters this is how they change case; for the others it
is read off the two tables, whose entries lead far away from the basic small letters.
-/

namespace Scaffold
namespace Text

section Upper

variable {c : Char} {code : Nat}

theorem isLower_ofNat
    (outside : code < 97 ∨ 122 < code) :
    (Char.ofNat code).isLower = false := by
  by_contra small
  have range := isLower_iff.1 (by simpa using small)
  have number := toNat_ofNat code
  omega

/-- No entry of the table of spellings is empty or starts with a basic small letter. -/
theorem head_of_upperSpellings :
    ∀ entry ∈ upperSpellings, ∃ code rest, entry.2 = code :: rest ∧ (code < 97 ∨ 122 < code) := by
  have all : ∀ entry ∈ upperSpellings,
      entry.2.head?.any (fun code => code < 97 || 122 < code) = true := by decide +kernel
  intro entry member
  have head := all entry member
  cases shape : entry.2 with
  | nil => simp [shape] at head
  | cons code rest => exact ⟨code, rest, rfl, by simpa [shape] using head⟩

/-- No row of the table of shifts reaches a basic small letter. -/
theorem outside_of_upperShifts
    {row : CaseRun}
    {counterpart : Nat}
    (member : row ∈ upperShifts)
    (found : row.counterpart? code = some counterpart) :
    counterpart < 97 ∨ 122 < counterpart := by
  have all : ∀ row ∈ upperShifts,
      row.run.last + row.shift < 97 ∨ 122 < row.run.first + row.shift := by decide +kernel
  have outside := all row member
  unfold CaseRun.counterpart? at found
  split at found
  · next holds =>
      obtain ⟨⟨above, below⟩, -⟩ : (row.run.first ≤ code ∧ code ≤ row.run.last) ∧ _ := by
        simpa [CodeRun.holds] using holds
      cases found
      omega
  · cases found

/-- The upper case of a character is not empty and starts with no basic small letter. -/
theorem exists_upper_eq_cons (c : Char) :
    ∃ first rest, upper c = first :: rest ∧ first.isLower = false := by
  unfold upper
  split
  · exact ⟨c.toUpper, [], rfl, isLower_toUpper c⟩
  · next beyond =>
      unfold respell
      split
      · next codes found =>
          obtain ⟨code, rest, shape, outside⟩ :=
            head_of_upperSpellings _ (Entries.mem_of_lookup_eq_some found)
          obtain rfl : codes = code :: rest := shape
          exact ⟨_, _, rfl, isLower_ofNat outside⟩
      · split
        · next code found =>
            obtain ⟨row, member, found⟩ := List.exists_of_findSome?_eq_some found
            exact ⟨_, [], rfl, isLower_ofNat (outside_of_upperShifts member found)⟩
        · refine ⟨c, [], rfl, ?_⟩
          by_contra small
          have range := isLower_iff.1 (by simpa using small)
          omega

end Upper

end Text
end Scaffold
