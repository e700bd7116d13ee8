import Mathlib.Data.List.Basic
import Mathlib.Data.List.TakeWhile
import Scaffold.Text.Pieces

/-!
# Trimming

A text is what is left of it when it is trimmed, with blanks around it.  The other way, blanks around a
text that neither begins nor ends with one are taken away and nothing else.
-/

namespace Scaffold
namespace Text

section Trimming

/-- A text is what is left of it when it is trimmed, with blanks around it. -/
theorem exists_eq_append_trimList (cs : List Char) :
    ∃ front back, cs = front ++ trimList cs ++ back ∧
      (∀ c ∈ front, isBlank c = true) ∧ ∀ c ∈ back, isBlank c = true := by
  refine ⟨cs.takeWhile isBlank, ((cs.dropWhile isBlank).reverse.takeWhile isBlank).reverse,
    ?_, fun c => List.mem_takeWhile_imp, fun c member => ?_⟩
  · rw [trimList, List.append_assoc, ← List.reverse_append, List.takeWhile_append_dropWhile,
      List.reverse_reverse, List.takeWhile_append_dropWhile]
  · exact List.mem_takeWhile_imp (List.mem_reverse.1 member)

theorem dropWhile_eq_self_of_head
    {cs : List Char}
    (solid : ∀ c ∈ cs.head?, isBlank c = false) :
    cs.dropWhile isBlank = cs := by
  cases cs with
  | nil => rfl
  | cons first rest => exact List.dropWhile_cons_of_neg (by simp [solid first rfl])

/-- Trimming takes away the blanks around a text that neither begins nor ends with one. -/
theorem trimList_append_of_edges
    {front core back : List Char}
    (blankFront : ∀ c ∈ front, isBlank c = true)
    (begins : ∀ c ∈ core.head?, isBlank c = false)
    (ends : ∀ c ∈ core.getLast?, isBlank c = false)
    (blankBack : ∀ c ∈ back, isBlank c = true) :
    trimList (front ++ core ++ back) = core := by
  have goes : back.dropWhile isBlank = [] := List.dropWhile_eq_nil_iff.2 blankBack
  rw [trimList, List.append_assoc, List.dropWhile_append_of_pos blankFront]
  cases core with
  | nil => simp [goes]
  | cons first rest =>
      have stays : (first :: rest ++ back).dropWhile isBlank = first :: rest ++ back :=
        dropWhile_eq_self_of_head (by simpa using begins)
      have staysBack : (first :: rest).reverse.dropWhile isBlank = (first :: rest).reverse :=
        dropWhile_eq_self_of_head (by rwa [List.head?_reverse])
      rw [stays, List.reverse_append, List.dropWhile_append_of_pos (by simpa using blankBack),
        staysBack, List.reverse_reverse]

/-- Trimming takes away the blanks around a word that has none. -/
theorem trimList_append
    {front word back : List Char}
    (blankFront : ∀ c ∈ front, isBlank c = true)
    (solid : ∀ c ∈ word, isBlank c = false)
    (blankBack : ∀ c ∈ back, isBlank c = true) :
    trimList (front ++ word ++ back) = word :=
  trimList_append_of_edges blankFront (fun c first => solid c (List.mem_of_mem_head? first))
    (fun c last => solid c (List.mem_of_getLast? last)) blankBack

end Trimming

end Text
end Scaffold
