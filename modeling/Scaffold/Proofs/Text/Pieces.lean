import Scaffold.Text.Pieces

/-!
# Pieces of a text

What is known about the pieces into which a separator cuts a text: there is at least one, cutting a
text at a separator between two parts cuts the parts, and a text that does not end in the separator
ends as its last piece does.  No piece has the separator in it, and no line has a line end.  A text with
one separator is cut there, from the left as from the right.
-/

namespace Scaffold
namespace Text

theorem pieces_ne_nil
    (separator : Char)
    (s : String) :
    pieces separator s ≠ [] := by
  simp [pieces, List.splitOn_ne_nil]

theorem lines_ne_nil (s : String) :
    lines s ≠ [] := by
  simp [lines, pieces_ne_nil]

/-- Parts with a separator in between are cut there and then one by one. -/
theorem pieces_append
    (separator : Char)
    (front back : String) :
    pieces separator (front ++ String.singleton separator ++ back) =
      pieces separator front ++ pieces separator back := by
  simp [pieces, List.splitOn_append_cons_self]

/-- Parts that are joined by a separator that none of them has are cut there again. -/
theorem pieces_intercalate
    {separator : Char}
    {parts : List String}
    (absent : ∀ part ∈ parts, separator ∉ part.toList)
    (nonempty : parts ≠ []) :
    pieces separator (String.intercalate (String.singleton separator) parts) = parts := by
  have cut : ∀ part ∈ parts.map String.toList, separator ∉ part := by simpa using absent
  simp [pieces, String.toList_intercalate, List.splitOn_intercalate separator cut (by simpa)]

/-- The pieces of a text give the text when they are joined again. -/
theorem intercalate_pieces
    (separator : Char)
    (s : String) :
    String.intercalate (String.singleton separator) (pieces separator s) = s := by
  apply String.toList_injective
  simp [pieces, String.toList_intercalate, Function.comp_def, List.intercalate_splitOn]

/-- A character that is in no part and not in what joins them is not in the whole. -/
theorem not_mem_intercalate
    {joint : String}
    {parts : List String}
    {c : Char}
    (apart : c ∉ joint.toList)
    (absent : ∀ part ∈ parts, c ∉ part.toList) :
    c ∉ (String.intercalate joint parts).toList := by
  induction parts with
  | nil => simp
  | cons part rest ih =>
      obtain ⟨here, later⟩ := List.forall_mem_cons.1 absent
      cases rest with
      | nil => simpa using here
      | cons second rest =>
          rw [String.intercalate_cons_cons]
          simpa [here, apart] using ih later

/-- Texts with a line end in between have the lines of both. -/
theorem lines_append (front back : String) :
    lines (front ++ "\n" ++ back) = lines front ++ lines back := by
  rw [lines, show "\n" = String.singleton '\n' from rfl, pieces_append, List.map_append]
  rfl

/-- A text that is one line as it stands: no line end in it, and no carriage return to cut off. -/
structure IsLine (s : String) : Prop where
  noLineEnd : '\n' ∉ s.toList
  noReturn : s.toList.getLast? ≠ some '\r'

theorem IsLine.lines_eq
    {s : String}
    (h : IsLine s) :
    lines s = [s] := by
  simp [lines, pieces, List.splitOn_eq_singleton h.noLineEnd, dropReturn, h.noReturn]

theorem isLine_empty : IsLine "" where
  noLineEnd := by decide
  noReturn := by decide

/-- A line that is not empty stays one line behind a text without a line end. -/
theorem IsLine.behind
    {front back : String}
    (h : IsLine back)
    (nonempty : back ≠ "")
    (noLineEnd : '\n' ∉ front.toList) :
    IsLine (front ++ back) where
  noLineEnd := by simp [noLineEnd, h.noLineEnd]
  noReturn := by simpa [nonempty] using h.noReturn

/-- A list that ends in something other than the separator ends as its last piece does. -/
theorem getLast?_splitOn
    {cs : List Char}
    {separator last : Char}
    (ends : cs.getLast? = some last)
    (differs : last ≠ separator) :
    ∃ piece, (cs.splitOn separator).getLast? = some piece ∧ piece.getLast? = some last := by
  induction cs with
  | nil => simp at ends
  | cons c rest ih =>
      cases rest with
      | nil =>
          have same : c = last := by simpa using ends
          subst same
          refine ⟨[c], ?_, rfl⟩
          rw [List.splitOn_eq_singleton (by simpa using differs.symm)]
          rfl
      | cons d rest =>
          have later : (d :: rest).getLast? = some last := by simpa using ends
          obtain ⟨piece, isLast, piece_ends⟩ := ih later
          obtain ⟨first, others, split⟩ :=
            List.exists_cons_of_ne_nil (List.splitOn_ne_nil separator (d :: rest))
          rw [List.splitOn_cons_eq_if_modifyHead, split]
          rw [split] at isLast
          by_cases cut : c == separator
          · exact ⟨piece, by simpa [cut] using isLast, piece_ends⟩
          · cases others with
            | nil =>
                have same : first = piece := by simpa using isLast
                subst same
                refine ⟨c :: first, by simp [cut], ?_⟩
                cases first with
                | nil => simp at piece_ends
                | cons e more => simpa using piece_ends
            | cons second others =>
                exact ⟨piece, by simpa [cut] using isLast, piece_ends⟩

/-- A text that ends in neither a line end nor a carriage return ends as its last line does. -/
theorem getLast?_lines
    {s : String}
    {last : Char}
    (ends : s.toList.getLast? = some last)
    (noLineEnd : last ≠ '\n')
    (noReturn : last ≠ '\r') :
    ∃ line, (lines s).getLast? = some line ∧ line.toList.getLast? = some last := by
  obtain ⟨piece, isLast, piece_ends⟩ := getLast?_splitOn ends noLineEnd
  refine ⟨String.ofList piece, ?_, by simpa using piece_ends⟩
  have kept : dropReturn (String.ofList piece) = String.ofList piece := by
    simp [dropReturn, piece_ends, noReturn]
  simp [lines, pieces, isLast, kept]

/-- A character of a piece is one of the list, and it separates nothing. -/
theorem of_mem_splitOnP
    {cs piece : List Char}
    {separates : Char → Bool}
    {c : Char}
    (member : c ∈ piece)
    (isPiece : piece ∈ cs.splitOnP separates) :
    c ∈ cs ∧ separates c = false := by
  induction cs generalizing piece with
  | nil =>
      obtain rfl : piece = [] := by simpa using isPiece
      cases member
  | cons first rest ih =>
      have further : ∀ {piece}, c ∈ piece → piece ∈ rest.splitOnP separates →
          c ∈ first :: rest ∧ separates c = false := fun member isPiece =>
        ⟨List.mem_cons_of_mem _ (ih member isPiece).1, (ih member isPiece).2⟩
      rw [List.splitOnP_cons_eq_if_modifyHead] at isPiece
      split at isPiece
      · rcases List.mem_cons.1 isPiece with rfl | isPiece
        · cases member
        · exact further member isPiece
      · next kept =>
          obtain ⟨head, others, split⟩ :=
            List.exists_cons_of_ne_nil (List.splitOnP_ne_nil separates rest)
          rw [split, List.modifyHead_cons] at isPiece
          rcases List.mem_cons.1 isPiece with rfl | isPiece
          · rcases List.mem_cons.1 member with rfl | member
            · exact ⟨List.mem_cons_self, by simpa using kept⟩
            · exact further member (split ▸ List.mem_cons_self)
          · exact further member (split ▸ List.mem_cons_of_mem _ isPiece)

theorem separator_not_mem_of_mem_pieces
    {separator : Char}
    {s piece : String}
    (isPiece : piece ∈ pieces separator s) :
    separator ∉ piece.toList := by
  obtain ⟨cs, cut, rfl⟩ := List.mem_map.1 isPiece
  intro member
  have apart := (of_mem_splitOnP (by simpa using member) cut).2
  simp at apart

/-- No line of a text has a line end. -/
theorem noLineEnd_of_mem_lines
    {s line : String}
    (isLine : line ∈ lines s) :
    '\n' ∉ line.toList := by
  obtain ⟨piece, isPiece, rfl⟩ := List.mem_map.1 isLine
  have absent := separator_not_mem_of_mem_pieces isPiece
  unfold dropReturn
  split
  · intro member
    exact absent (List.dropLast_subset _ (by simpa using member))
  · exact absent

/-- A character of a text is the separator or in one of the pieces. -/
theorem exists_piece_of_mem
    (separator : Char)
    {s : String}
    {c : Char}
    (member : c ∈ s.toList) :
    c = separator ∨ ∃ piece ∈ pieces separator s, c ∈ piece.toList := by
  have general : ∀ cs : List Char, c ∈ cs →
      c = separator ∨ ∃ piece ∈ cs.splitOn separator, c ∈ piece := by
    intro cs
    induction cs with
    | nil => exact fun member => nomatch member
    | cons first rest ih =>
        intro member
        obtain ⟨head, others, split⟩ :=
          List.exists_cons_of_ne_nil (List.splitOn_ne_nil separator rest)
        rw [List.splitOn_cons_eq_if_modifyHead, split, List.modifyHead_cons]
        rw [split] at ih
        rcases List.mem_cons.1 member with rfl | member
        · by_cases same : c = separator
          · exact .inl same
          · exact .inr ⟨c :: head, by simp [same], List.mem_cons_self⟩
        · refine (ih member).imp_right fun ⟨piece, isPiece, among⟩ => ?_
          split
          · exact ⟨piece, List.mem_cons_of_mem _ isPiece, among⟩
          · rcases List.mem_cons.1 isPiece with rfl | isPiece
            · exact ⟨first :: piece, List.mem_cons_self, List.mem_cons_of_mem _ among⟩
            · exact ⟨piece, List.mem_cons_of_mem _ isPiece, among⟩
  refine (general s.toList member).imp_right fun ⟨piece, isPiece, among⟩ => ?_
  exact ⟨String.ofList piece, List.mem_map_of_mem isPiece, by simpa using among⟩

theorem eq_append_of_cutAt
    {separator : Char}
    {cs front back : List Char}
    (cut : cutAt? separator cs = some (front, back)) :
    cs = front ++ separator :: back := by
  induction cs generalizing front with
  | nil => cases cut
  | cons c rest ih =>
      unfold cutAt? at cut
      split at cut
      · next same =>
          cases cut
          rw [same, List.nil_append]
      · obtain ⟨⟨before, after⟩, later, same⟩ := Option.map_eq_some_iff.1 cut
        cases same
        rw [ih later, List.cons_append]

theorem cutAt?_append
    {separator : Char}
    {front : List Char}
    (absent : separator ∉ front)
    (back : List Char) :
    cutAt? separator (front ++ separator :: back) = some (front, back) := by
  induction front with
  | nil => simp [cutAt?]
  | cons c front ih =>
      obtain ⟨differs, absent⟩ : separator ≠ c ∧ separator ∉ front := by simpa using absent
      simp [cutAt?, ih absent, Ne.symm differs]

/-- A text is cut at a separator with none in front of it. -/
theorem cutAt?_eq_some_iff
    {separator : Char}
    {cs front back : List Char} :
    cutAt? separator cs = some (front, back) ↔
      separator ∉ front ∧ cs = front ++ separator :: back := by
  constructor
  · intro cut
    have member : separator ∈ cs := by simp [eq_append_of_cutAt cut]
    obtain ⟨before, after, rfl, absent⟩ := List.eq_append_cons_of_mem member
    rw [cutAt?_append absent] at cut
    cases cut
    exact ⟨absent, rfl⟩
  · rintro ⟨absent, rfl⟩
    exact cutAt?_append absent back

theorem cutAt?_eq_none_iff
    {separator : Char}
    {cs : List Char} :
    cutAt? separator cs = none ↔ separator ∉ cs := by
  constructor
  · intro uncut member
    obtain ⟨front, back, rfl, absent⟩ := List.eq_append_cons_of_mem member
    rw [cutAt?_append absent] at uncut
    cases uncut
  · intro absent
    cases cut : cutAt? separator cs with
    | none => rfl
    | some parts =>
        obtain ⟨front, back⟩ := parts
        rw [eq_append_of_cutAt cut] at absent
        exact absurd (by simp) absent

/-- What holds of a text of one line, and of a text below another line, holds of every text. -/
theorem induction_on_lines
    {motive : String → Prop}
    (single : ∀ s, '\n' ∉ s.toList → motive s)
    (further : ∀ front back, '\n' ∉ front.toList → motive back → motive (front ++ "\n" ++ back))
    (s : String) :
    motive s := by
  cases cut : cutAt? '\n' s.toList with
  | none => exact single s (cutAt?_eq_none_iff.1 cut)
  | some parts =>
      obtain ⟨front, back⟩ := parts
      obtain ⟨absent, whole⟩ := cutAt?_eq_some_iff.1 cut
      have shorter : back.length < s.toList.length := by
        simp [whole]
        omega
      have later : motive (String.ofList back) := induction_on_lines single further _
      have shape : s = String.ofList front ++ "\n" ++ String.ofList back := by
        simp [String.ext_iff, whole]
      rw [shape]
      exact further _ _ (by simpa using absent) later
termination_by s.toList.length

theorem cutAtLast?_eq_none
    {separator : Char}
    {cs : List Char}
    (absent : separator ∉ cs) :
    cutAtLast? separator cs = none := by
  induction cs with
  | nil => rfl
  | cons c rest ih =>
      obtain ⟨differs, absent⟩ : separator ≠ c ∧ separator ∉ rest := by simpa using absent
      simp [cutAtLast?, ih absent, Ne.symm differs]

theorem cutAtLast?_append
    {separator : Char}
    {back : List Char}
    (front : List Char)
    (absent : separator ∉ back) :
    cutAtLast? separator (front ++ separator :: back) = some (front, back) := by
  induction front with
  | nil => simp [cutAtLast?, cutAtLast?_eq_none absent]
  | cons c front ih => simp [cutAtLast?, ih]

theorem not_mem_of_cutAtLast?_eq_none
    {separator : Char}
    {cs : List Char}
    (uncut : cutAtLast? separator cs = none) :
    separator ∉ cs := by
  induction cs with
  | nil => simp
  | cons c rest ih =>
      rw [cutAtLast?] at uncut
      split at uncut
      · cases uncut
      · next none =>
          split at uncut
          · cases uncut
          · next differs => simp [ih none, Ne.symm differs]

/-- A text is cut at a separator with none behind it. -/
theorem cutAtLast?_eq_some_iff
    {separator : Char}
    {cs front back : List Char} :
    cutAtLast? separator cs = some (front, back) ↔
      separator ∉ back ∧ cs = front ++ separator :: back := by
  constructor
  · intro cut
    induction cs generalizing front with
    | nil => cases cut
    | cons c rest ih =>
        rw [cutAtLast?] at cut
        split at cut
        · next before after later =>
            cases cut
            obtain ⟨absent, rfl⟩ := ih later
            exact ⟨absent, rfl⟩
        · next none =>
            split at cut
            · next same =>
                cases cut
                exact ⟨not_mem_of_cutAtLast?_eq_none none, by rw [same, List.nil_append]⟩
            · cases cut
  · rintro ⟨absent, rfl⟩
    exact cutAtLast?_append front absent

/-- What is added to a text without a separator in it is added to the last piece. -/
theorem exists_pieces_append
    {separator : Char}
    (s : String)
    {back : String}
    (absent : separator ∉ back.toList) :
    ∃ front last, pieces separator s = front ++ [last] ∧
      pieces separator (s ++ back) = front ++ [last ++ back] := by
  cases cut : cutAtLast? separator s.toList with
  | none =>
      have alone := not_mem_of_cutAtLast?_eq_none cut
      have both : separator ∉ s.toList ++ back.toList := by simp [alone, absent]
      exact ⟨[], s, by simp [pieces, List.splitOn_eq_singleton alone],
        by simp [pieces, List.splitOn_eq_singleton both]⟩
  | some parts =>
      obtain ⟨before, after⟩ := parts
      obtain ⟨alone, shape⟩ := cutAtLast?_eq_some_iff.1 cut
      have both : separator ∉ after ++ back.toList := by simp [alone, absent]
      refine ⟨(before.splitOn separator).map String.ofList, String.ofList after, ?_, ?_⟩
      · simp [pieces, shape, List.splitOn_append_cons_self, List.splitOn_eq_singleton alone]
      · simp [pieces, shape, List.splitOn_append_cons_self, List.splitOn_eq_singleton both]

end Text
end Scaffold
