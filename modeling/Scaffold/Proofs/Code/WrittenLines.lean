import Mathlib.Data.List.Forall2
import Scaffold.Proofs.Code.Emission

/-!
# Lines as they are written

A buffer is changed by appending texts and by dropping all its lines.  What it then holds is made of the
texts that were appended behind the last drop: each is cut at its line ends, and a piece loses one
carriage return at its end.

Since no stored line has a line end in it, a buffer that is written out is cut into its written lines at
the line ends.  A written line is empty, or it is the indentation of its depth and then its text.  So, as
long as no text starts with a blank of its own and a step of indentation is not empty, the lines can be
read back from what is written, except for the depths of empty ones.
-/

namespace Scaffold
namespace Code

open Text

section Stored

/-- What is kept of a piece: all of it but one carriage return at its end. -/
inductive Keeps : String → String → Prop
  | whole
      {piece : String}
      (noReturn : piece.toList.getLast? ≠ some '\r') :
      Keeps piece piece
  | cut
      {kept : String} :
      Keeps (kept ++ "\r") kept

/-- Some texts are stored for a text: it is made of pieces between line ends, and they are kept of these. -/
def StoredFor
    (text : String)
    (stored : List String) : Prop :=
  ∃ parts, parts ≠ [] ∧ (∀ part ∈ parts, '\n' ∉ part.toList) ∧
    text = String.intercalate "\n" parts ∧ List.Forall₂ Keeps parts stored

theorem keeps_dropReturn (piece : String) :
    Keeps piece (dropReturn piece) := by
  unfold dropReturn
  split
  · next ends =>
      have parted : String.ofList piece.toList.dropLast ++ "\r" = piece := by
        rw [String.ext_iff, String.toList_append, String.toList_ofList]
        exact List.dropLast_append_getLast? _ ends
      have cut : Keeps (String.ofList piece.toList.dropLast ++ "\r") _ := .cut
      rwa [parted] at cut
  · next noReturn => exact .whole noReturn

/-- The lines of a text are stored for it. -/
theorem storedFor_lines (text : String) :
    StoredFor text (lines text) := by
  refine ⟨pieces '\n' text, pieces_ne_nil _ _, fun _ => separator_not_mem_of_mem_pieces, ?_, ?_⟩
  · have parts : (pieces '\n' text).map String.toList = text.toList.splitOn '\n' := by
      simp [pieces, Function.comp_def]
    rw [String.ext_iff, String.toList_intercalate, parts]
    exact (List.intercalate_splitOn '\n').symm
  · rw [lines, List.forall₂_map_right_iff]
    exact List.forall₂_same.2 fun piece _ => keeps_dropReturn piece

/-- Texts that were appended one after the other, with their depths, and the lines stored for them. -/
inductive Holds : List (String × Nat) → List Line → Prop
  | nil : Holds [] []
  | cons
      {text : String}
      {depth : Nat}
      {stored : List String}
      {appended : List (String × Nat)}
      {lines : List Line}
      (first : StoredFor text stored)
      (later : Holds appended lines) :
      Holds ((text, depth) :: appended) (stored.map (Line.mk · depth) ++ lines)

theorem holds_flatMap_ofText (appended : List (String × Nat)) :
    Holds appended (appended.flatMap fun entry => Line.ofText entry.1 entry.2) := by
  induction appended with
  | nil => exact .nil
  | cons entry appended ih => exact .cons (storedFor_lines entry.1) ih

end Stored

section Edits

/-- A change of a buffer. -/
inductive Edit where
  | append (text : String) (depth : Nat)
  | clear

/-- The texts, with their depths, that are appended behind the last drop, or at all if there is none. -/
def AppendedSinceClear
    (edits : List Edit)
    (appended : List (String × Nat)) : Prop :=
  let appends := appended.map fun entry => Edit.append entry.1 entry.2
  edits = appends ∨ ∃ before, edits = before ++ .clear :: appends

theorem exists_appendedSinceClear (edits : List Edit) :
    ∃ appended, AppendedSinceClear edits appended := by
  induction edits with
  | nil => exact ⟨[], .inl rfl⟩
  | cons edit edits ih =>
      obtain ⟨appended, rfl | ⟨before, rfl⟩⟩ := ih
      · cases edit with
        | append text depth => exact ⟨(text, depth) :: appended, .inl rfl⟩
        | clear => exact ⟨appended, .inr ⟨[], rfl⟩⟩
      · exact ⟨appended, .inr ⟨edit :: before, rfl⟩⟩

namespace LineBuffer

/-- The buffer after a change. -/
def edited (buffer : LineBuffer) : Edit → LineBuffer
  | .append text depth => buffer.append text depth
  | .clear => buffer.clear

/-- The buffer after some changes. -/
def editedBy
    (buffer : LineBuffer)
    (edits : List Edit) : LineBuffer :=
  edits.foldl edited buffer

theorem lines_editedBy_append
    (buffer : LineBuffer)
    (appended : List (String × Nat)) :
    (buffer.editedBy (appended.map fun entry => .append entry.1 entry.2)).lines =
      buffer.lines ++ appended.flatMap fun entry => Line.ofText entry.1 entry.2 := by
  induction appended generalizing buffer with
  | nil => simp [editedBy]
  | cons entry appended ih =>
      have later := ih (buffer.append entry.1 entry.2)
      simpa [editedBy, edited, append] using later

/-- A buffer holds the texts that were appended since it was empty for the last time. -/
theorem lines_editedBy_of_appendedSinceClear
    {edits : List Edit}
    {appended : List (String × Nat)}
    (since : AppendedSinceClear edits appended) :
    (empty.editedBy edits).lines = appended.flatMap fun entry => Line.ofText entry.1 entry.2 := by
  obtain rfl | ⟨before, rfl⟩ := since
  · exact lines_editedBy_append empty appended
  · have dropped := lines_editedBy_append (empty.editedBy before).clear appended
    simpa [editedBy, edited, clear, empty] using dropped

theorem noLineEnd_of_mem_editedBy
    {edits : List Edit}
    {line : Line}
    (stored : line ∈ (empty.editedBy edits).lines) :
    '\n' ∉ line.text.toList := by
  obtain ⟨appended, since⟩ := exists_appendedSinceClear edits
  rw [lines_editedBy_of_appendedSinceClear since] at stored
  obtain ⟨entry, -, inText⟩ := List.mem_flatMap.1 stored
  exact noLineEnd_of_mem_ofText inText

end LineBuffer

end Edits

section Written

variable {indent : Indent} {line : Line} {lines : List Line}

theorem Indent.blank_of_mem_step
    {c : Char}
    (member : c ∈ indent.step) :
    c = ' ' ∨ c = '\t' := by
  cases indent with
  | spaces width => exact .inl (List.eq_of_mem_replicate member)
  | tab => exact .inr (List.mem_singleton.1 member)

theorem Indent.blank_of_mem_atDepth
    {depth : Nat}
    {c : Char}
    (member : c ∈ indent.atDepth depth) :
    c = ' ' ∨ c = '\t' := by
  obtain ⟨step, isStep, among⟩ := List.mem_flatten.1 member
  rw [List.eq_of_mem_replicate isStep] at among
  exact blank_of_mem_step among

theorem Line.render_at_no_depth
    (indent : Indent)
    (text : String) :
    Line.render indent ⟨text, 0⟩ = text := by
  by_cases empty : text = ""
  · simp [render, empty]
  · simp [render, empty, Indent.atDepth]

/-- The written form of a line without line ends has none. -/
theorem Line.noLineEnd_render
    (single : '\n' ∉ line.text.toList)
    (indent : Indent) :
    '\n' ∉ (line.render indent).toList := by
  have blank : '\n' ∉ indent.atDepth line.depth := by
    intro member
    rcases Indent.blank_of_mem_atDepth member with same | same <;> cases same
  unfold Line.render
  split
  · simp
  · simp [blank, single]

/-- A text that is written out from lines is cut into their written forms. -/
theorem LineBuffer.pieces_render
    (nonempty : lines ≠ [])
    (single : ∀ line ∈ lines, '\n' ∉ line.text.toList)
    (indent : Indent) :
    pieces '\n' ((LineBuffer.mk lines).render indent) = lines.map (Line.render indent) := by
  refine pieces_intercalate ?_ (by simpa using nonempty)
  intro written member
  obtain ⟨line, among, rfl⟩ := List.mem_map.1 member
  exact Line.noLineEnd_render (single line among) indent

/-- How a line is written: not at all, or with as many steps of indentation as it is deep. -/
inductive IsWritten (indent : Indent) : Line → String → Prop
  | empty
      {depth : Nat} :
      IsWritten indent ⟨"", depth⟩ ""
  | indented
      {text : String}
      {depth : Nat}
      (nonempty : text ≠ "") :
      IsWritten indent ⟨text, depth⟩
        (String.join (List.replicate depth (String.ofList indent.step)) ++ text)

theorem Indent.join_replicate_step (depth : Nat) :
    String.join (List.replicate depth (String.ofList indent.step)) =
      String.ofList (indent.atDepth depth) := by
  induction depth with
  | zero => simp [atDepth, String.join]
  | succ depth ih => simp [atDepth, List.replicate_succ, String.join_cons, ih]

theorem Line.isWritten_render
    (indent : Indent)
    (line : Line) :
    IsWritten indent line (line.render indent) := by
  obtain ⟨text, depth⟩ := line
  unfold Line.render
  split
  · next empty =>
      obtain rfl : text = "" := empty
      exact .empty
  · next nonempty =>
      rw [← Indent.join_replicate_step]
      exact .indented nonempty

/-- A text that does not start with a blank that an indentation may have. -/
def StartsFlush (text : String) : Prop :=
  ∀ first ∈ text.toList.head?, first ≠ ' ' ∧ first ≠ '\t'

instance (text : String) : Decidable (StartsFlush text) :=
  inferInstanceAs (Decidable (∀ first ∈ text.toList.head?, first ≠ ' ' ∧ first ≠ '\t'))

/-- Two lines that cannot be told apart on the page: the depth of an empty line is not seen. -/
structure LooksLike (line other : Line) : Prop where
  text_eq : line.text = other.text
  depth_eq : line.text ≠ "" → line.depth = other.depth

/-- The blanks at the start of an indented text are its indentation. -/
theorem Indent.takeWhile_atDepth_append
    {text : String}
    (flush : StartsFlush text)
    (depth : Nat) :
    (indent.atDepth depth ++ text.toList).takeWhile (fun c => c = ' ' ∨ c = '\t') =
      indent.atDepth depth := by
  rw [List.takeWhile_append_of_pos fun c member => by simpa using blank_of_mem_atDepth member]
  cases shape : text.toList with
  | nil => simp
  | cons first rest =>
      obtain ⟨noSpace, noTab⟩ := flush first (by simp [shape])
      simp [noSpace, noTab]

/-- Indentations of two depths have two lengths. -/
theorem Indent.atDepth_injective
    (wide : indent.step ≠ [])
    {depth other : Nat}
    (same : indent.atDepth depth = indent.atDepth other) :
    depth = other := by
  have lengths : depth * indent.step.length = other * indent.step.length := by
    simpa [atDepth] using congrArg List.length same
  exact Nat.eq_of_mul_eq_mul_right (List.length_pos_of_ne_nil wide) lengths

theorem Line.render_eq_empty_iff (indent : Indent) :
    line.render indent = "" ↔ line.text = "" := by
  unfold Line.render
  split
  · next empty => simp [empty]
  · next nonempty => simp [nonempty]

/-- Lines that are written alike look alike. -/
theorem Line.looksLike_of_render_eq
    (wide : indent.step ≠ [])
    {other : Line}
    (flush : StartsFlush line.text)
    (flushOther : StartsFlush other.text)
    (same : line.render indent = other.render indent) :
    LooksLike line other := by
  by_cases empty : line.text = ""
  · have emptyOther : other.text = "" := by
      rw [← Line.render_eq_empty_iff indent, ← same, Line.render_eq_empty_iff, empty]
    exact ⟨empty.trans emptyOther.symm, fun nonempty => absurd empty nonempty⟩
  · have nonempty : other.text ≠ "" := by
      rwa [Ne, ← Line.render_eq_empty_iff indent, ← same, Line.render_eq_empty_iff]
    have written : indent.atDepth line.depth ++ line.text.toList =
        indent.atDepth other.depth ++ other.text.toList := by
      simpa [Line.render, empty, nonempty, String.ext_iff] using same
    have indentation : indent.atDepth line.depth = indent.atDepth other.depth := by
      rw [← Indent.takeWhile_atDepth_append flush, written,
        Indent.takeWhile_atDepth_append flushOther]
    rw [indentation, List.append_cancel_left_eq, ← String.ext_iff] at written
    exact ⟨written, fun _ => Indent.atDepth_injective wide indentation⟩

theorem Indent.step_ne_nil
    (wide : indent ≠ .spaces 0) :
    indent.step ≠ [] := by
  cases indent with
  | spaces width =>
      intro none
      have zero : width.toNat = 0 := by simpa [step] using none
      exact wide (congrArg Indent.spaces (UInt8.toNat_inj.1 zero))
  | tab => exact List.cons_ne_nil _ _

/-- Buffers that are written alike hold lines that look alike. -/
theorem LineBuffer.looksLike_of_render_eq
    {others : List Line}
    (nonempty : lines ≠ [])
    (nonemptyOthers : others ≠ [])
    (single : ∀ line ∈ lines ++ others, '\n' ∉ line.text.toList)
    (flush : ∀ line ∈ lines ++ others, StartsFlush line.text)
    (wide : indent.step ≠ [])
    (same : (LineBuffer.mk lines).render indent = (LineBuffer.mk others).render indent) :
    List.Forall₂ LooksLike lines others := by
  obtain ⟨singleLines, singleOthers⟩ := List.forall_mem_append.1 single
  obtain ⟨flushLines, flushOthers⟩ := List.forall_mem_append.1 flush
  have written : lines.map (Line.render indent) = others.map (Line.render indent) := by
    rw [← pieces_render nonempty singleLines, same, pieces_render nonemptyOthers singleOthers]
  rw [← List.forall₂_eq_eq_eq, List.forall₂_map_left_iff, List.forall₂_map_right_iff] at written
  obtain ⟨lengths, alike⟩ := List.forall₂_iff_zip.1 written
  refine List.forall₂_iff_zip.2 ⟨lengths, fun paired => ?_⟩
  obtain ⟨inLines, inOthers⟩ := List.of_mem_zip paired
  exact Line.looksLike_of_render_eq wide (flushLines _ inLines) (flushOthers _ inOthers)
    (alike paired)

/--
A buffer holds the pieces of the texts that were appended since its lines were dropped for the last
time, and no line end is in them.  Unless it holds no line, it is written as its lines are, one piece
for each: nothing for an empty one, and else the indentation of its depth before the text.  Two such
buffers that are written alike hold the same texts, at the same depths where these are not empty, if no
text starts with a blank and the indentation has a width.
-/
theorem LineBuffer.written_lines_are_read_back (edits : List Edit) :
    let buffer := empty.editedBy edits
    (∃ appended, AppendedSinceClear edits appended ∧ Holds appended buffer.lines) ∧
    (∀ line ∈ buffer.lines, '\n' ∉ line.text.toList) ∧
    (buffer.lines ≠ [] → ∀ indent : Indent,
      (pieces '\n' (buffer.render indent)).length = buffer.length ∧
      List.Forall₂ (IsWritten indent) buffer.lines (pieces '\n' (buffer.render indent))) ∧
    ∀ (otherEdits : List Edit) (indent : Indent),
      let other := empty.editedBy otherEdits
      buffer.lines ≠ [] → other.lines ≠ [] → indent ≠ .spaces 0 →
      (∀ line ∈ buffer.lines ++ other.lines, StartsFlush line.text) →
      buffer.render indent = other.render indent →
      List.Forall₂ LooksLike buffer.lines other.lines := by
  intro buffer
  refine ⟨?_, fun line => noLineEnd_of_mem_editedBy, ?_, ?_⟩
  · obtain ⟨appended, since⟩ := exists_appendedSinceClear edits
    refine ⟨appended, since, ?_⟩
    rw [lines_editedBy_of_appendedSinceClear since]
    exact holds_flatMap_ofText appended
  · intro nonempty indent
    have cut : pieces '\n' (buffer.render indent) = buffer.lines.map (Line.render indent) :=
      pieces_render nonempty (fun _ => noLineEnd_of_mem_editedBy) indent
    refine ⟨by rw [cut, List.length_map, length], ?_⟩
    rw [cut, List.forall₂_map_right_iff]
    exact List.forall₂_same.2 fun line _ => line.isWritten_render indent
  · intro otherEdits indent other nonempty nonemptyOther wide flush same
    have single : ∀ line ∈ buffer.lines ++ other.lines, '\n' ∉ line.text.toList :=
      List.forall_mem_append.2
        ⟨fun _ => noLineEnd_of_mem_editedBy, fun _ => noLineEnd_of_mem_editedBy⟩
    exact looksLike_of_render_eq nonempty nonemptyOther single flush
      (Indent.step_ne_nil wide) same

/-- A class after a draft was dropped, and the same class with its empty line stored deeper. -/
theorem LineBuffer.class_is_read_back :
    let buffer := empty.editedBy
      [.append "draft" 3, .clear, .append "class A \x7b\r\n" 0, .append "int x;" 1, .append "\x7d" 0]
    let other := empty.editedBy
      [.append "class A \x7b" 0, .append "" 5, .append "int x;\r" 1, .append "\x7d" 0]
    buffer.lines ≠ [] ∧ other.lines ≠ [] ∧ Indent.tab ≠ .spaces 0 ∧
    (∀ line ∈ buffer.lines ++ other.lines, StartsFlush line.text) ∧
    buffer.render .tab = other.render .tab ∧
    List.Forall₂ LooksLike buffer.lines other.lines := by
  intro buffer other
  have lines : buffer.lines =
      [⟨"class A \x7b", 0⟩, ⟨"", 0⟩, ⟨"int x;", 1⟩, ⟨"\x7d", 0⟩] := by
    decide
  have others : other.lines =
      [⟨"class A \x7b", 0⟩, ⟨"", 5⟩, ⟨"int x;", 1⟩, ⟨"\x7d", 0⟩] := by
    decide
  have nonempty : buffer.lines ≠ [] := by simp [lines]
  have nonemptyOther : other.lines ≠ [] := by simp [others]
  have flush : ∀ line ∈ buffer.lines ++ other.lines, StartsFlush line.text := by
    simp [lines, others, StartsFlush]
  have same : buffer.render .tab = other.render .tab := by decide
  obtain ⟨-, -, -, back⟩ := written_lines_are_read_back
    [.append "draft" 3, .clear, .append "class A \x7b\r\n" 0, .append "int x;" 1, .append "\x7d" 0]
  exact ⟨nonempty, nonemptyOther, by decide, flush, same,
    back _ .tab nonempty nonemptyOther (by decide) flush same⟩

end Written

end Code
end Scaffold
