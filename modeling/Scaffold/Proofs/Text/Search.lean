import Mathlib.Data.List.Infix
import Scaffold.Text.Pieces

/-!
# Searching for a literal

Searching a text for a literal fails exactly when the literal does not stand in the text, and a position
that is found is the number of bytes in front of a place where it stands.

A range of bytes with a part of the text in it is told by the text that stands in front of the part: both
ends of the range are then ends of characters, and the bytes between them are those of the part.
-/

namespace Scaffold
namespace Text

section Search

variable {literal cs front back : List Char} {position : Nat}

theorem byteLength_append (front back : List Char) :
    byteLength (front ++ back) = byteLength front + byteLength back := by
  induction front with
  | nil => simp [byteLength]
  | cons c front ih => simp [byteLength, ih, Nat.add_assoc]

/-- The bytes of a text are counted by its characters. -/
theorem byteLength_eq_utf8ByteSize (cs : List Char) :
    byteLength cs = (String.ofList cs).utf8ByteSize := by
  induction cs with
  | nil => rfl
  | cons c rest ih =>
      rw [byteLength, ih, ← List.singleton_append, String.ofList_append, String.utf8ByteSize_append,
        ← String.singleton_eq_ofList, String.utf8ByteSize_singleton]

/-- What is found is the number of bytes in front of a place where the literal stands. -/
theorem exists_append_of_offset?_eq_some
    (found : offset? literal cs = some position) :
    ∃ front back, cs = front ++ (literal ++ back) ∧ position = byteLength front := by
  induction cs generalizing position with
  | nil =>
      have shape : literal = [] ∧ 0 = position := by simpa [offset?] using found
      obtain ⟨rfl, rfl⟩ := shape
      exact ⟨[], [], rfl, rfl⟩
  | cons c rest ih =>
      unfold offset? at found
      split at found
      · next first =>
          obtain ⟨back, whole⟩ := List.isPrefixOf_iff_prefix.1 first
          obtain rfl : 0 = position := Option.some.inj found
          exact ⟨[], back, whole.symm, rfl⟩
      · obtain ⟨later, foundLater, rfl⟩ := Option.map_eq_some_iff.1 found
        obtain ⟨front, back, rfl, rfl⟩ := ih foundLater
        exact ⟨c :: front, back, rfl, rfl⟩

/-- A literal is found exactly when it stands in the text. -/
theorem offset?_eq_none_iff :
    offset? literal cs = none ↔ ¬ literal <:+: cs := by
  induction cs with
  | nil => simp [offset?]
  | cons c rest ih =>
      rw [List.infix_cons_iff, offset?, ← List.isPrefixOf_iff_prefix]
      split
      · next first => simp [first]
      · next notFirst => simp [notFirst, ih]

end Search

/-- A part of a text stands in a range of its bytes: both ends of the range are boundaries of characters
of the text, and the bytes between them are those of the part. -/
structure HasAt
    (whole : String)
    (offset length : Nat)
    (part : String) : Prop where
  within : offset + length ≤ whole.utf8ByteSize
  starts : String.Pos.Raw.IsValid whole ⟨offset⟩
  ends : String.Pos.Raw.IsValid whole ⟨offset + length⟩
  bytes : whole.toUTF8.extract offset (offset + length) = part.toUTF8

namespace HasAt

variable {whole part other : String} {offset length : Nat}

/-- A part stands behind the bytes in front of it. -/
theorem of_append (front part back : String) :
    HasAt (front ++ part ++ back) front.utf8ByteSize part.utf8ByteSize part where
  within := by simp
  starts := String.Pos.Raw.isValid_iff_exists_append.2
    ⟨front, part ++ back, String.append_assoc, rfl⟩
  ends := String.Pos.Raw.isValid_iff_exists_append.2
    ⟨front ++ part, back, rfl, by simp [String.Pos.Raw.ext_iff]⟩
  bytes := by
    have last : front.utf8ByteSize + part.utf8ByteSize =
        (front.toByteArray ++ part.toByteArray).size := by simp
    rw [String.toUTF8_eq_toByteArray, String.toUTF8_eq_toByteArray, String.toByteArray_append,
      String.toByteArray_append, last, ByteArray.extract_append_size_left]
    exact ByteArray.extract_append_eq_right (by simp) (by simp)

/-- Only one part stands in a range. -/
theorem unique
    (h : HasAt whole offset length part)
    (h' : HasAt whole offset length other) :
    part = other := by
  have same : part.toUTF8 = other.toUTF8 := h.bytes.symm.trans h'.bytes
  simpa [String.toByteArray_inj] using same

end HasAt

end Text
end Scaffold
