import Mathlib.Data.List.Basic
import Mathlib.Tactic.SplitIfs
import Scaffold.NameSet

/-!
# The order of texts is that of their bytes

Texts are compared character by character.  The encoding keeps this order: what a character is encoded
by comes before what a later character is encoded by, whatever follows either of them.  So names that
ascend as texts ascend as sequences of bytes.
-/

namespace Scaffold
namespace Text

/-- The bytes of a text in its encoding. -/
def bytes (s : String) : List UInt8 :=
  s.toUTF8.data.toList

section ByteOrder

variable {a b : String} {c d : Char}

theorem bytes_eq_flatMap (s : String) :
    bytes s = s.toList.flatMap String.utf8EncodeChar := by
  rw [bytes, String.toUTF8, ← String.utf8Encode_toList, List.utf8Encode,
    List.toList_data_toByteArray]

/-- The encodings of two characters differ before either of them ends. -/
theorem encode_append_lt_encode_append
    (less : c < d)
    (front back : List UInt8) :
    String.utf8EncodeChar c ++ front < String.utf8EncodeChar d ++ back := by
  have below : c.val.toNat < d.val.toNat := UInt32.lt_iff_toNat_lt.1 less
  have bound : d.val.toNat < 0x110000 := by
    rcases d.valid with early | ⟨-, late⟩
    · exact Nat.lt_trans early (by decide)
    · exact late
  have third : ∀ n, n / 4096 = n / 64 / 64 := fun n => by omega
  have fourth : ∀ n, n / 262144 = n / 64 / 64 / 64 := fun n => by omega
  simp only [String.utf8EncodeChar, third, fourth]
  -- the first byte tells how many there are, and grows with that; the others are digits to base 64
  split_ifs
  all_goals
    simp only [List.cons_append, List.nil_append, List.cons_lt_cons_iff, UInt8.lt_iff_toNat_lt,
      ← UInt8.toNat_inj, UInt8.toNat_ofNat']
    omega

theorem flatMap_encode_lt
    {cs ds : List Char}
    (less : cs < ds) :
    cs.flatMap String.utf8EncodeChar < ds.flatMap String.utf8EncodeChar := by
  induction less with
  | @nil d ds =>
      obtain ⟨first, rest, shape⟩ :=
        List.exists_cons_of_ne_nil (String.utf8EncodeChar_ne_nil (c := d))
      rw [List.flatMap_cons, shape, List.flatMap_nil, List.cons_append]
      exact List.nil_lt_cons _ _
  | cons _ ih =>
      rw [List.flatMap_cons, List.flatMap_cons]
      exact List.append_left_lt ih
  | rel here => exact encode_append_lt_encode_append here _ _

/-- Texts are in the order of their bytes. -/
theorem bytes_lt_bytes_iff : bytes a < bytes b ↔ a < b := by
  have keeps : ∀ {s t : String}, s < t → bytes s < bytes t := fun less => by
    rw [bytes_eq_flatMap, bytes_eq_flatMap]
    exact flatMap_encode_lt (String.lt_iff.1 less)
  constructor
  · intro less
    by_contra notBefore
    by_cases same : a = b
    · exact List.lt_irrefl _ (same ▸ less)
    · exact List.lt_asymm less (keeps (NameSet.lt_of_not_lt_of_ne notBefore same))
  · exact keeps

end ByteOrder

end Text
end Scaffold
