import Mathlib.Tactic.ByContra

/-!
# Basic letters

A change of case on basic characters is checked on their numbers.  Beyond these there is neither a small
basic letter nor a capital one, so nothing is changed there.  The laws that follow are the few of the change
of case that names are about; among the libraries only the whole of Mathlib has them.
-/

namespace Scaffold
namespace Text

section BasicLetters

variable {c : Char}

/-- What holds of all characters with small numbers is checked on the numbers. -/
theorem of_forall_ofNat
    {P : Char → Prop}
    {bound : Nat}
    (all : ∀ code < bound, P (Char.ofNat code))
    (below : c.toNat < bound) :
    P c :=
  Char.ofNat_toNat c ▸ all c.toNat below

/-- The character with a number has this number, or none if there is no such character. -/
theorem toNat_ofNat (code : Nat) :
    (Char.ofNat code).toNat = code ∨ (Char.ofNat code).toNat = 0 := by
  by_cases valid : code.isValidChar
  · left
    rw [Char.ofNat, dif_pos valid]
    rfl
  · right
    rw [Char.ofNat, dif_neg valid]
    rfl

theorem isLower_iff : c.isLower = true ↔ 97 ≤ c.toNat ∧ c.toNat ≤ 122 := by
  change (decide (97 ≤ c.toNat) && decide (c.toNat ≤ 122)) = true ↔ _
  simp

theorem isUpper_iff : c.isUpper = true ↔ 65 ≤ c.toNat ∧ c.toNat ≤ 90 := by
  change decide (65 ≤ c.toNat ∧ c.toNat ≤ 90) = true ↔ _
  simp

theorem isDigit_iff : c.isDigit = true ↔ 48 ≤ c.toNat ∧ c.toNat ≤ 57 := by
  change (decide (48 ≤ c.toNat) && decide (c.toNat ≤ 57)) = true ↔ _
  simp

theorem isAlpha_iff : c.isAlpha = true ↔ c.isUpper = true ∨ c.isLower = true :=
  Bool.or_eq_true_iff

theorem isAlphanum_iff : c.isAlphanum = true ↔ c.isAlpha = true ∨ c.isDigit = true :=
  Bool.or_eq_true_iff

/-- What holds of the basic characters, and of those that are no basic letters, holds of all. -/
theorem of_basic
    {P : Char → Prop}
    (basic : ∀ code < 128, P (Char.ofNat code))
    (beyond : ∀ c : Char, c.isLower = false → c.isUpper = false → P c)
    (c : Char) :
    P c := by
  by_cases low : c.toNat < 128
  · exact of_forall_ofNat basic low
  · refine beyond c ?_ ?_
    · by_contra small
      have range := isLower_iff.1 (by simpa using small)
      omega
    · by_contra capital
      have range := isUpper_iff.1 (by simpa using capital)
      omega

theorem toUpper_of_not_isLower
    (notSmall : c.isLower = false) :
    c.toUpper = c := by
  unfold Char.toUpper
  split
  · next small => exact absurd (isLower_iff.2 small) (by simp [notSmall])
  · rfl

theorem toLower_of_not_isUpper
    (notCapital : c.isUpper = false) :
    c.toLower = c := by
  unfold Char.toLower
  split
  · next capital => exact absurd (isUpper_iff.2 capital) (by simp [notCapital])
  · rfl

theorem isLower_eq_false_of_isUpper
    (capital : c.isUpper = true) :
    c.isLower = false := by
  by_contra small
  have range := isLower_iff.1 (by simpa using small)
  have range' := isUpper_iff.1 capital
  omega

@[simp]
theorem isAlpha_toUpper (c : Char) : c.toUpper.isAlpha = c.isAlpha :=
  of_basic (P := fun c => c.toUpper.isAlpha = c.isAlpha) (by decide +kernel)
    (fun _ notSmall _ => by rw [toUpper_of_not_isLower notSmall]) c

@[simp]
theorem isAlpha_toLower (c : Char) : c.toLower.isAlpha = c.isAlpha :=
  of_basic (P := fun c => c.toLower.isAlpha = c.isAlpha) (by decide +kernel)
    (fun _ _ notCapital => by rw [toLower_of_not_isUpper notCapital]) c

theorem isAlphanum_toUpper
    (alphanumeric : c.isAlphanum = true) :
    c.toUpper.isAlphanum = true :=
  of_basic (P := fun c => c.isAlphanum = true → c.toUpper.isAlphanum = true) (by decide +kernel)
    (fun _ notSmall _ => by rw [toUpper_of_not_isLower notSmall]; exact id) c alphanumeric

theorem isAlphanum_toLower
    (alphanumeric : c.isAlphanum = true) :
    c.toLower.isAlphanum = true :=
  of_basic (P := fun c => c.isAlphanum = true → c.toLower.isAlphanum = true) (by decide +kernel)
    (fun _ _ notCapital => by rw [toLower_of_not_isUpper notCapital]; exact id) c alphanumeric

theorem isLower_toUpper (c : Char) : c.toUpper.isLower = false :=
  of_basic (P := fun c => c.toUpper.isLower = false) (by decide +kernel)
    (fun _ notSmall _ => by rw [toUpper_of_not_isLower notSmall, notSmall]) c

@[simp]
theorem toUpper_toUpper (c : Char) : c.toUpper.toUpper = c.toUpper :=
  toUpper_of_not_isLower (isLower_toUpper c)

@[simp]
theorem toLower_toUpper (c : Char) : c.toUpper.toLower = c.toLower :=
  of_basic (P := fun c => c.toUpper.toLower = c.toLower) (by decide +kernel)
    (fun _ notSmall _ => by rw [toUpper_of_not_isLower notSmall]) c

@[simp]
theorem toUpper_toLower (c : Char) : c.toLower.toUpper = c.toUpper :=
  of_basic (P := fun c => c.toLower.toUpper = c.toUpper) (by decide +kernel)
    (fun _ _ notCapital => by rw [toLower_of_not_isUpper notCapital]) c

@[simp]
theorem toLower_toLower (c : Char) : c.toLower.toLower = c.toLower :=
  of_basic (P := fun c => c.toLower.toLower = c.toLower) (by decide +kernel)
    (fun _ _ notCapital => by simp only [toLower_of_not_isUpper notCapital]) c

end BasicLetters

end Text
end Scaffold
