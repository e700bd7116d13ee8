import Mathlib.Data.List.Basic
import Scaffold.Manifest.Identifier
import Scaffold.Proofs.Text.Pieces

/-!
# Names and packages that are accepted

What a name and a package have to look like is said here without a search.  The search for a flaw
finds none exactly in the texts that look like this, and what it finds is the first flaw from the
left: of a name its first bad character, of a package its first bad segment.
-/

namespace Scaffold
namespace Manifest

open Text

/-- What an identifier may start with. -/
def StartsIdentifier (c : Char) : Prop :=
  c.isAlpha = true ∨ c = '_'

/-- What an identifier may go on with. -/
def ContinuesIdentifier (c : Char) : Prop :=
  c.isAlphanum = true ∨ c = '_'

/-- What a name may go on with: hyphens disappear when its case changes. -/
def ContinuesName (c : Char) : Prop :=
  ContinuesIdentifier c ∨ c = '-'

/-- A name from which an identifier can be made. -/
def IsName (name : String) : Prop :=
  ∃ c rest, name.toList = c :: rest ∧ StartsIdentifier c ∧ ∀ d ∈ rest, ContinuesName d

/-- A name from which an identifier can be made, where that identifier is no keyword. -/
def IsUsable (name spelling : String) : Prop :=
  IsName name ∧ spelling ∉ keywords

/-- The first flaw of a name, if it has one. -/
def NameFlaw.FirstIn (name : String) : NameFlaw → Prop
  | .empty => name = ""
  | .badStart c => ∃ rest, name.toList = c :: rest ∧ ¬ StartsIdentifier c
  | .badRest c =>
      ∃ first front back,
        name.toList = first :: (front ++ c :: back) ∧ StartsIdentifier first ∧
          (∀ d ∈ front, ContinuesName d) ∧ ¬ ContinuesName c

/-- A text that is an identifier as it stands. -/
def IsIdentifier (text : String) : Prop :=
  ∃ c rest, text.toList = c :: rest ∧ StartsIdentifier c ∧ ∀ d ∈ rest, ContinuesIdentifier d

/-- A segment of a package. -/
def IsSegment (segment : String) : Prop :=
  IsIdentifier segment ∧ segment ∉ keywords

/-- A package: segments with dots in between. -/
def IsPackage (package : String) : Prop :=
  package ≠ "" ∧ ∀ segment ∈ pieces '.' package, IsSegment segment

/-- What is wrong with a segment of a package. -/
def PackageFlaw.OfSegment (segment : String) : PackageFlaw → Prop
  | .empty => False
  | .emptySegment => segment = ""
  | .keyword word => word = segment ∧ segment ∈ keywords
  | .malformed text =>
      text = segment ∧ segment ≠ "" ∧ segment ∉ keywords ∧ ¬ IsIdentifier segment

/-- The first flaw of a package, if it has one. -/
def PackageFlaw.FirstIn
    (package : String)
    (flaw : PackageFlaw) : Prop :=
  package = "" ∧ flaw = .empty ∨
    package ≠ "" ∧ ∃ front segment back,
      pieces '.' package = front ++ segment :: back ∧
        (∀ earlier ∈ front, IsSegment earlier) ∧ flaw.OfSegment segment

section Names

variable {name spelling : String}

theorem isIdentifierStart_iff {c : Char} :
    isIdentifierStart c = true ↔ StartsIdentifier c := by
  simp [isIdentifierStart, StartsIdentifier]

theorem isIdentifierRest_iff {c : Char} :
    isIdentifierRest c = true ↔ ContinuesIdentifier c := by
  simp [isIdentifierRest, ContinuesIdentifier]

theorem isNameRest_iff {c : Char} :
    isNameRest c = true ↔ ContinuesName c := by
  simp [isNameRest, ContinuesName, isIdentifierRest_iff]

theorem isKeyword_iff {word : String} :
    isKeyword word = true ↔ word ∈ keywords := by
  simp [isKeyword]

/-- The first character that no name goes on with. -/
theorem find?_isNameRest_eq_some_iff
    {cs : List Char}
    {c : Char} :
    cs.find? (!isNameRest ·) = some c ↔
      ∃ front back,
        cs = front ++ c :: back ∧ (∀ d ∈ front, ContinuesName d) ∧ ¬ ContinuesName c := by
  have goesOn : ∀ d, (!!isNameRest d) = true ↔ ContinuesName d := fun d => by
    rw [Bool.not_not, isNameRest_iff]
  have stops : (!isNameRest c) = true ↔ ¬ ContinuesName c := by
    rw [← isNameRest_iff, Bool.not_eq_true', Bool.not_eq_true]
  simp only [List.find?_eq_some_iff_append, stops, goesOn]
  constructor
  · rintro ⟨bad, front, back, whole, passed⟩
    exact ⟨front, back, whole, passed, bad⟩
  · rintro ⟨front, back, whole, passed, bad⟩
    exact ⟨bad, front, back, whole, passed⟩

theorem nameFlaw?_eq_some_iff {flaw : NameFlaw} :
    nameFlaw? name = some flaw ↔ flaw.FirstIn name := by
  unfold nameFlaw?
  cases shape : name.toList with
  | nil =>
      have empty : name = "" := String.toList_eq_nil_iff.1 shape
      cases flaw <;> simp [NameFlaw.FirstIn, empty]
  | cons c rest =>
      have nonempty : name ≠ "" := by
        rintro rfl
        simp at shape
      by_cases starts : StartsIdentifier c
      · have kept : isIdentifierStart c = true := isIdentifierStart_iff.2 starts
        cases flaw with
        | empty => simp [NameFlaw.FirstIn, nonempty, kept]
        | badStart d =>
            have first : c = d → StartsIdentifier d := fun same => same ▸ starts
            simpa [NameFlaw.FirstIn, shape, kept] using first
        | badRest d => simp [NameFlaw.FirstIn, shape, kept, starts, find?_isNameRest_eq_some_iff]
      · have refused : isIdentifierStart c = false := by
          rw [← isIdentifierStart_iff] at starts
          simpa using starts
        cases flaw with
        | empty => simp [NameFlaw.FirstIn, nonempty, refused]
        | badStart d =>
            have first : c = d → ¬ StartsIdentifier d := fun same => same ▸ starts
            simpa [NameFlaw.FirstIn, shape, refused] using first
        | badRest d => simp [NameFlaw.FirstIn, shape, refused, starts]

theorem nameFlaw?_eq_none_iff :
    nameFlaw? name = none ↔ IsName name := by
  unfold nameFlaw? IsName
  cases shape : name.toList with
  | nil => simp
  | cons c rest =>
      by_cases starts : isIdentifierStart c = true
      · have passes : (rest.find? (!isNameRest ·)).map NameFlaw.badRest = none ↔
            ∀ d ∈ rest, ContinuesName d := by
          simp [isNameRest_iff]
        simp [starts, passes, ← isIdentifierStart_iff]
      · simp [starts, ← isIdentifierStart_iff]

end Names

section Packages

variable {package segment : String} {flaw : PackageFlaw}

theorem isPlainIdentifier_iff :
    isPlainIdentifier segment.toList = true ↔ IsIdentifier segment := by
  unfold isPlainIdentifier IsIdentifier
  cases shape : segment.toList with
  | nil => simp
  | cons c rest => simp [isIdentifierStart_iff, isIdentifierRest_iff]

theorem not_isIdentifier_empty :
    ¬ IsIdentifier "" := by
  simp [IsIdentifier]

theorem segmentFlaw?_eq_none_iff :
    segmentFlaw? segment = none ↔ IsSegment segment := by
  unfold segmentFlaw? IsSegment
  by_cases empty : segment = ""
  · simp [empty, not_isIdentifier_empty]
  · by_cases kept : segment ∈ keywords
    · simp [empty, kept, isKeyword_iff.2 kept]
    · by_cases plain : IsIdentifier segment
      · simp [empty, kept, isKeyword_iff, plain, isPlainIdentifier_iff]
      · simp [empty, isKeyword_iff, kept, plain, isPlainIdentifier_iff]

theorem segmentFlaw?_eq_some_iff :
    segmentFlaw? segment = some flaw ↔ flaw.OfSegment segment := by
  unfold segmentFlaw?
  by_cases empty : segment = ""
  · have noKeyword : "" ∉ keywords := by decide
    cases flaw <;> simp [PackageFlaw.OfSegment, empty, noKeyword]
  · by_cases kept : segment ∈ keywords
    · have word : isKeyword segment = true := isKeyword_iff.2 kept
      cases flaw <;> simp [PackageFlaw.OfSegment, empty, kept, word, eq_comm (a := segment)]
    · have word : isKeyword segment = false := by
        simpa using mt isKeyword_iff.1 kept
      by_cases plain : IsIdentifier segment
      · have read : isPlainIdentifier segment.toList = true := isPlainIdentifier_iff.2 plain
        cases flaw <;> simp [PackageFlaw.OfSegment, empty, kept, word, plain, read]
      · have read : isPlainIdentifier segment.toList = false := by
          simpa using mt isPlainIdentifier_iff.1 plain
        cases flaw <;>
          simp [PackageFlaw.OfSegment, empty, kept, word, plain, read, eq_comm (a := segment)]

theorem packageFlaw?_eq_none_iff :
    packageFlaw? package = none ↔ IsPackage package := by
  unfold packageFlaw? IsPackage
  by_cases empty : package = ""
  · simp [empty]
  · simp [empty, List.findSome?_eq_none_iff, segmentFlaw?_eq_none_iff]

/-- The flaw that is found in a package is that of its first bad segment. -/
theorem packageFlaw?_eq_some_iff :
    packageFlaw? package = some flaw ↔ flaw.FirstIn package := by
  unfold packageFlaw? PackageFlaw.FirstIn
  by_cases empty : package = ""
  · simp [empty, eq_comm]
  · simp only [empty, if_false, false_and, ne_eq, not_false_eq_true, true_and, false_or]
    rw [List.findSome?_eq_some_iff]
    simp only [segmentFlaw?_eq_some_iff, segmentFlaw?_eq_none_iff]
    constructor
    · rintro ⟨front, found, back, whole, bad, passed⟩
      exact ⟨front, found, back, whole, passed, bad⟩
    · rintro ⟨front, found, back, whole, passed, bad⟩
      exact ⟨front, found, back, whole, bad, passed⟩

/-- A package has no characters but those of identifiers and the dots in between. -/
theorem IsPackage.of_mem
    (h : IsPackage package)
    {c : Char}
    (member : c ∈ package.toList) :
    c = '.' ∨ ContinuesIdentifier c := by
  rcases exists_piece_of_mem '.' member with dot | ⟨segment, isSegment, among⟩
  · exact .inl dot
  · obtain ⟨⟨first, rest, shape, starts, others⟩, -⟩ := h.2 segment isSegment
    rw [shape] at among
    rcases List.mem_cons.1 among with rfl | among
    · rcases starts with letter | rfl
      · exact .inr (.inl (by simp [Char.isAlphanum, letter]))
      · exact .inr (.inr rfl)
    · exact .inr (others c among)

/-- No other characters are in a package. -/
theorem IsPackage.not_mem
    (h : IsPackage package)
    {c : Char}
    (noDot : c ≠ '.')
    (noAlphanum : c.isAlphanum = false)
    (noUnderscore : c ≠ '_') :
    c ∉ package.toList := by
  intro member
  rcases h.of_mem member with dot | alphanumeric | underscore
  · exact noDot dot
  · simp [noAlphanum] at alphanumeric
  · exact noUnderscore underscore

end Packages

end Manifest
end Scaffold
