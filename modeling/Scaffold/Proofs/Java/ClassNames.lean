import Mathlib.Data.List.SplitBy
import Scaffold.Java.TypeName
import Scaffold.Proofs.Manifest.Acceptance
import Scaffold.Proofs.Manifest.Declarations
import Scaffold.Proofs.Text.Casing
import Scaffold.Proofs.Text.Pieces

/-!
# Names of classes

No accepted name has a dot, so the class that a reference stands for is the class of the entity that
the reference resolves to, whether it names the module of that entity or not.  A class name starts
with no small letter, so it is the name of no primitive type; that of an accepted name has letters
and digits only.
-/

namespace Scaffold

open Manifest (ContinuesName Declaration IsName Project)
open Text

namespace Naming

section Spelling

variable {name : String}

theorem toNat_lt_of_continuesName
    {c : Char}
    (h : ContinuesName c) :
    c.toNat < 0x80 := by
  rcases h with (alphanumeric | rfl) | rfl
  · simp only [isAlphanum_iff, isAlpha_iff, isUpper_iff, isLower_iff, isDigit_iff] at alphanumeric
    omega
  · decide
  · decide

theorem continuesName_of_mem
    (h : IsName name)
    {c : Char}
    (member : c ∈ name.toList) :
    ContinuesName c := by
  obtain ⟨first, rest, shape, starts, others⟩ := h
  rw [shape] at member
  rcases List.mem_cons.1 member with rfl | member
  · rcases starts with letter | rfl
    · exact .inl (.inl (by simp [Char.isAlphanum, letter]))
    · exact .inl (.inr rfl)
  · exact others c member

/-- A name has only characters with which names go on. -/
theorem not_mem_of_isName
    (h : IsName name)
    {c : Char}
    (other : Manifest.isNameRest c = false) :
    c ∉ name.toList := by
  intro member
  rw [Manifest.isNameRest_iff.2 (continuesName_of_mem h member)] at other
  cases other

theorem dot_not_mem (h : IsName name) : '.' ∉ name.toList :=
  not_mem_of_isName h (by decide)

theorem colon_not_mem (h : IsName name) : ':' ∉ name.toList :=
  not_mem_of_isName h (by decide)

/-- A name without a dot is the name of a class as it stands. -/
theorem className_of_isName (h : IsName name) : className name = pascal name := by
  simp [className, lastPart, cutAtLast?_eq_none (dot_not_mem h)]

/-- A character of a word is one of the name, and it separates no words. -/
theorem of_mem_words
    {cs word : List Char}
    {c : Char}
    (isWord : word ∈ words cs)
    (member : c ∈ word) :
    c ∈ cs ∧ isSeparator c = false := by
  obtain ⟨piece, isPiece, isWord⟩ := List.mem_flatMap.1 isWord
  refine of_mem_splitOnP ?_ isPiece
  rw [← List.flatten_splitBy together piece]
  exact List.mem_flatten_of_mem isWord member

/-- A text of letters and digits, with separators in between. -/
def IsSpaced (text : String) : Prop :=
  ∀ c ∈ text.toList, c.isAlphanum = true ∨ isSeparator c = true

/-- A word of such a text has letters and digits only. -/
theorem IsSpaced.isAlphanum_of_mem_words
    (h : IsSpaced name)
    {word : List Char}
    {c : Char}
    (isWord : word ∈ words name.toList)
    (member : c ∈ word) :
    c.isAlphanum = true := by
  obtain ⟨among, keeps⟩ := of_mem_words isWord member
  exact (h c among).resolve_right (by simp [keeps])

/-- The type name of a text of letters and digits, with separators in between, has no separators. -/
theorem IsSpaced.isAlphanum_of_mem_pascal
    (h : IsSpaced name)
    {c : Char}
    (member : c ∈ (pascal name).toList) :
    c.isAlphanum = true := by
  obtain ⟨word, isWord, member⟩ : ∃ word ∈ words name.toList, c ∈ capitalize word := by
    simpa [pascal, pascalList] using member
  cases word with
  | nil => cases member
  | cons first rest =>
      have alphanumeric : ∀ d ∈ first :: rest, d.isAlphanum = true :=
        fun _ => h.isAlphanum_of_mem_words isWord
      have isBasic : first.toNat < 0x80 :=
        toNat_lt_of_continuesName (.inl (.inl (alphanumeric first List.mem_cons_self)))
      have spelled : upper first = [first.toUpper] := by simp [upper, isBasic]
      simp only [capitalize, spelled, List.cons_append, List.nil_append] at member
      rcases List.mem_cons.1 member with rfl | member
      · exact isAlphanum_toUpper (alphanumeric first List.mem_cons_self)
      · exact alphanumeric c (List.mem_cons_of_mem _ member)

theorem isSpaced_of_isName
    (h : IsName name) :
    IsSpaced name := by
  intro c among
  rcases continuesName_of_mem h among with (alphanumeric | rfl) | rfl
  · exact .inl alphanumeric
  · exact .inr rfl
  · exact .inr rfl

/-- The type name of an accepted name has letters and digits only. -/
theorem isAlphanum_of_mem_pascal
    (h : IsName name)
    {c : Char}
    (member : c ∈ (pascal name).toList) :
    c.isAlphanum = true :=
  (isSpaced_of_isName h).isAlphanum_of_mem_pascal member

/-- Words that are capitalized start with no basic small letter. -/
theorem isLower_of_flatMap_capitalize
    {ws : List (List Char)}
    {first : Char}
    {rest : List Char}
    (shape : ws.flatMap capitalize = first :: rest) :
    first.isLower = false := by
  induction ws with
  | nil => cases shape
  | cons w ws ih =>
      rw [List.flatMap_cons] at shape
      cases w with
      | nil => exact ih shape
      | cons c w =>
          obtain ⟨capital, more, spelled, notSmall⟩ := exists_upper_eq_cons c
          simp only [capitalize, spelled, List.cons_append] at shape
          obtain ⟨rfl, -⟩ := List.cons.inj shape
          exact notSmall

/-- A type name starts with no basic small letter, whatever it is made from. -/
theorem isLower_of_pascal
    {first : Char}
    {rest : List Char}
    (shape : (pascal name).toList = first :: rest) :
    first.isLower = false :=
  isLower_of_flatMap_capitalize (by simpa [pascal, pascalList] using shape)

end Spelling

end Naming

namespace Java
namespace TypeName

/-- The primitive types. -/
def primitives : List String :=
  ["boolean", "byte", "char", "double", "float", "int", "long", "short"]

/-- No type name is a primitive type. -/
theorem pascal_not_mem_primitives (name : String) :
    Naming.pascal name ∉ primitives := by
  have small : ∀ type ∈ primitives, type.toList.head?.any Char.isLower = true := by decide
  intro member
  cases shape : (Naming.pascal name).toList with
  | nil => simpa [shape] using small _ member
  | cons first rest => simpa [shape, Naming.isLower_of_pascal shape] using small _ member

end TypeName
end Java

namespace Manifest
namespace Project

section Classes

variable {project : Project} {d e : Declaration} {module reference : String}

theorem Accepted.isName
    (accepted : project.Accepted)
    (member : d ∈ project.declarations) :
    IsName d.name :=
  (accepted.entities d member).1

/-- The class of an entity is named for the entity. -/
theorem Accepted.className_eq
    (accepted : project.Accepted)
    (member : d ∈ project.declarations) :
    Naming.className d.name = Naming.pascal d.name :=
  Naming.className_of_isName (accepted.isName member)

/-- What a reference ends with is the name of the entity that it resolves to. -/
theorem Accepted.lastPart_of_resolve
    (accepted : project.Accepted)
    (resolved : project.resolve? module reference = some e) :
    Naming.lastPart reference = e.name := by
  have isName := accepted.isName (Project.mem_declarations_of_resolve resolved)
  have bare : reference = e.name → Naming.lastPart reference = e.name := by
    rintro rfl
    simp [Naming.lastPart, cutAtLast?_eq_none (Naming.dot_not_mem isName)]
  unfold resolve? at resolved
  split at resolved
  · next found hit =>
      cases resolved
      exact bare (Prod.mk.inj (Project.id_of_declared hit)).2.symm
  · unfold resolveAbroad? at resolved
    split at resolved
    · next home name cut =>
        have named : e.name = String.ofList name :=
          (Prod.mk.inj (Project.id_of_declared resolved)).2
        have noDot : '.' ∉ name := by simpa [named] using Naming.dot_not_mem isName
        rw [Naming.lastPart, eq_append_of_cutAt cut, cutAtLast?_append home noDot, named]
    · split at resolved
      · next only hit =>
          cases resolved
          obtain ⟨⟨home, m⟩, -, found⟩ := List.mem_filterMap.1 (hit ▸ List.mem_singleton_self e)
          obtain ⟨entity, -, rfl⟩ := Option.map_eq_some_iff.1 found
          exact bare rfl
      · cases resolved

/-- The class that a reference stands for is the class of the entity that it resolves to. -/
theorem Accepted.className_of_resolve
    (accepted : project.Accepted)
    (resolved : project.resolve? module reference = some e) :
    Naming.className reference = Naming.className e.name := by
  rw [accepted.className_eq (Project.mem_declarations_of_resolve resolved), Naming.className,
    accepted.lastPart_of_resolve resolved]

end Classes

end Project
end Manifest
end Scaffold
