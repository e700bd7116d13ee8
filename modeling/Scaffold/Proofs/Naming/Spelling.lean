import Mathlib.Data.List.Forall2
import Scaffold.Proofs.Java.ClassNames

/-!
# What accepted names are spelled like

The words of an accepted name need not be found to convert it: where a capital starts a word, it is a
capital already.  One pass is enough, which drops the separators and makes a capital of what starts the
name or follows a separator.

From this pass two things are read off.  What is made of a name has letters and digits only, so it is
an identifier exactly when the first of them is a letter.  And two names are spelled alike exactly when
the pass makes the same of them.
-/

namespace Scaffold
namespace Naming

open Manifest (IsIdentifier IsName IsUsable keywords)
open Text

/-- The characters of a name in one pass: separators are dropped, and what starts the name or follows a
separator becomes a capital. -/
def capitals (starts : Bool) : List Char → List Char
  | [] => []
  | c :: rest =>
      if isSeparator c then capitals true rest
      else (if starts then c.toUpper else c) :: capitals false rest

/-- Two names of which the pass makes the same. -/
def Alike (a b : String) : Prop :=
  capitals true a.toList = capitals true b.toList

instance (a b : String) : Decidable (Alike a b) :=
  inferInstanceAs (Decidable (_ = _))

/-- The first character of a name that is no separator. -/
def lead? (name : String) : Option Char :=
  name.toList.find? (!isSeparator ·)

/--
`Spells name spelling`: what is made of the name has letters and digits only, and is an identifier
exactly when the first of those in the name is a letter.
-/
structure Spells (name spelling : String) : Prop where
  alphanumeric : ∀ c ∈ spelling.toList, c.isAlphanum = true
  isIdentifier_iff : IsIdentifier spelling ↔ (lead? name).any Char.isAlpha = true

/-- A name that is emitted for a name of a manifest: it spells that name and is no keyword. -/
structure StandsFor (name spelling : String) : Prop where
  spells : Spells name spelling
  noKeyword : spelling ∉ keywords

section OnePass

variable {cs : List Char}

/-- A word that starts with a capital stays as it is. -/
theorem capitalize_of_isUppercase
    {c : Char}
    {rest : List Char}
    (basic : c.toNat < 0x80)
    (capital : isUppercase c = true) :
    capitalize (c :: rest) = c :: rest := by
  have isUpper : c.isUpper = true := by
    have noRun : onRuns upperRuns c = false := by simp [onRuns, basic]
    simpa [isUppercase, noRun] using capital
  simp [capitalize, upper, basic,
    toUpper_of_not_isLower (isLower_eq_false_of_isUpper isUpper)]

/-- Behind the first word of a piece, every word starts with a capital. -/
theorem flatMap_capitalize_of_isChain
    {word : List Char}
    {later : List (List Char)}
    (chain : (word :: later).IsChain fun a b =>
      ∃ ha hb, together (a.getLast ha) (b.head hb) = false)
    (basic : ∀ w ∈ later, ∀ c ∈ w, c.toNat < 0x80) :
    later.flatMap capitalize = later.flatten := by
  induction later generalizing word with
  | nil => rfl
  | cons next later ih =>
      obtain ⟨⟨started, nonempty, apart⟩, chain⟩ := List.isChain_cons_cons.1 chain
      obtain ⟨basic, others⟩ := List.forall_mem_cons.1 basic
      obtain ⟨first, rest, rfl⟩ := List.exists_cons_of_ne_nil nonempty
      have capital : isUppercase first = true := by
        have both : endsHump (word.getLast started) = true ∧ isUppercase first = true := by
          simpa [together] using apart
        exact both.2
      rw [List.flatMap_cons, List.flatten_cons, ih chain others,
        capitalize_of_isUppercase (basic first List.mem_cons_self) capital]

/-- The words of a piece need not be found to capitalize them. -/
theorem flatMap_capitalize_splitBy
    {piece : List Char}
    (basic : ∀ c ∈ piece, c.toNat < 0x80) :
    (piece.splitBy together).flatMap capitalize = capitalize piece := by
  have whole := List.flatten_splitBy together piece
  have chain := List.isChain_getLast_head_splitBy together piece
  have nonempty := List.nil_notMem_splitBy together piece
  cases split : piece.splitBy together with
  | nil =>
      obtain rfl : piece = [] := List.splitBy_eq_nil.1 split
      rfl
  | cons word later =>
      rw [split] at whole chain nonempty
      rw [List.flatten_cons] at whole
      have others : ∀ w ∈ later, ∀ c ∈ w, c.toNat < 0x80 := fun w isWord c member =>
        basic c (whole ▸ List.mem_append_right _ (List.mem_flatten_of_mem isWord member))
      obtain ⟨first, rest, rfl⟩ :=
        List.exists_cons_of_ne_nil (fun empty => nonempty (empty ▸ List.mem_cons_self))
      rw [List.flatMap_cons, flatMap_capitalize_of_isChain chain others, ← whole]
      simp [capitalize]

/-- Cutting a text into pieces and capitalizing each of them is one pass. -/
theorem exists_splitOnP_eq_cons
    (basic : ∀ c ∈ cs, c.toNat < 0x80) :
    ∃ first others,
      cs.splitOnP isSeparator = first :: others ∧
        capitals false cs = first ++ others.flatMap capitalize ∧
        capitals true cs = capitalize first ++ others.flatMap capitalize := by
  induction cs with
  | nil => exact ⟨[], [], by simp, rfl, rfl⟩
  | cons c rest ih =>
      obtain ⟨here, basic⟩ := List.forall_mem_cons.1 basic
      obtain ⟨first, others, split, inside, starting⟩ := ih basic
      rw [List.splitOnP_cons_eq_if_modifyHead, split]
      by_cases separates : isSeparator c = true
      · refine ⟨[], first :: others, by simp [separates], ?_, ?_⟩
        · simp [capitals, separates, starting]
        · simp [capitals, separates, starting, capitalize]
      · refine ⟨c :: first, others, by simp [separates], ?_, ?_⟩
        · simp [capitals, separates, inside]
        · simp [capitals, separates, inside, capitalize, upper, here]

/-- The words of a text of basic characters, capitalized, are what one pass makes of it. -/
theorem pascalList_eq_capitals
    (basic : ∀ c ∈ cs, c.toNat < 0x80) :
    pascalList cs = capitals true cs := by
  obtain ⟨first, others, split, -, starting⟩ := exists_splitOnP_eq_cons basic
  have pieces : (words cs).flatMap capitalize = (cs.splitOnP isSeparator).flatMap capitalize := by
    rw [words, List.flatMap_assoc]
    refine List.flatMap_congr fun piece isPiece => flatMap_capitalize_splitBy fun c member => ?_
    exact basic c (of_mem_splitOnP member isPiece).1
  rw [pascalList, pieces, split, starting, List.flatMap_cons]

/-- What the pass starts with is the first character that is no separator. -/
theorem head?_capitals (cs : List Char) :
    (capitals true cs).head? = (cs.find? (!isSeparator ·)).map Char.toUpper := by
  induction cs with
  | nil => rfl
  | cons c rest ih =>
      by_cases separates : isSeparator c = true
      · simpa [capitals, separates] using ih
      · simp [capitals, separates]

end OnePass

section Names

variable {name other : String}

theorem toNat_lt_of_isName
    (h : IsName name) :
    ∀ c ∈ name.toList, c.toNat < 0x80 := fun _ member =>
  toNat_lt_of_continuesName (continuesName_of_mem h member)

theorem toList_pascal
    (h : IsName name) :
    (pascal name).toList = capitals true name.toList := by
  simp [pascal, pascalList_eq_capitals (toNat_lt_of_isName h)]

/-- The name of a variable is that of a type with its first character in lower case. -/
theorem toList_camel
    (h : IsName name) :
    (camel name).toList = (pascal name).toList.modifyHead Char.toLower := by
  have alphanumeric := fun c => isAlphanum_of_mem_pascal (c := c) h
  simp only [camel, pascal, String.toList_ofList] at alphanumeric ⊢
  cases shape : pascalList name.toList with
  | nil => rfl
  | cons first rest =>
      have basic : first.toNat < 0x80 :=
        toNat_lt_of_continuesName (.inl (.inl (alphanumeric first (by simp [shape]))))
      simp [uncapitalize, lower, basic]

/-- A text of letters and digits is an identifier exactly when it starts with a letter. -/
theorem isIdentifier_iff_of_alphanumeric
    {text : String}
    (alphanumeric : ∀ c ∈ text.toList, c.isAlphanum = true) :
    IsIdentifier text ↔ text.toList.head?.any Char.isAlpha = true := by
  unfold IsIdentifier
  cases shape : text.toList with
  | nil => simp
  | cons first rest =>
      obtain ⟨here, others⟩ := List.forall_mem_cons.1 (shape ▸ alphanumeric)
      simp only [List.head?_cons, Option.any_some]
      constructor
      · rintro ⟨_, _, same, letter | rfl, -⟩
        · rwa [(List.cons.inj same).1]
        · obtain ⟨rfl, -⟩ := List.cons.inj same
          cases here
      · exact fun letter => ⟨first, rest, rfl, .inl letter, fun c member => .inl (others c member)⟩

theorem spells_pascal
    (h : IsName name) :
    Spells name (pascal name) where
  alphanumeric := fun _ => isAlphanum_of_mem_pascal h
  isIdentifier_iff := by
    rw [isIdentifier_iff_of_alphanumeric fun _ => isAlphanum_of_mem_pascal h, toList_pascal h,
      head?_capitals, Option.any_map, lead?]
    simp

/-- The variable name of an accepted name has letters and digits only. -/
theorem isAlphanum_of_mem_camel
    (h : IsName name)
    {c : Char}
    (member : c ∈ (camel name).toList) :
    c.isAlphanum = true := by
  have alphanumeric := fun d => isAlphanum_of_mem_pascal (c := d) h
  rw [toList_camel h] at member
  cases shape : (pascal name).toList with
  | nil => simp [shape] at member
  | cons first rest =>
      rw [shape] at member alphanumeric
      rcases List.mem_cons.1 member with rfl | member
      · exact isAlphanum_toLower (alphanumeric first List.mem_cons_self)
      · exact alphanumeric c (List.mem_cons_of_mem _ member)

theorem spells_camel
    (h : IsName name) :
    Spells name (camel name) where
  alphanumeric := fun _ => isAlphanum_of_mem_camel h
  isIdentifier_iff := by
    have first : (camel name).toList.head? = (pascal name).toList.head?.map Char.toLower := by
      rw [toList_camel h, List.head?_modifyHead]
    rw [isIdentifier_iff_of_alphanumeric fun _ => isAlphanum_of_mem_camel h, first,
      toList_pascal h, head?_capitals, Option.map_map, Option.any_map, lead?]
    simp

/-- Two accepted names give one variable name exactly when they are spelled alike. -/
theorem camel_eq_camel_iff
    (h : IsName name)
    (h' : IsName other) :
    camel name = camel other ↔ Alike name other := by
  rw [String.ext_iff, toList_camel h, toList_camel h', Alike, ← toList_pascal h,
    ← toList_pascal h']
  constructor
  · intro same
    cases shape : (pascal name).toList with
    | nil =>
        cases shape' : (pascal other).toList with
        | nil => rfl
        | cons first' rest' => simp [shape, shape'] at same
    | cons first rest =>
        cases shape' : (pascal other).toList with
        | nil => simp [shape, shape'] at same
        | cons first' rest' =>
            obtain ⟨heads, rfl⟩ : first.toLower = first'.toLower ∧ rest = rest' := by
              simpa [shape, shape'] using same
            -- neither is a small letter, so both are the capitals of what they have in common
            have uppers := congrArg Char.toUpper heads
            rw [toUpper_toLower, toUpper_toLower,
              toUpper_of_not_isLower (isLower_of_pascal shape),
              toUpper_of_not_isLower (isLower_of_pascal shape')] at uppers
            rw [uppers]
  · exact fun same => by rw [same]

/-- Accepted names give different variable names exactly when no two of them are spelled alike. -/
theorem nodup_map_camel_iff
    {names : List String}
    (accepted : ∀ name ∈ names, IsName name) :
    (names.map camel).Nodup ↔ names.Pairwise fun a b => ¬ Alike a b := by
  rw [List.Nodup, List.pairwise_map]
  exact List.Pairwise.iff_of_mem fun {a b} member member' =>
    not_congr (camel_eq_camel_iff (accepted a member) (accepted b member'))

end Names

section Emitted

variable {name : String} {names : List String}

/-- The variable name of a usable name stands for it. -/
theorem standsFor_camel
    (usable : IsUsable name (camel name)) :
    StandsFor name (camel name) :=
  ⟨spells_camel usable.1, usable.2⟩

theorem forall₂_standsFor_camel
    (usable : ∀ name ∈ names, IsUsable name (camel name)) :
    List.Forall₂ StandsFor names (names.map camel) :=
  List.forall₂_map_right_iff.2 (List.forall₂_same.2 fun name member =>
    standsFor_camel (usable name member))

/-- What stands for names that have a letter first are identifiers, and no keywords. -/
theorem isIdentifier_of_standsFor
    {spellings : List String}
    (emitted : List.Forall₂ StandsFor names spellings)
    (letters : ∀ name ∈ names, (lead? name).any Char.isAlpha = true) :
    ∀ spelling ∈ spellings, IsIdentifier spelling ∧ spelling ∉ keywords := by
  induction emitted with
  | nil => simp
  | cons stands _ ih =>
      obtain ⟨letter, letters⟩ := List.forall_mem_cons.1 letters
      exact List.forall_mem_cons.2
        ⟨⟨stands.spells.isIdentifier_iff.2 letter, stands.noKeyword⟩, ih letters⟩

theorem isAlpha_of_isAlphanum
    {c : Char}
    (alphanumeric : c.isAlphanum = true) :
    c.isAlpha = !c.isDigit := by
  have apart : c.isDigit = true → ¬ c.isAlpha = true := by
    simp only [isDigit_iff, isAlpha_iff, isUpper_iff, isLower_iff]
    omega
  cases digit : c.isDigit with
  | false => simpa [Char.isAlphanum, digit] using alphanumeric
  | true => simpa using apart digit

/-- The first character of an accepted name that is no separator is a letter or a digit. -/
theorem isAlphanum_of_lead
    (h : IsName name)
    {c : Char}
    (first : lead? name = some c) :
    c.isAlphanum = true := by
  have keeps : isSeparator c = false := by simpa using List.find?_some first
  rcases continuesName_of_mem h (List.mem_of_find?_eq_some first) with (alphanumeric | rfl) | rfl
  · exact alphanumeric
  · cases keeps
  · cases keeps

theorem isAlphanum_of_mem_pascal_append
    {suffix : String}
    (h : IsName name)
    (alphanumeric : ∀ c ∈ suffix.toList, c.isAlphanum = true) :
    ∀ c ∈ (pascal name ++ suffix).toList, c.isAlphanum = true := by
  rw [String.toList_append]
  exact List.forall_mem_append.2 ⟨fun _ => isAlphanum_of_mem_pascal h, alphanumeric⟩

/-- With a suffix of letters and digits that starts with a letter, a type name is an identifier unless
the name it is made from has a digit first. -/
theorem isIdentifier_pascal_append_iff
    {suffix : String}
    (h : IsName name)
    (alphanumeric : ∀ c ∈ suffix.toList, c.isAlphanum = true)
    (letter : suffix.toList.head?.any Char.isAlpha = true) :
    IsIdentifier (pascal name ++ suffix) ↔ (lead? name).any Char.isDigit = false := by
  have first : (pascal name).toList.head? = (lead? name).map Char.toUpper := by
    rw [toList_pascal h, head?_capitals, lead?]
  rw [isIdentifier_iff_of_alphanumeric (isAlphanum_of_mem_pascal_append h alphanumeric),
    String.toList_append, List.head?_append, first]
  cases lead : lead? name with
  | none => simpa using letter
  | some c => simp [isAlpha_of_isAlphanum (isAlphanum_of_lead h lead)]

end Emitted

/-- A hyphen, an underscore and a hump are alike, and a word of capitals is not. -/
example :
    Alike "owner_id" "ownerId" ∧ Alike "owner-id" "OwnerId" ∧ ¬ Alike "owner_id" "ownerID" := by
  decide +kernel

end Naming
end Scaffold
