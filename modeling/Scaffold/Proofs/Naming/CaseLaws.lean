import Scaffold.Proofs.Naming.Marks
import Scaffold.Proofs.Naming.Spelling
import Scaffold.Proofs.Naming.Words

/-!
# Laws of the three cases

For names of basic characters the conversions agree with each other.  What is in PascalCase has no
separators and no small letter in front, so converting it again changes nothing, and the case of its
first character is all in which it differs from camelCase.  The words of a name in snake_case are those
of the name in small letters, as no capital is left that could start a word.

Beyond the basic characters the laws fail, since a letter may be spelled differently after its case
was changed to and fro.
-/

namespace Scaffold
namespace Naming

open Text

/-- A text of basic characters. -/
def IsBasic (text : String) : Prop :=
  ∀ c ∈ text.toList, c.toNat < 0x80

section Characters

variable {c : Char}

/-- A capital is basic, and separates words, when the letter does. -/
theorem toUpper_of_basic
    (basic : c.toNat < 0x80) :
    c.toUpper.toNat < 0x80 ∧ isSeparator c.toUpper = isSeparator c :=
  of_forall_ofNat (P := fun c => c.toUpper.toNat < 0x80 ∧ isSeparator c.toUpper = isSeparator c)
    (by decide +kernel) basic

/-- A small letter is basic, and separates words, when the letter does; it starts no word. -/
theorem toLower_of_basic
    (basic : c.toNat < 0x80) :
    c.toLower.toNat < 0x80 ∧ isSeparator c.toLower = isSeparator c ∧
      isUppercase c.toLower = false :=
  of_forall_ofNat
    (P := fun c => c.toLower.toNat < 0x80 ∧ isSeparator c.toLower = isSeparator c ∧
      isUppercase c.toLower = false)
    (by decide +kernel) basic

end Characters

section Capitals

variable {cs : List Char} {starts : Bool} {c : Char}

/-- What the pass leaves is basic and separates no words. -/
theorem of_mem_capitals
    (basic : ∀ c ∈ cs, c.toNat < 0x80)
    (member : c ∈ capitals starts cs) :
    c.toNat < 0x80 ∧ isSeparator c = false := by
  induction cs generalizing starts with
  | nil => cases member
  | cons first rest ih =>
      obtain ⟨here, basic⟩ := List.forall_mem_cons.1 basic
      unfold capitals at member
      split at member
      · exact ih basic member
      · next keeps =>
          have solid : isSeparator first = false := by simpa using keeps
          rcases List.mem_cons.1 member with rfl | later
          · split
            · rw [(toUpper_of_basic here).2]
              exact ⟨(toUpper_of_basic here).1, solid⟩
            · exact ⟨here, solid⟩
          · exact ih basic later

/-- The pass makes a capital of what starts a text without separators, and changes nothing else. -/
theorem capitals_of_solid
    (solid : ∀ c ∈ cs, isSeparator c = false) :
    capitals false cs = cs ∧ capitals true cs = cs.modifyHead Char.toUpper := by
  induction cs with
  | nil => exact ⟨rfl, rfl⟩
  | cons first rest ih =>
      obtain ⟨here, solid⟩ := List.forall_mem_cons.1 solid
      simp [capitals, here, (ih solid).1]

/-- What the pass starts with has no capital but itself. -/
theorem modifyHead_toUpper_capitals (cs : List Char) :
    (capitals true cs).modifyHead Char.toUpper = capitals true cs := by
  induction cs with
  | nil => rfl
  | cons first rest ih =>
      by_cases separates : isSeparator first = true
      · simpa [capitals, separates] using ih
      · simp [capitals, separates]

end Capitals

section PascalAndCamel

variable {s a b : String}

/-- camelCase is made from PascalCase alone. -/
theorem camel_eq_ofList_uncapitalize (s : String) :
    camel s = String.ofList (uncapitalize (pascal s).toList) := by
  simp [camel, pascal]

theorem camel_congr
    (same : pascal a = pascal b) :
    camel a = camel b := by
  rw [camel_eq_ofList_uncapitalize, camel_eq_ofList_uncapitalize, same]

theorem toList_pascal_of_basic
    (basic : IsBasic s) :
    (pascal s).toList = capitals true s.toList := by
  simp [pascal, pascalList_eq_capitals basic]

/-- The PascalCase of a name is basic and has no separators. -/
theorem of_mem_pascal
    (basic : IsBasic s)
    {c : Char}
    (member : c ∈ (pascal s).toList) :
    c.toNat < 0x80 ∧ isSeparator c = false :=
  of_mem_capitals basic (toList_pascal_of_basic basic ▸ member)

theorem toList_camel_of_basic
    (basic : IsBasic s) :
    (camel s).toList = (pascal s).toList.modifyHead Char.toLower := by
  have stays := fun c => of_mem_pascal (c := c) basic
  rw [camel_eq_ofList_uncapitalize, String.toList_ofList]
  cases shape : (pascal s).toList with
  | nil => rfl
  | cons first rest =>
      have here : first.toNat < 0x80 := (stays first (by simp [shape])).1
      simp [uncapitalize, lower, here]

/-- To convert a text without separators to PascalCase is to capitalize it. -/
theorem toList_pascal_of_solid
    (basic : IsBasic s)
    (solid : ∀ c ∈ s.toList, isSeparator c = false) :
    (pascal s).toList = s.toList.modifyHead Char.toUpper := by
  rw [toList_pascal_of_basic basic, (capitals_of_solid solid).2]

/-- A name in PascalCase starts with no small letter. -/
theorem modifyHead_toUpper_pascal
    (basic : IsBasic s) :
    (pascal s).toList.modifyHead Char.toUpper = (pascal s).toList := by
  rw [toList_pascal_of_basic basic, modifyHead_toUpper_capitals]

/-- What is in PascalCase stays as it is. -/
theorem pascal_pascal
    (basic : IsBasic s) :
    pascal (pascal s) = pascal s := by
  have solid := fun c => of_mem_pascal (c := c) basic
  rw [String.ext_iff, toList_pascal_of_solid (fun c member => (solid c member).1)
    (fun c member => (solid c member).2), modifyHead_toUpper_pascal basic]

/-- PascalCase and camelCase differ in the first character only. -/
theorem pascal_camel
    (basic : IsBasic s) :
    pascal (camel s) = pascal s := by
  have solid : ∀ c ∈ (camel s).toList, c.toNat < 0x80 ∧ isSeparator c = false := by
    have ofPascal := fun c => of_mem_pascal (c := c) basic
    rw [toList_camel_of_basic basic]
    cases shape : (pascal s).toList with
    | nil => simp
    | cons first rest =>
        rw [shape] at ofPascal
        obtain ⟨⟨here, keeps⟩, later⟩ := List.forall_mem_cons.1 ofPascal
        refine List.forall_mem_cons.2 ⟨?_, later⟩
        obtain ⟨small, separates, -⟩ := toLower_of_basic here
        exact ⟨small, separates.trans keeps⟩
  have undone : Char.toUpper ∘ Char.toLower = Char.toUpper :=
    funext toUpper_toLower
  rw [String.ext_iff, toList_pascal_of_solid (fun c member => (solid c member).1)
    (fun c member => (solid c member).2), toList_camel_of_basic basic, List.modifyHead_modifyHead,
    undone, modifyHead_toUpper_pascal basic]

end PascalAndCamel

section Snake

variable {s : String} {cs : List Char}

/-- The lower case of basic characters is that of each of them. -/
theorem lowercase_of_basic
    (basic : ∀ c ∈ cs, c.toNat < 0x80) :
    lowercase cs = cs.map Char.toLower := by
  have general : ∀ before, lowercaseAfter before cs = cs.map Char.toLower := by
    induction cs with
    | nil => exact fun _ => rfl
    | cons first rest ih =>
        intro before
        obtain ⟨here, basic⟩ := List.forall_mem_cons.1 basic
        have noSigma : first ≠ capitalSigma := by
          rintro rfl
          exact absurd here (by decide)
        simp [lowercaseAfter, noSigma, lower, here, ih basic]
  exact general []

theorem lowercase_lowercase
    (basic : ∀ c ∈ cs, c.toNat < 0x80) :
    lowercase (lowercase cs) = lowercase cs := by
  have stays : ∀ c ∈ cs.map Char.toLower, c.toNat < 0x80 := by
    intro c member
    obtain ⟨d, among, rfl⟩ := List.mem_map.1 member
    exact (toLower_of_basic (basic d among)).1
  rw [lowercase_of_basic basic, lowercase_of_basic stays, List.map_map]
  exact List.map_congr_left fun c _ => toLower_toLower c

/-- Words without separators and capitals are found again between underscores. -/
theorem words_intercalate
    {ws : List (List Char)}
    (nonempty : ∀ w ∈ ws, w ≠ [])
    (solid : ∀ w ∈ ws, ∀ c ∈ w, isSeparator c = false)
    (small : ∀ w ∈ ws, ∀ c ∈ w, isUppercase c = false) :
    words (['_'].intercalate ws) = ws := by
  have oneWord : ∀ w ∈ ws, words w = [w] := fun w member => by
    refine Unbroken.words_eq ⟨solid w member, List.Pairwise.isChain ?_⟩ (nonempty w member)
    refine List.pairwise_iff_forall_sublist.2 fun {a b} sub => ?_
    have notUpper := small w member b (sub.subset (by simp))
    simp [together, notUpper]
  clear nonempty solid small
  induction ws with
  | nil => rfl
  | cons w rest ih =>
      obtain ⟨one, oneWord⟩ := List.forall_mem_cons.1 oneWord
      cases rest with
      | nil => simpa using one
      | cons next rest =>
          rw [List.intercalate_cons_cons, List.append_assoc, List.singleton_append,
            words_append_separator (by decide), one, ih oneWord, List.singleton_append]

/-- The words of a name in snake_case are those of the name, in small letters. -/
theorem words_snake
    (basic : IsBasic s) :
    words (snake s).toList = (words s.toList).map lowercase := by
  have small : ∀ w ∈ (words s.toList).map lowercase,
      w ≠ [] ∧ ∀ c ∈ w, isSeparator c = false ∧ isUppercase c = false := by
    intro w isWord
    obtain ⟨word, among, rfl⟩ := List.mem_map.1 isWord
    have ofWord := fun c (member : c ∈ word) => of_mem_words among member
    rw [lowercase_of_basic fun c member => basic c (ofWord c member).1]
    refine ⟨by simpa using ne_nil_of_mem_words among, fun c member => ?_⟩
    obtain ⟨d, among, rfl⟩ := List.mem_map.1 member
    obtain ⟨here, keeps⟩ := ofWord d among
    obtain ⟨-, separates, notUpper⟩ := toLower_of_basic (basic d here)
    exact ⟨separates.trans keeps, notUpper⟩
  rw [snake, String.toList_ofList]
  exact words_intercalate (fun w isWord => (small w isWord).1)
    (fun w isWord c member => ((small w isWord).2 c member).1)
    fun w isWord c member => ((small w isWord).2 c member).2

/-- What is in snake_case stays as it is. -/
theorem snake_snake
    (basic : IsBasic s) :
    snake (snake s) = snake s := by
  have again : ((words s.toList).map lowercase).map lowercase = (words s.toList).map lowercase := by
    rw [List.map_map]
    exact List.map_congr_left fun w isWord =>
      lowercase_lowercase fun c member => basic c (of_mem_words isWord member).1
  rw [snake, words_snake basic, again, snake]

end Snake

/--
On names of basic characters each conversion changes nothing when it is made twice, and PascalCase and
camelCase are made from each other as they are made from the name.  So two names collide in one of the
two cases exactly when they collide in the other.
-/
theorem conversions_are_consistent_on_basic_names :
    (∀ s, IsBasic s →
      pascal (pascal s) = pascal s ∧ camel (camel s) = camel s ∧ snake (snake s) = snake s ∧
        pascal (camel s) = pascal s ∧ camel (pascal s) = camel s) ∧
      ∀ a b, IsBasic a → IsBasic b → (camel a = camel b ↔ pascal a = pascal b) := by
  refine ⟨fun s basic => ?_, fun a b basic basic' => ⟨fun same => ?_, camel_congr⟩⟩
  · exact ⟨pascal_pascal basic, camel_congr (pascal_camel basic), snake_snake basic,
      pascal_camel basic, camel_congr (pascal_pascal basic)⟩
  · rw [← pascal_camel basic, same, pascal_camel basic']

/-- Two ways to write a name, one with a blank, a hyphen and an acronym. -/
theorem order_number_conversions :
    IsBasic "customer order-NO7" ∧ IsBasic "CustomerOrderNO7" ∧
      snake (snake "customer order-NO7") = "customer_order_no7" ∧
      pascal (camel "customer order-NO7") = "CustomerOrderNO7" ∧
      camel "customer order-NO7" = camel "CustomerOrderNO7" := by
  obtain ⟨laws, collide⟩ := conversions_are_consistent_on_basic_names
  have basic : IsBasic "customer order-NO7" := by simp [IsBasic]
  have basic' : IsBasic "CustomerOrderNO7" := by simp [IsBasic]
  obtain ⟨-, -, again, both, -⟩ := laws _ basic
  refine ⟨basic, basic', again.trans (by decide +kernel), both.trans (by decide +kernel), ?_⟩
  exact (collide _ _ basic basic').2 (by decide +kernel)

/-- The capital with a dot has a small letter of two characters, and the way back leads elsewhere. -/
example : pascal (camel (String.singleton (Char.ofNat 0x130))) ≠
    pascal (String.singleton (Char.ofNat 0x130)) := by
  decide +kernel

end Naming
end Scaffold
