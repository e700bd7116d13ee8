import Scaffold.Manifest.FieldType
import Scaffold.Proofs.Text.BasicLetters
import Scaffold.Proofs.Text.Trimming

/-!
# The grammar of field types

A field type is written as a core with blanks around it.  A core is a word, or it has a field type between
the brackets of a list.  The words for basic types stand for these, and every other word for a reference.

The reader accepts the texts of this grammar and no others, and gives the type that they stand for.  It
needs no more calls inside each other than there are brackets for, so it comes to an end on every text.
The normal form of a type that was read is such a text, and stands for the type again.
-/

namespace Scaffold
namespace Manifest

open Text

namespace FieldType

section Grammar

/-- A basic letter, a digit, an underscore or a dot. -/
def IsWordLetter (c : Char) : Prop :=
  'a' ≤ c ∧ c ≤ 'z' ∨ 'A' ≤ c ∧ c ≤ 'Z' ∨ '0' ≤ c ∧ c ≤ '9' ∨ c = '_' ∨ c = '.'

/-- A word is not empty and made of such characters. -/
def IsWord (cs : List Char) : Prop :=
  cs ≠ [] ∧ ∀ c ∈ cs, IsWordLetter c

/-- What a word stands for: a basic type that has it as a name, or else the entity of this name. -/
inductive StandsFor : String → FieldType → Prop
  | string : StandsFor "string" .string
  | int : StandsFor "int" .int
  | integer : StandsFor "integer" .int
  | long : StandsFor "long" .long
  | double : StandsFor "double" .double
  | float : StandsFor "float" .float
  | bool : StandsFor "bool" .boolean
  | boolean : StandsFor "boolean" .boolean
  | ref
      {word : String}
      (other : word ∉
        ["string", "int", "integer", "long", "double", "float", "bool", "boolean"]) :
      StandsFor word (.ref word)

mutual

/-- A text is a type when it is the core of one with blanks around it. -/
inductive IsType : List Char → FieldType → Prop
  | padded
      {front core back : List Char}
      {type : FieldType}
      (blankFront : ∀ c ∈ front, isBlank c = true)
      (within : IsCore core type)
      (blankBack : ∀ c ∈ back, isBlank c = true) :
      IsType (front ++ core ++ back) type

/-- The core of a type is a word, or a type in the brackets of a list. -/
inductive IsCore : List Char → FieldType → Prop
  | list
      {opening : String}
      {item : List Char}
      {type : FieldType}
      (opens : opening = "list<" ∨ opening = "List<")
      (within : IsType item type) :
      IsCore (opening.toList ++ item ++ ['>']) (.list type)
  | word
      {word : List Char}
      {type : FieldType}
      (isWord : IsWord word)
      (stands : StandsFor (String.ofList word) type) :
      IsCore word type

end

end Grammar

section Words

variable {c : Char} {word : List Char} {type : FieldType}

theorem isWordChar_iff : isWordChar c = true ↔ IsWordLetter c := by
  have between : ∀ low high : Char, low ≤ c ∧ c ≤ high ↔ low.toNat ≤ c.toNat ∧ c.toNat ≤ high.toNat :=
    fun _ _ => Iff.rfl
  simp only [isWordChar, IsWordLetter, Bool.or_eq_true, beq_iff_eq, isAlphanum_iff, isAlpha_iff,
    isUpper_iff, isLower_iff, isDigit_iff, between, Char.reduceToNat]
  tauto

theorem isBlank_of_isWordLetter
    (letter : IsWordLetter c) :
    isBlank c = false := by
  by_contra blank
  simp only [isBlank, Bool.not_eq_false, Bool.or_eq_true, Bool.and_eq_true, decide_eq_true_eq,
    beq_iff_eq] at blank
  rcases letter with lower | upper | digit | rfl | rfl
  · have range : 97 ≤ c.toNat ∧ c.toNat ≤ 122 := lower
    omega
  · have range : 65 ≤ c.toNat ∧ c.toNat ≤ 90 := upper
    omega
  · have range : 48 ≤ c.toNat ∧ c.toNat ≤ 57 := digit
    omega
  · exact absurd blank (by decide)
  · exact absurd blank (by decide)

theorem isWord_iff : IsWord word ↔ word ≠ [] ∧ word.all isWordChar = true := by
  simp only [IsWord, List.all_eq_true, isWordChar_iff]

theorem standsFor_iff
    {word : String} :
    StandsFor word type ↔
      basicTypes.lookup word = some type ∨ basicTypes.lookup word = none ∧ type = .ref word := by
  constructor
  · intro stands
    cases stands with
    | ref other =>
        refine .inr ⟨List.lookup_eq_none_iff.2 fun entry among => ?_, rfl⟩
        have differs : word ≠ entry.1 := by
          rintro rfl
          exact other (List.mem_map_of_mem (f := Prod.fst) among)
        simpa using differs
    | _ => exact .inl (by decide)
  · rintro (found | ⟨absent, rfl⟩)
    · obtain ⟨front, back, parts, -⟩ := List.lookup_eq_some_iff.1 found
      have entry : (word, type) ∈ basicTypes := by simp [parts]
      simp only [basicTypes, List.mem_cons, Prod.mk.injEq, List.not_mem_nil, or_false] at entry
      rcases entry with ⟨rfl, rfl⟩ | ⟨rfl, rfl⟩ | ⟨rfl, rfl⟩ | ⟨rfl, rfl⟩ | ⟨rfl, rfl⟩ |
        ⟨rfl, rfl⟩ | ⟨rfl, rfl⟩ | ⟨rfl, rfl⟩ <;> constructor
    · refine .ref fun among => ?_
      obtain ⟨entry, inTable, rfl⟩ := List.mem_map.1
        (show word ∈ basicTypes.map Prod.fst from among)
      have differs := List.lookup_eq_none_iff.1 absent entry inTable
      simp at differs

theorem isWord_of_lookup
    (found : basicTypes.lookup (String.ofList word) = some type) :
    IsWord word := by
  have table : ∀ entry ∈ basicTypes, entry.1.toList ≠ [] ∧ entry.1.toList.all isWordChar = true := by
    decide
  obtain ⟨front, back, parts, -⟩ := List.lookup_eq_some_iff.1 found
  have entry := table (String.ofList word, type) (by simp [parts])
  rw [isWord_iff]
  simpa using entry

/-- Words are read as what they stand for, and nothing else is read as a word. -/
theorem ofWord_eq_ok_iff :
    ofWord word = .ok type ↔ IsWord word ∧ StandsFor (String.ofList word) type := by
  rw [standsFor_iff, ofWord]
  cases found : basicTypes.lookup (String.ofList word) with
  | some basic => simp [isWord_of_lookup found]
  | none =>
      by_cases empty : word = []
      · simp [empty, IsWord]
      · by_cases letters : word.all isWordChar = true
        · simp [isWord_iff, empty, letters, eq_comm]
        · simp [isWord_iff, empty, letters]

end Words

section Brackets

variable {cs item : List Char}

theorem beforeBracket?_eq_some_iff
    {front : List Char} :
    beforeBracket? cs = some front ↔ cs = front ++ ['>'] := by
  unfold beforeBracket?
  split
  · next ends =>
      rw [Option.some_inj]
      constructor
      · rintro rfl
        exact (List.dropLast_append_getLast? _ ends).symm
      · rintro rfl
        exact List.dropLast_concat
  · next ends =>
      simp only [reduceCtorEq, false_iff]
      rintro rfl
      exact ends List.getLast?_concat

/-- A text has an item when it is a list type around it. -/
theorem itemText?_eq_some_iff :
    itemText? cs = some item ↔
      ∃ opening : String, (opening = "list<" ∨ opening = "List<") ∧
        cs = opening.toList ++ item ++ ['>'] := by
  unfold itemText?
  split
  · next rest =>
      rw [beforeBracket?_eq_some_iff]
      constructor
      · rintro rfl
        exact ⟨"list<", .inl rfl, rfl⟩
      · rintro ⟨opening, rfl | rfl, shape⟩
        · simpa using shape
        · simp at shape
  · next rest =>
      rw [beforeBracket?_eq_some_iff]
      constructor
      · rintro rfl
        exact ⟨"List<", .inr rfl, rfl⟩
      · rintro ⟨opening, rfl | rfl, shape⟩
        · simp at shape
        · simpa using shape
  · next small capital =>
      simp only [reduceCtorEq, false_iff]
      rintro ⟨opening, rfl | rfl, rfl⟩
      · exact small _ rfl
      · exact capital _ rfl

/-- A word is not the text of a list type. -/
theorem itemText?_of_isWord
    (isWord : IsWord cs) :
    itemText? cs = none := by
  cases found : itemText? cs with
  | none => rfl
  | some item =>
      obtain ⟨opening, -, rfl⟩ := itemText?_eq_some_iff.1 found
      have bracket : IsWordLetter '>' := isWord.2 '>' (by simp)
      exact absurd (isWordChar_iff.2 bracket) (by decide)

end Brackets

section Reading

variable {cs core : List Char} {type : FieldType}

theorem readList_of_item
    {item : List Char}
    (found : itemText? (trimList cs) = some item) :
    readList cs = (readList item).map list := by
  rw [readList]
  split
  · next other isItem =>
      obtain rfl : item = other := by simpa [found] using isItem
      cases readList item <;> rfl
  · next absent => simp [found] at absent

theorem readList_of_word
    (absent : itemText? (trimList cs) = none) :
    readList cs = ofWord (trimList cs) := by
  rw [readList]
  split
  · next found => simp [absent] at found
  · rfl

/-- What is read is a type. -/
theorem isType_of_readList
    {cs : List Char}
    {type : FieldType}
    (read : readList cs = .ok type) :
    IsType cs type := by
  obtain ⟨front, back, padded, blankFront, blankBack⟩ := exists_eq_append_trimList cs
  rw [padded]
  refine .padded blankFront ?_ blankBack
  cases found : itemText? (trimList cs) with
  | some item =>
      rw [readList_of_item found] at read
      cases inner : readList item with
      | ok itemType =>
          obtain rfl : itemType.list = type := by simpa [inner, Except.map] using read
          obtain ⟨opening, opens, brackets⟩ := itemText?_eq_some_iff.1 found
          rw [brackets]
          exact .list opens (isType_of_readList inner)
      | error fault => simp [inner, Except.map] at read
  | none =>
      rw [readList_of_word found, ofWord_eq_ok_iff] at read
      exact .word read.1 read.2
termination_by cs.length
decreasing_by
  have shorter := length_lt_of_itemText found
  have trimmed := length_trimList_le cs
  omega

/-- The core of a type begins and ends with no blank. -/
theorem IsCore.edges
    (isCore : IsCore core type) :
    (∀ c ∈ core.head?, isBlank c = false) ∧ ∀ c ∈ core.getLast?, isBlank c = false := by
  cases isCore with
  | list opens within =>
      refine ⟨by rcases opens with rfl | rfl <;> simp [isBlank], fun c last => ?_⟩
      obtain rfl : '>' = c := by simpa using last
      rfl
  | word isWord stands =>
      exact ⟨fun c first => isBlank_of_isWordLetter (isWord.2 c (List.mem_of_mem_head? first)),
        fun c last => isBlank_of_isWordLetter (isWord.2 c (List.mem_of_getLast? last))⟩

mutual

/-- A type is read as it stands. -/
theorem readList_of_isType
    {cs : List Char}
    {type : FieldType} :
    IsType cs type → readList cs = .ok type
  | .padded blankFront within blankBack => readList_of_isCore blankFront within blankBack

/-- The core of a type is read as it stands, whatever blanks are around it. -/
theorem readList_of_isCore
    {front core back : List Char}
    {type : FieldType}
    (blankFront : ∀ c ∈ front, isBlank c = true) :
    IsCore core type → (∀ c ∈ back, isBlank c = true) →
      readList (front ++ core ++ back) = .ok type
  | .list opens within, blankBack => by
      have inner := readList_of_isType within
      have edges := (IsCore.list opens within).edges
      have trimmed := trimList_append_of_edges blankFront edges.1 edges.2 blankBack
      have found := itemText?_eq_some_iff.2 ⟨_, opens, trimmed⟩
      rw [readList_of_item found, inner]
      rfl
  | .word isWord stands, blankBack => by
      have edges := (IsCore.word isWord stands).edges
      have trimmed := trimList_append_of_edges blankFront edges.1 edges.2 blankBack
      have absent := itemText?_of_isWord isWord
      rw [← trimmed] at absent
      rw [readList_of_word absent, trimmed]
      exact ofWord_eq_ok_iff.2 ⟨isWord, stands⟩

end

/-- The texts of a type are those that are read as it. -/
theorem read_eq_ok_iff
    {text : String} :
    read text = .ok type ↔ IsType text.toList type :=
  ⟨isType_of_readList, readList_of_isType⟩

end Reading

section Ending

/-- Reads a field type with no more than some calls inside each other. -/
def readWithin : Nat → List Char → Option (Except Fault FieldType)
  | 0, _ => none
  | calls + 1, cs =>
      match itemText? (trimList cs) with
      | some item => (readWithin calls item).map fun result => result.map list
      | none => some (ofWord (trimList cs))

/-- An item is shorter than its list type by the brackets and the word in front of them. -/
theorem length_add_six_le_of_itemText
    {cs item : List Char}
    (found : itemText? cs = some item) :
    item.length + 6 ≤ cs.length := by
  obtain ⟨opening, opens, rfl⟩ := itemText?_eq_some_iff.1 found
  have five : opening.toList.length = 5 := by rcases opens with rfl | rfl <;> rfl
  rw [List.length_append, List.length_append, five, List.length_singleton]
  omega

/-- Reading ends, and needs no more calls inside each other than there is room for brackets. -/
theorem readWithin_eq_some
    {calls : Nat}
    {cs : List Char}
    (enough : cs.length < 6 * calls) :
    readWithin calls cs = some (readList cs) := by
  induction calls generalizing cs with
  | zero => omega
  | succ calls ih =>
      rw [readWithin]
      split
      · next item found =>
          have shorter := length_add_six_le_of_itemText found
          have trimmed := length_trimList_le cs
          have inner : readWithin calls item = some (readList item) := ih (by omega)
          rw [inner, readList_of_item found, Option.map_some]
      · next absent => rw [readList_of_word absent]

end Ending

section NormalForm

variable {type other : FieldType}

theorem isCore_of_standsFor
    {word : String}
    (isWord : IsWord word.toList)
    (stands : StandsFor word type) :
    IsCore word.toList type :=
  .word isWord (by rwa [String.ofList_toList])

theorem isCore_render_of_standsFor
    {word : String}
    (isWord : IsWord word.toList)
    (stands : StandsFor word type) :
    IsCore type.render.toList type := by
  cases stands with
  | string => exact isCore_of_standsFor isWord .string
  | int => exact isCore_of_standsFor isWord .int
  | integer => exact isCore_of_standsFor (isWord_iff.2 (by decide)) .int
  | long => exact isCore_of_standsFor isWord .long
  | double => exact isCore_of_standsFor isWord .double
  | float => exact isCore_of_standsFor isWord .float
  | bool => exact isCore_of_standsFor (isWord_iff.2 (by decide)) .boolean
  | boolean => exact isCore_of_standsFor isWord .boolean
  | ref other => exact isCore_of_standsFor isWord (.ref other)

/-- A core needs no blanks around it. -/
theorem IsCore.isType
    {core : List Char}
    (isCore : IsCore core type) :
    IsType core type := by
  have bare := @IsType.padded [] core [] type (by simp) isCore (by simp)
  rwa [List.nil_append, List.append_nil] at bare

mutual

/-- The normal form of a type that some text stands for is the core of the type. -/
theorem IsType.isCore_render
    {cs : List Char}
    {type : FieldType} :
    IsType cs type → IsCore type.render.toList type
  | .padded _ within _ => within.isCore_render

theorem IsCore.isCore_render
    {core : List Char}
    {type : FieldType} :
    IsCore core type → IsCore type.render.toList type
  | .list _ within => by
      simpa [render] using IsCore.list (.inl rfl) within.isCore_render.isType
  | .word isWord stands => isCore_render_of_standsFor (by rwa [String.toList_ofList]) stands

end

/-- The normal form of a type that was read is read as the type. -/
theorem read_render
    {text : String}
    (read : FieldType.read text = .ok type) :
    FieldType.read type.render = .ok type :=
  read_eq_ok_iff.2 (read_eq_ok_iff.1 read).isCore_render.isType

/-- Types that were read have one normal form only if they are the same. -/
theorem render_eq_iff_of_read
    {text otherText : String}
    (read : FieldType.read text = .ok type)
    (readOther : FieldType.read otherText = .ok other) :
    type.render = other.render ↔ type = other := by
  refine ⟨fun same => ?_, congrArg render⟩
  have again := read_render read
  rw [same, read_render readOther] at again
  exact (Except.ok.inj again).symm

/--
The reader accepts exactly the texts of the grammar and gives the type that they stand for.  It comes to
an end on every text, within as many calls as there is room for brackets.  The normal form of a type that
was read is read as this type, so two texts that are accepted have one normal form exactly when they are
read as one type.
-/
theorem reading_follows_grammar_and_normal_form :
    (∀ text type, read text = .ok type ↔ IsType text.toList type) ∧
    (∀ text calls, text.length < 6 * calls →
      readWithin calls text.toList = some (read text)) ∧
    (∀ text type, read text = .ok type → read type.render = .ok type) ∧
    ∀ text otherText type other, read text = .ok type → read otherText = .ok other →
      (type.render = other.render ↔ type = other) := by
  refine ⟨fun text type => read_eq_ok_iff, fun text calls enough => ?_,
    fun text type => read_render, fun text otherText type other => render_eq_iff_of_read⟩
  exact readWithin_eq_some (by rwa [String.length_toList])

/-- Lists of lists with blanks in them, and basic types under two names. -/
theorem lists_of_owners_follow_grammar :
    let owners : FieldType := .list (.list (.ref "pets.Owner"))
    " List<\tlist< pets.Owner> >".length < 6 * 5 ∧
    read " List<\tlist< pets.Owner> >" = .ok owners ∧ read owners.render = .ok owners ∧
    read "list<integer>" = .ok (.list .int) ∧ read " List< int >" = .ok (.list .int) ∧
    (owners.render = (FieldType.list .int).render ↔ owners = .list .int) := by
  intro owners
  obtain ⟨-, ends, normal, alike⟩ := reading_follows_grammar_and_normal_form
  have enough : " List<\tlist< pets.Owner> >".length < 6 * 5 := by decide
  have first : read " List<\tlist< pets.Owner> >" = .ok owners :=
    Option.some.inj ((ends _ 5 enough).symm.trans (by rfl))
  have second : read "list<integer>" = .ok (.list .int) :=
    Option.some.inj ((ends _ 3 (by decide)).symm.trans (by rfl))
  have third : read " List< int >" = .ok (.list .int) :=
    Option.some.inj ((ends _ 3 (by decide)).symm.trans (by rfl))
  exact ⟨enough, first, normal _ _ first, second, third, alike _ _ _ _ first second⟩

end NormalForm

end FieldType

end Manifest
end Scaffold
