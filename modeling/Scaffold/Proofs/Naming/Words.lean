import Mathlib.Data.List.SplitBy
import Scaffold.Proofs.Java.ClassNames

/-!
# Words of a text

The words of a text are read off in one pass, which keeps the words that are complete, the word that is
being read and whether a small letter or a digit has just been read.  Whatever follows, the words of a
text are the complete ones and those of the current one with what follows; each step of the pass keeps
this up, so that at the end the pass has found the words.

The main statements are that this pass finds the words of every text, that the words make up the text
without its separators, and that two neighbours are torn apart by a separator or by a capital behind a
small letter or a digit, and by nothing else.
-/

namespace Scaffold
namespace Naming

open Text

/-- A text without its separators. -/
def solid (cs : List Char) : List Char :=
  cs.filter (!isSeparator ·)

/-- The characters of a list of words, each with the number of its word, counted from `n`. -/
def numbered (n : Nat) : List (List Char) → List (Char × Nat)
  | [] => []
  | word :: later => word.map (·, n) ++ numbered (n + 1) later

/-- Where the pass over a text stands: the words that are complete, the word that is being read, and
whether the character before was a small letter or a digit. -/
structure Scan where
  complete : List (List Char)
  current : List Char
  afterHump : Bool

namespace Scan

/-- Nothing has been read. -/
def start : Scan := ⟨[], [], false⟩

/-- The words when the current one ends here; an empty one is none. -/
def finished (s : Scan) : List (List Char) :=
  if s.current.isEmpty then s.complete else s.complete ++ [s.current]

/-- Reads one character. -/
def step
    (s : Scan)
    (c : Char) : Scan :=
  if isSeparator c then ⟨s.finished, [], false⟩
  else if isUppercase c && s.afterHump && !s.current.isEmpty then
    ⟨s.complete ++ [s.current], [c], endsHump c⟩
  else ⟨s.complete, s.current ++ [c], endsHump c⟩

/-- Reads a text from its start. -/
def run (cs : List Char) : Scan :=
  cs.foldl step start

theorem run_append_singleton
    (cs : List Char)
    (c : Char) :
    run (cs ++ [c]) = (run cs).step c := by
  simp [run]

end Scan

section Laws

variable {piece : List Char} {a c : Char}

theorem words_nil : words [] = [] := by
  simp [words]

/-- No word goes on past a separator. -/
theorem words_append_separator
    (separates : isSeparator c = true)
    (front back : List Char) :
    words (front ++ c :: back) = words front ++ words back := by
  rw [words, List.splitOnP_append_cons _ _ separates, List.flatMap_append, words, words]

/-- Separators in front of a text do not count. -/
theorem words_append_of_separators
    {gap : List Char}
    (separate : ∀ c ∈ gap, isSeparator c = true)
    (back : List Char) :
    words (gap ++ back) = words back := by
  induction gap with
  | nil => rfl
  | cons c gap ih =>
      obtain ⟨here, separate⟩ := List.forall_mem_cons.1 separate
      have step := words_append_separator here [] (gap ++ back)
      rwa [words_nil, List.nil_append, List.nil_append, ih separate] at step

theorem splitOnP_append_of_solid
    (isSolid : ∀ c ∈ piece, isSeparator c = false)
    (back : List Char) :
    (piece ++ back).splitOnP isSeparator =
      (back.splitOnP isSeparator).modifyHead (piece ++ ·) := by
  induction piece with
  | nil => exact (congrFun List.modifyHead_id _).symm
  | cons c piece ih =>
      obtain ⟨here, isSolid⟩ := List.forall_mem_cons.1 isSolid
      rw [List.cons_append, List.splitOnP_cons_eq_if_modifyHead, ih isSolid,
        List.modifyHead_modifyHead]
      simp [here, Function.comp_def]

theorem words_of_solid
    (isSolid : ∀ c ∈ piece, isSeparator c = false) :
    words piece = piece.splitBy together := by
  simp [words, List.splitOnP_eq_singleton isSolid]

/-- Between two characters that do not stay together a word ends. -/
theorem words_append_of_apart
    (isSolid : ∀ c ∈ piece, isSeparator c = false)
    (last : piece.getLast? = some a)
    (keeps : isSeparator c = false)
    (apart : together a c = false)
    (back : List Char) :
    words (piece ++ c :: back) = words piece ++ words (c :: back) := by
  obtain ⟨first, others, split⟩ :=
    List.exists_cons_of_ne_nil (List.splitOnP_ne_nil isSeparator back)
  have behind : (c :: back).splitOnP isSeparator = (c :: first) :: others := by
    simp [List.splitOnP_cons_eq_if_modifyHead, keeps, split]
  have cut : (piece ++ c :: first).splitBy together =
      piece.splitBy together ++ (c :: first).splitBy together :=
    List.splitBy_append_cons first (by simp [last, apart])
  rw [words_of_solid isSolid, words, words, splitOnP_append_of_solid isSolid, behind,
    List.modifyHead_cons, List.flatMap_cons, cut, List.flatMap_cons, List.append_assoc]

end Laws

/-- A beginning of a word: no separator in it, and no place where it would be cut. -/
structure Unbroken (word : List Char) : Prop where
  isSolid : ∀ c ∈ word, isSeparator c = false
  chain : word.IsChain fun a b => together a b = true

namespace Unbroken

variable {word : List Char} {a c : Char}

theorem nil : Unbroken [] where
  isSolid := by simp
  chain := .nil

theorem single (keeps : isSeparator c = false) : Unbroken [c] where
  isSolid := by simpa using keeps
  chain := .singleton c

/-- A character that stays together with the last one goes on with the word. -/
theorem snoc
    (h : Unbroken word)
    (keeps : isSeparator c = false)
    (joins : ∀ a ∈ word.getLast?, together a c = true) :
    Unbroken (word ++ [c]) where
  isSolid := List.forall_mem_append.2 ⟨h.isSolid, by simpa using keeps⟩
  chain := by
    refine List.isChain_append.2 ⟨h.chain, .singleton c, fun a isLast b isFirst => ?_⟩
    obtain rfl : c = b := by simpa using isFirst
    exact joins a isLast

theorem words_eq
    (h : Unbroken word)
    (nonempty : word ≠ []) :
    words word = [word] := by
  rw [words_of_solid h.isSolid, List.splitBy_of_isChain nonempty h.chain]

/-- A word that has been begun is the beginning of the first word, whatever follows. -/
theorem exists_words_append
    (h : Unbroken word)
    (nonempty : word ≠ [])
    (rest : List Char) :
    ∃ more later, words (word ++ rest) = (word ++ more) :: later := by
  induction rest generalizing word with
  | nil => exact ⟨[], [], by simpa using h.words_eq nonempty⟩
  | cons c rest ih =>
      by_cases separates : isSeparator c = true
      · exact ⟨[], words rest, by
          rw [words_append_separator separates, h.words_eq nonempty]; simp⟩
      · have keeps : isSeparator c = false := by simpa using separates
        obtain ⟨a, last⟩ : ∃ a, word.getLast? = some a :=
          ⟨_, List.getLast?_eq_some_getLast nonempty⟩
        cases joins : together a c with
        | false =>
            exact ⟨[], words (c :: rest), by
              rw [words_append_of_apart h.isSolid last keeps joins, h.words_eq nonempty]; simp⟩
        | true =>
            have longer : Unbroken (word ++ [c]) := h.snoc keeps (by simp [last, joins])
            obtain ⟨more, later, found⟩ := ih longer (by simp)
            exact ⟨c :: more, later, by simpa using found⟩

end Unbroken

section Passing

variable {cs : List Char} {s : Scan} {c : Char}

/--
`Reads cs s`: after `cs` the pass stands at `s`.  Whatever follows, the words are the complete ones and
those of the current word with what follows.
-/
structure Reads (cs : List Char) (s : Scan) : Prop where
  ahead : ∀ rest, words (cs ++ rest) = s.complete ++ words (s.current ++ rest)
  unbroken : Unbroken s.current
  afterHump : s.afterHump = s.current.getLast?.any endsHump

namespace Reads

theorem start : Reads [] .start where
  ahead := fun _ => rfl
  unbroken := .nil
  afterHump := rfl

/-- The words of what has been read. -/
theorem words_eq (h : Reads cs s) : words cs = s.finished := by
  have now := h.ahead []
  rw [List.append_nil, List.append_nil] at now
  unfold Scan.finished
  split
  · next empty => rw [now, List.isEmpty_iff.1 empty, words_nil, List.append_nil]
  · next begun => rw [now, h.unbroken.words_eq (by simpa using begun)]

/-- One more character keeps the complete words and the current one in step with the text. -/
theorem step (h : Reads cs s) (c : Char) : Reads (cs ++ [c]) (s.step c) := by
  unfold Scan.step
  split
  · next separates =>
      refine ⟨fun rest => ?_, .nil, rfl⟩
      rw [List.append_assoc, List.singleton_append, words_append_separator separates, h.words_eq,
        List.nil_append]
  · next keeps =>
      replace keeps : isSeparator c = false := by simpa using keeps
      split
      · next starts =>
          obtain ⟨⟨capital, hump⟩, begun⟩ : (isUppercase c = true ∧ s.afterHump = true) ∧
              s.current ≠ [] := by simpa using starts
          have last := List.getLast?_eq_some_getLast begun
          have apart : together (s.current.getLast begun) c = false := by
            have ends : endsHump (s.current.getLast begun) = true := by
              simpa [h.afterHump, last] using hump
            simp [together, ends, capital]
          refine ⟨fun rest => ?_, .single keeps, rfl⟩
          rw [List.append_assoc, List.singleton_append, h.ahead,
            words_append_of_apart h.unbroken.isSolid last keeps apart,
            h.unbroken.words_eq begun, List.append_assoc, List.singleton_append]
      · next goesOn =>
          refine ⟨fun rest => by simp [h.ahead], h.unbroken.snoc keeps fun a last => ?_, by simp⟩
          have begun : s.current ≠ [] := by
            rintro empty
            simp [empty] at last
          have ends : s.afterHump = endsHump a := by
            rw [h.afterHump, Option.mem_def.1 last, Option.any_some]
          cases hump : endsHump a <;> simp_all [together]

/-- The pass over a text finds its words. -/
theorem run (cs : List Char) : Reads cs (.run cs) := by
  induction cs using List.reverseRecOn with
  | nil => exact .start
  | append_singleton cs c ih => exact Scan.run_append_singleton cs c ▸ ih.step c

end Reads

/-- A character that is no separator ends the current word when it has been read. -/
theorem getLast?_current_step
    (keeps : isSeparator c = false) :
    (s.step c).current.getLast? = some c := by
  unfold Scan.step
  split
  · next separates => simp [keeps] at separates
  · split <;> simp

end Passing

section Contents

variable {cs word : List Char}

theorem ne_nil_of_mem_words
    (isWord : word ∈ words cs) :
    word ≠ [] := by
  obtain ⟨piece, -, isWord⟩ := List.mem_flatMap.1 isWord
  exact List.ne_nil_of_mem_splitBy isWord

theorem flatten_finished (s : Scan) : s.finished.flatten = s.complete.flatten ++ s.current := by
  unfold Scan.finished
  split
  · next empty => simp [List.isEmpty_iff.1 empty]
  · simp

/-- A step loses the separators and nothing else. -/
theorem flatten_step
    (s : Scan)
    (c : Char) :
    (s.step c).complete.flatten ++ (s.step c).current =
      s.complete.flatten ++ s.current ++ solid [c] := by
  unfold Scan.step
  split
  · next separates => simp [solid, separates, flatten_finished]
  · next keeps => split <;> simp [solid, keeps]

theorem flatten_run (cs : List Char) :
    (Scan.run cs).complete.flatten ++ (Scan.run cs).current = solid cs := by
  induction cs using List.reverseRecOn with
  | nil => rfl
  | append_singleton cs c ih =>
      rw [Scan.run_append_singleton, flatten_step, ih, solid, solid, solid, List.filter_append]

/-- The words of a text make up the text without its separators. -/
theorem flatten_words (cs : List Char) : (words cs).flatten = solid cs := by
  rw [(Reads.run cs).words_eq, flatten_finished, flatten_run]

end Contents

section Numbers

theorem numbered_append
    (n : Nat)
    (before later : List (List Char)) :
    numbered n (before ++ later) = numbered n before ++ numbered (n + before.length) later := by
  induction before generalizing n with
  | nil => rfl
  | cons word before ih => simp [numbered, ih, Nat.add_assoc, Nat.add_comm 1]

theorem length_numbered
    (n : Nat)
    (ws : List (List Char)) :
    (numbered n ws).length = ws.flatten.length := by
  induction ws generalizing n with
  | nil => rfl
  | cons word ws ih => simp [numbered, ih]

/-- A character has the number of its word. -/
theorem getElem?_numbered
    (before later : List (List Char))
    (front more : List Char)
    (c : Char) :
    (numbered 0 (before ++ (front ++ c :: more) :: later))[(before.flatten ++ front).length]? =
      some (c, before.length) := by
  have split : numbered 0 (before ++ (front ++ c :: more) :: later) =
      (numbered 0 before ++ front.map (·, before.length)) ++
        (c, before.length) :: (more.map (·, before.length) ++ numbered (before.length + 1) later) := by
    simp [numbered_append, numbered]
  have place : (before.flatten ++ front).length =
      (numbered 0 before ++ front.map (·, before.length)).length := by
    simp [length_numbered]
  rw [split, place, List.getElem?_append_right (Nat.le_refl _), Nat.sub_self, List.getElem?_cons_zero]

end Numbers

section Neighbours

variable {cs word front gap back : List Char} {a b : Char}

theorem together_eq_false_iff :
    together a b = false ↔
      isUppercase b = true ∧ (isLowercase a = true ∨ a.isDigit = true) := by
  cases small : isLowercase a <;> simp [together, endsHump, small, and_comm]

/-- A word ends in front of separators, and between two characters that do not stay together. -/
theorem Unbroken.words_append_gap
    (h : Unbroken word)
    (last : word.getLast? = some a)
    (separate : ∀ c ∈ gap, isSeparator c = true)
    (keeps : isSeparator b = false)
    (parts : gap ≠ [] ∨ together a b = false)
    (back : List Char) :
    words (word ++ (gap ++ b :: back)) = word :: words (b :: back) := by
  have begun : word ≠ [] := by
    rintro rfl
    cases last
  cases gap with
  | nil =>
      have apart : together a b = false := by simpa using parts
      rw [List.nil_append, words_append_of_apart h.isSolid last keeps apart, h.words_eq begun,
        List.singleton_append]
  | cons c gap =>
      obtain ⟨here, separate⟩ := List.forall_mem_cons.1 separate
      rw [List.cons_append, words_append_separator here, words_append_of_separators separate,
        h.words_eq begun, List.singleton_append]

/-- Where the pass stands after a character that is no separator: in the middle of a word, with all
characters before it read. -/
theorem exists_run_eq
    (keeps : isSeparator a = false)
    (front : List Char) :
    ∃ before begun, before.flatten ++ begun = solid front ∧ Unbroken (begun ++ [a]) ∧
      ∀ rest, words (front ++ a :: rest) = before ++ words (begun ++ [a] ++ rest) := by
  have reads := Reads.run (front ++ [a])
  obtain ⟨begun, shape⟩ : ∃ begun, (Scan.run (front ++ [a])).current = begun ++ [a] :=
    List.getLast?_eq_some_iff.1 (Scan.run_append_singleton front a ▸ getLast?_current_step keeps)
  have whole : (Scan.run (front ++ [a])).complete.flatten ++ begun ++ [a] = solid front ++ [a] := by
    have kept := flatten_run (front ++ [a])
    rw [shape] at kept
    simpa [solid, keeps] using kept
  refine ⟨(Scan.run (front ++ [a])).complete, begun, List.append_cancel_right whole,
    shape ▸ reads.unbroken, fun rest => ?_⟩
  have ahead := reads.ahead rest
  rwa [shape, List.append_assoc, List.singleton_append] at ahead

/-- Two characters with only separators in between are in different words exactly when there is a
separator or they do not stay together. -/
theorem exists_numbers
    (keepsFirst : isSeparator a = false)
    (separate : ∀ c ∈ gap, isSeparator c = true)
    (keepsSecond : isSeparator b = false)
    (shape : cs = front ++ a :: (gap ++ b :: back)) :
    ∃ i j, (numbered 0 (words cs))[(solid front).length]? = some (a, i) ∧
      (numbered 0 (words cs))[(solid front).length + 1]? = some (b, j) ∧
      (i ≠ j ↔ gap ≠ [] ∨ together a b = false) := by
  obtain ⟨before, begun, place, unbroken, ahead⟩ := exists_run_eq keepsFirst front
  have next : (before.flatten ++ (begun ++ [a])).length = (solid front).length + 1 := by
    simp [← place, Nat.add_assoc]
  by_cases parts : gap ≠ [] ∨ together a b = false
  · obtain ⟨more, later, behind⟩ := (Unbroken.single keepsSecond).exists_words_append (by simp) back
    have found : words cs = before ++ (begun ++ a :: []) :: ([] ++ b :: more) :: later := by
      rw [shape, ahead, unbroken.words_append_gap (by simp) separate keepsSecond parts]
      simpa using behind
    refine ⟨before.length, before.length + 1, ?_, ?_, by simp [parts]⟩
    · rw [found, ← place]
      exact getElem?_numbered _ _ _ _ _
    · have moved : words cs = (before ++ [begun ++ [a]]) ++ ([] ++ b :: more) :: later := by
        simp [found]
      have second := getElem?_numbered (before ++ [begun ++ [a]]) later [] more b
      rw [← moved] at second
      simpa [← next] using second
  · obtain ⟨rfl, joins⟩ : gap = [] ∧ together a b = true := by simpa using parts
    have longer : Unbroken (begun ++ [a] ++ [b]) := unbroken.snoc keepsSecond (by simp [joins])
    obtain ⟨more, later, behind⟩ := longer.exists_words_append (by simp) back
    have found : words cs = before ++ (begun ++ a :: (b :: more)) :: later := by
      rw [shape, ahead]
      simpa using behind
    refine ⟨before.length, before.length, ?_, ?_, by simp [joins]⟩
    · rw [found, ← place]
      exact getElem?_numbered _ _ _ _ _
    · have moved : words cs = before ++ ((begun ++ [a]) ++ b :: more) :: later := by simp [found]
      rw [moved, ← next]
      exact getElem?_numbered _ _ _ _ _

end Neighbours

/-- The words of a text lose nothing but separators, and a word ends at boundaries only.

No word is empty or has a separator, and together they are the text without its separators.  They are
what one pass finds that completes a word at a separator and in front of a capital that follows a small
letter or a digit.  Two characters that are neighbours in the text, or have only separators in between,
are in different words if and only if there is a separator between them, or the second is a capital and
the first a small letter or a digit. -/
theorem words_lose_nothing_and_end_at_boundaries (s : String) :
    (∀ word ∈ words s.toList, word ≠ [] ∧ ∀ c ∈ word, isSeparator c = false) ∧
      (words s.toList).flatten = s.toList.filter (!isSeparator ·) ∧
      words s.toList = (Scan.run s.toList).finished ∧
      ∀ front a gap b back, s.toList = front ++ a :: (gap ++ b :: back) →
        isSeparator a = false → (∀ c ∈ gap, isSeparator c = true) → isSeparator b = false →
        ∃ i j, (numbered 0 (words s.toList))[(solid front).length]? = some (a, i) ∧
          (numbered 0 (words s.toList))[(solid front).length + 1]? = some (b, j) ∧
          (i ≠ j ↔ gap ≠ [] ∨
            isUppercase b = true ∧ (isLowercase a = true ∨ a.isDigit = true)) := by
  refine ⟨fun word isWord => ⟨ne_nil_of_mem_words isWord, fun c member => ?_⟩,
    flatten_words s.toList, (Reads.run s.toList).words_eq, ?_⟩
  · exact (of_mem_words isWord member).2
  · intro front a gap b back shape keepsFirst separate keepsSecond
    rw [← together_eq_false_iff]
    exact exists_numbers keepsFirst separate keepsSecond shape

/-- A digit in front of a capital ends a word, as blanks and hyphens do. -/
theorem crew_member_has_four_words :
    words "old crew-member2Id_".toList = ["old", "crew", "member2", "Id"].map String.toList ∧
      ∃ i j, (numbered 0 (words "old crew-member2Id_".toList))[13]? = some ('2', i) ∧
        (numbered 0 (words "old crew-member2Id_".toList))[14]? = some ('I', j) ∧ i ≠ j := by
  obtain ⟨-, -, -, neighbours⟩ := words_lose_nothing_and_end_at_boundaries "old crew-member2Id_"
  obtain ⟨i, j, first, second, parts⟩ := neighbours "old crew-member".toList '2' [] 'I' "d_".toList
    (by decide) (by decide) (by simp) (by decide)
  have place : (solid "old crew-member".toList).length = 13 := by decide
  rw [place] at first second
  exact ⟨by decide +kernel, i, j, first, second, parts.2 (.inr (by decide))⟩

end Naming
end Scaffold
