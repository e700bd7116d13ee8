import Mathlib.Data.List.Infix
import Scaffold.Text.CharClass

/-!
# Lexical rules of Java

A source text is read as a sequence of UTF-16 code units.  Before anything else a backslash with a `u`
behind it and four hexadecimal digits gives way to the unit with this number, unless an odd number of
backslashes stands directly in front of it.  Then a string literal goes from a quotation mark to the next
one that no backslash belongs to, on one line, and a comment goes to the first star with a slash behind it.

Nothing that is not a backslash, a `u` or a hexadecimal digit takes part in a Unicode escape, so a text is
translated piece by piece between such characters.  Every escape makes a text shorter, so a literal that
denotes its own characters has none.
-/

namespace Scaffold
namespace Java

open Text

/-- The UTF-16 code units of a character. -/
def codeUnits (c : Char) : List Nat :=
  if c.toNat < 0x10000 then [c.toNat]
  else [0xD800 + (c.toNat - 0x10000) / 0x400, 0xDC00 + (c.toNat - 0x10000) % 0x400]

/-- The UTF-16 code units of a text. -/
def utf16 (cs : List Char) : List Nat :=
  cs.flatMap codeUnits

/-- Where in a Unicode escape a text is. -/
inductive EscapeState where
  | outside
  | backslash
  | marker
  | digits (left value : Nat)

/-- The code units of a text once Unicode escapes are translated, unless one of them is malformed. -/
def translate : EscapeState → List Char → Option (List Nat)
  | .outside, [] => some []
  | .backslash, [] => some ['\\'.toNat]
  | .marker, [] => none
  | .digits _ _, [] => none
  | .outside, c :: rest =>
      if c = '\\' then translate .backslash rest
      else (translate .outside rest).map (codeUnits c ++ ·)
  | .backslash, c :: rest =>
      if c = 'u' then translate .marker rest
      else (translate .outside rest).map ('\\'.toNat :: codeUnits c ++ ·)
  | .marker, c :: rest =>
      if c = 'u' then translate .marker rest
      else
        match hexDigit? c with
        | some value => translate (.digits 2 value) rest
        | none => none
  | .digits left value, c :: rest =>
      match hexDigit? c with
      | some digit =>
          match left with
          | 0 => (translate .outside rest).map ((value * 16 + digit) :: ·)
          | left + 1 => translate (.digits left (value * 16 + digit)) rest
      | none => none

/-- The unit that an escape with one letter stands for. -/
def letterEscape? (unit : Nat) : Option Nat :=
  if unit = 'b'.toNat then some 8
  else if unit = 's'.toNat then some 32
  else if unit = 't'.toNat then some 9
  else if unit = 'n'.toNat then some 10
  else if unit = 'f'.toNat then some 12
  else if unit = 'r'.toNat then some 13
  else if unit = '"'.toNat ∨ unit = '\''.toNat ∨ unit = '\\'.toNat then some unit
  else none

/-- Whether a unit is an octal digit. -/
def isOctal (unit : Nat) : Bool :=
  '0'.toNat ≤ unit && unit ≤ '7'.toNat

/-- The octal digits of an escape: two of them, or three if the first is small enough. -/
def octalDigits : List Nat → List Nat
  | [] => []
  | first :: rest =>
      ((first :: rest).take (if first ≤ '3'.toNat then 3 else 2)).takeWhile isOctal

/-- The unit that octal digits stand for. -/
def octalValue (digits : List Nat) : Nat :=
  digits.foldl (fun value digit => value * 8 + (digit - '0'.toNat)) 0

/-- What an escape behind a backslash stands for, and how many units it takes. -/
def escape? (units : List Nat) : Option (Nat × Nat) :=
  match units.head?.bind letterEscape? with
  | some value => some (value, 1)
  | none =>
      if octalDigits units = [] then none
      else some (octalValue (octalDigits units), (octalDigits units).length)

/-- What the inside of a string literal denotes, and what stands behind its end. -/
def readLiteral : (skip : Nat) → List Nat → Option (List Nat × List Nat)
  | _, [] => none
  | skip + 1, _ :: rest => readLiteral skip rest
  | 0, unit :: rest =>
      if unit = '"'.toNat then some ([], rest)
      else if unit = '\n'.toNat ∨ unit = '\r'.toNat then none
      else if unit = '\\'.toNat then
        match escape? rest with
        | some (value, length) =>
            (readLiteral length rest).map (Prod.map (value :: ·) id)
        | none => none
      else (readLiteral 0 rest).map (Prod.map (unit :: ·) id)

/-- What a string literal denotes, and what stands behind it.  Three quotation marks open a text block. -/
def stringLiteral? : List Nat → Option (List Nat × List Nat)
  | first :: rest =>
      if first = '"'.toNat ∧ rest.take 2 ≠ ['"'.toNat, '"'.toNat] then readLiteral 0 rest else none
  | [] => none

/-- What stands behind the end of a comment. -/
def behindComment : List Nat → Option (List Nat)
  | [] => none
  | unit :: rest =>
      if unit = '*'.toNat ∧ rest.head? = some '/'.toNat then some rest.tail else behindComment rest

section Translation

/-- A character has no part in a Unicode escape. -/
structure IsOutside (c : Char) : Prop where
  noBackslash : c ≠ '\\'
  noMarker : c ≠ 'u'
  noDigit : hexDigit? c = none

instance (c : Char) : Decidable (IsOutside c) :=
  decidable_of_iff (c ≠ '\\' ∧ c ≠ 'u' ∧ hexDigit? c = none)
    ⟨fun ⟨a, b, d⟩ => ⟨a, b, d⟩, fun h => ⟨h.noBackslash, h.noMarker, h.noDigit⟩⟩

variable {state : EscapeState} {c : Char} {cs front back : List Char} {units : List Nat}

theorem codeUnits_ne_nil (c : Char) : codeUnits c ≠ [] := by
  unfold codeUnits
  split <;> simp

theorem translate_cons_of_isOutside
    (apart : IsOutside c)
    (state : EscapeState)
    (cs : List Char) :
    translate state (c :: cs) =
      (translate state []).bind fun before =>
        (translate .outside cs).map fun after => before ++ (codeUnits c ++ after) := by
  cases state <;> simp [translate, apart.noBackslash, apart.noMarker, apart.noDigit]

/-- Behind a character that has no part in a Unicode escape, translation begins anew. -/
theorem translate_append_cons
    (apart : IsOutside c)
    (state : EscapeState)
    (front back : List Char) :
    translate state (front ++ c :: back) =
      (translate state front).bind fun before =>
        (translate .outside back).map fun after => before ++ (codeUnits c ++ after) := by
  fun_induction translate state front with
  | case1 => exact translate_cons_of_isOutside apart .outside back
  | case2 => exact translate_cons_of_isOutside apart .backslash back
  | case3 => exact translate_cons_of_isOutside apart .marker back
  | case4 left value => exact translate_cons_of_isOutside apart (.digits left value) back
  | case5 rest ih => simpa [translate] using ih
  | case6 first rest plain ih =>
      simp [translate, plain, ih, Option.map_bind, Option.bind_map, Function.comp_def]
  | case7 rest ih => simpa [translate] using ih
  | case8 first rest plain ih =>
      simp [translate, plain, ih, Option.map_bind, Option.bind_map, Function.comp_def]
  | case9 rest ih => simpa [translate] using ih
  | case10 first rest plain value digit ih => simpa [translate, plain, digit] using ih
  | case11 first rest plain noDigit => simp [translate, plain, noDigit]
  | case12 value first rest digit isDigit ih =>
      simp [translate, isDigit, ih, Option.map_bind, Option.bind_map, Function.comp_def]
  | case13 value first rest digit isDigit left ih => simpa [translate, isDigit] using ih
  | case14 left value first rest noDigit => simp [translate, noDigit]

/-- Characters that have no part in a Unicode escape are translated one by one. -/
theorem translate_append_of_isOutside
    (apart : ∀ c ∈ front, IsOutside c)
    (back : List Char) :
    translate .outside (front ++ back) = (translate .outside back).map (utf16 front ++ ·) := by
  induction front with
  | nil => simp [utf16]
  | cons c front ih =>
      obtain ⟨here, later⟩ := List.forall_mem_cons.1 apart
      rw [List.cons_append, translate, if_neg here.noBackslash, ih later, Option.map_map]
      simp [utf16, Function.comp_def]

/-- What has been read at least of a Unicode escape. -/
def EscapeState.begun : EscapeState → List Nat
  | outside => []
  | backslash => ['\\'.toNat]
  | marker => ['\\'.toNat, 'u'.toNat]
  | digits _ _ => ['\\'.toNat, 'u'.toNat]

theorem utf16_cons (c : Char) (cs : List Char) :
    utf16 (c :: cs) = codeUnits c ++ utf16 cs := by
  simp [utf16]

theorem length_utf16_lt (c : Char) (cs : List Char) :
    (utf16 cs).length < (utf16 (c :: cs)).length := by
  have positive := List.length_pos_of_ne_nil (codeUnits_ne_nil c)
  rw [utf16_cons, List.length_append]
  omega

/-- Some units are those of a text, or fewer. -/
def EqOrShorter (units whole : List Nat) : Prop :=
  units = whole ∨ units.length < whole.length

theorem EqOrShorter.append
    {whole : List Nat}
    (h : EqOrShorter units whole)
    (front : List Nat) :
    EqOrShorter (front ++ units) (front ++ whole) := by
  rcases h with rfl | shorter
  · exact .inl rfl
  · exact .inr (by simpa using shorter)

/-- Inside of an escape each further character makes the translation shorter. -/
theorem EqOrShorter.of_rest
    {begun : List Nat}
    (h : EqOrShorter units (begun ++ utf16 cs))
    (c : Char) :
    EqOrShorter units (begun ++ utf16 (c :: cs)) := by
  have further := length_utf16_lt c cs
  refine .inr ?_
  rcases h with rfl | shorter
  · simpa using further
  · simp only [List.length_append] at shorter ⊢
    omega

/-- A text that translation changes gets shorter. -/
theorem eqOrShorter_of_translate
    (translated : translate state cs = some units) :
    EqOrShorter units (state.begun ++ utf16 cs) := by
  fun_induction translate state cs generalizing units with
  | case1 => exact .inl (by simpa [EscapeState.begun, utf16, eq_comm] using translated)
  | case2 => exact .inl (by simpa [EscapeState.begun, utf16, eq_comm] using translated)
  | case3 => cases translated
  | case4 => cases translated
  | case5 rest ih => exact ih translated
  | case6 first rest plain ih =>
      obtain ⟨later, done, rfl⟩ := Option.map_eq_some_iff.1 translated
      rw [utf16_cons]
      exact (ih done).append (codeUnits first)
  | case7 rest ih => exact ih translated
  | case8 first rest plain ih =>
      obtain ⟨later, done, rfl⟩ := Option.map_eq_some_iff.1 translated
      rw [utf16_cons, ← List.append_assoc]
      exact (ih done).append ('\\'.toNat :: codeUnits first)
  | case9 rest ih => exact (ih translated).of_rest 'u'
  | case10 first rest plain value digit ih => exact (ih translated).of_rest first
  | case11 => cases translated
  | case12 value first rest digit isDigit ih =>
      obtain ⟨later, done, rfl⟩ := Option.map_eq_some_iff.1 translated
      have short : later.length ≤ (utf16 rest).length := by
        rcases ih done with rfl | shorter
        · exact le_rfl
        · exact le_of_lt shorter
      have further := length_utf16_lt first rest
      refine .inr ?_
      simp only [EscapeState.begun, List.length_cons, List.length_append, List.length_nil]
      omega
  | case13 value first rest digit isDigit left ih => exact (ih translated).of_rest first
  | case14 => cases translated

end Translation

section Literals

variable {input denoted behind units : List Nat} {path : List Char}

/-- A unit that stands for itself in a string literal. -/
def IsLiteral (unit : Nat) : Prop :=
  unit ≠ '"'.toNat ∧ unit ≠ '\\'.toNat ∧ unit ≠ '\n'.toNat ∧ unit ≠ '\r'.toNat

theorem length_pos_of_escape
    {value length : Nat}
    (found : escape? input = some (value, length)) :
    1 ≤ length := by
  unfold escape? at found
  split at found
  · cases found
    exact le_rfl
  · split at found
    · cases found
    · next digits =>
        cases found
        exact List.length_pos_of_ne_nil digits

/-- A literal denotes at most as many units as stand in it, and as many only if they stand for themselves. -/
theorem exists_inside_of_readLiteral
    {skip : Nat}
    (read : readLiteral skip input = some (denoted, behind)) :
    ∃ inside,
      input = inside ++ '"'.toNat :: behind ∧ denoted.length + skip ≤ inside.length ∧
        (skip = 0 → denoted.length = inside.length →
          denoted = inside ∧ ∀ unit ∈ inside, IsLiteral unit) := by
  fun_induction readLiteral skip input generalizing denoted with
  | case1 => cases read
  | case2 skip unit rest ih =>
      obtain ⟨inside, rfl, bound, -⟩ := ih read
      refine ⟨unit :: inside, rfl, ?_, fun none => by cases none⟩
      simp only [List.length_cons]
      omega
  | case3 rest =>
      cases read
      exact ⟨[], rfl, le_rfl, fun _ _ => ⟨rfl, by simp⟩⟩
  | case4 => cases read
  | case5 rest value length found _ _ ih =>
      obtain ⟨⟨later, rest⟩, done, same⟩ := Option.map_eq_some_iff.1 read
      cases same
      obtain ⟨inside, rfl, bound, -⟩ := ih done
      have positive := length_pos_of_escape found
      refine ⟨'\\'.toNat :: inside, rfl, ?_, fun _ same => ?_⟩
      · simp only [List.length_cons]
        omega
      · simp only [List.length_cons] at same
        omega
  | case6 => cases read
  | case7 unit rest noMark noEnd noEscape ih =>
      obtain ⟨⟨later, rest⟩, done, same⟩ := Option.map_eq_some_iff.1 read
      cases same
      obtain ⟨inside, rfl, bound, plain⟩ := ih done
      refine ⟨unit :: inside, rfl, by simpa using bound, fun _ same => ?_⟩
      obtain ⟨rfl, literal⟩ := plain rfl (by simpa using same)
      rw [not_or] at noEnd
      exact ⟨rfl, List.forall_mem_cons.2 ⟨⟨noMark, noEscape, noEnd.1, noEnd.2⟩, literal⟩⟩

/-- Units that stand for themselves are read as they are, up to the quotation mark behind them. -/
theorem readLiteral_append
    (literal : ∀ unit ∈ units, IsLiteral unit)
    (behind : List Nat) :
    readLiteral 0 (units ++ '"'.toNat :: behind) = some (units, behind) := by
  induction units with
  | nil => rfl
  | cons unit units ih =>
      obtain ⟨⟨noMark, noEscape, noEnd, noReturn⟩, later⟩ := List.forall_mem_cons.1 literal
      rw [List.cons_append, readLiteral, if_neg noMark, if_neg (not_or.2 ⟨noEnd, noReturn⟩),
        if_neg noEscape, ih later]
      rfl

/-- A character that stands for itself in a string literal. -/
structure IsPlain (c : Char) : Prop where
  noMark : c ≠ '"'
  noEscape : c ≠ '\\'
  noEnd : c ≠ '\n'
  noReturn : c ≠ '\r'

instance (c : Char) : Decidable (IsPlain c) :=
  decidable_of_iff (c ≠ '"' ∧ c ≠ '\\' ∧ c ≠ '\n' ∧ c ≠ '\r')
    ⟨fun ⟨m, e, n, r⟩ => ⟨m, e, n, r⟩, fun h => ⟨h.noMark, h.noEscape, h.noEnd, h.noReturn⟩⟩

/-- A character of one unit is the one with that number. -/
theorem eq_of_mem_codeUnits
    {c d : Char}
    (small : d.toNat < 0xD800)
    (member : d.toNat ∈ codeUnits c) :
    c = d := by
  unfold codeUnits at member
  split at member
  · exact Char.toNat_inj.1 (List.mem_singleton.1 member).symm
  · simp only [List.mem_cons, List.not_mem_nil, or_false] at member
    omega

theorem isPlain_iff (c : Char) :
    IsPlain c ↔ ∀ unit ∈ codeUnits c, IsLiteral unit := by
  constructor
  · intro plain unit member
    have apart : ∀ d : Char, d.toNat < 0xD800 → c ≠ d → unit ≠ d.toNat := by
      rintro d small differs rfl
      exact differs (eq_of_mem_codeUnits small member)
    exact ⟨apart '"' (by decide) plain.noMark, apart '\\' (by decide) plain.noEscape,
      apart '\n' (by decide) plain.noEnd, apart '\r' (by decide) plain.noReturn⟩
  · intro literal
    constructor
    · rintro rfl
      exact (literal '"'.toNat (by decide)).1 rfl
    · rintro rfl
      exact (literal '\\'.toNat (by decide)).2.1 rfl
    · rintro rfl
      exact (literal '\n'.toNat (by decide)).2.2.1 rfl
    · rintro rfl
      exact (literal '\r'.toNat (by decide)).2.2.2 rfl

theorem forall_isPlain_iff (cs : List Char) :
    (∀ c ∈ cs, IsPlain c) ↔ ∀ unit ∈ utf16 cs, IsLiteral unit := by
  simp only [utf16, List.mem_flatMap, isPlain_iff]
  exact ⟨fun h unit ⟨c, member, own⟩ => h c member unit own,
    fun h c member unit own => h unit ⟨c, member, own⟩⟩

theorem translate_of_no_backslash
    {cs : List Char}
    (noEscape : '\\' ∉ cs) :
    translate .outside cs = some (utf16 cs) := by
  induction cs with
  | nil => rfl
  | cons c cs ih =>
      rw [List.mem_cons, not_or] at noEscape
      rw [translate, if_neg (Ne.symm noEscape.1), ih noEscape.2]
      rfl

/-- A source begins with a string literal that denotes a text, and goes on behind it. -/
def ReadsAs (source denoted behind : String) : Prop :=
  (translate .outside source.toList).bind stringLiteral? =
    some (utf16 denoted.toList, utf16 behind.toList)

/-- A text in quotation marks is translated between them. -/
theorem translate_quoted (cs : List Char) :
    translate .outside ('"' :: (cs ++ ['"', ')'])) =
      (translate .outside cs).map fun units => '"'.toNat :: (units ++ ['"'.toNat, ')'.toNat]) := by
  have mark : IsOutside '"' := by decide
  have closing : translate .outside [')'] = some [')'.toNat] := by decide
  rw [translate, if_neg mark.noBackslash, translate_append_cons mark, closing]
  cases translate .outside cs <;> simp [codeUnits]

/-- A text in quotation marks denotes itself exactly when each of its characters stands for itself. -/
theorem readsAs_iff (text : String) :
    ReadsAs ("\"" ++ text ++ "\")") text ")" ↔ ∀ c ∈ text.toList, IsPlain c := by
  have source : ("\"" ++ text ++ "\")").toList = '"' :: (text.toList ++ ['"', ')']) := by simp
  have behind : utf16 ")".toList = [')'.toNat] := by decide
  rw [ReadsAs, source, translate_quoted, behind, Option.bind_map, forall_isPlain_iff]
  constructor
  · intro read
    obtain ⟨units, translated, whole⟩ := Option.bind_eq_some_iff.1 read
    have inner : readLiteral 0 (units ++ ['"'.toNat, ')'.toNat]) =
        some (utf16 text.toList, [')'.toNat]) := by
      simp only [Function.comp_apply, stringLiteral?] at whole
      split at whole
      · exact whole
      · cases whole
    obtain ⟨inside, shape, bound, plain⟩ := exists_inside_of_readLiteral inner
    obtain rfl : units = inside := List.append_cancel_right shape
    -- the literal denotes no more units than stand in it, and translation adds none
    obtain rfl : units = utf16 text.toList := by
      rcases eqOrShorter_of_translate translated with same | shorter
      · exact same
      · simp only [EscapeState.begun, List.nil_append] at shorter
        omega
    exact (plain rfl rfl).2
  · intro literal
    have noEscape : '\\' ∉ text.toList := by
      intro member
      exact (literal '\\'.toNat (List.mem_flatMap.2 ⟨'\\', member, by decide⟩)).2.1 rfl
    have noBlock : (utf16 text.toList ++ ['"'.toNat, ')'.toNat]).take 2 ≠ ['"'.toNat, '"'.toNat] := by
      cases shape : utf16 text.toList with
      | nil => decide
      | cons unit units =>
          intro same
          have first := (literal unit (by simp [shape])).1
          rw [List.cons_append, List.take_succ_cons] at same
          exact first (List.cons.inj same).1
    rw [translate_of_no_backslash noEscape]
    simp only [Option.bind_some, Function.comp_apply, stringLiteral?, true_and]
    rw [if_pos noBlock]
    exact readLiteral_append literal [')'.toNat]

/-- Escapes of every kind denote something else than what is written. -/
example :
    (translate .outside "\"\\u0041\\\\u\\t\\60\")".toList).bind stringLiteral? =
      some (utf16 ['A', '\\', 'u', '\t', '0'], utf16 [')']) := by
  decide +kernel

end Literals

section Comments

variable {c : Char} {front back cs : List Char} {before after units : List Nat}

/-- The units that end a comment. -/
def commentEnd : List Nat :=
  ['*'.toNat, '/'.toNat]

/-- A text can be translated, and then has no end of a comment in it. -/
def IsHarmless (cs : List Char) : Prop :=
  ∃ units, translate .outside cs = some units ∧ ¬ commentEnd <:+: units

instance (cs : List Char) : Decidable (IsHarmless cs) :=
  decidable_of_iff (∃ units ∈ translate .outside cs, ¬ commentEnd <:+: units) Iff.rfl

/-- A character that has no part in a Unicode escape and none in the end of a comment. -/
structure IsNeutral (c : Char) : Prop extends IsOutside c where
  single : codeUnits c = [c.toNat]
  noStar : c.toNat ≠ '*'.toNat
  noSlash : c.toNat ≠ '/'.toNat

instance (c : Char) : Decidable (IsNeutral c) :=
  decidable_of_iff
    (IsOutside c ∧ codeUnits c = [c.toNat] ∧ c.toNat ≠ '*'.toNat ∧ c.toNat ≠ '/'.toNat)
    ⟨fun ⟨o, n, s, t⟩ => ⟨o, n, s, t⟩, fun h => ⟨h.toIsOutside, h.single, h.noStar, h.noSlash⟩⟩

/-- No end of a comment goes across a unit that is no part of it. -/
theorem commentEnd_infix_append_cons
    {unit : Nat}
    (noStar : unit ≠ '*'.toNat)
    (noSlash : unit ≠ '/'.toNat) :
    commentEnd <:+: before ++ unit :: after ↔
      commentEnd <:+: before ∨ commentEnd <:+: after := by
  induction before with
  | nil =>
      have apart : ¬ commentEnd <+: unit :: after := fun ends =>
        noStar (List.cons_prefix_cons.1 ends).1.symm
      rw [List.nil_append, List.infix_cons_iff, or_iff_right apart]
      simp [commentEnd]
  | cons first before ih =>
      have same : commentEnd <+: first :: (before ++ unit :: after) ↔
          commentEnd <+: first :: before := by
        cases before with
        | nil =>
            constructor
            · intro ends
              exact absurd (List.cons_prefix_cons.1 (List.cons_prefix_cons.1 ends).2).1.symm noSlash
            · intro ends
              simp [commentEnd] at ends
        | cons second before => simp [commentEnd]
      rw [List.cons_append, List.infix_cons_iff, List.infix_cons_iff, ih, same, or_assoc]

/-- A text is harmless when its parts at a neutral character are. -/
theorem isHarmless_append_cons
    (neutral : IsNeutral c) :
    IsHarmless (front ++ c :: back) ↔ IsHarmless front ∧ IsHarmless back := by
  simp only [IsHarmless, translate_append_cons neutral.toIsOutside, neutral.single,
    List.singleton_append]
  constructor
  · rintro ⟨units, translated, ends⟩
    obtain ⟨before, first, rest⟩ := Option.bind_eq_some_iff.1 translated
    obtain ⟨after, second, rfl⟩ := Option.map_eq_some_iff.1 rest
    rw [commentEnd_infix_append_cons neutral.noStar neutral.noSlash, not_or] at ends
    exact ⟨⟨before, first, ends.1⟩, ⟨after, second, ends.2⟩⟩
  · rintro ⟨⟨before, first, ends⟩, ⟨after, second, ends'⟩⟩
    refine ⟨before ++ c.toNat :: after, by simp [first, second], ?_⟩
    rw [commentEnd_infix_append_cons neutral.noStar neutral.noSlash, not_or]
    exact ⟨ends, ends'⟩

theorem isHarmless_nil : IsHarmless [] :=
  ⟨[], rfl, by simp [commentEnd]⟩

/-- Neutral characters in front of a text change nothing. -/
theorem isHarmless_append_iff
    (neutral : ∀ c ∈ front, IsNeutral c) :
    IsHarmless (front ++ cs) ↔ IsHarmless cs := by
  induction front with
  | nil => rfl
  | cons c front ih =>
      obtain ⟨here, later⟩ := List.forall_mem_cons.1 neutral
      have split : IsHarmless ([] ++ c :: (front ++ cs)) ↔ _ := isHarmless_append_cons here
      rw [List.cons_append, ← List.nil_append (c :: _), split, ih later]
      simp [isHarmless_nil]

/-- What is commented goes up to the end of a comment, unless there is one in it. -/
theorem behindComment_append (units : List Nat) :
    behindComment (units ++ commentEnd) = some [] ↔ ¬ commentEnd <:+: units := by
  induction units with
  | nil => simp [behindComment, commentEnd]
  | cons unit units ih =>
      rw [List.cons_append, behindComment, List.infix_cons_iff]
      cases units with
      | nil => simp [commentEnd, behindComment]
      | cons second units =>
          by_cases ends : unit = '*'.toNat ∧ second = '/'.toNat
          · obtain ⟨rfl, rfl⟩ := ends
            simp [commentEnd]
          · have none : ¬ commentEnd <+: unit :: second :: units := by
              simpa [commentEnd, eq_comm] using ends
            rw [if_neg (by simpa using ends), ih, or_iff_right none]

/-- Indentation and one comment, which ends where the source does. -/
def IsOneComment (source : String) : Prop :=
  ∃ units inside,
    translate .outside source.toList = some units ∧
      units.dropWhile (fun unit => unit = ' '.toNat ∨ unit = '\t'.toNat) =
        '/'.toNat :: '*'.toNat :: inside ∧
      behindComment inside = some []

/-- The marks of a comment are translated as they are, and what stands between them on its own. -/
theorem translate_comment
    (blank : ∀ c ∈ front, c = ' ' ∨ c = '\t')
    (cs : List Char) :
    translate .outside (front ++ '/' :: '*' :: (cs ++ ['*', '/'])) =
      (translate .outside cs).map fun units =>
        utf16 front ++ '/'.toNat :: '*'.toNat :: (units ++ commentEnd) := by
  have outside : ∀ c ∈ front ++ ['/', '*'], IsOutside c := by
    intro c member
    simp only [List.mem_append, List.mem_cons, List.not_mem_nil, or_false] at member
    rcases member with own | rfl | rfl
    · rcases blank c own with rfl | rfl
      · decide
      · decide
    · decide
    · decide
  have star : IsOutside '*' := by decide
  have last : translate .outside ['/'] = some ['/'.toNat] := by decide
  have whole : front ++ '/' :: '*' :: (cs ++ ['*', '/']) =
      (front ++ ['/', '*']) ++ (cs ++ '*' :: ['/']) := by simp
  rw [whole, translate_append_of_isOutside outside, translate_append_cons star, last]
  cases translate .outside cs <;> simp [utf16, codeUnits, commentEnd]

/-- Without its indentation a comment begins with its mark. -/
theorem dropWhile_blank
    (blank : ∀ c ∈ front, c = ' ' ∨ c = '\t')
    (units : List Nat) :
    (utf16 front ++ '/'.toNat :: units).dropWhile
      (fun unit => unit = ' '.toNat ∨ unit = '\t'.toNat) = '/'.toNat :: units := by
  rw [List.dropWhile_append_of_pos, List.dropWhile_cons_of_neg (by decide)]
  intro unit member
  obtain ⟨c, own, among⟩ := List.mem_flatMap.1 member
  have isBlank : unit = ' '.toNat ∨ unit = '\t'.toNat := by
    rcases blank c own with rfl | rfl
    · exact .inl (List.mem_singleton.1 among)
    · exact .inr (List.mem_singleton.1 among)
  exact decide_eq_true isBlank

/-- A comment ends with its last two characters exactly when what is in front of them is harmless. -/
theorem isOneComment_iff
    {source : String}
    (blank : ∀ c ∈ front, c = ' ' ∨ c = '\t')
    (shape : source.toList = front ++ '/' :: '*' :: (cs ++ ['*', '/'])) :
    IsOneComment source ↔ IsHarmless cs := by
  have translated := translate_comment blank cs
  rw [← shape] at translated
  constructor
  · rintro ⟨units, inside, read, opens, ends⟩
    rw [translated] at read
    obtain ⟨inner, done, rfl⟩ := Option.map_eq_some_iff.1 read
    rw [dropWhile_blank blank] at opens
    simp only [List.cons.injEq, true_and] at opens
    rw [← opens, behindComment_append] at ends
    exact ⟨inner, done, ends⟩
  · rintro ⟨inner, done, harmless⟩
    refine ⟨_, inner ++ commentEnd, by rw [translated, done]; rfl, dropWhile_blank blank _, ?_⟩
    exact (behindComment_append inner).2 harmless

/-- The end of a comment may be written with a Unicode escape. -/
example :
    ¬ IsHarmless "all \\u002a/ none".toList ∧ IsHarmless "all * / none".toList := by
  decide +kernel

end Comments

end Java
end Scaffold
