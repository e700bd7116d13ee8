import Mathlib.Data.List.Basic
import Mathlib.Data.Nat.Digits.Defs
import Scaffold.Proofs.Text.Pieces
import Scaffold.Version

/-!
# Versions, written and read

A text is a version when two dots cut it into three components, each of them digits that denote a number
of 32 bits, perhaps with leading zeros and behind a plus sign.  Any other text is refused, for its shape
when it has another number of dots, and else for the leftmost component that is none.  What is printed
for a version is read as that version, so the printed text tells versions apart, and versions are
ordered by the leftmost component in which they differ.
-/

namespace Scaffold
namespace Version

open Text

/-- The number that digits denote by their places, of which the last counts one. -/
def placeValue (digits : List Char) : Nat :=
  Nat.ofDigits 10 (digits.reverse.map fun d => d.toNat - '0'.toNat)

/-- `Denotes text n`: the text is a number of digits, at least one, that denote `n`, perhaps behind a plus
sign. -/
def Denotes
    (text : String)
    (n : Nat) : Prop :=
  ∃ digits, (text.toList = digits ∨ text.toList = '+' :: digits) ∧ digits ≠ [] ∧
    (∀ d ∈ digits, d.isDigit = true) ∧ placeValue digits = n

/-- A text that denotes a number of 32 bits. -/
def IsComponent (text : String) : Prop :=
  ∃ n ≤ 4294967295, Denotes text n

/-- `CutInto text major minor patch`: the two dots of the text stand between these components. -/
structure CutInto (text major minor patch : String) : Prop where
  whole : text = major ++ "." ++ minor ++ "." ++ patch
  noDots : ∀ piece ∈ [major, minor, patch], '.' ∉ piece.toList

/-- The leftmost of three texts that is no component, and which component it should be. -/
inductive LeftmostBad (major minor patch : String) : Part → String → Prop
  | major
      (bad : ¬ IsComponent major) :
      LeftmostBad major minor patch .major major
  | minor
      (good : IsComponent major)
      (bad : ¬ IsComponent minor) :
      LeftmostBad major minor patch .minor minor
  | patch
      (good : IsComponent major)
      (good' : IsComponent minor)
      (bad : ¬ IsComponent patch) :
      LeftmostBad major minor patch .patch patch

/-- `Earlier v w`: the leftmost component in which the versions differ is smaller in `v`. -/
def Earlier (v w : Version) : Prop :=
  v.major < w.major ∨ v.major = w.major ∧
    (v.minor < w.minor ∨ v.minor = w.minor ∧ v.patch < w.patch)

section Components

variable {text : String} {part : Part} {n : Nat}

/-- Digits are read by their places. -/
theorem digitsValue_eq_placeValue (digits : List Char) :
    digitsValue digits = placeValue digits := by
  rw [digitsValue, placeValue, Nat.ofDigitChars_eq_foldl, Nat.ofDigits_eq_foldr, List.foldr_map,
    List.foldr_reverse]
  simp [Nat.add_comm]

theorem readDecimal?_eq_some_iff
    {digits : List Char} :
    readDecimal? digits = some n ↔
      digits ≠ [] ∧ (∀ d ∈ digits, d.isDigit = true) ∧ placeValue digits = n := by
  simp [readDecimal?, digitsValue_eq_placeValue, and_assoc]

/-- A component has the value that its text denotes. -/
theorem componentValue?_eq_some_iff :
    componentValue? text.toList = some n ↔ Denotes text n := by
  have noSign : ∀ {digits : List Char}, (∀ d ∈ digits, d.isDigit = true) →
      ∀ rest, digits ≠ '+' :: rest := by
    rintro digits isDigits rest rfl
    exact absurd (isDigits '+' List.mem_cons_self) (by decide)
  unfold Denotes componentValue?
  split
  · next digits signed =>
      rw [readDecimal?_eq_some_iff]
      constructor
      · exact fun read => ⟨digits, .inr signed, read⟩
      · rintro ⟨digits', written | written, read⟩
        · exact absurd (written.symm.trans signed) (noSign read.2.1 digits)
        · obtain ⟨-, rfl⟩ := List.cons.inj (signed.symm.trans written)
          exact read
  · next unsigned =>
      rw [readDecimal?_eq_some_iff]
      constructor
      · exact fun read => ⟨_, .inl rfl, read⟩
      · rintro ⟨digits, rfl | written, read⟩
        · exact read
        · exact absurd written (unsigned digits)

theorem readComponent_eq_ok_iff
    {value : UInt32} :
    readComponent part text = .ok value ↔ Denotes text value.toNat := by
  rw [← componentValue?_eq_some_iff]
  unfold readComponent
  cases read : componentValue? text.toList with
  | none => simp
  | some n =>
      simp only [Option.some.injEq]
      split
      · next bounded =>
          rw [Except.ok.injEq, ← UInt32.toNat_inj, UInt32.toNat_ofNat_of_lt' bounded]
      · next beyond =>
          have differs : n ≠ value.toNat := fun same => beyond (same ▸ value.toNat_lt_size)
          simp [differs]

/-- A text can be read as a component exactly when it is one. -/
theorem exists_readComponent_iff (part : Part) :
    (∃ value, readComponent part text = .ok value) ↔ IsComponent text := by
  constructor
  · rintro ⟨value, read⟩
    exact ⟨value.toNat, Nat.le_of_lt_succ value.toNat_lt_size, readComponent_eq_ok_iff.1 read⟩
  · rintro ⟨n, bound, denotes⟩
    refine ⟨UInt32.ofNat n, readComponent_eq_ok_iff.2 ?_⟩
    rwa [UInt32.toNat_ofNat_of_lt' (Nat.lt_succ_of_le bound)]

theorem readComponent_eq_error_iff
    {fault : Fault} :
    readComponent part text = .error fault ↔ ¬ IsComponent text ∧ fault = .component part text := by
  rw [← exists_readComponent_iff part]
  unfold readComponent
  split
  · split <;> simp [eq_comm]
  · simp [eq_comm]

end Components

section Reading

variable {text major minor patch : String} {v w : Version} {fault : Fault}

/-- Two dots and no more cut a text into three pieces. -/
theorem pieces_eq_three_iff :
    pieces '.' text = [major, minor, patch] ↔ CutInto text major minor patch := by
  constructor
  · intro cut
    refine ⟨?_, fun piece isPiece => separator_not_mem_of_mem_pieces (cut ▸ isPiece)⟩
    have joined : ['.'].intercalate (text.toList.splitOn '.') = text.toList :=
      List.intercalate_splitOn '.'
    have lists : text.toList.splitOn '.' = [major, minor, patch].map String.toList := by
      rw [← cut]
      simp [pieces, Function.comp_def]
    rw [String.ext_iff, ← joined, lists]
    simp
  · rintro ⟨rfl, noDots⟩
    have joined : major ++ "." ++ minor ++ "." ++ patch =
        String.intercalate (String.singleton '.') [major, minor, patch] := by
      simp [String.intercalate_cons_cons, String.append_assoc]
    rw [joined, pieces_intercalate noDots (by simp)]

theorem length_pieces
    (separator : Char)
    (s : String) :
    (pieces separator s).length = s.toList.count separator + 1 := by
  have general : ∀ cs : List Char, (cs.splitOn separator).length = cs.count separator + 1 := by
    intro cs
    induction cs with
    | nil => simp
    | cons c rest ih =>
        rw [List.splitOn_cons_eq_if_modifyHead, List.count_cons]
        split <;> simp [*]
  simp [pieces, general]

/-- A text is cut into three components exactly when it has two dots. -/
theorem exists_cutInto_iff :
    (∃ major minor patch, CutInto text major minor patch) ↔ text.toList.count '.' = 2 := by
  constructor
  · rintro ⟨major, minor, patch, cut⟩
    have three := length_pieces '.' text
    rw [pieces_eq_three_iff.2 cut] at three
    simpa using three.symm
  · intro two
    have three : (pieces '.' text).length = 3 := by rw [length_pieces, two]
    obtain ⟨major, minor, patch, cut⟩ := List.length_eq_three.1 three
    exact ⟨major, minor, patch, pieces_eq_three_iff.1 cut⟩

/-- A text with another number of dots is refused for its shape. -/
theorem read_of_shape
    (shape : text.toList.count '.' ≠ 2) :
    read text = .error (.shape text) := by
  unfold read
  split
  · next cut => exact absurd (exists_cutInto_iff.1 ⟨_, _, _, pieces_eq_three_iff.1 cut⟩) shape
  · rfl

/-- `DenoteParts major minor patch v`: the three texts denote the parts of the version. -/
structure DenoteParts (major minor patch : String) (v : Version) : Prop where
  major : Denotes major v.major.toNat
  minor : Denotes minor v.minor.toNat
  patch : Denotes patch v.patch.toNat

theorem read_of_denoteParts
    (cut : CutInto text major minor patch)
    (parts : DenoteParts major minor patch v) :
    read text = .ok v := by
  simp only [read, pieces_eq_three_iff.2 cut, readComponent_eq_ok_iff.2 parts.major,
    readComponent_eq_ok_iff.2 parts.minor, readComponent_eq_ok_iff.2 parts.patch]
  rfl

/-- The leftmost of the three pieces that is no component is what the text is refused for. -/
theorem read_of_leftmostBad
    {part : Part}
    {piece : String}
    (cut : CutInto text major minor patch)
    (leftmost : LeftmostBad major minor patch part piece) :
    read text = .error (.component part piece) := by
  simp only [read, pieces_eq_three_iff.2 cut]
  cases leftmost with
  | major bad =>
      rw [readComponent_eq_error_iff.2 ⟨bad, rfl⟩]
      rfl
  | minor good bad =>
      obtain ⟨a, first⟩ := (exists_readComponent_iff _).2 good
      rw [first, readComponent_eq_error_iff.2 ⟨bad, rfl⟩]
      rfl
  | patch good good' bad =>
      obtain ⟨a, first⟩ := (exists_readComponent_iff _).2 good
      obtain ⟨b, second⟩ := (exists_readComponent_iff _).2 good'
      rw [first, second, readComponent_eq_error_iff.2 ⟨bad, rfl⟩]
      rfl

/-- Three texts denote the parts of a version unless one of them is no component. -/
theorem exists_denoteParts_or_leftmostBad (major minor patch : String) :
    (∃ v, DenoteParts major minor patch v) ∨
      ∃ part piece, LeftmostBad major minor patch part piece := by
  by_cases good : IsComponent major
  · by_cases good' : IsComponent minor
    · by_cases good'' : IsComponent patch
      · obtain ⟨a, first⟩ := (exists_readComponent_iff .major).2 good
        obtain ⟨b, second⟩ := (exists_readComponent_iff .minor).2 good'
        obtain ⟨c, third⟩ := (exists_readComponent_iff .patch).2 good''
        exact .inl ⟨⟨a, b, c⟩, readComponent_eq_ok_iff.1 first, readComponent_eq_ok_iff.1 second,
          readComponent_eq_ok_iff.1 third⟩
      · exact .inr ⟨_, _, .patch good good' good''⟩
    · exact .inr ⟨_, _, .minor good good'⟩
  · exact .inr ⟨_, _, .major good⟩

/-- A text is read as a version exactly when it is cut into components that denote its parts. -/
theorem read_eq_ok_iff :
    read text = .ok v ↔
      ∃ major minor patch, CutInto text major minor patch ∧ DenoteParts major minor patch v := by
  constructor
  · intro done
    by_cases two : text.toList.count '.' = 2
    · obtain ⟨major, minor, patch, cut⟩ := exists_cutInto_iff.2 two
      refine ⟨major, minor, patch, cut, ?_⟩
      rcases exists_denoteParts_or_leftmostBad major minor patch with ⟨w, parts⟩ | ⟨_, _, leftmost⟩
      · rw [read_of_denoteParts cut parts] at done
        cases done
        exact parts
      · rw [read_of_leftmostBad cut leftmost] at done
        cases done
    · rw [read_of_shape two] at done
      cases done
  · rintro ⟨major, minor, patch, cut, parts⟩
    exact read_of_denoteParts cut parts

/-- What a text is refused for: another number of dots, or else its leftmost bad component. -/
theorem read_eq_error_iff :
    read text = .error fault ↔
      (text.toList.count '.' ≠ 2 ∧ fault = .shape text) ∨
        ∃ major minor patch part piece, CutInto text major minor patch ∧
          LeftmostBad major minor patch part piece ∧ fault = .component part piece := by
  constructor
  · intro failed
    by_cases two : text.toList.count '.' = 2
    · obtain ⟨major, minor, patch, cut⟩ := exists_cutInto_iff.2 two
      rcases exists_denoteParts_or_leftmostBad major minor patch with
        ⟨w, parts⟩ | ⟨part, piece, leftmost⟩
      · rw [read_of_denoteParts cut parts] at failed
        cases failed
      · rw [read_of_leftmostBad cut leftmost] at failed
        cases failed
        exact .inr ⟨major, minor, patch, part, piece, cut, leftmost, rfl⟩
    · rw [read_of_shape two] at failed
      cases failed
      exact .inl ⟨two, rfl⟩
  · rintro (⟨shape, rfl⟩ | ⟨major, minor, patch, part, piece, cut, leftmost, rfl⟩)
    · exact read_of_shape shape
    · exact read_of_leftmostBad cut leftmost

end Reading

section Rendering

variable {v w : Version}

/-- The decimal notation of a number denotes that number. -/
theorem denotes_decimal (n : Nat) :
    Denotes (decimal n) n :=
  ⟨(decimal n).toList, .inl rfl, readDecimal?_eq_some_iff.1 (readDecimal?_decimal n)⟩

/-- What is printed for a version is read as that version. -/
theorem read_render (v : Version) :
    read v.render = .ok v := by
  have noDot : ∀ n, '.' ∉ (decimal n).toList := fun n member => by
    have digits := (readDecimal?_eq_some_iff.1 (readDecimal?_decimal n)).2.1
    exact absurd (digits '.' member) (by decide)
  refine read_of_denoteParts ⟨rfl, fun piece isPiece => ?_⟩
    ⟨denotes_decimal _, denotes_decimal _, denotes_decimal _⟩
  simp only [List.mem_cons, List.not_mem_nil, or_false] at isPiece
  rcases isPiece with rfl | rfl | rfl <;> exact noDot _

theorem render_injective
    (same : v.render = w.render) :
    v = w := by
  have read := read_render v
  rw [same, read_render w] at read
  exact (Except.ok.inj read).symm

end Rendering

section Order

variable {u v w : Version}

theorem compare_eq_then (v w : Version) :
    compare v w = (compare v.major w.major).then
      ((compare v.minor w.minor).then (compare v.patch w.patch)) := by
  cases v
  cases w
  simp [compare, instOrdVersion.ord]

theorem compare_eq_lt_iff :
    compare v w = .lt ↔ Earlier v w := by
  simp [compare_eq_then, Earlier, Ordering.then_eq_lt, Std.compare_eq_lt]

theorem compare_eq_eq_iff :
    compare v w = .eq ↔ v = w := by
  cases v
  cases w
  simp [compare_eq_then, Ordering.then_eq_eq]

theorem compare_eq_gt_iff :
    compare v w = .gt ↔ Earlier w v := by
  rw [Earlier, eq_comm (a := w.major), eq_comm (a := w.minor)]
  simp [compare_eq_then, Ordering.then_eq_gt, Std.compare_eq_gt]

theorem Earlier.trans
    (h : Earlier u v)
    (h' : Earlier v w) :
    Earlier u w := by
  unfold Earlier at *
  simp only [UInt32.lt_iff_toNat_lt, ← UInt32.toNat_inj] at *
  omega

theorem precedes_iff :
    v.precedes w = true ↔ Earlier v w ∨ v = w := by
  rw [precedes, Ordering.isLE_iff_eq_lt_or_eq_eq, compare_eq_lt_iff, compare_eq_eq_iff]

end Order

/--
A text is read as a version exactly when its two dots cut it into three components that denote the parts
of the version, and refused otherwise: for its shape, or for the leftmost component that is none.  What
is printed for a version is read as that version, accepted texts are printed alike exactly when they
are equal versions, and versions are in the total order of the leftmost component in which they differ.
-/
theorem reading_is_exact_and_undoes_rendering :
    (∀ text v, read text = .ok v ↔
      text.toList.count '.' = 2 ∧ ∃ major minor patch,
        CutInto text major minor patch ∧ DenoteParts major minor patch v) ∧
    (∀ text fault, read text = .error fault ↔
      (text.toList.count '.' ≠ 2 ∧ fault = .shape text) ∨
        ∃ major minor patch part piece, CutInto text major minor patch ∧
          LeftmostBad major minor patch part piece ∧ fault = .component part piece) ∧
    (∀ v, read v.render = .ok v) ∧
    (∀ s t v w, read s = .ok v → read t = .ok w → (v.render = w.render ↔ v = w)) ∧
    (∀ v w, (compare v w = .lt ↔ Earlier v w) ∧ (compare v w = .eq ↔ v = w) ∧
      (compare v w = .gt ↔ Earlier w v) ∧ (v.precedes w = true ↔ Earlier v w ∨ v = w)) ∧
    ∀ u v w, Earlier u v → Earlier v w → Earlier u w := by
  refine ⟨fun text v => ?_, fun text fault => read_eq_error_iff, read_render, ?_, fun v w => ?_,
    fun u v w => Earlier.trans⟩
  · rw [read_eq_ok_iff]
    constructor
    · rintro ⟨major, minor, patch, cut, parts⟩
      exact ⟨exists_cutInto_iff.1 ⟨major, minor, patch, cut⟩, major, minor, patch, cut, parts⟩
    · exact And.right
  · exact fun _ _ _ _ _ _ => ⟨render_injective, congrArg render⟩
  · exact ⟨compare_eq_lt_iff, compare_eq_eq_iff, compare_eq_gt_iff, precedes_iff⟩

/-- Two texts that are accepted and printed differently, one of them with a plus sign and leading zeros;
one that is refused, since its second component is too large by one; and three versions in order. -/
theorem releases_are_read_exactly :
    read "+1.0020.3" = .ok ⟨1, 20, 3⟩ ∧ read "1.2.03" = .ok ⟨1, 2, 3⟩ ∧
      (∃ major minor patch, CutInto "+1.0020.3" major minor patch ∧
        DenoteParts major minor patch ⟨1, 20, 3⟩) ∧
      (∃ major minor patch part piece, CutInto "1.4294967296.x" major minor patch ∧
        LeftmostBad major minor patch part piece ∧
        Fault.component .minor "4294967296" = .component part piece) ∧
      render ⟨1, 20, 3⟩ ≠ render ⟨1, 2, 3⟩ ∧ Earlier ⟨0, 9, 9⟩ ⟨1, 20, 3⟩ := by
  obtain ⟨accepts, refuses, -, printed, -, order⟩ := reading_is_exact_and_undoes_rendering
  have first : read "+1.0020.3" = .ok ⟨1, 20, 3⟩ := rfl
  have second : read "1.2.03" = .ok ⟨1, 2, 3⟩ := rfl
  have third : read "1.4294967296.x" = .error (.component .minor "4294967296") := rfl
  refine ⟨first, second, ((accepts _ _).1 first).2, ?_, ?_, ?_⟩
  · refine ((refuses _ _).1 third).resolve_left ?_
    rintro ⟨-, other⟩
    cases other
  · rw [Ne, printed _ _ _ _ first second]
    decide
  · exact order _ ⟨1, 2, 3⟩ _ (.inl (by decide)) (.inr ⟨rfl, .inl (by decide)⟩)

end Version
end Scaffold
