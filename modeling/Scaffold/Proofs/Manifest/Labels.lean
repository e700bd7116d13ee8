import Scaffold.Proofs.Manifest.Acceptance
import Scaffold.Proofs.Text.Search

/-!
# Labels on the source

Nothing remembers where a manifest says what: a label is put where the source has the text of the first
broken site for the first time.  There is no label exactly when none of the texts that are looked for
stands in the source.  Every label begins and ends between characters of the source.

What is labelled is the text of the site, with one exception.  A name in front of an equals sign is taken
to stand in quotation marks if it begins with one, and then the label lies one byte further on.
-/

namespace Scaffold
namespace Manifest

open Text

namespace Site

/-- The text of a site, as a source has it where it says what breaks the rule. -/
def written (project : Project) : Site → String
  | projectName => "[project]"
  | package => project.settings.package
  | indent => "indent"
  | module name => name
  | entity d => d.name
  | field _ name => name
  | enumValue _ value => value
  | pathVariable d position => "\x7b" ++ d.entity.pathVariables[position]?.getD "" ++ "\x7d"
  | model d => "modules." ++ d.module ++ ".entities." ++ d.name

/-- Whether the rule of a site is about a name that stands alone. -/
def isName : Site → Bool
  | module _ | entity _ | field .. | enumValue .. => true
  | _ => false

/-- The texts that a source is searched for: for a name, those in which a manifest may hold it. -/
def searched
    (project : Project)
    (site : Site) : List String :=
  let text := site.written project
  if site.isName then ["." ++ text ++ "]", "." ++ text ++ ".", text ++ " =", "\"" ++ text ++ "\""]
  else [text]

end Site

namespace Source

variable {source : Source} {name text : String} {span : Span}

/-- A text stands somewhere in a source. -/
def Holds
    (source : Source)
    (text : String) : Prop :=
  text.toList <:+: source.text.toList

instance : Decidable (source.Holds text) :=
  inferInstanceAs (Decidable (text.toList <:+: source.text.toList))

/-- A text stands in a source where a span lies. -/
def HasAt
    (source : Source)
    (span : Span)
    (text : String) : Prop :=
  Text.HasAt source.text span.offset span.length text

/-- A name begins with a quotation mark, and is found in front of an equals sign but in no header. -/
structure Displaces
    (source : Source)
    (name : String) : Prop where
  quoted : name.toList.head? = some '"'
  notLast : ¬ source.Holds ("." ++ name ++ "]")
  notWithin : ¬ source.Holds ("." ++ name ++ ".")
  key : source.Holds (name ++ " =")

/-- What stands one byte behind the beginning of a name with a blank behind it. -/
def displaced (name : String) : String :=
  String.ofList (name.toList.tail ++ [' '])

/-- A part of a literal stands where the literal is found, behind the bytes in front of the part. -/
theorem hasAt_of_offset?
    {position : Nat}
    (front part back : List Char)
    (found : offset? (front ++ (part ++ back)) source.text.toList = some position) :
    source.HasAt ⟨position + byteLength front, byteLength part⟩ (String.ofList part) := by
  obtain ⟨before, behind, whole, rfl⟩ := exists_append_of_offset?_eq_some found
  have text : source.text =
      String.ofList (before ++ front) ++ String.ofList part ++ String.ofList (back ++ behind) := by
    rw [String.ext_iff, whole]
    simp
  have here := Text.HasAt.of_append (String.ofList (before ++ front)) (String.ofList part)
    (String.ofList (back ++ behind))
  rwa [← text, ← byteLength_eq_utf8ByteSize, ← byteLength_eq_utf8ByteSize, byteLength_append] at here

theorem offset?_eq_none_iff_not_holds :
    offset? text.toList source.text.toList = none ↔ ¬ source.Holds text :=
  offset?_eq_none_iff

theorem spanOf?_eq_none_iff :
    source.spanOf? text = none ↔ ¬ source.Holds text := by
  rw [spanOf?, Option.map_eq_none_iff, offset?_eq_none_iff_not_holds]

theorem hasAt_of_spanOf?
    (found : source.spanOf? text = some span) :
    source.HasAt span text := by
  obtain ⟨position, foundAt, rfl⟩ := Option.map_eq_some_iff.1 found
  have here := hasAt_of_offset? [] text.toList [] (by simpa using foundAt)
  simpa [byteLength] using here

/-- No name is found exactly when none of the texts that may hold it stands in the source. -/
theorem spanOfName?_eq_none_iff :
    source.spanOfName? name = none ↔
      ¬ source.Holds ("." ++ name ++ "]") ∧ ¬ source.Holds ("." ++ name ++ ".") ∧
        ¬ source.Holds (name ++ " =") ∧ ¬ source.Holds ("\"" ++ name ++ "\"") := by
  simp only [← offset?_eq_none_iff_not_holds]
  simp [spanOfName?, namePatterns]

/-- A name in front of an equals sign is found as it is. -/
theorem hasAt_of_key
    {position : Nat}
    (found : offset? (name.toList ++ [' ', '=']) source.text.toList = some position) :
    source.HasAt ⟨position, byteLength name.toList⟩ name := by
  have here := hasAt_of_offset? [] name.toList [' ', '='] found
  simpa [byteLength] using here

/-- One byte behind a name that begins with a quotation mark, the rest of it and a blank are found. -/
theorem hasAt_of_quoted_key
    {position : Nat}
    (quoted : name.toList.head? = some '"')
    (found : offset? (name.toList ++ [' ', '=']) source.text.toList = some position) :
    source.HasAt ⟨position + 1, byteLength name.toList⟩ (displaced name) := by
  obtain ⟨rest, shape⟩ := List.head?_eq_some_iff.1 quoted
  have here := hasAt_of_offset? ['"'] (rest ++ [' ']) ['='] (by simpa [shape] using found)
  have mark : byteLength ['"'] = 1 := by decide
  have length : byteLength (rest ++ [' ']) = byteLength name.toList := by
    rw [shape, byteLength_append, byteLength, Nat.add_comm]
    rfl
  rw [mark, length] at here
  simpa [displaced, shape] using here

/-- Behind one character of one byte a name is found as it is. -/
theorem hasAt_of_enclosed
    {position : Nat}
    {first last : Char}
    (narrow : first.utf8Size = 1)
    (found : offset? (first :: (name.toList ++ [last])) source.text.toList = some position) :
    source.HasAt ⟨position + 1, byteLength name.toList⟩ name := by
  have here := hasAt_of_offset? [first] name.toList [last] found
  simpa [byteLength, narrow] using here

/-- Where a literal is found, it stands in the source. -/
theorem holds_of_offset?
    {position : Nat}
    (found : offset? text.toList source.text.toList = some position) :
    source.Holds text := by
  by_contra absent
  rw [offset?_eq_none_iff_not_holds.2 absent] at found
  cases found

/-- A span lies on the first place of a name in the first of the texts that may hold it. -/
inductive FoundAs
    (source : Source)
    (name : String) : Span → Prop
  | last
      {position : Nat}
      (found : offset? ('.' :: (name.toList ++ [']'])) source.text.toList = some position) :
      FoundAs source name ⟨position + 1, byteLength name.toList⟩
  | within
      {position : Nat}
      (found : offset? ('.' :: (name.toList ++ ['.'])) source.text.toList = some position) :
      FoundAs source name ⟨position + 1, byteLength name.toList⟩
  | key
      {position : Nat}
      (notLast : ¬ source.Holds ("." ++ name ++ "]"))
      (notWithin : ¬ source.Holds ("." ++ name ++ "."))
      (found : offset? (name.toList ++ [' ', '=']) source.text.toList = some position) :
      FoundAs source name
        ⟨position + if name.toList.head? = some '"' then 1 else 0, byteLength name.toList⟩
  | value
      {position : Nat}
      (notKey : ¬ source.Holds (name ++ " ="))
      (found : offset? ('"' :: (name.toList ++ ['"'])) source.text.toList = some position) :
      FoundAs source name ⟨position + 1, byteLength name.toList⟩

theorem foundAs_of_spanOfName?
    (found : source.spanOfName? name = some span) :
    source.FoundAs name span := by
  cases last : offset? ('.' :: (name.toList ++ [']'])) source.text.toList with
  | some position =>
    obtain rfl : (⟨position + 1, byteLength name.toList⟩ : Span) = span := by
      simpa [spanOfName?, namePatterns, last] using found
    exact .last last
  | none =>
  cases within : offset? ('.' :: (name.toList ++ ['.'])) source.text.toList with
  | some position =>
    obtain rfl : (⟨position + 1, byteLength name.toList⟩ : Span) = span := by
      simpa [spanOfName?, namePatterns, last, within] using found
    exact .within within
  | none =>
  cases key : offset? (name.toList ++ [' ', '=']) source.text.toList with
  | some position =>
    have ahead : (name.toList ++ [' ', '=']).head? = some '"' ↔ name.toList.head? = some '"' := by
      cases name.toList <;> simp
    have spelled : some (⟨position + if name.toList.head? = some '"' then 1 else 0,
        byteLength name.toList⟩ : Span) = some span := by
      rw [← found]
      simp only [spanOfName?, namePatterns, List.findSome?_cons, List.cons_append,
        List.nil_append, last, within, key, ahead, Option.map_none, Option.map_some]
    cases spelled
    exact .key (offset?_eq_none_iff_not_holds.1 (by simpa using last))
      (offset?_eq_none_iff_not_holds.1 (by simpa using within)) key
  | none =>
    obtain ⟨position, value, rfl⟩ : ∃ position,
        offset? ('"' :: (name.toList ++ ['"'])) source.text.toList = some position ∧
          (⟨position + 1, byteLength name.toList⟩ : Span) = span := by
      simpa [spanOfName?, namePatterns, last, within, key] using found
    exact .value (offset?_eq_none_iff_not_holds.1 (by simpa using key)) value

/-- A label on a name lies on the name, unless the name is displaced. -/
theorem hasAt_of_spanOfName?
    (found : source.spanOfName? name = some span) :
    (source.Displaces name → source.HasAt span (displaced name)) ∧
      (¬ source.Displaces name → source.HasAt span name) := by
  cases foundAs_of_spanOfName? found with
  | last here =>
      have header : source.Holds ("." ++ name ++ "]") := holds_of_offset? (by simpa using here)
      exact ⟨fun moved => absurd header moved.notLast,
        fun _ => hasAt_of_enclosed (by decide) here⟩
  | within here =>
      have header : source.Holds ("." ++ name ++ ".") := holds_of_offset? (by simpa using here)
      exact ⟨fun moved => absurd header moved.notWithin,
        fun _ => hasAt_of_enclosed (by decide) here⟩
  | key notLast notWithin here =>
      have equals : source.Holds (name ++ " =") := holds_of_offset? (by simpa using here)
      constructor
      · intro moved
        rw [if_pos moved.quoted]
        exact hasAt_of_quoted_key moved.quoted here
      · intro kept
        have unquoted : name.toList.head? ≠ some '"' := fun quoted =>
          kept ⟨quoted, notLast, notWithin, equals⟩
        rw [if_neg unquoted]
        exact hasAt_of_key here
  | value notKey here =>
      exact ⟨fun moved => absurd moved.key notKey,
        fun _ => hasAt_of_enclosed (by decide) here⟩

/-- A displaced label does not quote the name. -/
theorem displaced_ne
    (moved : source.Displaces name) :
    displaced name ≠ name := by
  intro same
  obtain ⟨rest, shape⟩ := List.head?_eq_some_iff.1 moved.quoted
  have marks : (rest ++ [' ']).count '"' = ('"' :: rest).count '"' := by
    rw [← shape, ← same, displaced, shape]
    simp
  simp at marks

end Source

section Labels

variable {project : Project} {source : Source} {site : Site} {v : Violation} {span : Span}

/-- The text of a site is a name that is displaced. -/
def Site.IsDisplaced
    (site : Site)
    (project : Project)
    (source : Source) : Prop :=
  site.isName = true ∧ source.Displaces (site.written project)

/-- The labels of a diagnostic quote a site: there is none exactly when nothing that is searched for is
in the source, and each lies on the text of the site, or one byte further on if that text is displaced. -/
structure Diagnostic.Quotes
    (told : Diagnostic)
    (project : Project)
    (source : Source)
    (site : Site) : Prop where
  absent : told.labels = [] ↔ ∀ text ∈ site.searched project, ¬ source.Holds text
  onText : ∀ label ∈ told.labels, ¬ site.IsDisplaced project source →
    source.HasAt label.2 (site.written project)
  behindText : ∀ label ∈ told.labels, site.IsDisplaced project source →
    source.HasAt label.2 (Source.displaced (site.written project)) ∧
      ¬ source.HasAt label.2 (site.written project)

namespace Site.Breaks

/-- The violation of a rule about a name is looked for as a name, any other as its text. -/
theorem span?_eq
    (bad : site.Breaks project v) :
    v.span? source =
      if site.isName then source.spanOfName? (site.written project)
      else source.spanOf? (site.written project) := by
  cases bad with
  | missingName => rfl
  | badPackage => rfl
  | badIndent => rfl
  | module bad => cases bad <;> rfl
  | entity bad => cases bad <;> rfl
  | field bad => cases bad <;> rfl
  | enumValue bad => cases bad <;> rfl
  | pathVariable here bad =>
      cases bad <;>
        simp [Violation.span?, NameUse.span?, Site.written, Site.isName, here,
          Declaration.variableUse]
  | repeatedVariable here =>
      simp [Violation.span?, NameUse.span?, Site.written, Site.isName, here,
        Declaration.variableUse]
  | duplicateModel => rfl

theorem span?_eq_none_iff
    (bad : site.Breaks project v) :
    v.span? source = none ↔ ∀ text ∈ site.searched project, ¬ source.Holds text := by
  rw [bad.span?_eq, Site.searched]
  split
  · rw [Source.spanOfName?_eq_none_iff]
    simp
  · rw [Source.spanOf?_eq_none_iff]
    simp

theorem hasAt_of_not_isDisplaced
    (bad : site.Breaks project v)
    (kept : ¬ site.IsDisplaced project source)
    (found : v.span? source = some span) :
    source.HasAt span (site.written project) := by
  rw [bad.span?_eq] at found
  split at found
  · next isName => exact (Source.hasAt_of_spanOfName? found).2 fun moved => kept ⟨isName, moved⟩
  · exact Source.hasAt_of_spanOf? found

theorem hasAt_of_isDisplaced
    (bad : site.Breaks project v)
    (moved : site.IsDisplaced project source)
    (found : v.span? source = some span) :
    source.HasAt span (Source.displaced (site.written project)) := by
  rw [bad.span?_eq, if_pos moved.1] at found
  exact (Source.hasAt_of_spanOfName? found).1 moved.2

/-- The labels of the diagnostic for a broken site quote the site. -/
theorem quotes
    (bad : site.Breaks project v) :
    ((Refusal.violated v).diagnostic source).Quotes project source site := by
  have labels : ((Refusal.violated v).diagnostic source).labels =
      ((v.span? source).map fun span => (v.label, span)).toList := rfl
  have placed : ∀ label ∈ ((Refusal.violated v).diagnostic source).labels,
      v.span? source = some label.2 := by
    intro label among
    rw [labels, Option.mem_toList, Option.map_eq_some_iff] at among
    obtain ⟨span, found, rfl⟩ := among
    exact found
  constructor
  case absent =>
    rw [labels, ← bad.span?_eq_none_iff, Option.toList_eq_nil_iff, Option.map_eq_none_iff]
  case onText =>
    intro label among kept
    exact bad.hasAt_of_not_isDisplaced kept (placed label among)
  case behindText =>
    intro label among moved
    have behind := bad.hasAt_of_isDisplaced moved (placed label among)
    exact ⟨behind, fun onText => Source.displaced_ne moved.2 (behind.unique onText)⟩

end Site.Breaks

/-- A label quotes the source.

What is reported of a project is its first broken site, and the labels quote it: they begin and end
between characters of the source, and the bytes between are the text of the site.  Only a name that
begins with a quotation mark may be displaced. -/
theorem labels_quote_the_first_broken_site
    (project : Project)
    (source : Source)
    (told : Diagnostic)
    (reported : source.diagnosis? project = some told) :
    ∃ front site back v,
      project.sites = front ++ site :: back ∧
        (∀ earlier ∈ front, ∀ w, ¬ earlier.Breaks project w) ∧ site.Breaks project v ∧
        told = (Refusal.violated v).diagnostic source ∧ told.Quotes project source site := by
  obtain ⟨v, found, rfl⟩ := Option.map_eq_some_iff.1 reported
  obtain ⟨front, site, back, whole, kept, bad⟩ := Project.violation?_eq_some_iff.1 found
  exact ⟨front, site, back, v, whole, kept, bad, rfl, bad.quotes⟩

/-- A manifest with a field that is no name because of its letters. -/
def wideManifest : Source where
  text := "# ☕\n[project]\nname = \"kennel\"\n\n[modules.m.entities.Pet]\nkind = \"data\"\n" ++
    "fields = \x7b \"größe\" = \"int\" \x7d\n"
  name := defaultName

/-- The label on a name lies on all of its letters, and on nothing else. -/
theorem wide_name_is_quoted :
    ∃ project told,
      readProject wideManifest.text = .ok project ∧
        wideManifest.diagnosis? project = some told ∧
        told.labels = [("invalid identifier", ⟨84, 7⟩)] ∧
        ∃ front site back v,
          project.sites = front ++ site :: back ∧
            (∀ earlier ∈ front, ∀ w, ¬ earlier.Breaks project w) ∧ site.Breaks project v ∧
            told = (Refusal.violated v).diagnostic wideManifest ∧
            told.Quotes project wideManifest site := by
  obtain ⟨project, found, read⟩ := exists_of_bind_readProject
    wideManifest.text (fun p => (wideManifest.diagnosis? p).map (·.labels))
    [("invalid identifier", ⟨84, 7⟩)] (by decide +kernel)
  obtain ⟨told, reported, labels⟩ := Option.map_eq_some_iff.1 read
  exact ⟨project, told, found, reported, labels,
    labels_quote_the_first_broken_site project wideManifest told reported⟩

/-- A manifest with a quotation mark as the name of a field, and in front of an equals sign elsewhere. -/
def markedManifest : Source where
  text := "[project]\nname = \"kennel\"\n\n[modules.m.entities.Pet]\nkind = \"data\"\n" ++
    "fields = \x7b '\"' = \"int\", \"a\"" ++ " " ++ "= \"int\" \x7d\n"
  name := defaultName

/-- The label on a name that is a quotation mark lies on the blank behind another one. -/
theorem quotation_mark_is_not_quoted :
    ∃ project told,
      readProject markedManifest.text = .ok project ∧
        project.violation? =
          some (.badName ⟨"field", ["m", "Pet"], "\"", false⟩ (.badStart '"')) ∧
        markedManifest.diagnosis? project = some told ∧
        told.labels = [("invalid identifier", ⟨93, 1⟩)] ∧
        markedManifest.HasAt ⟨93, 1⟩ " " ∧ ¬ markedManifest.HasAt ⟨93, 1⟩ "\"" := by
  obtain ⟨project, found, read⟩ := exists_of_bind_readProject
    markedManifest.text
    (fun p => p.violation?.bind fun v =>
      (markedManifest.diagnosis? p).map fun told => (v, told.labels))
    (.badName ⟨"field", ["m", "Pet"], "\"", false⟩ (.badStart '"'),
      [("invalid identifier", ⟨93, 1⟩)])
    (by decide +kernel)
  obtain ⟨v, first, placed⟩ := Option.bind_eq_some_iff.1 read
  obtain ⟨told, reported, both⟩ := Option.map_eq_some_iff.1 placed
  obtain ⟨rfl, labels⟩ := Prod.mk.inj both
  have blank : markedManifest.HasAt ⟨93, 1⟩ " " := Text.HasAt.of_append
    ("[project]\nname = \"kennel\"\n\n[modules.m.entities.Pet]\nkind = \"data\"\n" ++
      "fields = \x7b '\"' = \"int\", \"a\"") " " "= \"int\" \x7d\n"
  have notMark : ¬ markedManifest.HasAt ⟨93, 1⟩ "\"" := fun mark =>
    absurd (blank.unique mark) (by decide)
  exact ⟨project, told, found, first, reported, labels, blank, notMark⟩

end Labels

end Manifest
end Scaffold
