import Mathlib.Data.List.TakeWhile
import Scaffold.Manifest.Validation
import Scaffold.Proofs.Manifest.Declarations
import Scaffold.Proofs.Manifest.Identifiers

/-!
# Sites of rules

Where a rule of a manifest can be broken is a site: the settings, each name, each path variable and
each model class.  Which violation stands at a site is said without anything carried along from
earlier sites, and the sites of a project are listed in the order in which they are looked at.

The main statements are that the violations of a project are those at its sites, one site after the
other, and that what is found first at a site is the violation of its rule.
-/

namespace Scaffold
namespace Manifest

open Text

/-- A place of a project where a rule can be broken. -/
inductive Site where
  | projectName
  | package
  | indent
  | module (name : String)
  | entity (d : Declaration)
  | field (d : Declaration) (name : String)
  | enumValue (d : Declaration) (value : String)
  | pathVariable (d : Declaration) (position : Nat)
  | model (d : Declaration)

namespace Site

/-- The sites of an entity: its name, fields, values, path variables and model class. -/
def ofDeclaration (d : Declaration) : List Site :=
  entity d :: d.entity.fields.keys.map (field d) ++
    (if d.entity.kind = .enumeration then d.entity.values.map (enumValue d) else []) ++
    (if d.entity.kind = .request then
      (List.range d.entity.pathVariables.length).map (pathVariable d)
    else []) ++
    [model d]

/-- The sites of a module: its name and then its entities. -/
def ofModule (entry : String × Module) : List Site :=
  module entry.1 :: (Project.declarationsOf entry).flatMap ofDeclaration

end Site

/-- The sites of a project in order. -/
def Project.sites (project : Project) : List Site :=
  [.projectName, .package, .indent] ++ project.modules.entries.flatMap Site.ofModule

/-- A name from which no identifier can be made, or one whose identifier is a keyword. -/
inductive NameUse.Breaks (use : NameUse) (spelling : String) : Violation → Prop
  | badName
      {flaw : NameFlaw}
      (first : flaw.FirstIn use.name) :
      Breaks use spelling (.badName use flaw)
  | reserved
      (named : IsName use.name)
      (kept : spelling ∈ keywords) :
      Breaks use spelling (.reservedName use spelling)

/-- The use of a path variable of a request. -/
def Declaration.variableUse
    (d : Declaration)
    (name : String) : NameUse :=
  ⟨"path variable", [d.module, d.name], name, true⟩

/-- The rule of a site is broken, and this is the violation. -/
inductive Site.Breaks (project : Project) : Site → Violation → Prop
  | missingName
      (blank : ∀ c ∈ project.settings.name.toList, isBlank c = true) :
      Breaks project .projectName .missingName
  | badPackage
      {flaw : PackageFlaw}
      (first : flaw.FirstIn project.settings.package) :
      Breaks project .package (.badPackage project.settings.package flaw)
  | badIndent
      (outside : ¬ (1 ≤ project.options.indent.toNat ∧ project.options.indent.toNat ≤ 8)) :
      Breaks project .indent (.badIndent project.options.indent)
  | module
      {name : String}
      {v : Violation}
      (bad : (⟨"module", [], name, false⟩ : NameUse).Breaks name v) :
      Breaks project (.module name) v
  | entity
      {d : Declaration}
      {v : Violation}
      (bad : (⟨"entity", [d.module], d.name, false⟩ : NameUse).Breaks (Naming.camel d.name) v) :
      Breaks project (.entity d) v
  | field
      {d : Declaration}
      {name : String}
      {v : Violation}
      (bad : (⟨"field", [d.module, d.name], name, false⟩ : NameUse).Breaks (Naming.camel name) v) :
      Breaks project (.field d name) v
  | enumValue
      {d : Declaration}
      {value : String}
      {v : Violation}
      (bad : (⟨"enum value", [d.module, d.name], value, false⟩ : NameUse).Breaks value v) :
      Breaks project (.enumValue d value) v
  | pathVariable
      {d : Declaration}
      {position : Nat}
      {name : String}
      {v : Violation}
      (here : d.entity.pathVariables[position]? = some name)
      (bad : (d.variableUse name).Breaks (Naming.camel name) v) :
      Breaks project (.pathVariable d position) v
  | repeatedVariable
      {d : Declaration}
      {position before : Nat}
      {name other : String}
      (here : d.entity.pathVariables[position]? = some name)
      (usable : IsUsable name (Naming.camel name))
      (earlier : before < position)
      (there : d.entity.pathVariables[before]? = some other)
      (same : Naming.camel other = Naming.camel name) :
      Breaks project (.pathVariable d position) (.repeatedVariable (d.variableUse name))
  | duplicateModel
      {first d : Declaration}
      {front middle back : List Declaration}
      (whole : project.declarations = front ++ first :: (middle ++ d :: back))
      (firstModel : first.entity.isModel = true)
      (isModel : d.entity.isModel = true)
      (same : Naming.pascal first.name = Naming.pascal d.name)
      (earliest : ∀ e ∈ front, e.entity.isModel = true →
        Naming.pascal e.name ≠ Naming.pascal d.name) :
      Breaks project (.model d)
        (.duplicateModel (Naming.pascal d.name) first.module first.name d.module d.name)

/-- A site of a name, with the use of the name there and what it is spelled as in the sources. -/
inductive Site.Uses : Site → NameUse → String → Prop
  | module {name : String} : Uses (.module name) ⟨"module", [], name, false⟩ name
  | entity {d : Declaration} :
      Uses (.entity d) ⟨"entity", [d.module], d.name, false⟩ (Naming.camel d.name)
  | field
      {d : Declaration}
      {name : String} :
      Uses (.field d name) ⟨"field", [d.module, d.name], name, false⟩ (Naming.camel name)
  | enumValue
      {d : Declaration}
      {value : String} :
      Uses (.enumValue d value) ⟨"enum value", [d.module, d.name], value, false⟩ value
  | pathVariable
      {d : Declaration}
      {position : Nat}
      {name : String}
      (here : d.entity.pathVariables[position]? = some name) :
      Uses (.pathVariable d position) (d.variableUse name) (Naming.camel name)

section Names

variable {use : NameUse} {spelling : String} {v : Violation}

theorem ofName_eq_none_iff :
    Violation.ofName use spelling = none ↔ IsUsable use.name spelling := by
  unfold Violation.ofName IsUsable
  cases found : nameFlaw? use.name with
  | none =>
      have named := nameFlaw?_eq_none_iff.1 found
      simp [named, isKeyword_iff]
  | some flaw =>
      have unnamed : ¬ IsName use.name := by
        rw [← nameFlaw?_eq_none_iff, found]
        simp
      simp [unnamed]

theorem ofName_eq_some_iff :
    Violation.ofName use spelling = some v ↔ use.Breaks spelling v := by
  unfold Violation.ofName
  cases found : nameFlaw? use.name with
  | none =>
      have named := nameFlaw?_eq_none_iff.1 found
      constructor
      · intro reported
        by_cases kept : isKeyword spelling = true
        · have same : Violation.reservedName use spelling = v := by simpa [kept] using reported
          exact same ▸ .reserved named (isKeyword_iff.1 kept)
        · simp [kept] at reported
      · intro bad
        cases bad with
        | badName first =>
            rw [nameFlaw?_eq_some_iff.2 first] at found
            cases found
        | reserved _ kept => simp [isKeyword_iff.2 kept]
  | some flaw =>
      constructor
      · intro reported
        have same : Violation.badName use flaw = v := by simpa using reported
        exact same ▸ .badName (nameFlaw?_eq_some_iff.1 found)
      · intro bad
        cases bad with
        | badName first =>
            rw [nameFlaw?_eq_some_iff.2 first] at found
            cases found
            rfl
        | reserved named _ =>
            rw [nameFlaw?_eq_none_iff.2 named] at found
            cases found

/-- A name that cannot be used breaks its rule. -/
theorem NameUse.exists_breaks
    (use : NameUse)
    (spelling : String)
    (unusable : ¬ IsUsable use.name spelling) :
    ∃ v, use.Breaks spelling v := by
  cases reported : Violation.ofName use spelling with
  | none => exact absurd (ofName_eq_none_iff.1 reported) unusable
  | some v => exact ⟨v, ofName_eq_some_iff.1 reported⟩

theorem NameUse.Breaks.not_isUsable
    (bad : use.Breaks spelling v) :
    ¬ IsUsable use.name spelling := by
  rw [← ofName_eq_none_iff, ofName_eq_some_iff.2 bad]
  simp

/-- What breaks the rule of a name breaks the rule of the site where the name is used. -/
theorem Site.Uses.breaks
    {project : Project}
    {site : Site}
    (uses : site.Uses use spelling)
    (bad : use.Breaks spelling v) :
    site.Breaks project v := by
  cases uses with
  | module => exact .module bad
  | entity => exact .entity bad
  | field => exact .field bad
  | enumValue => exact .enumValue bad
  | pathVariable here => exact .pathVariable here bad

/-- A name can be used when nothing is broken at its site. -/
theorem Site.Uses.isUsable
    {project : Project}
    {site : Site}
    (uses : site.Uses use spelling)
    (kept : ∀ w, ¬ site.Breaks project w) :
    IsUsable use.name spelling := by
  by_contra unusable
  obtain ⟨v, bad⟩ := use.exists_breaks spelling unusable
  exact kept v (uses.breaks bad)

end Names

section Settings

variable {project : Project}

theorem trimList_eq_nil_iff {cs : List Char} :
    trimList cs = [] ↔ ∀ c ∈ cs, isBlank c = true := by
  unfold trimList
  rw [List.reverse_eq_nil_iff, List.dropWhile_eq_nil_iff]
  constructor
  · intro blank c member
    by_cases kept : c ∈ cs.dropWhile isBlank
    · exact blank c (List.mem_reverse.2 kept)
    · have parts : cs.takeWhile isBlank ++ cs.dropWhile isBlank = cs :=
        List.takeWhile_append_dropWhile
      rw [← parts] at member
      rcases List.mem_append.1 member with dropped | left
      · exact List.mem_takeWhile_imp dropped
      · exact absurd left kept
  · intro blank c member
    exact blank c ((List.dropWhile_sublist isBlank).mem (List.mem_reverse.1 member))

theorem isIndentWidth_iff {width : UInt8} :
    isIndentWidth width = true ↔ 1 ≤ width.toNat ∧ width.toNat ≤ 8 := by
  simp [isIndentWidth, UInt8.le_iff_toNat_le]

end Settings

namespace Site

variable {project : Project} {v : Violation}

/-- The violations of one path variable, given the names taken before the path. -/
def variableViolationsAt
    (around taken names : List String)
    (position : Nat) : List Violation :=
  match names[position]? with
  | none => []
  | some name =>
      let use : NameUse := ⟨"path variable", around, name, true⟩
      (Violation.ofName use (Naming.camel name)).toList ++
        (if Naming.camel name ∈ taken ∨ Naming.camel name ∈ (names.take position).map Naming.camel
        then [.repeatedVariable use] else [])

/-- The violations at a site. -/
def violations (project : Project) : Site → List Violation
  | projectName => if trimList project.settings.name.toList = [] then [.missingName] else []
  | package =>
      ((packageFlaw? project.settings.package).map
        (.badPackage project.settings.package ·)).toList
  | indent =>
      if isIndentWidth project.options.indent then [] else [.badIndent project.options.indent]
  | module name => (Violation.ofName ⟨"module", [], name, false⟩ name).toList
  | entity d =>
      (Violation.ofName ⟨"entity", [d.module], d.name, false⟩ (Naming.camel d.name)).toList
  | field d name =>
      (Violation.ofName ⟨"field", [d.module, d.name], name, false⟩ (Naming.camel name)).toList
  | enumValue d value =>
      (Violation.ofName ⟨"enum value", [d.module, d.name], value, false⟩ value).toList
  | pathVariable d position =>
      variableViolationsAt [d.module, d.name] [] d.entity.pathVariables position
  | model d =>
      (modelViolation? (project.declarations.takeWhile fun e => e.id != d.id) d).toList

/-- The names taken by earlier variables of a path are those that stand before a variable. -/
theorem variableViolations_eq_flatMap
    (around taken names : List String) :
    variableViolations around taken names =
      (List.range names.length).flatMap (variableViolationsAt around taken names) := by
  induction names generalizing taken with
  | nil => rfl
  | cons name rest ih =>
      have later : ∀ position,
          variableViolationsAt around taken (name :: rest) (position + 1) =
            variableViolationsAt around (Naming.camel name :: taken) rest position := by
        intro position
        cases here : rest[position]? with
        | none => simp [variableViolationsAt, here]
        | some other =>
            simp only [variableViolationsAt, List.getElem?_cons_succ, here, List.take_succ_cons,
              List.map_cons, List.mem_cons, or_assoc, or_left_comm]
      rw [variableViolations, ih, List.length_cons, List.range_succ_eq_map, List.flatMap_cons,
        List.flatMap_map]
      have first : variableViolationsAt around taken (name :: rest) 0 =
          (Violation.ofName ⟨"path variable", around, name, true⟩ (Naming.camel name)).toList ++
            (if taken.contains (Naming.camel name)
            then [.repeatedVariable ⟨"path variable", around, name, true⟩] else []) := by
        simp [variableViolationsAt]
      simp only [Nat.succ_eq_add_one, later, first]

theorem entityViolations_eq_flatMap
    {d : Declaration}
    {front back : List Declaration}
    (whole : project.declarations = front ++ d :: back) :
    entityViolations d ++ (modelViolation? front d).toList =
      (ofDeclaration d).flatMap (violations project) := by
  have before := Project.takeWhile_ne_id whole
  unfold entityViolations ofDeclaration
  simp only [variableViolations_eq_flatMap]
  by_cases enumeration : d.entity.kind = .enumeration
  · simp [enumeration, violations, before, List.flatMap_map, List.filterMap_eq_flatMap_toList,
      List.append_assoc]
  · by_cases request : d.entity.kind = .request
    · simp [request, violations, before, List.flatMap_map, List.filterMap_eq_flatMap_toList,
        List.append_assoc]
    · simp [enumeration, request, violations, before, List.flatMap_map,
        List.filterMap_eq_flatMap_toList, List.append_assoc]

theorem declarationViolations_eq_flatMap
    {front ds back : List Declaration}
    (whole : project.declarations = front ++ ds ++ back) :
    declarationViolations front ds =
      ds.flatMap fun d => (ofDeclaration d).flatMap (violations project) := by
  induction ds generalizing front with
  | nil => rfl
  | cons d rest ih =>
      have here : project.declarations = front ++ d :: (rest ++ back) := by simpa using whole
      have later : project.declarations = (front ++ [d]) ++ rest ++ back := by simpa using whole
      rw [declarationViolations, entityViolations_eq_flatMap here, ih later, List.flatMap_cons]

theorem moduleViolations_eq_flatMap
    {front : List Declaration}
    {entries : List (String × Module)}
    (whole : project.declarations = front ++ entries.flatMap Project.declarationsOf) :
    moduleViolations front entries =
      entries.flatMap fun entry => (ofModule entry).flatMap (violations project) := by
  induction entries generalizing front with
  | nil => rfl
  | cons entry rest ih =>
      have later : project.declarations =
          (front ++ Project.declarationsOf entry) ++ rest.flatMap Project.declarationsOf := by
        simpa using whole
      rw [moduleViolations, declarationViolations_eq_flatMap later, ih later, List.flatMap_cons]
      simp [ofModule, violations, List.flatMap_assoc]

/-- The violations of a project are those at its sites, one site after the other. -/
theorem violations_eq_flatMap (project : Project) :
    project.violations = project.sites.flatMap (violations project) := by
  have modules : moduleViolations [] project.modules.entries =
      project.modules.entries.flatMap fun entry => (ofModule entry).flatMap (violations project) :=
    moduleViolations_eq_flatMap rfl
  unfold Project.violations Project.sites
  rw [modules, settingsViolations]
  simp [violations, List.flatMap_assoc, List.append_assoc]

section Sites

variable {d : Declaration}

theorem mem_sites {site : Site} :
    site ∈ project.sites ↔
      site = projectName ∨ site = package ∨ site = indent ∨
        (∃ entry ∈ project.modules.entries, site = module entry.1) ∨
        ∃ d ∈ project.declarations, site ∈ ofDeclaration d := by
  simp only [Project.sites, ofModule, Project.mem_declarations, List.mem_append, List.mem_cons,
    List.mem_flatMap, List.not_mem_nil, or_false, or_assoc]
  constructor
  · rintro (first | second | third | ⟨entry, known, own | ⟨d, among, inner⟩⟩)
    · exact .inl first
    · exact .inr (.inl second)
    · exact .inr (.inr (.inl third))
    · exact .inr (.inr (.inr (.inl ⟨entry, known, own⟩)))
    · exact .inr (.inr (.inr (.inr ⟨d, ⟨entry, known, among⟩, inner⟩)))
  · rintro (first | second | third | ⟨entry, known, own⟩ | ⟨d, ⟨entry, known, among⟩, inner⟩)
    · exact .inl first
    · exact .inr (.inl second)
    · exact .inr (.inr (.inl third))
    · exact .inr (.inr (.inr ⟨entry, known, .inl own⟩))
    · exact .inr (.inr (.inr ⟨entry, known, .inr ⟨d, among, inner⟩⟩))

theorem mem_sites_of_declaration
    {site : Site}
    (member : d ∈ project.declarations)
    (inner : site ∈ ofDeclaration d) :
    site ∈ project.sites :=
  mem_sites.2 (.inr (.inr (.inr (.inr ⟨d, member, inner⟩))))

theorem mem_ofDeclaration {site : Site} :
    site ∈ ofDeclaration d ↔
      site = entity d ∨
        (∃ name ∈ d.entity.fields.keys, site = field d name) ∨
        (d.entity.kind = .enumeration ∧ ∃ value ∈ d.entity.values, site = enumValue d value) ∨
        (d.entity.kind = .request ∧
          ∃ position < d.entity.pathVariables.length, site = pathVariable d position) ∨
        site = model d := by
  by_cases enumeration : d.entity.kind = .enumeration
  · simp [ofDeclaration, enumeration, eq_comm]
  · by_cases request : d.entity.kind = .request
    · simp [ofDeclaration, request, eq_comm]
    · simp [ofDeclaration, enumeration, request, eq_comm]

end Sites

section Reports

theorem mem_map_take_iff
    {names : List String}
    {position : Nat}
    {spelling : String} :
    spelling ∈ (names.take position).map Naming.camel ↔
      ∃ before other,
        before < position ∧ names[before]? = some other ∧ Naming.camel other = spelling := by
  simp only [List.mem_map, List.mem_take_iff_getElem, List.getElem?_eq_some_iff]
  constructor
  · rintro ⟨other, ⟨before, inside, there⟩, same⟩
    exact ⟨before, other, by omega, ⟨by omega, there⟩, same⟩
  · rintro ⟨before, other, earlier, ⟨inside, there⟩, same⟩
    exact ⟨other, ⟨before, by omega, there⟩, same⟩

theorem head?_violations_pathVariable
    {d : Declaration}
    {position : Nat} :
    (violations project (pathVariable d position)).head? = some v ↔
      (pathVariable d position).Breaks project v := by
  cases here : d.entity.pathVariables[position]? with
  | none =>
      have silent : violations project (pathVariable d position) = [] := by
        simp [violations, variableViolationsAt, here]
      constructor
      · intro reported
        simp [silent] at reported
      · intro bad
        cases bad with
        | pathVariable found _ => simp [here] at found
        | repeatedVariable found => simp [here] at found
  | some name =>
      have parts : violations project (pathVariable d position) =
          (Violation.ofName (d.variableUse name) (Naming.camel name)).toList ++
            if Naming.camel name ∈ (d.entity.pathVariables.take position).map Naming.camel
            then [.repeatedVariable (d.variableUse name)] else [] := by
        simp [violations, variableViolationsAt, here, Declaration.variableUse]
      rw [parts, List.head?_append, Option.head?_toList, Option.or_eq_some_iff, ofName_eq_some_iff,
        ofName_eq_none_iff]
      constructor
      · rintro (bad | ⟨usable, reported⟩)
        · exact .pathVariable here bad
        · split at reported
          · next taken =>
              obtain ⟨before, other, earlier, there, same⟩ := mem_map_take_iff.1 taken
              cases reported
              exact .repeatedVariable here usable earlier there same
          · cases reported
      · intro bad
        cases bad with
        | pathVariable found bad =>
            obtain rfl := Option.some.inj (here.symm.trans found)
            exact .inl bad
        | repeatedVariable found usable earlier there same =>
            obtain rfl := Option.some.inj (here.symm.trans found)
            refine .inr ⟨usable, ?_⟩
            rw [if_pos (mem_map_take_iff.2 ⟨_, _, earlier, there, same⟩)]
            rfl

/-- The entity that is reported with a model class is the first of those before that declare it. -/
theorem modelViolation?_eq_some_iff
    {earlier : List Declaration}
    {d : Declaration} :
    modelViolation? earlier d = some v ↔
      d.entity.isModel = true ∧ ∃ front first middle,
        earlier = front ++ first :: middle ∧ first.entity.isModel = true ∧
          Naming.pascal first.name = Naming.pascal d.name ∧
          (∀ e ∈ front, e.entity.isModel = true → Naming.pascal e.name ≠ Naming.pascal d.name) ∧
          v = .duplicateModel (Naming.pascal d.name) first.module first.name d.module d.name := by
  unfold modelViolation?
  by_cases isModel : d.entity.isModel = true
  · rw [if_pos isModel, Option.map_eq_some_iff]
    constructor
    · rintro ⟨first, found, rfl⟩
      obtain ⟨declares, front, middle, whole, others⟩ := List.find?_eq_some_iff_append.1 found
      obtain ⟨firstModel, same⟩ : first.entity.isModel = true ∧
          Naming.pascal first.name = Naming.pascal d.name := by simpa using declares
      refine ⟨isModel, front, first, middle, whole, firstModel, same, ?_, rfl⟩
      intro e member isModel
      simpa [isModel] using others e member
    · rintro ⟨-, front, first, middle, rfl, firstModel, same, earliest, rfl⟩
      refine ⟨first, List.find?_eq_some_iff_append.2 ⟨by simp [firstModel, same], front, middle,
        rfl, ?_⟩, rfl⟩
      intro e member
      by_cases isModel : e.entity.isModel = true
      · simpa [isModel] using earliest e member isModel
      · simp [isModel]
  · simp [isModel]

theorem head?_violations_model
    {d : Declaration}
    (member : d ∈ project.declarations) :
    (violations project (model d)).head? = some v ↔ (model d).Breaks project v := by
  obtain ⟨before, back, whole⟩ := List.append_of_mem member
  have told : (violations project (model d)).head? = modelViolation? before d := by
    simp [violations, Project.takeWhile_ne_id whole]
  rw [told, modelViolation?_eq_some_iff]
  constructor
  · rintro ⟨isModel, front, first, middle, rfl, firstModel, same, earliest, rfl⟩
    exact .duplicateModel (by simpa using whole) firstModel isModel same earliest
  · intro bad
    cases bad with
    | @duplicateModel first _ front middle back' whole' firstModel isModel same earliest =>
        -- a declaration stands at one place only
        have split : project.declarations = (front ++ first :: middle) ++ d :: back' := by
          simpa using whole'
        have place : before = front ++ first :: middle :=
          (Project.takeWhile_ne_id whole).symm.trans (Project.takeWhile_ne_id split)
        exact ⟨isModel, front, first, middle, place, firstModel, same, earliest, rfl⟩

/-- What is found first at a site is the violation of its rule. -/
theorem head?_violations
    {site : Site}
    (member : site ∈ project.sites) :
    (violations project site).head? = some v ↔ site.Breaks project v := by
  cases site with
  | projectName =>
      by_cases blank : ∀ c ∈ project.settings.name.toList, isBlank c = true
      · simp only [violations, if_pos (trimList_eq_nil_iff.2 blank), List.head?_cons]
        constructor
        · rintro ⟨rfl⟩
          exact .missingName blank
        · rintro ⟨-⟩
          rfl
      · simp only [violations, if_neg (mt trimList_eq_nil_iff.1 blank), List.head?_nil]
        constructor
        · intro reported
          cases reported
        · rintro ⟨all⟩
          exact absurd all blank
  | package =>
      simp only [violations, Option.head?_toList, Option.map_eq_some_iff, packageFlaw?_eq_some_iff]
      constructor
      · rintro ⟨flaw, first, rfl⟩
        exact .badPackage first
      · rintro ⟨-⟩
        exact ⟨_, ‹_›, rfl⟩
  | indent =>
      by_cases inside : 1 ≤ project.options.indent.toNat ∧ project.options.indent.toNat ≤ 8
      · simp only [violations, if_pos (isIndentWidth_iff.2 inside), List.head?_nil]
        constructor
        · intro reported
          cases reported
        · rintro ⟨-⟩
          contradiction
      · simp only [violations, if_neg (mt isIndentWidth_iff.1 inside), List.head?_cons]
        constructor
        · rintro ⟨rfl⟩
          exact .badIndent inside
        · rintro ⟨-⟩
          rfl
  | module name =>
      simp only [violations, Option.head?_toList, ofName_eq_some_iff]
      exact ⟨.module, fun | .module bad => bad⟩
  | entity d =>
      simp only [violations, Option.head?_toList, ofName_eq_some_iff]
      exact ⟨.entity, fun | .entity bad => bad⟩
  | field d name =>
      simp only [violations, Option.head?_toList, ofName_eq_some_iff]
      exact ⟨.field, fun | .field bad => bad⟩
  | enumValue d value =>
      simp only [violations, Option.head?_toList, ofName_eq_some_iff]
      exact ⟨.enumValue, fun | .enumValue bad => bad⟩
  | pathVariable d position => exact head?_violations_pathVariable
  | model d =>
      have declared : d ∈ project.declarations := by
        simpa [mem_sites, mem_ofDeclaration] using member
      exact head?_violations_model declared

theorem head?_violations_eq_none_iff
    {site : Site}
    (member : site ∈ project.sites) :
    (violations project site).head? = none ↔ ∀ w, ¬ site.Breaks project w := by
  rw [Option.eq_none_iff_forall_ne_some]
  simp only [ne_eq, head?_violations member]

end Reports

end Site

end Manifest
end Scaffold
