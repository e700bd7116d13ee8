import Mathlib.Data.List.Nodup
import Mathlib.Data.List.Perm.Basic
import Scaffold.Check
import Scaffold.Proofs.Java.ClassNames

/-!
# What a check tells about each entity

A check goes through the modules and tells why an entity becomes no handler, unless it is no request
at all.  The lines about an entity begin with its module and its name.  In an accepted project these
have no separators in them, so a line is about one entity only.  Sorted by kind, the lines are one for
each request that is left out and one for each module that has no handlers, so every request is either
handled or told about once.
-/

namespace Scaffold

open Manifest (Declaration EntityId Project SkipReason)
open Text

namespace Manifest

section Handled

variable {project : Project} {d : Declaration} {q : Declaration → Bool}

/-- Among declarations with distinct ids, only a given one can pass a test that it alone can pass. -/
theorem countP_of_unique
    {declarations : List Declaration}
    (distinct : (declarations.map Declaration.id).Nodup)
    (member : d ∈ declarations)
    (unique : ∀ e ∈ declarations, q e = true → e.id = d.id) :
    declarations.countP q = (if q d then 1 else 0) := by
  have only : ∀ e ∈ declarations, q e = true → e = d := fun e among passes =>
    List.inj_on_of_nodup_map distinct among member (unique e among passes)
  cases passes : q d with
  | false =>
      refine List.countP_eq_zero.2 fun e among passes' => ?_
      rw [only e among passes', passes] at passes'
      cases passes'
  | true =>
      have same : declarations.countP q = declarations.countP fun e => e.id == d.id := by
        refine List.countP_congr fun e among => ⟨fun passes' => ?_, fun same => ?_⟩
        · simp [only e among passes']
        · rw [List.inj_on_of_nodup_map distinct among member (by simpa using same), passes]
      have once : (declarations.map Declaration.id).count d.id = 1 :=
        List.count_eq_one_of_mem distinct (List.mem_map_of_mem member)
      simpa [same, List.count, List.countP_map, Function.comp_def] using once

namespace Project

/-- The handlers of the module of an entity that handle the entity. -/
def handled
    (project : Project)
    (d : Declaration) : Nat :=
  (project.handlers d.module).countP fun h => h.request.id == d.id

theorem declarationsIn_eq
    {entry : String × Module}
    (member : entry ∈ project.modules.entries) :
    project.declarationsIn entry.1 = declarationsOf entry := by
  have found : project.modules.get? entry.1 = some entry.2 :=
    project.modules.get?_eq_some_iff.2 member
  simp [declarationsIn, found]

/-- An entity is handled once if it is classified as a handler, and not at all otherwise. -/
theorem handled_eq
    (declared : d ∈ project.declarations) :
    project.handled d = (if (project.classify d).isOk then 1 else 0) := by
  obtain ⟨entry, member, among⟩ := mem_declarations.1 declared
  have home : d.module = entry.1 := (mem_declarationsOf.1 among).1
  have counted : project.handled d = (declarationsOf entry).countP fun e =>
      (project.classify e).isOk && e.id == d.id := by
    rw [handled, handlers, home, declarationsIn_eq member, List.countP_filterMap]
    refine List.countP_congr fun e _ => ?_
    cases classified : project.classify e with
    | error reason => simp [Except.isOk, Except.toBool]
    | ok h => simp [Except.isOk, Except.toBool, (classify_eq_ok_iff.1 classified).1]
  rw [counted, countP_of_unique (nodup_ids_declarationsOf entry) among]
  · simp
  · intro e _ passes
    have both : (project.classify e).isOk = true ∧ e.id = d.id := by simpa using passes
    exact both.2

end Project

end Handled

end Manifest

namespace CheckReport

/-- What the lines about an entity begin with. -/
def address (d : Declaration) : String :=
  d.module ++ "." ++ d.name ++ ": "

/-- Whether a line is about an entity. -/
def concerns
    (d : Declaration)
    (line : String) : Bool :=
  (address d).toList.isPrefixOf line.toList

/-- What is told about an entity, if anything: a warning or a remark. -/
def remarkOn?
    (project : Project)
    (d : Declaration) : Option (Bool × String) :=
  match project.classify d with
  | .ok _ => none
  | .error reason => remark? d.module (d.name, reason)

/-- What is told about a module without handlers. -/
def absence (module : String) : String :=
  "module '" ++ module ++ "' has no eligible requests, no controller will be generated"

/-- What is told about a module as a whole. -/
def absences
    (project : Project)
    (module : String) : List (Bool × String) :=
  if (project.handlers module).isEmpty then [(false, absence module)] else []

section Remarks

variable {project : Project} {d e : Declaration} {config : Path}

/-- All that is told, sorted: what is told about the entities, and what is told about the modules. -/
theorem perm_remarks (project : Project) :
    (project.modules.keys.flatMap (moduleRemarks project)).Perm
      (project.declarations.filterMap (remarkOn? project) ++
        project.modules.keys.flatMap (absences project)) := by
  have entities : ∀ entry ∈ project.modules.entries,
      (project.skipped entry.1).filterMap (remark? entry.1) =
        (Project.declarationsOf entry).filterMap (remarkOn? project) := by
    intro entry member
    rw [Project.skipped, Project.declarationsIn_eq member, List.filterMap_filterMap]
    refine List.filterMap_congr fun d among => ?_
    rw [remarkOn?, (Manifest.mem_declarationsOf.1 among).1]
    cases project.classify d <;> rfl
  have whole : project.modules.keys.flatMap (moduleRemarks project) =
      project.modules.entries.flatMap fun entry =>
        (Project.declarationsOf entry).filterMap (remarkOn? project) ++ absences project entry.1 := by
    rw [OrderedMap.keys, Entries.keys, List.flatMap_map]
    refine List.flatMap_congr fun entry member => ?_
    rw [moduleRemarks, entities entry member]
    rfl
  have modules : project.modules.keys.flatMap (absences project) =
      project.modules.entries.flatMap fun entry => absences project entry.1 := by
    rw [OrderedMap.keys, Entries.keys, List.flatMap_map]
  rw [whole, modules, Project.declarations, List.filterMap_flatMap]
  exact (List.flatMap_append_perm _ _ _).symm

/-- The text of a remark begins with what the lines about the entity begin with. -/
theorem remarkOn?_eq_some_iff
    {remark : Bool × String} :
    remarkOn? project d = some remark ↔
      ∃ reason, project.classify d = .error reason ∧ reason ≠ .notARequest ∧
        remark = (reason.isMalformed, address d ++ reason.message) := by
  unfold remarkOn? remark?
  cases classified : project.classify d with
  | ok h => simp
  | error reason =>
      by_cases same : reason = .notARequest
      · simp [same]
      · simp [same, address, eq_comm]

/-- The lines about an entity are about no other one, whatever else they say. -/
theorem id_eq_of_concerns
    (accepted : project.Accepted)
    (declared : d ∈ project.declarations)
    (declared' : e ∈ project.declarations)
    {rest : String}
    (about : concerns d (address e ++ rest) = true) :
    e.id = d.id := by
  have names : ∀ x ∈ project.declarations, '.' ∉ x.module.toList ∧ ':' ∉ x.name.toList := by
    intro x known
    obtain ⟨entry, member, among⟩ := Project.mem_declarations.1 known
    rw [(Manifest.mem_declarationsOf.1 among).1]
    exact ⟨Naming.dot_not_mem (accepted.modules entry member).1,
      Naming.colon_not_mem (accepted.isName known)⟩
  obtain ⟨noDot, noColon⟩ := names d declared
  obtain ⟨noDot', noColon'⟩ := names e declared'
  obtain ⟨more, same⟩ := List.isPrefixOf_iff_prefix.1 about
  have shape : d.module.toList ++ '.' :: (d.name.toList ++ ':' :: ' ' :: more) =
      e.module.toList ++ '.' :: (e.name.toList ++ ':' :: ' ' :: rest.toList) := by
    simpa [address] using same
  -- both sides are cut at the first dot, and what is behind it at the first colon
  have atDot := congrArg (cutAt? '.') shape
  rw [cutAt?_append noDot, cutAt?_append noDot'] at atDot
  obtain ⟨modules, behind⟩ := Prod.mk.inj (Option.some.inj atDot)
  have atColon := congrArg (cutAt? ':') behind
  rw [cutAt?_append noColon, cutAt?_append noColon'] at atColon
  obtain ⟨entities, -⟩ := Prod.mk.inj (Option.some.inj atColon)
  exact Prod.ext (String.toList_inj.1 modules.symm) (String.toList_inj.1 entities.symm)

/-- What is told about a module as a whole is about no entity. -/
theorem concerns_absence
    {entry : String × Manifest.Module}
    (accepted : project.Accepted)
    (member : entry ∈ project.modules.entries) :
    concerns d (absence entry.1) = false := by
  rw [Bool.eq_false_iff]
  intro about
  have dot : '.' ∈ (absence entry.1).toList :=
    (List.isPrefixOf_iff_prefix.1 about).subset (by simp [address])
  have noDot := Naming.dot_not_mem (accepted.modules entry member).1
  simp [absence, noDot] at dot

/-- Among all that is told, a test that only lines about one entity pass is passed by what is told about
that entity, if anything. -/
theorem countP_remarks
    {q : Bool × String → Bool}
    (accepted : project.Accepted)
    (declared : d ∈ project.declarations)
    (about : ∀ remark, q remark = true → concerns d remark.2 = true) :
    (project.modules.keys.flatMap (moduleRemarks project)).countP q =
      (if (remarkOn? project d).any q then 1 else 0) := by
  have apart : (project.modules.keys.flatMap (absences project)).countP q = 0 := by
    refine List.countP_eq_zero.2 fun remark told passes => ?_
    obtain ⟨module, known, told⟩ := List.mem_flatMap.1 told
    obtain ⟨entry, member, rfl⟩ := List.mem_map.1 known
    unfold absences at told
    split at told
    · obtain rfl := List.mem_singleton.1 told
      have line := about _ passes
      rw [concerns_absence accepted member] at line
      cases line
    · cases told
  have own : (project.declarations.filterMap (remarkOn? project)).countP q =
      project.declarations.countP fun e => (remarkOn? project e).any q := by
    rw [List.countP_filterMap]
    refine List.countP_congr fun e _ => ?_
    cases remarkOn? project e <;> simp
  rw [(perm_remarks project).countP_eq, List.countP_append, apart, own, Nat.add_zero]
  refine Manifest.countP_of_unique project.nodup_ids_declarations declared fun e known passes => ?_
  obtain ⟨remark, told, passes⟩ := Option.any_eq_true _ _ |>.1 passes
  obtain ⟨reason, -, -, rfl⟩ := remarkOn?_eq_some_iff.1 told
  have line : concerns d (address e ++ reason.message) = true :=
    about (reason.isMalformed, address e ++ reason.message) passes
  exact id_eq_of_concerns accepted declared known line

/-- The number of warnings about an entity. -/
def warned
    (r : CheckReport)
    (d : Declaration) : Nat :=
  r.warnings.countP (concerns d)

/-- The number of other lines about an entity. -/
def informed
    (r : CheckReport)
    (d : Declaration) : Nat :=
  r.infos.countP (concerns d)

theorem concerns_address
    (d : Declaration)
    (rest : String) :
    concerns d (address d ++ rest) = true := by
  simp [concerns, List.isPrefixOf_iff_prefix]

/-- What is told about an entity concerns it. -/
theorem any_remarkOn?
    {q : Bool → Bool} :
    ((remarkOn? project d).any fun remark => concerns d remark.2 && q remark.1) =
      (remarkOn? project d).any fun remark => q remark.1 := by
  cases told : remarkOn? project d with
  | none => rfl
  | some remark =>
      obtain ⟨reason, -, -, rfl⟩ := remarkOn?_eq_some_iff.1 told
      simp [concerns_address]

/-- There is one warning about an entity if the remark on it is one, and none otherwise. -/
theorem warned_eq
    (accepted : project.Accepted)
    (declared : d ∈ project.declarations) :
    (ofProject project config).warned d =
      (if (remarkOn? project d).any fun remark => remark.1 then 1 else 0) := by
  rw [warned, ofProject, List.countP_map, List.countP_filter,
    ← any_remarkOn? (q := fun isWarning => isWarning)]
  exact countP_remarks accepted declared fun remark passes => (Bool.and_eq_true_iff.1 passes).1

/-- There is one other line about an entity if the remark on it is no warning, and none otherwise. -/
theorem informed_eq
    (accepted : project.Accepted)
    (declared : d ∈ project.declarations) :
    (ofProject project config).informed d =
      (if (remarkOn? project d).any fun remark => !remark.1 then 1 else 0) := by
  rw [informed, ofProject, List.countP_map, List.countP_filter, ← any_remarkOn? (q := Bool.not)]
  exact countP_remarks accepted declared fun remark passes => (Bool.and_eq_true_iff.1 passes).1

end Remarks

/-- A report accounts for an entity: a request is handled, warned about or remarked on, once in all, and
nothing else is mentioned. -/
structure AccountsFor
    (r : CheckReport)
    (d : Declaration) : Prop where
  once : d.entity.kind = .request → r.project.handled d + r.warned d + r.informed d = 1
  never : d.entity.kind ≠ .request →
    r.project.handled d = 0 ∧ r.warned d = 0 ∧ r.informed d = 0
  warned_iff : r.warned d = 1 ↔
    d.entity.kind = .request ∧ d.entity.isAbstract = false ∧
      (d.entity.httpMethod? = none ∨ r.project.response? d = none)
  informed_iff : r.informed d = 1 ↔ d.entity.kind = .request ∧ d.entity.isAbstract = true

/-- A report accounts for every entity, and has no lines besides those about requests and those about
modules without handlers. -/
structure Accounts (r : CheckReport) : Prop where
  entities : ∀ d ∈ r.project.declarations, r.AccountsFor d
  warnings : ∀ line ∈ r.warnings, ∃ d ∈ r.project.declarations, ∃ reason,
    r.project.classify d = .error reason ∧ reason.isMalformed = true ∧
      line = address d ++ reason.message
  infos : ∀ line ∈ r.infos,
    (∃ d ∈ r.project.declarations,
      r.project.classify d = .error .abstract ∧ line = address d ++ SkipReason.abstract.message) ∨
        ∃ module ∈ r.project.modules.keys,
          r.project.handlers module = [] ∧ line = absence module

section Accounting

variable {project : Project} {d : Declaration} {config : Path}

/-- The check of an accepted project accounts for each of its entities. -/
theorem accountsFor_of_declared
    (accepted : project.Accepted)
    (declared : d ∈ project.declarations) :
    (ofProject project config).AccountsFor d := by
  have handled : project.handled d = _ := Project.handled_eq declared
  have warned : (ofProject project config).warned d = _ := warned_eq accepted declared
  have informed : (ofProject project config).informed d = _ := informed_eq accepted declared
  have same : (ofProject project config).project = project := rfl
  -- what an entity is classified as settles all three numbers
  rcases project.classify_cases d with
    ⟨kind, classified⟩ | ⟨kind, isAbstract, classified⟩ | ⟨kind, isAbstract, method, classified⟩ |
    ⟨kind, isAbstract, method, response, classified⟩ |
    ⟨kind, isAbstract, method, response, h, classified⟩
  all_goals
    simp only [remarkOn?, remark?, classified, Except.isOk, Except.toBool, SkipReason.isMalformed]
      at handled warned informed
    constructor <;> simp_all

/-- Everything that is told is about an entity that is left out, or about a module without handlers. -/
theorem mem_remarks
    {remark : Bool × String}
    (told : remark ∈ project.modules.keys.flatMap (moduleRemarks project)) :
    (∃ d ∈ project.declarations, ∃ reason, project.classify d = .error reason ∧
        reason ≠ .notARequest ∧ remark = (reason.isMalformed, address d ++ reason.message)) ∨
      ∃ module ∈ project.modules.keys,
        project.handlers module = [] ∧ remark = (false, absence module) := by
  rcases List.mem_append.1 ((perm_remarks project).mem_iff.1 told) with entity | whole
  · obtain ⟨d, declared, told⟩ := List.mem_filterMap.1 entity
    exact .inl ⟨d, declared, remarkOn?_eq_some_iff.1 told⟩
  · obtain ⟨module, known, told⟩ := List.mem_flatMap.1 whole
    unfold absences at told
    split at told
    · next empty =>
        exact .inr ⟨module, known, List.isEmpty_iff.1 empty, List.mem_singleton.1 told⟩
    · cases told

/-- The check of an accepted project accounts for all of its entities. -/
theorem accounts_ofProject
    (accepted : project.Accepted)
    (config : Path) :
    (ofProject project config).Accounts where
  entities _ declared := accountsFor_of_declared accepted declared
  warnings line told := by
    obtain ⟨remark, among, rfl⟩ := List.mem_map.1 told
    obtain ⟨told, isWarning⟩ := List.mem_filter.1 among
    rcases mem_remarks told with ⟨d, declared, reason, classified, -, rfl⟩ | ⟨_, _, _, rfl⟩
    · exact ⟨d, declared, reason, classified, isWarning, rfl⟩
    · cases isWarning
  infos line told := by
    obtain ⟨remark, among, rfl⟩ := List.mem_map.1 told
    obtain ⟨told, noWarning⟩ := List.mem_filter.1 among
    rcases mem_remarks told with ⟨d, declared, reason, classified, request, rfl⟩ |
      ⟨module, known, empty, rfl⟩
    · cases reason with
      | abstract => exact .inl ⟨d, declared, classified, rfl⟩
      | notARequest => exact absurd rfl request
      | unresolvedMethod text => cases noWarning
      | unresolvedResponse text => cases noWarning
    · exact .inr ⟨module, known, empty, rfl⟩

end Accounting

end CheckReport
end Scaffold
