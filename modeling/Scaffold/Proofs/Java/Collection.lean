import Mathlib.Data.List.Perm.Subperm
import Mathlib.Logic.Relation
import Scaffold.Proofs.Java.Building
import Scaffold.Proofs.Manifest.Declarations

/-!
# Collecting model classes

The entities that a mock response may mention are collected in rounds, each of which adds what the
members found so far refer to.  A round that adds nothing ends the search, and one that adds something
finds one more entity of the project, so as many rounds as there are entities are enough.

The main statements are that the entities that are collected are exactly those that can be reached
from the response along direct references, and that a mock response mentions only classes of these.
-/

namespace Scaffold
namespace Java

open Manifest (Declaration FieldType Project)
open Relation (ReflTransGen)

/-- The class that a statement mentions by its simple name. -/
def Statement.mentioned? : Statement → Option String
  | create className _ => some className
  | set _ _ (.constant className _) => some className
  | _ => none

namespace Mock

/-- A field of the first entity, which is data, refers directly to the second. -/
def Refers
    (project : Project)
    (d e : Declaration) : Prop :=
  d.entity.kind = .data ∧
    ∃ field reference, (field, FieldType.ref reference) ∈ d.entity.fields.entries ∧
      project.resolve? d.module reference = some e

section Collecting

variable {project : Project} {d e : Declaration} {seen found : List Declaration}

theorem mem_referred :
    e ∈ referred project d ↔ Refers project d e := by
  unfold referred Refers
  split
  · next kind =>
      simp only [OrderedMap.values, kind, true_and, List.mem_filterMap, List.mem_map]
      constructor
      · rintro ⟨type, ⟨⟨field, type'⟩, member, rfl⟩, resolved⟩
        cases type' with
        | ref reference => exact ⟨field, reference, member, resolved⟩
        | _ => cases resolved
      · rintro ⟨field, reference, member, resolved⟩
        exact ⟨.ref reference, ⟨_, member, rfl⟩, resolved⟩
  · next kind => simp [kind]

theorem Refers.mem_declarations (h : Refers project d e) : e ∈ project.declarations := by
  obtain ⟨-, _, _, _, resolved⟩ := h
  exact Project.mem_declarations_of_resolve resolved

/-- What has been seen stays in front of what is added. -/
theorem prefix_foldl_addOnce (seen found : List Declaration) :
    seen <+: found.foldl addOnce seen := by
  induction found generalizing seen with
  | nil => exact List.prefix_rfl
  | cons d found ih =>
      refine List.IsPrefix.trans ?_ (ih (addOnce seen d))
      unfold addOnce
      split
      · exact List.prefix_rfl
      · exact List.prefix_append _ _

/-- Adding what has been seen changes nothing. -/
theorem foldl_addOnce_of_subset
    (known : found ⊆ seen) :
    found.foldl addOnce seen = seen := by
  induction found with
  | nil => rfl
  | cons d found ih =>
      obtain ⟨isSeen, known⟩ := List.cons_subset.1 known
      have stays : addOnce seen d = seen := if_pos (List.any_eq_true.2 ⟨d, isSeen, by simp⟩)
      rw [List.foldl_cons, stays, ih known]

/-- Entities of a project, none of them twice. -/
structure Gathered
    (project : Project)
    (seen : List Declaration) : Prop where
  within : seen ⊆ project.declarations
  distinct : (seen.map Declaration.id).Nodup

namespace Gathered

theorem single (declared : d ∈ project.declarations) : Gathered project [d] where
  within := by simpa using declared
  distinct := List.nodup_singleton _

theorem mem_addOnce
    (h : Gathered project seen)
    (declared : d ∈ project.declarations) :
    e ∈ addOnce seen d ↔ e ∈ seen ∨ e = d := by
  unfold addOnce
  split
  · next known =>
      obtain ⟨x, member, same⟩ := List.any_eq_true.1 known
      have isSeen : d ∈ seen :=
        Project.eq_of_id_eq (h.within member) declared (by simpa using same) ▸ member
      constructor
      · exact .inl
      · rintro (member | rfl)
        · exact member
        · exact isSeen
  · simp

theorem addOnce
    (h : Gathered project seen)
    (declared : d ∈ project.declarations) :
    Gathered project (addOnce seen d) where
  within := by
    intro x member
    rcases (h.mem_addOnce declared).1 member with member | rfl
    · exact h.within member
    · exact declared
  distinct := by
    unfold Mock.addOnce
    split
    · exact h.distinct
    · next unknown =>
        rw [List.map_append]
        refine h.distinct.append (List.nodup_singleton _) ?_
        intro id member isLast
        obtain ⟨x, isSeen, rfl⟩ := List.mem_map.1 member
        have same : x.id = d.id := by simpa using isLast
        exact unknown (List.any_eq_true.2 ⟨x, isSeen, by simp [same]⟩)

theorem foldl_addOnce
    (h : Gathered project seen)
    (declared : found ⊆ project.declarations) :
    Gathered project (found.foldl Mock.addOnce seen) ∧
      ∀ e, e ∈ found.foldl Mock.addOnce seen ↔ e ∈ seen ∨ e ∈ found := by
  induction found generalizing seen with
  | nil => exact ⟨h, by simp⟩
  | cons d found ih =>
      obtain ⟨isDeclared, declared⟩ := List.cons_subset.1 declared
      obtain ⟨gathered, members⟩ := ih (h.addOnce isDeclared) declared
      refine ⟨gathered, fun e => ?_⟩
      rw [List.foldl_cons, members, h.mem_addOnce isDeclared, List.mem_cons, or_assoc]

/-- As many entities as the project has are all of them. -/
theorem declarations_subset
    (h : Gathered project seen)
    (enough : project.declarations.length ≤ seen.length) :
    project.declarations ⊆ seen := by
  have distinct : seen.Nodup := h.distinct.of_map Declaration.id
  exact ((List.subperm_of_subset distinct h.within).perm_of_length_le enough).symm.subset

end Gathered

/-- The entities seen after one more round. -/
def round
    (project : Project)
    (seen : List Declaration) : List Declaration :=
  (seen.flatMap (referred project)).foldl addOnce seen

theorem spread_succ
    (rounds : Nat)
    (seen : List Declaration) :
    spread project (rounds + 1) seen = spread project rounds (round project seen) :=
  rfl

theorem mem_flatMap_referred :
    e ∈ seen.flatMap (referred project) ↔ ∃ d ∈ seen, Refers project d e := by
  simp only [List.mem_flatMap, mem_referred]

/-- One round adds what the entities seen so far refer to. -/
theorem Gathered.round
    (h : Gathered project seen) :
    Gathered project (round project seen) ∧
      ∀ e, e ∈ Mock.round project seen ↔ e ∈ seen ∨ ∃ d ∈ seen, Refers project d e := by
  have declared : seen.flatMap (referred project) ⊆ project.declarations := by
    intro e found
    obtain ⟨d, -, refers⟩ := mem_flatMap_referred.1 found
    exact refers.mem_declarations
  obtain ⟨gathered, members⟩ := h.foldl_addOnce declared
  exact ⟨gathered, fun e => (members e).trans (or_congr_right mem_flatMap_referred)⟩

/-- Nothing that a member refers to is missing. -/
def Closed
    (project : Project)
    (seen : List Declaration) : Prop :=
  ∀ d ∈ seen, ∀ e, Refers project d e → e ∈ seen

/-- Once nothing is missing, all further rounds add nothing. -/
theorem Closed.spread_eq
    (h : Closed project seen)
    (rounds : Nat) :
    spread project rounds seen = seen := by
  have stays : round project seen = seen := by
    refine foldl_addOnce_of_subset fun e found => ?_
    obtain ⟨d, isSeen, refers⟩ := mem_flatMap_referred.1 found
    exact h d isSeen e refers
  induction rounds with
  | zero => rfl
  | succ rounds ih => rw [spread_succ, stays, ih]

/-- A round in front of which something is missing finds a new entity. -/
theorem Gathered.length_lt_round
    (h : Gathered project seen)
    (missing : ¬ Closed project seen) :
    seen.length < (Mock.round project seen).length := by
  have kept : seen <+: Mock.round project seen := prefix_foldl_addOnce _ _
  refine Nat.lt_of_le_of_ne kept.length_le fun same => missing fun d isSeen e refers => ?_
  rw [kept.eq_of_length same]
  exact (h.round.2 e).2 (.inr ⟨d, isSeen, refers⟩)

/-- With as many rounds as there are entities left, nothing is missing at the end. -/
theorem Gathered.closed_spread
    (h : Gathered project seen)
    (rounds : Nat)
    (enough : project.declarations.length ≤ seen.length + rounds) :
    Closed project (spread project rounds seen) := by
  induction rounds generalizing seen with
  | zero => exact fun _ _ e refers => h.declarations_subset enough refers.mem_declarations
  | succ rounds ih =>
      by_cases closed : Closed project seen
      · rwa [closed.spread_eq]
      · -- one round less is left, and one more entity is found
        have grows := h.length_lt_round closed
        rw [spread_succ]
        exact ih h.round.1 (by omega)

/-- What is collected can be reached from what was there before. -/
theorem Gathered.exists_path_of_mem_spread
    (h : Gathered project seen)
    (rounds : Nat)
    (found : e ∈ spread project rounds seen) :
    ∃ d ∈ seen, ReflTransGen (Refers project) d e := by
  induction rounds generalizing seen with
  | zero => exact ⟨e, found, .refl⟩
  | succ rounds ih =>
      obtain ⟨d, inRound, path⟩ := ih h.round.1 found
      rcases (h.round.2 d).1 inRound with isSeen | ⟨x, isSeen, refers⟩
      · exact ⟨d, isSeen, path⟩
      · exact ⟨x, isSeen, path.head refers⟩

theorem subset_spread
    (rounds : Nat)
    (seen : List Declaration) :
    seen ⊆ spread project rounds seen := by
  induction rounds generalizing seen with
  | zero => exact List.Subset.refl _
  | succ rounds ih => exact List.Subset.trans (prefix_foldl_addOnce _ _).subset (ih _)

end Collecting

section Reaching

variable {project : Project} {module reference : String} {d e : Declaration}

/-- What is collected for a response is what can be reached from it. -/
theorem mem_reachable_iff :
    e ∈ reachable project module reference ↔
      ∃ target, project.resolve? module reference = some target ∧
        ReflTransGen (Refers project) target e := by
  unfold reachable
  cases resolved : project.resolve? module reference with
  | none => simp
  | some target =>
      have gathered := Gathered.single (Project.mem_declarations_of_resolve resolved)
      simp only [Option.some.injEq, exists_eq_left']
      constructor
      · intro found
        obtain ⟨d, isTarget, path⟩ := gathered.exists_path_of_mem_spread _ found
        rwa [List.mem_singleton.1 isTarget] at path
      · intro path
        have closed := gathered.closed_spread project.declarations.length (by simp)
        induction path with
        | refl => exact subset_spread _ _ List.mem_cons_self
        | tail _ refers ih => exact closed _ ih _ refers

/-- What can be reached from a response is declared. -/
theorem mem_declarations_of_path
    (resolved : project.resolve? module reference = some d)
    (path : ReflTransGen (Refers project) d e) :
    e ∈ project.declarations := by
  cases path with
  | refl => exact Project.mem_declarations_of_resolve resolved
  | tail _ refers => exact refers.mem_declarations

/-- The collected classes are those of the entities that can be reached. -/
theorem mem_models_iff
    {className : String} :
    className ∈ models project module reference ↔
      ∃ target d, project.resolve? module reference = some target ∧
        ReflTransGen (Refers project) target d ∧ Naming.className d.name = className := by
  unfold models
  simp only [NameSet.mem_names_ofList, List.mem_map, mem_reachable_iff]
  constructor
  · rintro ⟨d, ⟨target, resolved, path⟩, named⟩
    exact ⟨target, d, resolved, path, named⟩
  · rintro ⟨target, d, resolved, path, named⟩
    exact ⟨d, ⟨target, resolved, path⟩, named⟩

end Reaching

section Mentioning

variable {project : Project} {before after : Bench} {o : Object}
  {fields : List (String × FieldType)} {statements : List Statement} {module reference : String}

/-- Whatever the statements mention is the class of an entity that can be reached from the first. -/
def MentionsWithin
    (project : Project)
    (d : Declaration)
    (statements : List Statement) : Prop :=
  ∀ st ∈ statements, ∀ className, st.mentioned? = some className →
    ∃ e, ReflTransGen (Refers project) d e ∧ Naming.className e.name = className

namespace MentionsWithin

variable {d e : Declaration} {st : Statement} {later : List Statement}

theorem nil : MentionsWithin project d [] :=
  fun _ member => nomatch member

theorem append
    (first : MentionsWithin project d statements)
    (second : MentionsWithin project d later) :
    MentionsWithin project d (statements ++ later) :=
  List.forall_mem_append.2 ⟨first, second⟩

/-- A statement that mentions nothing goes in front of any others. -/
theorem cons
    (silent : st.mentioned? = none)
    (later : MentionsWithin project d statements) :
    MentionsWithin project d (st :: statements) :=
  List.forall_mem_cons.2 ⟨fun _ mentions => by simp [silent] at mentions, later⟩

/-- What is mentioned on the way from an entity further on is mentioned on the way from here. -/
theorem head
    (refers : Refers project d e)
    (h : MentionsWithin project e statements) :
    MentionsWithin project d statements := by
  intro st member className mentions
  obtain ⟨x, path, named⟩ := h st member className mentions
  exact ⟨x, path.head refers, named⟩

/-- The creation of an object mentions the class of its entity. -/
theorem creation
    (h : MentionsWithin project o.declaration statements) :
    MentionsWithin project o.declaration (o.creation :: statements) := by
  refine List.forall_mem_cons.2 ⟨fun className mentions => ?_, h⟩
  exact ⟨o.declaration, .refl, Option.some.inj mentions⟩

/-- A constant mentions the class of its enumeration. -/
theorem constant
    {name field : String}
    (refers : Refers project d e)
    (h : MentionsWithin project d statements) :
    MentionsWithin project d (.set name field (constantOf e) :: statements) := by
  refine List.forall_mem_cons.2 ⟨fun className mentions => ?_, h⟩
  unfold constantOf at mentions
  split at mentions
  · exact ⟨e, .single refers, Option.some.inj mentions⟩
  · cases mentions

end MentionsWithin

end Mentioning

end Mock
end Java
end Scaffold
