import Mathlib.Data.List.Sort
import Scaffold.Proofs.Java.Collection
import Scaffold.Proofs.Text.ByteOrder

/-!
# Collecting by depth-first search

The classes that a mock response may mention can be collected by one depth-first search: an entity that
has not been seen is entered, what its fields refer to is visited, and then the search goes on with what
was pending besides.  All visits share the set of the entities that have been seen.  This is described as
a relation between the trail before a visit, the entities that are pending and the trail after it.

A visit ends, since fewer entities are left to see whenever one is entered, also where references go in
a circle.  What it enters can be reached from what was pending, and whatever an entered entity refers to
has been seen in the end; so nothing that can be reached is missing.

The main statement is that the search finds the same classes as collecting in rounds, which are those of
the entities that can be reached, each of them once and in the order of bytes.
-/

namespace Scaffold
namespace Java
namespace Mock

open Manifest (Declaration EntityId Project)
open Relation (ReflTransGen)

/-- The entities that a search has seen, and the classes that it has collected. -/
structure Trail where
  seen : List EntityId
  models : NameSet

namespace Trail

/-- The trail on which nothing has been seen. -/
def empty : Trail := ⟨[], .empty⟩

/-- The trail when an entity has been entered. -/
def enter
    (t : Trail)
    (d : Declaration) : Trail :=
  ⟨d.id :: t.seen, t.models.insert (Naming.className d.name)⟩

end Trail

/--
`Visits project before pending after`: visiting the entities `pending` one after the other, each with all
that it leads to, changes the trail from `before` to `after`.
-/
inductive Visits (project : Project) : Trail → List Declaration → Trail → Prop
  | done
      {trail : Trail} :
      Visits project trail [] trail
  | known
      {before after : Trail}
      {d : Declaration}
      {rest : List Declaration}
      (isSeen : d.id ∈ before.seen)
      (later : Visits project before rest after) :
      Visits project before (d :: rest) after
  | entered
      {before between after : Trail}
      {d : Declaration}
      {rest : List Declaration}
      (unseen : d.id ∉ before.seen)
      (inside : Visits project (before.enter d) (referred project d) between)
      (later : Visits project between rest after) :
      Visits project before (d :: rest) after

section Entering

variable {found : List Declaration} {t : Trail}

theorem mem_seen_enterAll
    {id : EntityId} :
    id ∈ (found.foldl Trail.enter t).seen ↔ id ∈ t.seen ∨ ∃ d ∈ found, d.id = id := by
  induction found generalizing t with
  | nil => simp
  | cons d found ih =>
      rw [List.foldl_cons, ih]
      simp [Trail.enter, or_assoc, or_left_comm, eq_comm]

/-- The classes on a trail are those of the entities that were entered, besides those from before. -/
theorem mem_models_enterAll
    {className : String} :
    className ∈ (found.foldl Trail.enter t).models.names ↔
      className ∈ t.models.names ∨ ∃ d ∈ found, Naming.className d.name = className := by
  induction found generalizing t with
  | nil => simp
  | cons d found ih =>
      rw [List.foldl_cons, ih]
      simp [Trail.enter, NameSet.mem_names_insert, or_assoc, or_left_comm, eq_comm]

end Entering

/-- What a visit does: the entities that it enters, in order, can be reached from what was pending; in
the end all that was pending has been seen, and all that an entered entity refers to. -/
structure Finds
    (project : Project)
    (before : Trail)
    (pending found : List Declaration)
    (after : Trail) : Prop where
  after_eq : after = found.foldl Trail.enter before
  reached : ∀ d ∈ found, ∃ p ∈ pending, ReflTransGen (Refers project) p d
  pendingSeen : ∀ d ∈ pending, d.id ∈ after.seen
  referredSeen : ∀ d ∈ found, ∀ e, Refers project d e → e.id ∈ after.seen

namespace Finds

variable {project : Project} {before between after : Trail} {d : Declaration}
  {pending rest found inside later : List Declaration}

/-- What has been seen stays seen. -/
theorem seen_subset (h : Finds project before pending found after) : before.seen ⊆ after.seen := by
  intro id isSeen
  rw [h.after_eq]
  exact mem_seen_enterAll.2 (.inl isSeen)

theorem known
    (isSeen : d.id ∈ before.seen)
    (h : Finds project before rest found after) :
    Finds project before (d :: rest) found after where
  after_eq := h.after_eq
  reached := by
    intro e entered
    obtain ⟨p, isPending, path⟩ := h.reached e entered
    exact ⟨p, List.mem_cons_of_mem _ isPending, path⟩
  pendingSeen := List.forall_mem_cons.2 ⟨h.seen_subset isSeen, h.pendingSeen⟩
  referredSeen := h.referredSeen

/-- Entering an entity finds it, what is found inside, and what is found later. -/
theorem entered
    (first : Finds project (before.enter d) (referred project d) inside between)
    (second : Finds project between rest later after) :
    Finds project before (d :: rest) (d :: (inside ++ later)) after where
  after_eq := by
    rw [second.after_eq, first.after_eq, List.foldl_cons, List.foldl_append]
  reached := by
    refine List.forall_mem_cons.2 ⟨⟨d, List.mem_cons_self, .refl⟩, List.forall_mem_append.2 ⟨?_, ?_⟩⟩
    · intro e entered
      obtain ⟨p, isReferred, path⟩ := first.reached e entered
      exact ⟨d, List.mem_cons_self, path.head (mem_referred.1 isReferred)⟩
    · intro e entered
      obtain ⟨p, isPending, path⟩ := second.reached e entered
      exact ⟨p, List.mem_cons_of_mem _ isPending, path⟩
  pendingSeen := by
    refine List.forall_mem_cons.2 ⟨?_, second.pendingSeen⟩
    exact second.seen_subset (first.seen_subset List.mem_cons_self)
  referredSeen := by
    refine List.forall_mem_cons.2 ⟨fun e refers => ?_, List.forall_mem_append.2 ⟨?_, ?_⟩⟩
    · exact second.seen_subset (first.pendingSeen e (mem_referred.2 refers))
    · exact fun x entered e refers => second.seen_subset (first.referredSeen x entered e refers)
    · exact second.referredSeen

end Finds

section Searching

variable {project : Project} {before after other : Trail} {pending : List Declaration}

theorem Visits.exists_finds
    (h : Visits project before pending after) :
    ∃ found, Finds project before pending found after := by
  induction h with
  | done => exact ⟨[], rfl, by simp, by simp, by simp⟩
  | known isSeen _ ih =>
      obtain ⟨found, finds⟩ := ih
      exact ⟨found, finds.known isSeen⟩
  | entered _ _ _ ihInside ihLater =>
      obtain ⟨inside, first⟩ := ihInside
      obtain ⟨later, second⟩ := ihLater
      exact ⟨_, first.entered second⟩

/-- The more has been seen, the fewer entities are left. -/
theorem idle_le_of_subset
    {seen more : List EntityId}
    (subset : seen ⊆ more) :
    idle project more ≤ idle project seen := by
  refine (List.monotone_filter_right _ fun d => ?_).length_le
  simpa using fun unseen => mt (@subset d.id) unseen

/-- Every visit comes to an end. -/
theorem exists_visits
    (declared : pending ⊆ project.declarations)
    (before : Trail) :
    ∃ after, Visits project before pending after := by
  -- on the entities that have not been seen, and on those that are pending
  induction bound : idle project before.seen using Nat.strongRecOn generalizing before pending with
  | _ n inwards =>
      induction pending with
      | nil => exact ⟨before, .done⟩
      | cons d rest onwards =>
          obtain ⟨isDeclared, others⟩ := List.cons_subset.1 declared
          by_cases isSeen : d.id ∈ before.seen
          · obtain ⟨after, later⟩ := onwards others
            exact ⟨after, .known isSeen later⟩
          · have fewer : idle project (before.enter d).seen < n :=
              bound ▸ idle_cons_lt isDeclared (by simpa using isSeen)
            have within : referred project d ⊆ project.declarations := fun e isReferred =>
              (mem_referred.1 isReferred).mem_declarations
            obtain ⟨between, inside⟩ := inwards _ fewer within (before.enter d) rfl
            -- what is entered inside has been seen later on
            obtain ⟨_, finds⟩ := inside.exists_finds
            have still : idle project between.seen < n :=
              Nat.lt_of_le_of_lt (idle_le_of_subset finds.seen_subset) fewer
            obtain ⟨after, later⟩ := inwards _ still others between rfl
            exact ⟨after, .entered isSeen inside later⟩

/-- A visit can be made in one way only. -/
theorem Visits.unique
    (h : Visits project before pending after)
    (h' : Visits project before pending other) :
    after = other := by
  induction h generalizing other with
  | done =>
      cases h'
      rfl
  | known isSeen _ ih =>
      cases h' with
      | known _ later => exact ih later
      | entered unseen _ _ => exact absurd isSeen unseen
  | entered unseen _ _ ihInside ihLater =>
      cases h' with
      | known isSeen _ => exact absurd isSeen unseen
      | entered _ inside later =>
          obtain rfl := ihInside inside
          exact ihLater later

end Searching

section Collected

variable {project : Project} {module reference : String} {found : List Declaration} {after : Trail}
  {d : Declaration}

/-- A search that starts from a response enters what can be reached from it. -/
theorem Finds.mem_found_iff
    (h : Finds project .empty (project.resolve? module reference).toList found after) :
    d ∈ found ↔ ∃ target, project.resolve? module reference = some target ∧
      ReflTransGen (Refers project) target d := by
  have reached : ∀ d ∈ found, ∃ target, project.resolve? module reference = some target ∧
      ReflTransGen (Refers project) target d := by
    intro d entered
    obtain ⟨target, isPending, path⟩ := h.reached d entered
    exact ⟨target, Option.mem_toList.1 isPending, path⟩
  -- what has been seen has been entered, as nothing had been seen before
  have entered : ∀ d ∈ project.declarations, d.id ∈ after.seen → d ∈ found := by
    intro d declared isSeen
    rw [h.after_eq] at isSeen
    obtain ⟨e, entered, same⟩ := (mem_seen_enterAll.1 isSeen).resolve_left List.not_mem_nil
    obtain ⟨target, resolved, path⟩ := reached e entered
    exact Project.eq_of_id_eq (mem_declarations_of_path resolved path) declared same ▸ entered
  refine ⟨reached d, ?_⟩
  rintro ⟨target, resolved, path⟩
  induction path with
  | refl =>
      exact entered _ (Project.mem_declarations_of_resolve resolved)
        (h.pendingSeen _ (Option.mem_toList.2 resolved))
  | tail _ refers ih => exact entered _ refers.mem_declarations (h.referredSeen _ ih _ refers)

/-- The search collects the same classes as the rounds. -/
theorem Visits.models_eq
    (h : Visits project .empty (project.resolve? module reference).toList after) :
    after.models.names = models project module reference := by
  obtain ⟨found, finds⟩ := h.exists_finds
  have members : ∀ className, className ∈ after.models.names ↔
      className ∈ models project module reference := by
    intro className
    rw [finds.after_eq, mem_models_enterAll, mem_models_iff]
    simp only [finds.mem_found_iff, Trail.empty, NameSet.empty, List.not_mem_nil, false_or]
    constructor
    · rintro ⟨d, ⟨target, resolved, path⟩, named⟩
      exact ⟨target, d, resolved, path, named⟩
    · rintro ⟨target, d, resolved, path, named⟩
      exact ⟨d, ⟨target, resolved, path⟩, named⟩
  -- both are lists of distinct names in ascending order
  exact (NameSet.ascending _).eq_of_mem_iff (NameSet.ascending _) members

/-- Without a response there is nothing to collect, and a response is collected itself. -/
theorem models_eq_nil_iff :
    models project module reference = [] ↔ project.resolve? module reference = none := by
  rw [List.eq_nil_iff_forall_not_mem]
  simp only [mem_models_iff]
  cases resolved : project.resolve? module reference with
  | none => simp
  | some target => simpa using ⟨target, .refl⟩

/-- Collecting model classes computes what can be reached.

For every project, also one whose references go in a circle, every module and every response, the
depth-first search from what the response resolves to comes to an end, in one way only, with the classes
that are collected.  These stand in strictly ascending order of their bytes, so that none stands there
twice.  They are exactly the classes of the entities that can be reached from the response along the
direct references of data entities, each of which is resolved from the module that declares the entity;
and there are none exactly when the response does not resolve. -/
theorem collection_computes_reachability
    (project : Project)
    (module reference : String) :
    (∃ after, after.models.names = models project module reference ∧
      ∀ trail, Visits project .empty (project.resolve? module reference).toList trail ↔
        trail = after) ∧
      ((models project module reference).map Text.bytes).Pairwise (· < ·) ∧
      (models project module reference).Nodup ∧
      (∀ className, className ∈ models project module reference ↔
        ∃ target d, project.resolve? module reference = some target ∧
          ReflTransGen (Refers project) target d ∧ Naming.className d.name = className) ∧
      (models project module reference = [] ↔ project.resolve? module reference = none) := by
  have ascending : (models project module reference).Pairwise (· < ·) := NameSet.ascending _
  refine ⟨?_, ?_, ?_, fun className => mem_models_iff, models_eq_nil_iff⟩
  · have declared : (project.resolve? module reference).toList ⊆ project.declarations :=
      fun target resolved => Project.mem_declarations_of_resolve (Option.mem_toList.1 resolved)
    obtain ⟨after, search⟩ := exists_visits declared .empty
    exact ⟨after, search.models_eq, fun trail =>
      ⟨fun again => again.unique search, fun same => same ▸ search⟩⟩
  · exact List.pairwise_map.2 (ascending.imp Text.bytes_lt_bytes_iff.2)
  · refine ascending.imp fun less => ?_
    rintro rfl
    exact String.lt_irrefl _ less

/-- A member and an abstract club refer to each other. -/
example :
    models
      { settings := { name := "club" }
        modules := ⟨[("m", { entities := ⟨
          [("Member", { kind := .data, fields := ⟨[("club", .ref "Club")], by decide⟩ }),
           ("Club", {
              kind := .data, isAbstract := true,
              fields := ⟨[("founder", .ref "Member")], by decide⟩ })],
          by decide⟩ })], by decide⟩ } "m" "Member" = ["Club", "Member"] := by
  decide +kernel

end Collected

end Mock
end Java
end Scaffold
