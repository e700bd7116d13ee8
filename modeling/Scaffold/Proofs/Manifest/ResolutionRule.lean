import Scaffold.Proofs.Java.ClassNames

/-!
# What a reference names

A reference names what its own module declares under it.  If the module declares nothing of that name,
a reference with a dot names an entity by its module, which stands before the first dot, and one without
names the entity that a single module declares under it.  This is said here as a relation, and resolving
a reference finds exactly what is related to it.

So resolving depends on which entities are declared and on nothing else, and only on those that can be
reached by the reference: under their own name or behind the name of their module and a dot.
-/

namespace Scaffold
namespace Manifest

open Text

namespace Declaration

/-- The references by which other modules reach an entity. -/
def addresses (d : Declaration) : List String :=
  [d.name, d.module ++ "." ++ d.name]

end Declaration

namespace Project

/-- A module declares an entity under a name. -/
def Declares
    (project : Project)
    (module name : String) : Prop :=
  ∃ d ∈ project.declarations, d.id = (module, name)

/--
`Denotes project module reference d`: seen from `module`, the reference stands for the place at which
`d` is declared.
-/
inductive Denotes (project : Project) (module reference : String) (d : Declaration) : Prop
  | own
      (home : d.id = (module, reference))
  | dotted
      (foreign : ¬ project.Declares module reference)
      (noDot : '.' ∉ d.module.toList)
      (whole : reference = d.module ++ "." ++ d.name)
  | bare
      (foreign : ¬ project.Declares module reference)
      (noDot : '.' ∉ reference.toList)
      (named : d.name = reference)
      (only : ∀ other, project.Declares other reference → other = d.module)

/-- The first project declares what the second does, and one entity besides. -/
def DeclaresBesides
    (wide : Project)
    (added : Declaration)
    (narrow : Project) : Prop :=
  ∀ d, d ∈ wide.declarations ↔ d = added ∨ d ∈ narrow.declarations

/-- Two projects declare the same among the entities that a reference can reach. -/
def AgreeOn
    (first second : Project)
    (reference : String) : Prop :=
  ∀ d : Declaration, reference ∈ d.addresses →
    (d ∈ first.declarations ↔ d ∈ second.declarations)

section Lookup

variable {project : Project} {d : Declaration} {module name reference : String}

/-- A module has under a name what is declared there. -/
theorem declared?_eq_some_iff :
    project.declared? module name = some d ↔
      d ∈ project.declarations ∧ d.id = (module, name) := by
  constructor
  · exact fun found => ⟨mem_declarations_of_declared found, id_of_declared found⟩
  · rintro ⟨declared, id⟩
    obtain ⟨rfl, rfl⟩ := Prod.mk.inj id
    exact declared_self declared

theorem declared?_eq_none_iff :
    project.declared? module name = none ↔ ¬ project.Declares module name := by
  simp [Option.eq_none_iff_forall_ne_some, declared?_eq_some_iff, Declares]

theorem mem_declarationsNamed :
    d ∈ project.declarationsNamed name ↔ d ∈ project.declarations ∧ d.name = name := by
  constructor
  · intro member
    obtain ⟨entry, -, found⟩ := List.mem_filterMap.1 member
    obtain ⟨entity, -, rfl⟩ := Option.map_eq_some_iff.1 found
    exact ⟨mem_declarations_of_named member, rfl⟩
  · rintro ⟨declared, rfl⟩
    obtain ⟨entry, known, among⟩ := mem_declarations.1 declared
    obtain ⟨home, own⟩ := mem_declarationsOf.1 among
    refine List.mem_filterMap.2 ⟨entry, known, ?_⟩
    simp [entry.2.entities.get?_eq_some_iff.2 own, ← home]

/-- No module declares two entities under one name. -/
theorem nodup_declarationsNamed
    (project : Project)
    (name : String) :
    (project.declarationsNamed name).Nodup := by
  have apart : project.modules.entries.Pairwise fun a b => a.1 ≠ b.1 :=
    List.pairwise_map.1 project.modules.distinct
  refine List.pairwise_filterMap.2 (apart.imp ?_)
  intro first second differ d found e found'
  obtain ⟨_, -, rfl⟩ := Option.map_eq_some_iff.1 found
  obtain ⟨_, -, rfl⟩ := Option.map_eq_some_iff.1 found'
  exact fun same => differ (congrArg Declaration.module same)

/-- A name is that of one entity when one module declares it and no other does. -/
theorem declarationsNamed_eq_singleton_iff :
    project.declarationsNamed name = [d] ↔
      d ∈ project.declarations ∧ d.name = name ∧
        ∀ other, project.Declares other name → other = d.module := by
  constructor
  · intro single
    obtain ⟨declared, named⟩ := mem_declarationsNamed.1 (single ▸ List.mem_singleton_self d)
    refine ⟨declared, named, ?_⟩
    rintro other ⟨e, declared', id⟩
    obtain ⟨rfl, named'⟩ := Prod.mk.inj id
    have among := mem_declarationsNamed.2 ⟨declared', named'⟩
    rw [single] at among
    rw [List.mem_singleton.1 among]
  · rintro ⟨declared, named, only⟩
    have all : ∀ e ∈ project.declarationsNamed name, e = d := by
      intro e member
      obtain ⟨declared', named'⟩ := mem_declarationsNamed.1 member
      have home : e.module = d.module := only e.module ⟨e, declared', by rw [← named']; rfl⟩
      exact eq_of_id_eq declared' declared (Prod.ext home (named'.trans named.symm))
    refine List.perm_singleton.1 ((List.perm_ext_iff_of_nodup
      (project.nodup_declarationsNamed name) (List.nodup_singleton d)).2 fun e => ?_)
    rw [List.mem_singleton]
    exact ⟨all e, fun same => mem_declarationsNamed.2 (same ▸ ⟨declared, named⟩)⟩

/-- Outside its own module, a reference names an entity by its module or by its name alone. -/
theorem resolveAbroad?_eq_some_iff :
    project.resolveAbroad? reference = some d ↔
      d ∈ project.declarations ∧
        ('.' ∉ d.module.toList ∧ reference = d.module ++ "." ++ d.name ∨
          '.' ∉ reference.toList ∧ d.name = reference ∧
            ∀ other, project.Declares other reference → other = d.module) := by
  unfold resolveAbroad?
  cases cut : cutAt? '.' reference.toList with
  | some parts =>
      obtain ⟨home, name⟩ := parts
      obtain ⟨absent, whole⟩ := cutAt?_eq_some_iff.1 cut
      rw [declared?_eq_some_iff]
      refine and_congr_right fun declared => ⟨fun id => ?_, ?_⟩
      · obtain ⟨module, named⟩ := Prod.mk.inj id
        refine .inl ⟨by simpa [module] using absent, ?_⟩
        rw [← String.toList_inj]
        simp [module, named, whole]
      · rintro (⟨noDot, same⟩ | ⟨noDot, -⟩)
        · have again : cutAt? '.' reference.toList = some (d.module.toList, d.name.toList) :=
            cutAt?_eq_some_iff.2 ⟨noDot, by simp [same]⟩
          obtain ⟨rfl, rfl⟩ := Prod.mk.inj (Option.some.inj (cut.symm.trans again))
          simp [Declaration.id]
        · exact absurd (by simp [whole]) noDot
  | none =>
      have noDot := cutAt?_eq_none_iff.1 cut
      have noModule : reference ≠ d.module ++ "." ++ d.name := by
        rintro rfl
        exact absurd (by simp) noDot
      have alone : (d ∈ project.declarations ∧
          ('.' ∉ d.module.toList ∧ reference = d.module ++ "." ++ d.name ∨
            '.' ∉ reference.toList ∧ d.name = reference ∧
              ∀ other, project.Declares other reference → other = d.module)) ↔
          project.declarationsNamed reference = [d] := by
        simp only [declarationsNamed_eq_singleton_iff, noModule, noDot, and_false, false_or,
          not_false_eq_true, true_and]
      rw [alone]
      simp only
      split
      · next only found => simp [found]
      · next several =>
          constructor
          · intro same
            cases same
          · exact fun single => absurd single (several d)

/-- Resolving a reference finds the entity that is declared at the place for which it stands. -/
theorem resolve?_eq_some_iff :
    project.resolve? module reference = some d ↔
      d ∈ project.declarations ∧ project.Denotes module reference d := by
  unfold resolve?
  cases local? : project.declared? module reference with
  | some found =>
      obtain ⟨declared, id⟩ := declared?_eq_some_iff.1 local?
      constructor
      · intro same
        cases same
        exact ⟨declared, .own id⟩
      · rintro ⟨declared', denoted⟩
        cases denoted with
        | own home => rw [eq_of_id_eq declared declared' (id.trans home.symm)]
        | dotted foreign => exact absurd ⟨found, declared, id⟩ foreign
        | bare foreign => exact absurd ⟨found, declared, id⟩ foreign
  | none =>
      have foreign := declared?_eq_none_iff.1 local?
      simp only
      rw [resolveAbroad?_eq_some_iff]
      refine and_congr_right fun declared => ⟨?_, fun denoted => ?_⟩
      · rintro (⟨noDot, whole⟩ | ⟨noDot, named, only⟩)
        · exact .dotted foreign noDot whole
        · exact .bare foreign noDot named only
      · cases denoted with
        | own home => exact absurd ⟨d, declared, home⟩ foreign
        | dotted _ noDot whole => exact .inl ⟨noDot, whole⟩
        | bare _ noDot named only => exact .inr ⟨noDot, named, only⟩

end Lookup

section Agreement

variable {project first second : Project} {d : Declaration} {module reference : String}

/-- A reference reaches what it stands for by one of its addresses. -/
theorem Denotes.mem_addresses
    (h : project.Denotes module reference d) :
    reference ∈ d.addresses := by
  cases h with
  | own home => simp [Declaration.addresses, (Prod.mk.inj home).2]
  | dotted _ _ whole => simp [Declaration.addresses, whole]
  | bare _ _ named => simp [Declaration.addresses, named]

namespace AgreeOn

theorem symm
    (h : AgreeOn first second reference) :
    AgreeOn second first reference :=
  fun d reached => (h d reached).symm

theorem declares
    (h : AgreeOn first second reference)
    (declares : first.Declares module reference) :
    second.Declares module reference := by
  obtain ⟨d, declared, id⟩ := declares
  have named : d.name = reference := (Prod.mk.inj id).2
  exact ⟨d, (h d (by simp [Declaration.addresses, named])).1 declared, id⟩

/-- What a reference stands for is read off the entities that it can reach. -/
theorem denotes
    (h : AgreeOn first second reference)
    (denoted : first.Denotes module reference d) :
    second.Denotes module reference d := by
  cases denoted with
  | own home => exact .own home
  | dotted foreign noDot whole =>
      exact .dotted (fun known => foreign (h.symm.declares known)) noDot whole
  | bare foreign noDot named only =>
      exact .bare (fun known => foreign (h.symm.declares known)) noDot named
        fun other known => only other (h.symm.declares known)

/-- Projects that declare the same among the entities that a reference can reach resolve it alike. -/
theorem resolve?_eq
    (h : AgreeOn first second reference)
    (module : String) :
    first.resolve? module reference = second.resolve? module reference := by
  refine Option.ext fun d => ?_
  rw [resolve?_eq_some_iff, resolve?_eq_some_iff]
  constructor
  · rintro ⟨declared, denoted⟩
    exact ⟨(h d denoted.mem_addresses).1 declared, h.denotes denoted⟩
  · rintro ⟨declared, denoted⟩
    exact ⟨(h d denoted.mem_addresses).2 declared, h.symm.denotes denoted⟩

end AgreeOn

/-- A project with one more entity declares the same among those that other references reach. -/
theorem DeclaresBesides.agreeOn
    {wide narrow : Project}
    {added : Declaration}
    (h : wide.DeclaresBesides added narrow)
    (apart : reference ∉ added.addresses) :
    AgreeOn wide narrow reference := by
  intro d reached
  have other : d ≠ added := by
    rintro rfl
    exact apart reached
  simp [h d, other]

/-- No module of an accepted project declares an entity whose name has a dot. -/
theorem Accepted.not_declares
    (accepted : project.Accepted)
    (dotted : '.' ∈ reference.toList) :
    ¬ project.Declares module reference := by
  rintro ⟨d, declared, id⟩
  have noDot := Naming.dot_not_mem (accepted.isName declared)
  rw [(Prod.mk.inj id).2] at noDot
  exact noDot dotted

/-- Resolving a reference follows three steps.

It finds the entity that the project declares at the place for which the reference stands: in the module
that mentions it, else behind the first dot in the module that stands before it, else, without a dot, in
the only module that declares it.  So the name of what is found, seen from its module, finds it again; in
an accepted project a reference with a dot finds the same from everywhere; and one more entity changes
what a reference finds only if the reference is its name, alone or behind its module and a dot. -/
theorem resolution_follows_three_steps (project : Project) :
    (∀ module reference d,
      project.resolve? module reference = some d ↔
        d ∈ project.declarations ∧ project.Denotes module reference d) ∧
      (∀ module reference d,
        project.resolve? module reference = some d → project.resolve? d.module d.name = some d) ∧
      (project.violation? = none →
        ∀ reference, '.' ∈ reference.toList →
          ∀ module other,
            project.resolve? module reference = project.resolve? other reference) ∧
      ∀ (wide : Project) (added : Declaration),
        wide.DeclaresBesides added project →
          ∀ module reference,
            wide.resolve? module reference ≠ project.resolve? module reference →
              reference = added.name ∨ reference = added.module ++ "." ++ added.name := by
  refine ⟨fun _ _ _ => resolve?_eq_some_iff, ?_, ?_, ?_⟩
  · intro module reference d resolved
    exact resolve_self (mem_declarations_of_resolve resolved)
  · intro accepted reference dotted module other
    have kept := violation?_eq_none_iff.1 accepted
    have abroad : ∀ module, project.resolve? module reference = project.resolveAbroad? reference :=
      fun module => by rw [resolve?, declared?_eq_none_iff.2 (kept.not_declares dotted)]
    rw [abroad, abroad]
  · intro wide added besides module reference changed
    by_contra apart
    have away : reference ∉ added.addresses := by simpa [Declaration.addresses] using apart
    exact changed ((besides.agreeOn away).resolve?_eq module)

/-- Three stalls of a market, two of which have items. -/
def market : Project where
  settings := { name := "market" }
  modules := ⟨
    [("a", { entities := ⟨[("Item", { kind := .data, isAbstract := true })], by decide⟩ }),
     ("b", { entities := ⟨[("Item", { kind := .data, isAbstract := true })], by decide⟩ }),
     ("c", { entities := ⟨[("Owner", { kind := .data })], by decide⟩ })], by decide⟩

/-- The owner of another stall. -/
def rival : Declaration :=
  ⟨"a", "Owner", { kind := .data, isAbstract := true }⟩

/-- The market in which two stalls have an owner. -/
def rivalMarket : Project where
  settings := market.settings
  modules := ⟨
    [("a", { entities := ⟨
        [("Owner", rival.entity), ("Item", { kind := .data, isAbstract := true })], by decide⟩ }),
     ("b", { entities := ⟨[("Item", { kind := .data, isAbstract := true })], by decide⟩ }),
     ("c", { entities := ⟨[("Owner", { kind := .data })], by decide⟩ })], by decide⟩

/-- The owner in the market is found from everywhere, until another stall has one too. -/
theorem market_finds_its_owner :
    ∃ owner,
      market.resolve? "b" "Owner" = some owner ∧
        market.Denotes "b" "Owner" owner ∧
        market.resolve? owner.module owner.name = some owner ∧
        market.violation? = none ∧
        (∀ module, market.resolve? module "c.Owner" = market.resolve? "b" "c.Owner") ∧
        rivalMarket.DeclaresBesides rival market ∧
        rivalMarket.resolve? "b" "Owner" ≠ market.resolve? "b" "Owner" ∧
        ("Owner" = rival.name ∨ "Owner" = rival.module ++ "." ++ rival.name) := by
  obtain ⟨rule, again, anywhere, besides⟩ := resolution_follows_three_steps market
  have accepted : market.violation? = none := by decide +kernel
  have found : market.resolve? "b" "Owner" = some ⟨"c", "Owner", { kind := .data }⟩ := by
    rfl
  have lost : rivalMarket.resolve? "b" "Owner" = none := by
    rfl
  have grown : rivalMarket.DeclaresBesides rival market := by
    intro d
    simp [declarations, declarationsOf, rivalMarket, market, rival]
  have changed : rivalMarket.resolve? "b" "Owner" ≠ market.resolve? "b" "Owner" := by
    simp [found, lost]
  exact ⟨_, found, ((rule _ _ _).1 found).2, again _ _ _ found, accepted,
    fun module => anywhere accepted "c.Owner" (by decide) module "b", grown, changed,
    besides rivalMarket rival grown "b" "Owner" changed⟩

end Agreement

end Project
end Manifest
end Scaffold
