import Scaffold.Proofs.Manifest.Classification
import Scaffold.Proofs.Manifest.ResolutionRule

/-!
# Projects in another order

The order of the modules of a manifest, and of the entities in each, is for the reader.  A project in
another order declares the same, so a reference finds the same in it, and every entity is classified as
it was.  The handlers of a module and the entities left out are the same ones, in the order of their
declarations in the project at hand.
-/

namespace Scaffold
namespace Manifest

/-- The second module is the first with its entities in some order. -/
structure Module.Rearranges (m m' : Module) : Prop where
  description : m'.description = m.description
  entities : m'.entities.entries.Perm m.entities.entries

namespace Project

/-- The second project is the first with its modules, and the entities in each, in some order. -/
structure Rearranges (project other : Project) : Prop where
  settings : other.settings = project.settings
  options : other.options = project.options
  modules : ∃ between : List (String × Module),
    List.Forall₂ (fun entry entry' => entry'.1 = entry.1 ∧ entry.2.Rearranges entry'.2)
      project.modules.entries between ∧
    other.modules.entries.Perm between

section Rearrangement

variable {project other : Project} {d : Declaration} {module : String}

theorem mem_declarationsIn :
    d ∈ project.declarationsIn module ↔ d ∈ project.declarations ∧ d.module = module := by
  constructor
  · intro member
    refine ⟨mem_declarations_of_declarationsIn member, ?_⟩
    unfold declarationsIn at member
    split at member
    · cases member
    · exact (mem_declarationsOf.1 member).1
  · rintro ⟨declared, rfl⟩
    obtain ⟨⟨module, m⟩, known, among⟩ := mem_declarations.1 declared
    obtain rfl : d.module = module := (mem_declarationsOf.1 among).1
    simpa [declarationsIn, project.modules.get?_eq_some_iff.2 known] using among

theorem nodup_declarationsIn
    (project : Project)
    (module : String) :
    (project.declarationsIn module).Nodup := by
  unfold declarationsIn
  split
  · exact List.nodup_nil
  · exact (nodup_ids_declarationsOf _).of_map Declaration.id

namespace Rearranges

variable (rearranged : project.Rearranges other)
include rearranged

/-- A project in another order declares the same. -/
theorem mem_declarations_iff :
    d ∈ other.declarations ↔ d ∈ project.declarations := by
  obtain ⟨between, alike, perm⟩ := rearranged.modules
  have inside : ∀ {entries entries' : List (String × Module)},
      List.Forall₂ (fun entry entry' => entry'.1 = entry.1 ∧ entry.2.Rearranges entry'.2)
        entries entries' →
      ((∃ entry ∈ entries', d ∈ declarationsOf entry) ↔
        ∃ entry ∈ entries, d ∈ declarationsOf entry) := by
    intro entries entries' alike
    induction alike with
    | nil => exact Iff.rfl
    | cons first _ ih =>
        rw [List.exists_mem_cons_iff, List.exists_mem_cons_iff, ih, mem_declarationsOf,
          mem_declarationsOf, first.1, first.2.entities.mem_iff]
  rw [mem_declarations, mem_declarations, ← inside alike]
  simp only [perm.mem_iff]

/-- A reference finds the same in a project in another order. -/
theorem resolve?_eq (module reference : String) :
    other.resolve? module reference = project.resolve? module reference := by
  have agree : AgreeOn other project reference := fun _ _ => rearranged.mem_declarations_iff
  exact agree.resolve?_eq module

/-- An entity is classified as in a project in another order. -/
theorem classify_eq (d : Declaration) :
    other.classify d = project.classify d := by
  have response : other.response? d = project.response? d := by
    simp only [response?, rearranged.resolve?_eq]
  simp only [classify, response]

theorem declarationsIn_perm (module : String) :
    (other.declarationsIn module).Perm (project.declarationsIn module) := by
  refine (List.perm_ext_iff_of_nodup (other.nodup_declarationsIn module)
    (project.nodup_declarationsIn module)).2 fun d => ?_
  rw [mem_declarationsIn, mem_declarationsIn, rearranged.mem_declarations_iff]

theorem handlers_perm (module : String) :
    (other.handlers module).Perm (project.handlers module) := by
  unfold handlers
  simp only [rearranged.classify_eq]
  exact (rearranged.declarationsIn_perm module).filterMap _

theorem skipped_perm (module : String) :
    (other.skipped module).Perm (project.skipped module) := by
  unfold skipped
  simp only [rearranged.classify_eq]
  exact (rearranged.declarationsIn_perm module).filterMap _

end Rearranges

/-- The order in which a project declares its entities is seen in the order of its answers only.

A reference finds the same entity, or none, in a project with the same modules and entities in another
order.  The handlers of each module, with their methods and responses, and the entities left out, with the
reasons, are the same ones, listed in the order in which the project at hand declares them. -/
theorem rearranging_changes_order_only
    (rearranged : project.Rearranges other) :
    (∀ module reference, other.resolve? module reference = project.resolve? module reference) ∧
      ∀ module,
        (other.handlers module).Perm (project.handlers module) ∧
          (other.skipped module).Perm (project.skipped module) ∧
          ((other.handlers module).map fun h => h.request.name).Sublist
            ((other.declarationsIn module).map Declaration.name) ∧
          ((other.skipped module).map Prod.fst).Sublist
            ((other.declarationsIn module).map Declaration.name) := by
  refine ⟨rearranged.resolve?_eq, fun module => ?_⟩
  have merged := other.merges_declarationsIn module
  exact ⟨rearranged.handlers_perm module, rearranged.skipped_perm module, merged.sublist_left,
    merged.sublist_right⟩

/-- The deck of a ferry, with a pass and two requests for it. -/
def deck : Module where
  entities := ⟨
    [("Pass", { kind := .data }),
     ("GetPass", { kind := .request, method := some "GET", response := some "Pass" }),
     ("AskPass", { kind := .request, method := some "POST", response := some "Pass" })], by decide⟩

/-- The same deck, from back to front. -/
def deckBackwards : Module where
  entities := ⟨
    [("AskPass", { kind := .request, method := some "POST", response := some "Pass" }),
     ("GetPass", { kind := .request, method := some "GET", response := some "Pass" }),
     ("Pass", { kind := .data })], by decide⟩

/-- The crew of a ferry, which has passes of its own. -/
def crew : Module where
  entities := ⟨[("Pass", { kind := .data, isAbstract := true })], by decide⟩

/-- A ferry with its deck and its crew. -/
def ferry : Project where
  settings := { name := "ferry" }
  modules := ⟨[("deck", deck), ("crew", crew)], by decide⟩

/-- The same ferry, from back to front. -/
def ferryBackwards : Project where
  settings := ferry.settings
  modules := ⟨[("crew", crew), ("deck", deckBackwards)], by decide⟩

theorem ferry_is_the_same_backwards :
    ferry.Rearranges ferryBackwards ∧
      ferryBackwards.resolve? "deck" "Pass" = ferry.resolve? "deck" "Pass" ∧
      ferryBackwards.resolve? "pier" "Pass" = ferry.resolve? "pier" "Pass" ∧
      (ferryBackwards.handlers "deck").map (fun h => h.request.name) = ["AskPass", "GetPass"] ∧
      (ferryBackwards.handlers "deck").Perm (ferry.handlers "deck") ∧
      (ferryBackwards.skipped "deck").Perm (ferry.skipped "deck") := by
  have backwards : ferry.Rearranges ferryBackwards := by
    have turned : deck.Rearranges deckBackwards := ⟨rfl, List.reverse_perm deck.entities.entries⟩
    have kept : crew.Rearranges crew := ⟨rfl, .refl _⟩
    exact ⟨rfl, rfl, [("deck", deckBackwards), ("crew", crew)],
      .cons ⟨rfl, turned⟩ (.cons ⟨rfl, kept⟩ .nil), .swap _ _ []⟩
  obtain ⟨finds, lists⟩ := rearranging_changes_order_only backwards
  obtain ⟨handlers, skipped, -, -⟩ := lists "deck"
  exact ⟨backwards, finds "deck" "Pass", finds "pier" "Pass", by decide +kernel, handlers, skipped⟩

end Rearrangement

end Project
end Manifest
end Scaffold
