import Scaffold.Proofs.FileTree.Rewriting
import Scaffold.Proofs.Generator.DistinctFiles

/-!
# Generating again

A run over the tree that an earlier run of the same generator has left writes every source once more and
keeps every template file.  The directories are there, so each source only replaces the file that it led
to before.  Several sources may lead to one file; the last of them decides what the file holds, in the
second run as in the first, so the second run leaves the tree as it found it, as long as no template file
took the place of a source in the first.
-/

namespace Scaffold

open FileTree (AgreeOutside Persists Rewritable)

namespace Artifact

section Again

variable {a : Artifact} {base : Path} {tree : FileTree} {content : Content} {location : Location}

/-- Where a source was written, it can be written again as long as nothing is taken away. -/
theorem Rendered.exists_rewritable
    (rendered : a.Rendered content)
    (always : a.rules.overwrite = .always)
    (accepted : a.Accepted base tree) :
    ∃ location, a.LandsAt base (a.write tree base).1 location ∧
      ∀ later, Persists (a.write tree base).1 later →
        later.Rewritable (base.join a.path) location := by
  unfold Accepted at accepted
  simp only [write_eq, always, reduceCtorEq, false_and, if_false, rendered.bytes_eq] at accepted ⊢
  rcases done : tree.write (base.join a.path) content.bytes with ⟨new, fault | ⟨⟩⟩
  · simp [done] at accepted
  · exact FileTree.exists_rewritable_of_write done

/-- Writing a source again replaces the file that it leads to. -/
theorem Rendered.write_of_rewritable
    (rendered : a.Rendered content)
    (always : a.rules.overwrite = .always)
    (again : tree.Rewritable (base.join a.path) location) :
    a.write tree base =
      (tree.put location (.file content.bytes) (FileTree.hasRoom_of_place again.placed),
        .ok .written) := by
  simp [write_eq, always, rendered.bytes_eq, again.write_eq]

/-- An artifact that is written once is kept where its path leads somewhere. -/
theorem LandsAt.keeps
    (lands : a.LandsAt base tree location)
    (once : a.rules.overwrite = .ifMissing) :
    a.keeps base tree = true := by
  simpa [Artifact.keeps, once] using (tree.pathExists_iff _).2 ⟨location, lands⟩

end Again

end Artifact

namespace Generator

section Regeneration

variable {g : Generator} {base : Path} {tree new : FileTree} {units sources templates : List Artifact}
  {written : Written} {location : Location}

/-- Artifacts that are all kept leave the tree alone. -/
theorem writeAll_of_keeps
    (kept : ∀ a ∈ units, a.keeps base tree = true) :
    writeAll base units tree = (tree, .ok ⟨[], units.map Artifact.path⟩) := by
  induction units with
  | nil => rfl
  | cons a rest ih =>
      have first := Artifact.write_of_keeps (kept a List.mem_cons_self)
      have later := ih fun b member => kept b (List.mem_cons_of_mem _ member)
      simp [writeAll_cons, first, later, Written.add]

/-- What a run that succeeds has put on disk. -/
theorem emits_of_generate
    (done : g.generate base tree = (new, .ok written)) :
    ∃ sources templates,
      g.artifacts tree = .ok (sources ++ templates) ∧ g.Emits tree sources templates ∧
        Taken base (sources ++ templates) tree ∧ after base (sources ++ templates) tree = new := by
  rw [generate_eq] at done
  cases made : g.artifacts tree with
  | error failure => simp [made] at done
  | ok units =>
      obtain ⟨sources, templates, rfl, emits⟩ := exists_emits_of_artifacts made
      simp only [made] at done
      have taken := emits.taken (accepted_of_writeAll done)
      rw [writeAll_of_taken taken] at done
      exact ⟨sources, templates, rfl, emits, taken, congrArg Prod.fst done⟩

/-- Sources that were put into a tree, with nothing taken away since: each of them can be written again,
and a file holds what the last source for it says. -/
structure Regenerable
    (base : Path)
    (new : FileTree)
    (sources : List Artifact) : Prop where
  again : ∀ a ∈ sources, a.rules.overwrite = .always ∧ (∃ content, a.Rendered content) ∧
    ∃ location, a.LandsAt base new location ∧
      ∀ later, Persists new later → later.Rewritable (base.join a.path) location
  last : ∀ front a back location content,
    sources = front ++ a :: back → a.content = .ok content → a.LandsAt base new location →
      (∀ b ∈ back, ¬ b.LandsAt base new location) →
        new.find? location = some (.file content.bytes)

theorem Regenerable.tail
    {a : Artifact}
    (h : Regenerable base new (a :: sources)) :
    Regenerable base new sources where
  again b member := h.again b (List.mem_cons_of_mem a member)
  last front b back location content whole :=
    h.last (a :: front) b back location content (congrArg (List.cons a) whole)

/-- A location that some of the artifacts lead to. -/
def Reached
    (base : Path)
    (new : FileTree)
    (units : List Artifact)
    (location : Location) : Prop :=
  ∃ a ∈ units, a.LandsAt base new location

/-- A run that goes on from a tree which differs only in the files that its sources still come to ends
in the tree that it was to give. -/
theorem Regenerable.writeAll_eq
    (h : Regenerable base new sources)
    (kept : ∀ a ∈ templates, a.keeps base new = true)
    (persists : Persists new tree)
    (agree : AgreeOutside (Reached base new sources) tree new) :
    writeAll base (sources ++ templates) tree =
      (new, .ok ⟨sources.map Artifact.path, templates.map Artifact.path⟩) := by
  induction sources generalizing tree with
  | nil =>
      obtain rfl : tree = new := by
        refine FileTree.AgreeOutside.eq
          ⟨agree.working, agree.keys, fun location _ => agree.same location ?_⟩
        rintro ⟨a, member, -⟩
        cases member
      exact writeAll_of_keeps kept
  | cons a rest ih =>
      obtain ⟨always, ⟨content, rendered⟩, location, lands, again⟩ := h.again a List.mem_cons_self
      have here := again tree persists
      obtain ⟨old, held⟩ := here.held
      have wrote := rendered.write_of_rewritable always here
      have stored := FileTree.stored_of_write (here.write_eq content.bytes)
      have agrees : AgreeOutside (Reached base new rest)
          (tree.put location (.file content.bytes) (FileTree.hasRoom_of_place here.placed)) new := by
        refine agree.put _ held (fun past => ?_) fun other differs past => ?_
        · exact h.last [] a rest location content rfl rendered.holds lands
            fun b member comes => past ⟨b, member, comes⟩
        · rintro ⟨b, member, comes⟩
          rcases List.mem_cons.1 member with rfl | later
          · exact differs (comes.unique lands)
          · exact past ⟨b, later, comes⟩
      have onwards := ih h.tail (persists.trans stored.choose_spec.persists) agrees
      simp [writeAll_cons, wrote, onwards, Written.add]

/-- The sources of a run can be written again over what it has left. -/
theorem Emits.regenerable
    (h : g.Emits tree sources templates)
    (taken : Taken base (sources ++ templates) tree)
    (steady : g.Steady base tree) :
    Regenerable base (after base (sources ++ templates) tree) sources where
  again a member := by
    obtain ⟨always, content, rendered⟩ := h.rendered_sources member
    obtain ⟨front, back, whole⟩ := List.append_of_mem (List.mem_append_left templates member)
    rw [whole] at taken ⊢
    obtain ⟨-, accepted, later⟩ := taken_cons.1 (taken_append.1 taken).2
    obtain ⟨location, lands, again⟩ := rendered.exists_rewritable always accepted
    rw [after_append, after_cons]
    exact ⟨always, ⟨content, rendered⟩, location, lands.persists later.persists,
      fun tree persists => again tree (later.persists.trans persists)⟩
  last front a back location content whole holds lands past := by
    have split : sources ++ templates = front ++ a :: (back ++ templates) := by simp [whole]
    have member : a ∈ sources := by simp [whole]
    obtain ⟨always, -⟩ := h.rendered_sources member
    have ruled := h.ruled taken (h.reliable taken steady)
    obtain ⟨content', same, found⟩ := ruled.replaced front a _ location split always lands
      fun b among rewrites comes => by
        rcases List.mem_append.1 among with source | template
        · exact past b source comes
        · simp [(h.spares_templates template).1.once] at rewrites
    obtain rfl : content = content' := Except.ok.inj (holds.symm.trans same)
    exact found

/-- A run over what the same run has left, with the same template files, writes every source, keeps every
template file and changes nothing. -/
theorem generate_again
    (steady : g.Steady base tree)
    (done : g.generate base tree = (new, .ok written))
    (sameFiles : g.templates.artifacts new g.tokens = g.templates.artifacts tree g.tokens) :
    ∃ sources templates,
      g.artifacts tree = .ok (sources ++ templates) ∧ g.Emits tree sources templates ∧
        g.generate base new =
          (new, .ok ⟨sources.map Artifact.path, templates.map Artifact.path⟩) := by
  obtain ⟨sources, templates, made, emits, taken, rfl⟩ := emits_of_generate done
  refine ⟨sources, templates, made, emits, ?_⟩
  have remade : g.artifacts (after base (sources ++ templates) tree) = .ok (sources ++ templates) := by
    rw [artifacts, sameFiles]
    exact made
  have kept : ∀ a ∈ templates, a.keeps base (after base (sources ++ templates) tree) = true := by
    intro a member
    obtain ⟨location, lands⟩ := taken.landsAt (List.mem_append_right sources member)
    exact lands.keeps (emits.spares_templates member).1.once
  rw [generate_eq, remade]
  exact (emits.regenerable taken steady).writeAll_eq kept (.refl _) ⟨rfl, rfl, fun _ _ => rfl⟩

end Regeneration

end Generator
end Scaffold
