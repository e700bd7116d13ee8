import Scaffold.Proofs.FileTree.Containment
import Scaffold.Proofs.Generator.DistinctFiles

/-!
# Where a run writes

Whatever a run does and wherever it stops, the files that it creates or changes are those that its
artifacts lead to.  A file lies below the output directory when the path of its artifact stays below.

Template files and model classes stay below whatever the project says, and the packages of sources are
checked.  Nothing else bounds the path of a controller or of the application class than the name of the
class, which takes over the suffix of controllers and the name of the project as they are.
-/

namespace Scaffold

open FileTree (Extends Persists Stored)
open Java (Controller Model fileOf)
open Manifest (Project)

/-- An artifact leaves the tree alone, or some bytes are written to where it goes. -/
theorem Artifact.write_eq_self_or_write
    (a : Artifact)
    (base : Path)
    (tree : FileTree) :
    (a.write tree base).1 = tree ∨
      ∃ bytes, (a.write tree base).1 = (tree.write (base.join a.path) bytes).1 := by
  rw [Artifact.write_eq]
  by_cases kept : a.rules.overwrite = .ifMissing ∧ tree.pathExists (base.join a.path) = true
  · exact .inl (by rw [if_pos kept])
  · rw [if_neg kept]
    cases a.bytes with
    | error failure => exact .inl rfl
    | ok bytes =>
        refine .inr ⟨bytes, ?_⟩
        rcases done : tree.write (base.join a.path) bytes with ⟨new, fault | ⟨⟩⟩ <;> simp only [done]

namespace Generator

/-- Between two trees nothing was taken away, and a file is new or has other bytes only where one of
some artifacts leads. -/
structure Changes
    (base : Path)
    (units : List Artifact)
    (old new : FileTree) : Prop where
  persists : Persists old new
  files : ∀ location bytes,
    new.find? location = some (.file bytes) → old.find? location ≠ some (.file bytes) →
      ∃ a ∈ units, a.LandsAt base new location

namespace Changes

variable {base : Path} {units later : List Artifact} {old mid new : FileTree} {a : Artifact}

theorem of_extends
    (h : Extends old new) :
    Changes base units old new where
  persists := h.persists
  files location bytes holds changed := by
    rcases h.added location with same | ⟨-, directory⟩
    · exact absurd (same ▸ holds) changed
    · rw [directory] at holds
      cases holds

theorem append
    (first : Changes base units old mid)
    (second : Changes base later mid new) :
    Changes base (units ++ later) old new where
  persists := first.persists.trans second.persists
  files location bytes holds changed := by
    by_cases between : mid.find? location = some (.file bytes)
    · obtain ⟨a, member, lands⟩ := first.files location bytes between changed
      exact ⟨a, List.mem_append_left _ member, lands.persists second.persists⟩
    · obtain ⟨a, member, lands⟩ := second.files location bytes holds between
      exact ⟨a, List.mem_append_right _ member, lands⟩

theorem of_stored
    {bytes : ByteArray}
    {target : Location}
    (h : Stored old new (base.join a.path) bytes target) :
    Changes base [a] old new where
  persists := h.persists
  files location others holds changed := by
    by_cases here : location = target
    · exact ⟨a, List.mem_singleton_self a, here ▸ h.leads⟩
    · rcases h.others location here with same | ⟨-, directory⟩
      · exact absurd (same ▸ holds) changed
      · rw [directory] at holds
        cases holds

/-- One artifact changes at most the file that it leads to, whatever comes of it. -/
theorem write
    (a : Artifact)
    (base : Path)
    (tree : FileTree) :
    Changes base [a] tree (a.write tree base).1 := by
  rcases a.write_eq_self_or_write base tree with same | ⟨bytes, same⟩
  · rw [same]
    exact of_extends (.refl tree)
  · rw [same]
    rcases tree.stored_or_extends_of_write (base.join a.path) bytes with
      ⟨target, stored⟩ | extended
    · exact of_stored stored
    · exact of_extends extended

/-- A run changes at most the files that its artifacts lead to, wherever it stops. -/
theorem writeAll
    (base : Path)
    (units : List Artifact)
    (tree : FileTree) :
    Changes base units tree (Generator.writeAll base units tree).1 := by
  induction units generalizing tree with
  | nil => exact of_extends (.refl tree)
  | cons a rest ih =>
      have first := write a base tree
      rcases wrote : a.write tree base with ⟨next, failure | result⟩
      · rw [wrote] at first
        simpa [writeAll_cons, wrote] using first.append (of_extends (.refl next))
      · rw [wrote] at first
        have whole := first.append (ih next)
        rcases ends : Generator.writeAll base rest next with ⟨last, failure | others⟩
        · simpa [writeAll_cons, wrote, ends] using whole
        · simpa [writeAll_cons, wrote, ends] using whole

end Changes

section Containment

variable {g : Generator} {base : Path} {tree : FileTree} {units : List Artifact} {a : Artifact}

/-- A source whose class is named after something that no rule of manifests bounds. -/
inductive FreelyNamed (g : Generator) : String → Artifact → Prop where
  | application :
      FreelyNamed g g.application.className g.application.artifact
  | controller
      {c : Controller}
      (member : c ∈ g.controllers) :
      FreelyNamed g c.className c.artifact

/-- A path at which a source stands whose class is named so that its file does not stay below. -/
def Strays
    (g : Generator)
    (path : Path) : Prop :=
  ∃ className a, g.FreelyNamed className a ∧ a.path = path ∧ ¬ (fileOf className).StaysBelow

theorem staysBelow_home
    (accepted : g.project.Accepted) :
    g.home.StaysBelow := by
  obtain ⟨names, -, same⟩ := Java.exists_names_of_directory accepted.packaged
  rw [home, same]
  exact Path.staysBelow_ofNames names

theorem staysBelow_inFolder_iff
    (folder : Path.Name)
    (className : String) :
    (Java.inFolder folder className).StaysBelow ↔ (fileOf className).StaysBelow := by
  have below : Path.StaysBelow ⟨folder.text⟩ := by
    have single := Path.staysBelow_ofNames [folder]
    simpa [Path.ofNames, Path.ofParts] using single
  exact (Path.solid_name folder).staysBelow_join_iff below

/-- A source of free name stays below exactly when the file of its class does on its own. -/
theorem FreelyNamed.staysBelow_iff
    {className : String}
    (accepted : g.project.Accepted)
    (free : g.FreelyNamed className a) :
    a.path.StaysBelow ↔ (fileOf className).StaysBelow := by
  have behind : ∀ r, (g.home.join r).StaysBelow ↔ r.StaysBelow := fun _ =>
    (solid_home accepted).staysBelow_join_iff (staysBelow_home accepted)
  cases free with
  | application => rw [path_application, behind]
  | controller member => rw [path_controller accepted member, behind, staysBelow_inFolder_iff]

theorem staysBelow_model
    (accepted : g.project.Accepted)
    {m : Model}
    (member : m ∈ g.models) :
    m.artifact.path.StaysBelow := by
  obtain ⟨name, -, same⟩ :=
    Java.exists_name_of_fileOf (slash_not_mem_of_mem_models accepted member)
  rw [path_model accepted member, (solid_home accepted).staysBelow_join_iff (staysBelow_home accepted),
    Java.inFolder_eq_ofNames Java.modelFolder same]
  exact Path.staysBelow_ofNames _

/-- A source stands at a stray path or stays below. -/
theorem strays_or_staysBelow_of_mem_sources
    (accepted : g.project.Accepted)
    (member : a ∈ g.sources) :
    g.Strays a.path ∨ a.path.StaysBelow := by
  have free : ∀ className b, g.FreelyNamed className b → g.Strays b.path ∨ b.path.StaysBelow := by
    intro className b free
    by_cases below : (fileOf className).StaysBelow
    · exact .inr ((free.staysBelow_iff accepted).2 below)
    · exact .inl ⟨className, b, free, rfl, below⟩
  have among := g.perm_sources.mem_iff.1 member
  simp only [List.mem_append, List.mem_map, List.mem_singleton, or_assoc] at among
  rcases among with ⟨c, isController, rfl⟩ | ⟨m, isModel, rfl⟩ | rfl
  · exact free _ _ (.controller isController)
  · exact .inr (staysBelow_model accepted isModel)
  · exact free _ _ .application

/-- What a run renders stays below exactly when it stands at no stray path. -/
theorem staysBelow_iff_not_strays
    (accepted : g.project.Accepted)
    (done : g.artifacts tree = .ok units)
    (member : a ∈ units) :
    a.path.StaysBelow ↔ ¬ g.Strays a.path := by
  constructor
  · rintro below ⟨className, b, free, same, leaves⟩
    exact leaves ((free.staysBelow_iff accepted).1 (same ▸ below))
  · intro notStray
    obtain ⟨sources, templates, rfl, emits⟩ := exists_emits_of_artifacts done
    rcases List.mem_append.1 member with source | template
    · have path : a.path ∈ g.sources.map Artifact.path :=
        emits.paths_sources ▸ List.mem_map_of_mem source
      obtain ⟨b, among, same⟩ := List.mem_map.1 path
      exact same ▸ (strays_or_staysBelow_of_mem_sources accepted among).resolve_left
        (same ▸ notStray)
    · exact (emits.spares_templates template).1.below

/-- A run strays nowhere when no name of a controller or of the application class has a slash. -/
theorem Plain.not_strays
    (plain : g.Plain)
    (path : Path) :
    ¬ g.Strays path := by
  rintro ⟨className, a, free, -, leaves⟩
  have noSlash : '/' ∉ className.toList := by
    cases free with
    | application => exact plain.application
    | controller member => exact plain.controllers _ member
  obtain ⟨name, -, same⟩ := Java.exists_name_of_fileOf noSlash
  exact leaves (same ▸ Path.staysBelow_ofNames [name])

/-- Everything stays below the output directory unless the name of a class leads out.

What a run of an accepted project renders has a relative path without a move upwards, except at the
paths of controllers and of the application class whose files, for the names of these classes, stay
below nothing; and there it has none.  No such path exists when no name of these classes has a slash.
However a run ends, each file that it creates or changes lies below the output directory, or at such a
path. -/
theorem output_stays_below_unless_class_names_lead_out
    (g : Generator)
    (tree : FileTree)
    (accepted : g.project.violation? = none) :
    (∀ units a, g.artifacts tree = .ok units → a ∈ units →
        (a.path.StaysBelow ↔ ¬ g.Strays a.path)) ∧
      (g.Plain → ∀ path, ¬ g.Strays path) ∧
      ∀ base location bytes,
        (g.generate base tree).1.find? location = some (.file bytes) →
          tree.find? location ≠ some (.file bytes) →
            (g.generate base tree).1.LiesBelow base location ∨
              ∃ units a, g.artifacts tree = .ok units ∧ a ∈ units ∧ g.Strays a.path ∧
                a.LandsAt base (g.generate base tree).1 location := by
  have kept := Project.violation?_eq_none_iff.1 accepted
  refine ⟨fun units a done member => staysBelow_iff_not_strays kept done member,
    fun plain => plain.not_strays, ?_⟩
  intro base location bytes holds changed
  cases done : g.artifacts tree with
  | error failure =>
      have same : (g.generate base tree).1 = tree := by rw [generate_eq, done]
      exact absurd (same ▸ holds) changed
  | ok units =>
      have run : g.generate base tree = writeAll base units tree := by rw [generate_eq, done]
      rw [run] at holds ⊢
      have changes := Changes.writeAll base units tree
      obtain ⟨a, member, lands⟩ := changes.files location bytes holds changed
      by_cases stray : g.Strays a.path
      · exact .inr ⟨units, a, rfl, member, stray, lands⟩
      · have below := (staysBelow_iff_not_strays kept done member).2 stray
        exact .inl (FileTree.liesBelow_of_locate below lands holds)

/-- A run for the ward, with its two controllers, writes below the output directory only. -/
theorem ward_stays_below :
    ward.violation? = none ∧
      (∀ units a, (ofProject ward .empty).artifacts .empty = .ok units → a ∈ units →
        a.path.StaysBelow) ∧
      ((ofProject ward .empty).generate ⟨"/srv/out"⟩ .empty).1.pathExists
        ⟨"/srv/out/src/main/java/vet/controller/PetsController.java"⟩ = true ∧
      ∀ location bytes,
        ((ofProject ward .empty).generate ⟨"/srv/out"⟩ .empty).1.find? location =
            some (.file bytes) →
          FileTree.empty.find? location ≠ some (.file bytes) →
            ((ofProject ward .empty).generate ⟨"/srv/out"⟩ .empty).1.LiesBelow ⟨"/srv/out"⟩
              location := by
  have accepted : ward.violation? = none := by decide +kernel
  have plain : (ofProject ward .empty).Plain := ⟨by decide +kernel, by decide +kernel⟩
  obtain ⟨paths, strays, run⟩ :=
    output_stays_below_unless_class_names_lead_out (ofProject ward .empty) .empty accepted
  refine ⟨accepted, fun units a done member => (paths units a done member).2 (strays plain _),
    ward_runs.2, ?_⟩
  intro location bytes holds changed
  refine (run ⟨"/srv/out"⟩ location bytes holds changed).resolve_right ?_
  rintro ⟨_, a, -, -, stray, -⟩
  exact strays plain a.path stray

/-- A project whose name leads up as far as its package leads down. -/
def kennelAbove : Project where
  settings := { name := "../../../../../kennel", declaredPackage := some "app" }

/-- The application class of this project is written next to the output directory. -/
theorem application_of_kennel_leads_out :
    kennelAbove.violation? = none ∧
      (∃ units, (ofProject kennelAbove .empty).artifacts .empty = .ok units ∧
        ∃ a ∈ units, ¬ a.path.StaysBelow) ∧
      ∃ location bytes,
        ((ofProject kennelAbove .empty).generate ⟨"out"⟩ .empty).1.find? location =
            some (.file bytes) ∧
          FileTree.empty.find? location ≠ some (.file bytes) ∧
          ¬ ((ofProject kennelAbove .empty).generate ⟨"out"⟩ .empty).1.LiesBelow ⟨"out"⟩
            location := by
  obtain ⟨units, done, -⟩ :=
    exists_preview_of_placeholders (g := ofProject kennelAbove .empty) .empty rfl rfl
  obtain ⟨unit, among, body, -, shape⟩ := exists_headed_of_artifacts done
    (a := (ofProject kennelAbove .empty).application.artifact) (by simp [sources])
  have leaves : ¬ (ofProject kennelAbove .empty).application.artifact.path.StaysBelow := by
    decide +kernel
  -- the kernel evaluates the run once when all that is asked of it stands in one statement
  obtain ⟨stands, out⟩ :
      (((ofProject kennelAbove .empty).generate ⟨"out"⟩ .empty).1.find?
        [FileTree.home, ⟨"kennelApplication.java", by decide⟩]).any (· ≠ .directory) = true ∧
      (((ofProject kennelAbove .empty).generate ⟨"out"⟩ .empty).1.trace ⟨"out"⟩).toOption =
        some [FileTree.home, ⟨"out", by decide⟩] := by decide +kernel
  have absent : FileTree.empty.find? [FileTree.home, ⟨"kennelApplication.java", by decide⟩] = none := by
    decide +kernel
  refine ⟨by decide +kernel, ⟨units, done, unit, among, by rw [shape]; exact leaves⟩, ?_⟩
  cases found : ((ofProject kennelAbove .empty).generate ⟨"out"⟩ .empty).1.find?
      [FileTree.home, ⟨"kennelApplication.java", by decide⟩] with
  | none => simp [found] at stands
  | some entry =>
      cases entry with
      | directory => simp [found] at stands
      | file bytes =>
          refine ⟨_, bytes, found, by simp [absent], ?_⟩
          rintro ⟨root, names, toRoot, -, whole⟩
          rw [toRoot] at out
          obtain rfl := Option.some.inj out
          simp at whole

end Containment

end Generator
end Scaffold
