import Scaffold.Proofs.FileTree.Containment
import Scaffold.Proofs.Generator.Traversal
import Scaffold.Proofs.Generator.Turns
import Scaffold.Proofs.Manifest.Declarations

/-!
# What is shown is what is written

The files that a preview shows are the artifacts that a run puts on disk.  Each source is shown and
written below its header, and replaces what is there.  Template files come after the sources and are
written once, at paths that stay below the output directory.

When the system takes every write, the run succeeds and accounts for each artifact once.  At the end
a location holds the last artifact that was put there, and is as it was if none was.

As long as the output directory can be relied on, what was put somewhere is what the rules of the
artifacts say: a location holds what the last source for it says; where no source comes, a template
file is found there if nothing was there before, and everything else is as it was.  It can be relied
on as soon as a source was written below it.  But every source may have an absolute path; if then the
path of the output directory goes up again from a missing directory, nothing is found below it when the
first template file has its turn, and this file replaces what stands in its place.
-/

namespace Scaffold

open FileTree (Anchored Persists Reliable)

namespace Java

@[simp] theorem classArtifact_rules
    (className : String)
    (unit : CompilationUnit Failure) :
    (classArtifact className unit).rules = .generated generatedHeader :=
  rfl

@[simp] theorem Model.artifact_rules (m : Model) :
    m.artifact.rules = .generated generatedHeader := by
  unfold Model.artifact
  split <;> rfl

end Java

namespace Template

/-- The paths of the program's own tree stay below. -/
theorem staysBelow_builtIn :
    ∀ file ∈ builtIn, file.1.StaysBelow := by
  simp only [builtIn, List.forall_mem_cons]
  decide

/-- The artifact of a file in a template directory is the file with some content. -/
theorem eq_of_directoryArtifact
    {tokens : Tokens}
    {directory : Path}
    {file : Location × ByteArray}
    {a : Artifact}
    (made : directoryArtifact tokens directory file = .ok a) :
    ∃ content, a = artifact (Path.ofNames file.1) content := by
  simp only [directoryArtifact] at made
  split at made
  · cases made
    exact ⟨_, rfl⟩
  · cases made

/-- What is made of a walk through a template directory are files with some content. -/
theorem exists_of_mem_walkArtifacts
    {tokens : Tokens}
    {directory : Path}
    {visits : List Visit}
    {artifacts : List Artifact}
    {a : Artifact}
    (made : walkArtifacts tokens directory visits = .ok artifacts)
    (member : a ∈ artifacts) :
    ∃ names content, a = artifact (Path.ofNames names) content := by
  induction visits generalizing artifacts with
  | nil =>
      cases made
      cases member
  | cons visit visits ih =>
      cases visit with
      | fault => cases made
      | other names => exact ih made member
      | file names bytes =>
          cases bytes with
          | none => cases made
          | some bytes =>
              rw [walkArtifacts] at made
              cases first : directoryArtifact tokens directory (names, bytes) with
              | error failure => simp [first] at made
              | ok unit =>
                  cases onwards : walkArtifacts tokens directory visits with
                  | error failure => simp [first, onwards, Except.map] at made
                  | ok later =>
                      obtain rfl : unit :: later = artifacts := by
                        simpa [first, onwards, Except.map] using made
                      rcases List.mem_cons.1 member with rfl | among
                      · obtain ⟨content, same⟩ := eq_of_directoryArtifact first
                        exact ⟨names, content, same⟩
                      · exact ih onwards among

end Template

namespace Generator

section Refinement

variable {g : Generator} {base : Path} {tree : FileTree} {units : List Artifact}

/-- A source as it is shown and written: its own text below the header, replacing what is there. -/
def Headed (source unit : Artifact) : Prop :=
  ∃ body,
    source.content = .ok (.text body) ∧
      unit = ⟨source.path, .ok (.text (Java.generatedHeader ++ "\n" ++ body)), ⟨.always, none⟩⟩

/-- Everything that is rendered for a project except its template files is a generated source. -/
theorem rules_of_mem_sources
    {a : Artifact}
    (member : a ∈ g.sources) :
    a.rules = .generated Java.generatedHeader := by
  simp only [sources, moduleArtifacts, List.mem_append, List.mem_flatMap, List.mem_singleton,
    List.mem_map, Option.mem_toList, Option.map_eq_some_iff] at member
  rcases member with ⟨entry, -, ⟨controller, -, rfl⟩ | ⟨d, -, rfl⟩⟩ | rfl
  · rfl
  · exact (g.model d).artifact_rules
  · rfl

theorem mem_sources_of_controller
    {entry : String × Manifest.Module}
    {c : Java.Controller}
    (member : entry ∈ g.project.modules.entries)
    (present : g.controller? entry.1 = some c) :
    c.artifact ∈ g.sources := by
  have first : c.artifact ∈ g.moduleArtifacts entry := by simp [moduleArtifacts, present]
  exact List.mem_append_left _ (List.mem_flatMap.2 ⟨entry, member, first⟩)

theorem mem_sources_of_model
    {d : Manifest.Declaration}
    (declared : d ∈ g.project.declarations)
    (isModel : d.entity.isModel = true) :
    (g.model d).artifact ∈ g.sources := by
  obtain ⟨entry, member, among⟩ := Manifest.Project.mem_declarations.1 declared
  have first : (g.model d).artifact ∈ g.moduleArtifacts entry :=
    List.mem_append_right _ (List.mem_map.2 ⟨d, List.mem_filter.2 ⟨among, isModel⟩, rfl⟩)
  exact List.mem_append_left _ (List.mem_flatMap.2 ⟨entry, member, first⟩)

/-- A generated source that is ready to be written has its header. -/
theorem headed_of_prerender
    {source unit : Artifact}
    (generated : source.rules = .generated Java.generatedHeader)
    (done : source.prerender = .ok unit) :
    Headed source unit := by
  cases content : source.content with
  | error failure =>
      simp [Artifact.prerender, Artifact.renderWithHeader, Artifact.render, content] at done
  | ok content' =>
      cases content' with
      | binary bytes =>
          simp [Artifact.prerender, Artifact.renderWithHeader, Artifact.render, content] at done
      | text body =>
          refine ⟨body, content, ?_⟩
          simpa [Artifact.prerender, Artifact.renderWithHeader, Artifact.render, content,
            generated, WriteRules.generated, eq_comm] using done

/-- A generated source with its header is what is ready to be written. -/
theorem prerender_of_headed
    {source unit : Artifact}
    (generated : source.rules = .generated Java.generatedHeader)
    (headed : Headed source unit) :
    source.prerender = .ok unit := by
  obtain ⟨body, content, rfl⟩ := headed
  simp [Artifact.prerender, Artifact.renderWithHeader, Artifact.render, content, generated,
    WriteRules.generated]

/-- A source that is shown and written has its text below the header. -/
theorem Headed.exists_renderWithHeader
    {source unit : Artifact}
    (headed : Headed source unit)
    (generated : source.rules = .generated Java.generatedHeader) :
    ∃ text, source.renderWithHeader = .ok text ∧
      unit = ⟨source.path, .ok (.text text), ⟨.always, none⟩⟩ := by
  obtain ⟨body, content, rfl⟩ := headed
  exact ⟨_, by simp [Artifact.renderWithHeader, Artifact.render, content, generated,
    WriteRules.generated], rfl⟩

/-- Template artifacts have their content and spare what they find, wherever they come from. -/
theorem spares_of_templates
    {source : TemplateSource}
    {tokens : Tokens}
    {visits : Path → List Template.Visit}
    {templates : List Artifact}
    (made : source.artifactsOf tokens visits = .ok templates)
    {a : Artifact}
    (member : a ∈ templates) :
    Spares a ∧ ∃ content, a.Rendered content := by
  have shape : ∃ path content, a = Template.artifact path content ∧ path.StaysBelow := by
    cases source with
    | builtIn =>
        cases made
        obtain ⟨file, among, rfl⟩ := List.mem_map.1 member
        exact ⟨_, _, rfl, Template.staysBelow_builtIn file among⟩
    | directory path =>
        obtain ⟨names, content, rfl⟩ := Template.exists_of_mem_walkArtifacts made member
        exact ⟨_, content, rfl, Path.staysBelow_ofNames names⟩
  obtain ⟨path, content, rfl, below⟩ := shape
  exact ⟨⟨rfl, below⟩, content, rfl, rfl⟩

/-- What a run puts on disk: the sources below their headers, and then the template files. -/
structure Emits
    (g : Generator)
    (tree : FileTree)
    (sources templates : List Artifact) : Prop where
  headed : List.Forall₂ Headed g.sources sources
  templates : g.templates.artifacts tree g.tokens = .ok templates

/-- The artifacts of a run are its sources and then its template files. -/
theorem exists_emits_of_artifacts
    (done : g.artifacts tree = .ok units) :
    ∃ sources templates, units = sources ++ templates ∧ g.Emits tree sources templates := by
  unfold artifacts artifactsWith at done
  cases rendered : g.sources.mapM Artifact.prerender with
  | error failure => simp [rendered, bind, Except.bind] at done
  | ok sources =>
      cases made : g.templates.artifacts tree g.tokens with
      | error failure => simp [rendered, made, bind, Except.bind] at done
      | ok templates =>
          have whole : sources ++ templates = units := by
            simpa [rendered, made, bind, Except.bind, pure, Except.pure] using done
          have pairs := (List.forall₂_and_left _ _).2
            ⟨fun a member => rules_of_mem_sources member, mapM_eq_ok.1 rendered⟩
          exact ⟨sources, templates, whole.symm,
            pairs.imp fun _ _ ⟨generated, done⟩ => headed_of_prerender generated done, made⟩

/-- A run that puts something on disk has it for its artifacts. -/
theorem Emits.artifacts_eq
    {sources templates : List Artifact}
    (h : g.Emits tree sources templates) :
    g.artifacts tree = .ok (sources ++ templates) := by
  have pairs := (List.forall₂_and_left _ _).2
    ⟨fun a member => rules_of_mem_sources member, h.headed⟩
  have rendered : g.sources.mapM Artifact.prerender = .ok sources :=
    mapM_eq_ok.2 (pairs.imp fun _ _ ⟨generated, headed⟩ => prerender_of_headed generated headed)
  simp [artifacts, artifactsWith, rendered, h.templates, bind, Except.bind, pure, Except.pure]

/-- Every source is emitted below its header. -/
theorem Emits.exists_headed
    {sources templates : List Artifact}
    (h : g.Emits tree sources templates)
    {a : Artifact}
    (member : a ∈ g.sources) :
    ∃ unit ∈ sources, Headed a unit :=
  exists_of_forall₂_left h.headed member

/-- Everything that is emitted as a source is one below its header. -/
theorem Emits.exists_source
    {sources templates : List Artifact}
    (h : g.Emits tree sources templates)
    {unit : Artifact}
    (member : unit ∈ sources) :
    ∃ a ∈ g.sources, Headed a unit :=
  exists_of_forall₂_right h.headed member

/-- What a run emits has every source below its header. -/
theorem exists_headed_of_artifacts
    (done : g.artifacts tree = .ok units)
    {a : Artifact}
    (member : a ∈ g.sources) :
    ∃ unit ∈ units, Headed a unit := by
  obtain ⟨sources, templates, rfl, emits⟩ := exists_emits_of_artifacts done
  obtain ⟨unit, among, headed⟩ := emits.exists_headed member
  exact ⟨unit, List.mem_append_left _ among, headed⟩

namespace Emits

variable {sources templates : List Artifact}

/-- The sources of a run are rendered and replace what is there. -/
theorem rendered_sources
    (h : g.Emits tree sources templates)
    {a : Artifact}
    (member : a ∈ sources) :
    a.rules.overwrite = .always ∧ ∃ content, a.Rendered content := by
  obtain ⟨source, -, body, -, rfl⟩ := h.exists_source member
  exact ⟨rfl, _, rfl, rfl⟩

theorem spares_templates
    (h : g.Emits tree sources templates)
    {a : Artifact}
    (member : a ∈ templates) :
    Spares a ∧ ∃ content, a.Rendered content :=
  spares_of_templates h.templates member

theorem rendered
    (h : g.Emits tree sources templates)
    {a : Artifact}
    (member : a ∈ sources ++ templates) :
    ∃ content, a.Rendered content := by
  rcases List.mem_append.1 member with source | template
  · exact (h.rendered_sources source).2
  · exact (h.spares_templates template).2

/-- A run is taken when the system accepts every turn of it. -/
theorem taken
    (h : g.Emits tree sources templates)
    (accepted : ∀ turn ∈ turns base (sources ++ templates) tree, turn.Accepted base) :
    Taken base (sources ++ templates) tree := by
  intro turn member
  refine ⟨h.rendered ?_, accepted turn member⟩
  rw [← map_artifact_turns base (sources ++ templates) tree]
  exact List.mem_map_of_mem member

end Emits

/-- A run for which the output directory can be relied on: it can before the run, or some source goes below
it. -/
def Steady
    (g : Generator)
    (base : Path)
    (tree : FileTree) : Prop :=
  Reliable tree base ∨ ∃ a ∈ g.sources, a.path.isAbsolute = false

/-- What the artifacts of a run leave in the tree `new` when they met the tree `old`. -/
structure Settled
    (base : Path)
    (units : List Artifact)
    (old new : FileTree) : Prop where
  /-- Every artifact has its location. -/
  located : ∀ a ∈ units, ∃ location, a.LandsAt base new location
  /-- A location holds the last artifact that was put there. -/
  put : ∀ front turn back location,
    turns base units old = front ++ turn :: back → turn.keeps base = false →
      turn.artifact.LandsAt base new location →
        (∀ later ∈ back, later.artifact.LandsAt base new location → later.keeps base = true) →
          ∃ content, turn.artifact.content = .ok content ∧
            new.find? location = some (.file content.bytes)
  /-- Where no artifact was put, there is what was there, or a new directory. -/
  others : ∀ location,
    (∀ turn ∈ turns base units old,
      turn.artifact.LandsAt base new location → turn.keeps base = true) →
        new.find? location = old.find? location ∨
          (old.find? location = none ∧ new.find? location = some .directory)

/-- What the rules of the artifacts say about the tree that they leave. -/
structure Ruled
    (base : Path)
    (units : List Artifact)
    (old new : FileTree) : Prop where
  /-- A location holds the last artifact for it that replaces what is there. -/
  replaced : ∀ front a back location,
    units = front ++ a :: back → a.rules.overwrite = .always → a.LandsAt base new location →
      (∀ b ∈ back, b.rules.overwrite = .always → ¬ b.LandsAt base new location) →
        ∃ content, a.content = .ok content ∧ new.find? location = some (.file content.bytes)
  /-- Without one, an artifact that is written once leaves what it found. -/
  kept : ∀ turn ∈ turns base units old, ∀ location entry,
    turn.artifact.rules.overwrite = .ifMissing → turn.artifact.LandsAt base new location →
      (∀ b ∈ units, b.rules.overwrite = .always → ¬ b.LandsAt base new location) →
        turn.tree.find? location = some entry → new.find? location = some entry
  /-- Without one, an artifact that is written once is there when it found nothing. -/
  filled : ∀ turn ∈ turns base units old, ∀ location,
    turn.artifact.rules.overwrite = .ifMissing → turn.artifact.LandsAt base new location →
      (∀ b ∈ units, b.rules.overwrite = .always → ¬ b.LandsAt base new location) →
        turn.tree.find? location = none →
          ∃ content, turn.artifact.content = .ok content ∧
            new.find? location = some (.file content.bytes)

/-- A run that is taken settles everything. -/
theorem Taken.settled
    (h : Taken base units tree) :
    Settled base units tree (after base units tree) where
  located a member := h.landsAt member
  put before turn behind location whole goesOn lands later := by
    obtain ⟨front, back, rfl, meets, rfl⟩ := exists_of_turns_eq_append whole
    rw [after_append, after_cons, ← meets] at lands later ⊢
    have onwards : Taken base (turn.artifact :: back) turn.tree := meets ▸ (taken_append.1 h).2
    obtain ⟨content, held, holds⟩ := onwards.exists_put goesOn lands
    exact ⟨content, held, (taken_cons.1 onwards).2.2.find?_of_keeps holds later⟩
  others location kept := h.find?_after_of_keeps kept

namespace Emits

variable {sources templates : List Artifact}

/-- When the sources of a steady run were written, the output directory can be relied on. -/
theorem reliable
    (h : g.Emits tree sources templates)
    (taken : Taken base (sources ++ templates) tree)
    (steady : g.Steady base tree) :
    Reliable (after base sources tree) base := by
  have takenSources := (taken_append.1 taken).1
  rcases steady with reliable | ⟨a, member, relative⟩
  · exact takenSources.persists.reliable reliable
  · obtain ⟨unit, isUnit, _, -, shape⟩ := h.exists_headed member
    obtain ⟨location, lands⟩ := takenSources.landsAt isUnit
    rw [shape] at lands
    exact .inl (FileTree.anchored_of_locate_join relative lands)

/-- When a template file has its turn, all sources were written. -/
theorem reliable_of_mem_turns
    (h : g.Emits tree sources templates)
    (taken : Taken base (sources ++ templates) tree)
    (reliable : Reliable (after base sources tree) base)
    {turn : Turn}
    (member : turn ∈ turns base (sources ++ templates) tree)
    (once : turn.artifact.rules.overwrite = .ifMissing) :
    Reliable turn.tree base := by
  rw [turns_append] at member
  rcases List.mem_append.1 member with source | template
  · rw [(h.rendered_sources (mem_of_mem_turns source)).1] at once
    cases once
  · exact ((taken_append.1 taken).2.persists_of_mem_turns template).reliable reliable

/-- An artifact that comes to a location where no source comes spares what it finds. -/
theorem spares_of_landsAt
    (h : g.Emits tree sources templates)
    {new : FileTree}
    {location : Location}
    {b : Artifact}
    (member : b ∈ sources ++ templates)
    (unreplaced : b.rules.overwrite = .always → ¬ b.LandsAt base new location)
    (lands : b.LandsAt base new location) :
    Spares b := by
  rcases List.mem_append.1 member with source | template
  · exact absurd lands (unreplaced (h.rendered_sources source).1)
  · exact (h.spares_templates template).1

/-- Where the output directory can be relied on, a run leaves what the rules of its artifacts say. -/
theorem ruled
    (h : g.Emits tree sources templates)
    (taken : Taken base (sources ++ templates) tree)
    (reliable : Reliable (after base sources tree) base) :
    Ruled base (sources ++ templates) tree (after base (sources ++ templates) tree) where
  replaced front a back location whole always lands last := by
    have among : ∀ b ∈ a :: back, b ∈ sources ++ templates := by
      intro b member
      rw [whole]
      exact List.mem_append_right front member
    have inRun : ∀ turn ∈ turns base back (a.write (after base front tree) base).1,
        turn ∈ turns base (sources ++ templates) tree := by
      intro turn member
      rw [whole, turns_append]
      exact List.mem_append_right _ (List.mem_cons_of_mem _ member)
    have relies := fun turn member => h.reliable_of_mem_turns taken reliable (inRun turn member)
    rw [whole] at taken lands last ⊢
    rw [after_append] at lands last ⊢
    have onwards := (taken_append.1 taken).2
    have later := (taken_cons.1 onwards).2.2
    obtain ⟨content, held, holds⟩ := onwards.exists_put (Artifact.keeps_of_always always) lands
    refine ⟨content, held, later.find?_of_keeps holds fun turn member comes => ?_⟩
    -- whatever comes to the location later is a template file, and finds what was put there
    have behind := mem_of_mem_turns member
    have spares :=
      h.spares_of_landsAt (among _ (List.mem_cons_of_mem _ behind)) (last _ behind) comes
    have stands := (later.persists_of_mem_turns member).stands location (by simp [holds])
    exact later.keeps_of_spares member (relies turn member spares.once) spares stands comes
  kept turn member location entry once lands unreplaced found := by
    have relies := h.reliable_of_mem_turns taken reliable member once
    obtain ⟨front, back, whole, meets, onwards, final⟩ := taken.of_mem_turns member
    rw [final] at unreplaced ⊢
    refine onwards.find?_after found ?_
    intro b among comes
    have inRun : b ∈ sources ++ templates := whole ▸ List.mem_append_right front among
    exact ⟨relies, h.spares_of_landsAt inRun (unreplaced b inRun) comes⟩
  filled turn member location once lands unreplaced absent := by
    have relies := h.reliable_of_mem_turns taken reliable member once
    obtain ⟨front, back, whole, -, onwards, final⟩ := taken.of_mem_turns member
    rw [final] at lands unreplaced ⊢
    have notKept : turn.keeps base = false := by
      rw [Bool.eq_false_iff]
      intro kept
      -- otherwise its path led somewhere, so something stood at its location
      obtain ⟨target, leads⟩ := (turn.tree.pathExists_iff _).1 ((Bool.and_eq_true _ _).mp kept).2
      obtain rfl : target = location :=
        (Artifact.LandsAt.persists leads onwards.persists).unique lands
      simpa [absent] using (FileTree.locate_eq_ok.1 leads).2.2
    obtain ⟨content, held, holds⟩ := onwards.exists_put notKept lands
    obtain ⟨⟨_, rendered⟩, accepted, later⟩ := taken_cons.1 onwards
    refine ⟨content, held, later.find?_after holds ?_⟩
    intro b among comes
    have inRun : b ∈ sources ++ templates :=
      whole ▸ List.mem_append_right front (List.mem_cons_of_mem _ among)
    exact ⟨(Artifact.persists_write rendered accepted).reliable relies,
      h.spares_of_landsAt inRun (unreplaced b inRun) comes⟩

end Emits

/-- What a preview shows is what a run writes.

The artifacts are the sources, each below its header once, and then the template files; the preview
shows their contents.  If the system takes every write, the run succeeds, tells every path once as
written or kept, and leaves at each location what was put there last, or what was there before.  That
is what the rules of the artifacts say as long as the output directory can be relied on when the
sources are written; it can if it could be before, or if the path of some source is relative. -/
theorem generate_refines_preview
    (g : Generator)
    (base : Path)
    {tree : FileTree}
    {files : List (Path × String)}
    (previewed : g.preview tree = .ok files) :
    ∃ sources templates units,
      g.Emits tree sources templates ∧
        units = sources ++ templates ∧
        g.artifacts tree = .ok units ∧
        files = units.map shown ∧
        (∀ a ∈ units, ∃ content,
          a.content = .ok content ∧ a.bytes = .ok content.bytes ∧
            shown a = (a.path, content.shown)) ∧
        (turns base units tree).map Turn.artifact = units ∧
        ((∀ turn ∈ turns base units tree, turn.Accepted base) →
          ∃ new written kept,
            g.generate base tree = (new, .ok ⟨written, kept⟩) ∧
              written =
                ((turns base units tree).filter fun turn => !turn.keeps base).map Turn.path ∧
              kept = ((turns base units tree).filter fun turn => turn.keeps base).map Turn.path ∧
              Settled base units tree new ∧
              (Reliable (after base sources tree) base → Ruled base units tree new) ∧
              (g.Steady base tree → Reliable (after base sources tree) base)) := by
  obtain ⟨units, done, rfl⟩ : ∃ units, g.artifacts tree = .ok units ∧ units.map shown = files := by
    rw [preview_eq] at previewed
    cases done : g.artifacts tree with
    | error failure => simp [done, Except.map] at previewed
    | ok units => exact ⟨units, rfl, by simpa [done, Except.map] using previewed⟩
  obtain ⟨sources, templates, whole, emits⟩ := exists_emits_of_artifacts done
  refine ⟨sources, templates, units, emits, whole, done, rfl, ?_, map_artifact_turns .., ?_⟩
  · intro a member
    obtain ⟨content, rendered⟩ := emits.rendered (whole ▸ member)
    exact ⟨content, rendered.holds, rendered.bytes_eq, by simp [shown, rendered.holds]⟩
  · intro accepted
    subst whole
    have taken := emits.taken accepted
    exact ⟨_, _, _, by rw [generate_eq, done]; exact writeAll_of_taken taken, rfl, rfl,
      taken.settled, emits.ruled taken, emits.reliable taken⟩

/-- A generator with a template directory. -/
def outfitter : Generator :=
  ⟨{ settings := { name := "kennel" } }, none, .directory ⟨"kit"⟩⟩

/-- A tree with a template and with what a user has in its place. -/
def outfitted : FileTree :=
  ((FileTree.empty.write ⟨"kit/notes.txt"⟩ "draft".toUTF8).1.write ⟨"out/notes.txt"⟩ "mine".toUTF8).1

/-- A run writes the application class and keeps what the user has in place of a template. -/
theorem kept_template_refines_preview :
    let out : Path := ⟨"/work/out"⟩
    ∃ files units new written,
      outfitter.preview outfitted = .ok files ∧ outfitter.artifacts outfitted = .ok units ∧
        outfitter.generate out outfitted = (new, .ok ⟨written, [⟨"notes.txt"⟩]⟩) ∧
        Ruled out units outfitted new := by
  intro out
  have previews : (outfitter.preview outfitted).isOk = true := by decide +kernel
  have succeeds : ∀ units ∈ (outfitter.artifacts outfitted).toOption, ∀ turn ∈ turns out units outfitted,
      (turn.artifact.write turn.tree out).2.isOk = true := by decide +kernel
  have keeps : ∀ units ∈ (outfitter.artifacts outfitted).toOption,
      ((turns out units outfitted).filter fun turn => turn.keeps out).map Turn.path =
        [⟨"notes.txt"⟩] := by decide +kernel
  cases previewed : outfitter.preview outfitted with
  | error failure => simp [previewed, Except.isOk, Except.toBool] at previews
  | ok files =>
      obtain ⟨_, _, units, -, -, done, -, -, -, run⟩ := generate_refines_preview outfitter out previewed
      have present : units ∈ (outfitter.artifacts outfitted).toOption := by simp [done, Except.toOption]
      have accepted : ∀ turn ∈ turns out units outfitted, turn.Accepted out := by
        intro turn member refused
        have ok := succeeds units present turn member
        rw [refused] at ok
        cases ok
      obtain ⟨new, written, kept, generated, -, rfl, -, ruled, reliable⟩ := run accepted
      rw [keeps units present] at generated
      have descending : Path.Descending out.steps := by decide
      exact ⟨files, units, new, written, rfl, done, generated, ruled (reliable (.inl (.inr descending)))⟩

/-- A project whose application class has an absolute path. -/
def estranged : Manifest.Project where
  settings := { name := "/tmp/kennel", declaredPackage := some "app" }

/-- The generator for this project with a template directory. -/
def stranger : Generator :=
  ⟨estranged, none, .directory ⟨"kit"⟩⟩

/-- Where the output directory cannot be relied on, a template file replaces what the user has. -/
theorem template_replaces_file_behind_a_gap :
    let base : Path := ⟨"gap/../out"⟩
    ∃ files units new written,
      stranger.preview outfitted = .ok files ∧
        stranger.artifacts outfitted = .ok units ∧
        (∀ turn ∈ turns base units outfitted, turn.Accepted base) ∧
        stranger.generate base outfitted = (new, .ok written) ∧
        ¬ Ruled base units outfitted new := by
  intro base
  let notes : Location := [FileTree.home, ⟨"out", by decide⟩, ⟨"notes.txt", by decide⟩]
  -- the kernel evaluates the run once when all that is asked of it stands in one statement
  obtain ⟨shows, renders, runs, lost, elsewhere, found⟩ :
      (stranger.preview outfitted).toOption.isSome = true ∧
        (stranger.artifacts outfitted).toOption.isSome = true ∧
        (stranger.generate base outfitted).2.toOption.isSome = true ∧
        (stranger.generate base outfitted).1.find? notes ≠ some (.file "mine".toUTF8) ∧
        (∀ units ∈ (stranger.artifacts outfitted).toOption, ∀ a ∈ units, a.rules.overwrite = .always →
          ((stranger.generate base outfitted).1.locate (base.join a.path)).toOption ≠ some notes) ∧
        ∀ units ∈ (stranger.artifacts outfitted).toOption, ∃ turn ∈ turns base units outfitted,
          turn.artifact.rules.overwrite = .ifMissing ∧
            ((stranger.generate base outfitted).1.locate (base.join turn.path)).toOption = some notes ∧
            turn.tree.find? notes = some (.file "mine".toUTF8) := by
    decide +kernel
  obtain ⟨files, shown⟩ := Option.isSome_iff_exists.1 shows
  obtain ⟨units, rendered⟩ := Option.isSome_iff_exists.1 renders
  obtain ⟨written, told⟩ := Option.isSome_iff_exists.1 runs
  have done : stranger.generate base outfitted = ((stranger.generate base outfitted).1, .ok written) :=
    Prod.ext rfl (eq_ok_of_toOption told)
  have wrote := done
  rw [generate_eq, eq_ok_of_toOption rendered] at wrote
  refine ⟨files, units, _, written, eq_ok_of_toOption shown, eq_ok_of_toOption rendered,
    accepted_of_writeAll wrote, done, fun ruled => lost ?_⟩
  obtain ⟨turn, member, once, leads, mine⟩ := found units rendered
  refine ruled.kept turn member notes _ once (eq_ok_of_toOption leads) ?_ mine
  intro b among always lands
  exact elsewhere units rendered b among always lands.toOption_locate

end Refinement

end Generator
end Scaffold
