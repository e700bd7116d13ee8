import Scaffold.Proofs.Generator.DistinctFiles

/-!
# What a run fails with

A run renders units of which it knows that they can be rendered: the response of a handler is concrete
data, which its module declares under its name; only data and enumerations become model classes; and what
a source is rendered to is text.  So with the program's own template files and without demo data nothing
keeps a run from being rendered.  With mock responses it is a field of an entity that a response reaches,
when the field refers to nothing or to a request.  Then the system may still refuse a write.
-/

namespace Scaffold

open Java (Controller)
open Java.Mock (Blames Reaches ReferencesHold)
open Manifest (Declaration FieldType Handler Project)

/-- A failure that tells of a unit which should not have been rendered at all: a response that is missing
or no data, a request as a model class, bytes where there should be text. -/
inductive Failure.IsMisuse : Failure → Prop
  | unknownResponse (response module : String) : IsMisuse (.unknownResponse response module)
  | notConstructible (name : String) (kind : Manifest.EntityKind) :
      IsMisuse (.notConstructible name kind)
  | requestAsModel (name : String) : IsMisuse (.requestAsModel name)
  | binaryAsText (path : Path) : IsMisuse (.binaryAsText path)

namespace Java.Mock

section Misrefers

variable {project : Project} {d : Declaration} {failure : Failure}

/-- A field of an entity is a direct reference to nothing or to a request. -/
def Misrefers
    (project : Project)
    (d : Declaration) : Prop :=
  ∃ field reference, (field, FieldType.ref reference) ∈ d.entity.fields.entries ∧
    (project.resolve? d.module reference = none ∨
      ∃ target, project.resolve? d.module reference = some target ∧
        target.entity.kind = .request)

theorem Blames.misrefers (h : Blames project d failure) : Misrefers project d := by
  cases h with
  | unknown refers missing => exact ⟨_, _, refers, .inl missing⟩
  | request refers resolved kind => exact ⟨_, _, refers, .inr ⟨_, resolved, kind⟩⟩

theorem Blames.not_isMisuse (h : Blames project d failure) : ¬ failure.IsMisuse := by
  intro misuse
  cases h <;> cases misuse

/-- The references of an entity hold unless one of them refers to nothing or to a request. -/
theorem misrefers_iff_not_referencesHold :
    Misrefers project d ↔ ¬ ReferencesHold project d := by
  constructor
  · rintro ⟨field, reference, refers, missing | ⟨target, resolved, kind⟩⟩
    · exact (Blames.unknown refers missing).not_referencesHold
    · exact (Blames.request refers resolved kind).not_referencesHold
  · intro broken
    by_contra none
    refine broken fun field reference refers => ?_
    cases found : project.resolve? d.module reference with
    | none => exact absurd ⟨field, reference, refers, .inl found⟩ none
    | some target =>
        refine ⟨target, rfl, ?_⟩
        cases kind : target.entity.kind with
        | data => exact .inl rfl
        | enumeration => exact .inr rfl
        | request => exact absurd ⟨field, reference, refers, .inr ⟨target, found, kind⟩⟩ none

end Misrefers

end Java.Mock

open Java.Mock (Misrefers)

section Writing

variable {base : Path} {tree : FileTree} {failure : Failure}

/-- Only the system can keep a rendered artifact from being written. -/
theorem Artifact.Rendered.write_eq_error
    {a : Artifact}
    {content : Content}
    (h : a.Rendered content)
    (failed : (a.write tree base).2 = .error failure) :
    failure = .refusedBySystem := by
  simp only [Artifact.write_eq, h.bytes_eq] at failed
  split at failed
  · cases failed
  · split at failed
    · cases failed
    · exact (Except.error.inj failed).symm

/-- Only the system can keep rendered artifacts from being written. -/
theorem Generator.writeAll_eq_error
    {units : List Artifact}
    (rendered : ∀ a ∈ units, ∃ content, a.Rendered content)
    (failed : (Generator.writeAll base units tree).2 = .error failure) :
    failure = .refusedBySystem := by
  induction units generalizing tree with
  | nil => cases failed
  | cons a rest ih =>
      obtain ⟨content, first⟩ := rendered a List.mem_cons_self
      rw [Generator.writeAll_cons] at failed
      rcases wrote : a.write tree base with ⟨new, reason | result⟩
      · simp only [wrote] at failed
        obtain rfl : reason = failure := Except.error.inj failed
        have stopped : (a.write tree base).2 = .error reason := by rw [wrote]
        exact first.write_eq_error stopped
      · simp only [wrote] at failed
        rcases later : Generator.writeAll base rest new with ⟨last, reason | written⟩
        · simp only [later] at failed
          obtain rfl : reason = failure := Except.error.inj failed
          exact ih (fun b member => rendered b (List.mem_cons_of_mem _ member)) (by rw [later])
        · simp [later] at failed

end Writing

namespace Generator

section FailureCauses

variable {g : Generator} {base : Path} {tree : FileTree} {failure : Failure} {module : String}
  {c : Controller} {h : Handler}

/-- A run that writes fails with what rendering fails with, or the system refuses a write. -/
theorem firstFailure_or_refused_of_generate
    (failed : (g.generate base tree).2 = .error failure) :
    g.FirstFailure tree.visits failure ∨ failure = .refusedBySystem := by
  rw [generate_eq] at failed
  cases done : g.artifacts tree with
  | error first =>
      have same : first = failure := by simpa [done] using failed
      exact .inl (same ▸ artifacts_eq_error.1 done)
  | ok units =>
      obtain ⟨sources, templates, rfl, emits⟩ := exists_emits_of_artifacts done
      simp only [done] at failed
      exact .inr (writeAll_eq_error (fun _ member => emits.rendered member) failed)

/-- The mock response of a handler fails exactly when the response reaches an entity that refers to
nothing or to a request. -/
theorem handlerResult_eq_ok_iff
    (mocked : g.demoData = some Java.Mock.demoData)
    (present : g.controller? module = some c)
    (among : h ∈ c.handlers) :
    c.handlerResult h = .ok () ↔
      ∀ d, Reaches g.project h.response d → ReferencesHold g.project d := by
  obtain ⟨-, -, sameHandlers⟩ := controller_eq present
  obtain ⟨declared, concrete⟩ := Project.response_of_mem_handlers (sameHandlers ▸ among)
  have itself := Project.resolve_self declared
  rw [Controller.handlerResult, handlerBody_eq mocked present h, Java.Mock.demoData,
    Java.Mock.result_operations, Java.Mock.result_response_eq_ok_iff]
  constructor
  · rintro ⟨target, found, -, hold⟩
    obtain rfl := Option.some.inj (itself.symm.trans found)
    exact hold
  · exact fun hold => ⟨h.response, itself, (Manifest.Entity.isConcreteData_iff.1 concrete).1, hold⟩

/-- What the mock response of a handler fails with blames an entity that the response reaches. -/
theorem exists_blames_of_handlerResult
    (mocked : g.demoData = some Java.Mock.demoData)
    (present : g.controller? module = some c)
    (among : h ∈ c.handlers)
    (failed : c.handlerResult h = .error failure) :
    ∃ d, Reaches g.project h.response d ∧ Blames g.project d failure := by
  obtain ⟨-, -, sameHandlers⟩ := controller_eq present
  obtain ⟨declared, concrete⟩ := Project.response_of_mem_handlers (sameHandlers ▸ among)
  have itself := Project.resolve_self declared
  obtain ⟨statements, result, after, responds⟩ :=
    Java.Mock.exists_responds g.project h.response.module h.response.name
  rw [Controller.handlerResult, handlerBody_eq mocked present h, Java.Mock.demoData,
    Java.Mock.result_operations, responds.response_eq] at failed
  obtain rfl : result = .error failure := failed
  rcases responds.fails with ⟨missing, -⟩ | ⟨target, found, refused | ⟨-, d, path, blamed⟩⟩
  · cases missing.symm.trans itself
  · obtain rfl := Option.some.inj (found.symm.trans itself)
    exact absurd (Manifest.Entity.isConcreteData_iff.1 concrete).1 refused.1
  · obtain rfl := Option.some.inj (found.symm.trans itself)
    exact ⟨d, path, blamed⟩

/-- The generator with placeholders for a project. -/
def placeholding (project : Project) : Generator :=
  ⟨project, none, .builtIn⟩

/-- The demo data of a generator is none or made of mock responses. -/
def Standard (g : Generator) : Prop :=
  g.demoData = none ∨ g.demoData = some Java.Mock.demoData

/-- The generator of a project has demo data as its options say, which is standard either way. -/
theorem standard_ofProject
    (project : Project)
    (base : Path) :
    (ofProject project base).Standard := by
  unfold Standard ofProject
  split
  · exact .inr rfl
  · exact .inl rfl

/-- A handler of a standard generator never fails with a misuse. -/
theorem Standard.not_isMisuse_handlerResult
    (standard : g.Standard)
    (present : g.controller? module = some c)
    (among : h ∈ c.handlers)
    (failed : c.handlerResult h = .error failure) :
    ¬ failure.IsMisuse := by
  rcases standard with demo | mocked
  · obtain ⟨-, sameData, -⟩ := controller_eq present
    rw [Controller.handlerResult, Controller.handlerBody, sameData, demo] at failed
    cases failed
  · obtain ⟨d, -, blamed⟩ := exists_blames_of_handlerResult mocked present among failed
    exact blamed.not_isMisuse

/-- No source of a standard generator fails with a misuse, wherever it stands in the run. -/
theorem Standard.not_isMisuse_render
    (standard : g.Standard)
    {a : Artifact}
    (member : a ∈ g.sources)
    (failed : a.render = .error failure) :
    ¬ failure.IsMisuse := by
  have byKind := g.perm_sources.mem_iff.1 member
  rcases List.mem_append.1 byKind with classes | application
  · rcases List.mem_append.1 classes with controller | model
    · obtain ⟨c, known, rfl⟩ := List.mem_map.1 controller
      obtain ⟨module, present⟩ := mem_controllers.1 known
      obtain ⟨front, h, back, whole, -, fails⟩ := c.render_artifact_eq_error.1 failed
      exact standard.not_isMisuse_handlerResult present (by simp [whole]) fails
    · obtain ⟨m, known, rfl⟩ := List.mem_map.1 model
      obtain ⟨d, -, isModel, rfl⟩ := mem_models.1 known
      exact absurd failed ((g.model d).renders_artifact isModel failure)
  · obtain rfl := List.mem_singleton.1 application
    exact absurd failed (g.application.renders_artifact failure)

/-- What a standard run with the program's own template files fails with is no misuse. -/
theorem Standard.not_isMisuse_of_firstFailure
    (standard : g.Standard)
    (templates : g.templates = .builtIn)
    {visits : Path → List Template.Visit}
    (first : g.FirstFailure visits failure) :
    ¬ failure.IsMisuse := by
  rcases handlers_or_templates_of_firstFailure first with
    ⟨entry, -, c, present, front, h, back, whole, -, fails⟩ | unreadable
  · exact standard.not_isMisuse_handlerResult present (by simp [whole]) fails
  · rw [templates] at unreadable
    cases unreadable

/-- With mock responses and the program's own template files, a run fails exactly when a response reaches
an entity that refers to nothing or to a request. -/
theorem exists_preview_eq_error_iff
    (mocked : g.demoData = some Java.Mock.demoData)
    (templates : g.templates = .builtIn) :
    (∃ failure, g.preview tree = .error failure) ↔
      ∃ module, ∃ h ∈ g.project.handlers module,
        ∃ d, Reaches g.project h.response d ∧ Misrefers g.project d := by
  constructor
  · rintro ⟨failure, failed⟩
    rcases handlers_or_templates_of_firstFailure (preview_eq_error.1 failed) with
      ⟨entry, -, c, present, front, h, back, whole, -, fails⟩ | unreadable
    · have among : h ∈ c.handlers := by simp [whole]
      obtain ⟨d, path, blamed⟩ := exists_blames_of_handlerResult mocked present among fails
      obtain ⟨-, -, sameHandlers⟩ := controller_eq present
      exact ⟨entry.1, h, sameHandlers ▸ among, d, path, blamed.misrefers⟩
    · rw [templates] at unreadable
      cases unreadable
  · rintro ⟨module, h, known, d, path, misrefers⟩
    obtain ⟨c, present, among⟩ := exists_controller_of_handler known
    obtain ⟨m, member⟩ := mem_entries_of_controller present
    cases ended : c.handlerResult h with
    | ok =>
        have hold := (handlerResult_eq_ok_iff mocked present among).1 ended d path
        exact absurd hold (Java.Mock.misrefers_iff_not_referencesHold.1 misrefers)
    | error reason =>
        have fails : g.Fails tree.visits := .handler member present among ended
        obtain ⟨failure, first⟩ := fails_iff_exists_firstFailure.1 fails
        exact ⟨failure, preview_eq_error.2 first⟩

/-- With the program's own template files, everything that a run renders is text. -/
theorem renders_of_mem_artifacts
    {units : List Artifact}
    (templates : g.templates = .builtIn)
    (done : g.artifacts tree = .ok units)
    {a : Artifact}
    (member : a ∈ units) :
    a.Renders := by
  obtain ⟨sources, files, rfl, emits⟩ := exists_emits_of_artifacts done
  rcases List.mem_append.1 member with source | file
  · obtain ⟨s, -, body, -, rfl⟩ := emits.exists_source source
    exact ⟨_, rfl⟩
  · have made := emits.templates
    rw [templates] at made
    obtain rfl := Except.ok.inj made
    obtain ⟨entry, -, rfl⟩ := List.mem_map.1 file
    exact ⟨_, rfl⟩

/-- Rendering fails only where it must.

With the program's own template files, a project without demo data is always shown.  With mock responses
it is not exactly when the response of some handler reaches, along direct references to concrete data, an
entity with a direct reference to nothing or to a request.  Neither run fails with a misuse: no source
does, wherever it stands, nor does the run as a whole, and whatever it renders is text. -/
theorem rendering_fails_only_on_misreferences
    (project : Project)
    (tree : FileTree) :
    (∃ files, (placeholding project).preview tree = .ok files) ∧
      ((∃ failure, (mocking project).preview tree = .error failure) ↔
        ∃ module, ∃ h ∈ project.handlers module,
          ∃ d, Reaches project h.response d ∧ Misrefers project d) ∧
      ∀ g ∈ [placeholding project, mocking project],
        (∀ a ∈ g.sources, ∀ failure, a.render = .error failure → ¬ failure.IsMisuse) ∧
          (∀ failure, g.preview tree = .error failure → ¬ failure.IsMisuse) ∧
          (∀ base failure, (g.generate base tree).2 = .error failure → ¬ failure.IsMisuse) ∧
          ∀ units, g.artifacts tree = .ok units → ∀ a ∈ units, a.Renders := by
  refine ⟨?_, ?_, ?_⟩
  · obtain ⟨units, -, previewed⟩ :=
      exists_preview_of_placeholders (g := placeholding project) tree rfl rfl
    exact ⟨_, previewed⟩
  · exact exists_preview_eq_error_iff rfl rfl
  · intro g chosen
    have known : g.templates = .builtIn ∧ g.Standard := by
      rcases List.mem_pair.1 chosen with rfl | rfl
      · exact ⟨rfl, .inl rfl⟩
      · exact ⟨rfl, .inr rfl⟩
    obtain ⟨templates, standard⟩ := known
    refine ⟨fun a member failure => standard.not_isMisuse_render member,
      fun failure failed => ?_, fun base failure failed => ?_,
      fun units done a => renders_of_mem_artifacts templates done⟩
    · exact standard.not_isMisuse_of_firstFailure templates (preview_eq_error.1 failed)
    · rcases firstFailure_or_refused_of_generate failed with first | rfl
      · exact standard.not_isMisuse_of_firstFailure templates first
      · nofun

end FailureCauses

end Generator
end Scaffold
