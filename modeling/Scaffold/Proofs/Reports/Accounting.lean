import Scaffold.Generation
import Scaffold.Proofs.Generator.DistinctFiles
import Scaffold.Proofs.Generator.Regeneration
import Scaffold.Proofs.Java.ControllerSource
import Scaffold.Proofs.Reports.Remarks

/-!
# A check and a run agree

A check and a run each classify the requests of a project for themselves, the run after the overrides of
the caller, and the generator does it once more when it makes the controllers.  Overrides change neither
modules nor entities, so all three come to the same: the counts that both report are the numbers of
methods in the files of the controllers, and what is not counted is told about by the check.
-/

namespace Scaffold

open Java (Controller Model)
open Manifest (Declaration Handler Project)

namespace Manifest.Project

/-- Which handlers a module has depends on the modules of a project alone. -/
theorem handlers_congr
    {project other : Project}
    (same : other.modules = project.modules) :
    other.handlers = project.handlers ∧ other.declarationsIn = project.declarationsIn ∧
      other.classify = project.classify := by
  obtain ⟨settings, options, modules⟩ := project
  obtain ⟨settings', options', modules'⟩ := other
  obtain rfl : modules' = modules := same
  exact ⟨rfl, rfl, rfl⟩

end Manifest.Project

namespace Generator

/-- The file holds the controller of a module with a number of methods: one for each of its requests that
are classified as handlers, in the order in which they are declared. -/
def HoldsController
    (g : Generator)
    (project : Project)
    (count : String × Nat)
    (unit : Artifact) : Prop :=
  ∃ c text,
    g.controller? count.1 = some c ∧
      unit.path = c.artifact.path ∧
      unit.content = .ok (.text text) ∧
      c.Declares text (c.handlers.map Controller.header) ∧
      c.handlers.length = count.2 ∧
      c.handlers.map Handler.request =
        (project.declarationsIn count.1).filter fun d => (project.classify d).isOk

/-- The file holds a model class or the application class, or it is a template file. -/
def HoldsNoController
    (g : Generator)
    (tree : FileTree)
    (unit : Artifact) : Prop :=
  (∃ m ∈ g.models, Headed m.artifact unit) ∨ Headed g.application.artifact unit ∨
    ∃ templates, g.templates.artifacts tree g.tokens = .ok templates ∧ unit ∈ templates

/-- The controllers among the artifacts of a run: one for each module of the project that has handlers, in
the order of the modules. -/
structure ControllersAmong
    (g : Generator)
    (tree : FileTree)
    (project : Project)
    (units controllers : List Artifact) : Prop where
  ordered : controllers.Sublist units
  files : List.Forall₂ (g.HoldsController project)
    ((Report.moduleCounts project).filter (0 < ·.2)) controllers
  others : ∃ others, units.Perm (controllers ++ others) ∧
    ∀ unit ∈ others, g.HoldsNoController tree unit

section Controllers

variable {g : Generator} {project : Project} {tree new : FileTree} {base : Path}
  {units sources templates : List Artifact} {c : Controller} {unit a : Artifact} {written : Written}

/-- The numbers of handlers of the controllers are those of the modules that have some. -/
theorem map_controllers (g : Generator) :
    g.controllers.map (fun c => (c.module, c.handlers.length)) =
      (Report.moduleCounts g.project).filter (0 < ·.2) := by
  unfold controllers Report.moduleCounts OrderedMap.keys Entries.keys
  induction g.project.modules.entries with
  | nil => rfl
  | cons entry rest ih =>
      cases handlers : g.project.handlers entry.1 with
      | nil => simpa [controller?, handlers] using ih
      | cons h others => simpa [controller?, handlers] using ih

/-- What a rendered controller holds. -/
theorem holdsController_of_headed
    (same : g.project.modules = project.modules)
    (member : c ∈ g.controllers)
    (headed : Headed c.artifact unit) :
    g.HoldsController project (c.module, c.handlers.length) unit := by
  obtain ⟨handlers, declarationsIn, classify⟩ := Project.handlers_congr same
  have present := present_of_mem_controllers member
  obtain ⟨body, content, shape⟩ := headed
  have path : unit.path = c.artifact.path := by rw [shape]
  have holds : unit.content = .ok (.text (Java.generatedHeader ++ "\n" ++ body)) := by rw [shape]
  have rendered : c.artifact.renderWithHeader = .ok (Java.generatedHeader ++ "\n" ++ body) := by
    have rules : c.artifact.rules = .generated Java.generatedHeader := rfl
    simp [Artifact.renderWithHeader, Artifact.render, content, rules, WriteRules.generated]
  have eligible : c.handlers.map Handler.request =
      (project.declarationsIn c.module).filter fun d => (project.classify d).isOk := by
    rw [(controller_eq present).2.2, Project.map_request_handlers, declarationsIn, classify]
  exact ⟨c, Java.generatedHeader ++ "\n" ++ body, present, path, holds,
    c.declares_of_renderWithHeader rendered, rfl, eligible⟩

/-- What a run renders has the controllers of the modules among it. -/
theorem Emits.exists_controllersAmong
    (h : g.Emits tree sources templates)
    (same : g.project.modules = project.modules) :
    ∃ controllers, g.ControllersAmong tree project (sources ++ templates) controllers ∧
      controllers ⊆ sources := by
  obtain ⟨ofModules, application, rfl, inModules, last⟩ := exists_append_of_forall₂ h.headed
  obtain ⟨controllers, models, ordered, all, controllersHeaded, modelsHeaded⟩ :=
    exists_sorted_of_forall₂ inModules
  refine ⟨controllers, ⟨?_, ?_, models ++ (application ++ templates), ?_, ?_⟩, ?_⟩
  case refine_1 =>
    rw [List.append_assoc]
    exact ordered.trans (List.sublist_append_left _ _)
  case refine_2 =>
    have inOrder : List.Forall₂ (fun c unit => Headed c.artifact unit) g.controllers controllers := by
      rw [← List.filterMap_eq_flatMap_toList, ← List.map_filterMap] at controllersHeaded
      exact List.forall₂_map_left_iff.1 controllersHeaded
    have counts : (Report.moduleCounts project).filter (0 < ·.2) =
        g.controllers.map fun c => (c.module, c.handlers.length) := by
      have handlers := (Project.handlers_congr same).1
      rw [map_controllers, Report.moduleCounts, Report.moduleCounts, same, handlers]
    rw [counts, List.forall₂_map_left_iff]
    have members := (List.forall₂_and_left _ _).2 ⟨fun c member => member, inOrder⟩
    exact members.imp fun c unit ⟨member, headed⟩ => holdsController_of_headed same member headed
  case refine_3 =>
    simpa [List.append_assoc] using all.append_right (application ++ templates)
  case refine_4 =>
    intro unit member
    rcases List.mem_append.1 member with isModel | member
    · obtain ⟨source, among, headed⟩ := exists_of_forall₂_right modelsHeaded isModel
      obtain ⟨entry, known, isModel⟩ := List.mem_flatMap.1 among
      obtain ⟨d, modelOf, rfl⟩ := List.mem_map.1 isModel
      obtain ⟨among, isModel⟩ := List.mem_filter.1 modelOf
      exact .inl ⟨g.model d, mem_models.2 ⟨d, Project.mem_declarations.2 ⟨entry, known, among⟩,
        isModel, rfl⟩, headed⟩
    · rcases List.mem_append.1 member with isApplication | isTemplate
      · obtain ⟨source, among, headed⟩ := exists_of_forall₂_right last isApplication
        obtain rfl := List.mem_singleton.1 among
        exact .inr (.inl headed)
      · exact .inr (.inr ⟨templates, h.templates, isTemplate⟩)
  case refine_5 =>
    exact List.Subset.trans ordered.subset (List.subset_append_left _ _)

/-- A run that succeeds reports every artifact that replaces what is there as written. -/
theorem mem_written_of_always
    (done : g.generate base tree = (new, .ok written))
    (made : g.artifacts tree = .ok units)
    (member : a ∈ units)
    (always : a.rules.overwrite = .always) :
    a.path ∈ written.written := by
  obtain ⟨sources, templates, made', emits, taken, -⟩ := emits_of_generate done
  obtain rfl := Except.ok.inj (made'.symm.trans made)
  simp only [generate_eq, made, writeAll_of_taken taken] at done
  obtain ⟨-, told⟩ := Prod.mk.inj done
  rw [← Except.ok.inj told]
  rw [← map_artifact_turns base (sources ++ templates) tree] at member
  obtain ⟨turn, among, rfl⟩ := List.mem_map.1 member
  have rewrites : turn.keeps base = false := Artifact.keeps_of_always always
  exact List.mem_map.2 ⟨turn, List.mem_filter.2 ⟨among, by simp [rewrites]⟩, rfl⟩

end Controllers

end Generator

namespace GenerationRequest

section Runs

variable {request : GenerationRequest} {project overridden : Project} {tree new : FileTree}
  {report : GenerationReport}

/-- The overrides of the caller leave the modules alone. -/
theorem modules_of_applyTo
    (applied : request.applyTo project = .ok overridden) :
    overridden.modules = project.modules := by
  cases chosen : request.package with
  | none =>
      simp only [applyTo, chosen, pure, Except.pure, bind, Except.bind, Except.ok.injEq] at applied
      rw [← applied]
  | some package =>
      cases checked : Manifest.packageFlaw? package with
      | some flaw =>
          simp [applyTo, chosen, checked, bind, Except.bind, throw, throwThe,
            MonadExceptOf.throw] at applied
      | none =>
          simp only [applyTo, chosen, checked, pure, Except.pure, bind, Except.bind,
            Except.ok.injEq] at applied
          rw [← applied]

/-- What a run that succeeds has rendered, and what its report tells about it. -/
theorem emits_of_run
    (done : request.run project tree = (new, .ok report)) :
    report.project.modules = project.modules ∧
      ∃ sources templates,
        (Generator.ofProject report.project request.base).Emits tree sources templates ∧
          (report.result = .preview ((sources ++ templates).map Generator.shown) ∨
            ∃ files, report.result = .written request.outputDirectory files ∧
              (Generator.ofProject report.project request.base).generate request.outputDirectory
                tree = (new, .ok files)) := by
  cases applied : request.applyTo project with
  | error failure => simp [run_of_refused applied] at done
  | ok overridden =>
      have modules := modules_of_applyTo applied
      rw [run_of_applied applied] at done
      split at done
      · cases made : (Generator.ofProject overridden request.base).artifacts tree with
        | error failure => simp [Generator.preview_eq, made, Except.map, previewReport] at done
        | ok units =>
            obtain ⟨sources, templates, rfl, emits⟩ := Generator.exists_emits_of_artifacts made
            simp only [Generator.preview_eq, made, Except.map, previewReport, Prod.mk.injEq,
              Except.ok.injEq] at done
            obtain ⟨-, rfl⟩ := done
            exact ⟨modules, sources, templates, emits, .inl rfl⟩
      · rcases wrote : (Generator.ofProject overridden request.base).generate
          request.outputDirectory tree with ⟨last, failure | files⟩
        · simp [wrote, writtenReport] at done
        · obtain ⟨sources, templates, -, emits, -⟩ := Generator.emits_of_generate wrote
          simp only [wrote, writtenReport, Prod.mk.injEq, Except.ok.injEq] at done
          obtain ⟨rfl, rfl⟩ := done
          exact ⟨modules, sources, templates, emits, .inr ⟨files, rfl, wrote⟩⟩

end Runs

end GenerationRequest

/-- What a report tells about the artifacts of a run: a preview shows all of them, and the controllers are
among the files that were written. -/
def GenerationReport.Tells
    (r : GenerationReport)
    (units controllers : List Artifact) : Prop :=
  match r.result with
  | .preview files => files = units.map Generator.shown
  | .written _ files => ∀ unit ∈ controllers, unit.path ∈ files.written

section Agreement

variable {project : Project} {request : GenerationRequest} {tree new : FileTree}
  {report : GenerationReport}

/-- A check shows the counts of the modules. -/
theorem CheckReport.moduleParts_infix (r : CheckReport) :
    Report.moduleParts (Report.moduleCounts r.project) <:+: r.parts :=
  ⟨r.warnings.map .warning ++ r.infos.map (fun info => .text ("info: " ++ info)) ++
      (if r.warnings.isEmpty && r.infos.isEmpty then [] else [.blank]) ++
      [.text (Report.titleLine r.project)],
    [.blank, .text ("✓ " ++ r.configPath.text ++ " is valid")], by simp [CheckReport.parts]⟩

/-- The report on files that were written shows the counts of the modules. -/
theorem GenerationReport.moduleParts_infix
    {directory : Path}
    {files : Written}
    (written : report.result = .written directory files) :
    Report.moduleParts (Report.moduleCounts report.project) <:+: report.parts := by
  have whole : report.parts = report.writtenParts directory files := by simp [parts, written]
  rw [whole, writtenParts, List.append_assoc, List.append_assoc]
  exact List.infix_append _ _ _

/-- A check and a run count the same handlers, which are the methods that the run renders, and the check
accounts for every other request.

For an accepted project, whatever the overrides of a run that succeeds, its report has the counts of the
check.  Of what the run renders, the controllers are one for each module with a positive count, in the
order of the modules; the class of each has as many methods as are counted, for the requests that are
classified as handlers, as they are declared.  The check warns of each request without a method or a
response and tells of each abstract one, in one line; it has no line about any other entity. -/
theorem check_and_run_account_for_requests
    (config : Path)
    (accepted : project.violation? = none)
    (done : request.run project tree = (new, .ok report)) :
    let checked := CheckReport.ofProject project config
    let counts := Report.moduleCounts checked.project
    let g := Generator.ofProject report.project request.base
    Report.moduleCounts report.project = counts ∧
      Report.moduleParts counts <:+: checked.parts ∧
      (∀ directory files, report.result = .written directory files →
        Report.moduleParts counts <:+: report.parts) ∧
      (∃ units controllers, g.artifacts tree = .ok units ∧ report.Tells units controllers ∧
        g.ControllersAmong tree project units controllers) ∧
      checked.Accounts := by
  obtain ⟨modules, sources, templates, emits, told⟩ := GenerationRequest.emits_of_run done
  have counts : Report.moduleCounts report.project = Report.moduleCounts project := by
    rw [Report.moduleCounts, Report.moduleCounts, modules, (Project.handlers_congr modules).1]
  obtain ⟨controllers, among, rendered⟩ := emits.exists_controllersAmong modules
  have tells : report.Tells (sources ++ templates) controllers := by
    unfold GenerationReport.Tells
    rcases told with preview | ⟨files, written, generated⟩
    · rw [preview]
    · rw [written]
      intro unit member
      exact Generator.mem_written_of_always generated emits.artifacts_eq
        (List.mem_append_left templates (rendered member)) (emits.rendered_sources (rendered member)).1
  refine ⟨counts, CheckReport.moduleParts_infix _, fun directory files written => ?_,
    ⟨_, controllers, emits.artifacts_eq, tells, among⟩,
    CheckReport.accounts_ofProject (Project.violation?_eq_none_iff.1 accepted) config⟩
  have shown := GenerationReport.moduleParts_infix written
  rwa [counts] at shown

/-- A shop with a request for an order, two that cannot be handled and an abstract one. -/
def orderDesk : Project where
  settings := { name := "shop" }
  modules := ⟨[
    ("orders", { entities := ⟨
      [("Order", { kind := .data }),
       ("GetOrder", { kind := .request, method := some "GET", response := some "Order" }),
       ("BaseRequest", { kind := .request, isAbstract := true }),
       ("Cancel", { kind := .request, method := some "CANCEL", response := some "Order" })],
      by decide⟩ }),
    ("reports", { entities := ⟨[("Summary", { kind := .request, method := some "GET" })],
      by decide⟩ })], by decide⟩

/-- A run that shows what would be written, in a package of the caller. -/
def viewing : GenerationRequest :=
  ⟨⟨"javelin.toml"⟩, ⟨"out"⟩, true, false, some "org.shop"⟩

theorem exists_view_of_orderDesk :
    ∃ report, viewing.run orderDesk .empty = (.empty, .ok report) := by
  have usable : Manifest.packageFlaw? "org.shop" = none := by decide +kernel
  cases applied : viewing.applyTo orderDesk with
  | error failure =>
      simp [viewing, GenerationRequest.applyTo, usable, bind, Except.bind, pure,
        Except.pure] at applied
  | ok overridden =>
      have options : overridden.options.demoData = false ∧ overridden.options.templates = none := by
        simp only [viewing, GenerationRequest.applyTo, usable, bind, Except.bind, pure, Except.pure,
          Except.ok.injEq] at applied
        rw [← applied]
        exact ⟨rfl, rfl⟩
      have demo : (Generator.ofProject overridden viewing.base).demoData = none := by
        simp [Generator.ofProject, options]
      have templates : (Generator.ofProject overridden viewing.base).templates = .builtIn := by
        simp [Generator.ofProject, TemplateSource.ofProject, options]
      obtain ⟨units, -, previewed⟩ :=
        Generator.exists_preview_of_placeholders .empty demo templates
      have shows : viewing.dryRun = true := rfl
      exact ⟨⟨overridden, .preview (units.map Generator.shown)⟩, by
        simp [GenerationRequest.run_of_applied applied, shows, previewed,
          GenerationRequest.previewReport]⟩

/-- The order desk has one handler and so one controller, is warned of two requests, and is told about the
abstract one and about the module without handlers. -/
theorem orderDesk_is_accounted_for :
    orderDesk.violation? = none ∧
      (∃ report units controllers,
        viewing.run orderDesk .empty = (.empty, .ok report) ∧
          Report.moduleCounts report.project = [("orders", 1), ("reports", 0)] ∧
          (Generator.ofProject report.project viewing.base).artifacts .empty = .ok units ∧
          report.Tells units controllers ∧ controllers.length = 1) ∧
      (CheckReport.ofProject orderDesk viewing.configPath).Accounts ∧
      (CheckReport.ofProject orderDesk viewing.configPath).warnings =
        ["orders.Cancel: unrecognized HTTP method 'CANCEL'", "reports.Summary: no response type"] ∧
      (CheckReport.ofProject orderDesk viewing.configPath).infos =
        ["orders.BaseRequest: abstract request",
         "module 'reports' has no eligible requests, no controller will be generated"] := by
  have accepted : orderDesk.violation? = none := by decide +kernel
  have counts : Report.moduleCounts orderDesk = [("orders", 1), ("reports", 0)] := by decide +kernel
  obtain ⟨report, done⟩ := exists_view_of_orderDesk
  obtain ⟨same, -, -, ⟨units, controllers, made, tells, among⟩, accounts⟩ :=
    check_and_run_account_for_requests viewing.configPath accepted done
  have one : controllers.length = 1 := by
    rw [← among.files.length_eq, counts]
    rfl
  refine ⟨accepted, ⟨report, units, controllers, done, same.trans counts, made, tells, one⟩, accounts,
    ?_, ?_⟩
  · decide +kernel
  · decide +kernel

end Agreement

end Scaffold
