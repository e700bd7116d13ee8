import Scaffold.Proofs.Generator.Refinement
import Scaffold.Proofs.Java.ClassNames
import Scaffold.Proofs.Java.ModelSource
import Scaffold.Proofs.Java.StraightLine

/-!
# Mock responses agree with the model classes

A mock response and the model classes are made independently of each other: one from the entities that
references resolve to, the other from the references as they are written.  In an accepted project
both come to the same class names, so every setter that a mock response calls is declared by the file
of the class, and what is passed to it fits the type of its parameter as it is written there.
-/

namespace Scaffold
namespace Java
namespace Mock

open Manifest (Declaration EntityId FieldType Project)

/--
`Answers project whole module type argument`: in a body with the statements `whole`, the argument is
what a field of the type gets whose entity stands in `module`.
-/
inductive Answers
    (project : Project)
    (whole : List Statement)
    (module : String) : FieldType → Argument → Prop
  | plain
      {type : FieldType}
      (direct : ∀ reference, type ≠ .ref reference) :
      Answers project whole module type (plainArgument type)
  | constant
      {reference : String}
      {target : Declaration}
      (resolved : project.resolve? module reference = some target)
      (kind : target.entity.kind = .enumeration) :
      Answers project whole module (.ref reference) (constantOf target)
  | nothing
      {reference : String}
      {target : Declaration}
      (resolved : project.resolve? module reference = some target)
      (kind : target.entity.kind = .data) :
      Answers project whole module (.ref reference) .null
  | object
      {reference name : String}
      {target : Declaration}
      (resolved : project.resolve? module reference = some target)
      (created : .create (Naming.className target.name) name ∈ whole) :
      Answers project whole module (.ref reference) (.variableOf name)

/-- An object of concrete data that a body with the statements `whole` makes. -/
structure IsLocal
    (project : Project)
    (whole : List Statement)
    (o : Object) : Prop where
  created : o.creation ∈ whole
  declared : o.declaration ∈ project.declarations
  concrete : o.declaration.entity.isConcreteData = true

/--
`WellTyped project whole st`: in a body with the statements `whole`, the statement `st` makes an
object of concrete data, or sets a field of one to what answers to the type of the field.
-/
inductive WellTyped
    (project : Project)
    (whole : List Statement) : Statement → Prop
  | create
      {o : Object}
      {className name : String}
      (isLocal : IsLocal project whole o)
      (ofClass : o.className = className) :
      WellTyped project whole (.create className name)
  | set
      {o : Object}
      {name field : String}
      {type : FieldType}
      {argument : Argument}
      (isLocal : IsLocal project whole o)
      (named : o.name = name)
      (entry : (field, type) ∈ o.declaration.entity.fields.entries)
      (answers : Answers project whole o.declaration.module type argument) :
      WellTyped project whole (.set name field argument)
  | giveBack
      {name : String} :
      WellTyped project whole (.giveBack name)

/-- `Fits project whole argument type`: the argument can be passed where `type` is expected. -/
inductive Fits
    (project : Project)
    (whole : List Statement) : Argument → String → Prop
  | string : Fits project whole .string "String"
  | int : Fits project whole .int "int"
  | long : Fits project whole .long "long"
  | double : Fits project whole .double "double"
  | float : Fits project whole .float "float"
  | boolean : Fits project whole .boolean "boolean"
  | emptyList
      {item : String} :
      Fits project whole .emptyList ("List<" ++ item ++ ">")
  | object
      {className name : String}
      (created : .create className name ∈ whole) :
      Fits project whole (.variableOf name) className
  | constant
      {className name : String} :
      Fits project whole (.constant className name) className
  | null
      {d : Declaration}
      (declared : d ∈ project.declarations)
      (kind : d.entity.kind ≠ .request)
      (noPrimitive : Naming.className d.name ∉ TypeName.primitives) :
      Fits project whole .null (Naming.className d.name)

section Typing

variable {project : Project} {before after : Bench} {o : Object}
  {fields : List (String × FieldType)} {statements whole : List Statement}
  {module reference : String}

/-- The next object that is built is a local of the body. -/
theorem isLocal_next
    {target : Declaration}
    (resolved : project.resolve? module reference = some target)
    (concrete : target.entity.isConcreteData = true)
    (created : (before.next target).creation ∈ whole) :
    IsLocal project whole (before.next target) :=
  ⟨created, Project.mem_declarations_of_resolve resolved, concrete⟩

/-- Setting fields makes only statements that are well typed. -/
theorem Fills.wellTyped
    {result : Except Failure Unit}
    (h : Fills project before o fields statements result after)
    (within : statements ⊆ whole)
    (isLocal : IsLocal project whole o)
    (own : fields ⊆ o.declaration.entity.fields.entries) :
    ∀ st ∈ statements, WellTyped project whole st := by
  induction h with
  | done => exact fun _ member => nomatch member
  | unknown => exact fun _ member => nomatch member
  | request => exact fun _ member => nomatch member
  | plain direct _ ih =>
      refine List.forall_mem_cons.2 ⟨.set isLocal rfl (own List.mem_cons_self) (.plain direct), ?_⟩
      exact ih (List.subset_of_cons_subset within) isLocal (List.subset_of_cons_subset own)
  | constant resolved kind _ ih =>
      refine List.forall_mem_cons.2
        ⟨.set isLocal rfl (own List.mem_cons_self) (.constant resolved kind), ?_⟩
      exact ih (List.subset_of_cons_subset within) isLocal (List.subset_of_cons_subset own)
  | cut resolved kind _ _ ih =>
      refine List.forall_mem_cons.2
        ⟨.set isLocal rfl (own List.mem_cons_self) (.nothing resolved kind), ?_⟩
      exact ih (List.subset_of_cons_subset within) isLocal (List.subset_of_cons_subset own)
  | @built before between after o field reference rest target inside statements result
      resolved concrete fresh inner later ihInner ihLater =>
      have next := isLocal_next resolved concrete (within List.mem_cons_self)
      obtain ⟨made, set, others⟩ : inside ⊆ whole ∧
          .set o.name field (.variableOf (before.next target).name) ∈ whole ∧ statements ⊆ whole := by
        simpa using List.subset_of_cons_subset within
      refine List.forall_mem_append.2 ⟨List.forall_mem_cons.2 ⟨.create next rfl, ?_⟩,
        List.forall_mem_cons.2 ⟨?_, ?_⟩⟩
      · exact ihInner made next (List.Subset.refl _)
      · exact .set isLocal rfl (own List.mem_cons_self) (.object resolved next.created)
      · exact ihLater others isLocal (List.subset_of_cons_subset own)
  | @stopped before after o field reference rest target inside failure
      resolved concrete fresh inner ih =>
      have next := isLocal_next resolved concrete (within List.mem_cons_self)
      refine List.forall_mem_cons.2 ⟨.create next rfl, ?_⟩
      exact ih (List.subset_of_cons_subset within) next (List.Subset.refl _)

/-- A mock response of concrete data is well typed. -/
theorem Responds.wellTyped
    {target : Declaration}
    (h : Responds project module reference statements (.ok ()) after)
    (resolved : project.resolve? module reference = some target)
    (concrete : target.entity.isConcreteData = true) :
    ∀ st ∈ statements, WellTyped project statements st := by
  cases h with
  | @answered target' _ _ _ resolved' inner =>
      obtain rfl := Option.some.inj (resolved.symm.trans resolved')
      obtain ⟨-, rfl, inside, between, rfl, -, inner⟩ := inner.exists_fills
      have root : IsLocal project ((Bench.empty.next target).creation :: inside ++
          [.giveBack (Bench.empty.next target).name]) (Bench.empty.next target) :=
        isLocal_next resolved concrete List.mem_cons_self
      refine List.forall_mem_append.2 ⟨List.forall_mem_cons.2 ⟨.create root rfl, ?_⟩,
        List.forall_mem_cons.2 ⟨.giveBack, fun _ member => nomatch member⟩⟩
      exact inner.wellTyped (fun st member => by simp [member]) root (List.Subset.refl _)

/-- In an accepted project, what answers to a type fits the type as it is written. -/
theorem Answers.fits
    {type : FieldType}
    {argument : Argument}
    (h : Answers project whole module type argument)
    (accepted : project.Accepted) :
    Fits project whole argument (TypeName.ofField type) := by
  have class_eq : ∀ {reference target}, project.resolve? module reference = some target →
      TypeName.ofField (.ref reference) = Naming.className target.name :=
    fun resolved => accepted.className_of_resolve resolved
  have null : ∀ {reference target}, project.resolve? module reference = some target →
      target.entity.kind ≠ .request →
      Fits project whole .null (TypeName.ofField (.ref reference)) := by
    intro reference target resolved kind
    have known := Project.mem_declarations_of_resolve resolved
    rw [class_eq resolved]
    refine .null known kind ?_
    rw [accepted.className_eq known]
    exact TypeName.pascal_not_mem_primitives target.name
  cases h with
  | plain direct =>
      cases type with
      | ref reference => exact absurd rfl (direct reference)
      | list item => exact .emptyList
      | string => exact .string
      | int => exact .int
      | long => exact .long
      | double => exact .double
      | float => exact .float
      | boolean => exact .boolean
  | constant resolved kind =>
      unfold constantOf
      split
      · rw [class_eq resolved]
        exact .constant
      · exact null resolved (by simp [kind])
  | nothing resolved kind => exact null resolved (by simp [kind])
  | object resolved created =>
      rw [class_eq resolved]
      exact .object created

/-- A constant that is passed is one of the enumeration that its class is made from. -/
theorem Answers.constant_mem
    {type : FieldType}
    {className constant : String}
    (h : Answers project whole module type (.constant className constant)) :
    ∃ d ∈ project.declarations,
      d.entity.kind = .enumeration ∧ Naming.className d.name = className ∧
        constant ∈ d.entity.values := by
  generalize passed : Argument.constant className constant = argument at h
  cases h with
  | @plain type _ => cases type <;> cases passed
  | nothing => cases passed
  | object => cases passed
  | @constant _ target resolved kind =>
      cases values : target.entity.values with
      | nil => simp [constantOf, values] at passed
      | cons first others =>
          simp only [constantOf, values, Argument.constant.injEq] at passed
          obtain ⟨rfl, rfl⟩ := passed
          exact ⟨target, Project.mem_declarations_of_resolve resolved, kind, rfl, by simp [values]⟩

end Typing

end Mock
end Java

open Code (Operation)
open Java (Controller Model Statement)
open Java.Mock
open Manifest (Declaration Handler)

namespace Generator

/-- The class has a file in the run: that of the entity, and of no other. -/
structure HasModel
    (g : Generator)
    (className : String)
    (d : Declaration) : Prop where
  declared : d ∈ g.project.declarations
  isModel : d.entity.isModel = true
  named : (g.model d).className = className
  path : (g.model d).artifact.path =
    Java.classPath (Model.packageOf g.project.settings.package) className
  source : (g.model d).artifact ∈ g.sources
  emitted : ∀ tree units, g.artifacts tree = .ok units →
    ∃ unit ∈ units, Headed (g.model d).artifact unit
  only : ∀ e ∈ g.project.declarations, e.entity.isModel = true →
    (g.model e).className = className → e = d

section Agreement

variable {g : Generator} {d : Declaration}

/-- In an accepted project, every entity that becomes a model class is the only one of its class. -/
theorem hasModel
    (accepted : g.project.Accepted)
    (declared : d ∈ g.project.declarations)
    (isModel : d.entity.isModel = true) :
    g.HasModel (Naming.className d.name) d where
  declared := declared
  isModel := isModel
  named := rfl
  path := (g.model d).path_artifact
  source := mem_sources_of_model declared isModel
  emitted := fun _ _ done => exists_headed_of_artifacts done (mem_sources_of_model declared isModel)
  only := by
    intro e declared' isModel' same
    have sameClass : Naming.className e.name = Naming.className d.name := same
    rw [accepted.className_eq declared', accepted.className_eq declared] at sameClass
    exact Manifest.Project.eq_of_id_eq declared' declared
      (accepted.distinctModels e declared' d declared isModel' isModel sameClass)

/-- Every class of which a body makes an object has a file. -/
theorem hasModel_of_isLocal
    {whole : List Statement}
    {o : Object}
    (accepted : g.project.Accepted)
    (isLocal : IsLocal g.project whole o) :
    g.HasModel o.className o.declaration :=
  hasModel accepted isLocal.declared (Manifest.Entity.isModel_of_isConcreteData isLocal.concrete)

/-- A module with a handler has a controller with that handler. -/
theorem exists_controller_of_handler
    {module : String}
    {h : Handler}
    (among : h ∈ g.project.handlers module) :
    ∃ c, g.controller? module = some c ∧ h ∈ c.handlers := by
  cases handlers : g.project.handlers module with
  | nil => simp [handlers] at among
  | cons first rest =>
      have present : g.controller? module =
          some ⟨g.project, module, first :: rest, g.demoData, indentOf g.project.options⟩ := by
        simp only [controller?, handlers]
      exact ⟨_, present, handlers ▸ among⟩

/-- The controller of a module has its handlers and the demo data of the generator. -/
theorem controller_eq
    {module : String}
    {c : Controller}
    (present : g.controller? module = some c) :
    c.project = g.project ∧ c.demoData = g.demoData ∧ c.handlers = g.project.handlers module := by
  unfold controller? at present
  split at present
  · cases present
  · cases present
    exact ⟨rfl, rfl, rfl⟩

/--
The statements of a body agree with the model classes: every setter they call is declared by the file
of the class, and what is passed to it fits the type of its parameter; every class of which an object
is made and every enumeration of which a constant is passed has a file.
-/
structure Agrees
    (g : Generator)
    (statements : List Statement) : Prop where
  oneClass : ∀ className className' name,
    .create className name ∈ statements → .create className' name ∈ statements →
      className = className'
  setters : ∀ name field argument, .set name field argument ∈ statements →
    ∃ className d type, .create className name ∈ statements ∧ g.HasModel className d ∧
      (g.model d).DeclaresSetter field type ∧ Fits g.project statements argument type
  objects : ∀ className name, .create className name ∈ statements →
    ∃ d, d.entity.kind = .data ∧ g.HasModel className d
  constants : ∀ name field className constant,
    .set name field (.constant className constant) ∈ statements →
      ∃ d, d.entity.kind = .enumeration ∧ g.HasModel className d ∧
        constant ∈ d.entity.values ∧ (g.model d).ListsConstant constant

/-- A mock response of a concrete data entity agrees with the model classes. -/
theorem agrees_of_responds
    {statements : List Statement}
    {after : Bench}
    (accepted : g.project.Accepted)
    (declared : d ∈ g.project.declarations)
    (concrete : d.entity.isConcreteData = true)
    (responds : Responds g.project d.module d.name statements (.ok ()) after) :
    g.Agrees statements := by
  obtain ⟨root, others, -, straight⟩ := responds.straightLine
  have typed := responds.wellTyped (Manifest.Project.resolve_self declared) concrete
  constructor
  case oneClass => exact fun _ _ _ first second => straight.className_eq first second
  case setters =>
    intro name field argument member
    cases typed _ member with
    | @set o _ _ type _ isLocal named entry answers =>
        have declares : (g.model o.declaration).DeclaresSetter field (Java.TypeName.ofField type) :=
          Model.declaresSetter (Manifest.Entity.isConcreteData_iff.1 isLocal.concrete).1 entry
        exact ⟨o.className, o.declaration, Java.TypeName.ofField type, named ▸ isLocal.created,
          hasModel_of_isLocal accepted isLocal, declares, answers.fits accepted⟩
  case objects =>
    intro className name member
    cases typed _ member with
    | @create o _ _ isLocal ofClass =>
        exact ⟨o.declaration, (Manifest.Entity.isConcreteData_iff.1 isLocal.concrete).1,
          ofClass ▸ hasModel_of_isLocal accepted isLocal⟩
  case constants =>
    intro name field className constant member
    cases typed _ member with
    | set _ _ _ answers =>
        obtain ⟨e, known, kind, rfl, isConstant⟩ := answers.constant_mem
        have isModel : e.entity.isModel = true := by simp [Manifest.Entity.isModel, kind]
        have lists : (g.model e).ListsConstant constant := Model.listsConstant kind isConstant
        exact ⟨e, kind, hasModel accepted known isModel, isConstant, lists⟩

/-- The body of a handler with mock responses is the mock response of its own response. -/
theorem handlerBody_eq
    {module : String}
    {c : Controller}
    (mocked : g.demoData = some Java.Mock.demoData)
    (present : g.controller? module = some c)
    (h : Handler) :
    c.handlerBody h =
      Java.Mock.demoData.body g.project h.response.module h.response.name := by
  obtain ⟨sameProject, sameData, -⟩ := controller_eq present
  simp [Controller.handlerBody, sameData, mocked, sameProject]

/-- Where all references of a project hold, every mock response of a handler is made. -/
theorem handlerResult_of_hold
    {module : String}
    {c : Controller}
    (mocked : g.demoData = some Java.Mock.demoData)
    (hold : ∀ d ∈ g.project.declarations, ReferencesHold g.project d)
    (present : g.controller? module = some c) :
    ∀ h ∈ c.handlers, c.handlerResult h = .ok () := by
  intro h among
  obtain ⟨-, -, sameHandlers⟩ := controller_eq present
  obtain ⟨declared, concrete⟩ := Manifest.Project.response_of_mem_handlers (sameHandlers ▸ among)
  have isData : (g.project.resolve? h.response.module h.response.name).any
      (·.entity.kind = .data) := by
    simp [Manifest.Project.resolve_self declared, Manifest.Entity.isConcreteData_iff.1 concrete]
  rw [Controller.handlerResult, handlerBody_eq mocked present h]
  exact (result_operations _).trans (result_response_of_hold hold isData)

/-- Mock responses agree with the model classes of the same run.

In an accepted project, the body of every handler that is made consists of statements that call only
setters that the files of the model classes declare, with what fits the types written there. -/
theorem demo_data_agrees_with_models
    (g : Generator)
    (accepted : g.project.violation? = none)
    (mocked : g.demoData = some Java.Mock.demoData)
    {module : String}
    {c : Controller}
    (present : g.controller? module = some c)
    {h : Handler}
    (among : h ∈ c.handlers)
    (emitted : c.handlerResult h = .ok ()) :
    ∃ statements : List Statement,
      c.handlerBody h = Operation.each (statements.map Statement.render) ∧ g.Agrees statements := by
  obtain ⟨-, -, sameHandlers⟩ := controller_eq present
  obtain ⟨declared, concrete⟩ := Manifest.Project.response_of_mem_handlers (sameHandlers ▸ among)
  have body := handlerBody_eq mocked present h
  rw [Controller.handlerResult, body] at emitted
  obtain ⟨statements, after, responds⟩ := exists_responds_of_ok emitted
  have kept := Manifest.Project.violation?_eq_none_iff.1 accepted
  exact ⟨statements, body.trans responds.body_eq,
    agrees_of_responds kept declared concrete responds⟩

/-- The generator of a project with mock responses and the template files that come with it. -/
def mocking (project : Manifest.Project) : Generator :=
  ⟨project, some Java.Mock.demoData, .builtIn⟩

/-- A clinic with a request for a pet, which has a kind and a list of friends. -/
def clinic : Manifest.Project where
  settings := { name := "clinic" }
  modules := ⟨[("m", { entities := ⟨
    [("Pet", { kind := .data, fields := ⟨
        [("kind", .ref "Kind"), ("friends", .list (.ref "Pet"))], by decide⟩ }),
     ("Kind", { kind := .enumeration, values := ["CAT"] }),
     ("GetPet", { kind := .request, method := some "GET", response := some "Pet" })],
    by decide⟩ })], by decide⟩

theorem clinic_accepted : clinic.violation? = none := by
  decide +kernel

theorem clinic_references : ∀ d ∈ clinic.declarations, ReferencesHold clinic d := by
  decide +kernel

theorem exists_clinic_controller :
    ∃ c h, (mocking clinic).controller? "m" = some c ∧ h ∈ c.handlers := by
  obtain ⟨h, among, -⟩ : ∃ h ∈ clinic.handlers "m", h.response.name = "Pet" := by decide +kernel
  obtain ⟨c, present, own⟩ := exists_controller_of_handler (g := mocking clinic) among
  exact ⟨c, h, present, own⟩

theorem clinic_agrees_with_models :
    clinic.violation? = none ∧
      ∃ c h, (mocking clinic).controller? "m" = some c ∧ h ∈ c.handlers ∧
        c.handlerResult h = .ok () ∧
          ∃ statements : List Statement,
            c.handlerBody h = Operation.each (statements.map Statement.render) ∧
              (mocking clinic).Agrees statements := by
  obtain ⟨c, h, present, among⟩ := exists_clinic_controller
  have emitted := handlerResult_of_hold rfl clinic_references present h among
  exact ⟨clinic_accepted, c, h, present, among, emitted,
    demo_data_agrees_with_models (mocking clinic) clinic_accepted rfl present among emitted⟩

end Agreement

end Generator
end Scaffold
