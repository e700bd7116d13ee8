import Scaffold.Proofs.Generator.Members
import Scaffold.Proofs.Java.ControllerImports

/-!
# The variables of a handler

The variables of a handler with mock responses get their names by three schemes.  The parameter for a
path variable is named for it in the case of variables, that for the body is `body`, and a local variable
is named after its class, with a number where another local variable has that name.  Each scheme keeps
its own names apart, and none looks at those of the others: a path variable may be named like the body,
and a parameter like a local variable, as a path variable that is named like the response always is.
-/

namespace Scaffold

open Code (Operation)
open Manifest (Declaration FieldType Handler Project)

namespace Java

namespace Mock

/-- The local variables that statements declare, in order. -/
def locals (statements : List Statement) : List String :=
  (statements.filterMap Statement.declared?).map Prod.snd

/-- A statement names the local variable that it declares, if any, after the class of its object. -/
def NamedAfterClass (st : Statement) : Prop :=
  ∀ className name, st = .create className name →
    ∃ n, name = candidate (Naming.camel className) n

section Locals

variable {project : Project} {before after : Bench} {o : Object} {target : Declaration}
  {fields : List (String × FieldType)} {statements : List Statement} {module reference : String}

theorem mem_locals
    {className name : String}
    (member : .create className name ∈ statements) :
    name ∈ locals statements :=
  List.mem_map.2 ⟨(className, name), List.mem_filterMap.2 ⟨_, member, rfl⟩, rfl⟩

/-- The local variables of straight-line code have different names. -/
theorem StraightLine.nodup_locals
    {objects : List Object}
    (h : StraightLine objects statements) :
    (locals statements).Nodup := by
  have names : locals statements = objects.map Object.name := by
    simp [locals, h.declared, Function.comp_def]
  exact names ▸ h.distinct

theorem freshName_nil (className : String) :
    freshName className [] = Naming.camel className := by
  simp [freshName, candidate]

theorem namedAfterClass_creation
    (b : Bench)
    (d : Declaration) :
    NamedAfterClass (b.next d).creation := by
  intro className name same
  obtain ⟨rfl, rfl⟩ := Statement.create.inj same
  obtain ⟨n, -, chosen, -⟩ := exists_freshName_eq (Naming.className d.name) b.used
  exact ⟨n, chosen⟩

theorem namedAfterClass_set
    (name field : String)
    (argument : Argument) :
    NamedAfterClass (.set name field argument) :=
  nofun

/-- Setting fields declares only local variables that are named after their classes. -/
theorem Fills.namedAfterClass
    {result : Except Failure Unit}
    (h : Fills project before o fields statements result after) :
    ∀ st ∈ statements, NamedAfterClass st := by
  induction h with
  | done => simp
  | unknown => simp
  | request => simp
  | plain _ _ ih => exact List.forall_mem_cons.2 ⟨namedAfterClass_set _ _ _, ih⟩
  | constant _ _ _ ih => exact List.forall_mem_cons.2 ⟨namedAfterClass_set _ _ _, ih⟩
  | cut _ _ _ _ ih => exact List.forall_mem_cons.2 ⟨namedAfterClass_set _ _ _, ih⟩
  | built _ _ _ _ _ ihInner ihLater =>
      exact List.forall_mem_append.2
        ⟨List.forall_mem_cons.2 ⟨namedAfterClass_creation _ _, ihInner⟩,
          List.forall_mem_cons.2 ⟨namedAfterClass_set _ _ _, ihLater⟩⟩
  | stopped _ _ _ _ ih => exact List.forall_mem_cons.2 ⟨namedAfterClass_creation _ _, ih⟩

/-- A mock response first declares a local variable that is named like the class of the response, and
all others are named after their classes too. -/
theorem Responds.locals_named
    (h : Responds project module reference statements (.ok ()) after)
    (resolved : project.resolve? module reference = some target) :
    Naming.camel (Naming.className target.name) ∈ locals statements ∧
      ∀ st ∈ statements, NamedAfterClass st := by
  cases h with
  | @answered found made name _ hit inner =>
      obtain rfl := Option.some.inj (hit.symm.trans resolved)
      obtain ⟨-, rfl, inside, between, rfl, -, inner⟩ := inner.exists_fills
      have first : (Bench.empty.next found).name = Naming.camel (Naming.className found.name) :=
        freshName_nil _
      constructor
      · rw [← first]
        exact mem_locals (List.mem_append_left _ List.mem_cons_self)
      · refine List.forall_mem_append.2 ⟨List.forall_mem_cons.2
          ⟨namedAfterClass_creation _ _, inner.namedAfterClass⟩, List.forall_mem_singleton.2 ?_⟩
        exact nofun

end Locals

end Mock

namespace Controller

/-- The statements of the mock response of a handler. -/
def statements
    (c : Controller)
    (h : Handler) : List Statement :=
  (Mock.response c.project h.response.module h.response.name).statements

/-- The local variables of a handler with a mock response. -/
def localNames
    (c : Controller)
    (h : Handler) : List String :=
  Mock.locals (c.statements h)

section Variables

variable {h : Handler}

/-- The parameters have different names unless the handler takes a body and a path variable is named
like it. -/
theorem nodup_parameterNames_iff
    (distinct : (variableNames h).Nodup) :
    (parameterNames h).Nodup ↔ (takesBody h = true → "body" ∉ variableNames h) := by
  rw [parameterNames_eq]
  cases takesBody h with
  | false => simpa using distinct
  | true => simp [List.nodup_append', distinct]

end Variables

end Controller

end Java

namespace Generator

open Java (Controller Statement)

section HandlerVariables

variable {g : Generator} {c : Controller} {h : Handler}

/-- The mock response of a handler that is made. -/
theorem exists_responds_of_controller
    (mocked : g.demoData = some Java.Mock.demoData)
    (member : c ∈ g.controllers)
    (made : c.handlerResult h = .ok ()) :
    ∃ after, Java.Mock.Responds c.project h.response.module h.response.name (c.statements h)
      (.ok ()) after := by
  obtain ⟨module, present⟩ := mem_controllers.1 member
  have sameProject := (controller_eq present).1
  rw [Controller.handlerResult, handlerBody_eq mocked present h, ← sameProject] at made
  obtain ⟨statements, after, responds⟩ := Java.Mock.exists_responds_of_ok made
  refine ⟨after, ?_⟩
  rw [Controller.statements, responds.response_eq]
  exact responds

/-- One local variable of a handler is named like the class that is returned, and each is named after its
class. -/
theorem locals_named_of_controller
    (mocked : g.demoData = some Java.Mock.demoData)
    (member : c ∈ g.controllers)
    (among : h ∈ c.handlers)
    (made : c.handlerResult h = .ok ()) :
    Naming.camel (Controller.responseClass h) ∈ c.localNames h ∧
      ∀ st ∈ c.statements h, Java.Mock.NamedAfterClass st := by
  obtain ⟨module, present⟩ := mem_controllers.1 member
  obtain ⟨sameProject, -, sameHandlers⟩ := controller_eq present
  obtain ⟨after, responds⟩ := exists_responds_of_controller mocked member made
  refine responds.locals_named ?_
  rw [sameProject]
  exact Project.resolve_self (Project.response_of_mem_handlers (sameHandlers ▸ among)).1

/-- The variables of a handler are distinct unless a parameter is named like another one.

In an accepted project, when the file of a controller with mock responses is rendered, the body of each
handler is made of the statements of its mock response.  The path variables of a handler have different
names, and so have its local variables; one of these is named like the class that is returned, and each
of them like its class and perhaps a number.  All names of parameters and local variables together are
different exactly when no path variable of a handler with a body is named like the body and no parameter
like a local variable. -/
theorem handler_variables_are_distinct_unless_parameters_clash
    (g : Generator)
    (accepted : g.project.violation? = none)
    (mocked : g.demoData = some Java.Mock.demoData)
    {c : Controller}
    (member : c ∈ g.controllers)
    {text : String}
    (rendered : c.artifact.renderWithHeader = .ok text) :
    ∀ h ∈ c.handlers,
      c.handlerBody h = Operation.each ((c.statements h).map Statement.render) ∧
        (Controller.variableNames h).Nodup ∧
        (c.localNames h).Nodup ∧
        Naming.camel (Controller.responseClass h) ∈ c.localNames h ∧
        (∀ className name, .create className name ∈ c.statements h →
          ∃ n, name = Java.Mock.candidate (Naming.camel className) n) ∧
        ((Controller.parameterNames h ++ c.localNames h).Nodup ↔
          (Controller.takesBody h = true → "body" ∉ Controller.variableNames h) ∧
            ∀ name ∈ Controller.parameterNames h, name ∉ c.localNames h) := by
  intro h among
  have kept := Project.violation?_eq_none_iff.1 accepted
  obtain ⟨module, present⟩ := mem_controllers.1 member
  obtain ⟨declared, kind⟩ := request_of_mem_controllers member among
  have distinct : (Controller.variableNames h).Nodup := kept.distinctPathVariables _ declared kind
  have made := Controller.exists_renderWithHeader_iff.1 ⟨text, rendered⟩ h among
  obtain ⟨after, responds⟩ := exists_responds_of_controller mocked member made
  obtain ⟨first, named⟩ := locals_named_of_controller mocked member among made
  obtain ⟨root, others, -, straight⟩ := responds.straightLine
  have localsDistinct : (c.localNames h).Nodup := straight.nodup_locals
  refine ⟨?_, distinct, localsDistinct, first, fun className name isDeclared =>
    named _ isDeclared className name rfl, ?_⟩
  · rw [handlerBody_eq mocked present h, ← (controller_eq present).1]
    exact responds.body_eq
  · rw [List.nodup_append', Controller.nodup_parameterNames_iff distinct]
    exact ⟨fun ⟨body, _, apart⟩ => ⟨body, fun name isParameter isLocal => apart isParameter isLocal⟩,
      fun ⟨body, apart⟩ => ⟨body, localsDistinct, fun name isParameter => apart name isParameter⟩⟩

/-- A surgery in which a pet gets a new name. -/
def surgery : Project where
  settings := { name := "surgery" }
  modules := ⟨[("m", { entities := ⟨
    [("Pet", { kind := .data, fields := ⟨[("name", .string)], by decide⟩ }),
     ("Rename", {
        kind := .request, method := some "PUT", path := some "/pets/\x7bid\x7d",
        response := some "Pet", fields := ⟨[("name", .string)], by decide⟩ })],
    by decide⟩ })], by decide⟩

theorem surgery_references : ∀ d ∈ surgery.declarations, Java.Mock.ReferencesHold surgery d := by
  decide +kernel

/-- The handler of the surgery has two parameters and a local variable, all of different names. -/
theorem surgery_variables_are_distinct :
    surgery.violation? = none ∧
      ∃ c ∈ (mocking surgery).controllers, ∃ h ∈ c.handlers,
        (∃ text, c.artifact.renderWithHeader = .ok text) ∧
          Controller.parameterNames h = ["id", "body"] ∧ c.localNames h = ["pet"] ∧
            (Controller.parameterNames h ++ c.localNames h).Nodup := by
  have accepted : surgery.violation? = none := by decide +kernel
  obtain ⟨h, handles, home, response, inPath, parameters⟩ : ∃ h ∈ surgery.handlers "m",
      h.response.module = "m" ∧ h.response.name = "Pet" ∧
        Controller.variableNames h = ["id"] ∧ Controller.parameterNames h = ["id", "body"] := by
    decide +kernel
  obtain ⟨c, present, among⟩ := exists_controller_of_handler (g := mocking surgery) handles
  have member := mem_controllers.2 ⟨"m", present⟩
  obtain ⟨text, rendered⟩ := Controller.exists_renderWithHeader_iff.2
    (handlerResult_of_hold rfl surgery_references present)
  have sameProject : c.project = surgery := (controller_eq present).1
  have locals : c.localNames h = ["pet"] := by
    have responds : Java.Mock.Responds surgery "m" "Pet" _ (.ok ()) _ :=
      .answered rfl (.built rfl (.plain nofun .done))
    rw [Controller.localNames, Controller.statements, home, response, sameProject,
      responds.response_eq]
    decide +kernel
  obtain ⟨-, -, -, -, -, iff⟩ := handler_variables_are_distinct_unless_parameters_clash
    (mocking surgery) accepted rfl member rendered h among
  refine ⟨accepted, c, member, h, among, ⟨text, rendered⟩, parameters, locals, iff.2 ?_⟩
  rw [inPath, parameters, locals]
  exact ⟨fun _ => by decide, by decide⟩

/-- A register with a path variable that is named like the response, and one that is named like the
body. -/
def register : Project where
  settings := { name := "register" }
  modules := ⟨[("m", { entities := ⟨
    [("Pet", { kind := .data }),
     ("GetPet", {
        kind := .request, method := some "GET", path := some "/pets/\x7bpet\x7d",
        response := some "Pet" }),
     ("Edit", {
        kind := .request, method := some "PUT", path := some "/edits/\x7bbody\x7d",
        response := some "Pet", fields := ⟨[("name", .string)], by decide⟩ })],
    by decide⟩ })], by decide⟩

theorem register_references : ∀ d ∈ register.declarations, Java.Mock.ReferencesHold register d := by
  decide +kernel

/-- One handler of this project declares a parameter again as a local variable, and another one has two
parameters of one name. -/
theorem register_variables_clash :
    register.violation? = none ∧
      ∃ c ∈ (mocking register).controllers,
        (∃ text, c.artifact.renderWithHeader = .ok text) ∧
          (∃ h ∈ c.handlers, (Controller.parameterNames h).Nodup ∧
            ¬ (Controller.parameterNames h ++ c.localNames h).Nodup) ∧
          ∃ h ∈ c.handlers, ¬ (Controller.parameterNames h).Nodup := by
  obtain ⟨h, handles, distinct, parameter⟩ : ∃ h ∈ register.handlers "m",
      (Controller.parameterNames h).Nodup ∧
        Naming.camel (Controller.responseClass h) ∈ Controller.parameterNames h := by
    decide +kernel
  obtain ⟨h', handles', twice⟩ : ∃ h ∈ register.handlers "m",
      ¬ (Controller.parameterNames h).Nodup := by
    decide +kernel
  obtain ⟨c, present, among⟩ := exists_controller_of_handler (g := mocking register) handles
  have member := mem_controllers.2 ⟨"m", present⟩
  have made := handlerResult_of_hold rfl register_references present
  have among' : h' ∈ c.handlers := (controller_eq present).2.2 ▸ handles'
  have isLocal := (locals_named_of_controller rfl member among (made h among)).1
  exact ⟨by decide +kernel, c, member, Controller.exists_renderWithHeader_iff.2 made,
    ⟨h, among, distinct, fun all => (List.nodup_append'.1 all).2.2 parameter isLocal⟩,
    h', among', twice⟩

end HandlerVariables

end Generator
end Scaffold
