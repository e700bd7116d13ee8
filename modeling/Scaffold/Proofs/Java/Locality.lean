import Mathlib.Data.List.Sort
import Scaffold.Java.Controller
import Scaffold.Proofs.Java.Collection
import Scaffold.Proofs.Manifest.Enlargement

/-!
# Mock responses read only what they refer to

Building a mock response and collecting its model classes follow the references of entities that are
reached from the response.  When two projects agree on where the references of these entities lead,
both come to the same result, although the second project may declare more, and although the number of
rounds of the collection depends on how much it declares.
-/

namespace Scaffold
namespace Java

open Manifest (Declaration FieldType Handler Project)
open Relation (ReflTransGen)

namespace Mock

/-- The fields of what the first project declares refer in the second to what they refer to there. -/
def RefersAlike (narrow wide : Project) : Prop :=
  ∀ d ∈ narrow.declarations, ∀ field reference,
    (field, FieldType.ref reference) ∈ d.entity.fields.entries →
      wide.resolve? d.module reference = narrow.resolve? d.module reference

section Following

variable {narrow wide : Project} {before after : Bench} {o : Object} {d e target : Declaration}
  {fields : List (String × FieldType)} {statements : List Statement} {module reference : String}

/-- Setting the fields of what is declared goes alike. -/
theorem Fills.transfer
    {result : Except Failure Unit}
    (h : Fills narrow before o fields statements result after)
    (alike : RefersAlike narrow wide)
    (declared : o.declaration ∈ narrow.declarations)
    (own : fields ⊆ o.declaration.entity.fields.entries) :
    Fills wide before o fields statements result after := by
  induction h with
  | done => exact .done
  | plain direct _ ih => exact .plain direct (ih declared (List.subset_of_cons_subset own))
  | unknown missing =>
      have same := alike _ declared _ _ (own List.mem_cons_self)
      exact .unknown (same.trans missing)
  | request resolved kind =>
      have same := alike _ declared _ _ (own List.mem_cons_self)
      exact .request (same.trans resolved) kind
  | constant resolved kind _ ih =>
      have same := alike _ declared _ _ (own List.mem_cons_self)
      exact .constant (same.trans resolved) kind (ih declared (List.subset_of_cons_subset own))
  | cut resolved kind unbuilt _ ih =>
      have same := alike _ declared _ _ (own List.mem_cons_self)
      exact .cut (same.trans resolved) kind unbuilt (ih declared (List.subset_of_cons_subset own))
  | built resolved concrete fresh _ _ ihInner ihLater =>
      have same := alike _ declared _ _ (own List.mem_cons_self)
      have inside := ihInner (Project.mem_declarations_of_resolve resolved) (List.Subset.refl _)
      exact .built (same.trans resolved) concrete fresh inside
        (ihLater declared (List.subset_of_cons_subset own))
  | stopped resolved concrete fresh _ ih =>
      have same := alike _ declared _ _ (own List.mem_cons_self)
      have inside := ih (Project.mem_declarations_of_resolve resolved) (List.Subset.refl _)
      exact .stopped (same.trans resolved) concrete fresh inside

/-- Building an object of what is declared goes alike. -/
theorem Constructs.transfer
    {result : Except Failure String}
    (h : Constructs narrow before target statements result after)
    (alike : RefersAlike narrow wide)
    (declared : target ∈ narrow.declarations) :
    Constructs wide before target statements result after := by
  cases h with
  | refused kind => exact .refused kind
  | built kind inner => exact .built kind (inner.transfer alike declared (List.Subset.refl _))
  | stopped kind inner => exact .stopped kind (inner.transfer alike declared (List.Subset.refl _))

/-- Answering goes alike where the response resolves alike. -/
theorem Responds.transfer
    {result : Except Failure Unit}
    (h : Responds narrow module reference statements result after)
    (alike : RefersAlike narrow wide)
    (same : wide.resolve? module reference = narrow.resolve? module reference) :
    Responds wide module reference statements result after := by
  cases h with
  | unknown missing => exact .unknown (same.trans missing)
  | answered resolved inner =>
      have declared := Project.mem_declarations_of_resolve resolved
      exact .answered (same.trans resolved) (inner.transfer alike declared)
  | stopped resolved inner =>
      have declared := Project.mem_declarations_of_resolve resolved
      exact .stopped (same.trans resolved) (inner.transfer alike declared)

/-- A mock response is the same where the response resolves alike. -/
theorem response_congr
    (alike : RefersAlike narrow wide)
    (same : wide.resolve? module reference = narrow.resolve? module reference) :
    response wide module reference = response narrow module reference := by
  obtain ⟨statements, result, after, responds⟩ := exists_responds narrow module reference
  rw [responds.response_eq, (responds.transfer alike same).response_eq]

/-- What is declared refers directly to the same entities. -/
theorem RefersAlike.refers_iff
    (alike : RefersAlike narrow wide)
    (declared : d ∈ narrow.declarations) :
    Refers wide d e ↔ Refers narrow d e := by
  unfold Refers
  refine and_congr_right fun _ => exists_congr fun field => exists_congr fun reference => ?_
  exact and_congr_right fun entry => by rw [alike d declared field reference entry]

/-- What is declared reaches the same entities. -/
theorem RefersAlike.path_iff
    (alike : RefersAlike narrow wide)
    (declared : d ∈ narrow.declarations) :
    ReflTransGen (Refers wide) d e ↔ ReflTransGen (Refers narrow) d e := by
  constructor
  · -- everything on the way is declared in the narrow project, which the induction carries along
    intro path
    have reached : ReflTransGen (Refers narrow) d e ∧ e ∈ narrow.declarations := by
      induction path with
      | refl => exact ⟨.refl, declared⟩
      | tail _ refers ih =>
          have narrowly := (alike.refers_iff ih.2).1 refers
          exact ⟨ih.1.tail narrowly, narrowly.mem_declarations⟩
    exact reached.1
  · intro path
    have reached : ReflTransGen (Refers wide) d e ∧ e ∈ narrow.declarations := by
      induction path with
      | refl => exact ⟨.refl, declared⟩
      | tail _ refers ih =>
          exact ⟨ih.1.tail ((alike.refers_iff ih.2).2 refers), refers.mem_declarations⟩
    exact reached.1

/-- The collected classes are the same where the response resolves alike. -/
theorem models_congr
    (alike : RefersAlike narrow wide)
    (same : wide.resolve? module reference = narrow.resolve? module reference) :
    models wide module reference = models narrow module reference := by
  have members : ∀ className, className ∈ models wide module reference ↔
      className ∈ models narrow module reference := by
    intro className
    rw [mem_models_iff, mem_models_iff, same]
    refine exists_congr fun target => exists_congr fun d => and_congr_right fun resolved => ?_
    rw [alike.path_iff (Project.mem_declarations_of_resolve resolved)]
  -- both are lists of distinct names in ascending order
  exact (NameSet.ascending _).eq_of_mem_iff (NameSet.ascending _) members

end Following

end Mock

namespace Controller

section Agreeing

variable {c : Controller} {wide : Project}

/-- The handlers are written alike when each of them is. -/
theorem body_congr
    {handlers : List Handler}
    {c' : Controller}
    (same : ∀ h ∈ handlers, c'.handlerOperations h = c.handlerOperations h) :
    c'.body handlers = c.body handlers := by
  induction handlers with
  | nil => rfl
  | cons h rest ih =>
      obtain ⟨first, others⟩ := List.forall_mem_cons.1 same
      cases rest with
      | nil => exact first
      | cons next rest =>
          have shape : ∀ any : Controller, any.body (h :: next :: rest) =
              any.handlerOperations h ++ .blank :: any.body (next :: rest) := fun _ => rfl
          rw [shape, shape, first, ih others]

/--
The class of a controller reads of its project the settings, the options, the description of its module
and, with mock responses, what the responses of its handlers lead to.
-/
theorem artifact_congr
    (mocked : c.demoData = none ∨ c.demoData = some Mock.demoData)
    (settings : wide.settings = c.project.settings)
    (options : wide.options = c.project.options)
    (described : wide.modules.get? c.module = c.project.modules.get? c.module)
    (alike : Mock.RefersAlike c.project wide)
    (answers : ∀ h ∈ c.handlers, wide.resolve? h.response.module h.response.name =
      c.project.resolve? h.response.module h.response.name) :
    ({ c with project := wide } : Controller).artifact = c.artifact := by
  have className : ({ c with project := wide } : Controller).className = c.className := by
    simp [Controller.className, options]
  have package : ({ c with project := wide } : Controller).package = c.package := by
    simp [Controller.package, settings]
  have declaration : ({ c with project := wide } : Controller).declaration = c.declaration := by
    simp [Controller.declaration, className, described]
  have bodies : ∀ h ∈ c.handlers,
      ({ c with project := wide } : Controller).handlerBody h = c.handlerBody h := by
    intro h among
    rcases mocked with none | some
    · simp [handlerBody, none]
    · simp [handlerBody, some, Mock.demoData, Mock.response_congr alike (answers h among)]
  have mentions : ∀ h ∈ c.handlers,
      ({ c with project := wide } : Controller).handlerMentions h = c.handlerMentions h := by
    intro h among
    rcases mocked with none | some
    · simp [handlerMentions, none, modelPackage, settings]
    · simp [handlerMentions, some, modelPackage, settings, Mock.demoData,
        Mock.models_congr alike (answers h among)]
  have body : ({ c with project := wide } : Controller).body c.handlers = c.body c.handlers :=
    body_congr fun h among => by simp [handlerOperations, bodies h among]
  simp [artifact, unit, className, package, declaration, body, List.flatMap_congr mentions]

end Agreeing

end Controller

end Java
end Scaffold
