import Mathlib.Logic.Relation
import Scaffold.Proofs.Java.Building
import Scaffold.Proofs.Java.Rendering
import Scaffold.Proofs.Manifest.Declarations

/-!
# When a mock response can be built

An object is built of every entity that can be reached from the response along its fields, although
references back to the stack are cut: an entity that is reached at all is reached without passing an
entity twice.  So a mock response fails exactly when the field of a reachable entity refers to
nothing or to a request.
-/

namespace Scaffold
namespace Java
namespace Mock

open Code (Operation Outcome)
open Manifest (Declaration EntityId FieldType Project)
open Relation (ReflTransGen)

/-- A field of the first entity refers directly to the second, of which objects can be built. -/
def Leads
    (project : Project)
    (d e : Declaration) : Prop :=
  ∃ field reference, (field, FieldType.ref reference) ∈ d.entity.fields.entries ∧
    project.resolve? d.module reference = some e ∧ e.entity.isConcreteData = true

/-- The second entity can be reached from the first along fields. -/
def Reaches (project : Project) : Declaration → Declaration → Prop :=
  ReflTransGen (Leads project)

/-- Every field of an entity that is a direct reference refers to data or to an enumeration. -/
def ReferencesHold
    (project : Project)
    (d : Declaration) : Prop :=
  ∀ field reference, (field, FieldType.ref reference) ∈ d.entity.fields.entries →
    ∃ e, project.resolve? d.module reference = some e ∧
      (e.entity.kind = .data ∨ e.entity.kind = .enumeration)

/-- A failure that names a field of an entity that refers to nothing or to a request. -/
inductive Blames (project : Project) (d : Declaration) : Failure → Prop
  | unknown
      {field reference : String}
      (refers : (field, FieldType.ref reference) ∈ d.entity.fields.entries)
      (missing : project.resolve? d.module reference = none) :
      Blames project d (.unknownType reference d.module)
  | request
      {field reference : String}
      {target : Declaration}
      (refers : (field, FieldType.ref reference) ∈ d.entity.fields.entries)
      (resolved : project.resolve? d.module reference = some target)
      (kind : target.entity.kind = .request) :
      Blames project d (.requestAsField reference)

section Failing

variable {project : Project} {before after : Bench} {o : Object} {d target : Declaration}
  {fields : List (String × FieldType)} {statements : List Statement} {failure : Failure}

theorem Blames.not_referencesHold (h : Blames project d failure) :
    ¬ ReferencesHold project d := by
  intro hold
  cases h with
  | unknown refers missing =>
      obtain ⟨e, resolved, -⟩ := hold _ _ refers
      cases missing.symm.trans resolved
  | request refers resolved kind =>
      obtain ⟨e, found, isData | isEnumeration⟩ := hold _ _ refers
      · obtain rfl := Option.some.inj (resolved.symm.trans found)
        cases kind.symm.trans isData
      · obtain rfl := Option.some.inj (resolved.symm.trans found)
        cases kind.symm.trans isEnumeration

/-- Setting fields fails because of an entity that can be reached along them. -/
theorem Fills.blames
    {result : Except Failure Unit}
    (h : Fills project before o fields statements result after)
    (failed : result = .error failure)
    (own : ∀ entry ∈ fields, entry ∈ o.declaration.entity.fields.entries) :
    ∃ d, Reaches project o.declaration d ∧ Blames project d failure := by
  induction h generalizing failure with
  | done => cases failed
  | plain _ _ ih => exact ih failed fun entry member => own entry (List.mem_cons_of_mem _ member)
  | unknown missing =>
      cases failed
      exact ⟨_, .refl, .unknown (own _ List.mem_cons_self) missing⟩
  | request resolved kind =>
      cases failed
      exact ⟨_, .refl, .request (own _ List.mem_cons_self) resolved kind⟩
  | constant _ _ _ ih =>
      exact ih failed fun entry member => own entry (List.mem_cons_of_mem _ member)
  | cut _ _ _ _ ih => exact ih failed fun entry member => own entry (List.mem_cons_of_mem _ member)
  | built _ _ _ _ _ _ ih =>
      exact ih failed fun entry member => own entry (List.mem_cons_of_mem _ member)
  | stopped resolved concrete _ _ ih =>
      obtain ⟨d, path, blamed⟩ := ih failed fun _ member => member
      exact ⟨d, .head ⟨_, _, own _ List.mem_cons_self, resolved, concrete⟩ path, blamed⟩

end Failing

section Cutting

variable {project : Project} {building : List EntityId} {before after : Bench} {o : Object}
  {d e target : Declaration} {fields : List (String × FieldType)} {statements : List Statement}

/-- A path leaves the place where it begins for good, unless it ends there. -/
theorem eq_or_leaves
    {α : Type}
    {r : α → α → Prop}
    {a b : α}
    (path : ReflTransGen r a b) :
    b = a ∨ ∃ c, r a c ∧ c ≠ a ∧ ReflTransGen (fun x y => r x y ∧ y ≠ a) c b := by
  induction path with
  | refl => exact .inl rfl
  | @tail b c _ last ih =>
      by_cases back : c = a
      · exact .inl back
      rcases ih with rfl | ⟨first, leaves, away, path⟩
      · exact .inr ⟨c, last, back, .refl⟩
      · exact .inr ⟨first, leaves, away, path.tail ⟨last, back⟩⟩

/-- A field of the first entity leads to the second, which is not being built. -/
def LeadsPast
    (project : Project)
    (building : List EntityId)
    (d e : Declaration) : Prop :=
  Leads project d e ∧ e.id ∉ building

theorem Leads.mem_declarations (h : Leads project d e) : e ∈ project.declarations := by
  obtain ⟨_, _, _, resolved, _⟩ := h
  exact Project.mem_declarations_of_resolve resolved

/-- What is reached past the stack is reached past the entity one starts from as well. -/
theorem eq_or_leadsPast
    (declared : target ∈ project.declarations)
    (path : ReflTransGen (LeadsPast project building) target d) :
    d = target ∨ ∃ e, LeadsPast project (target.id :: building) target e ∧
      ReflTransGen (LeadsPast project (target.id :: building)) e d := by
  have past : ∀ {x y}, LeadsPast project building x y → y ≠ target →
      LeadsPast project (target.id :: building) x y := by
    intro x y step differ
    refine ⟨step.1, fun member => ?_⟩
    rcases List.mem_cons.1 member with same | member
    · exact differ (Project.eq_of_id_eq step.1.mem_declarations declared same)
    · exact step.2 member
  rcases eq_or_leaves path with same | ⟨e, leaves, away, path⟩
  · exact .inl same
  · exact .inr ⟨e, past leaves away,
      ReflTransGen.mono (fun _ _ step => past step.1 step.2) _ _ path⟩

/--
A reference refers to data or to an enumeration, and if an object is built for it, the references of
all entities that can be reached past the stack hold.
-/
def Settled
    (project : Project)
    (building : List EntityId)
    (module reference : String) : Prop :=
  ∃ e, project.resolve? module reference = some e ∧
    (e.entity.kind = .data ∨ e.entity.kind = .enumeration) ∧
    (e.entity.isConcreteData = true → e.id ∉ building →
      ∀ d, ReflTransGen (LeadsPast project building) e d → ReferencesHold project d)

/-- Once all its fields are settled, the references hold wherever an entity leads. -/
theorem referencesHold_of_settled
    (declared : target ∈ project.declarations)
    (settled : ∀ field reference, (field, FieldType.ref reference) ∈ target.entity.fields.entries →
      Settled project (target.id :: building) target.module reference)
    (path : ReflTransGen (LeadsPast project building) target d) :
    ReferencesHold project d := by
  rcases eq_or_leadsPast declared path with rfl | ⟨e, ⟨leads, past⟩, path⟩
  · intro field reference refers
    obtain ⟨e, resolved, kind, _⟩ := settled field reference refers
    exact ⟨e, resolved, kind⟩
  · obtain ⟨field, reference, refers, resolved, concrete⟩ := leads
    obtain ⟨e', resolved', _, beyond⟩ := settled field reference refers
    obtain rfl := Option.some.inj (resolved.symm.trans resolved')
    exact beyond concrete past d path

/-- Setting fields succeeds only if they are settled. -/
theorem Fills.settled
    {result : Except Failure Unit}
    (h : Fills project before o fields statements result after)
    (ok : result = .ok ()) :
    ∀ field reference, (field, FieldType.ref reference) ∈ fields →
      Settled project before.building o.declaration.module reference := by
  induction h with
  | done => exact fun _ _ member => nomatch member
  | plain direct _ ih =>
      intro field reference member
      rcases List.mem_cons.1 member with same | member
      · exact absurd (Prod.mk.inj same).2.symm (direct reference)
      · exact ih ok field reference member
  | unknown => cases ok
  | request => cases ok
  | stopped => cases ok
  | constant resolved kind _ ih =>
      intro field reference member
      rcases List.mem_cons.1 member with same | member
      · cases same
        refine ⟨_, resolved, .inr kind, fun concrete => ?_⟩
        simp [Manifest.Entity.isConcreteData, kind] at concrete
      · exact ih ok field reference member
  | cut resolved kind unbuilt _ ih =>
      intro field reference member
      rcases List.mem_cons.1 member with same | member
      · cases same
        refine ⟨_, resolved, .inl kind, fun concrete fresh => ?_⟩
        rcases unbuilt with isAbstract | isBuilt
        · simp [Manifest.Entity.isConcreteData, isAbstract] at concrete
        · exact absurd isBuilt fresh
      · exact ih ok field reference member
  | @built before between after o field reference rest target inside statements result
      resolved concrete fresh inner later ihInner ihLater =>
      intro field reference member
      rcases List.mem_cons.1 member with same | member
      · cases same
        have kind := (Manifest.Entity.isConcreteData_iff.1 concrete).1
        refine ⟨target, resolved, .inl kind, fun _ _ d path => ?_⟩
        exact referencesHold_of_settled (Project.mem_declarations_of_resolve resolved)
          (ihInner rfl) path
      · exact inner.finish_building ▸ ihLater ok field reference member

end Cutting

section Responses

variable {project : Project} {module reference : String} {statements : List Statement}
  {after : Bench}

/-- What a mock response that ends fails with. -/
theorem Responds.fails
    {failure : Failure}
    (h : Responds project module reference statements (.error failure) after) :
    (project.resolve? module reference = none ∧ failure = .unknownResponse reference module) ∨
      ∃ target, project.resolve? module reference = some target ∧
        ((target.entity.kind ≠ .data ∧
            failure = .notConstructible target.name target.entity.kind) ∨
          (target.entity.kind = .data ∧
            ∃ d, Reaches project target d ∧ Blames project d failure)) := by
  cases h with
  | unknown missing => exact .inl ⟨missing, rfl⟩
  | @stopped target _ _ _ resolved inner =>
      refine .inr ⟨target, resolved, ?_⟩
      cases inner with
      | refused kind => exact .inl ⟨kind, rfl⟩
      | stopped kind inner => exact .inr ⟨kind, inner.blames rfl fun _ member => member⟩

/-- What a mock response that is built has met. -/
theorem Responds.holds
    (h : Responds project module reference statements (.ok ()) after) :
    ∃ target, project.resolve? module reference = some target ∧ target.entity.kind = .data ∧
      ∀ d, Reaches project target d → ReferencesHold project d := by
  cases h with
  | @answered target _ _ _ resolved inner =>
      obtain ⟨kind, -, inside, between, -, -, inner⟩ := inner.exists_fills
      refine ⟨target, resolved, kind, fun d path => ?_⟩
      have past : ReflTransGen (LeadsPast project Bench.empty.building) target d :=
        ReflTransGen.mono (fun _ _ leads => ⟨leads, List.not_mem_nil⟩) _ _ path
      exact referencesHold_of_settled (Project.mem_declarations_of_resolve resolved)
        (inner.settled rfl) past

/-- A mock response is built if and only if every reference it meets holds. -/
theorem result_response_eq_ok_iff
    (project : Project)
    (module reference : String) :
    (response project module reference).result = .ok () ↔
      ∃ target, project.resolve? module reference = some target ∧ target.entity.kind = .data ∧
        ∀ d, Reaches project target d → ReferencesHold project d := by
  obtain ⟨statements, result, after, responds⟩ := exists_responds project module reference
  rw [responds.response_eq]
  cases result with
  | ok => exact ⟨fun _ => responds.holds, fun _ => rfl⟩
  | error failure =>
      refine ⟨nofun, ?_⟩
      rintro ⟨target, resolved, kind, hold⟩
      rcases responds.fails with ⟨missing, -⟩ | ⟨target', resolved', refused | ⟨-, d, path, blamed⟩⟩
      · cases missing.symm.trans resolved
      · obtain rfl := Option.some.inj (resolved.symm.trans resolved')
        exact absurd kind refused.1
      · obtain rfl := Option.some.inj (resolved.symm.trans resolved')
        exact absurd (hold d path) blamed.not_referencesHold

/-- Whether the type of a field refers to data or to an enumeration, if it is a direct reference. -/
def refersWell
    (project : Project)
    (module : String) : FieldType → Bool
  | .ref reference => (project.resolve? module reference).any (·.entity.kind ≠ .request)
  | _ => true

theorem referencesHold_iff_refersWell
    {d : Declaration} :
    ReferencesHold project d ↔
      ∀ entry ∈ d.entity.fields.entries, refersWell project d.module entry.2 = true := by
  have refers : ∀ reference, refersWell project d.module (.ref reference) = true ↔
      ∃ e, project.resolve? d.module reference = some e ∧
        (e.entity.kind = .data ∨ e.entity.kind = .enumeration) := by
    intro reference
    simp only [refersWell, Option.any_eq_true, decide_eq_true_eq]
    refine exists_congr fun e => and_congr_right fun _ => ?_
    cases e.entity.kind <;> simp
  constructor
  · rintro hold ⟨field, type⟩ member
    cases type with
    | ref reference => exact (refers reference).2 (hold field reference member)
    | _ => rfl
  · intro well field reference member
    exact (refers reference).1 (well _ member)

instance (project : Project) (d : Declaration) : Decidable (ReferencesHold project d) :=
  decidable_of_iff _ referencesHold_iff_refersWell.symm

/-- Where all references hold, every response of data can be built. -/
theorem result_response_of_hold
    (hold : ∀ d ∈ project.declarations, ReferencesHold project d)
    (isData : (project.resolve? module reference).any (·.entity.kind = .data) = true) :
    (response project module reference).result = .ok () := by
  obtain ⟨target, resolved, kind⟩ : ∃ target,
      project.resolve? module reference = some target ∧ target.entity.kind = .data := by
    simpa [Option.any_eq_true] using isData
  refine (result_response_eq_ok_iff project module reference).2 ⟨target, resolved, kind, ?_⟩
  intro d path
  refine hold d ?_
  cases path with
  | refl => exact Project.mem_declarations_of_resolve resolved
  | tail _ last => exact last.mem_declarations

/-- The operations of a draft end as the draft does. -/
theorem result_operations (draft : Draft Unit) :
    (Operation.outcomeOf (operations draft)).result = draft.result := by
  rw [operations, Operation.outcomeOf_append, Operation.completed_each]
  cases draft.result <;> rfl

/-- A field of list type is set to an empty list, whatever its items are. -/
theorem fills_list_iff
    {before : Bench}
    {o : Object}
    {field : String}
    {item : FieldType}
    {rest : List (String × FieldType)}
    {result : Except Failure Unit} :
    Fills project before o ((field, .list item) :: rest) statements result after ↔
      ∃ later, statements = .set o.name field .emptyList :: later ∧
        Fills project before o rest later result after := by
  constructor
  · intro h
    cases h with
    | plain _ later => exact ⟨_, rfl, later⟩
  · rintro ⟨later, rfl, h⟩
    exact .plain nofun h

/-- A mock response fails exactly on bad references.

Emitting it always comes to an end.  It succeeds if and only if the response is data and every direct
reference in a reachable entity refers to data or to an enumeration; otherwise what it fails with
names the response or such a reference, while a list is never a reason.  When an object has been
built, the stack of the objects that are being built is as it was before. -/
theorem emission_fails_exactly_on_bad_references
    (project : Project)
    (module reference : String) :
    (∃ statements result after,
        Responds project module reference statements result after ∧
          demoData.body project module reference = operations ⟨statements, result⟩ ∧
          (result = .ok () → after.building = Bench.empty.building)) ∧
      ((Operation.outcomeOf (demoData.body project module reference)).result = .ok () ↔
        ∃ target, project.resolve? module reference = some target ∧ target.entity.kind = .data ∧
          ∀ d, Reaches project target d → ReferencesHold project d) ∧
      (∀ failure,
        (Operation.outcomeOf (demoData.body project module reference)).result = .error failure →
          (project.resolve? module reference = none ∧
            failure = .unknownResponse reference module) ∨
          ∃ target, project.resolve? module reference = some target ∧
            ((target.entity.kind ≠ .data ∧
                failure = .notConstructible target.name target.entity.kind) ∨
              (target.entity.kind = .data ∧
                ∃ d, Reaches project target d ∧ Blames project d failure))) ∧
      (∀ before o field item rest statements result after,
        Fills project before o ((field, .list item) :: rest) statements result after ↔
          ∃ later, statements = .set o.name field .emptyList :: later ∧
            Fills project before o rest later result after) ∧
      ∀ before target statements name after,
        Constructs project before target statements (.ok name) after →
          after.building = before.building := by
  have ends : (Operation.outcomeOf (demoData.body project module reference)).result =
      (response project module reference).result := result_operations _
  obtain ⟨statements, result, after, responds⟩ := exists_responds project module reference
  refine ⟨⟨statements, result, after, responds, ?_, ?_⟩, ?_, ?_, ?_, ?_⟩
  · exact congrArg operations responds.response_eq
  · rintro rfl
    exact responds.building_eq
  · rw [ends]
    exact result_response_eq_ok_iff project module reference
  · intro failure failed
    rw [ends, responds.response_eq] at failed
    obtain rfl : result = .error failure := failed
    exact responds.fails
  · exact fun _ _ _ _ _ _ _ _ => fills_list_iff
  · exact fun _ _ _ _ _ built => built.building_eq

end Responses

end Mock
end Java
end Scaffold
