import Scaffold.Java.Mock

/-!
# Building objects on one bench

While a mock response is built, all calls share the names that are used and the stack of the
entities whose objects are being built.  An entity is pushed when its object is begun and popped when
the object has its fields; a failure leaves the stack as it stands.  This is described as a relation
between the state before a call, the statements it makes, its result and the state after it.

The main statements are that every call comes to an end, that what it makes is what the functions on
drafts say, and that a call that succeeds gives the stack back as it was.
-/

namespace Scaffold
namespace Java
namespace Mock

open Manifest (Declaration EntityId FieldType Project)

/-- An object in a local variable, and the entity it is made of. -/
structure Object where
  name : String
  declaration : Declaration

namespace Object

/-- The class of an object. -/
def className (o : Object) : String :=
  Naming.className o.declaration.name

/-- The statement that makes an object. -/
def creation (o : Object) : Statement :=
  .create o.className o.name

end Object

/-- The names that are used and the entities that are being built, innermost first. -/
structure Bench where
  used : List String
  building : List EntityId

namespace Bench

/-- The bench on which nothing is being built. -/
def empty : Bench := ⟨[], []⟩

/-- The object that is made next of an entity. -/
def next
    (b : Bench)
    (d : Declaration) : Object :=
  ⟨freshName (Naming.className d.name) b.used, d⟩

/-- The bench when the next object of an entity has been begun. -/
def begin
    (b : Bench)
    (d : Declaration) : Bench :=
  ⟨(b.next d).name :: b.used, d.id :: b.building⟩

/-- The bench when the innermost object is finished. -/
def finish (b : Bench) : Bench :=
  { b with building := b.building.tail }

end Bench

/--
`Fills project before o fields statements result after`: setting `fields` of the object `o` makes
`statements`, ends in `result` and changes the bench from `before` to `after`.
-/
inductive Fills (project : Project) :
    Bench → Object → List (String × FieldType) → List Statement → Except Failure Unit → Bench → Prop
  | done
      {before : Bench}
      {o : Object} :
      Fills project before o [] [] (.ok ()) before
  | plain
      {before after : Bench}
      {o : Object}
      {field : String}
      {type : FieldType}
      {rest : List (String × FieldType)}
      {statements : List Statement}
      {result : Except Failure Unit}
      (direct : ∀ reference, type ≠ .ref reference)
      (later : Fills project before o rest statements result after) :
      Fills project before o ((field, type) :: rest)
        (.set o.name field (plainArgument type) :: statements) result after
  | unknown
      {before : Bench}
      {o : Object}
      {field reference : String}
      {rest : List (String × FieldType)}
      (missing : project.resolve? o.declaration.module reference = none) :
      Fills project before o ((field, .ref reference) :: rest) []
        (.error (.unknownType reference o.declaration.module)) before
  | request
      {before : Bench}
      {o : Object}
      {field reference : String}
      {rest : List (String × FieldType)}
      {target : Declaration}
      (resolved : project.resolve? o.declaration.module reference = some target)
      (kind : target.entity.kind = .request) :
      Fills project before o ((field, .ref reference) :: rest) []
        (.error (.requestAsField reference)) before
  | constant
      {before after : Bench}
      {o : Object}
      {field reference : String}
      {rest : List (String × FieldType)}
      {target : Declaration}
      {statements : List Statement}
      {result : Except Failure Unit}
      (resolved : project.resolve? o.declaration.module reference = some target)
      (kind : target.entity.kind = .enumeration)
      (later : Fills project before o rest statements result after) :
      Fills project before o ((field, .ref reference) :: rest)
        (.set o.name field (constantOf target) :: statements) result after
  | cut
      {before after : Bench}
      {o : Object}
      {field reference : String}
      {rest : List (String × FieldType)}
      {target : Declaration}
      {statements : List Statement}
      {result : Except Failure Unit}
      (resolved : project.resolve? o.declaration.module reference = some target)
      (kind : target.entity.kind = .data)
      (unbuilt : target.entity.isAbstract = true ∨ target.id ∈ before.building)
      (later : Fills project before o rest statements result after) :
      Fills project before o ((field, .ref reference) :: rest)
        (.set o.name field .null :: statements) result after
  | built
      {before between after : Bench}
      {o : Object}
      {field reference : String}
      {rest : List (String × FieldType)}
      {target : Declaration}
      {inside statements : List Statement}
      {result : Except Failure Unit}
      (resolved : project.resolve? o.declaration.module reference = some target)
      (concrete : target.entity.isConcreteData = true)
      (fresh : target.id ∉ before.building)
      (inner : Fills project (before.begin target) (before.next target)
        target.entity.fields.entries inside (.ok ()) between)
      (later : Fills project between.finish o rest statements result after) :
      Fills project before o ((field, .ref reference) :: rest)
        ((before.next target).creation :: inside ++
          .set o.name field (.variableOf (before.next target).name) :: statements) result after
  | stopped
      {before after : Bench}
      {o : Object}
      {field reference : String}
      {rest : List (String × FieldType)}
      {target : Declaration}
      {inside : List Statement}
      {failure : Failure}
      (resolved : project.resolve? o.declaration.module reference = some target)
      (concrete : target.entity.isConcreteData = true)
      (fresh : target.id ∉ before.building)
      (inner : Fills project (before.begin target) (before.next target)
        target.entity.fields.entries inside (.error failure) after) :
      Fills project before o ((field, .ref reference) :: rest)
        ((before.next target).creation :: inside) (.error failure) after

/--
`Constructs project before target statements result after`: building an object of the entity `target`
makes `statements`, ends in `result`, which names the variable of the object, and changes the bench
from `before` to `after`.
-/
inductive Constructs (project : Project) (before : Bench) (target : Declaration) :
    List Statement → Except Failure String → Bench → Prop
  | refused
      (kind : target.entity.kind ≠ .data) :
      Constructs project before target []
        (.error (.notConstructible target.name target.entity.kind)) before
  | built
      {after : Bench}
      {inside : List Statement}
      (kind : target.entity.kind = .data)
      (inner : Fills project (before.begin target) (before.next target)
        target.entity.fields.entries inside (.ok ()) after) :
      Constructs project before target ((before.next target).creation :: inside)
        (.ok (before.next target).name) after.finish
  | stopped
      {after : Bench}
      {inside : List Statement}
      {failure : Failure}
      (kind : target.entity.kind = .data)
      (inner : Fills project (before.begin target) (before.next target)
        target.entity.fields.entries inside (.error failure) after) :
      Constructs project before target ((before.next target).creation :: inside)
        (.error failure) after

/--
`Responds project module reference statements result after`: answering with what `reference` names,
seen from `module`, makes `statements`, ends in `result` and leaves the bench `after`.
-/
inductive Responds (project : Project) (module reference : String) :
    List Statement → Except Failure Unit → Bench → Prop
  | unknown
      (missing : project.resolve? module reference = none) :
      Responds project module reference [] (.error (.unknownResponse reference module)) .empty
  | answered
      {target : Declaration}
      {statements : List Statement}
      {name : String}
      {after : Bench}
      (resolved : project.resolve? module reference = some target)
      (inner : Constructs project .empty target statements (.ok name) after) :
      Responds project module reference (statements ++ [.giveBack name]) (.ok ()) after
  | stopped
      {target : Declaration}
      {statements : List Statement}
      {failure : Failure}
      {after : Bench}
      (resolved : project.resolve? module reference = some target)
      (inner : Constructs project .empty target statements (.error failure) after) :
      Responds project module reference statements (.error failure) after

section Equations

variable {project : Project} {building : List EntityId} {module name field reference : String}
  {used : List String} {rest : List (String × FieldType)} {target : Declaration}

theorem fill_plain
    {type : FieldType}
    (direct : ∀ reference, type ≠ .ref reference) :
    fill project building module name used ((field, type) :: rest) =
      ⟨.set name field (plainArgument type) ::
          (fill project building module name used rest).statements,
        (fill project building module name used rest).result⟩ := by
  rw [fill]
  exact direct

theorem fill_unknown
    (missing : project.resolve? module reference = none) :
    fill project building module name used ((field, .ref reference) :: rest) =
      ⟨[], .error (.unknownType reference module)⟩ := by
  rw [fill]
  split
  · rfl
  · next found => simp [missing] at found

/-- A field that refers to a request cannot be set. -/
theorem fill_request
    (resolved : project.resolve? module reference = some target)
    (kind : target.entity.kind = .request) :
    fill project building module name used ((field, .ref reference) :: rest) =
      ⟨[], .error (.requestAsField reference)⟩ := by
  rw [fill]
  split
  · next missing => simp [missing] at resolved
  · next found =>
      obtain rfl := Option.some.inj (found.symm.trans resolved)
      simp [kind]

theorem fill_constant
    (resolved : project.resolve? module reference = some target)
    (kind : target.entity.kind = .enumeration) :
    fill project building module name used ((field, .ref reference) :: rest) =
      ⟨.set name field (constantOf target) ::
          (fill project building module name used rest).statements,
        (fill project building module name used rest).result⟩ := by
  rw [fill]
  split
  · next missing => simp [missing] at resolved
  · next found =>
      obtain rfl := Option.some.inj (found.symm.trans resolved)
      simp [kind]

/-- A field that refers to data for which no object is built is set to nothing. -/
theorem fill_cut
    (resolved : project.resolve? module reference = some target)
    (kind : target.entity.kind = .data)
    (unbuilt : target.entity.isAbstract = true ∨ target.id ∈ building) :
    fill project building module name used ((field, .ref reference) :: rest) =
      ⟨.set name field .null :: (fill project building module name used rest).statements,
        (fill project building module name used rest).result⟩ := by
  rw [fill]
  split
  · next missing => simp [missing] at resolved
  · next found =>
      obtain rfl := Option.some.inj (found.symm.trans resolved)
      rcases unbuilt with isAbstract | isBuilt
      · simp [kind, isAbstract]
      · simp [kind, isBuilt]

theorem fill_concrete
    (resolved : project.resolve? module reference = some target)
    (concrete : target.entity.isConcreteData = true)
    (fresh : target.id ∉ building)
    (declared : target ∈ project.declarations)
    (idle : building.contains target.id = false) :
    fill project building module name used ((field, .ref reference) :: rest) =
      match (construct project building target used declared idle).result with
      | .error failure =>
          ⟨(construct project building target used declared idle).statements, .error failure⟩
      | .ok (variableName, used') =>
          ⟨(construct project building target used declared idle).statements ++
              .set name field (.variableOf variableName) ::
                (fill project building module name used' rest).statements,
            (fill project building module name used' rest).result⟩ := by
  have kind := Manifest.Entity.isConcreteData_iff.1 concrete
  rw [fill]
  split
  · next missing => simp [missing] at resolved
  · next found =>
      obtain rfl := Option.some.inj (found.symm.trans resolved)
      simp only [kind.1, kind.2, idle]
      rfl

/-- An object is built of data only. -/
theorem construct_refused
    (kind : target.entity.kind ≠ .data)
    (declared : target ∈ project.declarations)
    (idle : building.contains target.id = false) :
    construct project building target used declared idle =
      ⟨[], .error (.notConstructible target.name target.entity.kind)⟩ := by
  rw [construct, if_neg kind]

theorem construct_data
    (kind : target.entity.kind = .data)
    (declared : target ∈ project.declarations)
    (idle : building.contains target.id = false) :
    construct project building target used declared idle =
      ⟨((⟨used, building⟩ : Bench).next target).creation ::
          (fill project (target.id :: building) target.module
            ((⟨used, building⟩ : Bench).next target).name
            (((⟨used, building⟩ : Bench).next target).name :: used)
            target.entity.fields.entries).statements,
        (fill project (target.id :: building) target.module
            ((⟨used, building⟩ : Bench).next target).name
            (((⟨used, building⟩ : Bench).next target).name :: used)
            target.entity.fields.entries).result.map
          fun used' => (((⟨used, building⟩ : Bench).next target).name, used')⟩ := by
  rw [construct, if_pos kind]
  rfl

end Equations

section Runs

variable {project : Project} {before after : Bench} {o : Object} {target : Declaration}
  {fields : List (String × FieldType)} {statements : List Statement}

/-- Setting fields makes what the functions on drafts say; if it succeeds, the stack is as before. -/
theorem Fills.fill_eq
    {result : Except Failure Unit}
    (h : Fills project before o fields statements result after) :
    fill project before.building o.declaration.module o.name before.used fields =
        ⟨statements, result.map fun _ => after.used⟩ ∧
      (result = .ok () → after.building = before.building) := by
  induction h with
  | done => exact ⟨by rw [fill]; rfl, fun _ => rfl⟩
  | plain direct _ ih => exact ⟨by rw [fill_plain direct, ih.1], ih.2⟩
  | unknown missing => exact ⟨by rw [fill_unknown missing]; rfl, fun ok => by cases ok⟩
  | request resolved kind => exact ⟨by rw [fill_request resolved kind]; rfl, fun ok => by cases ok⟩
  | constant resolved kind _ ih => exact ⟨by rw [fill_constant resolved kind, ih.1], ih.2⟩
  | cut resolved kind unbuilt _ ih => exact ⟨by rw [fill_cut resolved kind unbuilt, ih.1], ih.2⟩
  | @built before between after o field reference rest target inside statements result
      resolved concrete fresh inner later ihInner ihLater =>
      have declared := Project.mem_declarations_of_resolve resolved
      have idle : before.building.contains target.id = false := by simpa using fresh
      have kind := Manifest.Entity.isConcreteData_iff.1 concrete
      have popped : between.finish.building = before.building := by
        simp [Bench.finish, ihInner.2 rfl, Bench.begin]
      have inside' := ihInner.1
      have rest' := ihLater.1
      rw [popped] at rest'
      refine ⟨?_, fun ok => (ihLater.2 ok).trans popped⟩
      rw [fill_concrete resolved concrete fresh declared idle, construct_data kind.1 declared idle]
      simp only [Bench.begin, Bench.next] at inside'
      simp only [Bench.next, inside', Except.map]
      simp only [Bench.finish] at rest'
      simp [rest', Except.map]
  | @stopped before after o field reference rest target inside failure
      resolved concrete fresh inner ih =>
      have declared := Project.mem_declarations_of_resolve resolved
      have idle : before.building.contains target.id = false := by simpa using fresh
      have kind := Manifest.Entity.isConcreteData_iff.1 concrete
      have inside' := ih.1
      refine ⟨?_, fun ok => by cases ok⟩
      rw [fill_concrete resolved concrete fresh declared idle, construct_data kind.1 declared idle]
      simp only [Bench.begin, Bench.next] at inside'
      simp only [Bench.next, inside', Except.map]

/-- Finishing an object gives the stack back as it was before the object was begun. -/
theorem Fills.finish_building
    (inner : Fills project (before.begin target) o fields statements (.ok ()) after) :
    after.finish.building = before.building := by
  simp [Bench.finish, inner.fill_eq.2 rfl, Bench.begin]

/-- Setting fields comes to an end, since an object is never built inside itself. -/
theorem exists_fills
    (project : Project)
    (before : Bench)
    (o : Object)
    (fields : List (String × FieldType)) :
    ∃ statements result after, Fills project before o fields statements result after := by
  -- on the entities that are not being built, and on the fields that are still to be set
  induction bound : idle project before.building using Nat.strongRecOn
    generalizing before o fields with
  | _ n inwards =>
      induction fields generalizing before with
      | nil => exact ⟨[], .ok (), before, .done⟩
      | cons entry rest onwards =>
          obtain ⟨field, type⟩ := entry
          obtain ⟨statements, result, after, later⟩ := onwards before bound
          by_cases direct : ∀ reference, type ≠ .ref reference
          · exact ⟨_, _, _, .plain direct later⟩
          obtain ⟨reference, rfl⟩ : ∃ reference, type = .ref reference := by simpa using direct
          cases resolved : project.resolve? o.declaration.module reference with
          | none => exact ⟨_, _, _, .unknown resolved⟩
          | some target =>
              cases kind : target.entity.kind with
              | request => exact ⟨_, _, _, .request resolved kind⟩
              | enumeration => exact ⟨_, _, _, .constant resolved kind later⟩
              | data =>
                  by_cases unbuilt : target.entity.isAbstract = true ∨ target.id ∈ before.building
                  · exact ⟨_, _, _, .cut resolved kind unbuilt later⟩
                  obtain ⟨concrete, fresh⟩ := not_or.1 unbuilt
                  have isConcrete : target.entity.isConcreteData = true :=
                    Manifest.Entity.isConcreteData_iff.2 ⟨kind, by simpa using concrete⟩
                  have fewer : idle project (before.begin target).building < n :=
                    bound ▸ idle_cons_lt (Project.mem_declarations_of_resolve resolved)
                      (by simpa using fresh)
                  obtain ⟨inside, ended, between, inner⟩ :=
                    inwards _ fewer (before.begin target) (before.next target)
                      target.entity.fields.entries rfl
                  cases ended with
                  | error failure => exact ⟨_, _, _, .stopped resolved isConcrete fresh inner⟩
                  | ok =>
                      obtain ⟨statements, result, after, later⟩ :=
                        onwards between.finish (inner.finish_building ▸ bound)
                      exact ⟨_, _, _, .built resolved isConcrete fresh inner later⟩

/-- Building an object comes to an end, whatever is being built already. -/
theorem exists_constructs
    (project : Project)
    (before : Bench)
    (target : Declaration) :
    ∃ statements result after, Constructs project before target statements result after := by
  by_cases kind : target.entity.kind = .data
  · obtain ⟨inside, result, after, inner⟩ := exists_fills project (before.begin target)
      (before.next target) target.entity.fields.entries
    cases result with
    | error failure => exact ⟨_, _, _, .stopped kind inner⟩
    | ok => exact ⟨_, _, _, .built kind inner⟩
  · exact ⟨_, _, _, .refused kind⟩

/-- An object that is built is made first and then has its fields set. -/
theorem Constructs.exists_fills
    {name : String}
    (h : Constructs project before target statements (.ok name) after) :
    target.entity.kind = .data ∧ name = (before.next target).name ∧
      ∃ inside between, statements = (before.next target).creation :: inside ∧
        after = between.finish ∧
        Fills project (before.begin target) (before.next target) target.entity.fields.entries
          inside (.ok ()) between := by
  cases h with
  | built kind inner => exact ⟨kind, rfl, _, _, rfl, rfl, inner⟩

/-- Building an object gives the stack back as it was. -/
theorem Constructs.building_eq
    {name : String}
    (h : Constructs project before target statements (.ok name) after) :
    after.building = before.building := by
  obtain ⟨-, -, _, between, -, rfl, inner⟩ := h.exists_fills
  exact inner.finish_building

/-- Building an object on an empty bench makes what the functions on drafts say. -/
theorem Constructs.construct_eq
    {result : Except Failure String}
    (h : Constructs project .empty target statements result after)
    (declared : target ∈ project.declarations) :
    construct project [] target [] declared rfl =
      ⟨statements, result.map fun name => (name, after.used)⟩ := by
  cases h with
  | refused kind => exact construct_refused kind declared rfl
  | built kind inner =>
      rw [construct_data kind declared rfl]
      have inside := inner.fill_eq.1
      simp only [Bench.begin, Bench.next, Bench.empty] at inside
      simp [Bench.next, Bench.empty, inside, Except.map, Bench.finish]
  | stopped kind inner =>
      rw [construct_data kind declared rfl]
      have inside := inner.fill_eq.1
      simp only [Bench.begin, Bench.next, Bench.empty] at inside
      simp [Bench.next, Bench.empty, inside, Except.map]

theorem response_unknown
    {module reference : String}
    (missing : project.resolve? module reference = none) :
    response project module reference = ⟨[], .error (.unknownResponse reference module)⟩ := by
  rw [response]
  split
  · rfl
  · next found => simp [missing] at found

theorem response_resolved
    {module reference : String}
    (resolved : project.resolve? module reference = some target)
    (declared : target ∈ project.declarations) :
    response project module reference =
      match (construct project [] target [] declared rfl).result with
      | .error failure => ⟨(construct project [] target [] declared rfl).statements, .error failure⟩
      | .ok (name, _) =>
          ⟨(construct project [] target [] declared rfl).statements ++ [.giveBack name], .ok ()⟩ := by
  rw [response]
  split
  · next missing => simp [missing] at resolved
  · next found =>
      obtain rfl := Option.some.inj (found.symm.trans resolved)
      rfl

/-- A mock response is what answering on an empty bench makes. -/
theorem Responds.response_eq
    {module reference : String}
    {result : Except Failure Unit}
    (h : Responds project module reference statements result after) :
    response project module reference = ⟨statements, result⟩ := by
  cases h with
  | unknown missing => exact response_unknown missing
  | answered resolved inner =>
      have declared := Project.mem_declarations_of_resolve resolved
      rw [response_resolved resolved declared, inner.construct_eq declared]
      rfl
  | stopped resolved inner =>
      have declared := Project.mem_declarations_of_resolve resolved
      rw [response_resolved resolved declared, inner.construct_eq declared]
      rfl

/-- Nothing is being built any more when a mock response has been made. -/
theorem Responds.building_eq
    {module reference : String}
    (h : Responds project module reference statements (.ok ()) after) :
    after.building = Bench.empty.building := by
  cases h with
  | answered _ inner => exact inner.building_eq

/-- Answering comes to an end. -/
theorem exists_responds
    (project : Project)
    (module reference : String) :
    ∃ statements result after, Responds project module reference statements result after := by
  cases resolved : project.resolve? module reference with
  | none => exact ⟨_, _, _, .unknown resolved⟩
  | some target =>
      obtain ⟨statements, result, after, inner⟩ := exists_constructs project .empty target
      cases result with
      | error failure => exact ⟨_, _, _, .stopped resolved inner⟩
      | ok name => exact ⟨_, _, _, .answered resolved inner⟩

end Runs

end Mock
end Java
end Scaffold
