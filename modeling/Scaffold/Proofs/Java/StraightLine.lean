import Scaffold.Proofs.Java.LocalNames
import Scaffold.Proofs.Java.Reachability

/-!
# Mock responses are straight-line code

What sets the fields of an object makes the objects that its fields refer to on the way, each in the
scope of the field that it is made for.  So the statements fall into runs, one a field, and a run is
either a single setter call or the creation of an object, the runs of its own fields, and the setter
call that passes it.  That locals are declared before they are used, that their fields are set in
order and that none is touched after it has been passed is shown run by run.
-/

namespace Scaffold
namespace Java

open Code (Operation)
open Manifest (Declaration FieldType Project)

namespace Statement

/-- The class and the name of the local variable that a statement declares. -/
def declared? : Statement → Option (String × String)
  | create className name => some (className, name)
  | _ => none

/-- The field of the object in a local variable that a statement sets. -/
def fieldSet? (name : String) : Statement → Option String
  | set target field _ => if target = name then some field else none
  | _ => none

/-- The local variable that a statement passes to a setter. -/
def passed? : Statement → Option String
  | set _ _ (.variableOf name) => some name
  | _ => none

/-- The local variables that a statement uses. -/
def uses : Statement → List String
  | create _ _ => []
  | set name field argument => name :: (passed? (set name field argument)).toList
  | giveBack name => [name]

/-- Whether a statement ends the body. -/
def returns : Statement → Bool
  | giveBack _ => true
  | _ => false

variable {st : Statement} {name : String}

theorem eq_create_of_declared
    {className : String}
    (h : st.declared? = some (className, name)) :
    st = .create className name := by
  cases st with
  | create => cases h; rfl
  | set => cases h
  | giveBack => cases h

/-- A statement sets a field only of the object in a local variable that it uses. -/
theorem fieldSet_eq_none_of_unused
    (unused : name ∉ st.uses) :
    st.fieldSet? name = none := by
  cases st with
  | create => rfl
  | giveBack => rfl
  | set target field argument =>
      have differs : target ≠ name := by
        rintro rfl
        exact unused List.mem_cons_self
      simp [fieldSet?, differs]

end Statement

namespace Mock

/--
`Block objects statements`: the statements make the objects, in order, and pass all but the first of
them on.
-/
structure Block
    (objects : List Object)
    (statements : List Statement) : Prop where
  distinct : (objects.map Object.name).Nodup
  declared : statements.filterMap Statement.declared? = objects.map fun o => (o.className, o.name)
  declaredBefore : ∀ front st back, statements = front ++ st :: back →
    ∀ name ∈ st.uses, ∃ className, .create className name ∈ front
  fieldsSet : ∀ o ∈ objects,
    statements.filterMap (Statement.fieldSet? o.name) = o.declaration.entity.fields.keys
  passedOnce : (statements.filterMap Statement.passed?).Perm (objects.tail.map Object.name)
  passedLast : statements.Pairwise fun earlier later =>
    ∀ name, earlier.passed? = some name → later.fieldSet? name = none

/-- The statements make the objects and end, and end only there, by giving back the first of them. -/
structure StraightLine
    (objects : List Object)
    (statements : List Statement) : Prop extends Block objects statements where
  returned : ∃ root middle, objects.head? = some root ∧
    statements = root.creation :: middle ++ [.giveBack root.name] ∧
    ∀ st ∈ root.creation :: middle, st.returns = false

/--
`Assembles o fields made statements`: the statements set the fields of the object `o` and make the
objects `made` for them, each of which gets its own fields and is passed on.
-/
structure Assembles
    (o : Object)
    (fields : List String)
    (made : List Object)
    (statements : List Statement) : Prop where
  distinct : (o.name :: made.map Object.name).Nodup
  declared : statements.filterMap Statement.declared? = made.map fun x => (x.className, x.name)
  declaredBefore : ∀ front st back, statements = front ++ st :: back →
    ∀ name ∈ st.uses, name = o.name ∨ ∃ className, .create className name ∈ front
  own : statements.filterMap (Statement.fieldSet? o.name) = fields
  others : ∀ x ∈ made,
    statements.filterMap (Statement.fieldSet? x.name) = x.declaration.entity.fields.keys
  passedOnce : (statements.filterMap Statement.passed?).Perm (made.map Object.name)
  passedLast : statements.Pairwise fun earlier later =>
    ∀ name, earlier.passed? = some name → later.fieldSet? name = none
  goesOn : ∀ st ∈ statements, st.returns = false

section Runs

variable {o x : Object} {field name : String} {fields fields' : List String}
  {made made' : List Object} {statements statements' : List Statement}

/-- A statement of two runs is one of the first, or one of the second behind all of the first. -/
theorem split_append
    {front back : List Statement}
    {st : Statement}
    (whole : statements ++ statements' = front ++ st :: back) :
    (∃ rest, statements = front ++ st :: rest) ∨
      ∃ rest, front = statements ++ rest ∧ statements' = rest ++ st :: back := by
  rcases List.append_eq_append_iff.1 whole with ⟨rest, rfl, second⟩ | ⟨rest, rfl, second⟩
  · exact .inr ⟨rest, rfl, second⟩
  · cases rest with
    | nil => exact .inr ⟨[], by simp, by simpa using second.symm⟩
    | cons first rest =>
        obtain ⟨rfl, -⟩ := List.cons.inj second
        exact .inl ⟨rest, rfl⟩

/-- A statement of a list and one more is one of the list or the one behind it. -/
theorem split_concat
    {front back : List Statement}
    {st last : Statement}
    (whole : statements ++ [last] = front ++ st :: back) :
    (∃ rest, statements = front ++ st :: rest) ∨ (front = statements ∧ st = last) := by
  rcases split_append whole with within | ⟨rest, rfl, within⟩
  · exact .inl within
  · cases rest with
    | nil => exact .inr ⟨by simp, (List.cons.inj within).1.symm⟩
    | cons => simp at within

/-- What a statement declares is one of the objects that are made. -/
theorem exists_object_of_creation
    (declared : statements.filterMap Statement.declared? = made.map fun x => (x.className, x.name))
    {className : String}
    (member : .create className name ∈ statements) :
    ∃ x ∈ made, x.className = className ∧ x.name = name := by
  have among : (className, name) ∈ statements.filterMap Statement.declared? :=
    List.mem_filterMap.2 ⟨_, member, rfl⟩
  rw [declared] at among
  obtain ⟨x, isMade, same⟩ := List.mem_map.1 among
  exact ⟨x, isMade, Prod.mk.inj same⟩

namespace Assembles

/-- Fields are set only of the object itself and of those that are made for it. -/
theorem fieldSet_eq_none
    (h : Assembles o fields made statements)
    (notSelf : name ≠ o.name)
    (notMade : name ∉ made.map Object.name) :
    ∀ st ∈ statements, st.fieldSet? name = none := by
  intro st member
  refine Statement.fieldSet_eq_none_of_unused fun used => ?_
  obtain ⟨front, back, rfl⟩ := List.append_of_mem member
  rcases h.declaredBefore front st back rfl name used with same | ⟨className, before⟩
  · exact notSelf same
  · obtain ⟨x, isMade, -, rfl⟩ :=
      exists_object_of_creation h.declared (List.mem_append_left _ before)
    exact notMade (List.mem_map_of_mem isMade)

theorem filterMap_fieldSet_eq_nil
    (h : Assembles o fields made statements)
    (notSelf : name ≠ o.name)
    (notMade : name ∉ made.map Object.name) :
    statements.filterMap (Statement.fieldSet? name) = [] :=
  List.filterMap_eq_nil_iff.2 (h.fieldSet_eq_none notSelf notMade)

theorem name_of_passed
    (h : Assembles o fields made statements)
    {st : Statement}
    (member : st ∈ statements)
    (passes : st.passed? = some name) :
    name ∈ made.map Object.name :=
  h.passedOnce.subset (List.mem_filterMap.2 ⟨st, member, passes⟩)

/-- Nothing is to be done for no fields. -/
theorem nil (o : Object) : Assembles o [] [] [] where
  distinct := by simp
  declared := rfl
  declaredBefore := by simp
  own := rfl
  others := by simp
  passedOnce := .nil
  passedLast := .nil
  goesOn := by simp

/-- A single setter call that passes no local variable is a run. -/
theorem single
    {argument : Argument}
    (o : Object)
    (field : String)
    (constant : (Statement.set o.name field argument).passed? = none) :
    Assembles o [field] [] [.set o.name field argument] where
  distinct := by simp
  declared := rfl
  declaredBefore := by
    intro front st back whole name used
    have whole' : [] ++ [Statement.set o.name field argument] = front ++ st :: back := whole
    rcases split_concat whole' with ⟨rest, within⟩ | ⟨-, rfl⟩
    · simp at within
    · rw [Statement.uses, constant] at used
      exact .inl (by simpa using used)
  own := by simp [Statement.fieldSet?]
  others := by simp
  passedOnce := by simp [constant]
  passedLast := List.pairwise_singleton _ _
  goesOn := by simp [Statement.returns]

/-- One run after another is a run if they make objects of different names. -/
theorem append
    (first : Assembles o fields made statements)
    (second : Assembles o fields' made' statements')
    (apart : (made.map Object.name).Disjoint (made'.map Object.name)) :
    Assembles o (fields ++ fields') (made ++ made') (statements ++ statements') := by
  obtain ⟨notMade, distinct⟩ := List.nodup_cons.1 first.distinct
  obtain ⟨notMade', distinct'⟩ := List.nodup_cons.1 second.distinct
  have differ : ∀ {name}, name ∈ made.map Object.name → name ≠ o.name :=
    fun member same => notMade (same ▸ member)
  have differ' : ∀ {name}, name ∈ made'.map Object.name → name ≠ o.name :=
    fun member same => notMade' (same ▸ member)
  constructor
  case distinct =>
    rw [List.map_append]
    refine List.nodup_cons.2 ⟨?_, distinct.append distinct' apart⟩
    rw [List.mem_append]
    exact not_or.2 ⟨notMade, notMade'⟩
  case declared => rw [List.filterMap_append, List.map_append, first.declared, second.declared]
  case declaredBefore =>
    intro front st back whole name used
    rcases split_append whole with ⟨rest, within⟩ | ⟨rest, rfl, within⟩
    · exact first.declaredBefore front st rest within name used
    · rcases second.declaredBefore rest st back within name used with same | ⟨className, before⟩
      · exact .inl same
      · exact .inr ⟨className, List.mem_append_right _ before⟩
  case own => rw [List.filterMap_append, first.own, second.own]
  case others =>
    intro x member
    rw [List.filterMap_append]
    rcases List.mem_append.1 member with member | member
    · have isMade := List.mem_map_of_mem (f := Object.name) member
      rw [first.others x member, second.filterMap_fieldSet_eq_nil (differ isMade) (apart isMade),
        List.append_nil]
    · have isMade := List.mem_map_of_mem (f := Object.name) member
      rw [second.others x member,
        first.filterMap_fieldSet_eq_nil (differ' isMade) fun early => apart early isMade,
        List.nil_append]
  case passedOnce =>
    rw [List.filterMap_append, List.map_append]
    exact first.passedOnce.append second.passedOnce
  case passedLast =>
    refine List.pairwise_append.2 ⟨first.passedLast, second.passedLast, ?_⟩
    intro earlier inFirst later inSecond name passes
    have isMade := first.name_of_passed inFirst passes
    exact second.fieldSet_eq_none (differ isMade) (apart isMade) later inSecond
  case goesOn =>
    intro st member
    rcases List.mem_append.1 member with member | member
    · exact first.goesOn st member
    · exact second.goesOn st member

/-- A single setter call in front of a run is a run. -/
theorem cons
    {argument : Argument}
    (later : Assembles o fields made statements)
    (constant : (Statement.set o.name field argument).passed? = none) :
    Assembles o (field :: fields) made (.set o.name field argument :: statements) :=
  (single o field constant).append later (List.disjoint_nil_left _)

/-- An object is made and then has its fields set. -/
theorem block (h : Assembles o o.declaration.entity.fields.keys made statements) :
    Block (o :: made) (o.creation :: statements) where
  distinct := h.distinct
  declared := by simp [Object.creation, Statement.declared?, h.declared]
  declaredBefore := by
    intro front st back whole name used
    cases front with
    | nil =>
        obtain ⟨rfl, -⟩ := List.cons.inj whole
        simp [Object.creation, Statement.uses] at used
    | cons first front =>
        obtain ⟨rfl, within⟩ := List.cons.inj whole
        rcases h.declaredBefore front st back within name used with rfl | ⟨className, before⟩
        · exact ⟨o.className, List.mem_cons_self⟩
        · exact ⟨className, List.mem_cons_of_mem _ before⟩
  fieldsSet := by
    intro x member
    rw [List.filterMap_cons_none rfl]
    rcases List.mem_cons.1 member with rfl | member
    · exact h.own
    · exact h.others x member
  passedOnce := by
    rw [List.filterMap_cons_none rfl]
    exact h.passedOnce
  passedLast := List.pairwise_cons.2 ⟨nofun, h.passedLast⟩

theorem block_goesOn
    (h : Assembles o fields made statements) :
    ∀ st ∈ o.creation :: statements, st.returns = false := by
  intro st member
  rcases List.mem_cons.1 member with rfl | member
  · rfl
  · exact h.goesOn st member

end Assembles

namespace Block

/-- A local variable has one class. -/
theorem className_eq
    (h : Block made statements)
    {className className' : String}
    (first : .create className name ∈ statements)
    (second : .create className' name ∈ statements) :
    className = className' := by
  obtain ⟨x, isMade, rfl, named⟩ := exists_object_of_creation h.declared first
  obtain ⟨y, isMade', rfl, named'⟩ := exists_object_of_creation h.declared second
  rw [List.inj_on_of_nodup_map h.distinct isMade isMade' (named.trans named'.symm)]

/-- Fields are set only of the objects that are made. -/
theorem fieldSet_eq_none
    (h : Block made statements)
    (notMade : name ∉ made.map Object.name) :
    ∀ st ∈ statements, st.fieldSet? name = none := by
  intro st member
  refine Statement.fieldSet_eq_none_of_unused fun used => ?_
  obtain ⟨front, back, rfl⟩ := List.append_of_mem member
  obtain ⟨className, before⟩ := h.declaredBefore front st back rfl name used
  obtain ⟨x, isMade, -, rfl⟩ :=
    exists_object_of_creation h.declared (List.mem_append_left _ before)
  exact notMade (List.mem_map_of_mem isMade)

/-- An object that is made and then passed on is a run of the object it is passed to. -/
theorem assembles
    (h : Block (x :: made) statements)
    (goesOn : ∀ st ∈ statements, st.returns = false)
    (apart : o.name ∉ (x :: made).map Object.name) :
    Assembles o [field] (x :: made) (statements ++ [.set o.name field (.variableOf x.name)]) := by
  have isDeclared : ∀ {name}, name ∈ (x :: made).map Object.name →
      ∃ className, .create className name ∈ statements := by
    intro name member
    obtain ⟨y, among, rfl⟩ := List.mem_map.1 member
    have declares : (y.className, y.name) ∈ statements.filterMap Statement.declared? :=
      h.declared ▸ List.mem_map_of_mem among
    obtain ⟨st, within, same⟩ := List.mem_filterMap.1 declares
    exact ⟨y.className, Statement.eq_create_of_declared same ▸ within⟩
  have untouched : statements.filterMap (Statement.fieldSet? o.name) = [] :=
    List.filterMap_eq_nil_iff.2 (h.fieldSet_eq_none apart)
  constructor
  case distinct => exact List.nodup_cons.2 ⟨apart, h.distinct⟩
  case declared => simp [h.declared, Statement.declared?]
  case declaredBefore =>
    intro front st back whole name used
    rcases split_concat whole with ⟨rest, within⟩ | ⟨rfl, rfl⟩
    · exact .inr (h.declaredBefore front st rest within name used)
    · rcases List.mem_cons.1 used with same | passed
      · exact .inl same
      · obtain rfl : name = x.name := by simpa [Statement.passed?] using passed
        exact .inr (isDeclared (by simp))
  case own => simp [untouched, Statement.fieldSet?]
  case others =>
    intro y member
    have isOther : o.name ≠ y.name := fun same => apart (same ▸ List.mem_map_of_mem member)
    simp [h.fieldsSet y member, Statement.fieldSet?, isOther]
  case passedOnce =>
    have last : [Statement.set o.name field (.variableOf x.name)].filterMap Statement.passed? =
        [x.name] := rfl
    rw [List.filterMap_append, last]
    exact (h.passedOnce.append_right _).trans (List.perm_append_singleton _ _)
  case passedLast =>
    refine List.pairwise_append.2 ⟨h.passedLast, List.pairwise_singleton _ _, ?_⟩
    intro earlier inFirst later inSecond name passes
    obtain rfl := List.mem_singleton.1 inSecond
    have isMade : name ∈ made.map Object.name :=
      h.passedOnce.subset (List.mem_filterMap.2 ⟨earlier, inFirst, passes⟩)
    have isOther : o.name ≠ name := fun same => apart (same ▸ List.mem_cons_of_mem _ isMade)
    simp [Statement.fieldSet?, isOther]
  case goesOn =>
    intro st member
    rcases List.mem_append.1 member with member | member
    · exact goesOn st member
    · obtain rfl := List.mem_singleton.1 member
      rfl

/-- An object that is made and then given back is the whole of a body. -/
theorem straightLine
    (h : Block (x :: made) (x.creation :: statements))
    (goesOn : ∀ st ∈ x.creation :: statements, st.returns = false) :
    StraightLine (x :: made) (x.creation :: statements ++ [.giveBack x.name]) where
  distinct := h.distinct
  declared := by
    rw [List.filterMap_append, h.declared]
    simp [Statement.declared?]
  declaredBefore := by
    intro front st back whole name used
    rcases split_concat whole with ⟨rest, within⟩ | ⟨rfl, rfl⟩
    · exact h.declaredBefore front st rest within name used
    · obtain rfl := List.mem_singleton.1 used
      exact ⟨x.className, List.mem_cons_self⟩
  fieldsSet := by
    intro y member
    rw [List.filterMap_append, h.fieldsSet y member]
    simp [Statement.fieldSet?]
  passedOnce := by
    have last : [Statement.giveBack x.name].filterMap Statement.passed? = [] := rfl
    rw [List.filterMap_append, last, List.append_nil]
    exact h.passedOnce
  passedLast := by
    refine List.pairwise_append.2 ⟨h.passedLast, List.pairwise_singleton _ _, ?_⟩
    intro earlier _ later inSecond name _
    obtain rfl := List.mem_singleton.1 inSecond
    rfl
  returned := ⟨x, statements, rfl, rfl, goesOn⟩

end Block

end Runs

section Responses

variable {project : Project} {before after : Bench} {o : Object}
  {fields : List (String × FieldType)} {statements : List Statement} {module reference : String}

theorem passed_plainArgument
    (name field : String)
    (type : FieldType) :
    (Statement.set name field (plainArgument type)).passed? = none := by
  cases type <;> rfl

theorem passed_constantOf
    (name field : String)
    (d : Declaration) :
    (Statement.set name field (constantOf d)).passed? = none := by
  unfold constantOf
  split <;> rfl

/-- Setting fields is a run for each of them, and makes objects of names that were not in use. -/
theorem Fills.assembles
    {result : Except Failure Unit}
    (h : Fills project before o fields statements result after)
    (ok : result = .ok ())
    (known : o.name ∈ before.used) :
    ∃ made : List Object,
      after.used = (made.map Object.name).reverse ++ before.used ∧
        (made.map Object.name).Disjoint before.used ∧
        Assembles o (fields.map Prod.fst) made statements := by
  induction h with
  | done => exact ⟨[], rfl, List.disjoint_nil_left _, .nil _⟩
  | plain _ _ ih =>
      obtain ⟨made, used, new, later⟩ := ih ok known
      exact ⟨made, used, new, later.cons (passed_plainArgument _ _ _)⟩
  | constant _ _ _ ih =>
      obtain ⟨made, used, new, later⟩ := ih ok known
      exact ⟨made, used, new, later.cons (passed_constantOf _ _ _)⟩
  | cut _ _ _ _ ih =>
      obtain ⟨made, used, new, later⟩ := ih ok known
      exact ⟨made, used, new, later.cons rfl⟩
  | unknown => cases ok
  | request => cases ok
  | stopped => cases ok
  | @built before between after o field reference rest target inside statements result
      resolved concrete fresh inner later ihInner ihLater =>
      obtain ⟨made, used, new, filled⟩ := ihInner rfl List.mem_cons_self
      have fresh := before.name_next_not_mem target
      have still : between.finish.used =
          (made.map Object.name).reverse ++ (before.next target).name :: before.used := used
      obtain ⟨made', used', new', later⟩ := ihLater ok (by simp [still, known])
      rw [still] at used' new'
      have apart : o.name ∉ (before.next target :: made).map Object.name := by
        intro member
        rcases List.mem_cons.1 member with same | member
        · exact fresh (same ▸ known)
        · exact new member (List.mem_cons_of_mem _ known)
      have first : Assembles o [field] (before.next target :: made) _ :=
        filled.block.assembles filled.block_goesOn apart
      refine ⟨before.next target :: made ++ made', ?_, ?_, ?_⟩
      · simp [used']
      · intro name member
        simp only [List.map_append, List.map_cons, List.cons_append, List.mem_cons,
          List.mem_append] at member
        rcases member with rfl | early | late
        · exact fresh
        · exact fun isUsed => new early (List.mem_cons_of_mem _ isUsed)
        · exact fun isUsed => new' late (by simp [isUsed])
      · have disjoint : ((before.next target :: made).map Object.name).Disjoint
            (made'.map Object.name) := by
          intro name early late
          refine new' late ?_
          rcases List.mem_cons.1 early with rfl | early
          · simp
          · simp [List.mem_reverse.2 early]
        simpa using first.append later disjoint

/-- What answers with an object of an entity makes that object first. -/
theorem Responds.straightLine
    (h : Responds project module reference statements (.ok ()) after) :
    ∃ (root : Object) (others : List Object),
      project.resolve? module reference = some root.declaration ∧
        StraightLine (root :: others) statements := by
  cases h with
  | @answered target statements _ after resolved inner =>
      obtain ⟨-, rfl, inside, between, rfl, -, inner⟩ := inner.exists_fills
      obtain ⟨others, -, -, filled⟩ := inner.assembles rfl List.mem_cons_self
      exact ⟨Bench.empty.next target, others, resolved,
        filled.block.straightLine filled.block_goesOn⟩

/-- A mock response that succeeds is written statement by statement. -/
theorem Responds.body_eq
    (h : Responds project module reference statements (.ok ()) after) :
    demoData.body project module reference =
      Operation.each (statements.map Statement.render) := by
  have made : demoData.body project module reference = operations ⟨statements, .ok ()⟩ :=
    congrArg operations h.response_eq
  rw [made]
  exact List.append_nil _

/-- The call that a mock response is made by that succeeds. -/
theorem exists_responds_of_ok
    (succeeds : (Operation.outcomeOf (demoData.body project module reference)).result = .ok ()) :
    ∃ statements after, Responds project module reference statements (.ok ()) after := by
  have made : (response project module reference).result = .ok () :=
    (result_operations _).symm.trans succeeds
  obtain ⟨statements, result, after, responds⟩ := exists_responds project module reference
  rw [responds.response_eq] at made
  obtain rfl : result = .ok () := made
  exact ⟨statements, after, responds⟩

end Responses

end Mock
end Java
end Scaffold
