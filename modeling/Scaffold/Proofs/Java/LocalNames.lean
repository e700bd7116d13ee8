import Mathlib.Data.List.Nodup
import Mathlib.Data.List.Perm.Subperm
import Mathlib.Data.List.Range
import Mathlib.Logic.Relation
import Scaffold.Proofs.Java.Building

/-!
# Names of local variables

The candidates for the name of a local variable are all different, so among one more of them than
there are names in use there is one that is not used yet.  A search that tries one after the other
therefore comes to an end at the first that is free, which is the name that is taken.

The main statement is that this search ends for every class and all names in use, with a name that is
new, bears the smallest number that makes it so, and is the only one that is used in addition then.  So
names that are taken one after the other are all different, whatever the classes are called.
-/

namespace Scaffold
namespace Java
namespace Mock

open Manifest (Declaration)
open Relation (ReflTransGen)
open Text

section Candidates

variable {base : String} {used : List String}

theorem decimal_injective : Function.Injective decimal := by
  intro m n same
  have read := readDecimal?_decimal m
  rw [same, readDecimal?_decimal n] at read
  exact (Option.some.inj read).symm

theorem decimal_ne_empty (n : Nat) : decimal n ≠ "" := by
  intro empty
  have read := readDecimal?_decimal n
  rw [empty] at read
  cases read

/-- No two candidates for a name are the same. -/
theorem candidate_injective (base : String) : Function.Injective (candidate base) := by
  have suffixed : ∀ n, candidate base (n + 1) ≠ base := by
    intro n same
    have length := congrArg String.length same
    simp only [candidate, String.length_append] at length
    exact decimal_ne_empty (n + 2) (String.length_eq_zero_iff.1 (by omega))
  intro m n same
  cases m with
  | zero =>
      cases n with
      | zero => rfl
      | succ n => exact absurd same.symm (suffixed n)
  | succ m =>
      cases n with
      | zero => exact absurd same (suffixed m)
      | succ n =>
          have digits : decimal (m + 2) = decimal (n + 2) := (String.append_right_inj base).1 same
          have numbers := decimal_injective digits
          omega

/-- By the pigeonhole principle, one of more candidates than there are names in use is free. -/
theorem exists_free_candidate
    (base : String)
    (used : List String) :
    ∃ n ≤ used.length, candidate base n ∉ used := by
  by_contra all
  have within : (List.range (used.length + 1)).map (candidate base) ⊆ used := by
    intro name member
    obtain ⟨n, early, rfl⟩ := List.mem_map.1 member
    by_contra free
    exact all ⟨n, Nat.lt_succ_iff.1 (List.mem_range.1 early), free⟩
  have distinct := (List.nodup_range (n := used.length + 1)).map (candidate_injective base)
  have fewer := (List.subperm_of_subset distinct within).length_le
  simp only [List.length_map, List.length_range] at fewer
  omega

/-- A new local variable is named by the first candidate that is free. -/
theorem exists_freshName_eq
    (className : String)
    (used : List String) :
    ∃ n ≤ used.length, freshName className used = candidate (Naming.camel className) n ∧
      candidate (Naming.camel className) n ∉ used ∧
      ∀ m < n, candidate (Naming.camel className) m ∈ used := by
  obtain ⟨n, early, free⟩ := exists_free_candidate (Naming.camel className) used
  have someFree : ((List.range (used.length + 1)).find?
      ((!used.contains ·) ∘ candidate (Naming.camel className))).isSome :=
    List.find?_isSome.2 ⟨n, List.mem_range.2 (Nat.lt_succ_iff.2 early), by simpa using free⟩
  obtain ⟨first, hit⟩ := Option.isSome_iff_exists.1 someFree
  have chosen : freshName className used = candidate (Naming.camel className) first := by
    rw [freshName, List.find?_map, hit, Option.map_some, Option.getD_some]
  obtain ⟨isFree, within, before⟩ := List.find?_range_eq_some.1 hit
  refine ⟨first, Nat.lt_succ_iff.1 (List.mem_range.1 within), chosen, by simpa using isFree, ?_⟩
  exact fun m earlier => by simpa using before m earlier

/-- A new local variable has a name that is not used yet. -/
theorem freshName_not_mem
    (className : String)
    (used : List String) :
    freshName className used ∉ used := by
  obtain ⟨n, -, chosen, free, -⟩ := exists_freshName_eq className used
  rwa [chosen]

theorem Bench.name_next_not_mem
    (b : Bench)
    (d : Declaration) :
    (b.next d).name ∉ b.used :=
  freshName_not_mem _ _

end Candidates

section Searching

variable {base : String} {used : List String}

/-- What is tried in the search for a name, and the number of the next attempt. -/
structure Attempt where
  name : String
  suffix : Nat

/-- The first attempt is the name as it stands, and numbers begin with 2. -/
def Attempt.first (base : String) : Attempt := ⟨base, 2⟩

/-- After a name that is in use the search goes on with the next number. -/
inductive TriesNext (base : String) (used : List String) : Attempt → Attempt → Prop
  | inUse
      {attempt : Attempt}
      (isUsed : attempt.name ∈ used) :
      TriesNext base used attempt ⟨base ++ decimal attempt.suffix, attempt.suffix + 1⟩

/-- The search comes to every candidate in front of which all are in use. -/
theorem reflTransGen_triesNext
    (n : Nat)
    (inUse : ∀ m < n, candidate base m ∈ used) :
    ReflTransGen (TriesNext base used) (.first base) ⟨candidate base n, n + 2⟩ := by
  induction n with
  | zero => exact .refl
  | succ n ih =>
      have before := ih fun m earlier => inUse m (Nat.lt_succ_of_lt earlier)
      exact before.tail (.inUse (inUse n (Nat.lt_succ_self n)))

/-- A search that comes to a free name cannot go on for ever. -/
theorem acc_triesNext
    {start last : Attempt}
    (path : ReflTransGen (TriesNext base used) start last)
    (free : last.name ∉ used) :
    Acc (Function.swap (TriesNext base used)) start := by
  induction path using ReflTransGen.head_induction_on with
  | refl => exact .intro _ fun _ ⟨isUsed⟩ => absurd isUsed free
  | head first _ ih =>
      -- there is but one way to go on
      cases first
      exact .intro _ fun _ ⟨_⟩ => ih

end Searching

section Taking

/-- Takes names for a list of classes, one after the other; gives them and the names that are used
then. -/
def takeNames (used : List String) : List String → List String × List String
  | [] => ([], used)
  | className :: rest =>
      let (name, used) := takeName className used
      let (names, used) := takeNames used rest
      (name :: names, used)

theorem takeNames_cons
    (used : List String)
    (className : String)
    (rest : List String) :
    takeNames used (className :: rest) =
      let later := takeNames (freshName className used :: used) rest
      (freshName className used :: later.1, later.2) :=
  rfl

/-- Names that are taken one after the other are new, all different, and used from then on. -/
theorem exists_takeNames_eq
    (used classNames : List String) :
    ∃ names after, takeNames used classNames = (names, after) ∧
      names.length = classNames.length ∧ names.Nodup ∧ (∀ name ∈ names, name ∉ used) ∧
      ∀ name, name ∈ after ↔ name ∈ names ∨ name ∈ used := by
  induction classNames generalizing used with
  | nil => exact ⟨[], used, rfl, by simp⟩
  | cons className rest ih =>
      obtain ⟨names, after, later, sameLength, distinct, unused, usedThen⟩ :=
        ih (freshName className used :: used)
      have behind : ∀ name ∈ names, name ≠ freshName className used ∧ name ∉ used := by
        simpa using unused
      refine ⟨freshName className used :: names, after, ?_, by simp [sameLength], ?_, ?_, ?_⟩
      · rw [takeNames_cons, later]
      · exact List.nodup_cons.2 ⟨fun member => (behind _ member).1 rfl, distinct⟩
      · exact List.forall_mem_cons.2
          ⟨freshName_not_mem className used, fun name member => (behind name member).2⟩
      · intro name
        rw [usedThen name, List.mem_cons, List.mem_cons, or_left_comm, or_assoc]

/-- Names of local variables are fresh.

For every class and all names in use the search for a name, which tries the name of the class and then
this name with 2, 3 and so on, comes to an end; the number that it would try next is at most two more
than there are names in use.  It ends with the name that is taken.  This is a name that is not in use:
the name of the class in camelCase, or else that name with the smallest number from 2 on with which it is
not in use; afterwards exactly this name is in use besides the others.  So whatever the classes are
called, the names that are taken for one after the other are all different. -/
theorem local_names_are_fresh_and_distinct :
    (∀ className used,
      let base := Naming.camel className
      ∃ name after, takeName className used = (name, after) ∧
        Acc (Function.swap (TriesNext base used)) (.first base) ∧
        (∃ suffix ≤ used.length + 2,
          ReflTransGen (TriesNext base used) (.first base) ⟨name, suffix⟩) ∧
        name ∉ used ∧
        (name = base ∨
          ∃ n ≥ 2, name = base ++ decimal n ∧ base ∈ used ∧
            ∀ m, 2 ≤ m → m < n → base ++ decimal m ∈ used) ∧
        ∀ other, other ∈ after ↔ other = name ∨ other ∈ used) ∧
    ∀ used classNames, ∃ names after, takeNames used classNames = (names, after) ∧
      names.length = classNames.length ∧ names.Nodup ∧ (∀ name ∈ names, name ∉ used) ∧
      ∀ name, name ∈ after ↔ name ∈ names ∨ name ∈ used := by
  refine ⟨fun className used => ?_, exists_takeNames_eq⟩
  obtain ⟨n, few, chosen, free, inUse⟩ := exists_freshName_eq className used
  have path := reflTransGen_triesNext n inUse
  refine ⟨freshName className used, _, rfl, acc_triesNext path free, ⟨n + 2, by omega, ?_⟩, ?_, ?_,
    fun other => List.mem_cons⟩
  · rwa [chosen]
  · rwa [chosen]
  · rw [chosen]
    cases n with
    | zero => exact .inl rfl
    | succ n =>
        refine .inr ⟨n + 2, by omega, rfl, inUse 0 (by omega), fun m atLeast less => ?_⟩
        obtain ⟨k, rfl⟩ := Nat.exists_eq_add_of_le' atLeast
        exact inUse (k + 1) (by omega)

/-- A class that is called like a numbered name takes that name, and the number is passed over. -/
example : (takeNames [] ["Order", "Order2", "Order"]).1 = ["order", "order2", "order3"] := by
  decide +kernel

end Taking

end Mock
end Java
end Scaffold
