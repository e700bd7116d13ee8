/-!
# Sets of names

A set of names is a strictly ascending list, so equal sets are equal lists and the order in which
names are added does not show.
-/

namespace Scaffold

/-- Distinct names in ascending order. -/
structure NameSet where
  names : List String
  ascending : names.Pairwise (· < ·)
  deriving DecidableEq

namespace NameSet

/-- The empty set. -/
def empty : NameSet := ⟨[], List.Pairwise.nil⟩

/-- Puts a name at its place in an ascending list. -/
def insertSorted (name : String) : List String → List String
  | [] => [name]
  | known :: rest =>
      if name < known then name :: known :: rest
      else if name = known then known :: rest
      else known :: insertSorted name rest

/-- The members of a list with a name put into it. -/
theorem mem_insertSorted
    (name : String)
    (names : List String)
    {x : String} :
    x ∈ insertSorted name names ↔ x = name ∨ x ∈ names := by
  induction names with
  | nil => simp [insertSorted]
  | cons known rest ih =>
      unfold insertSorted
      split
      · simp
      · split
        · next same => simp [same]
        · simp only [List.mem_cons, ih]
          exact or_left_comm

/-- A name that neither precedes nor equals another follows it. -/
theorem lt_of_not_lt_of_ne
    {a b : String}
    (notBefore : ¬ a < b)
    (different : ¬ a = b) :
    b < a := by
  have le : b ≤ a := String.not_lt.1 notBefore
  by_cases back : a ≤ b
  · exact absurd (String.le_antisymm back le) different
  · exact String.not_le.1 back

/-- Putting a name at its place keeps the order. -/
theorem ascending_insertSorted
    (name : String)
    (names : List String)
    (h : names.Pairwise (· < ·)) :
    (insertSorted name names).Pairwise (· < ·) := by
  induction names with
  | nil => simp [insertSorted]
  | cons known rest ih =>
      obtain ⟨before, tail⟩ := List.pairwise_cons.1 h
      unfold insertSorted
      split
      · next isFirst =>
          refine List.pairwise_cons.2 ⟨?_, h⟩
          intro x member
          rcases List.mem_cons.1 member with same | later
          · exact same ▸ isFirst
          · exact String.lt_trans isFirst (before x later)
      · next notBefore =>
          split
          · exact h
          · next different =>
              refine List.pairwise_cons.2 ⟨?_, ih tail⟩
              intro x member
              rcases (mem_insertSorted name rest).1 member with same | later
              · exact same ▸ lt_of_not_lt_of_ne notBefore different
              · exact before x later

/-- The set with one more name. -/
def insert
    (set : NameSet)
    (name : String) : NameSet :=
  ⟨insertSorted name set.names, ascending_insertSorted name set.names set.ascending⟩

/-- The members of a set with one more name. -/
theorem mem_names_insert
    (set : NameSet)
    (name : String)
    {x : String} :
    x ∈ (set.insert name).names ↔ x = name ∨ x ∈ set.names :=
  mem_insertSorted name set.names

/-- The set with more names. -/
def insertAll
    (set : NameSet)
    (names : List String) : NameSet :=
  names.foldl insert set

/-- The members of a set with more names. -/
theorem mem_names_insertAll
    (set : NameSet)
    (names : List String)
    {x : String} :
    x ∈ (set.insertAll names).names ↔ x ∈ set.names ∨ x ∈ names := by
  induction names generalizing set with
  | nil => simp [insertAll]
  | cons name rest ih =>
      have step : set.insertAll (name :: rest) = (set.insert name).insertAll rest := rfl
      rw [step, ih, mem_names_insert, List.mem_cons, or_assoc]
      exact or_left_comm

/-- The set of the names in a list. -/
def ofList (names : List String) : NameSet :=
  empty.insertAll names

/-- The members of the set of the names in a list. -/
theorem mem_names_ofList
    (names : List String)
    {x : String} :
    x ∈ (ofList names).names ↔ x ∈ names := by
  simp [ofList, mem_names_insertAll, empty]

/-- The names of two sets. -/
def union
    (a b : NameSet) : NameSet :=
  a.insertAll b.names

/-- The members of the union of two sets. -/
theorem mem_names_union
    (a b : NameSet)
    {x : String} :
    x ∈ (a.union b).names ↔ x ∈ a.names ∨ x ∈ b.names :=
  mem_names_insertAll a b.names

/-- Whether a name is in the set. -/
def contains
    (set : NameSet)
    (name : String) : Bool :=
  set.names.contains name

end NameSet

end Scaffold
