import Scaffold.Entries

/-!
# Ordered maps

A map that keeps its keys in the order in which they were first inserted.  No key stands twice,
which the type records, so an entry is determined by its key.
-/

namespace Scaffold

universe u v

section OrderedMap

variable {κ : Type v} {α : Type u}

/-- Distinct keys with a value each, in order of insertion. -/
structure OrderedMap (κ : Type v) (α : Type u) where
  entries : List (κ × α)
  distinct : (Entries.keys entries).Nodup
  deriving DecidableEq

namespace OrderedMap

/-- The map without keys. -/
def empty : OrderedMap κ α := ⟨[], List.nodup_nil⟩

instance : Inhabited (OrderedMap κ α) := ⟨empty⟩

/-- The keys in order. -/
def keys (m : OrderedMap κ α) : List κ :=
  Entries.keys m.entries

/-- The values in order. -/
def values (m : OrderedMap κ α) : List α :=
  m.entries.map Prod.snd

variable [BEq κ]

/-- The value of a key. -/
def get?
    (m : OrderedMap κ α)
    (key : κ) : Option α :=
  m.entries.lookup key

variable [LawfulBEq κ]

/-- The map with a value put under a key, in the place of the old one or behind all others. -/
def insert
    (m : OrderedMap κ α)
    (key : κ)
    (value : α) : OrderedMap κ α :=
  ⟨Entries.put key value m.entries, Entries.nodup_keys_put key value m.entries m.distinct⟩

/-- The key that was inserted has its new value. -/
@[simp]
theorem get?_insert_self
    (m : OrderedMap κ α)
    (key : κ)
    (value : α) :
    (m.insert key value).get? key = some value :=
  Entries.lookup_put_self key value m.entries

/-- The other keys keep their values. -/
theorem get?_insert_of_ne
    (m : OrderedMap κ α)
    {key other : κ}
    (value : α)
    (h : other ≠ key) :
    (m.insert key value).get? other = m.get? other :=
  Entries.lookup_put_of_ne value m.entries h

/-- The entries of a map are what it says about its keys. -/
theorem get?_eq_some_iff
    (m : OrderedMap κ α)
    {key : κ}
    {value : α} :
    m.get? key = some value ↔ (key, value) ∈ m.entries :=
  ⟨Entries.mem_of_lookup_eq_some, Entries.lookup_eq_some_of_mem m.distinct⟩

end OrderedMap

end OrderedMap

end Scaffold
