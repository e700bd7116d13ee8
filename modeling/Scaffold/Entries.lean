/-!
# Entries

A list of entries, each a key with a value, read as a partial map: a key stands for the value of its
first entry.  Putting a value under a key replaces that first entry or adds one behind all others;
putting it last drops what the key had and adds an entry behind all others.  Either way a list whose
keys are distinct stays one.
-/

namespace Scaffold

universe u v

section Entries

variable {κ : Type v} {α : Type u} [BEq κ]

namespace Entries

/-- The keys in order. -/
def keys (entries : List (κ × α)) : List κ :=
  entries.map Prod.fst

/-- Puts a value under a key, in the place of the old one or behind all others. -/
def put
    (key : κ)
    (value : α) : List (κ × α) → List (κ × α)
  | [] => [(key, value)]
  | (known, old) :: rest =>
      if known == key then (key, value) :: rest else (known, old) :: put key value rest

/-- Puts a value under a key, behind all others even if the key had a value. -/
def putLast
    (key : κ)
    (value : α)
    (entries : List (κ × α)) : List (κ × α) :=
  entries.filter (fun entry => !(entry.1 == key)) ++ [(key, value)]

variable [LawfulBEq κ]

/-- The key that was put has its new value. -/
theorem lookup_put_self
    (key : κ)
    (value : α)
    (entries : List (κ × α)) :
    (put key value entries).lookup key = some value := by
  induction entries with
  | nil => simp [put]
  | cons head rest ih =>
      obtain ⟨known, old⟩ := head
      by_cases same : known = key
      · simp [put, same]
      · have differs : (known == key) = false := by simpa using same
        have differs' : (key == known) = false := by simpa using Ne.symm same
        simp [put, differs, List.lookup_cons, differs', ih]

/-- The other keys keep their values. -/
theorem lookup_put_of_ne
    {key other : κ}
    (value : α)
    (entries : List (κ × α))
    (h : other ≠ key) :
    (put key value entries).lookup other = entries.lookup other := by
  have apart : (other == key) = false := by simpa using h
  induction entries with
  | nil => simp [put, List.lookup_cons, apart]
  | cons head rest ih =>
      obtain ⟨known, old⟩ := head
      by_cases same : known = key
      · subst same
        simp [put, List.lookup_cons, apart]
      · have differs : (known == key) = false := by simpa using same
        simp [put, differs, List.lookup_cons, ih]

/-- Putting adds no key but the new one. -/
theorem mem_keys_put
    (key : κ)
    (value : α)
    (entries : List (κ × α))
    {known : κ} :
    known ∈ keys (put key value entries) ↔ known = key ∨ known ∈ keys entries := by
  induction entries with
  | nil => simp [keys, put]
  | cons head rest ih =>
      obtain ⟨first, old⟩ := head
      by_cases same : first = key
      · subst same
        simp [keys, put]
      · have differs : (first == key) = false := by simpa using same
        have unfolded :
            keys (put key value ((first, old) :: rest)) = first :: keys (put key value rest) := by
          simp [keys, put, differs]
        have tail : keys ((first, old) :: rest) = first :: keys rest := rfl
        rw [unfolded, tail, List.mem_cons, List.mem_cons, ih]
        exact or_left_comm

/-- Putting keeps the keys distinct. -/
theorem nodup_keys_put
    (key : κ)
    (value : α)
    (entries : List (κ × α))
    (h : (keys entries).Nodup) :
    (keys (put key value entries)).Nodup := by
  induction entries with
  | nil => simp [keys, put]
  | cons head rest ih =>
      obtain ⟨first, old⟩ := head
      obtain ⟨fresh, tail⟩ : first ∉ keys rest ∧ (keys rest).Nodup := List.nodup_cons.1 h
      by_cases same : first = key
      · subst same
        simpa [keys, put] using h
      · have differs : (first == key) = false := by simpa using same
        have unfolded :
            keys (put key value ((first, old) :: rest)) = first :: keys (put key value rest) := by
          simp [keys, put, differs]
        rw [unfolded]
        refine List.nodup_cons.2 ⟨?_, ih tail⟩
        intro member
        rcases (mem_keys_put key value rest).1 member with isKey | isOld
        · exact same isKey
        · exact fresh isOld

/-- A key with a value has an entry with that value. -/
theorem mem_of_lookup_eq_some
    {entries : List (κ × α)}
    {key : κ}
    {value : α}
    (h : entries.lookup key = some value) :
    (key, value) ∈ entries := by
  induction entries with
  | nil => simp at h
  | cons head rest ih =>
      obtain ⟨known, old⟩ := head
      by_cases same : key = known
      · subst same
        simp at h
        simp [h]
      · have differs : (key == known) = false := by simpa using same
        have further : rest.lookup key = some value := by
          simpa [List.lookup_cons, differs] using h
        exact List.mem_cons_of_mem _ (ih further)

/-- Where keys are distinct, every entry is the one that its key stands for. -/
theorem lookup_eq_some_of_mem
    {entries : List (κ × α)}
    (distinct : (keys entries).Nodup)
    {key : κ}
    {value : α}
    (h : (key, value) ∈ entries) :
    entries.lookup key = some value := by
  induction entries with
  | nil => simp at h
  | cons head rest ih =>
      obtain ⟨known, old⟩ := head
      obtain ⟨fresh, tail⟩ : known ∉ keys rest ∧ (keys rest).Nodup := List.nodup_cons.1 distinct
      rcases List.mem_cons.1 h with isHead | inRest
      · cases isHead
        simp
      · have differs : (key == known) = false := by
          have apart : key ≠ known := by
            intro same
            exact fresh (same ▸ List.mem_map.2 ⟨(key, value), inRest, rfl⟩)
          simpa using apart
        simpa [List.lookup_cons, differs] using ih tail inRest

end Entries

end Entries

end Scaffold
