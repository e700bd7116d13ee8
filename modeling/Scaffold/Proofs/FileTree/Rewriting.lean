import Scaffold.Proofs.FileTree.Containment

/-!
# Writing a file again

Once a file was written at a path, the directories on the way to it are there, and the file is in its
place.  As long as nothing is taken away, writing at this path again creates nothing and replaces this one
file.  Replacing a file keeps the locations of a tree and their order, so a tree in which every file has
got back what it held is the same tree.
-/

namespace Scaffold

universe u v

section Entries

variable {κ : Type v} {α : Type u} [BEq κ] [LawfulBEq κ]

/-- Putting a value under a known key keeps the keys and their order. -/
theorem Entries.keys_put_of_mem
    {key : κ}
    {entries : List (κ × α)}
    (known : key ∈ keys entries)
    (value : α) :
    keys (put key value entries) = keys entries := by
  induction entries with
  | nil => cases known
  | cons head rest ih =>
      obtain ⟨first, old⟩ := head
      by_cases same : first = key
      · simp [keys, put, same]
      · have differs : (first == key) = false := by simpa using same
        have inRest : key ∈ keys rest := by simpa [keys, Ne.symm same] using known
        have tail : keys (put key value rest) = keys rest := ih inRest
        simpa [keys, put, differs] using tail

/-- Entries with the same distinct keys in the same order and the same values are the same. -/
theorem Entries.eq_of_lookup_eq
    {left right : List (κ × α)}
    (distinct : (keys left).Nodup)
    (sameKeys : keys left = keys right)
    (sameValues : ∀ key, left.lookup key = right.lookup key) :
    left = right := by
  induction left generalizing right with
  | nil => exact (List.map_eq_nil_iff.1 sameKeys.symm).symm
  | cons head rest ih =>
      obtain ⟨key, value⟩ := head
      obtain ⟨⟨key', value'⟩, rest', rfl⟩ :=
        List.exists_cons_of_ne_nil (l := right) (by rintro rfl; cases sameKeys)
      obtain ⟨rfl, sameRest⟩ : key = key' ∧ keys rest = keys rest' := by simpa [keys] using sameKeys
      obtain ⟨fresh, distinctRest⟩ := List.nodup_cons.1 distinct
      obtain rfl : value = value' := by simpa using sameValues key
      have unknown : ∀ entries : List (κ × α), keys entries = keys rest →
          entries.lookup key = none := fun entries same =>
        Option.eq_none_iff_forall_ne_some.2 fun found hit => by
          have among : key ∈ keys entries := List.mem_map.2 ⟨_, mem_of_lookup_eq_some hit, rfl⟩
          have amongRest : key ∈ keys rest := same ▸ among
          exact fresh amongRest
      refine congrArg _ (ih distinctRest sameRest fun other => ?_)
      by_cases same : other = key
      · subst same
        rw [unknown rest rfl, unknown rest' sameRest.symm]
      · have differs : (other == key) = false := by simpa using same
        simpa [List.lookup_cons, differs] using sameValues other

end Entries

namespace FileTree

section Again

variable {old mid new tree : FileTree} {p : Path} {bytes : ByteArray} {location : Location}

/-- A step down into a directory creates nothing. -/
theorem createAlong_down_of_directory
    (here : tree.isDirectory location = true)
    {name : Path.Name}
    (found : tree.find? (location ++ [name]) = some .directory)
    (rest : List Path.Step) :
    tree.createAlong location here (.down name :: rest) =
      tree.createAlong (location ++ [name]) ((tree.isDirectory_iff _).2 found) rest := by
  rw [createAlong]
  split
  · rfl
  · rename_i stands
    cases stands.symm.trans found
  · rename_i stands
    cases stands.symm.trans found

/-- Where directories were created along steps, these begin in a directory from then on. -/
theorem find?_of_createAlong
    {here : old.isDirectory location = true}
    {steps : List Path.Step}
    {reached : Location}
    (made : old.createAlong location here steps = (mid, .ok reached))
    (persists : Persists mid tree) :
    tree.find? location = some .directory := by
  have extended := old.extends_createAlong location here steps
  rw [made] at extended
  exact persists.find?_directory (extended.find?_eq ((old.isDirectory_iff _).1 here))

/-- Steps along which directories were created lead through directories from then on. -/
theorem createAlong_again
    {here : old.isDirectory location = true}
    {steps : List Path.Step}
    {reached : Location}
    (made : old.createAlong location here steps = (mid, .ok reached))
    (persists : Persists mid tree)
    (here' : tree.isDirectory location = true) :
    tree.createAlong location here' steps = (tree, .ok reached) := by
  fun_induction createAlong old location here steps with
  | case1 =>
      obtain ⟨rfl, rfl⟩ : _ ∧ _ := by simpa using made
      simp [createAlong]
  | case2 old location here rest ih => simpa [createAlong] using ih made here'
  | case3 old location here rest ih =>
      simpa [createAlong] using ih made (tree.isDirectory_dropLast here')
  | case4 old location here name rest next found ih =>
      rw [createAlong_down_of_directory here' (find?_of_createAlong made persists)]
      exact ih made _
  | case5 => simp at made
  | case6 old location here name rest next found accepted room ih =>
      rw [createAlong_down_of_directory here' (find?_of_createAlong made persists)]
      exact ih made _
  | case7 => simp at made

/-- Directories that were created are not created again. -/
theorem createDirectories_again
    (made : old.createDirectories p = (mid, .ok ()))
    (persists : Persists mid tree) :
    tree.createDirectories p = (tree, .ok ()) := by
  have extended : Extends old mid := by simpa [made] using old.extends_createDirectories p
  have start := (persists.start_eq p).trans (extended.persists.start_eq p)
  unfold createDirectories at made ⊢
  split at made
  · rename_i nothing
    simp [nothing]
  · rename_i something
    split at made
    · rename_i accepted
      split at made
      · rename_i extended reached led
        obtain rfl : extended = mid := congrArg Prod.fst made
        have here : tree.isDirectory (old.start p) = true := start ▸ tree.isDirectory_start p
        simp [something, accepted, start, createAlong_again led persists here]
      · simp at made
    · simp at made

/-- A file stays in its place. -/
theorem place_again
    (placed : mid.place p = .ok location)
    (persists : Persists mid tree)
    (holds : tree.find? location = some (.file bytes)) :
    tree.place p = .ok location := by
  obtain ⟨accepted, led, -⟩ := follow_of_place placed
  unfold place at placed ⊢
  rw [if_pos accepted] at placed ⊢
  split at placed
  · rename_i name last
    simp [persists.trace led, holds]
  · cases placed

theorem replaceFile_of_place
    (placed : tree.place p = .ok location)
    (bytes : ByteArray) :
    tree.replaceFile p bytes =
      (tree.put location (.file bytes) (hasRoom_of_place placed), .ok ()) := by
  unfold replaceFile
  split
  · rename_i found same
    obtain rfl := Except.ok.inj (same.symm.trans placed)
    rfl
  · rename_i fault same
    cases same.symm.trans placed

/-- A path at which a file can be written again: the directories on the way are there, and so is the
file. -/
structure Rewritable
    (tree : FileTree)
    (p : Path)
    (location : Location) : Prop where
  passes : ∀ parent, p.parent? = some parent → tree.createDirectories parent = (tree, .ok ())
  placed : tree.place p = .ok location
  held : ∃ bytes, tree.find? location = some (.file bytes)

/-- A file that was replaced was in its place. -/
theorem exists_place_of_replaceFile
    (done : old.replaceFile p bytes = (new, .ok ())) :
    ∃ location, old.place p = .ok location ∧ Stored old new p bytes location := by
  obtain ⟨location, stored⟩ := stored_of_replaceFile done
  unfold replaceFile at done
  split at done
  · rename_i target placed
    obtain ⟨-, led, -⟩ := follow_of_place placed
    obtain ⟨-, led', -⟩ := locate_eq_ok.1 stored.leads
    obtain rfl : target = location :=
      Except.ok.inj ((stored.persists.trace led).symm.trans led')
    exact ⟨target, placed, stored⟩
  · simp at done

/-- Where a file was written, it can be written again as long as nothing is taken away. -/
theorem exists_rewritable_of_write
    (done : old.write p bytes = (new, .ok ())) :
    ∃ location, new.locate p = .ok location ∧
      ∀ tree, Persists new tree → tree.Rewritable p location := by
  obtain ⟨mid, made, replaced⟩ : ∃ mid,
      (∀ parent, p.parent? = some parent → old.createDirectories parent = (mid, .ok ())) ∧
        mid.replaceFile p bytes = (new, .ok ()) := by
    unfold write at done
    split at done
    · rename_i top
      exact ⟨old, fun parent above => by simp [top] at above, done⟩
    · rename_i parent above
      split at done
      · rename_i mid _ made
        exact ⟨mid, fun other same => by simpa [← Option.some.inj (above.symm.trans same)] using made,
          done⟩
      · simp at done
  obtain ⟨location, placed, stored⟩ := exists_place_of_replaceFile replaced
  refine ⟨location, stored.leads, fun tree persists => ?_⟩
  have further : Persists mid tree := stored.persists.trans persists
  obtain ⟨bytes', holds⟩ : ∃ bytes', tree.find? location = some (.file bytes') := by
    have stands := persists.stands location (by simp [stored.holds])
    have isFile := persists.directory location (by simp [stored.holds])
    cases found : tree.find? location with
    | none => simp [found] at stands
    | some entry =>
        cases entry with
        | directory => simp [found, stored.holds] at isFile
        | file bytes' => exact ⟨bytes', rfl⟩
  exact ⟨fun parent above => createDirectories_again (made parent above) further,
    place_again placed further holds, bytes', holds⟩

/-- Writing a file again creates nothing and replaces the file. -/
theorem Rewritable.write_eq
    (h : tree.Rewritable p location)
    (bytes : ByteArray) :
    tree.write p bytes =
      (tree.put location (.file bytes) (hasRoom_of_place h.placed), .ok ()) := by
  unfold FileTree.write
  split
  · exact replaceFile_of_place h.placed bytes
  · rename_i parent above
    rw [h.passes parent above]
    exact replaceFile_of_place h.placed bytes

end Again

section Agreement

variable {a b : FileTree} {location : Location}

/-- Two trees have the same locations in the same order and the same working directory, and hold the same
outside some of the locations. -/
structure AgreeOutside
    (touched : Location → Prop)
    (a b : FileTree) : Prop where
  working : a.working = b.working
  keys : a.entries.keys = b.entries.keys
  same : ∀ location, ¬ touched location → a.entries.get? location = b.entries.get? location

/-- Trees that agree everywhere are the same. -/
theorem AgreeOutside.eq
    (h : AgreeOutside (fun _ => False) a b) :
    a = b := by
  obtain ⟨⟨entries, distinct⟩, working, rooted, inhabited⟩ := a
  obtain ⟨⟨entries', distinct'⟩, working', rooted', inhabited'⟩ := b
  obtain rfl : working = working' := h.working
  obtain rfl : entries = entries' :=
    Entries.eq_of_lookup_eq distinct h.keys fun location => h.same location not_false
  rfl

/-- Replacing a file keeps the agreement with a tree that holds it, and everywhere else. -/
theorem AgreeOutside.put
    {touched remaining : Location → Prop}
    {bytes old : ByteArray}
    (h : AgreeOutside touched a b)
    (room : a.hasRoom location = true)
    (held : a.find? location = some (.file old))
    (settled : ¬ remaining location → b.find? location = some (.file bytes))
    (fewer : ∀ other, other ≠ location → ¬ remaining other → ¬ touched other) :
    AgreeOutside remaining (a.put location (.file bytes) room) b := by
  have notTop := ne_nil_of_hasRoom room
  have stored : a.entries.get? location = some (.file old) := by simpa [find?, notTop] using held
  refine ⟨h.working, ?_, ?_⟩
  · have known : location ∈ Entries.keys a.entries.entries :=
      List.mem_map.2 ⟨_, Entries.mem_of_lookup_eq_some stored, rfl⟩
    exact (Entries.keys_put_of_mem known (.file bytes)).trans h.keys
  · intro other untouched
    by_cases here : other = location
    · subst here
      have inside : b.entries.get? other = some (.file bytes) := by
        simpa [find?, notTop] using settled untouched
      simp [FileTree.put, inside]
    · have kept : (a.put location (.file bytes) room).entries.get? other = a.entries.get? other :=
        OrderedMap.get?_insert_of_ne _ _ here
      rw [kept, h.same other (fewer other here untouched)]

end Agreement

end FileTree
end Scaffold
