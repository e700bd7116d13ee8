import Mathlib.Data.List.Dedup
import Mathlib.Data.List.Induction
import Scaffold.Proofs.FileTree.Listing
import Scaffold.Template

/-!
# Walks through a directory

What stands below a directory, and the walks through it: a walk goes into a directory before it goes on
to what stands beside it, and takes what stands in one directory in the order of the names, which is
that of their texts and so of their bytes.  Every directory has a walk.  It comes upon each file once,
in the order of the locations name by name, and goes wrong only where a directory cannot be read.
-/

namespace Scaffold
namespace Template

/-- What stands at a location: a file with its bytes if they can be read, something that is neither a
file nor a directory, or a directory, which may refuse to be listed. -/
inductive Sight where
  | file (bytes : Option ByteArray)
  | other
  | unlisted
  | directory

/-- What stands at the locations below a directory, the directory itself among them.  Whatever stands
somewhere stands in a directory that can be listed. -/
structure View where
  at? : Location → Option Sight
  rooted : ∀ names name, (at? (names ++ [name])).isSome → at? names = some .directory
  finite : ∃ known : List Location, ∀ names, (at? names).isSome → names ∈ known

/-- What a walk comes upon at a location. -/
def View.encounter
    (view : View)
    (names : Location) : List Visit :=
  match view.at? names with
  | none => [.fault]
  | some (.file bytes) => [.file names bytes]
  | some .other => [.other names]
  | some .unlisted => [.other names, .fault]
  | some .directory => [.other names]

/-- What a walk comes upon that has some locations before it: the first of them, then what stands in it in
the order of the names, and then the others. -/
inductive Walk (view : View) : (agenda : List Location) → List Visit → Prop
  | done : Walk view [] []
  | step
      {names : Location}
      {children : List Path.Name}
      {agenda : List Location}
      {visits : List Visit}
      (complete : ∀ child, child ∈ children ↔ (view.at? (names ++ [child])).isSome)
      (ascending : children.Pairwise fun a b => a.text < b.text)
      (onwards : Walk view (children.map (names ++ [·]) ++ agenda) visits) :
      Walk view (names :: agenda) (view.encounter names ++ visits)

/-- Two locations part at a name, where the first has the earlier one. -/
inductive Parts : Location → Location → Prop
  | here
      {a b : Path.Name}
      {as bs : Location}
      (less : a.text < b.text) :
      Parts (a :: as) (b :: bs)
  | later
      {a : Path.Name}
      {as bs : Location}
      (parts : Parts as bs) :
      Parts (a :: as) (a :: bs)

namespace Parts

variable {a b : Location}

theorem append
    (h : Parts a b)
    (c d : Location) :
    Parts (a ++ c) (b ++ d) := by
  induction h with
  | here less => exact .here less
  | later _ ih => exact .later ih

theorem append_left
    (h : Parts a b)
    (front : Location) :
    Parts (front ++ a) (front ++ b) := by
  induction front with
  | nil => exact h
  | cons name front ih => exact .later ih

/-- Locations that part are in the order of their names, one after the other. -/
theorem lt
    (h : Parts a b) :
    a.map Path.Name.text < b.map Path.Name.text := by
  induction h with
  | here less => exact .rel less
  | later _ ih => exact .cons ih

end Parts

/-- Whether a walk with some locations before it will come to another. -/
def Ahead
    (agenda : List Location)
    (names : Location) : Prop :=
  ∃ top ∈ agenda, top <+: names

section Walks

variable {view : View} {agenda : List Location} {visits : List Visit} {names top : Location}
  {children : List Path.Name}

theorem View.isSome_of_append
    {front back : Location}
    (there : (view.at? (front ++ back)).isSome) :
    (view.at? front).isSome := by
  induction back using List.reverseRecOn with
  | nil => simpa using there
  | append_singleton back name ih =>
      rw [← List.append_assoc] at there
      exact ih (by rw [view.rooted _ _ there]; rfl)

@[simp] theorem View.file_mem_encounter
    {bytes : Option ByteArray} :
    .file names bytes ∈ view.encounter top ↔ names = top ∧ view.at? names = some (.file bytes) := by
  unfold encounter
  constructor
  · split <;> aesop
  · rintro ⟨rfl, stands⟩
    simp [stands]

@[simp] theorem View.fault_mem_encounter :
    .fault ∈ view.encounter top ↔ view.at? top = none ∨ view.at? top = some .unlisted := by
  unfold encounter
  split <;> simp_all

/-- What is still to come is what comes first and what is to come then. -/
theorem ahead_cons_iff
    (complete : ∀ child, child ∈ children ↔ (view.at? (top ++ [child])).isSome)
    (there : (view.at? names).isSome) :
    Ahead (top :: agenda) names ↔
      names = top ∨ Ahead (children.map (top ++ [·]) ++ agenda) names := by
  constructor
  · rintro ⟨first, among, rest, rfl⟩
    rcases List.mem_cons.1 among with rfl | among
    · cases rest with
      | nil => exact .inl (List.append_nil _)
      | cons child rest =>
          rw [List.append_cons] at there
          have isChild := (complete child).2 (View.isSome_of_append there)
          refine .inr ⟨first ++ [child], ?_, rest, by simp⟩
          exact List.mem_append_left _ (List.mem_map_of_mem isChild)
    · exact .inr ⟨first, List.mem_append_right _ among, rest, rfl⟩
  · rintro (rfl | ⟨first, among, within⟩)
    · exact ⟨names, List.mem_cons_self, List.prefix_rfl⟩
    · rcases List.mem_append.1 among with isChild | among
      · obtain ⟨child, -, rfl⟩ := List.mem_map.1 isChild
        exact ⟨top, List.mem_cons_self, (List.prefix_append top [child]).trans within⟩
      · exact ⟨first, List.mem_cons_of_mem _ among, within⟩

namespace Walk

/-- A walk comes upon the files that it has before it, each with its bytes. -/
theorem file_mem_iff
    {bytes : Option ByteArray}
    (walk : Walk view agenda visits) :
    .file names bytes ∈ visits ↔ view.at? names = some (.file bytes) ∧ Ahead agenda names := by
  induction walk with
  | done => simp [Ahead]
  | step complete _ _ ih =>
      rw [List.mem_append, View.file_mem_encounter, ih, and_comm, ← and_or_left]
      refine and_congr_right fun stands => ?_
      exact (ahead_cons_iff complete (by simp [stands])).symm

/-- A walk goes wrong where it should find something and does not, and at directories that cannot be
listed. -/
theorem fault_mem_iff
    (walk : Walk view agenda visits) :
    .fault ∈ visits ↔
      (∃ top ∈ agenda, view.at? top = none) ∨
        ∃ names, view.at? names = some .unlisted ∧ Ahead agenda names := by
  induction walk with
  | done => simp [Ahead]
  | @step top children agenda visits complete _ _ ih =>
      have missing : (∃ first ∈ children.map (top ++ [·]) ++ agenda, view.at? first = none) ↔
          ∃ first ∈ agenda, view.at? first = none := by
        have found : ∀ child ∈ children, view.at? (top ++ [child]) ≠ none := fun child among =>
          Option.isSome_iff_ne_none.1 ((complete child).1 among)
        simpa [or_and_right, exists_or] using fun child among absent =>
          absurd absent (found child among)
      have unlisted : (∃ names, view.at? names = some .unlisted ∧ Ahead (top :: agenda) names) ↔
          view.at? top = some .unlisted ∨ ∃ names, view.at? names = some .unlisted ∧
            Ahead (children.map (top ++ [·]) ++ agenda) names := by
        have first : ∀ names, view.at? names = some .unlisted →
            (Ahead (top :: agenda) names ↔
              names = top ∨ Ahead (children.map (top ++ [·]) ++ agenda) names) :=
          fun names stands => ahead_cons_iff complete (by simp [stands])
        constructor
        · rintro ⟨names, stands, ahead⟩
          rcases (first names stands).1 ahead with rfl | ahead
          · exact .inl stands
          · exact .inr ⟨names, stands, ahead⟩
        · rintro (stands | ⟨names, stands, ahead⟩)
          · exact ⟨top, stands, (first top stands).2 (.inl rfl)⟩
          · exact ⟨names, stands, (first names stands).2 (.inr ahead)⟩
      rw [List.mem_append, View.fault_mem_encounter, ih, missing, unlisted, List.exists_mem_cons_iff]
      exact or_or_or_comm

/-- A walk with some locations before it and one with others make one with all of them. -/
theorem append
    {later : List Location}
    {visits' : List Visit}
    (walk : Walk view agenda visits)
    (walk' : Walk view later visits') :
    Walk view (agenda ++ later) (visits ++ visits') := by
  induction walk with
  | done => exact walk'
  | step complete ascending _ ih =>
      rw [List.append_assoc] at ih ⊢
      exact .step complete ascending ih

end Walk

/-- A file that a walk comes upon, with its bytes if they could be read. -/
def Visit.readable? : Visit → Option (Location × ByteArray)
  | file names (some bytes) => some (names, bytes)
  | _ => none

theorem mem_filterMap_readable?
    {bytes : ByteArray} :
    (names, bytes) ∈ visits.filterMap Visit.readable? ↔ .file names (some bytes) ∈ visits := by
  have same : ∀ visit : Visit,
      visit.readable? = some (names, bytes) ↔ visit = .file names (some bytes) := by
    intro visit
    unfold Visit.readable?
    split <;> simp_all
  simp [List.mem_filterMap, same]

theorem View.pairwise_readable_encounter
    (view : View)
    (names : Location) :
    ((view.encounter names).filterMap Visit.readable?).Pairwise fun a b => Parts a.1 b.1 := by
  unfold encounter
  split
  · exact .nil
  · next bytes _ =>
      cases bytes with
      | none => exact .nil
      | some bytes => exact List.pairwise_singleton _ _
  all_goals exact .nil

/-- A walk comes upon the files in the order of their locations. -/
theorem Walk.pairwise_readable
    (walk : Walk view agenda visits)
    (apart : agenda.Pairwise Parts) :
    (visits.filterMap Visit.readable?).Pairwise fun a b => Parts a.1 b.1 := by
  induction walk with
  | done => exact .nil
  | @step top children agenda visits complete ascending onwards ih =>
      obtain ⟨first, others⟩ := List.pairwise_cons.1 apart
      have below : (children.map (top ++ [·]) ++ agenda).Pairwise Parts := by
        refine List.pairwise_append.2 ⟨?_, others, ?_⟩
        · exact List.pairwise_map.2 (ascending.imp fun less => (Parts.here less).append_left top)
        · intro child among other isOther
          obtain ⟨name, -, rfl⟩ := List.mem_map.1 among
          simpa using (first other isOther).append [name] []
      rw [List.filterMap_append]
      refine List.pairwise_append.2 ⟨view.pairwise_readable_encounter top, ih below, ?_⟩
      rintro ⟨names, bytes⟩ here ⟨later, bytes'⟩ there
      obtain ⟨rfl, stands⟩ := View.file_mem_encounter.1 (mem_filterMap_readable?.1 here)
      obtain ⟨-, next, among, rest, rfl⟩ := onwards.file_mem_iff.1 (mem_filterMap_readable?.1 there)
      rcases List.mem_append.1 among with isChild | among
      · -- nothing stands in a file
        obtain ⟨child, amongChildren, rfl⟩ := List.mem_map.1 isChild
        have isDirectory := view.rooted _ _ ((complete child).1 amongChildren)
        simp [stands] at isDirectory
      · simpa using (first next among).append [] rest

/-- The names of what stands in a directory can be put in order. -/
theorem View.exists_children
    (view : View)
    (names : Location) :
    ∃ children : List Path.Name,
      (∀ child, child ∈ children ↔ (view.at? (names ++ [child])).isSome) ∧
        children.Pairwise fun a b => a.text < b.text := by
  obtain ⟨known, all⟩ := view.finite
  set unsorted := ((known.filterMap List.getLast?).filter fun child =>
    (view.at? (names ++ [child])).isSome).dedup with unsorted_eq
  refine ⟨unsorted.mergeSort fun a b => decide (a.text ≤ b.text), fun child => ?_, ?_⟩
  · rw [List.mem_mergeSort, unsorted_eq, List.mem_dedup, List.mem_filter, and_iff_right_iff_imp]
    exact fun there => List.mem_filterMap.2 ⟨_, all _ there, by simp⟩
  · have sorted : (unsorted.mergeSort fun a b => decide (a.text ≤ b.text)).Pairwise
        fun a b => decide (a.text ≤ b.text) = true :=
      List.pairwise_mergeSort (fun a b c => by simpa using le_trans)
        (fun a b => by simpa using le_total a.text b.text) unsorted
    have distinct : (unsorted.mergeSort fun a b => decide (a.text ≤ b.text)).Nodup :=
      (List.mergeSort_perm _ _).nodup_iff.2 (List.nodup_dedup _)
    refine (sorted.and distinct).imp fun {a b} ⟨least, differs⟩ => ?_
    have differs' : a.text ≠ b.text := fun same => differs (Path.Name.text_injective same)
    exact lt_of_le_of_ne (by simpa using least) differs'

/-- There is a walk with some locations before it if there is one with each of them. -/
theorem View.exists_walk_of_forall
    (each : ∀ top ∈ agenda, ∃ visits, Walk view [top] visits) :
    ∃ visits, Walk view agenda visits := by
  induction agenda with
  | nil => exact ⟨[], .done⟩
  | cons top agenda ih =>
      obtain ⟨⟨visits, walk⟩, others⟩ := List.forall_mem_cons.1 each
      obtain ⟨visits', walk'⟩ := ih others
      exact ⟨visits ++ visits', walk.append walk'⟩

/-- Every directory has a walk. -/
theorem View.exists_walk (view : View) :
    ∃ visits, Walk view [[]] visits := by
  obtain ⟨known, all⟩ := view.finite
  -- a location that is known is no longer than the longest
  obtain ⟨bound, longest⟩ : ∃ bound, ∀ names ∈ known, names.length ≤ bound :=
    ⟨known.flatten.length, fun names member => (List.sublist_flatten_of_mem member).length_le⟩
  have general : ∀ names, ∃ visits, Walk view [names] visits := by
    intro names
    induction room : bound - names.length using Nat.strongRecOn generalizing names with
    | ind room ih =>
        subst room
        obtain ⟨children, complete, ascending⟩ := view.exists_children names
        obtain ⟨visits, walk⟩ : ∃ visits, Walk view (children.map (names ++ [·])) visits := by
          refine View.exists_walk_of_forall fun top among => ?_
          obtain ⟨child, isChild, rfl⟩ := List.mem_map.1 among
          have low := longest _ (all _ ((complete child).1 isChild))
          rw [List.length_append, List.length_singleton] at low
          exact ih _ (by rw [List.length_append, List.length_singleton]; omega) _ rfl
        exact ⟨_, .step complete ascending (by simpa using walk)⟩
  exact general []

end Walks

end Template
end Scaffold
