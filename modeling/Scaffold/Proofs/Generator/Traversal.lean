import Mathlib.Data.List.Forall2
import Mathlib.Data.List.Perm.Basic

/-!
# Going through a list up to the first failure

A traversal that may fail either gives one result for each element or the failure of the first
element that fails.
-/

namespace Scaffold

section Traversal

variable {α β ε : Type} {f : α → Except ε β} {xs : List α} {failure : ε}

/-- The first of the elements that fail does so with this failure. -/
def FirstFails
    (f : α → Except ε β)
    (xs : List α)
    (failure : ε) : Prop :=
  ∃ front x back,
    xs = front ++ x :: back ∧ (∀ y ∈ front, ∃ result, f y = .ok result) ∧ f x = .error failure

@[simp] theorem not_firstFails_nil :
    ¬ FirstFails f [] failure := by
  rintro ⟨front, x, back, whole, -⟩
  simp at whole

/-- The first failure is that of the head, or the head does not fail and it comes later. -/
theorem firstFails_cons {x : α} :
    FirstFails f (x :: xs) failure ↔
      f x = .error failure ∨ (∃ result, f x = .ok result) ∧ FirstFails f xs failure := by
  constructor
  · rintro ⟨front, y, back, whole, passed, failed⟩
    cases front with
    | nil =>
        obtain ⟨rfl, rfl⟩ : x = y ∧ xs = back := by simpa using whole
        exact .inl failed
    | cons first front =>
        obtain ⟨rfl, rfl⟩ : x = first ∧ xs = front ++ y :: back := by simpa using whole
        exact .inr ⟨passed x (by simp), front, y, back, rfl,
          fun z member => passed z (by simp [member]), failed⟩
  · rintro (failed | ⟨passed, front, y, back, rfl, others, failed⟩)
    · exact ⟨[], x, xs, rfl, by simp, failed⟩
    · refine ⟨x :: front, y, back, rfl, ?_, failed⟩
      intro z member
      rcases List.mem_cons.1 member with rfl | later
      · exact passed
      · exact others z later

theorem firstFails_append {ys : List α} :
    FirstFails f (xs ++ ys) failure ↔
      FirstFails f xs failure ∨
        (∀ x ∈ xs, ∃ result, f x = .ok result) ∧ FirstFails f ys failure := by
  induction xs with
  | nil => simp
  | cons x xs ih =>
      simp only [List.cons_append, firstFails_cons, ih, List.forall_mem_cons]
      constructor
      · rintro (failed | ⟨passed, first | ⟨others, later⟩⟩)
        · exact .inl (.inl failed)
        · exact .inl (.inr ⟨passed, first⟩)
        · exact .inr ⟨⟨passed, others⟩, later⟩
      · rintro ((failed | ⟨passed, first⟩) | ⟨⟨passed, others⟩, later⟩)
        · exact .inl failed
        · exact .inr ⟨passed, .inl first⟩
        · exact .inr ⟨passed, .inr ⟨others, later⟩⟩

/-- The first failure of a family of lists is in the first of them in which something fails. -/
theorem firstFails_flatMap
    {ι : Type}
    {family : ι → List α}
    {is : List ι} :
    FirstFails f (is.flatMap family) failure ↔
      ∃ front i back,
        is = front ++ i :: back ∧
          (∀ j ∈ front, ∀ x ∈ family j, ∃ result, f x = .ok result) ∧
          FirstFails f (family i) failure := by
  induction is with
  | nil => simp
  | cons i is ih =>
      rw [List.flatMap_cons, firstFails_append, ih]
      constructor
      · rintro (first | ⟨passed, front, j, back, rfl, others, later⟩)
        · exact ⟨[], i, is, rfl, by simp, first⟩
        · exact ⟨i :: front, j, back, rfl, List.forall_mem_cons.2 ⟨passed, others⟩, later⟩
      · rintro ⟨front, j, back, whole, others, first⟩
        cases front with
        | nil =>
            obtain ⟨rfl, rfl⟩ : i = j ∧ is = back := by simpa using whole
            exact .inl first
        | cons k front =>
            obtain ⟨rfl, rfl⟩ : i = k ∧ is = front ++ j :: back := by simpa using whole
            exact .inr ⟨others i (by simp), front, j, back, rfl,
              fun k member => others k (by simp [member]), first⟩

theorem firstFails_map
    {ι : Type}
    {image : ι → α}
    {is : List ι} :
    FirstFails f (is.map image) failure ↔ FirstFails (fun i => f (image i)) is failure := by
  induction is with
  | nil => simp
  | cons i is ih => rw [List.map_cons, firstFails_cons, firstFails_cons, ih]

/-- What fails first depends only on what fails and why. -/
theorem firstFails_congr
    {γ : Type}
    {f' : α → Except ε γ}
    (same : ∀ x reason, f x = .error reason ↔ f' x = .error reason) :
    FirstFails f xs failure ↔ FirstFails f' xs failure := by
  have passes : ∀ x, (∃ result, f x = .ok result) ↔ ∃ result, f' x = .ok result := by
    intro x
    have both := same x
    cases first : f x <;> cases second : f' x <;> simp_all
  induction xs with
  | nil => simp
  | cons x xs ih =>
      rw [firstFails_cons, firstFails_cons, same x failure, passes x]
      exact or_congr_right (and_congr_right fun _ => ih)

/-- A traversal that succeeds gives one result for each element. -/
theorem mapM_eq_ok
    {results : List β} :
    xs.mapM f = .ok results ↔ List.Forall₂ (fun x result => f x = .ok result) xs results := by
  induction xs generalizing results with
  | nil => cases results <;> simp [pure, Except.pure]
  | cons x xs ih =>
      rw [List.mapM_cons]
      cases first : f x with
      | error e => cases results <;> simp [bind, Except.bind, first]
      | ok result =>
          cases later : xs.mapM f with
          | error e => cases results <;> simp [bind, Except.bind, first, ← ih, later]
          | ok rest =>
              cases results <;>
                simp [bind, Except.bind, pure, Except.pure, first, ← ih, later]

/-- A traversal that fails gives the failure of the first element that fails. -/
theorem mapM_eq_error :
    xs.mapM f = .error failure ↔ FirstFails f xs failure := by
  induction xs with
  | nil => simp [pure, Except.pure]
  | cons x xs ih =>
      rw [List.mapM_cons, firstFails_cons, ← ih]
      cases first : f x with
      | error e => simp [bind, Except.bind]
      | ok result =>
          cases later : xs.mapM f with
          | error e => simp [bind, Except.bind]
          | ok rest => simp [bind, Except.bind, pure, Except.pure]

/-- Every element of a traversal that succeeds has its result, and every result comes from one. -/
theorem exists_of_mapM_eq_ok
    {results : List β}
    (done : xs.mapM f = .ok results) :
    (∀ x ∈ xs, ∃ result, f x = .ok result) ∧
      ∀ result ∈ results, ∃ x ∈ xs, f x = .ok result := by
  induction mapM_eq_ok.1 done with
  | nil => simp
  | cons passed later ih =>
      obtain ⟨left, right⟩ := ih (mapM_eq_ok.2 later)
      constructor
      · simpa [passed] using left
      · intro result member
        rcases List.mem_cons.1 member with rfl | member
        · exact ⟨_, by simp, passed⟩
        · obtain ⟨x, among, gives⟩ := right result member
          exact ⟨x, by simp [among], gives⟩

/-- When some element fails, one of them is the first. -/
theorem exists_firstFails
    {x : α}
    (member : x ∈ xs)
    (failed : f x = .error failure) :
    ∃ first, FirstFails f xs first := by
  cases all : xs.mapM f with
  | error first => exact ⟨first, mapM_eq_error.1 all⟩
  | ok results =>
      obtain ⟨result, passed⟩ := (exists_of_mapM_eq_ok all).1 x member
      rw [failed] at passed
      cases passed

theorem eq_ok_of_toOption
    {result : Except ε α}
    {value : α}
    (done : result.toOption = some value) :
    result = .ok value := by
  cases result with
  | error failure => cases done
  | ok value' => exact congrArg Except.ok (Option.some.inj done)

theorem exists_of_forall₂_left
    {R : α → β → Prop}
    {results : List β}
    (h : List.Forall₂ R xs results)
    {x : α}
    (member : x ∈ xs) :
    ∃ result ∈ results, R x result := by
  obtain ⟨i, inside, rfl⟩ := List.getElem_of_mem member
  have inside' : i < results.length := by
    rw [← h.length_eq]
    exact inside
  exact ⟨results[i], List.getElem_mem inside', h.get inside inside'⟩

theorem exists_of_forall₂_right
    {R : α → β → Prop}
    {results : List β}
    (h : List.Forall₂ R xs results)
    {result : β}
    (member : result ∈ results) :
    ∃ x ∈ xs, R x result :=
  exists_of_forall₂_left (R := flip R) h.flip member

/-- What is related to a list in two parts is in two parts itself. -/
theorem exists_append_of_forall₂
    {R : α → β → Prop}
    {front back : List α}
    {results : List β}
    (h : List.Forall₂ R (front ++ back) results) :
    ∃ first second, results = first ++ second ∧
      List.Forall₂ R front first ∧ List.Forall₂ R back second :=
  ⟨results.take front.length, results.drop front.length, (List.take_append_drop _ _).symm,
    (List.forall₂_take_append _ _ _ h.flip).flip, (List.forall₂_drop_append _ _ _ h.flip).flip⟩

/-- What is related to two families of lists by turns can be sorted, keeping the order of the first. -/
theorem exists_sorted_of_forall₂
    {ι : Type}
    {R : α → β → Prop}
    {first second : ι → List α}
    {is : List ι}
    {results : List β}
    (h : List.Forall₂ R (is.flatMap fun i => first i ++ second i) results) :
    ∃ us vs, us.Sublist results ∧ results.Perm (us ++ vs) ∧
      List.Forall₂ R (is.flatMap first) us ∧ List.Forall₂ R (is.flatMap second) vs := by
  induction is generalizing results with
  | nil =>
      obtain rfl := List.forall₂_nil_left_iff.1 h
      exact ⟨[], [], List.Sublist.refl _, List.Perm.refl _, .nil, .nil⟩
  | cons i is ih =>
      rw [List.flatMap_cons] at h
      obtain ⟨here, later, rfl, both, others⟩ := exists_append_of_forall₂ h
      obtain ⟨mine, yours, rfl, left, right⟩ := exists_append_of_forall₂ both
      obtain ⟨us, vs, ordered, all, lefts, rights⟩ := ih others
      refine ⟨mine ++ us, yours ++ vs, ?_, ?_, List.rel_append left lefts,
        List.rel_append right rights⟩
      · rw [List.append_assoc]
        exact (ordered.trans (List.sublist_append_right yours later)).append_left mine
      · have moved : (yours ++ later).Perm (us ++ (yours ++ vs)) :=
          (all.append_left yours).trans (List.perm_append_comm_assoc yours us vs)
        simpa [List.append_assoc] using moved.append_left mine

end Traversal

end Scaffold
