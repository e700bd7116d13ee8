import Scaffold.Proofs.FileTree.Anchoring

/-!
# Paths made of names

Paths can be joined in any order.  A path that is relative and ends in no slash is a solid base: what is
joined to it stands behind one slash, so joining loses nothing.  Paths made of names are solid, and so are
those of packages.
-/

namespace Scaffold
namespace Path

/-- A path that others can be joined to: it is relative, names something and ends in no slash. -/
structure Solid (p : Path) : Prop where
  relative : p.isAbsolute = false
  nonempty : p.text ≠ ""
  noSlash : p.text.toList.getLast? ≠ some '/'

/-- An absolute path stands for itself. -/
theorem join_of_isAbsolute
    {base r : Path}
    (absolute : r.isAbsolute = true) :
    base.join r = r := by
  simp [join, absolute]

section Joining

variable {base mid r : Path}

/-- Between two parts and a third there stands what stands between the second and the third. -/
theorem joint_join
    (base : Path)
    (relative : mid.isAbsolute = false) :
    (base.join mid).joint = mid.joint := by
  by_cases nothing : mid.text = ""
  · have ends : (base.join mid).text = "" ∨ (base.join mid).text.toList.getLast? = some '/' := by
      rw [text_join_of_relative base relative, nothing, String.append_empty, joint]
      split
      · next ends => simpa using ends
      · exact .inr (by simp)
    rw [joint, joint, if_pos ends, if_pos (.inl nothing)]
  · obtain ⟨front, last, shape⟩ : ∃ front last, mid.text.toList = front ++ [last] := by
      rcases List.eq_nil_or_concat mid.text.toList with empty | ⟨front, last, shape⟩
      · exact absurd (String.toList_eq_nil_iff.1 empty) nothing
      · exact ⟨front, last, by simpa using shape⟩
    have whole := text_join_of_relative base relative
    simp [joint, nothing, whole, shape]

/-- Paths can be joined in any order. -/
theorem join_assoc (base mid r : Path) :
    (base.join mid).join r = base.join (mid.join r) := by
  cases below : r.isAbsolute with
  | true => simp [join_of_isAbsolute below]
  | false =>
      cases onto : mid.isAbsolute with
      | true =>
          rw [join_of_isAbsolute onto,
            join_of_isAbsolute ((isAbsolute_join mid below).trans onto)]
      | false =>
          have relative := (isAbsolute_join mid below).trans onto
          have texts : ((base.join mid).join r).text = (base.join (mid.join r)).text := by
            rw [text_join_of_relative _ below, text_join_of_relative _ onto,
              text_join_of_relative _ relative, text_join_of_relative _ below, joint_join base onto]
            simp [String.append_assoc]
          exact congrArg Path.mk texts

theorem empty_join (p : Path) :
    Path.empty.join p = p := by
  cases absolute : p.isAbsolute <;> simp [join, absolute, empty]

end Joining

namespace Solid

variable {base mid r r' : Path}

/-- What is joined to a solid path stands behind a slash. -/
theorem text_join
    (h : base.Solid)
    (below : r.isAbsolute = false) :
    (base.join r).text = base.text ++ "/" ++ r.text := by
  simp [Path.join, below, h.nonempty, h.noSlash]

theorem isAbsolute_join
    (h : base.Solid)
    (r : Path) :
    (base.join r).isAbsolute = r.isAbsolute := by
  cases below : r.isAbsolute with
  | true => rw [join_of_isAbsolute below, below]
  | false => rw [Path.isAbsolute_join base below, h.relative]

theorem join
    (h : base.Solid)
    (h' : r.Solid) :
    (base.join r).Solid where
  relative := by rw [h.isAbsolute_join, h'.relative]
  nonempty := by simp [h.text_join h'.relative]
  noSlash := by
    obtain ⟨first, rest, shape⟩ :=
      List.exists_cons_of_ne_nil (mt String.toList_eq_nil_iff.1 h'.nonempty)
    have ends := h'.noSlash
    rw [shape] at ends
    simpa [h.text_join h'.relative, shape] using ends

end Solid

section Names

variable {name : Name} {names later : List Name}

theorem Name.text_ne_empty (name : Name) : name.text ≠ "" := by
  have parts := name.valid
  simp only [isName, Bool.and_eq_true, decide_eq_true_eq] at parts
  exact parts.1.1.1

theorem Name.slash_not_mem (name : Name) : '/' ∉ name.text.toList := by
  have parts := name.valid
  simp only [isName, Bool.and_eq_true, Bool.not_eq_true', List.contains_eq_mem,
    decide_eq_false_iff_not] at parts
  exact parts.2

theorem solid_name (name : Name) : Solid ⟨name.text⟩ where
  relative := by
    cases shape : name.text.toList with
    | nil => simp [isAbsolute, shape]
    | cons first rest =>
        have differs : '/' ∉ first :: rest := shape ▸ name.slash_not_mem
        have apart : first ≠ '/' := fun same => differs (same ▸ List.mem_cons_self)
        simpa [isAbsolute, shape] using apart
  nonempty := name.text_ne_empty
  noSlash := fun ends => name.slash_not_mem (List.mem_of_getLast? ends)

/-- A path made of names is its first name and then the others. -/
theorem ofNames_cons
    (nonempty : names ≠ [])
    (below : (ofNames names).isAbsolute = false) :
    ofNames (name :: names) = Path.join ⟨name.text⟩ (ofNames names) := by
  have others : names.map Name.text ≠ [] := by simpa using nonempty
  have text : (ofNames (name :: names)).text = (Path.join ⟨name.text⟩ (ofNames names)).text := by
    rw [(solid_name name).text_join below]
    simp [ofNames, ofParts, String.intercalate_cons_of_ne_nil others]
  exact congrArg Path.mk text

theorem solid_ofNames
    (nonempty : names ≠ []) :
    (ofNames names).Solid := by
  induction names with
  | nil => exact absurd rfl nonempty
  | cons name names ih =>
      cases names with
      | nil => exact solid_name name
      | cons second names =>
          have later := ih (List.cons_ne_nil _ _)
          rw [ofNames_cons (List.cons_ne_nil _ _) later.relative]
          exact (solid_name name).join later

/-- Paths made of names are joined by joining the names. -/
theorem join_ofNames
    (nonempty : names ≠ [])
    (nonempty' : later ≠ []) :
    (ofNames names).join (ofNames later) = ofNames (names ++ later) := by
  have below := (solid_ofNames nonempty').relative
  induction names with
  | nil => exact absurd rfl nonempty
  | cons name names ih =>
      cases names with
      | nil => exact (ofNames_cons nonempty' below).symm
      | cons second names =>
          have rest := solid_ofNames (List.cons_ne_nil second names)
          have whole := solid_ofNames (List.cons_ne_nil second (names ++ later))
          calc (ofNames (name :: second :: names)).join (ofNames later)
              = Path.join ⟨name.text⟩ ((ofNames (second :: names)).join (ofNames later)) := by
                rw [ofNames_cons (List.cons_ne_nil _ _) rest.relative,
                  join_assoc]
            _ = Path.join ⟨name.text⟩ (ofNames (second :: (names ++ later))) := by
                rw [ih (List.cons_ne_nil _ _), List.cons_append]
            _ = ofNames (name :: second :: names ++ later) :=
                (ofNames_cons (List.cons_ne_nil _ _) whole.relative).symm

/-- Following names one after the other from a path made of names gives a path made of all. -/
theorem extend_ofNames
    (nonempty : names ≠ []) :
    (ofNames names).extend later = ofNames (names ++ later) := by
  induction later generalizing names with
  | nil => simp [extend]
  | cons name later ih =>
      have step : (ofNames names).extend (name :: later) =
          ((ofNames names).join (ofNames [name])).extend later := rfl
      rw [step, join_ofNames nonempty (List.cons_ne_nil _ _), ih (by simp), List.append_assoc,
        List.singleton_append]

theorem extend_empty (names : List Name) :
    Path.empty.extend names = ofNames names := by
  cases names with
  | nil => rfl
  | cons name names =>
      have first : Path.empty.join ⟨name.text⟩ = ofNames [name] := by
        simp [join, empty, (solid_name name).relative, ofNames, ofParts]
      have step : Path.empty.extend (name :: names) =
          (Path.empty.join ⟨name.text⟩).extend names := rfl
      rw [step, first, extend_ofNames (List.cons_ne_nil _ _), List.singleton_append]

/-- A dotted name whose parts are names is the path made of them. -/
theorem ofDotted_eq_ofNames
    {dotted : String}
    (parts : Text.pieces '.' dotted = names.map Name.text) :
    ofDotted dotted = ofNames names := by
  have all : (names.map Name.text).filter (· ≠ "") = names.map Name.text :=
    List.filter_eq_self.2 fun part member => by
      obtain ⟨name, -, rfl⟩ := List.mem_map.1 member
      simpa using name.text_ne_empty
  rw [ofDotted, parts, all, List.foldl_map]
  exact extend_empty names

end Names

end Path

end Scaffold
