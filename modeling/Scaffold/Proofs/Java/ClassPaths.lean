import Mathlib.Data.Set.List
import Scaffold.Java.CompilationUnit
import Scaffold.Proofs.FileTree.NamedPaths
import Scaffold.Proofs.Manifest.Identifiers

/-!
# The paths of classes

The file of a class stands in the directory of its package.  The directory of a package that is
accepted is made of names, so it is solid: the files in it have different paths when their classes have
different names, and the directory of an inner package stands in it.  As it is written, the path of a
class has slashes for the dots of its package, and tells both the package and the class.
-/

namespace Scaffold

open Manifest (IsPackage)
open Text

namespace Java

/-- The directory of the classes of a package. -/
def directory (package : String) : Path :=
  sourceRoot.join (Path.ofDotted package)

/-- The file of a class in the directory of its package. -/
def fileOf (className : String) : Path :=
  ⟨className ++ ".java"⟩

section Directories

variable {package className : String}

theorem classPath_eq (package className : String) :
    classPath package className = (directory package).join (fileOf className) :=
  rfl

/-- An identifier can name a file or directory. -/
theorem isName_of_isIdentifier
    {segment : String}
    (h : Manifest.IsIdentifier segment) :
    Path.isName segment = true := by
  obtain ⟨first, rest, shape, starts, others⟩ := h
  have identifier : ∀ c ∈ segment.toList, Manifest.ContinuesIdentifier c := by
    rw [shape]
    refine List.forall_mem_cons.2 ⟨starts.imp_left fun letter => ?_, others⟩
    simp [Char.isAlphanum, letter]
  have absent : ∀ c ∈ segment.toList, c ≠ '.' ∧ c ≠ '/' := by
    intro c member
    rcases identifier c member with alphanumeric | rfl
    · constructor
      · rintro rfl
        exact absurd alphanumeric (by decide)
      · rintro rfl
        exact absurd alphanumeric (by decide)
    · decide
  have first : segment ≠ "" := by simp [← String.toList_eq_nil_iff, shape]
  have here : segment ≠ "." := by
    rintro rfl
    exact (absent '.' (by decide)).1 rfl
  have up : segment ≠ ".." := by
    rintro rfl
    exact (absent '.' (by decide)).1 rfl
  have slash : '/' ∉ segment.toList := fun member => (absent '/' member).2 rfl
  simp [Path.isName, first, here, up, slash]

/-- The segments of a package are names. -/
theorem exists_names_of_isPackage
    (h : IsPackage package) :
    ∃ names : List Path.Name, names ≠ [] ∧ pieces '.' package = names.map Path.Name.text := by
  have segments : pieces '.' package ∈ Set.range (List.map Path.Name.text) := by
    rw [Set.range_list_map]
    exact fun segment member => ⟨⟨segment, isName_of_isIdentifier (h.2 segment member).1⟩, rfl⟩
  obtain ⟨names, same⟩ := segments
  refine ⟨names, ?_, same.symm⟩
  rintro rfl
  exact pieces_ne_nil '.' package same.symm

/-- The directory in which all source files stand is made of names. -/
theorem exists_names_of_sourceRoot :
    ∃ names, names ≠ [] ∧ sourceRoot = Path.ofNames names :=
  ⟨[⟨"src", by decide⟩, ⟨"main", by decide⟩, ⟨"java", by decide⟩], by simp, by decide⟩

/-- The directory of a package is made of names. -/
theorem exists_names_of_directory
    (h : IsPackage package) :
    ∃ names, names ≠ [] ∧ directory package = Path.ofNames names := by
  obtain ⟨root, nonempty, root_eq⟩ := exists_names_of_sourceRoot
  obtain ⟨names, nonempty', parts⟩ := exists_names_of_isPackage h
  refine ⟨root ++ names, by simp [nonempty], ?_⟩
  rw [directory, root_eq, Path.ofDotted_eq_ofNames parts, Path.join_ofNames nonempty nonempty']

theorem solid_directory
    (h : IsPackage package) :
    (directory package).Solid := by
  obtain ⟨names, nonempty, same⟩ := exists_names_of_directory h
  exact same ▸ Path.solid_ofNames nonempty

/-- The directory of a package within another stands in the directory of that package. -/
theorem directory_within
    (h : IsPackage package)
    (inner : Path.Name)
    (noDot : '.' ∉ inner.text.toList) :
    directory (package ++ "." ++ inner.text) = (directory package).join ⟨inner.text⟩ := by
  obtain ⟨root, nonempty, root_eq⟩ := exists_names_of_sourceRoot
  obtain ⟨names, nonempty', parts⟩ := exists_names_of_isPackage h
  have single : pieces '.' inner.text = [inner.text] := by
    simp [pieces, List.splitOn_eq_singleton noDot]
  have all : pieces '.' (package ++ "." ++ inner.text) = (names ++ [inner]).map Path.Name.text := by
    rw [show "." = String.singleton '.' from rfl, pieces_append, parts, single]
    simp
  have last : (⟨inner.text⟩ : Path) = Path.ofNames [inner] := by simp [Path.ofNames, Path.ofParts]
  rw [directory, directory, root_eq, Path.ofDotted_eq_ofNames all, Path.ofDotted_eq_ofNames parts,
    Path.join_ofNames nonempty (by simp), Path.join_ofNames nonempty nonempty', last,
    Path.join_ofNames (by simp [nonempty]) (by simp), List.append_assoc]

end Directories

section Files

variable {className : String}

theorem isAbsolute_fileOf (className : String) :
    (fileOf className).isAbsolute = (className.toList.head? == some '/') := by
  cases shape : className.toList with
  | nil => simp [fileOf, Path.isAbsolute, shape]
  | cons first rest => simp [fileOf, Path.isAbsolute, shape]

/-- A joined path ends as its second part does. -/
theorem suffix_join (base relative : Path) :
    relative.text.toList <:+ (base.join relative).text.toList := by
  unfold Path.join
  split
  · exact List.suffix_rfl
  · split
    · exact ⟨base.text.toList, by simp⟩
    · exact ⟨base.text.toList ++ ['/'], by simp⟩

/-- The path of a source file ends in the extension of source files. -/
theorem suffix_classPath (package className : String) :
    ".java".toList <:+ (classPath package className).text.toList :=
  List.IsSuffix.trans ⟨className.toList, by simp [fileOf]⟩ (suffix_join _ (fileOf className))

end Files

section Texts

variable {package package' className className' : String}

/-- A dotted name with slashes in place of its dots. -/
def slashed (name : String) : String :=
  String.ofList (name.toList.map fun c => if c = '.' then '/' else c)

/-- The path of a class as it is written. -/
def classFile (package className : String) : String :=
  "src/main/java/" ++ slashed package ++ "/" ++ className ++ ".java"

theorem slashed_eq_intercalate (name : String) :
    slashed name = String.intercalate "/" (pieces '.' name) := by
  have general : ∀ cs : List Char,
      cs.map (fun c => if c = '.' then '/' else c) = ['/'].intercalate (cs.splitOn '.') := by
    intro cs
    induction cs with
    | nil => rfl
    | cons c rest ih =>
        obtain ⟨head, others, split⟩ :=
          List.exists_cons_of_ne_nil (List.splitOn_ne_nil '.' rest)
        rw [split] at ih
        rw [List.map_cons, ih, List.splitOn_cons_eq_if_modifyHead, split]
        by_cases dot : c = '.'
        · simp [dot, List.intercalate]
        · cases others <;> simp [dot, List.intercalate]
  rw [String.ext_iff, slashed, String.toList_ofList, general, String.toList_intercalate]
  simp [pieces, Function.comp_def]

/-- A package with another segment behind it is a package. -/
theorem isPackage_within
    (h : IsPackage package)
    {segment : String}
    (noDot : '.' ∉ segment.toList)
    (isSegment : Manifest.IsSegment segment) :
    IsPackage (package ++ "." ++ segment) := by
  have single : pieces '.' segment = [segment] := by
    simp [pieces, List.splitOn_eq_singleton noDot]
  refine ⟨by simp, ?_⟩
  rw [show "." = String.singleton '.' from rfl, pieces_append, single]
  exact List.forall_mem_append.2 ⟨h.2, List.forall_mem_singleton.2 isSegment⟩

theorem text_directory
    (h : IsPackage package) :
    (directory package).text = "src/main/java/" ++ slashed package := by
  obtain ⟨root, root_nonempty, root_eq⟩ := exists_names_of_sourceRoot
  obtain ⟨names, nonempty, parts⟩ := exists_names_of_isPackage h
  have solid : sourceRoot.Solid := root_eq ▸ Path.solid_ofNames root_nonempty
  rw [directory, Path.ofDotted_eq_ofNames parts,
    solid.text_join (Path.solid_ofNames nonempty).relative, slashed_eq_intercalate, parts]
  rfl

/-- The file of a class stands where its package and its name say. -/
theorem text_classPath
    (h : IsPackage package)
    (noSlash : '/' ∉ className.toList) :
    (classPath package className).text = classFile package className := by
  have relative : (fileOf className).isAbsolute = false := by
    rw [isAbsolute_fileOf]
    simpa using fun starts => noSlash (List.mem_of_head? starts)
  rw [classPath_eq, (solid_directory h).text_join relative, text_directory h]
  change _ = "src/main/java/" ++ slashed package ++ "/" ++ className ++ ".java"
  simp [fileOf, String.append_assoc]

theorem slash_not_mem_of_isPackage
    (h : IsPackage package) :
    '/' ∉ package.toList :=
  h.not_mem (by decide) (by decide) (by decide)

/-- Slashes can be changed back into dots where there were none before. -/
theorem eq_of_slashed_eq
    (noSlash : '/' ∉ package.toList)
    (noSlash' : '/' ∉ package'.toList)
    (same : slashed package = slashed package') :
    package = package' := by
  have back : ∀ name : String, '/' ∉ name.toList →
      (slashed name).toList.map (fun c => if c = '/' then '.' else c) = name.toList := by
    intro name absent
    simp only [slashed, String.toList_ofList, List.map_map]
    refine (List.map_congr_left fun c member => ?_).trans (List.map_id _)
    have differs : c ≠ '/' := fun same => absent (same ▸ member)
    by_cases dot : c = '.'
    · simp [dot]
    · simp [dot, differs]
  have lists := back package noSlash
  rw [same, back package' noSlash'] at lists
  exact String.ext_iff.2 lists.symm

/-- The path of a class tells its package and its name. -/
theorem classFile_inj
    (h : IsPackage package)
    (h' : IsPackage package')
    (noSlash : '/' ∉ className.toList)
    (noSlash' : '/' ∉ className'.toList)
    (same : classFile package className = classFile package' className') :
    package = package' ∧ className = className' := by
  -- the last slash of the path stands between the two
  have cut : ∀ package className : String, '/' ∉ className.toList →
      cutAtLast? '/' (classFile package className).toList =
        some (("src/main/java/" ++ slashed package).toList, (className ++ ".java").toList) := by
    intro package className absent
    have shape : (classFile package className).toList =
        ("src/main/java/" ++ slashed package).toList ++ '/' :: (className ++ ".java").toList := by
      change ("src/main/java/" ++ slashed package ++ "/" ++ className ++ ".java").toList = _
      simp
    rw [shape, cutAtLast?_append _ (by simpa using absent)]
  have parts := cut package className noSlash
  rw [same, cut package' className' noSlash'] at parts
  obtain ⟨directories, files⟩ : slashed package' = slashed package ∧ className' = className := by
    simpa [String.ext_iff] using parts
  exact ⟨(eq_of_slashed_eq (slash_not_mem_of_isPackage h') (slash_not_mem_of_isPackage h)
    directories).symm, files.symm⟩

end Texts

end Java
end Scaffold
