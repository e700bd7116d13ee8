import Mathlib.Data.List.Basic
import Scaffold.Java.CompilationUnit
import Scaffold.Proofs.Code.WrittenLines

/-!
# Import blocks

The import statements of a source file as a reader finds them in its text: the first lines in a row
that are import statements.  When no name above the declaration has a line end, these are exactly the
statements for the names that the file needs, one on a line and in their order.
-/

namespace Scaffold
namespace Java

open Code (Builder Emission Line Operation)
open Text

namespace Imports

section Names

variable {package name : String} {imports : Imports}

/-- The package of a qualified name is read off the name when the name in it has no dot. -/
theorem owner_qualified
    (noDot : '.' ∉ name.toList) :
    owner (qualified package name) = package := by
  have shape : (qualified package name).toList = package.toList ++ '.' :: name.toList := by
    simp [qualified]
  simp [owner, shape, cutAtLast?_append _ noDot]

theorem qualified_injective (package : String) :
    Function.Injective (qualified package) := by
  intro name name' same
  simpa [qualified, String.ext_iff] using same

theorem mem_neededFrom :
    name ∈ imports.neededFrom package ↔
      name ∈ imports.names ∧ owner name ≠ package ∧ owner name ≠ visiblePackage := by
  simp [neededFrom, isNeeded]

end Names

end Imports

/-- The line that imports a qualified name. -/
def importStatement (name : String) : String :=
  "import " ++ name ++ ";"

/-- Whether a line imports something. -/
def isImport (line : String) : Bool :=
  "import ".toList.isPrefixOf line.toList

/-- The import statements of a source text: the first lines in a row that import something. -/
def importBlock (text : String) : List String :=
  ((pieces '\n' text).dropWhile fun line => !isImport line).takeWhile isImport

section ImportStatement

/-- A line in front of a text that imports nothing is passed over. -/
theorem importBlock_below
    {line : String}
    (noLineEnd : '\n' ∉ line.toList)
    (imports : isImport line = false)
    (text : String) :
    importBlock (line ++ "\n" ++ text) = importBlock text := by
  have first : pieces '\n' line = [line] := by simp [pieces, List.splitOn_eq_singleton noLineEnd]
  rw [importBlock, show "\n" = String.singleton '\n' from rfl, pieces_append, first]
  simp [imports, importBlock]

/-- The header of a generated file imports nothing. -/
theorem importBlock_header (text : String) :
    importBlock (generatedHeader ++ "\n" ++ text) = importBlock text :=
  importBlock_below (by decide) (by decide) text

theorem importStatement_injective : Function.Injective importStatement := by
  intro name name' same
  simpa [importStatement, String.ext_iff] using same

theorem isImport_importStatement (name : String) :
    isImport (importStatement name) = true := by
  simp [isImport, importStatement]

theorem isLine_statement
    {s : String}
    (noLineEnd : '\n' ∉ s.toList) :
    IsLine (s ++ ";") :=
  IsLine.behind ⟨by decide, by decide⟩ (by decide) noLineEnd

end ImportStatement

namespace CompilationUnit

section Preamble

variable {ε : Type} {unit : CompilationUnit ε} {text : String}

/-- The names that the file needs. -/
def needed (unit : CompilationUnit ε) : List String :=
  unit.imports.neededFrom unit.package

/-- The texts that import some names, with an empty one below when there are any. -/
def importTexts (names : List String) : List String :=
  if names = [] then [] else names.map importStatement ++ [""]

/-- The texts above the declaration of a file. -/
def textsAbove (unit : CompilationUnit ε) : List String :=
  ("package " ++ unit.package ++ ";") :: "" :: importTexts unit.needed

theorem preamble_eq_each_textsAbove (unit : CompilationUnit ε) :
    unit.preamble = Operation.each unit.textsAbove := by
  cases names : unit.imports.neededFrom unit.package with
  | nil =>
      simp [preamble, textsAbove, needed, importTexts, names, Operation.when, Operation.each,
        Operation.blank]
  | cons first others =>
      simp [preamble, textsAbove, needed, importTexts, names, Operation.when, Operation.each,
        Operation.blank, importStatement, Function.comp_def]

/-- The texts above the declaration of a file that needs a name. -/
def preambleTexts (unit : CompilationUnit ε) : List String :=
  ("package " ++ unit.package ++ ";") :: "" :: (unit.needed.map importStatement ++ [""])

theorem preamble_eq_each
    (nonempty : unit.needed ≠ []) :
    unit.preamble = Operation.each unit.preambleTexts := by
  simp [preamble_eq_each_textsAbove, textsAbove, importTexts, nonempty, preambleTexts]

/-- No name that is written above the declaration has a line end. -/
structure OneLineNames (unit : CompilationUnit ε) : Prop where
  package : '\n' ∉ unit.package.toList
  imports : ∀ name ∈ unit.imports.names, '\n' ∉ name.toList

namespace OneLineNames

/-- Each text above the declaration is a line. -/
theorem isLine
    (h : unit.OneLineNames) :
    ∀ part ∈ unit.preambleTexts, IsLine part := by
  have package : IsLine ("package " ++ unit.package ++ ";") :=
    isLine_statement (by simpa using h.package)
  have imports : ∀ part ∈ unit.needed.map importStatement, IsLine part := by
    intro part member
    obtain ⟨name, known, rfl⟩ := List.mem_map.1 member
    exact isLine_statement (by simpa using h.imports name (Imports.mem_neededFrom.1 known).1)
  refine List.forall_mem_cons.2 ⟨package, List.forall_mem_cons.2 ⟨isLine_empty, ?_⟩⟩
  exact List.forall_mem_append.2 ⟨imports, List.forall_mem_singleton.2 isLine_empty⟩

end OneLineNames

/-- Texts of one line each are their own lines. -/
theorem flatMap_lines
    {parts : List String}
    (single : ∀ part ∈ parts, IsLine part) :
    parts.flatMap lines = parts := by
  rw [List.flatMap_congr fun part member => (single part member).lines_eq, List.flatMap_singleton']

theorem OneLineNames.flatMap_lines_textsAbove
    (h : unit.OneLineNames) :
    unit.textsAbove.flatMap lines = unit.textsAbove := by
  refine flatMap_lines fun part member => h.isLine part ?_
  unfold textsAbove importTexts at member
  split at member
  · exact List.mem_append_left (unit.needed.map importStatement ++ [""]) member
  · exact member

/-- Texts that are emitted one after the other are laid out one after the other. -/
theorem linesOf_each_eq_flatMap
    (depth : Nat)
    (parts : List String) :
    Emission.linesOf depth
        (Operation.emittedOf (Operation.each parts : List (Operation ε Empty))) =
      parts.flatMap fun part => Line.ofText part depth := by
  induction parts with
  | nil => simp [Operation.each, Operation.emittedOf]
  | cons part parts ih =>
      have emitted : Operation.emittedOf (Operation.each (part :: parts) : List (Operation ε Empty)) =
          [.text part] ++ Operation.emittedOf (Operation.each parts) := by
        simp [Operation.each, Operation.emittedOf, Operation.outcome, Operation.emitted]
      rw [emitted, Emission.linesOf_append, Emission.linesOf_text, ih, List.flatMap_cons]

/-- Texts of one line that are emitted at no depth are laid out as they are. -/
theorem linesOf_each
    {parts : List String}
    (single : ∀ part ∈ parts, IsLine part) :
    Emission.linesOf 0 (Operation.emittedOf (Operation.each parts : List (Operation ε Empty))) =
      parts.map fun part => ⟨part, 0⟩ := by
  rw [linesOf_each_eq_flatMap, List.map_eq_flatMap]
  refine List.flatMap_congr fun part member => ?_
  simp [Line.ofText, (single part member).lines_eq]

/-- A source file that is rendered starts with the texts above its declaration, a line each. -/
theorem OneLineNames.exists_render
    (h : unit.OneLineNames)
    (nonempty : unit.needed ≠ [])
    (rendered : unit.render = .ok text) :
    ∃ rest, text = String.intercalate "\n" unit.preambleTexts ++ "\n" ++ rest := by
  have above : ((Builder.empty.runAll unit.preamble).builder).render unit.indent =
      String.intercalate "\n" unit.preambleTexts := by
    have start : Builder.empty.buffer.lines = [] := rfl
    have written := Builder.runAll_lines Builder.empty unit.preamble
    rw [start, List.nil_append, preamble_eq_each nonempty] at written
    rw [preamble_eq_each nonempty, Builder.render, Code.LineBuffer.render, written,
      show Builder.empty.depth = 0 from rfl, linesOf_each h.isLine, List.map_map]
    simp [Function.comp_def, Line.render_at_no_depth]
  simp only [render] at rendered
  split at rendered
  · rw [above] at rendered
    exact ⟨_, (Except.ok.inj rendered).symm⟩
  · cases rendered
  · next reason _ => exact nomatch reason

/-- The import statements of a source file are those for the names that it needs. -/
theorem OneLineNames.importBlock_eq
    (h : unit.OneLineNames)
    (nonempty : unit.needed ≠ [])
    (rendered : unit.render = .ok text) :
    importBlock text = unit.needed.map importStatement := by
  obtain ⟨rest, rfl⟩ := h.exists_render nonempty rendered
  have cut : pieces '\n' (String.intercalate "\n" unit.preambleTexts ++ "\n" ++ rest) =
      unit.preambleTexts ++ pieces '\n' rest := by
    have absent : ∀ part ∈ unit.preambleTexts, '\n' ∉ part.toList :=
      fun part member => (h.isLine part member).noLineEnd
    rw [show "\n" = String.singleton '\n' from rfl, pieces_append,
      pieces_intercalate absent (List.cons_ne_nil _ _)]
  have package : isImport ("package " ++ unit.package ++ ";") = false := by
    simp [isImport, List.isPrefixOf]
  have blank : isImport "" = false := by decide
  obtain ⟨first, others, names⟩ := List.exists_cons_of_ne_nil nonempty
  rw [importBlock, cut, preambleTexts]
  -- the statements stand between two blank lines, so the block is cut there
  simp [package, blank, names, isImport_importStatement]

end Preamble

end CompilationUnit

end Java
end Scaffold
