import Scaffold.Proofs.Code.WrittenLines
import Scaffold.Proofs.Java.ClassPaths
import Scaffold.Proofs.Java.ControllerSource
import Scaffold.Proofs.Java.ImportBlock

/-!
# The lines of source files

A text that is written out from stored lines is cut into their written forms at its line ends, since no
stored line has a line end in it.  So the lines of a source file can be told one by one: those above the
declaration, those of the declaration with its brace, those of the body, and the closing brace.  Only
the lines of the body are indented.

So the file of a class tells its package in its second line and its name where its block opens.  The
declarations of controllers, model classes and the application class differ in the annotation and in the
keyword alone.
-/

namespace Scaffold

open Text

namespace Code

section Lines

variable {ε : Type} {line : Line} {lines : List Line}

/-- At no depth the lines of a text are written as they are. -/
theorem Line.map_render_ofText
    (indent : Indent)
    (text : String) :
    (Line.ofText text 0).map (Line.render indent) = Text.lines text := by
  simp [Line.ofText, Function.comp_def, render_at_no_depth]

/-- A text of one line is stored as one line. -/
theorem Line.ofText_of_isLine
    {text : String}
    (single : IsLine text)
    (depth : Nat) :
    Line.ofText text depth = [⟨text, depth⟩] := by
  simp [Line.ofText, single.lines_eq]

theorem Line.ofText_empty (depth : Nat) : Line.ofText "" depth = [⟨"", depth⟩] :=
  Line.ofText_of_isLine isLine_empty depth

theorem isLine_opening
    {s : String}
    (noLineEnd : '\n' ∉ s.toList) :
    IsLine (s ++ " \x7b") :=
  IsLine.behind ⟨by decide, by decide⟩ (by decide) noLineEnd

/-- A header of one line opens its scope on this line. -/
theorem Line.ofText_opening
    {text : String}
    (nonempty : text ≠ "")
    (noLineEnd : '\n' ∉ text.toList)
    (depth : Nat) :
    Line.ofText (Builder.opening text) depth = [⟨text ++ " \x7b", depth⟩] := by
  rw [Builder.opening, if_neg nonempty]
  exact Line.ofText_of_isLine (isLine_opening noLineEnd) depth

/-- A line that is empty or starts with a blank of the writer's making. -/
def IsIndented (written : String) : Prop :=
  written = "" ∨ ∃ first ∈ written.toList.head?, first = ' ' ∨ first = '\t'

/-- Below depth zero a line is indented, when a step of indentation is not empty. -/
theorem Line.isIndented_render
    {indent : Indent}
    (wide : indent.step ≠ [])
    (deep : 1 ≤ line.depth) :
    IsIndented (line.render indent) := by
  by_cases empty : line.text = ""
  · exact .inl (by simp [Line.render, empty])
  · obtain ⟨above, depth⟩ : ∃ above, line.depth = above + 1 := ⟨line.depth - 1, by omega⟩
    obtain ⟨first, rest, step⟩ := List.exists_cons_of_ne_nil wide
    have member : first ∈ indent.step := by
      rw [step]
      exact List.mem_cons_self
    refine .inr ⟨first, ?_, Indent.blank_of_mem_step member⟩
    simp [Line.render, empty, depth, Indent.atDepth, List.replicate_succ, step]

end Lines

end Code

namespace Java

open Code (Builder Emission IsIndented Line LineBuffer Operation)
open Manifest (IsPackage)

section Units

variable {ε : Type}

namespace CompilationUnit

/-- The lines of a source file that is rendered. -/
theorem pieces_of_render
    {unit : CompilationUnit ε}
    {text : String}
    (rendered : unit.render = .ok text) :
    pieces '\n' text =
      unit.textsAbove.flatMap lines ++ lines (Builder.opening unit.declaration) ++
        (Emission.linesOf 1 (Operation.emittedOf unit.body)).map (Line.render unit.indent) ++
        [Builder.closing] := by
  obtain ⟨rfl, -⟩ := holds_of_render rendered
  have above : Emission.linesOf 0 (Operation.emittedOf unit.preamble) =
      unit.textsAbove.flatMap (Line.ofText · 0) := by
    rw [preamble_eq_each_textsAbove, linesOf_each_eq_flatMap]
  have nonempty : unit.textsAbove.flatMap (Line.ofText · 0) ≠ [] := by
    simp [textsAbove, Code.ofText_ne_nil]
  have nonempty' : Emission.linesOf 0 [.scope unit.declaration (Operation.emittedOf unit.body)
      (.completed : Code.Outcome ε Empty)] ≠ [] := by
    simp [Emission.linesOf_scope, Code.ofText_ne_nil]
  rw [show "\n" = String.singleton '\n' from rfl, pieces_append,
    LineBuffer.pieces_render (above ▸ nonempty) (fun _ => Emission.noLineEnd_of_mem_linesOf),
    LineBuffer.pieces_render nonempty' (fun _ => Emission.noLineEnd_of_mem_linesOf), above,
    Emission.linesOf_scope]
  simp [List.map_flatMap, Line.map_render_ofText, Line.render_at_no_depth, Code.Outcome.isCompleted]

end CompilationUnit

/-- What opens a class: the comment with its description, an annotation, and the line with its name. -/
structure Heading where
  description : Option String
  annotation : Option String
  keyword : String
  className : String
  isKeyword : keyword = "class" ∨ keyword = "enum"
  isAnnotation : ∀ text ∈ annotation, text.toList.head? = some '@'

namespace Heading

/-- The documentation comment with a description. -/
def comment (description : String) : String :=
  "/** " ++ description ++ " */"

/-- The texts above the name of the class. -/
def textsAbove (heading : Heading) : List String :=
  (heading.description.map comment).toList ++ heading.annotation.toList

/-- The text with the name of the class. -/
def named (heading : Heading) : String :=
  "public " ++ heading.keyword ++ " " ++ heading.className

/-- The lines up to the brace of the class. -/
def lines (heading : Heading) : List String :=
  heading.textsAbove.flatMap Text.lines ++ [heading.named ++ " \x7b"]

/-- A declaration below a text, if there is one. -/
def below
    (front : Option String)
    (declaration : String) : String :=
  match front with
  | some text => text ++ "\n" ++ declaration
  | none => declaration

/-- The declaration of the class. -/
def declaration (heading : Heading) : String :=
  below (heading.description.map comment) (below heading.annotation heading.named)

theorem below_comment
    (description : Option String)
    (declaration : String) :
    below (description.map comment) declaration =
      match description with
      | some text => "/** " ++ text ++ " */\n" ++ declaration
      | none => declaration := by
  cases description with
  | none => rfl
  | some text => simp [below, comment, String.ext_iff]

theorem lines_opening_below
    (front : Option String)
    {declaration : String}
    (nonempty : declaration ≠ "") :
    Text.lines (Builder.opening (below front declaration)) =
      front.toList.flatMap Text.lines ++ Text.lines (Builder.opening declaration) := by
  cases front with
  | none => rfl
  | some text =>
      have whole : Builder.opening (below (some text) declaration) =
          text ++ "\n" ++ Builder.opening declaration := by
        simp [Builder.opening, below, nonempty, String.append_assoc]
      rw [whole, lines_append]
      simp

theorem below_ne_empty
    (front : Option String)
    {declaration : String}
    (nonempty : declaration ≠ "") :
    below front declaration ≠ "" := by
  cases front with
  | none => exact nonempty
  | some text => simp [below]

/-- A declaration ends in the line with the name of the class and the brace. -/
theorem lines_opening_declaration
    (heading : Heading)
    (single : '\n' ∉ heading.className.toList) :
    Text.lines (Builder.opening heading.declaration) = heading.lines := by
  have nonempty : heading.named ≠ "" := by simp [named]
  have keyword : '\n' ∉ heading.keyword.toList := by
    rcases heading.isKeyword with same | same
    · simp [same]
    · simp [same]
  have last : IsLine (heading.named ++ " \x7b") :=
    Code.isLine_opening (by simp [named, keyword, single])
  rw [declaration, lines_opening_below _ (below_ne_empty _ nonempty),
    lines_opening_below _ nonempty, Builder.opening, if_neg nonempty, last.lines_eq]
  simp [lines, textsAbove]

end Heading

/-- How the file of a class is laid out: only what is inside of the class is indented. -/
structure Layout where
  package : String
  imports : List String
  heading : Heading
  inside : List String
  indented : ∀ line ∈ inside, IsIndented line

/-- The lines of the file. -/
def Layout.lines (layout : Layout) : List String :=
  [generatedHeader, "package " ++ layout.package ++ ";", ""] ++
    (CompilationUnit.importTexts layout.imports).flatMap Text.lines ++ layout.heading.lines ++
    layout.inside ++ ["\x7d"]

namespace CompilationUnit

variable {unit : CompilationUnit ε}

/-- The lines of the body are indented. -/
theorem isIndented_of_body
    (wide : unit.indent.step ≠ []) :
    ∀ line ∈ (Emission.linesOf 1 (Operation.emittedOf unit.body)).map (Line.render unit.indent),
      IsIndented line := by
  intro written member
  obtain ⟨line, stored, rfl⟩ := List.mem_map.1 member
  exact Line.isIndented_render wide (Emission.le_depth_of_mem_linesOf stored)

/-- The layout of a source file whose class has a heading. -/
def layout
    (unit : CompilationUnit ε)
    (heading : Heading)
    (wide : unit.indent.step ≠ []) : Layout where
  package := unit.package
  imports := unit.needed
  heading := heading
  inside := (Emission.linesOf 1 (Operation.emittedOf unit.body)).map (Line.render unit.indent)
  indented := isIndented_of_body wide

/-- A source file that is rendered has the lines of its layout below the header. -/
theorem pieces_below_header
    {body : String}
    (rendered : unit.render = .ok body)
    {heading : Heading}
    (declared : unit.declaration = heading.declaration)
    (wide : unit.indent.step ≠ [])
    (single : '\n' ∉ unit.package.toList)
    (single' : '\n' ∉ heading.className.toList) :
    pieces '\n' (generatedHeader ++ "\n" ++ body) = (unit.layout heading wide).lines := by
  have header : pieces '\n' generatedHeader = [generatedHeader] := by decide
  have package : lines ("package " ++ unit.package ++ ";") =
      ["package " ++ unit.package ++ ";"] :=
    (isLine_statement (by simpa using single)).lines_eq
  rw [show "\n" = String.singleton '\n' from rfl, pieces_append, header, pieces_of_render rendered,
    declared, heading.lines_opening_declaration single', textsAbove, List.flatMap_cons,
    List.flatMap_cons, package, isLine_empty.lines_eq]
  simp [Layout.lines, layout, Builder.closing]

end CompilationUnit

end Units

section Classes

/-- A text at a path is the file of a class of a package. -/
structure ClassFile
    (package className : String)
    (path : Path)
    (text : String) : Prop where
  isPackage : IsPackage package
  isPlain : ∀ c ∈ className.toList, c.isAlphanum = true ∨ c = '_'
  path : path.text = classFile package className
  lines : ∃ layout : Layout,
    layout.package = package ∧ layout.heading.className = className ∧
      pieces '\n' text = layout.lines

theorem not_mem_of_isPlain
    {className : String}
    (isPlain : ∀ c ∈ className.toList, c.isAlphanum = true ∨ c = '_')
    {c : Char}
    (noAlphanum : c.isAlphanum = false)
    (noUnderscore : c ≠ '_') :
    c ∉ className.toList := by
  intro member
  rcases isPlain c member with alphanumeric | underscore
  · simp [noAlphanum] at alphanumeric
  · exact noUnderscore underscore

/-- The file of a class is laid out for its package and its name. -/
theorem classFile_of_render
    (unit : CompilationUnit Failure)
    (heading : Heading)
    {text : String}
    (declared : unit.declaration = heading.declaration)
    (isPackage : IsPackage unit.package)
    (isPlain : ∀ c ∈ heading.className.toList, c.isAlphanum = true ∨ c = '_')
    (wide : unit.indent.step ≠ [])
    (rendered : (classArtifact heading.className unit).renderWithHeader = .ok text) :
    ClassFile unit.package heading.className (classArtifact heading.className unit).path text where
  isPackage := isPackage
  isPlain := isPlain
  path := by
    simp only [classArtifact]
    exact text_classPath isPackage (not_mem_of_isPlain isPlain (by decide) (by decide))
  lines := by
    obtain ⟨body, made, rfl⟩ := renderWithHeader_classArtifact.1 rendered
    refine ⟨unit.layout heading wide, rfl, rfl, ?_⟩
    exact CompilationUnit.pieces_below_header made declared wide
      (isPackage.not_mem (by decide) (by decide) (by decide))
      (not_mem_of_isPlain isPlain (by decide) (by decide))

/-- The heading of a controller. -/
def Controller.heading (c : Controller) : Heading where
  description := (c.project.modules.get? c.module).bind (·.description)
  annotation := some "@RestController"
  keyword := "class"
  className := c.className
  isKeyword := .inl rfl
  isAnnotation := by simp

theorem Controller.declaration_eq (c : Controller) :
    c.declaration = c.heading.declaration := by
  have named : Heading.below c.heading.annotation c.heading.named =
      "@RestController\npublic class " ++ c.className := by
    simp [heading, Heading.below, Heading.named, String.ext_iff]
  rw [Heading.declaration, named, Heading.below_comment]
  rfl

/-- The heading of a model class. -/
def Model.heading
    (m : Model)
    (keyword : String)
    (isKeyword : keyword = "class" ∨ keyword = "enum") : Heading where
  description := m.entity.description
  annotation := none
  keyword := keyword
  className := m.className
  isKeyword := isKeyword
  isAnnotation := by simp

theorem Model.declaration_eq
    (m : Model)
    {keyword : String}
    (isKeyword : keyword = "class" ∨ keyword = "enum") :
    m.declaration keyword = (m.heading keyword isKeyword).declaration := by
  rw [Heading.declaration, Heading.below_comment]
  rfl

/-- The heading of an application class. -/
def Application.heading (a : Application) : Heading where
  description := none
  annotation := some "@SpringBootApplication"
  keyword := "class"
  className := a.className
  isKeyword := .inl rfl
  isAnnotation := by simp

end Classes

end Java
end Scaffold
