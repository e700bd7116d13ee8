import Mathlib.Data.Bool.AllAny
import Scaffold.Proofs.Generator.Sources
import Scaffold.Proofs.Java.ControllerHandlers
import Scaffold.Proofs.Java.LexicalRules
import Scaffold.Proofs.Java.ModelMembers

/-!
# Free text in source files

The path of a request and the descriptions of requests, modules and entities may be any text.  They are
put between the marks of a string literal and of comments as they are written, nothing in them is escaped.

So a path is denoted by its literal exactly when it has no character of its own meaning there, and a comment
ends where it is meant to exactly when its description has no end of a comment in it, neither as it is
written nor by a Unicode escape.  Cutting a description into indented lines does not matter.
-/

namespace Scaffold

open Text

namespace Code

/-- A text as it is written at a depth. -/
def written
    (indent : Indent)
    (depth : Nat)
    (text : String) : String :=
  (LineBuffer.mk (Line.ofText text depth)).render indent

section Written

variable {indent : Indent} {depth : Nat} {front back text : String}

theorem written_of_isLine
    (single : IsLine text)
    (nonempty : text ≠ "") :
    written indent depth text = String.ofList (indent.atDepth depth) ++ text := by
  simp [written, Line.ofText_of_isLine single, LineBuffer.render, Line.render, nonempty]

/-- Below a first line a text is written as it is without it. -/
theorem written_append
    (single : '\n' ∉ front.toList)
    (back : String) :
    written indent depth (front ++ "\n" ++ back) =
      Line.render indent ⟨dropReturn front, depth⟩ ++ "\n" ++ written indent depth back := by
  have first : lines front = [dropReturn front] := by
    simp [lines, pieces, List.splitOn_eq_singleton single]
  have below : (lines back).map (fun line => Line.render indent ⟨line, depth⟩) ≠ [] := by
    simp [lines_ne_nil]
  simp only [written, LineBuffer.render, Line.ofText, List.map_map, lines_append, first,
    List.singleton_append, List.map_cons, Function.comp_def]
  rw [String.intercalate_cons_of_ne_nil below]

end Written

end Code

namespace Java

open Code (Indent Line written)
open Manifest (Handler)

section Harmless

variable {indent : Indent}

theorem isNeutral_of_blank
    {c : Char}
    (blank : c = ' ' ∨ c = '\t') :
    IsNeutral c := by
  rcases blank with rfl | rfl
  · decide
  · decide

theorem isHarmless_dropReturn (piece : String) :
    IsHarmless (dropReturn piece).toList ↔ IsHarmless piece.toList := by
  unfold dropReturn
  split
  · next ends =>
      obtain ⟨front, whole⟩ := List.getLast?_eq_some_iff.1 ends
      have neutral : IsNeutral '\r' := by decide
      rw [whole, isHarmless_append_cons neutral]
      simp [isHarmless_nil]
  · rfl

theorem isHarmless_render (line : Line) :
    IsHarmless (line.render indent).toList ↔ IsHarmless line.text.toList := by
  unfold Line.render
  split
  · next empty => simp [empty]
  · rw [String.toList_append, String.toList_ofList]
    exact isHarmless_append_iff fun c member =>
      isNeutral_of_blank (Indent.blank_of_mem_atDepth member)

theorem isHarmless_append_blank (cs : List Char) :
    IsHarmless (cs ++ [' ']) ↔ IsHarmless cs := by
  have neutral : IsNeutral ' ' := by decide
  rw [isHarmless_append_cons neutral]
  simp [isHarmless_nil]

/-- Behind the star that opens a documentation comment and a blank, nothing is lost or added. -/
theorem isHarmless_opened (cs : List Char) :
    IsHarmless ('*' :: ' ' :: cs) ↔ IsHarmless cs := by
  have star : IsHarmless ['*'] := ⟨['*'.toNat], by decide, by decide⟩
  have neutral : IsNeutral ' ' := by decide
  have split : IsHarmless (['*'] ++ ' ' :: cs) ↔ _ := isHarmless_append_cons neutral
  rw [← List.singleton_append, split]
  exact and_iff_right star

/-- What is written of a description and the end of its comment is as harmless as the description. -/
theorem exists_written_to_end
    (indent : Indent)
    (depth : Nat)
    (description : String) :
    ∃ cs,
      (written indent depth (description ++ " */")).toList = cs ++ ['*', '/'] ∧
        (IsHarmless cs ↔ IsHarmless description.toList) := by
  induction description using induction_on_lines with
  | single s single =>
      have ending : IsLine (s ++ " */") := IsLine.behind ⟨by decide, by decide⟩ (by decide) single
      have blank : ∀ c ∈ indent.atDepth depth, IsNeutral c := fun c member =>
        isNeutral_of_blank (Indent.blank_of_mem_atDepth member)
      refine ⟨indent.atDepth depth ++ (s.toList ++ [' ']), ?_, ?_⟩
      · rw [Code.written_of_isLine ending (by simp)]
        simp
      · rw [isHarmless_append_iff blank, isHarmless_append_blank]
  | further front back single ih =>
      obtain ⟨cs, below, harmless⟩ := ih
      have neutral : IsNeutral '\n' := by decide
      refine ⟨(Line.render indent ⟨dropReturn front, depth⟩).toList ++ '\n' :: cs, ?_, ?_⟩
      · rw [String.append_assoc, Code.written_append single]
        simp [below]
      · have shape : (front ++ "\n" ++ back).toList = front.toList ++ '\n' :: back.toList := by simp
        rw [shape, isHarmless_append_cons neutral, isHarmless_append_cons neutral, isHarmless_render,
          isHarmless_dropReturn, harmless]

theorem dropReturn_append
    {front : String}
    (noReturn : front.toList.getLast? ≠ some '\r')
    (piece : String) :
    dropReturn (front ++ piece) = front ++ dropReturn piece := by
  by_cases nothing : piece = ""
  · simp [nothing, dropReturn, noReturn]
  · have last : piece.toList ≠ [] := by simpa using nothing
    have same : (front ++ piece).toList.getLast? = piece.toList.getLast? := by
      rw [String.toList_append, List.getLast?_append_of_ne_nil _ last]
    unfold dropReturn
    rw [same]
    split
    · simp [List.dropLast_append_of_ne_nil, nothing]
    · rfl

/-- A description in its comment is written between the marks, as harmless as it is. -/
theorem exists_written_comment
    (indent : Indent)
    (depth : Nat)
    (description : String) :
    ∃ front cs,
      (∀ c ∈ front, c = ' ' ∨ c = '\t') ∧
        (written indent depth (Heading.comment description)).toList =
          front ++ '/' :: '*' :: (cs ++ ['*', '/']) ∧
        (IsHarmless cs ↔ IsHarmless description.toList) := by
  have blank : ∀ c ∈ indent.atDepth depth, c = ' ' ∨ c = '\t' := fun c member =>
    Indent.blank_of_mem_atDepth member
  induction description using induction_on_lines with
  | single s single =>
      have whole : IsLine (Heading.comment s) :=
        IsLine.behind ⟨by decide, by decide⟩ (by decide) (by simpa using single)
      refine ⟨_, '*' :: ' ' :: (s.toList ++ [' ']), blank, ?_, ?_⟩
      · rw [Code.written_of_isLine whole (by simp [Heading.comment])]
        simp [Heading.comment]
      · rw [isHarmless_opened, isHarmless_append_blank]
  | further front back single ih =>
      obtain ⟨cs, below, harmless⟩ := exists_written_to_end indent depth back
      have neutral : IsNeutral '\n' := by decide
      have cut : Heading.comment (front ++ "\n" ++ back) =
          ("/** " ++ front) ++ "\n" ++ (back ++ " */") := by
        simp [Heading.comment, String.append_assoc]
      have opening : Line.render indent ⟨dropReturn ("/** " ++ front), depth⟩ =
          String.ofList (indent.atDepth depth) ++ ("/** " ++ dropReturn front) := by
        rw [dropReturn_append (by decide), Line.render, if_neg (by simp)]
      refine ⟨_, '*' :: ' ' :: ((dropReturn front).toList ++ '\n' :: cs), blank, ?_, ?_⟩
      · rw [cut, Code.written_append (by simpa using single), opening]
        simp [below]
      · have shape : (front ++ "\n" ++ back).toList = front.toList ++ '\n' :: back.toList := by simp
        rw [isHarmless_opened, shape, isHarmless_append_cons neutral, isHarmless_append_cons neutral,
          isHarmless_dropReturn, harmless]

/-- A comment is one comment as it is written exactly when its description is harmless. -/
theorem isOneComment_written_comment
    (indent : Indent)
    (depth : Nat)
    (description : String) :
    IsOneComment (written indent depth (Heading.comment description)) ↔
      IsHarmless description.toList := by
  obtain ⟨front, cs, blank, shape, harmless⟩ := exists_written_comment indent depth description
  rw [isOneComment_iff blank shape, harmless]

end Harmless

section Files

variable {ε : Type} {indent : Indent} {depth : Nat} {text body description : String}

/-- The lines of a text stand in another text, one below the other. -/
def StandsIn (part whole : String) : Prop :=
  pieces '\n' part <:+: pieces '\n' whole

instance (part whole : String) : Decidable (StandsIn part whole) :=
  inferInstanceAs (Decidable (_ <:+: _))

theorem StandsIn.below_header
    {part : String}
    (h : StandsIn part body) :
    StandsIn part (generatedHeader ++ "\n" ++ body) := by
  rw [StandsIn, show "\n" = String.singleton '\n' from rfl, pieces_append]
  exact h.trans (List.suffix_append _ _).isInfix

theorem pieces_written
    (indent : Indent)
    (depth : Nat)
    (text : String) :
    pieces '\n' (written indent depth text) = (Line.ofText text depth).map (Line.render indent) :=
  Code.LineBuffer.pieces_render (Code.ofText_ne_nil _ _) (fun line member => by
    obtain ⟨piece, among, rfl⟩ := List.mem_map.1 member
    exact noLineEnd_of_mem_lines among) indent

namespace CompilationUnit

variable {unit : CompilationUnit ε}

/-- What the body of a source file has on a line of its own stands in the file. -/
theorem standsIn_of_line
    (rendered : unit.render = .ok body)
    (member : .line text ∈ unit.body) :
    StandsIn (written unit.indent 1 text) body := by
  have emits := Code.Operation.emitted_infix (holds_of_render rendered).2 member
  have stored : Line.ofText text 1 <:+:
      Code.Emission.linesOf 1 (Code.Operation.emittedOf unit.body) := by
    simpa [Code.Operation.emitted] using Code.Emission.linesOf_infix 1 emits
  rw [StandsIn, pieces_written, pieces_of_render rendered]
  exact (stored.map _).trans ((List.suffix_append _ _).isInfix.trans (List.prefix_append _ _).isInfix)

/-- The comment above the declaration of a source file stands in the file. -/
theorem standsIn_of_heading
    (rendered : unit.render = .ok body)
    {heading : Heading}
    (declared : unit.declaration = heading.declaration)
    (described : heading.description = some description) :
    StandsIn (written unit.indent 0 (Heading.comment description)) body := by
  have nonempty : Heading.below heading.annotation heading.named ≠ "" :=
    Heading.below_ne_empty _ (by simp [Heading.named])
  have opens : lines (Heading.comment description) <+:
      lines (Code.Builder.opening unit.declaration) := by
    rw [declared, Heading.declaration, described, Heading.lines_opening_below _ nonempty]
    simp
  rw [StandsIn, pieces_written, Line.map_render_ofText, pieces_of_render rendered, List.append_assoc,
    List.append_assoc]
  exact (opens.trans (List.prefix_append _ _)).isInfix.trans (List.suffix_append _ _).isInfix

end CompilationUnit

/-- A file has a description in a comment, at a depth.  The comment is one comment exactly when the
description is harmless. -/
structure Comments
    (text : String)
    (indent : Indent)
    (depth : Nat)
    (description : String) : Prop where
  stands : StandsIn (written indent depth (Heading.comment description)) text
  ends : IsOneComment (written indent depth (Heading.comment description)) ↔
    IsHarmless description.toList

/-- A file has the annotation of a handler.  It is one line with a literal that denotes the path exactly
when each character of the path stands for itself. -/
structure Annotates
    (text : String)
    (indent : Indent)
    (h : Handler) : Prop where
  stands : StandsIn (written indent 1 (Controller.mappingLine h)) text
  bare : h.request.entity.path = none →
    Controller.mappingLine h = "@" ++ Controller.mapping h.method
  spelled : ∀ path ∈ h.request.entity.path,
    Controller.mappingLine h = "@" ++ Controller.mapping h.method ++ "(" ++ ("\"" ++ path ++ "\")")
  denotes : ∀ path ∈ h.request.entity.path,
    lines (Controller.mappingLine h) = [Controller.mappingLine h] ∧
        ReadsAs ("\"" ++ path ++ "\")") path ")" ↔
      ∀ c ∈ path.toList, IsPlain c

namespace Controller

variable {c : Controller} {h : Handler}

theorem mem_body
    {handlers : List Handler}
    (among : h ∈ handlers)
    {operation : Code.Operation Failure Empty}
    (member : operation ∈ c.handlerOperations h) :
    operation ∈ c.body handlers := by
  induction handlers with
  | nil => cases among
  | cons first rest ih =>
      cases rest with
      | nil =>
          rw [List.mem_singleton.1 among] at member
          exact member
      | cons second rest =>
          have shape : c.body (first :: second :: rest) =
              c.handlerOperations first ++ .blank :: c.body (second :: rest) := rfl
          rw [shape, List.mem_append, List.mem_cons]
          rcases List.mem_cons.1 among with rfl | later
          · exact .inl member
          · exact .inr (.inr (ih later))

theorem annotates
    (rendered : c.artifact.renderWithHeader = .ok text)
    (among : h ∈ c.handlers) :
    Annotates text c.indent h := by
  obtain ⟨body, made, rfl⟩ := exists_of_renderWithHeader rendered
  have member : .line (mappingLine h) ∈ c.unit.body :=
    mem_body among (by simp [handlerOperations])
  refine ⟨(CompilationUnit.standsIn_of_line made member).below_header, ?_, ?_, ?_⟩
  · intro bare
    simp [mappingLine_eq, bare]
  · intro path given
    rw [mappingLine_eq, Option.mem_def.1 given]
    simp [String.ext_iff]
  · intro path given
    rw [readsAs_iff]
    refine and_iff_right_of_imp fun plain => ?_
    refine (isLine_mappingLine fun other same => ?_).lines_eq
    obtain rfl : path = other := Option.some.inj (given.symm.trans same)
    exact fun inside => (plain '\n' inside).noEnd rfl

theorem comments_on_request
    (rendered : c.artifact.renderWithHeader = .ok text)
    (among : h ∈ c.handlers)
    (described : h.request.entity.description = some description) :
    Comments text c.indent 1 description := by
  obtain ⟨body, made, rfl⟩ := exists_of_renderWithHeader rendered
  have member : .line (Heading.comment description) ∈ c.unit.body :=
    mem_body among (by simp [handlerOperations, described, Code.Operation.javadoc, Heading.comment])
  exact ⟨(CompilationUnit.standsIn_of_line made member).below_header,
    isOneComment_written_comment _ _ _⟩

theorem comments_on_module
    (rendered : c.artifact.renderWithHeader = .ok text)
    (described : (c.project.modules.get? c.module).bind (·.description) = some description) :
    Comments text c.indent 0 description := by
  obtain ⟨body, made, rfl⟩ := exists_of_renderWithHeader rendered
  exact ⟨(CompilationUnit.standsIn_of_heading made c.declaration_eq described).below_header,
    isOneComment_written_comment _ _ _⟩

end Controller

namespace Model

variable {m : Model}

theorem comments_of_render
    {unit : CompilationUnit Failure}
    {heading : Heading}
    (rendered : unit.render = .ok body)
    (indent : unit.indent = m.indent)
    (declared : unit.declaration = heading.declaration)
    (same : heading.description = m.entity.description) :
    ∀ description ∈ m.entity.description,
      Comments (generatedHeader ++ "\n" ++ body) m.indent 0 description := by
  intro description described
  have stands := CompilationUnit.standsIn_of_heading rendered declared (same.trans described)
  exact ⟨indent ▸ stands.below_header, isOneComment_written_comment _ _ _⟩

/-- The file of a model class has the description of its entity. -/
theorem exists_comments
    (isModel : m.entity.kind ≠ .request) :
    ∃ text,
      m.artifact.renderWithHeader = .ok text ∧
        ∀ description ∈ m.entity.description, Comments text m.indent 0 description := by
  cases kind : m.entity.kind with
  | request => exact absurd kind isModel
  | data =>
      obtain ⟨body, rendered, -⟩ := exists_render_classArtifact m.className m.completed_classUnit
      have source : m.artifact = classArtifact m.className m.classUnit := by simp [artifact, kind]
      exact ⟨_, source ▸ renderWithHeader_classArtifact.2 ⟨body, rendered, rfl⟩,
        comments_of_render rendered rfl (m.declaration_eq (.inl rfl)) rfl⟩
  | enumeration =>
      obtain ⟨body, rendered, -⟩ := exists_render_classArtifact m.className m.completed_enumUnit
      have source : m.artifact = classArtifact m.className m.enumUnit := by simp [artifact, kind]
      exact ⟨_, source ▸ renderWithHeader_classArtifact.2 ⟨body, rendered, rfl⟩,
        comments_of_render rendered rfl (m.declaration_eq (.inr rfl)) rfl⟩

end Model

end Files

/--
Free text stands between the marks that are written around it.

Every eligible request has a handler in the file of its module, with an annotation for its path and a
comment with its description, below a comment with the description of the module; and every model class
has a comment with the description of its entity.  Nothing is escaped: a path is denoted by the literal in
its annotation exactly when each of its characters stands for itself, and a comment ends with the mark that
is written behind its description, and not before, exactly when the description is harmless.
-/
theorem free_text_stands_between_marks (g : Generator) :
    (∀ module h, h.request ∈ g.project.declarationsIn module → g.project.Eligible h →
      ∃ c,
        g.controller? module = some c ∧ h ∈ c.handlers ∧
          (g.demoData = none → ∃ text, c.artifact.renderWithHeader = .ok text) ∧
          ∀ text, c.artifact.renderWithHeader = .ok text →
            Annotates text c.indent h ∧
              (∀ description ∈ h.request.entity.description, Comments text c.indent 1 description) ∧
              ∀ description ∈ (g.project.modules.get? module).bind (·.description),
                Comments text c.indent 0 description) ∧
      ∀ d ∈ g.project.declarations, d.entity.isModel = true →
        ∃ text,
          (g.model d).artifact.renderWithHeader = .ok text ∧
            ∀ description ∈ d.entity.description,
              Comments text (g.model d).indent 0 description := by
  constructor
  · intro module h declared eligible
    have handled : h ∈ g.project.handlers module :=
      Manifest.Project.mem_handlers_iff.2 ⟨declared, eligible⟩
    obtain ⟨c, present, among⟩ := Generator.exists_controller_of_handler handled
    obtain ⟨sameProject, sameData, -⟩ := Generator.controller_eq present
    have sameModule := Generator.module_controller present
    refine ⟨c, present, among, fun placeheld => ?_, fun text rendered => ⟨?_, ?_, ?_⟩⟩
    · exact Controller.exists_renderWithHeader_of_placeheld (sameData.trans placeheld)
    · exact Controller.annotates rendered among
    · exact fun description described => Controller.comments_on_request rendered among described
    · intro description described
      rw [← sameProject, ← sameModule] at described
      exact Controller.comments_on_module rendered described
  · intro d declared isModel
    refine Model.exists_comments (m := g.model d) fun request => ?_
    have kind : d.entity.kind = .request := request
    simp [Manifest.Entity.isModel, kind] at isModel

section Examples

/-- A harbour whose berths can be looked up. -/
def harbour : Manifest.Project where
  settings := { name := "harbour" }
  modules := ⟨[("m", { description := some "Berths \\u0026 boats", entities := ⟨
    [("Berth", { kind := .data, description := some "A place\nfor one boat" }),
     ("GetBerth", {
        kind := .request, method := some "GET", path := some "/berths/\x7bberth_id\x7d",
        response := some "Berth", description := some "Looks a berth up" })],
    by decide⟩ })], by decide⟩

/-- The path of the harbour is denoted by its literal, and its comments end where they are meant to. -/
theorem harbour_texts_stay_between_marks :
    harbour.violation? = none ∧
      ∃ h c text,
        h.request ∈ harbour.declarationsIn "m" ∧ harbour.Eligible h ∧
          (Generator.ofProject harbour .empty).controller? "m" = some c ∧ h ∈ c.handlers ∧
          c.artifact.renderWithHeader = .ok text ∧ Annotates text c.indent h ∧
          ReadsAs "\"/berths/\x7bberth_id\x7d\")" "/berths/\x7bberth_id\x7d" ")" ∧
          StandsIn (written c.indent 1 "/** Looks a berth up */") text ∧
          IsOneComment (written c.indent 1 "/** Looks a berth up */") ∧
          StandsIn (written c.indent 0 "/** Berths \\u0026 boats */") text ∧
          IsOneComment (written c.indent 0 "/** Berths \\u0026 boats */") := by
  obtain ⟨h, among, path, description⟩ : ∃ h ∈ harbour.handlers "m",
      h.request.entity.path = some "/berths/\x7bberth_id\x7d" ∧
        h.request.entity.description = some "Looks a berth up" := by
    decide +kernel
  have onBerths : (harbour.modules.get? "m").bind (·.description) =
      some "Berths \\u0026 boats" := by
    decide +kernel
  obtain ⟨declared, eligible⟩ := Manifest.Project.mem_handlers_iff.1 among
  obtain ⟨c, present, handled, renders, holds⟩ :=
    (free_text_stands_between_marks (.ofProject harbour .empty)).1 "m" h declared eligible
  obtain ⟨text, rendered⟩ := renders rfl
  obtain ⟨annotated, onRequest, onModule⟩ := holds text rendered
  have plain : ∀ c ∈ "/berths/\x7bberth_id\x7d".toList, IsPlain c :=
    List.all_iff_forall_prop.1 (by decide)
  have denoted := ((annotated.denotes _ path).2 plain).2
  have request := onRequest _ description
  have module := onModule _ onBerths
  exact ⟨by decide +kernel, h, c, text, declared, eligible, present, handled, rendered, annotated,
    denoted, request.stands, request.ends.2 (by decide), module.stands, module.ends.2 (by decide)⟩

/-- A gate has a path with a quotation mark, and a description with the end of a comment. -/
def gatehouse : Manifest.Project where
  settings := { name := "gatehouse" }
  modules := ⟨[("m", { entities := ⟨
    [("Gate", { kind := .data }),
     ("GetGate", {
        kind := .request, method := some "GET", path := some "/a\"b",
        response := some "Gate", description := some "Opens */ class Gate \x7b" })],
    by decide⟩ })], by decide⟩

/-- The path of the gate is not denoted by its literal, and the comment on it ends too early. -/
theorem marks_in_free_text_are_not_escaped :
    gatehouse.violation? = none ∧
      ∃ h c text,
        h.request ∈ gatehouse.declarationsIn "m" ∧ gatehouse.Eligible h ∧
          h.request.entity.path = some "/a\"b" ∧
          h.request.entity.description = some "Opens */ class Gate \x7b" ∧
          (Generator.ofProject gatehouse .empty).controller? "m" = some c ∧
          c.artifact.renderWithHeader = .ok text ∧
          StandsIn (written c.indent 1 "@GetMapping(\"/a\"b\")") text ∧
          ¬ ReadsAs "\"/a\"b\")" "/a\"b" ")" ∧
          StandsIn (written c.indent 1 "/** Opens */ class Gate \x7b */") text ∧
          ¬ IsOneComment (written c.indent 1 "/** Opens */ class Gate \x7b */") := by
  obtain ⟨h, among, path, description, mapped⟩ : ∃ h ∈ gatehouse.handlers "m",
      h.request.entity.path = some "/a\"b" ∧
        h.request.entity.description = some "Opens */ class Gate \x7b" ∧
        Controller.mappingLine h = "@GetMapping(\"/a\"b\")" := by
    decide +kernel
  obtain ⟨declared, eligible⟩ := Manifest.Project.mem_handlers_iff.1 among
  obtain ⟨c, present, handled⟩ :=
    Generator.exists_controller_of_handler (g := .ofProject gatehouse .empty) among
  obtain ⟨text, rendered⟩ :=
    Controller.exists_renderWithHeader_of_placeheld (Generator.controller_eq present).2.1
  have annotated := Controller.annotates rendered handled
  have comment := Controller.comments_on_request rendered handled description
  have misread : ¬ ReadsAs ("\"" ++ "/a\"b" ++ "\")") "/a\"b" ")" := fun read =>
    absurd ((readsAs_iff _).1 read '"' (by decide)) (by decide)
  exact ⟨by decide +kernel, h, c, text, declared, eligible, path, description, present, rendered,
    mapped ▸ annotated.stands, misread, comment.stands, fun ends =>
      absurd (comment.ends.1 ends) (by decide)⟩

end Examples

end Java
end Scaffold
