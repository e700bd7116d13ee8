import Scaffold.Proofs.FileTree.Ancestors
import Scaffold.Proofs.Generator.Refinement
import Scaffold.Proofs.Java.ClassPaths
import Scaffold.Proofs.Java.ModelSource
import Scaffold.Proofs.Template.Directory

/-!
# Writing one artifact

An artifact that is not left out writes one file, and of everything else only directories on the way to
it.  The file holds the bytes of the artifact, with the header in front of them if they are a text.

A source is written to the same place with the same bytes, whether its header is put in front of it on the
way to the disk or before.
-/

namespace Scaffold

open FileTree (WroteOnly)

/-- The bytes of a file with a content: a header stands above a text, and above nothing else. -/
def Content.onDisk : Content → Option String → ByteArray
  | .binary bytes, _ => bytes
  | .text content, none => content.toUTF8
  | .text content, some header => (header ++ "\n" ++ content).toUTF8

theorem Content.onDisk_none (content : Content) :
    content.onDisk none = content.bytes := by
  cases content <;> rfl

namespace Artifact

section Writing

variable {a file : Artifact} {base : Path} {tree : FileTree} {content : Content}

theorem bytes_eq_onDisk
    (held : a.content = .ok content) :
    a.bytes = .ok (content.onDisk a.rules.header) := by
  cases content with
  | binary raw => simp [bytes, held, Content.onDisk]
  | text body =>
      cases header : a.rules.header <;>
        simp [bytes, renderWithHeader, render, held, header, Content.onDisk]

/-- What is not left out is written where the system takes it. -/
theorem exists_write_of_takes
    (held : a.content = .ok content)
    (goesOn : ¬ (a.rules.overwrite = .ifMissing ∧ tree.pathExists (base.join a.path) = true))
    (takes : tree.Takes (base.join a.path)) :
    ∃ new location,
      a.write tree base = (new, .ok .written) ∧
        WroteOnly tree new (base.join a.path) (content.onDisk a.rules.header) location := by
  obtain ⟨new, location, done, only⟩ := takes.exists_wroteOnly (content.onDisk a.rules.header)
  refine ⟨new, location, ?_, only⟩
  simp [write_eq, if_neg goesOn, bytes_eq_onDisk held, done]

/-- An artifact that is always written and holds no raw bytes is written as it is prerendered. -/
theorem write_eq_of_prerender
    (always : a.rules.overwrite = .always)
    (isText : ∀ raw, a.content ≠ .ok (.binary raw))
    (tree : FileTree)
    (base : Path) :
    a.write tree base =
      match a.prerender with
      | .error failure => (tree, .error failure)
      | .ok file => file.write tree base := by
  have sameBytes : a.bytes = a.renderWithHeader.map String.toUTF8 := by
    unfold bytes
    split
    · next raw held => exact absurd held (isText raw)
    · cases a.renderWithHeader <;> rfl
  cases rendered : a.renderWithHeader with
  | error failure =>
      simp [write_eq, prerender, always, sameBytes, rendered, Except.map]
  | ok text =>
      have readyBytes : Artifact.bytes ⟨a.path, .ok (.text text), {}⟩ = .ok text.toUTF8 :=
        bytes_eq_onDisk (a := ⟨a.path, .ok (.text text), {}⟩) rfl
      simp [write_eq, prerender, always, sameBytes, rendered, Except.map, readyBytes]

end Writing

end Artifact

namespace Java

/-- The file of a class as it is found from a directory, one part of the way after the other. -/
def fileBelow
    (base : Path)
    (package className : String) : Path :=
  ((base.join sourceRoot).join (.ofDotted package)).join (fileOf className)

/-- An artifact is that of a controller, a model or an application, with this package and class. -/
inductive IsSource
    (a : Artifact)
    (package className : String) : Prop
  | controller
      (c : Controller)
      (artifact : c.artifact = a)
      (inPackage : c.package = package)
      (named : c.className = className)
  | model
      (m : Model)
      (artifact : m.artifact = a)
      (inPackage : Model.packageOf m.basePackage = package)
      (named : m.className = className)
  | application
      (m : Application)
      (artifact : m.artifact = a)
      (inPackage : m.package = package)
      (named : m.className = className)

namespace IsSource

variable {a : Artifact} {package className : String}

theorem path_eq
    (h : IsSource a package className) :
    a.path = classPath package className := by
  obtain ⟨c, rfl, rfl, rfl⟩ | ⟨m, rfl, rfl, rfl⟩ | ⟨m, rfl, rfl, rfl⟩ := h
  · simp only [Controller.artifact, classArtifact, Controller.unit]
  · exact m.path_artifact
  · simp only [Application.artifact, classArtifact, Application.unit]

theorem rules_eq
    (h : IsSource a package className) :
    a.rules = .generated generatedHeader := by
  obtain ⟨c, rfl, -, -⟩ | ⟨m, rfl, -, -⟩ | ⟨m, rfl, -, -⟩ := h
  · rfl
  · exact m.artifact_rules
  · rfl

theorem content_ne_binary
    (h : IsSource a package className)
    (raw : ByteArray) :
    a.content ≠ .ok (.binary raw) := by
  have isText : ∀ (name : String) (unit : CompilationUnit Failure),
      (classArtifact name unit).content ≠ .ok (.binary raw) := by
    intro name unit
    cases rendered : unit.render <;> simp [classArtifact, rendered, Except.map]
  obtain ⟨c, rfl, -, -⟩ | ⟨m, rfl, -, -⟩ | ⟨m, rfl, -, -⟩ := h
  · exact isText c.className c.unit
  · unfold Model.artifact
    split
    · exact isText m.className m.classUnit
    · exact isText m.className m.enumUnit
    · simp
  · exact isText m.className m.unit

/-- A source stands where its package and its class say, seen from any directory. -/
theorem join_path_eq
    (h : IsSource a package className)
    (base : Path) :
    base.join a.path = fileBelow base package className := by
  rw [h.path_eq, classPath_eq, directory, fileBelow, Path.join_assoc base, Path.join_assoc base]

end IsSource

end Java

/-- Writing touches one file.

A file that is written once is left alone where its path leads somewhere.  Any other file is written when
the system takes it: its bytes, with the header in front of a text, stand where its path leads, the
directories on the way are there, and nothing else is changed.  Bytes without a header are stored as they
are.  A source is written with the same outcome whether it is prerendered or not. -/
theorem writing_touches_one_file
    (tree : FileTree)
    (base : Path) :
    (∀ path content rules,
      (rules.overwrite = .ifMissing ∧ tree.pathExists (base.join path) = true →
        Artifact.write ⟨path, .ok content, rules⟩ tree base = (tree, .ok .skipped)) ∧
      (¬ (rules.overwrite = .ifMissing ∧ tree.pathExists (base.join path) = true) →
        tree.Takes (base.join path) →
          ∃ new location,
            Artifact.write ⟨path, .ok content, rules⟩ tree base = (new, .ok .written) ∧
              WroteOnly tree new (base.join path) (content.onDisk rules.header) location)) ∧
      (∀ path bytes overwrite,
        ¬ (overwrite = .ifMissing ∧ tree.pathExists (base.join path) = true) →
          tree.Takes (base.join path) →
            ∃ new,
              Artifact.write ⟨path, .ok (.ofBytes bytes), ⟨overwrite, none⟩⟩ tree base =
                  (new, .ok .written) ∧
                new.read (base.join path) = .ok bytes) ∧
      ∀ source package className, Java.IsSource source package className →
        base.join source.path = Java.fileBelow base package className ∧
          (∀ file, source.prerender = .ok file →
            file.path = Java.fileBelow .empty package className) ∧
          source.write tree base =
            match source.prerender with
            | .error failure => (tree, .error failure)
            | .ok file => file.write tree base := by
  refine ⟨fun path content rules => ⟨?_, ?_⟩, ?_, ?_⟩
  · rintro ⟨once, present⟩
    simp [Artifact.write_eq, once, present]
  · intro goesOn takes
    exact Artifact.exists_write_of_takes rfl goesOn takes
  · intro path bytes overwrite goesOn takes
    obtain ⟨new, location, done, only⟩ := Artifact.exists_write_of_takes
      (a := ⟨path, .ok (.ofBytes bytes), ⟨overwrite, none⟩⟩) rfl goesOn takes
    rw [Content.onDisk_none, Content.bytes_ofBytes] at only
    exact ⟨new, done, only.read_eq⟩
  · intro source package className isSource
    refine ⟨isSource.join_path_eq base, fun file done => ?_, ?_⟩
    · obtain ⟨body, -, rfl⟩ := Generator.headed_of_prerender isSource.rules_eq done
      rw [← isSource.join_path_eq, Path.empty_join]
    · exact Artifact.write_eq_of_prerender (by rw [isSource.rules_eq]; rfl)
        isSource.content_ne_binary tree base

/-- A note is written below a directory that is not there yet, and is left alone when another file is to
go there from elsewhere. -/
theorem note_is_written_once :
    let note : Artifact := ⟨⟨"notes/first.txt"⟩, .ok (.text "hello"), .generated "# kept"⟩
    let other : Artifact := ⟨⟨"/srv/out/notes/first.txt"⟩, .ok (.text "other"), .once⟩
    FileTree.empty.Takes (Path.join ⟨"/srv/out"⟩ note.path) ∧
      ∃ new location,
        note.write .empty ⟨"/srv/out"⟩ = (new, .ok .written) ∧
          WroteOnly .empty new (Path.join ⟨"/srv/out"⟩ note.path) "# kept\nhello".toUTF8 location ∧
          other.write new ⟨"elsewhere"⟩ = (new, .ok .skipped) := by
  intro note other
  have takes : FileTree.empty.Takes (Path.join ⟨"/srv/out"⟩ note.path) := by
    unfold FileTree.Takes
    decide +kernel
  obtain ⟨-, written⟩ := (writing_touches_one_file .empty ⟨"/srv/out"⟩).1 ⟨"notes/first.txt"⟩
    (.text "hello") (.generated "# kept")
  obtain ⟨new, location, done, only⟩ := written (by decide) takes
  have present : (note.write .empty ⟨"/srv/out"⟩).1.pathExists
      (Path.join ⟨"elsewhere"⟩ other.path) = true := by decide +kernel
  rw [done] at present
  obtain ⟨skips, -⟩ := (writing_touches_one_file new ⟨"elsewhere"⟩).1 other.path (.text "other") .once
  exact ⟨takes, new, location, done, only, skips ⟨rfl, present⟩⟩

end Scaffold
