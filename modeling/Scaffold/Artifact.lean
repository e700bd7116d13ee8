import Scaffold.Failure
import Scaffold.FileSystem
import Scaffold.Text.Decimal

/-!
# Artifacts

An artifact is one file that a run puts on disk: where it goes, what it holds and whether a file that
is already there may be replaced.  What it holds is text, which may get a header line, or bytes,
which are copied as they are; and it may be a failure, when the content could not be made.
-/

namespace Scaffold

/-- What a file holds. -/
inductive Content where
  | text (content : String)
  | binary (bytes : ByteArray)

instance : DecidableEq Content
  | .text a, .text b => decidable_of_iff (a = b) (by simp)
  | .text _, .binary _ => .isFalse nofun
  | .binary _, .text _ => .isFalse nofun
  | .binary a, .binary b => @decidable_of_iff _ (a = b) (by simp) (ByteArray.instDecidableEq a b)

namespace Content

/-- The content with some bytes: text whenever the bytes are text. -/
def ofBytes (bytes : ByteArray) : Content :=
  match String.fromUTF8? bytes with
  | some content => text content
  | none => binary bytes

/-- The bytes of a content. -/
def bytes : Content → ByteArray
  | text content => content.toUTF8
  | binary bytes => bytes

/-- Whether a content is text. -/
def isText : Content → Bool
  | text _ => true
  | binary _ => false

/-- The content as it is shown to the reader. -/
def shown : Content → String
  | text content => content
  | binary bytes => "<binary file, " ++ Text.decimal bytes.size ++ " bytes>"

end Content

/-- Whether a file that is already there is replaced. -/
inductive Overwrite where
  | always
  | ifMissing
  deriving DecidableEq

/-- How a file is put on disk. -/
structure WriteRules where
  overwrite : Overwrite := .always
  header : Option String := none
  deriving DecidableEq

namespace WriteRules

/-- Generated sources are replaced in every run and carry a header. -/
def generated (header : String) : WriteRules := ⟨.always, some header⟩

/-- Files for the user to edit are written once. -/
def once : WriteRules := ⟨.ifMissing, none⟩

end WriteRules

/-- What became of an artifact. -/
inductive WriteResult where
  | written
  | skipped
  deriving DecidableEq

/-- One file that a run puts on disk, at a path below the output directory. -/
structure Artifact where
  path : Path
  content : Except Failure Content
  rules : WriteRules

namespace Artifact

/-- The text of an artifact. -/
def render (a : Artifact) : Except Failure String :=
  match a.content with
  | .error failure => .error failure
  | .ok (.text content) => .ok content
  | .ok (.binary _) => .error (.binaryAsText a.path)

/-- The text of an artifact below its header. -/
def renderWithHeader (a : Artifact) : Except Failure String :=
  match a.render with
  | .error failure => .error failure
  | .ok body =>
      match a.rules.header with
      | some header => .ok (header ++ "\n" ++ body)
      | none => .ok body

/-- The bytes that are put on disk; bytes that are no text get no header. -/
def bytes (a : Artifact) : Except Failure ByteArray :=
  match a.content with
  | .ok (.binary bytes) => .ok bytes
  | _ =>
      match a.renderWithHeader with
      | .error failure => .error failure
      | .ok text => .ok text.toUTF8

section Writing

variable {m : Type → Type} [Monad m]

/-- Whether an artifact is left out, because it is written once and something is in its place. -/
def keepsOn
    (system : FileSystem m)
    (a : Artifact)
    (base : Path) : m Bool :=
  if a.rules.overwrite = .ifMissing then system.pathExists (base.join a.path) else pure false

/-- Puts an artifact on disk below a directory. -/
def writeOn
    (system : FileSystem m)
    (a : Artifact)
    (base : Path) : m (Except Failure WriteResult) := do
  if ← a.keepsOn system base then return .ok .skipped
  match a.bytes with
  | .error failure => return .error failure
  | .ok bytes =>
      match ← system.write (base.join a.path) bytes with
      | .ok _ => return .ok .written
      | .error _ => return .error .refusedBySystem

end Writing

/-- Puts an artifact on disk in a tree. -/
def write
    (a : Artifact)
    (tree : FileTree)
    (base : Path) : FileTree × Except Failure WriteResult :=
  FileTree.run (a.writeOn FileTree.system base) tree

theorem run_keepsOn
    (a : Artifact)
    (tree : FileTree)
    (base : Path) :
    FileTree.run (a.keepsOn FileTree.system base) tree =
      (tree, a.rules.overwrite = .ifMissing && tree.pathExists (base.join a.path)) := by
  by_cases once : a.rules.overwrite = .ifMissing <;> simp [keepsOn, once]

/-- What becomes of a tree and an artifact. -/
theorem write_eq
    (a : Artifact)
    (tree : FileTree)
    (base : Path) :
    a.write tree base =
      if a.rules.overwrite = .ifMissing ∧ tree.pathExists (base.join a.path) then
        (tree, .ok .skipped)
      else
        match a.bytes with
        | .error failure => (tree, .error failure)
        | .ok bytes =>
            match tree.write (base.join a.path) bytes with
            | (tree, .ok _) => (tree, .ok .written)
            | (tree, .error _) => (tree, .error .refusedBySystem) := by
  by_cases kept : a.rules.overwrite = .ifMissing ∧ tree.pathExists (base.join a.path) = true
  · simp [write, writeOn, run_keepsOn, kept]
  · rw [if_neg kept]
    cases made : a.bytes with
    | error failure => simp [write, writeOn, run_keepsOn, kept, made]
    | ok bytes =>
        rcases wrote : tree.write (base.join a.path) bytes with ⟨new, fault | ⟨⟩⟩ <;>
          simp [write, writeOn, run_keepsOn, kept, made, wrote]

/-- The artifact with its header made part of its text, ready to be written or shown. -/
def prerender (a : Artifact) : Except Failure Artifact :=
  match a.renderWithHeader with
  | .error failure => .error failure
  | .ok text => .ok ⟨a.path, .ok (.text text), ⟨a.rules.overwrite, none⟩⟩

end Artifact

end Scaffold
