import Scaffold.Check
import Scaffold.CommandLine.Command
import Scaffold.Generation
import Scaffold.Manifest.Reading

/-!
# Sessions

What a run of the program gives: its exit status, the lines of its standard output, its warnings and
what it tells about a failure.  A configuration or generation error gives status 1, a command line
that is not understood status 2.
-/

namespace Scaffold
namespace CommandLine

open Manifest (Project)

/-- What a run of the program gives. -/
structure Outcome where
  status : UInt8
  output : List String := []
  warnings : List String := []
  complaints : List String := []

namespace Outcome

/-- A run that succeeds and tells a report. -/
def telling (parts : List ReportPart) : Outcome where
  status := 0
  output := parts.filterMap ReportPart.shown?
  warnings := parts.filterMap ReportPart.warned?

/-- A run that stops at a manifest that is refused. -/
def refusing (d : Manifest.Diagnostic) : Outcome where
  status := 1
  complaints :=
    ("error: " ++ d.message) ::
      d.labels.map (fun (label, span) =>
        "  at byte " ++ Text.decimal span.offset ++ ": " ++ label) ++
      (d.help.map ("  help: " ++ ·)).toList

/-- The line that tells a cause. -/
def causeLine : Cause → String
  | .message text => "error: " ++ text
  | .system => "error: refused by the operating system"

/-- A run that fails. -/
def failing (failure : Failure) : Outcome where
  status := 1
  complaints := failure.causes.map causeLine

/-- The line that names the program and its version. -/
def versionLine : String := "javelin 0.1.0"

section Running

variable {m : Type → Type} [Monad m]

/-- Runs a command. -/
def ofCommandOn (system : FileSystem m) : Command → m Outcome
  | .check config => do
      match ← Manifest.loadFileOn system config with
      | (source, .error refusal) => return refusing (refusal.diagnostic source)
      | (_, .ok project) => return telling (CheckReport.ofProject project config).parts
  | .generate config output dryRun demoData package => do
      match ← Manifest.loadFileOn system config with
      | (source, .error refusal) => return refusing (refusal.diagnostic source)
      | (_, .ok project) =>
          let request : GenerationRequest := ⟨config, output, dryRun, demoData, package⟩
          match ← request.runOn system project with
          | .ok report => return telling report.parts
          | .error failure => return failing failure
  | .completions shell none => return { status := 0, output := [completionScript shell] }
  | .completions shell (some path) => do
      match ← system.replaceFile path (completionScript shell ++ "\n").toUTF8 with
      | .ok _ => return { status := 0 }
      | .error _ =>
          return { status := 1, complaints := ["error: failed to create '" ++ path.text ++ "'"] }

/-- Runs the program with a command line. -/
def runOn
    (system : FileSystem m)
    (words : List String) : m Outcome :=
  match Command.read words with
  | .ok command => ofCommandOn system command
  | .error .misuse => return { status := 2, complaints := usage }
  | .error .help => return { status := 0, output := usage }
  | .error .version => return { status := 0, output := [versionLine] }

end Running

end Outcome

/-- What a run of the program in a tree leaves behind. -/
structure Session extends Outcome where
  tree : FileTree

namespace Session

/-- Runs the program with a command line in a tree. -/
def run
    (tree : FileTree)
    (words : List String) : Session :=
  match FileTree.run (Outcome.runOn FileTree.system words) tree with
  | (tree, outcome) => ⟨outcome, tree⟩

end Session

end CommandLine
end Scaffold
