import Scaffold.CommandLine.Arguments
import Scaffold.Manifest.Project

/-!
# Commands

What the program is asked to do: generate a service, check a manifest, or write a completion script
for a shell; and the texts that explain how to ask.
-/

namespace Scaffold
namespace CommandLine

open Text

/-- What the program is asked to do. -/
inductive Command where
  | generate (config output : Path) (dryRun demoData : Bool) (package : Option String)
  | check (config : Path)
  | completions (shell : String) (output : Option Path)
  deriving DecidableEq

/-- The directory that is written to when none is named. -/
def defaultOutput : String := "."

/-- The shells that completion scripts exist for. -/
def shells : List String := ["bash", "elvish", "fish", "powershell", "zsh"]

/-- The names of the commands. -/
def commandNames : List String := ["generate", "check", "completions", "help"]

/-- The script that makes a shell complete the names of the commands. -/
def completionScript (shell : String) : String :=
  let names := String.intercalate " " commandNames
  match shell with
  | "bash" => "complete -W \"" ++ names ++ "\" javelin"
  | "zsh" => "compctl -k \"(" ++ names ++ ")\" javelin"
  | "fish" => "complete -c javelin -f -a \"" ++ names ++ "\""
  | "elvish" =>
      "set edit:completion:arg-completer[javelin] = \x7b|@words| put " ++ names ++ " \x7d"
  | _ =>
      "Register-ArgumentCompleter -Native -CommandName javelin -ScriptBlock \x7b '" ++
        String.intercalate "', '" commandNames ++ "' \x7d"

/-- How the program is called. -/
def usage : List String :=
  ["Usage: javelin [-v] <command>",
   "",
   "  generate [-c <config>] [-o <output>] [--dry-run] [--demo-data] [--package <package>]",
   "  check [-c <config>]",
   "  completions <shell> [-o <output>]"]

/-- The flag for more details, understood everywhere. -/
def verboseSwitch : Switch := ⟨"verbose", some 'v', .flag⟩

/-- The request for help, understood everywhere. -/
def helpSwitch : Switch := ⟨"help", some 'h', .help⟩

/-- The names in front of a command. -/
def topSwitches : List Switch :=
  [verboseSwitch, helpSwitch, ⟨"version", some 'V', .version⟩]

/-- The option that names the manifest. -/
def configSwitch : Switch := ⟨"config", some 'c', .path⟩

/-- The option that names the place to write to. -/
def outputSwitch : Switch := ⟨"output", some 'o', .path⟩

/-- The names behind `generate`. -/
def generateSwitches : List Switch :=
  [configSwitch, outputSwitch, ⟨"dry-run", none, .flag⟩, ⟨"demo-data", none, .flag⟩,
   ⟨"package", none, .text⟩, verboseSwitch, helpSwitch]

/-- The names behind `check`. -/
def checkSwitches : List Switch := [configSwitch, verboseSwitch, helpSwitch]

/-- The names behind `completions`. -/
def completionsSwitches : List Switch := [outputSwitch, verboseSwitch, helpSwitch]

/-- The path that an option names. -/
def pathValue
    (a : Arguments)
    (option standard : String) : Path :=
  ⟨(a.value? option).getD standard⟩

namespace Command

/-- Reads what stands behind `generate`. -/
def readGenerate (words : List String) : Except Interruption Command := do
  let a ← readArguments generateSwitches (fun _ => false) 0 .start words
  return generate (pathValue a "config" Manifest.defaultName) (pathValue a "output" defaultOutput)
    (a.has "dry-run") (a.has "demo-data") (a.value? "package")

/-- Reads what stands behind `check`. -/
def readCheck (words : List String) : Except Interruption Command := do
  let a ← readArguments checkSwitches (fun _ => false) 0 .start words
  return check (pathValue a "config" Manifest.defaultName)

/-- Reads what stands behind `completions`. -/
def readCompletions (words : List String) : Except Interruption Command := do
  let a ← readArguments completionsSwitches shells.contains 1 .start words
  match a.words with
  | [shell] => return completions shell ((a.value? "output").map Path.mk)
  | _ => throw .misuse

/-- Reads a command line without the name of the program. -/
def read (words : List String) : Except Interruption Command :=
  match readSwitches topSwitches (.start, none) words with
  | .error interruption => .error interruption
  | .ok (_, "generate" :: rest) => readGenerate rest
  | .ok (_, "check" :: rest) => readCheck rest
  | .ok (_, "completions" :: rest) => readCompletions rest
  | .ok (_, "help" :: []) => .error .help
  | .ok (_, ["help", command]) =>
      if commandNames.contains command then .error .help
      else .error .misuse
  | .ok _ => .error .misuse

end Command

end CommandLine
end Scaffold
