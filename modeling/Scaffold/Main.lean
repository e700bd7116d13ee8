import Scaffold.CommandLine.Session

/-!
# The program

The command line on the file system of the machine.  Everything that is decided is decided by the
library; here the operations of the system are carried out and lines are printed.
-/

namespace Scaffold
namespace CommandLine

/-- Where a path leads on the machine. -/
def onDisk (p : Path) :=
  (· / p.text) <$> IO.currentDir

/-- What an operation gives, or that it was refused. -/
def attempt
    {α : Type}
    (operation : IO α) : IO (Except SystemFault α) := do
  try return .ok (← operation) catch _ => return .error .other

/-- What a walk through a directory comes upon from some names on, in the order of the names.  Links
are not followed, but for one that stands for the whole directory. -/
partial def visitsFrom
    (directory : Path)
    (names : Location) : IO (List Template.Visit) := do
  let path ← onDisk (directory.extend names)
  let type ←
    try some <$> do
      let type := (← path.symlinkMetadata).type
      if names.isEmpty && type == .symlink then
        return if (← path.metadata).type == .dir then .dir else type
      return type
    catch _ => pure none
  match type with
  | none => return [.fault]
  | some .file =>
      let bytes ← try some <$> IO.FS.readBinFile path catch _ => pure none
      return [.file names bytes]
  | some .dir =>
      let entries ← try some <$> path.readDir catch _ => pure none
      match entries with
      | none => return [.other names, .fault]
      | some entries =>
          let children := entries.toList.filterMap fun entry => Path.Name.ofText? entry.fileName
          let below ← (children.mergeSort fun a b => decide (a.text ≤ b.text)).mapM
            fun name => visitsFrom directory (names ++ [name])
          return .other names :: below.flatten
  | some _ => return [.other names]

/-- The file system of the machine. -/
def machine : FileSystem IO where
  readText p := attempt (IO.FS.readFile p.text)
  pathExists p := do (← onDisk p).pathExists
  walk directory := visitsFrom directory []
  write p bytes := attempt do
    let path ← onDisk p
    if let some parent := path.parent then IO.FS.createDirAll parent
    IO.FS.writeBinFile path bytes
  replaceFile p bytes := attempt (IO.FS.writeBinFile p.text bytes)

end CommandLine
end Scaffold

/-- Runs the program. -/
def main (words : List String) : IO UInt32 := do
  let outcome ← Scaffold.CommandLine.Outcome.runOn Scaffold.CommandLine.machine words
  for line in outcome.output do IO.println line
  for line in outcome.warnings do IO.eprintln line
  for line in outcome.complaints do IO.eprintln line
  return outcome.status.toUInt32
