import Scaffold.FileTree

/-!
# File systems

The operations of a file system that the program uses.  What the program does is written once over
them, for whatever file system it runs on: it runs on the one of the machine, and on a file tree,
where an operation is a function of the tree.

A file tree can be read as a whole.  In a tree that is looked at through something else, a walk may
come upon files and directories that cannot be read.
-/

namespace Scaffold

/-- What a walk through a directory comes upon, by the names from there: a file with its bytes if they
can be read, something that is no file, or a place where the walk itself goes wrong. -/
inductive Template.Visit where
  | file (names : Location) (bytes : Option ByteArray)
  | other (names : Location)
  | fault

/-- The operations of a file system: reading a text, asking whether a path leads somewhere, walking
through a directory, writing a file with the directories on the way to it, and replacing a file whose
directory is there. -/
structure FileSystem (m : Type → Type) where
  readText : Path → m (Except SystemFault String)
  pathExists : Path → m Bool
  walk : Path → m (List Template.Visit)
  write : Path → ByteArray → m (Except SystemFault Unit)
  replaceFile : Path → ByteArray → m (Except SystemFault Unit)

namespace FileTree

/-- What a walk through a directory of a tree comes upon: its files, all of which can be read. -/
def visits
    (tree : FileTree)
    (directory : Path) : List Template.Visit :=
  match tree.locate directory with
  | .error _ => [.fault]
  | .ok location => (tree.filesBelow location).map fun (names, bytes) => .file names (some bytes)

/-- A program that changes a tree as a function of the tree, and what it gives. -/
def act
    {α : Type}
    (change : FileTree → FileTree × α) : StateM FileTree α :=
  fun tree => (change tree).swap

/-- The tree that a program leaves, and what it gives. -/
def run
    {α : Type}
    (program : StateM FileTree α)
    (tree : FileTree) : FileTree × α :=
  (StateT.run program tree).swap

section Running

variable {α β : Type} (tree : FileTree)

@[simp] theorem run_pure (value : α) :
    run (pure value) tree = (tree, value) :=
  rfl

@[simp] theorem run_bind
    (program : StateM FileTree α)
    (next : α → StateM FileTree β) :
    run (program >>= next) tree = run (next (run program tree).2) (run program tree).1 :=
  rfl

@[simp] theorem run_map
    (f : α → β)
    (program : StateM FileTree α) :
    run (f <$> program) tree = ((run program tree).1, f (run program tree).2) :=
  rfl

@[simp] theorem run_act (change : FileTree → FileTree × α) :
    run (act change) tree = change tree :=
  rfl

end Running

/-- The file system that a tree is when its directories look like this. -/
def systemSeeing (look : FileTree → Path → List Template.Visit) : FileSystem (StateM FileTree) where
  readText p := act fun tree => (tree, tree.readText p)
  pathExists p := act fun tree => (tree, tree.pathExists p)
  walk directory := act fun tree => (tree, look tree directory)
  write p bytes := act fun tree => tree.write p bytes
  replaceFile p bytes := act fun tree => tree.replaceFile p bytes

/-- The file system that a tree is. -/
abbrev system : FileSystem (StateM FileTree) :=
  systemSeeing visits

section Operations

variable (look : FileTree → Path → List Template.Visit) (tree : FileTree) (p : Path)
  (bytes : ByteArray)

@[simp] theorem run_readText :
    run ((systemSeeing look).readText p) tree = (tree, tree.readText p) :=
  rfl

@[simp] theorem run_pathExists :
    run ((systemSeeing look).pathExists p) tree = (tree, tree.pathExists p) :=
  rfl

@[simp] theorem run_walk :
    run ((systemSeeing look).walk p) tree = (tree, look tree p) :=
  rfl

@[simp] theorem run_write :
    run ((systemSeeing look).write p bytes) tree = tree.write p bytes :=
  rfl

@[simp] theorem run_replaceFile :
    run ((systemSeeing look).replaceFile p bytes) tree = tree.replaceFile p bytes :=
  rfl

end Operations

end FileTree

end Scaffold
