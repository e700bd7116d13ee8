import Scaffold.OrderedMap
import Scaffold.Path

/-!
# File trees

A file tree is a value: which locations below the root hold a file or a directory, and in which
directory the program runs.  A location is the list of names on the way from the root, so no location
holds two things.  Whatever stands in a tree stands in a directory, which the type records.  Paths
are read step by step, from the root when they are absolute and from the working directory
otherwise; a step up from the root stays there.

Writing a file creates the directories on the way to it and then replaces the file.  A refused
operation reports a fault and hands back the tree as far as it got.
-/

namespace Scaffold

open Text

/-- The names on the way from the root. -/
abbrev Location := List Path.Name

/-- What stands at a location. -/
inductive Entry where
  | directory
  | file (bytes : ByteArray)

instance : DecidableEq Entry
  | .directory, .directory => .isTrue rfl
  | .directory, .file _ => .isFalse nofun
  | .file _, .directory => .isFalse nofun
  | .file a, .file b => @decidable_of_iff _ (a = b) (by simp) (ByteArray.instDecidableEq a b)

/-- Why the system refuses an operation on a path. -/
inductive SystemFault where
  | badPath
  | notFound
  | notDirectory
  | isDirectory
  | notText
  | other
  deriving DecidableEq

/-- A location holds a directory; the root needs no entry. -/
def HoldsDirectory
    (entries : OrderedMap Location Entry)
    (location : Location) : Prop :=
  location = [] ∨ entries.get? location = some .directory

/-- Everything stands in a directory. -/
def Rooted (entries : OrderedMap Location Entry) : Prop :=
  ∀ (location : Location) (name : Path.Name), (entries.get? (location ++ [name])).isSome →
    HoldsDirectory entries location

/-- The files and directories below the root, and the directory in which the program runs. -/
structure FileTree where
  entries : OrderedMap Location Entry
  working : Location
  rooted : Rooted entries
  inhabited : HoldsDirectory entries working
  deriving DecidableEq

namespace FileTree

/-- The name of the directory in which the program runs when nothing else is there. -/
def home : Path.Name := ⟨"work", by decide⟩

/-- The tree in which nothing stands but an empty working directory. -/
def empty : FileTree where
  entries := OrderedMap.empty.insert [home] .directory
  working := [home]
  rooted location name below := by
    by_cases here : location ++ [name] = [home]
    · exact .inl (List.append_eq_singleton_iff.1 here |>.resolve_right (by simp)).1
    · rw [OrderedMap.get?_insert_of_ne _ _ here] at below
      cases below
  inhabited := .inr (OrderedMap.get?_insert_self _ _ _)

/-- What stands at a location. -/
def find?
    (tree : FileTree)
    (location : Location) : Option Entry :=
  if location = [] then some .directory else tree.entries.get? location

/-- Whether a location holds a directory. -/
def isDirectory
    (tree : FileTree)
    (location : Location) : Bool :=
  tree.find? location == some .directory

/-- A location holds a directory if this is what stands there. -/
@[simp] theorem isDirectory_iff
    (tree : FileTree)
    (location : Location) :
    tree.isDirectory location = true ↔ tree.find? location = some .directory := by
  simp [isDirectory]

/-- The root is a directory. -/
@[simp] theorem find?_nil (tree : FileTree) :
    tree.find? [] = some .directory := by
  simp [find?]

/-- A location holds a directory when its entry says so, or at the root. -/
theorem find?_of_holdsDirectory
    {tree : FileTree}
    {location : Location}
    (holds : HoldsDirectory tree.entries location) :
    tree.find? location = some .directory := by
  rcases holds with rfl | entry
  · exact tree.find?_nil
  · simp [find?, entry]

/-- Whatever stands somewhere stands in a directory. -/
theorem find?_of_below
    (tree : FileTree)
    {location : Location}
    {name : Path.Name}
    (below : (tree.find? (location ++ [name])).isSome) :
    tree.find? location = some .directory := by
  have entry : (tree.entries.get? (location ++ [name])).isSome := by simpa [find?] using below
  exact find?_of_holdsDirectory (tree.rooted location name entry)

/-- A directory other than the root stands in a directory. -/
theorem isDirectory_dropLast
    (tree : FileTree)
    {location : Location}
    (here : tree.isDirectory location = true) :
    tree.isDirectory location.dropLast = true := by
  rcases List.eq_nil_or_concat location with rfl | ⟨above, name, whole⟩
  · exact here
  · rw [List.concat_eq_append] at whole
    subst whole
    have stands : (tree.find? (above ++ [name])).isSome := by
      rw [(tree.isDirectory_iff _).1 here]
      rfl
    simpa using tree.find?_of_below stands

/-- Whether there is room for an entry: its directory is there, and it would replace none. -/
def hasRoom
    (tree : FileTree)
    (location : Location) : Bool :=
  tree.isDirectory location.dropLast && !tree.isDirectory location

/-- There is no room in the place of the root. -/
theorem ne_nil_of_hasRoom
    {tree : FileTree}
    {location : Location}
    (room : tree.hasRoom location = true) :
    location ≠ [] := by
  rintro rfl
  simp [hasRoom] at room

/-- There is room below a directory where nothing stands yet, or a file. -/
theorem hasRoom_below
    {tree : FileTree}
    {location : Location}
    (name : Path.Name)
    (here : tree.isDirectory location = true)
    (free : tree.find? (location ++ [name]) ≠ some .directory) :
    tree.hasRoom (location ++ [name]) = true := by
  have occupied : tree.isDirectory (location ++ [name]) = false := by
    simpa [isDirectory] using free
  simp [hasRoom, occupied, (tree.isDirectory_iff _).1 here]

/-- An entry with room for it takes the place of no directory. -/
theorem holdsDirectory_insert
    (tree : FileTree)
    {location other : Location}
    (entry : Entry)
    (room : tree.hasRoom location = true)
    (holds : HoldsDirectory tree.entries other) :
    HoldsDirectory (tree.entries.insert location entry) other := by
  have free : tree.isDirectory location = false := by
    simp only [hasRoom, Bool.and_eq_true, Bool.not_eq_true'] at room
    exact room.2
  have differs : other ≠ location := by
    rintro rfl
    simp [isDirectory, find?_of_holdsDirectory holds] at free
  exact holds.imp id (OrderedMap.get?_insert_of_ne _ _ differs).trans

/-- Entries with one more where there is room stand in directories. -/
theorem rooted_insert
    (tree : FileTree)
    {location : Location}
    (entry : Entry)
    (room : tree.hasRoom location = true) :
    Rooted (tree.entries.insert location entry) := by
  intro above name below
  by_cases new : above ++ [name] = location
  · subst new
    have parent : tree.isDirectory above = true := by
      simp only [hasRoom, Bool.and_eq_true, List.dropLast_concat] at room
      exact room.1
    refine tree.holdsDirectory_insert entry room ?_
    by_cases top : above = []
    · exact .inl top
    · exact .inr (by simpa [find?, top] using parent)
  · rw [OrderedMap.get?_insert_of_ne _ _ new] at below
    exact tree.holdsDirectory_insert entry room (tree.rooted above name below)

/-- The tree with an entry put where there is room. -/
def put
    (tree : FileTree)
    (location : Location)
    (entry : Entry)
    (room : tree.hasRoom location = true) : FileTree where
  entries := tree.entries.insert location entry
  working := tree.working
  rooted := tree.rooted_insert entry room
  inhabited := tree.holdsDirectory_insert entry room tree.inhabited

/-- What stands at a location after an entry was put there. -/
@[simp] theorem find?_put_self
    (tree : FileTree)
    {location : Location}
    (entry : Entry)
    (room : tree.hasRoom location = true) :
    (tree.put location entry room).find? location = some entry := by
  simp [find?, put, ne_nil_of_hasRoom room]

/-- Putting an entry changes no other location. -/
theorem find?_put_of_ne
    (tree : FileTree)
    {location other : Location}
    (entry : Entry)
    (room : tree.hasRoom location = true)
    (h : other ≠ location) :
    (tree.put location entry room).find? other = tree.find? other := by
  simp [find?, put, OrderedMap.get?_insert_of_ne _ _ h]

/-- The most bytes that one name on a path may take. -/
def nameLimit : Nat := 255

/-- The most bytes that a path may take. -/
def pathLimit : Nat := 4095

/-- Whether the system takes a text for a path at all. -/
def accepts (p : Path) : Bool :=
  p.text ≠ "" && !p.text.toList.contains (Char.ofNat 0) && byteLength p.text.toList ≤ pathLimit

/-- Whether the system takes a name. -/
def acceptsName (name : Path.Name) : Bool :=
  byteLength name.text.toList ≤ nameLimit

/-- Where one step leads from a directory; above the root there is nothing but the root. -/
def move
    (location : Location) : Path.Step → Except SystemFault Location
  | .stay => .ok location
  | .up => .ok location.dropLast
  | .down name => if acceptsName name then .ok (location ++ [name]) else .error .badPath

/-- Where a list of steps leads from a location, when everything on the way is a directory. -/
def follow
    (tree : FileTree)
    (location : Location) : List Path.Step → Except SystemFault Location
  | [] => .ok location
  | step :: rest =>
      match tree.find? location with
      | none => .error .notFound
      | some (.file _) => .error .notDirectory
      | some .directory =>
          match move location step with
          | .error fault => .error fault
          | .ok next => follow tree next rest

/-- Steps lead somewhere when the first leaves a directory and the others lead on. -/
theorem follow_cons_eq_ok
    {tree : FileTree}
    {start location : Location}
    {step : Path.Step}
    {rest : List Path.Step} :
    tree.follow start (step :: rest) = .ok location ↔
      tree.find? start = some .directory ∧
        ∃ next, move start step = .ok next ∧ tree.follow next rest = .ok location := by
  cases stands : tree.find? start with
  | none => simp [follow, stands]
  | some entry =>
      cases entry with
      | file bytes => simp [follow, stands]
      | directory => cases moved : move start step <;> simp [follow, stands, moved]

/-- A step down leads to the name below. -/
theorem move_down_eq_ok
    {start location : Location}
    {name : Path.Name} :
    move start (.down name) = .ok location ↔
      acceptsName name = true ∧ location = start ++ [name] := by
  by_cases accepted : acceptsName name = true
  · simp [move, accepted, eq_comm]
  · simp [move, accepted]

/-- Where a path starts. -/
def start
    (tree : FileTree)
    (p : Path) : Location :=
  if p.isAbsolute then [] else tree.working

/-- A path starts in a directory. -/
theorem isDirectory_start
    (tree : FileTree)
    (p : Path) :
    tree.isDirectory (tree.start p) = true := by
  unfold start
  split
  · simp
  · simpa using find?_of_holdsDirectory tree.inhabited

/-- Where the steps of a path lead. -/
def trace
    (tree : FileTree)
    (p : Path) : Except SystemFault Location :=
  tree.follow (tree.start p) p.steps

/-- The location of a path that leads somewhere. -/
def locate
    (tree : FileTree)
    (p : Path) : Except SystemFault Location :=
  if accepts p then
    match tree.trace p with
    | .error fault => .error fault
    | .ok location => if (tree.find? location).isSome then .ok location else .error .notFound
  else
    .error .badPath

/-- What a path leads to. -/
def entryAt?
    (tree : FileTree)
    (p : Path) : Option Entry :=
  match tree.locate p with
  | .ok location => tree.find? location
  | .error _ => none

/-- Whether a path leads to a file or directory. -/
def pathExists
    (tree : FileTree)
    (p : Path) : Bool :=
  (tree.entryAt? p).isSome

/-- The bytes of the file that a path leads to. -/
def read
    (tree : FileTree)
    (p : Path) : Except SystemFault ByteArray :=
  match tree.locate p with
  | .error fault => .error fault
  | .ok location =>
      match tree.find? location with
      | some (.file bytes) => .ok bytes
      | some .directory => .error .isDirectory
      | none => .error .notFound

/-- The text of the file that a path leads to. -/
def readText
    (tree : FileTree)
    (p : Path) : Except SystemFault String :=
  match tree.read p with
  | .error fault => .error fault
  | .ok bytes =>
      match String.fromUTF8? bytes with
      | some text => .ok text
      | none => .error .notText

/-- Follows the steps from a directory and creates the directories that are missing. -/
def createAlong
    (tree : FileTree)
    (location : Location)
    (here : tree.isDirectory location = true) :
    List Path.Step → FileTree × Except SystemFault Location
  | [] => (tree, .ok location)
  | .stay :: rest => createAlong tree location here rest
  | .up :: rest => createAlong tree location.dropLast (tree.isDirectory_dropLast here) rest
  | .down name :: rest =>
      let next := location ++ [name]
      match found : tree.find? next with
      | some .directory => createAlong tree next ((tree.isDirectory_iff next).2 found) rest
      | some (.file _) => (tree, .error .notDirectory)
      | none =>
          if acceptsName name then
            let room := hasRoom_below name here (by simp [next] at found; simp [found])
            createAlong (tree.put next .directory room) next
              (((tree.put next .directory room).isDirectory_iff next).2 (tree.find?_put_self _ room))
              rest
          else (tree, .error .badPath)

/-- Creates the directory at a path with everything on the way; the empty path needs nothing. -/
def createDirectories
    (tree : FileTree)
    (p : Path) : FileTree × Except SystemFault Unit :=
  if p.text = "" then (tree, .ok ())
  else if accepts p then
    match tree.createAlong (tree.start p) (tree.isDirectory_start p) p.steps with
    | (tree, .ok _) => (tree, .ok ())
    | (tree, .error fault) => (tree, .error fault)
  else (tree, .error .badPath)

/-- The place that a path names for a new or replaced file. -/
def place
    (tree : FileTree)
    (p : Path) : Except SystemFault Location :=
  if accepts p then
    match p.steps.getLast? with
    | some (.down name) =>
        match tree.trace p with
        | .error fault => .error fault
        | .ok location =>
            match tree.find? location with
            | some .directory => .error .isDirectory
            | some (.file _) => .ok location
            | none => if acceptsName name then .ok location else .error .badPath
    | _ => .error .isDirectory
  else
    .error .badPath

/-- Steps that go down at the end lead from a directory into it. -/
theorem follow_down
    {tree : FileTree}
    {name : Path.Name}
    {steps : List Path.Step}
    {start location : Location}
    (led : tree.follow start steps = .ok location)
    (down : steps.getLast? = some (.down name)) :
    ∃ above, location = above ++ [name] ∧ tree.isDirectory above = true := by
  induction steps generalizing start with
  | nil => simp at down
  | cons step rest ih =>
      obtain ⟨stands, next, moved, onwards⟩ := follow_cons_eq_ok.1 led
      cases rest with
      | nil =>
          have same : step = .down name := by simpa using down
          subst same
          obtain ⟨-, rfl⟩ := move_down_eq_ok.1 moved
          cases onwards
          exact ⟨start, rfl, (tree.isDirectory_iff start).2 stands⟩
      | cons second rest => exact ih onwards (by simpa using down)

/-- A place for a file has room for it. -/
theorem hasRoom_of_place
    {tree : FileTree}
    {p : Path}
    {location : Location}
    (placed : tree.place p = .ok location) :
    tree.hasRoom location = true := by
  unfold place at placed
  split at placed
  · split at placed
    · rename_i name down
      split at placed
      · cases placed
      · rename_i reached led
        obtain ⟨above, rfl, inDirectory⟩ := follow_down led down
        have free : tree.find? (above ++ [name]) ≠ some .directory := by
          intro occupied
          simp [occupied] at placed
        have same : above ++ [name] = location := by
          split at placed
          · cases placed
          · cases placed
            rfl
          · split at placed
            · cases placed
              rfl
            · cases placed
        exact same ▸ hasRoom_below name inDirectory free
    · cases placed
  · cases placed

/-- Creates or replaces the file at a path whose directory exists. -/
def replaceFile
    (tree : FileTree)
    (p : Path)
    (bytes : ByteArray) : FileTree × Except SystemFault Unit :=
  match placed : tree.place p with
  | .ok location => (tree.put location (.file bytes) (hasRoom_of_place placed), .ok ())
  | .error fault => (tree, .error fault)

/-- Writes a file and creates the directories on the way to it. -/
def write
    (tree : FileTree)
    (p : Path)
    (bytes : ByteArray) : FileTree × Except SystemFault Unit :=
  match p.parent? with
  | none => tree.replaceFile p bytes
  | some parent =>
      match tree.createDirectories parent with
      | (tree, .ok _) => tree.replaceFile p bytes
      | (tree, .error fault) => (tree, .error fault)

/-- The order of locations: name by name, a location before what lies below it. -/
def comesBefore : Location → Location → Bool
  | [], _ => true
  | _ :: _, [] => false
  | a :: as, b :: bs => if a = b then comesBefore as bs else decide (a.text < b.text)

/-- The regular files below a location, as paths from there, in the order of locations. -/
def filesBelow
    (tree : FileTree)
    (location : Location) : List (Location × ByteArray) :=
  (tree.entries.entries.filterMap fun (known, entry) =>
    match location.isPrefixOf? known, entry with
    | some relative, .file bytes => some (relative, bytes)
    | _, _ => none).mergeSort fun a b => comesBefore a.1 b.1

/-- Every regular file below the working directory under its printed path, in the order of the printed
paths. -/
def listing (tree : FileTree) : List (String × ByteArray) :=
  ((tree.filesBelow tree.working).map fun (location, bytes) =>
    ((Path.ofNames location).text, bytes)).mergeSort fun a b => decide (a.1 ≤ b.1)

end FileTree

end Scaffold
