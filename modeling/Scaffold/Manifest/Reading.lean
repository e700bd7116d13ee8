import Scaffold.Manifest.Diagnostic
import Scaffold.FileSystem
import Scaffold.Toml.Document

/-!
# Reading a manifest

A document becomes a project: known keys are read in the order of the document and the first failure
is reported, unknown keys are passed over, and a required key that is missing is reported once all
keys present have been read.

A record may also be written as an array that gives its values by position.
-/

namespace Scaffold
namespace Manifest

open Toml (Value)

/-- Why a document is no manifest. -/
inductive Misreading where
  | malformed
  | mismatch
  | version (fault : Version.Fault)
  | fieldType (fault : FieldType.Fault)
  | missingField (name : String)
  | unknownKind (word : String)
  deriving DecidableEq

namespace Misreading

/-- The explanation given to the reader, where the manifest has one of its own. -/
def detail? : Misreading → Option String
  | malformed => none
  | mismatch => none
  | version fault => some fault.message
  | fieldType fault => some fault.message
  | missingField name => some ("missing field \x60" ++ name ++ "\x60")
  | unknownKind word =>
      some ("unknown variant \x60" ++ word ++ "\x60, expected one of " ++
        String.intercalate ", " (EntityKind.all.map fun kind => "\x60" ++ kind.label ++ "\x60"))

end Misreading

/-- The result of reading a value as something. -/
abbrev Read (α : Type) := Except Misreading α

/-- Reads a text. -/
def readText : Value → Read String
  | .text content => .ok content
  | _ => .error .mismatch

/-- Reads a truth value. -/
def readTruth : Value → Read Bool
  | .truth holds => .ok holds
  | _ => .error .mismatch

/-- Reads a number that fits in a byte. -/
def readByte : Value → Read UInt8
  | .integer numeral =>
      match numeral.value? with
      | some number =>
          if 0 ≤ number ∧ number < 256 then .ok (UInt8.ofNat number.toNat) else .error .mismatch
      | none => .error .mismatch
  | _ => .error .mismatch

/-- Reads a version. -/
def readVersion (value : Value) : Read Version := do
  match Version.read (← readText value) with
  | .ok version => return version
  | .error fault => throw (.version fault)

/-- Reads a field type. -/
def readFieldType (value : Value) : Read FieldType := do
  match FieldType.read (← readText value) with
  | .ok type => return type
  | .error fault => throw (.fieldType fault)

/-- Reads an array of texts. -/
def readTexts : Value → Read (List String)
  | .array items => items.mapM readText
  | _ => .error .mismatch

/-- Passes over the value of an unknown key; a number that nothing can hold is refused even there. -/
def passOver (value : Value) : Read Unit :=
  if value.isRepresentable then .ok () else .error .mismatch

/-- Reads a table with any keys into a map. -/
def readMap
    {α : Type}
    (readItem : Value → Read α)
    (value : Value) : Read (OrderedMap String α) :=
  match value.entries? with
  | some entries =>
      entries.foldlM (fun m (name, value) => return m.insert name (← readItem value)) .empty
  | none => .error .mismatch

/-- A record under construction with the names of the fields that have been read. -/
structure Partial (α : Type) where
  record : α
  present : List String

/-- How a record is read: its fields in order, how one of them is read into the record, how many of
the first fields an array has to give, and which field a table has to give. -/
structure RecordShape (α : Type) where
  fields : List String
  readField : α → String → Value → Read α
  leastItems : Nat
  required : List String

namespace RecordShape

variable {α : Type}

/-- Reads one entry of a record. -/
def readEntry
    (shape : RecordShape α)
    (draft : Partial α)
    (entry : String × Value) : Read (Partial α) :=
  if shape.fields.contains entry.1 then do
    let record ← shape.readField draft.record entry.1 entry.2
    return ⟨record, entry.1 :: draft.present⟩
  else do
    passOver entry.2
    return draft

/-- Reads the entries of a table as a record. -/
def readEntries
    (shape : RecordShape α)
    (initial : α)
    (entries : List (String × Value)) : Read α := do
  let draft ← entries.foldlM shape.readEntry ⟨initial, []⟩
  match shape.required.find? (!draft.present.contains ·) with
  | some name => throw (.missingField name)
  | none => return draft.record

/-- Reads the items of an array as a record. -/
def readItems
    (shape : RecordShape α)
    (initial : α)
    (items : List Value) : Read α := do
  let draft ← (shape.fields.zip items).foldlM shape.readEntry ⟨initial, []⟩
  if items.length < shape.leastItems then throw .mismatch else return draft.record

/-- Reads a record, starting from the values of fields that are not given. -/
def read
    (shape : RecordShape α)
    (initial : α)
    (value : Value) : Read α :=
  match value, value.entries? with
  | .array items, _ => shape.readItems initial items
  | _, some entries => shape.readEntries initial entries
  | _, none => .error .mismatch

end RecordShape

/-- The settings of a project in a manifest. -/
def settingsShape : RecordShape Settings where
  fields := ["name", "version", "package", "description"]
  readField settings name value := do
    match name with
    | "name" => return { settings with name := ← readText value }
    | "version" => return { settings with version := ← readVersion value }
    | "package" => return { settings with declaredPackage := some (← readText value) }
    | _ => return { settings with description := some (← readText value) }
  leastItems := 4
  required := []

/-- The options of the generation in a manifest. -/
def optionsShape : RecordShape Options where
  fields := ["demo_data", "indent", "use_tabs", "controller_suffix", "templates"]
  readField options name value := do
    match name with
    | "demo_data" => return { options with demoData := ← readTruth value }
    | "indent" => return { options with indent := ← readByte value }
    | "use_tabs" => return { options with useTabs := ← readTruth value }
    | "controller_suffix" => return { options with controllerSuffix := ← readText value }
    | _ => return { options with templates := some ⟨← readText value⟩ }
  leastItems := 0
  required := []

/-- The kind that a word names. -/
def kindOfWord (word : String) : Read EntityKind :=
  match EntityKind.read? word with
  | some kind => .ok kind
  | none => .error (.unknownKind word)

/-- Reads a kind: its word, or a table that maps its word to nothing. -/
def readKind : Value → Read EntityKind
  | .text word => kindOfWord word
  | .table [(word, content)] => do
      let kind ← kindOfWord word
      match content with
      | .array [] => return kind
      | .table [] => return kind
      | _ => throw .mismatch
  | _ => .error .mismatch

/-- An entity in a manifest. -/
def entityShape : RecordShape Entity where
  fields := ["kind", "abstract", "method", "path", "response", "fields", "values", "description"]
  readField entity name value := do
    match name with
    | "kind" => return { entity with kind := ← readKind value }
    | "abstract" => return { entity with isAbstract := ← readTruth value }
    | "method" => return { entity with method := some (← readText value) }
    | "path" => return { entity with path := some (← readText value) }
    | "response" => return { entity with response := some (← readText value) }
    | "fields" => return { entity with fields := ← readMap readFieldType value }
    | "values" => return { entity with values := ← readTexts value }
    | _ => return { entity with description := some (← readText value) }
  leastItems := 8
  required := ["kind"]

/-- A module in a manifest. -/
def moduleShape : RecordShape Module where
  fields := ["description", "entities"]
  readField module name value := do
    match name with
    | "description" => return { module with description := some (← readText value) }
    | _ =>
        return { module with entities := ← readMap (entityShape.read { kind := .data }) value }
  leastItems := 1
  required := []

/-- A project in a manifest. -/
def projectShape : RecordShape Project where
  fields := ["project", "generate", "modules"]
  readField project name value := do
    match name with
    | "project" => return { project with settings := ← settingsShape.read {} value }
    | "generate" => return { project with options := ← optionsShape.read {} value }
    | _ => return { project with modules := ← readMap (moduleShape.read {}) value }
  leastItems := 1
  required := ["project"]

/-- Reads the project that a document describes, without checking it. -/
def readProject (text : String) : Read Project :=
  match Toml.read? text with
  | none => .error .malformed
  | some entries => projectShape.readEntries {} entries

/-- Why a manifest is refused. -/
inductive Refusal where
  | unreadable (path : Path)
  | misread (cause : Misreading)
  | violated (violation : Violation)

/-- What the reader is told about a refused manifest. -/
structure Diagnostic where
  message : String
  sourceName : Option String
  code : Option String
  help : Option String
  labels : List (String × Span)

namespace Refusal

/-- What the reader is told about a refused manifest. -/
def diagnostic
    (source : Source) : Refusal → Diagnostic
  | unreadable path =>
      { message := "failed to read '" ++ path.text ++ "'"
        sourceName := none
        code := none
        help := some "pass the manifest location with '--config <path>'"
        labels := [] }
  | misread _ =>
      { message := "failed to parse " ++ defaultName
        sourceName := some source.name
        code := some "javelin::parse_error"
        help := none
        labels := [] }
  | violated violation =>
      { message := violation.message
        sourceName := some source.name
        code := some violation.code
        help := violation.help?
        labels := ((violation.span? source).map fun span => (violation.label, span)).toList }

end Refusal

/-- Reads and checks the manifest with a text. -/
def load (text : String) : Except Refusal Project :=
  match readProject text with
  | .error cause => .error (.misread cause)
  | .ok project =>
      match project.violation? with
      | some violation => .error (.violated violation)
      | none => .ok project

/-- Reads and checks the manifest that a path leads to, and hands back its text. -/
def loadFileOn
    {m : Type → Type}
    [Monad m]
    (system : FileSystem m)
    (path : Path) : m (Source × Except Refusal Project) := do
  match ← system.readText path with
  | .ok text => return (⟨text, path.text⟩, load text)
  | .error _ => return (⟨"", path.text⟩, .error (.unreadable path))

/-- Reads and checks the manifest that a path leads to in a tree. -/
def loadFile
    (tree : FileTree)
    (path : Path) : Source × Except Refusal Project :=
  (FileTree.run (loadFileOn FileTree.system path) tree).2

end Manifest
end Scaffold
