import Scaffold.Manifest.Entity
import Scaffold.Naming
import Scaffold.Path
import Scaffold.Version

/-!
# Projects

What a manifest says: the settings of the project, the options of the generation, and the modules
with their entities in the order in which they are declared.
-/

namespace Scaffold
namespace Manifest

open Text

/-- The name under which a manifest is looked for and reported. -/
def defaultName : String := "javelin.toml"

/-- Naming and packaging of a project. -/
structure Settings where
  name : String := ""
  version : Version := .initial
  declaredPackage : Option String := none
  description : Option String := none

namespace Settings

/-- The base package: the declared one, or one derived from the name. -/
def package (settings : Settings) : String :=
  settings.declaredPackage.getD
    ("com.example." ++ String.ofList ((Naming.snake settings.name).toList.filter (· ≠ '_')))

/-- The description, or one made from the name. -/
def descriptionOrDefault (settings : Settings) : String :=
  settings.description.getD (settings.name ++ " service")

end Settings

/-- Options of the generation. -/
structure Options where
  demoData : Bool := false
  indent : UInt8 := 2
  useTabs : Bool := false
  controllerSuffix : String := "Controller"
  templates : Option Path := none

/-- A named group of entities. -/
structure Module where
  description : Option String := none
  entities : OrderedMap String Entity := .empty

/-- The whole manifest. -/
structure Project where
  settings : Settings := {}
  options : Options := {}
  modules : OrderedMap String Module := .empty

/-- What tells an entity from all others: the module that declares it and its name. -/
abbrev EntityId := String × String

/-- An entity of a project with the module that declares it. -/
structure Declaration where
  module : String
  name : String
  entity : Entity

namespace Declaration

/-- What tells an entity from all others. -/
def id (d : Declaration) : EntityId :=
  (d.module, d.name)

end Declaration

namespace Project

/-- The entity that a module declares under a name. -/
def declared?
    (project : Project)
    (module name : String) : Option Declaration :=
  match project.modules.get? module with
  | none => none
  | some m => (m.entities.get? name).map fun entity => ⟨module, name, entity⟩

/-- The entities of a module in order. -/
def declarationsOf (entry : String × Module) : List Declaration :=
  entry.2.entities.entries.map fun (name, entity) => ⟨entry.1, name, entity⟩

/-- All entities of a project, module by module, in order. -/
def declarations (project : Project) : List Declaration :=
  project.modules.entries.flatMap declarationsOf

end Project

end Manifest
end Scaffold
