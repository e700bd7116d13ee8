import Scaffold.Artifact
import Scaffold.Manifest.Project

/-!
# Templates

The files that a service needs besides its sources.  They come from a tree of the program's own or
from a directory, are written once and belong to the user from then on.  In the files that describe
the project, placeholders give way to its name, version, package and description; every other file
is copied byte for byte.
-/

namespace Scaffold

open Text
open Manifest (Project)

/-- The values that placeholders give way to. -/
structure Tokens where
  name : String
  version : String
  package : String
  description : String

namespace Tokens

/-- The values of a project. -/
def ofProject (project : Project) : Tokens :=
  ⟨project.settings.name, project.settings.version.render, project.settings.package,
    project.settings.descriptionOrDefault⟩

/-- The placeholder with a name. -/
def placeholder (name : String) : String :=
  "\x7b\x7b" ++ name ++ "\x7d\x7d"

/-- The placeholders and their values, in the order in which they are replaced. -/
def substitutions (tokens : Tokens) : List (String × String) :=
  [(placeholder "name", tokens.name), (placeholder "version", tokens.version),
   (placeholder "package", tokens.package), (placeholder "description", tokens.description)]

/-- The text with one placeholder after the other replaced everywhere. -/
def substitute
    (tokens : Tokens)
    (text : String) : String :=
  tokens.substitutions.foldl (fun text (mark, value) => replace mark value text) text

end Tokens

namespace Template

/-- The names of the files in which placeholders are replaced. -/
def substitutedNames : List String :=
  ["pom.xml", "application.properties", "README.md"]

/-- Whether placeholders are replaced in the file at a path. -/
def isSubstituted (path : Path) : Bool :=
  match path.fileName? with
  | some name => substitutedNames.contains name
  | none => false

/-- A text of complete lines. -/
def ofLines (lines : List String) : String :=
  String.join (lines.map (· ++ "\n"))

/-- The build description. -/
def projectFile : String :=
  ofLines
  [
   "<?xml version=\"1.0\" encoding=\"UTF-8\"?>",
   "<project xmlns=\"http://maven.apache.org/POM/4.0.0\"",
   "         xmlns:xsi=\"http://www.w3.org/2001/XMLSchema-instance\"",
   "         xsi:schemaLocation=\"http://maven.apache.org/POM/4.0.0 https://maven.apache.org/xsd/maven-4.0.0.xsd\">",
   "  <modelVersion>4.0.0</modelVersion>",
   "",
   "  <parent>",
   "    <groupId>org.springframework.boot</groupId>",
   "    <artifactId>spring-boot-starter-parent</artifactId>",
   "    <version>3.3.4</version>",
   "    <relativePath/>",
   "  </parent>",
   "",
   "  <groupId>\x7b\x7bpackage\x7d\x7d</groupId>",
   "  <artifactId>\x7b\x7bname\x7d\x7d</artifactId>",
   "  <version>\x7b\x7bversion\x7d\x7d</version>",
   "  <name>\x7b\x7bname\x7d\x7d</name>",
   "  <description>\x7b\x7bdescription\x7d\x7d</description>",
   "",
   "  <properties>",
   "    <java.version>17</java.version>",
   "  </properties>",
   "",
   "  <dependencies>",
   "    <dependency>",
   "      <groupId>org.springframework.boot</groupId>",
   "      <artifactId>spring-boot-starter-web</artifactId>",
   "    </dependency>",
   "    <dependency>",
   "      <groupId>org.springframework.boot</groupId>",
   "      <artifactId>spring-boot-starter-test</artifactId>",
   "      <scope>test</scope>",
   "    </dependency>",
   "  </dependencies>",
   "",
   "  <build>",
   "    <plugins>",
   "      <plugin>",
   "        <groupId>org.springframework.boot</groupId>",
   "        <artifactId>spring-boot-maven-plugin</artifactId>",
   "      </plugin>",
   "    </plugins>",
   "  </build>",
   "</project>"]

/-- The configuration of the running service. -/
def propertiesFile : String :=
  ofLines
  [
   "spring.application.name=\x7b\x7bname\x7d\x7d",
   "server.port=8080",
   "logging.level.\x7b\x7bpackage\x7d\x7d=INFO"]

/-- The description for people. -/
def readmeFile : String :=
  ofLines
  [
   "# \x7b\x7bname\x7d\x7d",
   "",
   "\x7b\x7bdescription\x7d\x7d",
   "",
   "Version \x7b\x7bversion\x7d\x7d. Sources live under the \x60\x7b\x7bpackage\x7d\x7d\x60 package.",
   "",
   "## Running",
   "",
   "\x60\x60\x60sh",
   "mvn spring-boot:run",
   "\x60\x60\x60",
   "",
   "Controllers under \x60controller/\x60 and models under \x60model/\x60 are regenerated by",
   "\x60javelin generate\x60. Put hand-written code in other packages."]

/-- The files that version control leaves out. -/
def ignoreFile : String :=
  ofLines
  [
   "# Build output",
   "target/",
   "",
   "# IDE",
   ".idea/",
   "*.iml",
   ".vscode/",
   "",
   "# OS",
   ".DS_Store"]

/-- The tree of the program's own. -/
def builtIn : List (Path × String) :=
  [(⟨"pom.xml"⟩, projectFile),
   (⟨"src/main/resources/application.properties"⟩, propertiesFile),
   (⟨"README.md"⟩, readmeFile),
   (⟨".gitignore"⟩, ignoreFile)]

/-- The artifact of a template file. -/
def artifact
    (path : Path)
    (content : Content) : Artifact :=
  ⟨path, .ok content, .once⟩

/-- The artifact of a file of the program's own tree. -/
def builtInArtifact
    (tokens : Tokens)
    (file : Path × String) : Artifact :=
  artifact file.1
    (.text (if isSubstituted file.1 then tokens.substitute file.2 else file.2))

/-- The content that the bytes of a template file become, unless they should be text and are not. -/
def contentOf?
    (tokens : Tokens)
    (path : Path)
    (bytes : ByteArray) : Option Content :=
  if isSubstituted path then
    (String.fromUTF8? bytes).map fun text => .text (tokens.substitute text)
  else some (.ofBytes bytes)

/-- The artifact of a file in a template directory, given by its names from there. -/
def directoryArtifact
    (tokens : Tokens)
    (directory : Path)
    (file : Location × ByteArray) : Except Failure Artifact :=
  let path := Path.ofNames file.1
  match contentOf? tokens path file.2 with
  | some content => .ok (artifact path content)
  | none => .error (.unreadableTemplate (directory.extend file.1))

/-- The artifacts of what a walk through a template directory comes upon, in its order. -/
def walkArtifacts
    (tokens : Tokens)
    (directory : Path) : List Visit → Except Failure (List Artifact)
  | [] => .ok []
  | .fault :: _ => .error (.unreadableTemplates directory)
  | .other _ :: rest => walkArtifacts tokens directory rest
  | .file names none :: _ => .error (.unreadableTemplate (directory.extend names))
  | .file names (some bytes) :: rest =>
      match directoryArtifact tokens directory (names, bytes) with
      | .error failure => .error failure
      | .ok artifact => (walkArtifacts tokens directory rest).map (artifact :: ·)

/-- The artifacts of the files in a template directory of a tree. -/
def directoryArtifacts
    (tree : FileTree)
    (directory : Path)
    (tokens : Tokens) : Except Failure (List Artifact) :=
  walkArtifacts tokens directory (tree.visits directory)

/-- A walk that comes upon files alone gives their artifacts one after the other. -/
theorem walkArtifacts_files
    (tokens : Tokens)
    (directory : Path)
    (files : List (Location × ByteArray)) :
    walkArtifacts tokens directory (files.map fun (names, bytes) => .file names (some bytes)) =
      files.mapM (directoryArtifact tokens directory) := by
  induction files with
  | nil => rfl
  | cons file files ih =>
      rw [List.map_cons, walkArtifacts, List.mapM_cons, ih]
      cases directoryArtifact tokens directory file with
      | error failure => rfl
      | ok artifact => cases files.mapM (directoryArtifact tokens directory) <;> rfl

/-- The files in a template directory of a tree come in the order of their locations. -/
theorem directoryArtifacts_eq
    (tree : FileTree)
    (directory : Path)
    (tokens : Tokens) :
    directoryArtifacts tree directory tokens =
      match tree.locate directory with
      | .error _ => .error (.unreadableTemplates directory)
      | .ok location => (tree.filesBelow location).mapM (directoryArtifact tokens directory) := by
  unfold directoryArtifacts FileTree.visits
  cases tree.locate directory with
  | error fault => rfl
  | ok location => exact walkArtifacts_files tokens directory _

end Template

/-- Where template files come from. -/
inductive TemplateSource where
  | builtIn
  | directory (path : Path)
  deriving DecidableEq

namespace TemplateSource

/-- The source that a project chooses; a relative directory is seen from `base`. -/
def ofProject
    (project : Project)
    (base : Path) : TemplateSource :=
  match project.options.templates with
  | some path => directory (base.join path)
  | none => builtIn

/-- The artifacts of the template files. -/
def artifactsOn
    {m : Type → Type}
    [Monad m]
    (system : FileSystem m)
    (source : TemplateSource)
    (tokens : Tokens) : m (Except Failure (List Artifact)) :=
  match source with
  | builtIn => return .ok (Template.builtIn.map (Template.builtInArtifact tokens))
  | directory path => return Template.walkArtifacts tokens path (← system.walk path)

/-- The artifacts of the template files when a walk comes upon something. -/
def artifactsOf
    (source : TemplateSource)
    (tokens : Tokens)
    (visits : Path → List Template.Visit) : Except Failure (List Artifact) :=
  match source with
  | builtIn => .ok (Template.builtIn.map (Template.builtInArtifact tokens))
  | directory path => Template.walkArtifacts tokens path (visits path)

/-- The artifacts of the template files in a tree. -/
def artifacts
    (source : TemplateSource)
    (tree : FileTree)
    (tokens : Tokens) : Except Failure (List Artifact) :=
  source.artifactsOf tokens tree.visits

theorem run_artifactsOn
    (look : FileTree → Path → List Template.Visit)
    (source : TemplateSource)
    (tokens : Tokens)
    (tree : FileTree) :
    FileTree.run (source.artifactsOn (FileTree.systemSeeing look) tokens) tree =
      (tree, source.artifactsOf tokens (look tree)) := by
  cases source <;> rfl

end TemplateSource

end Scaffold
