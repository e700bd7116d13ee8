import Scaffold.Main
import Scaffold.Java.OpenUnit
import Scaffold.Proofs.Code.Braces
import Scaffold.Proofs.Code.Depth
import Scaffold.Proofs.Generator.Containment
import Scaffold.Proofs.Generator.HandlerVariables
import Scaffold.Proofs.Generator.ModelClasses
import Scaffold.Proofs.Generator.ModelImports
import Scaffold.Proofs.Generator.UsableNames
import Scaffold.Proofs.Generator.FailureCauses
import Scaffold.Proofs.FileTree.Rewriting
import Scaffold.Proofs.Generator.Regeneration
import Scaffold.Proofs.Generator.History
import Scaffold.Proofs.Java.Locality
import Scaffold.Proofs.Generator.Locality
import Scaffold.Proofs.Java.ControllerSource
import Scaffold.Proofs.Reports.Remarks
import Scaffold.Proofs.Reports.Accounting
import Scaffold.Proofs.Manifest.ResolutionRule
import Scaffold.Proofs.Manifest.Rearrangement
import Scaffold.Proofs.Generator.FileLayout
import Scaffold.Proofs.Java.OpenLayout
import Scaffold.Proofs.Java.EnumConstants
import Scaffold.Proofs.Java.ControllerHandlers
import Scaffold.Proofs.Manifest.FieldTypeGrammar
import Scaffold.Proofs.Naming.CaseLaws
import Scaffold.Proofs.Manifest.Versions
import Scaffold.Proofs.Template.Placeholders
import Scaffold.Proofs.Template.Directory
import Scaffold.Proofs.Generator.Writing
import Scaffold.Proofs.Manifest.Labels
import Scaffold.Proofs.Java.NestedTypes
import Scaffold.Proofs.Java.FreeText
import Scaffold.Proofs.Java.DepthFirst
