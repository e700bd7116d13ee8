import Scaffold.Code.Builder

/-!
# Fragments of code

Code whose shape is known beforehand is described by fragments.  A fragment stands for operations, a
sequence for those of its members.  Fragments can also be emitted into a builder at once; nothing in them
fails, so every scope is closed.
-/

namespace Scaffold
namespace Code

section Fragment

variable {ε π : Type}

/-- A piece of code. -/
inductive Fragment where
  | line (text : String)
  | blank
  | javadoc (text : String)
  | scope (header : String) (body : List Fragment)
  | sequence (members : List Fragment)

namespace Fragment

mutual

/-- The operations that a fragment stands for. -/
def operations : Fragment → List (Operation ε π)
  | line text => [.line text]
  | blank => [.blank]
  | javadoc text => [.javadoc text]
  | scope header body => [.scope header (operationsOf body)]
  | sequence members => operationsOf members

/-- The operations that some fragments stand for. -/
def operationsOf : List Fragment → List (Operation ε π)
  | [] => []
  | fragment :: rest => fragment.operations ++ operationsOf rest

end

end Fragment

end Fragment

namespace Builder

mutual

/-- The builder after a fragment was emitted. -/
def emitOne (b : Builder) : Fragment → Builder
  | .line text => b.write text
  | .blank => b.write ""
  | .javadoc text => b.write ("/** " ++ text ++ " */")
  | .scope header body => (emit (b.enter header) body).leave true
  | .sequence members => emit b members

/-- The builder after some fragments were emitted, one after the other. -/
def emit (b : Builder) : List Fragment → Builder
  | [] => b
  | fragment :: rest => emit (emitOne b fragment) rest

end

end Builder

end Code
end Scaffold
