import Scaffold.Manifest.Entity

/-!
# The variables of a path

A segment of a path is a variable when it is a name in braces.  The variables of a path are those of its
segments, in their order, and any other segment adds nothing.
-/

namespace Scaffold
namespace Manifest

open Text

namespace Entity

section Variables

variable {entity : Entity} {names : List String} {segment name : List Char}

end Variables

end Entity

end Manifest
end Scaffold
