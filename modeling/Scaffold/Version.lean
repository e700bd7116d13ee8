import Scaffold.Text.Decimal
import Scaffold.Text.Pieces

/-!
# Versions

A version has three components, written with dots in between.  Reading accepts a leading plus sign
and leading zeros in a component and rejects anything beyond 32 bits; versions compare by their
components from the left.
-/

namespace Scaffold

open Text

/-- A version of the described project. -/
structure Version where
  major : UInt32
  minor : UInt32
  patch : UInt32
  deriving DecidableEq, Ord

namespace Version

/-- The version of a project that names none. -/
def initial : Version := ⟨0, 1, 0⟩

/-- The components of a version. -/
inductive Part where
  | major
  | minor
  | patch
  deriving DecidableEq

namespace Part

/-- The word for a component. -/
def label : Part → String
  | major => "major"
  | minor => "minor"
  | patch => "patch"

end Part

/-- Why a text is no version. -/
inductive Fault where
  | shape (text : String)
  | component (part : Part) (text : String)
  deriving DecidableEq

namespace Fault

/-- The explanation given to the reader. -/
def message : Fault → String
  | shape text => "invalid version '" ++ text ++ "', expected 'X.Y.Z'"
  | component part text => "invalid " ++ part.label ++ " component '" ++ text ++ "' in version"

end Fault

/-- The text of a version. -/
def render (v : Version) : String :=
  decimal v.major.toNat ++ "." ++ decimal v.minor.toNat ++ "." ++ decimal v.patch.toNat

/-- The number written by digits, after an optional plus sign. -/
def componentValue? : List Char → Option Nat
  | '+' :: digits => readDecimal? digits
  | digits => readDecimal? digits

/-- Reads one component. -/
def readComponent
    (part : Part)
    (text : String) : Except Fault UInt32 :=
  match componentValue? text.toList with
  | some n => if n < UInt32.size then .ok (UInt32.ofNat n) else .error (.component part text)
  | none => .error (.component part text)

/-- Reads a version. -/
def read (text : String) : Except Fault Version :=
  match pieces '.' text with
  | [major, minor, patch] => do
      let major ← readComponent .major major
      let minor ← readComponent .minor minor
      let patch ← readComponent .patch patch
      return ⟨major, minor, patch⟩
  | _ => .error (.shape text)

/-- Whether one version comes no later than another. -/
def precedes (a b : Version) : Bool :=
  (compare a b).isLE

end Version
end Scaffold
