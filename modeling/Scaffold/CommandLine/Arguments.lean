import Scaffold.Text.Pieces

/-!
# Arguments

How the words of a command line are told apart: flags, options with a value, and plain words.

A long name may carry its value behind an equals sign, short names may be written together, and an
option takes the next word unless that looks like a name.  Nothing may be given twice.  The first
word that cannot be understood ends the reading, and so does a request for help or for the version.
-/

namespace Scaffold
namespace CommandLine

open Text

/-- What a name on the command line does; a path must not be empty. -/
inductive SwitchKind where
  | flag
  | path
  | text
  | help
  | version
  deriving DecidableEq

namespace SwitchKind

/-- Whether a value follows the name. -/
def takesValue : SwitchKind → Bool
  | path => true
  | text => true
  | _ => false

end SwitchKind

/-- A name that a command understands. -/
structure Switch where
  long : String
  short : Option Char
  kind : SwitchKind
  deriving DecidableEq

/-- Why the reading of a command line ends early. -/
inductive Interruption where
  | misuse
  | help
  | version
  deriving DecidableEq

/-- What was read from a command line. -/
structure Arguments where
  flags : List String
  options : List (String × String)
  words : List String

namespace Arguments

/-- Nothing read yet. -/
def start : Arguments := ⟨[], [], []⟩

/-- Whether a flag was given. -/
def has
    (a : Arguments)
    (flag : String) : Bool :=
  a.flags.contains flag

/-- The value of an option that was given. -/
def value?
    (a : Arguments)
    (option : String) : Option String :=
  a.options.lookup option

/-- Takes a name without a value. -/
def takeFlag
    (a : Arguments)
    (switch : Switch) : Except Interruption Arguments :=
  match switch.kind with
  | .help => .error .help
  | .version => .error .version
  | .flag =>
      if a.has switch.long then .error .misuse
      else .ok { a with flags := switch.long :: a.flags }
  | _ => .error .misuse

/-- Takes an option with its value. -/
def takeOption
    (a : Arguments)
    (switch : Switch)
    (value : String) : Except Interruption Arguments :=
  if (a.value? switch.long).isSome || (switch.kind = .path && value = "") then .error .misuse
  else .ok { a with options := (switch.long, value) :: a.options }

end Arguments

/-- What was read, and the option whose value is still to come. -/
abbrev Reading := Arguments × Option Switch

/-- Takes a word that starts with two hyphens. -/
def takeLong
    (switches : List Switch)
    (a : Arguments)
    (body : List Char) : Except Interruption Reading :=
  let named := fun (name : List Char) => switches.find? (·.long.toList = name)
  match cutAt? '=' body with
  | some (name, value) =>
      match named name with
      | some switch =>
          if switch.kind.takesValue then
            (a.takeOption switch (String.ofList value)).map fun a => (a, none)
          else .error .misuse
      | none => .error .misuse
  | none =>
      match named body with
      | some switch =>
          if switch.kind.takesValue then .ok (a, some switch)
          else (a.takeFlag switch).map fun a => (a, none)
      | none => .error .misuse

/-- The value that is written right behind a short name. -/
def attachedValue : List Char → String
  | '=' :: value => String.ofList value
  | value => String.ofList value

/-- Takes short names that are written together. -/
def takeShorts
    (switches : List Switch)
    (a : Arguments) : List Char → Except Interruption Reading
  | [] => .ok (a, none)
  | c :: rest =>
      match switches.find? (·.short = some c) with
      | none => .error .misuse
      | some switch =>
          if switch.kind.takesValue then
            if rest = [] then .ok (a, some switch)
            else (a.takeOption switch (attachedValue rest)).map fun a => (a, none)
          else
            match a.takeFlag switch with
            | .ok a => takeShorts switches a rest
            | .error interruption => .error interruption

/-- Whether a word looks like a name, and so is no value of the option before it. -/
def looksLikeName (word : String) : Bool :=
  match word.toList with
  | '-' :: _ :: _ => true
  | _ => false

/-- Reads words up to the first plain one, and hands that one back with the words behind it. -/
def readSwitches
    (switches : List Switch) :
    Reading → List String → Except Interruption (Arguments × List String)
  | (a, none), [] => .ok (a, [])
  | (_, some _), [] => .error .misuse
  | (a, some switch), word :: rest =>
      if looksLikeName word then .error .misuse
      else
        match a.takeOption switch word with
        | .ok a => readSwitches switches (a, none) rest
        | .error interruption => .error interruption
  | (a, none), word :: rest =>
      match word.toList with
      | '-' :: '-' :: [] => .ok (a, word :: rest)
      | '-' :: '-' :: body =>
          match takeLong switches a body with
          | .ok reading => readSwitches switches reading rest
          | .error interruption => .error interruption
      | '-' :: c :: body =>
          match takeShorts switches a (c :: body) with
          | .ok reading => readSwitches switches reading rest
          | .error interruption => .error interruption
      | _ => .ok (a, word :: rest)

/-- Reads switches and at most `limit` plain words, all of which have to be acceptable. -/
def readArguments
    (switches : List Switch)
    (accepts : String → Bool) :
    (limit : Nat) → Arguments → List String → Except Interruption Arguments
  | limit, a, words =>
      match readSwitches switches (a, none) words with
      | .error interruption => .error interruption
      | .ok (a, []) => .ok a
      | .ok (a, "--" :: rest) =>
          if rest.length ≤ limit && rest.all accepts then .ok { a with words := a.words ++ rest }
          else .error .misuse
      | .ok (a, word :: rest) =>
          match limit with
          | 0 => .error .misuse
          | limit + 1 =>
              if accepts word then
                readArguments switches accepts limit { a with words := a.words ++ [word] } rest
              else .error .misuse

end CommandLine
end Scaffold
