import Scaffold.Toml.Reader

/-!
# Quoted texts

The four kinds of quoted text: in double quotes with escapes, in single quotes as it stands, and
each of the two over several lines between triple quotes.

Between triple quotes a line end right after the opening is dropped, up to two quotes may stand
before the closing, and in the kind with escapes a backslash at the end of a line joins it with the
next text.  Line ends are kept as they are written.
-/

namespace Scaffold
namespace Toml

open Text

/-- The character with a code, unless the code belongs to no character. -/
def charOfCode? (code : Nat) : Option Char :=
  if code.isValidChar then some (Char.ofNat code) else none

/-- Where a machine that reads a text with escapes stands. -/
inductive Escaping where
  | plain
  | escape
  | code (missing value : Nat)
  | quotes (count : Nat)
  | carriageReturn
  | lineTail
  | lineTailReturn
  | joining
  | joiningReturn

/-- What the character behind a backslash stands for: a character, or a code of so many digits. -/
def escape? (c : Char) : Option (Char ⊕ Nat) :=
  match c with
  | 'b' => some (.inl (Char.ofNat 0x08))
  | 't' => some (.inl '\t')
  | 'n' => some (.inl '\n')
  | 'f' => some (.inl (Char.ofNat 0x0C))
  | 'r' => some (.inl '\r')
  | 'e' => some (.inl (Char.ofNat 0x1B))
  | '"' => some (.inl '"')
  | '\\' => some (.inl '\\')
  | 'x' => some (.inr 2)
  | 'u' => some (.inr 4)
  | 'U' => some (.inr 8)
  | _ => none

/-- The move behind a backslash. -/
def moveInEscape (c : Char) : Option (Move Escaping) :=
  match escape? c with
  | some (.inl plain) => some (.take [plain] .plain)
  | some (.inr digits) => some (.take [] (.code digits 0))
  | none => none

/-- The move inside the digits of a character code. -/
def moveInCode
    (missing value : Nat)
    (c : Char) : Option (Move Escaping) :=
  match hexDigit? c with
  | none => none
  | some digit =>
      let value := value * 16 + digit
      if missing ≤ 1 then (charOfCode? value).map fun plain => .take [plain] .plain
      else some (.take [] (.code (missing - 1) value))

/-- The moves inside double quotes. -/
def moveInBasic : Escaping → Char → Option (Move Escaping)
  | .escape, c => moveInEscape c
  | .code missing value, c => moveInCode missing value c
  | _, '"' => some (.close [])
  | _, '\\' => some (.take [] .escape)
  | _, c => if isPrintable c then some (.take [c] .plain) else none

/-- Reads the text behind an opening double quote. -/
def basicText : Reader (List Char) :=
  scan moveInBasic (fun _ => none) .plain

/-- The moves inside single quotes. -/
def moveInLiteral : Unit → Char → Option (Move Unit)
  | _, '\'' => some (.close [])
  | _, c => if isPrintable c then some (.take [c] ()) else none

/-- Reads the text behind an opening single quote. -/
def literalText : Reader (List Char) :=
  scan moveInLiteral (fun _ => none) ()

/-- The most quotes that may stand together before a text in triple quotes is over. -/
def quoteLimit : Nat := 5

/-- The move at one more quote of the kind that closes the text. -/
def moveAtQuote
    (quote : Char)
    (count : Nat) : Move Escaping :=
  if count + 1 = quoteLimit then .close [quote, quote] else .take [] (.quotes (count + 1))

/-- The move at a character that is no quote, after `count` quotes. -/
def moveBehindQuotes
    (quote : Char)
    (count : Nat)
    (move : Option (Move Escaping)) : Option (Move Escaping) :=
  if 3 ≤ count then some (.stopBefore (List.replicate (count - 3) quote))
  else
    match move with
    | some (.take output next) => some (.take (List.replicate count quote ++ output) next)
    | _ => none

/-- The move at an ordinary character between triple double quotes. -/
def moveAtPlain (c : Char) : Option (Move Escaping) :=
  match c with
  | '\\' => some (.take [] .escape)
  | '\n' => some (.take ['\n'] .plain)
  | '\r' => some (.take [] .carriageReturn)
  | c => if isPrintable c then some (.take [c] .plain) else none

/-- The moves between triple double quotes. -/
def moveInLongBasic : Escaping → Char → Option (Move Escaping)
  | .escape, c =>
      if c = '\n' then some (.take [] .joining)
      else if c = '\r' then some (.take [] .lineTailReturn)
      else if isSpace c then some (.take [] .lineTail)
      else moveInEscape c
  | .code missing value, c => moveInCode missing value c
  | .carriageReturn, c => if c = '\n' then some (.take ['\r', '\n'] .plain) else none
  | .lineTail, c =>
      if c = '\n' then some (.take [] .joining)
      else if c = '\r' then some (.take [] .lineTailReturn)
      else if isSpace c then some (.take [] .lineTail)
      else none
  | .lineTailReturn, c => if c = '\n' then some (.take [] .joining) else none
  | .joiningReturn, c => if c = '\n' then some (.take [] .joining) else none
  | .joining, c =>
      if c = '\n' || isSpace c then some (.take [] .joining)
      else if c = '\r' then some (.take [] .joiningReturn)
      else if c = '"' then some (moveAtQuote '"' 0)
      else moveAtPlain c
  | .plain, c => if c = '"' then some (moveAtQuote '"' 0) else moveAtPlain c
  | .quotes count, c =>
      if c = '"' then some (moveAtQuote '"' count) else moveBehindQuotes '"' count (moveAtPlain c)

/-- What is left to write when the document ends: nothing but quotes that closed the text. -/
def quotesAtEnd
    (quote : Char) : Escaping → Option (List Char)
  | .quotes count => if 3 ≤ count then some (List.replicate (count - 3) quote) else none
  | _ => none

/-- The move at an ordinary character between triple single quotes. -/
def moveAtLiteral (c : Char) : Option (Move Escaping) :=
  match c with
  | '\n' => some (.take ['\n'] .plain)
  | '\r' => some (.take [] .carriageReturn)
  | c => if isPrintable c then some (.take [c] .plain) else none

/-- The moves between triple single quotes. -/
def moveInLongLiteral : Escaping → Char → Option (Move Escaping)
  | .carriageReturn, c => if c = '\n' then some (.take ['\r', '\n'] .plain) else none
  | .quotes count, c =>
      if c = '\'' then some (moveAtQuote '\'' count)
      else moveBehindQuotes '\'' count (moveAtLiteral c)
  | _, c => if c = '\'' then some (moveAtQuote '\'' 0) else moveAtLiteral c

/-- The text without the line end at its front. -/
def dropFirstLineEnd (cs : List Char) : List Char :=
  (lineEnd? cs).getD cs

/-- Reads the text behind three opening double quotes. -/
def longBasicText (cs : List Char) : Option (List Char × List Char) :=
  scan moveInLongBasic (quotesAtEnd '"') .plain (dropFirstLineEnd cs)

/-- Reads the text behind three opening single quotes. -/
def longLiteralText (cs : List Char) : Option (List Char × List Char) :=
  scan moveInLongLiteral (quotesAtEnd '\'') .plain (dropFirstLineEnd cs)

end Toml
end Scaffold
