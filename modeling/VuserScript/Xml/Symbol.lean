/-
  VuserScript.Xml.Symbol

  What a document is made of before it is cut into tokens: characters, each
  with its place, and the spots where the bytes are no character.
-/
import VuserScript.Xml.NameChar
import VuserScript.Xml.Position

namespace VuserScript.Xml

/-- One step of decoding; widths count code units of the encoding. -/
inductive Reading where
  | char (c : Char) (width : Nat)
  /-- A unit that belongs to no character of a document; `leading` if a character of several
  units could start with it. -/
  | malformed (leading : Bool)
  /-- A character cut off by the end of the input. -/
  | truncated (width : Nat)
  /-- A byte that is too short for a code unit. -/
  | stray
  deriving DecidableEq, Repr

/-- A reading and its place. -/
inductive Symbol where
  | char (c : Char) (place : Position) (width : Nat)
  | malformed (place : Position) (leading : Bool)
  | truncated (place : Position) (width : Nat)
  | stray (place : Position)
  deriving DecidableEq, Repr

namespace Symbol

/-- Where a symbol stands. -/
def place : Symbol → Position
  | char _ p _ | malformed p _ | truncated p _ | stray p => p

/-- How many code units a symbol takes. -/
def width : Symbol → Nat
  | char _ _ w | truncated _ w => w
  | malformed _ _ => 1
  | stray _ => 0

/-- The character of a symbol that is one. -/
def char? : Symbol → Option Char
  | char c _ _ => some c
  | _ => none

end Symbol

/-- A text in decoded form: its symbols, the place behind the last one, and what its encoding
makes of names. -/
structure Source where
  alphabet : Alphabet
  symbols : List Symbol
  finish : Position

/-- Gives each reading its place. A line feed behind a carriage return adds no line. -/
def Source.ofReadings (alphabet : Alphabet) (p : Position) (afterReturn : Bool) :
    List Reading → Source
  | [] => ⟨alphabet, [], p⟩
  | .char c w :: rest =>
    let next := if c = '\n' ∧ afterReturn then p else p.after c
    let source := ofReadings alphabet next (c == '\r') rest
    { source with symbols := .char c p w :: source.symbols }
  | .malformed leading :: rest =>
    let source := ofReadings alphabet (p.after ' ') false rest
    { source with symbols := .malformed p leading :: source.symbols }
  | .truncated w :: rest =>
    let source := ofReadings alphabet (p.after ' ') false rest
    { source with symbols := .truncated p w :: source.symbols }
  | .stray :: rest =>
    let source := ofReadings alphabet p false rest
    { source with symbols := .stray p :: source.symbols }

/-- A text all of whose symbols stand at one place, as the replacement of a reference does. It is
read as if it were encoded in UTF-8. -/
def Source.at (p : Position) (text : List Char) : Source :=
  ⟨.utf8, text.map fun c => .char c p c.utf8Size, p⟩

/-- A character that may stand in a document: no surrogate, no control character but tab, line
feed and carriage return, and neither U+FFFE nor U+FFFF. -/
def isXmlChar (c : Char) : Bool :=
  let n := c.toNat
  if n < 0x20 then n == 0x09 || n == 0x0A || n == 0x0D else n != 0xFFFE && n != 0xFFFF

/-- The reading of a character that takes some code units. -/
def Reading.ofChar (c : Char) (width : Nat) : Reading :=
  if isXmlChar c then .char c width else .malformed false

end VuserScript.Xml
