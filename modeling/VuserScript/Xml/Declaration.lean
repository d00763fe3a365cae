/-
  VuserScript.Xml.Declaration

  The XML declaration: a version, then an encoding, then whether the document
  stands alone, of which the last two may be missing. It is read from the
  symbols between `<?xml` and `?>`.
-/
import VuserScript.Xml.Scan

namespace VuserScript.Xml

/-- What a declaration says. -/
structure XmlDeclaration where
  /-- The name of the encoding and where it stands. -/
  encoding : Option (String × Position) := none
  standalone : Bool := false

namespace XmlDeclaration

open Scan

/-- One item: a name and a value, each with its place. -/
structure Item where
  name : List Char
  namePlace : Position
  value : List Char
  valuePlace : Position

/-- The place of the first symbol, or the end. -/
def placeOf (finish : Position) : List Symbol → Position
  | s :: _ => s.place
  | [] => finish

/-- The symbols behind leading spaces. -/
def dropSpaces (symbols : List Symbol) : List Symbol :=
  (takeChars isSpace symbols).2

/-- Whether the first symbol is a space. -/
def spaceAhead : List Symbol → Bool
  | .char c _ _ :: _ => isSpace c
  | _ => false

/-- A character of a value. -/
def isValueChar (c : Char) : Bool :=
  c.isAlphanum || c == '.' || c == '-' || c == '_'

/-- Whether a character has a single byte in UTF-8. -/
def isAscii (c : Char) : Bool :=
  c.toNat < 0x80

/-- The next item, `none` at the end. A fault is told by its place. -/
def item (finish : Position) (symbols : List Symbol) :
    Except Position (Option Item × List Symbol) :=
  if symbols.isEmpty then .ok (none, symbols)
  else if !spaceAhead symbols then .error (placeOf finish symbols)
  else
    let start := dropSpaces symbols
    if start.isEmpty then .ok (none, symbols)
    else
      let (name, rest) := takeChars (fun c => isAscii c && c != '=' && !isSpace c) start
      let equals := dropSpaces rest
      match equals with
      | .char '=' place _ :: rest =>
        if name = [] && !spaceAhead start then .error place
        else
          let rest := dropSpaces rest
          match rest with
          | .char quote place _ :: inner =>
            if quote ≠ '"' ∧ quote ≠ '\'' then .error place
            else
              let (value, rest) := takeChars isValueChar inner
              match rest with
              | .char c place _ :: rest =>
                if c = quote then
                  .ok (some ⟨name, placeOf finish start, value, placeOf finish inner⟩, rest)
                else .error place
              | rest => .error (placeOf finish rest)
          | rest => .error (placeOf finish rest)
      | equals => .error (placeOf finish equals)

/-- The declaration that the symbols write. A fault is told by its place. -/
def parse (finish : Position) (symbols : List Symbol) : Except Position XmlDeclaration := do
  let (version, rest) ← item finish symbols
  let some version := version | throw (placeOf finish symbols)
  if version.name ≠ "version".toList then throw version.namePlace
  let (second, rest) ← item finish rest
  let some second := second | pure {}
  let (encoding, third, rest) ←
    if second.name = "encoding".toList then do
      unless (second.value.head?.any Char.isAlpha) do throw second.valuePlace
      let (third, rest) ← item finish rest
      pure (some (String.ofList second.value, second.valuePlace), third, rest)
    else
      pure (none, some second, rest)
  let some last := third | pure { encoding }
  if last.name ≠ "standalone".toList then throw last.namePlace
  let standalone ←
    if last.value = "yes".toList then pure true
    else if last.value = "no".toList then pure false
    else throw last.valuePlace
  let rest := dropSpaces rest
  if rest.isEmpty then pure { encoding, standalone } else throw (placeOf finish rest)

end XmlDeclaration

end VuserScript.Xml
