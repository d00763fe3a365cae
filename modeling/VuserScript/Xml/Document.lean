/-
  VuserScript.Xml.Document

  Reading a whole document: from a text, or from bytes whose encoding is told
  by their first two or three bytes and by the XML declaration.
-/
import VuserScript.Xml.Declaration
import VuserScript.Xml.Doctype.Grammar
import VuserScript.Xml.Encoding.Catalogue
import VuserScript.Xml.Tree

namespace VuserScript.Xml.Document

open Scan

/-! ## From symbols to the tree -/

/-- What may stand behind the document element: white space, comments and processing
instructions. -/
def checkEpilog : List (Lexeme PrologToken) → Except Malformed Unit
  | [] => .ok ()
  | ⟨token, place, _⟩ :: lexemes =>
    match token with
    | .space | .comment | .instruction => checkEpilog lexemes
    | .finish => .ok ()
    | .fault problem => .error problem
    | _ => .error ⟨.junkAfterElement, place⟩

/-- Reads a document of some size behind its declaration. -/
def ofSource (size : Nat) (standalone : Bool) (source : Source) : Except Malformed Element := do
  let d : Declarations := { standalone, allowed := allowedExpansion size }
  let prolog ← Prolog.ofTokens source.alphabet d .before source.prologTokens
  let (root, rest) ← Tree.ofSource prolog.declarations { source with symbols := prolog.rest }
  checkEpilog (Source.prologTokens { source with symbols := rest })
  pure root

/-! ## The start of a document -/

/-- The declaration that a document starts with, and the symbols behind it. -/
def declaration? (source : Source) :
    Except Malformed (Option (XmlDeclaration × List Symbol)) :=
  match source.symbols with
  | .char '<' start _ :: .char '?' _ _ :: rest =>
    match instruction.start source.alphabet rest with
    | .error stop => .error (stop.malformed start)
    | .ok (false, _) => .ok none
    | .ok (true, after) =>
      let inner := (rest.drop 3).take (rest.length - after.length - 5)
      let finish := XmlDeclaration.placeOf source.finish (rest.drop (3 + inner.length))
      match XmlDeclaration.parse finish inner with
      | .ok declaration => .ok (some (declaration, after))
      | .error place => .error ⟨.malformedDeclaration, place⟩
  | _ => .ok none

/-- The encoding that the first bytes tell, and how many of them are a byte order mark; `none` if
there are too few bytes to tell. -/
def detect : List UInt8 → Option (Encoding × Nat)
  | [] => some (.utf8, 0)
  | [b] => if b = 0xFE ∨ b = 0xFF ∨ b = 0xEF ∨ b = 0x00 ∨ b = 0x3C then none else some (.utf8, 0)
  | a :: b :: rest =>
    if a = 0xFE ∧ b = 0xFF then some (.utf16 true, 2)
    else if a = 0xFF ∧ b = 0xFE then some (.utf16 false, 2)
    else if a = 0x00 then some (.utf16 true, 0)
    else if b = 0x00 then some (.utf16 false, 0)
    else if a = 0xEF ∧ b = 0xBB then
      match rest with
      | [] => none
      | c :: _ => if c = 0xBF then some (.utf8, 3) else some (.utf8, 0)
    else some (.utf8, 0)

/-- The symbols of bytes behind a byte order mark, which takes up one character in the encodings
that know it and one for each of its bytes in the others. -/
def decode (encoding : Encoding) (mark : Nat) (bytes : List UInt8) : Source :=
  let columns := match encoding with
    | .utf8 | .utf16 _ => min mark 1
    | _ => mark
  Source.ofReadings encoding.alphabet ⟨1, columns⟩ false (encoding.readings (bytes.drop mark))

/-- Drops the symbols that make up a number of bytes. -/
def dropBytes (unitSize : Nat) : Nat → List Symbol → List Symbol
  | 0, symbols => symbols
  | _, [] => []
  | bytes, s :: symbols => dropBytes unitSize (bytes - s.width * unitSize) symbols

/-- The number of bytes that symbols take up. -/
def byteCount (unitSize : Nat) (symbols : List Symbol) : Nat :=
  symbols.foldl (fun n s => n + s.width * unitSize) 0

/-- The encodings that need no table, by name in any case; `UTF-16` alone leaves the order of the
bytes as it was found. -/
def native? (found : Encoding) (name : String) : Option Encoding :=
  match String.ofList (name.toList.map Char.toUpper) with
  | "UTF-8" => some .utf8
  | "ISO-8859-1" => some .latin1
  | "US-ASCII" => some .ascii
  | "UTF-16" => some (if found.unitSize = 2 then found else .utf16 true)
  | "UTF-16BE" => some (.utf16 true)
  | "UTF-16LE" => some (.utf16 false)
  | _ => none

/-- The encoding in force behind a declaration that names one. -/
def declaredEncoding (found : Encoding) (name : String) (place : Position) :
    Except Failure Encoding :=
  match native? found name with
  | some e =>
    if e.unitSize = found.unitSize ∧ (e.unitSize = 1 ∨ e = found) then .ok e
    else .error (.malformed ⟨.incorrectEncoding, place⟩)
  | none =>
    match Encoding.known? name with
    | none => .error (.noSuchEncoding name)
    | some .multiByte => .error .multiByteEncoding
    | some .notText => .error (.notTextEncoding name)
    | some (.refusing reason) => .error (.refusingEncoding name reason)
    | some .asciiOnly => .error .asciiOnlyEncoding
    | some .incompatible => .error (.malformed ⟨.unknownEncoding, place⟩)
    | some (.encoding e) => .ok e

/-! ## Reading -/

/-- A problem of the text, as a failure. -/
def wellFormed {α : Type} : Except Malformed α → Except Failure α
  | .ok value => .ok value
  | .error problem => .error (.malformed problem)

/-- Reads the bytes of a document. With `fixed`, an encoding that the declaration names does not
count. -/
def ofBytes (fixed : Bool) (bytes : List UInt8) : Except Failure Element := do
  let some (found, mark) := detect bytes | throw (.malformed ⟨.unclosedToken, .start⟩)
  let source := decode found mark bytes
  match ← wellFormed (declaration? source) with
  | none => wellFormed (ofSource bytes.length false source)
  | some (declaration, after) =>
    let encoding ← match declaration.encoding with
      | none => pure found
      | some (name, place) => if fixed then pure found else declaredEncoding found name place
    let decoded := decode encoding mark bytes
    let taken := byteCount found.unitSize source.symbols - byteCount found.unitSize after
    let rest := dropBytes encoding.unitSize taken decoded.symbols
    wellFormed (ofSource bytes.length declaration.standalone { decoded with symbols := rest })

/-- Reads a document from the bytes of a file. -/
def read (bytes : ByteArray) : Except Failure Element :=
  ofBytes false bytes.data.toList

/-- Reads a document from a text. -/
def parse (text : String) : Except Failure Element :=
  ofBytes true text.toUTF8.data.toList

end VuserScript.Xml.Document
