/-
  VuserScript.Xml.Content

  The tokens inside the document element: text, tags with their attributes,
  references, and what leaves no trace in the tree. A value of an attribute is
  a list of pieces, so that references in it can be resolved later.
-/
import VuserScript.Xml.Scan

namespace VuserScript.Xml

open Scan

/-! ## Values of attributes -/

/-- A piece of a value. -/
inductive Piece where
  | char (c : Char)
  /-- A space, a tab or a line end. -/
  | space
  | reference (r : Reference) (place : Position)
  /-- What belongs to no value, at the end of a text without quotes around it. -/
  | malformed (place : Position)
  deriving Repr

namespace Scan

/-- The pieces up to the closing quote, which is taken as well. Without a quote the pieces go to
the end of the symbols or to the first of them that belongs to no value, which for a reference
that is cut off is its ampersand. `fuel` bounds the number of pieces. -/
def pieces (quote : Option Char) : (fuel : Nat) → Scanner (List Piece)
  | 0 => throw .cut
  | fuel + 1 => do
    match quote, ← get with
    | none, [] => pure []
    | none, .stray place :: _ => pure [.malformed place]
    | _, _ =>
      let (c, place) ← next
      if quote == some c then
        pure []
      else if c = '<' then
        if quote.isNone then pure [.malformed place] else refuse place
      else if c = '&' then
        match reference.start (← read) (← get) with
        | .ok (r, rest) =>
          set rest
          let others ← pieces quote fuel
          pure (.reference r place :: others)
        | .error stop =>
          if quote.isNone then pure [.malformed (stop.place?.getD place)] else throw stop
      else if isSpace c then
        if c = '\r' then
          if let .char '\n' _ _ :: rest := ← get then set rest
        let others ← pieces quote fuel
        pure (.space :: others)
      else
        let others ← pieces quote fuel
        pure (.char c :: others)

end Scan

/-- The pieces of a text without quotes around it, which holds no malformed symbols. -/
def Piece.ofSymbols (a : Alphabet) (symbols : List Symbol) : List Piece :=
  match (pieces none (symbols.length + 1)).start a symbols with
  | .ok (found, _) => found
  | .error _ => []

/-! ## Tags -/

/-- An attribute as it is written in a tag. -/
structure RawAttribute where
  name : List Char
  place : Position
  value : List Piece

namespace Scan

/-- The equals sign, the opening quote and the value, behind the name of an attribute. `bound` is
at least the number of symbols. -/
def attributeValue (bound : Nat) : Scanner (List Piece) := do
  let (c, place) ← next
  if isSpace c then
    let _ ← run isSpace
    let _ ← accept (· == '=')
  else if c ≠ '=' then
    refuse place
  let _ ← run isSpace
  let quote ← accept fun c => c == '"' || c == '\''
  pieces (some quote) bound

/-- The end of a tag: the attributes that come before it, and whether it closes itself. The
position is behind a space. `bound` is at least the number of symbols. -/
def tagRest (bound : Nat) : (fuel : Nat) → Scanner (List RawAttribute × Bool)
  | 0 => throw .cut
  | fuel + 1 => do
    let _ ← run isSpace
    let (c, place) ← next
    if c = '>' then
      pure ([], false)
    else if c = '/' then
      let _ ← accept (· == '>')
      pure ([], true)
    else if (← read).isNameStart c then
      let others ← qualifiedRest
      let value ← attributeValue bound
      let written : RawAttribute := ⟨c :: others, place, value⟩
      let after ← accept fun c => isSpace c || c == '/' || c == '>'
      if after = '>' then
        pure ([written], false)
      else if after = '/' then
        let _ ← accept (· == '>')
        pure ([written], true)
      else
        let (attributes, empty) ← tagRest bound fuel
        pure (written :: attributes, empty)
    else
      refuse place

/-- The rest of a start tag behind its name. `bound` is at least the number of symbols. -/
def startTagEnd (bound : Nat) : Scanner (List RawAttribute × Bool) := do
  let (c, place) ← next
  if c = '>' then
    pure ([], false)
  else if c = '/' then
    let _ ← accept (· == '>')
    pure ([], true)
  else if isSpace c then
    tagRest bound bound
  else
    refuse place

/-- An end tag behind `</`: the name as it is written. -/
def endTag : Scanner (List Char) := do
  let first ← nameStart
  let a ← read
  let others ← run fun c => a.isNameChar c || c == ':'
  let (c, place) ← next
  if c = '>' then
    pure (first :: others)
  else if isSpace c then
    let _ ← run isSpace
    let _ ← accept (· == '>')
    pure (first :: others)
  else
    refuse place

end Scan

/-! ## Tokens -/

/-- A token inside the document element. -/
inductive ContentToken where
  /-- Text with one line feed for each line end. -/
  | text (cs : List Char)
  | startTag (name : List Char) (attributes : List RawAttribute) (empty : Bool)
  | endTag (name : List Char) (namePlace : Position)
  | reference (r : Reference)
  /-- A comment or a processing instruction. -/
  | silent
  /-- A declaration, which belongs at the start of the document. -/
  | declaration
  /-- The end of the symbols. -/
  | finish
  | fault (problem : Malformed)

namespace Scan

/-- Text up to markup, a line end that may still grow, or the end. `]]>` is refused at its last
character, and a bracket that might begin it takes along a stray byte at the end. -/
def textRun : List Symbol → Except Position (List Char × List Symbol)
  | .char ']' _ _ :: .char ']' _ _ :: .char '>' place _ :: _ => .error place
  | [.char ']' _ _, .stray _] => .ok ([']'], [])
  | .char '\r' _ _ :: .char '\n' _ _ :: rest => do
    let (cs, rest) ← textRun rest
    pure ('\n' :: cs, rest)
  | .char '\r' p w :: .stray q :: rest => .ok ([], .char '\r' p w :: .stray q :: rest)
  | .char '\r' p w :: rest =>
    if rest.isEmpty then .ok ([], [.char '\r' p w])
    else do
      let (cs, rest) ← textRun rest
      pure ('\n' :: cs, rest)
  | .char c p w :: rest =>
    if c = '<' ∨ c = '&' then .ok ([], .char c p w :: rest)
    else do
      let (cs, rest) ← textRun rest
      pure (c :: cs, rest)
  | symbols => .ok ([], symbols)

/-- The text of a CDATA section behind its opening, up to `]]>`. `finish` is the end of the
input. A section that is not closed is reported where its last token starts. -/
def sectionText (finish : Position) : List Symbol → Except Malformed (List Char × List Symbol)
  | .char ']' _ _ :: .char ']' _ _ :: .char '>' _ _ :: rest => .ok ([], rest)
  | [.char ']' p _, .char ']' _ _] | [.char ']' p _] | [.char '\r' p _]
  | [.char ']' p _, .char ']' _ _, .stray _] | [.char ']' p _, .stray _]
  | [.char '\r' p _, .stray _] => .error ⟨.unclosedSection, p⟩
  | .char '\r' _ _ :: .char '\n' _ _ :: rest => do
    let (cs, rest) ← sectionText finish rest
    pure ('\n' :: cs, rest)
  | .char c _ _ :: rest => do
    let (cs, rest) ← sectionText finish rest
    pure ((if c = '\r' then '\n' else c) :: cs, rest)
  | [] => .error ⟨.unclosedSection, finish⟩
  | .stray p :: _ => .error ⟨.unclosedSection, p⟩
  | .malformed p _ :: _ => .error ⟨.invalidToken, p⟩
  | .truncated p _ :: _ => .error ⟨.partialCharacter, p⟩

/-- `CDATA[` behind `<![`. Six code units have to be there before any of them is looked at. -/
def sectionOpening : Scanner Unit := do
  let units := ((← get).take 6).foldl (fun n s => n + s.width) 0
  if units < 6 then throw .cut
  for expected in ['C', 'D', 'A', 'T', 'A', '['] do
    let _ ← accept (· == expected)

end Scan

/-- The token at the start of the symbols, which are not empty, and what follows it. `bound` is
at least the number of symbols. -/
def ContentToken.first (a : Alphabet) (bound : Nat) (finish start : Position)
    (symbols : List Symbol) : Except Malformed (ContentToken × List Symbol) :=
  let scan {α : Type} (scanner : Scanner α) (rest : List Symbol) (token : α → ContentToken) :
      Except Malformed (ContentToken × List Symbol) :=
    match scanner.start a rest with
    | .ok (value, rest) => .ok (token value, rest)
    | .error stop => .error (stop.malformed start)
  match symbols with
  | .char '<' _ _ :: .char '/' _ _ :: rest =>
    let place := match rest with
      | s :: _ => s.place
      | [] => finish
    scan Scan.endTag rest (.endTag · place)
  | .char '<' _ _ :: .char '?' _ _ :: rest =>
    scan instruction rest fun isDeclaration => if isDeclaration then .declaration else .silent
  | .char '<' _ _ :: .char '!' _ _ :: .char '-' _ _ :: rest => scan comment rest fun _ => .silent
  | .char '<' _ _ :: .char '!' _ _ :: .char '[' _ _ :: rest =>
    match sectionOpening.start a rest with
    | .ok (_, rest) => do
      let (cs, rest) ← sectionText finish rest
      pure (.text cs, rest)
    | .error stop => .error (stop.malformed start)
  | .char '<' _ _ :: .char '!' _ _ :: rest => scan (accept fun _ => false) rest fun _ => .silent
  | .char '<' _ _ :: rest =>
    let tag : Scanner (List Char × List RawAttribute × Bool) := do
      let first ← nameStart
      let others ← qualifiedRest
      let (attributes, empty) ← startTagEnd bound
      pure (first :: others, attributes, empty)
    scan tag rest fun (name, attributes, empty) => .startTag name attributes empty
  | .char '&' _ _ :: rest => scan Scan.reference rest .reference
  | symbols =>
    match textRun symbols with
    | .error place => .error ⟨.invalidToken, place⟩
    | .ok ([], rest) =>
      match rest with
      | .char '\r' _ _ :: rest => .ok (.text ['\n'], rest)
      | .malformed place _ :: _ => .error ⟨.invalidToken, place⟩
      | .truncated place _ :: _ => .error ⟨.partialCharacter, place⟩
      | .stray place :: _ => .error ⟨.unclosedToken, place⟩
      | rest => .ok (.finish, rest)
    | .ok (cs, rest) => .ok (.text cs, rest)

/-- The tokens of a text, ending in `finish` or in a fault. A carriage return at the very end is
text, and the end counts as standing where it stands. `fuel` is at
least the number of symbols, and one more at the start. -/
def ContentToken.lex (a : Alphabet) (finish : Position) :
    (fuel : Nat) → List Symbol → List (Lexeme ContentToken)
  | 0, rest => [⟨.finish, finish, rest⟩]
  | _ + 1, [] => [⟨.finish, finish, []⟩]
  | fuel + 1, s :: symbols =>
    match ContentToken.first a (fuel + 1) finish s.place (s :: symbols) with
    | .error problem => [⟨.fault problem, s.place, []⟩]
    | .ok (token, rest) =>
      let ended := match s, symbols with
        | .char '\r' _ _, [] | .char '\r' _ _, [.stray _] => true
        | _, _ => false
      ⟨token, s.place, rest⟩ ::
        if ended then [⟨.finish, s.place, []⟩] else ContentToken.lex a finish fuel rest

/-- All tokens of a text inside the document element. -/
def Source.contentTokens (source : Source) : List (Lexeme ContentToken) :=
  ContentToken.lex source.alphabet source.finish (source.symbols.length + 1) source.symbols

end VuserScript.Xml
