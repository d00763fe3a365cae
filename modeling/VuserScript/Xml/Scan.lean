/-
  VuserScript.Xml.Scan

  Reading from the front of a list of symbols. A scanner takes what it knows
  and returns the rest, or stops: at a symbol that cannot stand there, or
  because the input ends within the token or within one of its characters.

  Names, references, comments and processing instructions are read here, since
  they occur both before and inside the document element.
-/
import VuserScript.Xml.Fault
import VuserScript.Xml.NameChar
import VuserScript.Xml.Symbol

namespace VuserScript.Xml

/-- Why a token could not be read. -/
inductive Stop where
  | invalid (place : Position)
  /-- The input ends within the token. -/
  | cut
  /-- The input ends within a character of the token. -/
  | cutCharacter
  deriving DecidableEq, Repr

/-- The place of what cannot stand where it does. -/
def Stop.place? : Stop → Option Position
  | invalid place => some place
  | cut | cutCharacter => none

/-- The fault of a token that starts at a place and cannot be read. -/
def Stop.malformed (start : Position) : Stop → Malformed
  | invalid place => ⟨.invalidToken, place⟩
  | cut => ⟨.unclosedToken, start⟩
  | cutCharacter => ⟨.partialCharacter, start⟩

/-- A token, where it starts, and what follows it. -/
structure Lexeme (α : Type) where
  token : α
  place : Position
  rest : List Symbol

/-- Reads from the front of the symbols. -/
abbrev Scanner := ReaderT Alphabet (StateT (List Symbol) (Except Stop))

/-- What a scanner reads from the front of symbols, and what follows it. -/
def Scanner.start {α : Type} (scanner : Scanner α) (a : Alphabet) (symbols : List Symbol) :
    Except Stop (α × List Symbol) :=
  scanner a symbols

namespace Scan

/-! ## Single characters -/

/-- A space, a tab or a line end. -/
def isSpace (c : Char) : Bool :=
  c == ' ' || c == '\t' || c == '\n' || c == '\r'

/-- The next character and its place, where characters of any size are looked at. -/
def next : Scanner (Char × Position)
  | _, [] | _, .stray _ :: _ => .error .cut
  | _, .malformed place _ :: _ => .error (.invalid place)
  | _, .truncated _ _ :: _ => .error .cutCharacter
  | _, .char c place _ :: rest => .ok ((c, place), rest)

/-- A character out of a class of ASCII characters; nothing else is looked at. -/
def accept (isIn : Char → Bool) : Scanner Char
  | _, [] | _, .stray _ :: _ => .error .cut
  | _, .char c place _ :: rest => if isIn c then .ok (c, rest) else .error (.invalid place)
  | _, s :: _ => .error (.invalid s.place)

/-- The longest run of characters of a class, and what follows it. -/
def takeChars (isIn : Char → Bool) : List Symbol → List Char × List Symbol
  | .char c place width :: rest =>
    if isIn c then
      let (cs, rest) := takeChars isIn rest
      (c :: cs, rest)
    else ([], .char c place width :: rest)
  | symbols => ([], symbols)

/-- The longest run of characters of a class. -/
def run (isIn : Char → Bool) : Scanner (List Char) :=
  fun _ symbols => .ok (takeChars isIn symbols)

/-- Stops at a place. -/
def refuse {α : Type} (place : Position) : Scanner α :=
  throw (.invalid place)

/-! ## Names -/

/-- The first character of a name. -/
def nameStart : Scanner Char := do
  let (c, place) ← next
  if (← read).isNameStart c then pure c else refuse place

/-- The longest run of characters that continue a name. -/
def nameRest : Scanner (List Char) := do
  run (← read).isNameChar

/-- A name without colons. -/
def name : Scanner (List Char) := do
  let first ← nameStart
  let others ← nameRest
  pure (first :: others)

/-- Whether a colon comes next. -/
def colonAhead : List Symbol → Bool
  | .char ':' _ _ :: _ => true
  | _ => false

/-- What follows the first character of a name with at most one colon inside. -/
def qualifiedRest : Scanner (List Char) := do
  let others ← nameRest
  if colonAhead (← get) then
    let _ ← next
    let localName ← name
    pure (others ++ ':' :: localName)
  else
    pure others

/-! ## References -/

/-- What stands between an ampersand and a semicolon. -/
inductive Reference where
  | entity (name : List Char)
  /-- A number; `none` if no character of a document has it. -/
  | character (c : Option Char)
  deriving DecidableEq, Repr

/-- The value of a digit of a number in base ten or sixteen. -/
def digitValue (c : Char) : Nat :=
  if c.isDigit then c.toNat - '0'.toNat
  else if 'a' ≤ c then c.toNat - 'a'.toNat + 10
  else c.toNat - 'A'.toNat + 10

/-- A digit of a number in base sixteen. -/
def isHexDigit (c : Char) : Bool :=
  c.isDigit || ('a' ≤ c && c ≤ 'f') || ('A' ≤ c && c ≤ 'F')

/-- The number that digits write. -/
def numberOf (base : Nat) (digits : List Char) : Nat :=
  digits.foldl (fun n c => n * base + digitValue c) 0

/-- The character with a number, if a document may hold it. -/
def characterOf (n : Nat) : Option Char :=
  if h : n.isValidChar then
    let c := Char.ofNatAux n h
    if isXmlChar c then some c else none
  else none

/-- A number and a semicolon, behind `&#`. -/
def characterReference : Scanner Reference := do
  let first ← accept fun c => c == 'x' || c.isDigit
  let (base, digits) ←
    if first = 'x' then do
      let digit ← accept isHexDigit
      let digits ← run isHexDigit
      pure (16, digit :: digits)
    else do
      let digits ← run Char.isDigit
      pure (10, first :: digits)
  let _ ← accept (· == ';')
  pure (.character (characterOf (numberOf base digits)))

/-- A reference behind its ampersand. -/
def reference : Scanner Reference := do
  let (c, place) ← next
  if c = '#' then
    characterReference
  else if (← read).isNameStart c then
    let others ← nameRest
    let (semicolon, place) ← next
    if semicolon = ';' then pure (.entity (c :: others)) else refuse place
  else
    refuse place

/-- The entities that every document has. -/
def predefined? (name : List Char) : Option Char :=
  if name = ['a', 'm', 'p'] then some '&'
  else if name = ['l', 't'] then some '<'
  else if name = ['g', 't'] then some '>'
  else if name = ['q', 'u', 'o', 't'] then some '"'
  else if name = ['a', 'p', 'o', 's'] then some '\''
  else none

/-! ## Comments and processing instructions -/

/-- The rest of a comment behind its opening. Two hyphens have to be followed by `>`. -/
def commentRest : List Symbol → Except Stop (List Symbol)
  | .char '-' _ _ :: .char '-' _ _ :: .char '>' _ _ :: rest => .ok rest
  | .char '-' _ _ :: .char '-' _ _ :: s :: _ =>
    match s with
    | .stray _ => .error .cut
    | s => .error (.invalid s.place)
  | .char _ _ _ :: rest => commentRest rest
  | [] | .stray _ :: _ => .error .cut
  | .malformed place _ :: _ => .error (.invalid place)
  | .truncated _ _ :: _ => .error .cutCharacter

/-- A comment behind `<!-`. -/
def comment : Scanner Unit := do
  let _ ← accept (· == '-')
  let rest ← commentRest (← get)
  set rest

/-- The rest of a processing instruction behind its target. -/
def instructionRest : List Symbol → Except Stop (List Symbol)
  | .char '?' _ _ :: .char '>' _ _ :: rest => .ok rest
  | .char _ _ _ :: rest => instructionRest rest
  | [] | .stray _ :: _ => .error .cut
  | .malformed place _ :: _ => .error (.invalid place)
  | .truncated _ _ :: _ => .error .cutCharacter

/-- A processing instruction behind `<?`. The answer tells whether it is a declaration, whose
target is `xml`; no other spelling of that target may be used. -/
def instruction : Scanner Bool := do
  let target ← name
  let (c, place) ← next
  let isDeclaration := target == ['x', 'm', 'l']
  if !isDeclaration && target.map Char.toLower == ['x', 'm', 'l'] && (isSpace c || c == '?') then
    refuse place
  else if isSpace c then
    let rest ← instructionRest (← get)
    set rest
    pure isDeclaration
  else if c = '?' then
    let _ ← accept (· == '>')
    pure isDeclaration
  else
    refuse place

end Scan

end VuserScript.Xml
