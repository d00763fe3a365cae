/-
  VuserScript.Yaml.Cursor

  Reading a text from the front, with the place that has been reached. Line
  ends of the text are line feeds; the next line mark U+0085 and the two
  separators U+2028 and U+2029 end lines too. The end of the text is looked at
  like a character, as `none`. Where a text can be read up to some place only,
  looking further is a failure, and so is to arrive there.
-/
import VuserScript.Yaml.Source

namespace VuserScript.Yaml

/-! ## Characters -/

/-- A character that ends a line. -/
def isBreak (c : Char) : Bool :=
  c == '\n' || c == '\x85' || c == '\u2028' || c == '\u2029'

/-- A space or a tab. -/
def isSpaceOrTab (c : Char) : Bool :=
  c == ' ' || c == '\t'

/-- What a line end stands for: only the two separators stay as they are. -/
def breakValue (c : Char) : Char :=
  if c == '\x85' then '\n' else c

/-- What a line end and the empty lines behind it stand for within a scalar: a single line end is
a space. -/
def folded (first others : List Char) : List Char :=
  if first ≠ ['\n'] then first ++ others
  else if others.isEmpty then [' '] else others

/-- The end of a line or of the text. -/
def endsLine : Option Char → Bool
  | none => true
  | some c => isBreak c

/-- A space, or the end of a line or of the text. -/
def endsWord (found : Option Char) : Bool :=
  found == some ' ' || endsLine found

/-- A space, a tab, or the end of a line or of the text. -/
def isGap (found : Option Char) : Bool :=
  found == some '\t' || endsWord found

/-- A letter or digit of ASCII, a hyphen or an underscore. -/
def isNameChar (c : Char) : Bool :=
  c.isAlphanum || c == '-' || c == '_'

/-- A hexadecimal digit. -/
def isHexDigit (c : Char) : Bool :=
  c.isDigit || ('a' ≤ c && c ≤ 'f') || ('A' ≤ c && c ≤ 'F')

/-- The value of a digit in base ten or sixteen. -/
def digitValue (c : Char) : Nat :=
  if c.isDigit then c.toNat - '0'.toNat
  else if 'a' ≤ c then c.toNat - 'a'.toNat + 10
  else c.toNat - 'A'.toNat + 10

/-- The number that digits write. -/
def numberOf (base : Nat) (digits : List Char) : Nat :=
  digits.foldl (fun n c => n * base + digitValue c) 0

/-! ## Cursors -/

/-- What is left of a text, and where it starts. -/
structure Cursor where
  rest : List Char
  place : Place := {}
  /-- What is met behind the text if not the end. -/
  ending : Option Failure := none
  /-- A number that is greater than that of the characters left, for loops that pass over some
  in each round. -/
  bound : Nat

/-- The place behind a character. A byte order mark takes no column. -/
def Place.next (p : Place) (c : Char) : Place :=
  if isBreak c then ⟨p.index + 1, p.line + 1, 0⟩
  else ⟨p.index + 1, p.line, if c == '\uFEFF' then p.column else p.column + 1⟩

namespace Cursor

/-- The start of a text. -/
def ofSource (source : Source) : Cursor :=
  { rest := source.text, ending := source.ending, bound := source.text.length + 1 }

/-- The character that is some steps ahead. -/
def ahead (c : Cursor) (steps : Nat) : Option Char :=
  c.rest[steps]?

/-- One character further on. -/
def advance (c : Cursor) : Cursor :=
  match c.rest with
  | [] => c
  | x :: rest => { c with rest, place := c.place.next x }

/-- Some characters further on. -/
def advanceBy : Nat → Cursor → Cursor
  | 0, c => c
  | n + 1, c => advanceBy n c.advance

/-- The longest run of characters of a class in a text at a place, what follows it, and where. -/
def spanFrom (isIn : Char → Bool) (place : Place) : List Char → List Char × List Char × Place
  | [] => ([], [], place)
  | x :: rest =>
    if isIn x then
      let (run, behind) := spanFrom isIn (place.next x) rest
      (x :: run, behind)
    else ([], x :: rest, place)

/-- The longest run of characters of a class, and the cursor behind it. -/
def span (isIn : Char → Bool) (c : Cursor) : List Char × Cursor :=
  let (run, rest, place) := spanFrom isIn c.place c.rest
  (run, { c with rest, place })

/-- Whether three hyphens or three periods stand here. -/
def atMarks (c : Cursor) : Bool :=
  match c.rest with
  | '-' :: '-' :: '-' :: _ | '.' :: '.' :: '.' :: _ => true
  | _ => false

/-- Behind spaces, comments and line ends, which start in a comment or not. The answer tells
whether a line end was among them. -/
def gapFrom (inComment : Bool) (place : Place) : List Char → Bool × List Char × Place
  | [] => (false, [], place)
  | x :: rest =>
    if isBreak x then (true, (gapFrom false (place.next x) rest).2)
    else if inComment || x == ' ' then gapFrom inComment (place.next x) rest
    else if x == '#' then gapFrom true (place.next x) rest
    else (false, x :: rest, place)

/-- Behind spaces, comments and line ends; whether a line end was among them. -/
def gap (c : Cursor) : Bool × Cursor :=
  let (crossed, rest, place) := gapFrom false c.place c.rest
  (crossed, { c with rest, place })

end Cursor

/-! ## Scanners -/

/-- Reads from a cursor. -/
abbrev Scanner := StateT Cursor (Except Failure)

namespace Scanner

/-- Refuses to look at more of the next characters than can be read. -/
def demand (count : Nat) : Scanner Unit := do
  let c ← get
  if let some failure := c.ending then
    if (c.rest.drop (count - 1)).isEmpty then throw failure

/-- The character that is some steps ahead. -/
def peekAt (steps : Nat) : Scanner (Option Char) := do
  demand (steps + 1)
  pure ((← get).ahead steps)

/-- The next character. -/
def peek : Scanner (Option Char) :=
  peekAt 0

/-- The place that has been reached. -/
def place : Scanner Place := do
  pure (← get).place

/-- A number that is greater than that of the characters left. -/
def bound : Scanner Nat := do
  pure (← get).bound

/-- Passes over some characters. -/
def skip (count : Nat) : Scanner Unit := do
  modify (Cursor.advanceBy count)
  demand 1

/-- The longest run of characters of a class. -/
def run (isIn : Char → Bool) : Scanner (List Char) := do
  let found ← modifyGet (Cursor.span isIn)
  demand 1
  pure found

/-- Spaces, comments and line ends; whether a line end is among them. -/
def gap : Scanner Bool := do
  let crossed ← modifyGet Cursor.gap
  demand 1
  pure crossed

/-- Whether a line that separates documents starts here: three hyphens or three periods, and a
gap. -/
def atSeparator : Scanner Bool := do
  demand 3
  if (← get).atMarks then pure (isGap (← peekAt 3)) else pure false

/-- Stops at the place that has been reached. -/
def refuse {α : Type} (activity : Activity) (start : Place) (complaint : Complaint) :
    Scanner α := do
  throw (.within activity start complaint (← place))

/-- Stops because of the next character. -/
def want {α : Type} (activity : Activity) (start : Place) (what : Wanted) : Scanner α := do
  refuse activity start (.wanted what (← peek))

/-- The line end that comes next, if one does, as the characters it stands for. -/
def lineEnd : Scanner (List Char) := do
  match ← peek with
  | some c =>
    if isBreak c then
      skip 1
      pure [breakValue c]
    else pure []
  | none => pure []

/-- The rest of a line that may hold spaces and a comment only. -/
def restOfLine (activity : Activity) (start : Place) : Scanner Unit := do
  let _ ← run (· == ' ')
  if (← peek) == some '#' then
    let _ ← run fun c => !isBreak c
  unless endsLine (← peek) do
    want activity start .commentOrBreak
  let _ ← lineEnd

end Scanner

end VuserScript.Yaml
