/-
  VuserScript.Yaml.Token.Quoted

  Scalars between quotes. Between double quotes a backslash starts an escape;
  between single quotes a quote is written twice. Line ends are folded.
-/
import VuserScript.Yaml.Cursor

namespace VuserScript.Yaml.Scanner

/-! ## Escapes -/

/-- The escapes of one character, and the characters that they stand for. -/
def escapes : List (Char × Char) :=
  [('0', '\x00'), ('a', '\x07'), ('b', '\x08'), ('t', '\t'), ('\t', '\t'), ('n', '\n'),
    ('v', '\x0b'), ('f', '\x0c'), ('r', '\r'), ('e', '\x1b'), (' ', ' '), ('"', '"'), ('\\', '\\'),
    ('/', '/'), ('N', '\x85'), ('_', '\xa0'), ('L', '\u2028'), ('P', '\u2029')]

/-- The character that an escape of one character stands for. -/
def escapeValue? (c : Char) : Option Char :=
  escapes.lookup c

/-- How many digits follow an escape that gives the number of a character. -/
def escapeDigits? (c : Char) : Option Nat :=
  if c = 'x' then some 2
  else if c = 'u' then some 4
  else if c = 'U' then some 8
  else none

/-- The character whose number some digits give. A surrogate stands for no character. -/
def numberedChar (start : Place) (count : Nat) : Scanner Char := do
  let digits := (← get).rest.take count
  match digits.find? fun c => !isHexDigit c with
  | some c => refuse .doubleQuotedScalar start (.wanted (.hexDigits count) (some c))
  | none =>
    demand count
    if digits.length < count then
      refuse .doubleQuotedScalar start (.wanted (.hexDigits count) none)
    else
      let n := numberOf 16 digits
      if 0x10FFFF < n then throw (.misfit (.codePoint (decide (n < 0x80000000))))
      skip count
      pure (if n.isValidChar then Char.ofNat n else '\uFFFD')

/-! ## Line ends -/

/-- The empty lines that come next, up to what stands in the last line. -/
def quotedLines (start : Place) : (fuel : Nat) → Scanner (List Char)
  | 0 => pure []
  | fuel + 1 => do
    if ← atSeparator then refuse .quotedScalar start .separatorInQuotedScalar
    let _ ← run isSpaceOrTab
    match ← lineEnd with
    | [] => pure []
    | ends =>
      let more ← quotedLines start fuel
      pure (ends ++ more)

/-- What spaces, tabs and line ends between words stand for. -/
def quotedGap (start : Place) : Scanner (List Char) := do
  let spaces ← run isSpaceOrTab
  if (← peek).isNone then refuse .quotedScalar start .endInQuotedScalar
  match ← lineEnd with
  | [] => pure spaces
  | ends =>
    let more ← quotedLines start (← bound)
    pure (folded ends more)

/-! ## Words -/

/-- What stands behind a backslash. -/
def escape (start : Place) : Scanner (List Char) := do
  let next ← peek
  match next.bind escapeValue?, next.bind escapeDigits? with
  | some c, _ =>
    skip 1
    pure [c]
  | none, some count =>
    skip 1
    let c ← numberedChar start count
    pure [c]
  | none, none =>
    match ← lineEnd with
    | [] => refuse .doubleQuotedScalar start (.unknownEscape next)
    | _ => quotedLines start (← bound)

/-- A character that means itself in all quoted scalars. -/
def isOrdinary (c : Char) : Bool :=
  !(c == '\'' || c == '"' || c == '\\' || isSpaceOrTab c || isBreak c)

/-- The characters up to the next gap or the closing quote. -/
def quotedWord (isDouble : Bool) (start : Place) : (fuel : Nat) → Scanner (List Char)
  | 0 => pure []
  | fuel + 1 => do
    let word ← run isOrdinary
    let more (cs : List Char) : Scanner (List Char) := do
      let rest ← quotedWord isDouble start fuel
      pure (word ++ cs ++ rest)
    match ← peek with
    | some '\'' =>
      if isDouble then
        skip 1
        more ['\'']
      else if (← peekAt 1) == some '\'' then
        skip 2
        more ['\'']
      else pure word
    | some '"' =>
      if isDouble then pure word
      else
        skip 1
        more ['"']
    | some '\\' =>
      skip 1
      if isDouble then more (← escape start) else more ['\\']
    | _ => pure word

/-- The words and gaps up to the closing quote. -/
def quotedText (isDouble : Bool) (start : Place) : (fuel : Nat) → Scanner (List Char)
  | 0 => pure []
  | fuel + 1 => do
    let word ← quotedWord isDouble start (← bound)
    let quote := if isDouble then '"' else '\''
    if (← peek) == some quote then pure word
    else
      let gap ← quotedGap start
      let rest ← quotedText isDouble start fuel
      pure (word ++ gap ++ rest)

/-- A scalar between quotes. -/
def quotedScalar (isDouble : Bool) : Scanner String := do
  let start ← place
  skip 1
  let text ← quotedText isDouble start (← bound)
  skip 1
  pure (String.ofList text)

end VuserScript.Yaml.Scanner
