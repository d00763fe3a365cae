/-
  VuserScript.Yaml.Token.Property

  Anchors, aliases and tags, which stand before the content of a node or in
  place of a node.
-/
import VuserScript.Yaml.Cursor
import VuserScript.Yaml.Token

namespace VuserScript.Yaml.Scanner

/-! ## Anchors and aliases -/

/-- What may follow the name of an anchor. -/
def endsAnchor (found : Option Char) : Bool :=
  isGap found || match found with
    | some c => "?:,]\x7d%@\x60".toList.contains c
    | none => true

/-- The name behind an asterisk or an ampersand. -/
def anchorName (activity : Activity) : Scanner String := do
  let start ← place
  skip 1
  let name ← run isNameChar
  if name.isEmpty then want activity start .nameCharacter
  unless endsAnchor (← peek) do
    want activity start .nameCharacter
  pure (String.ofList name)

/-! ## Tags -/

/-- A character of a tag, apart from the percent sign, which starts the escape of one. -/
def isTagChar (c : Char) : Bool :=
  c.isAlphanum || "-;/?:@&=+$,_.!~*'()[]".toList.contains c

/-- A digit of an escape, some steps ahead. -/
def escapedDigit (activity : Activity) (start : Place) (steps : Nat) : Scanner Char := do
  let found ← peekAt steps
  match found.filter isHexDigit with
  | some digit => pure digit
  | none => refuse activity start (.wanted .escapedByte found)

/-- The bytes of escapes that follow each other. -/
def escapedBytes (activity : Activity) (start : Place) : (fuel : Nat) → Scanner (List UInt8)
  | 0 => pure []
  | fuel + 1 => do
    if (← peek) == some '%' then
      skip 1
      let a ← escapedDigit activity start 0
      let b ← escapedDigit activity start 1
      skip 2
      let bytes ← escapedBytes activity start fuel
      pure (UInt8.ofNat (numberOf 16 [a, b]) :: bytes)
    else pure []

/-- The characters of escapes that follow each other. -/
def escapedChars (activity : Activity) (start : Place) : Scanner (List Char) := do
  let place ← place
  let bytes ← escapedBytes activity start (← bound)
  match Text.Utf8.decode bytes with
  | .ok cs => pure cs
  | .error fault => throw (.within activity start (.undecodableTag fault) place)

/-- The characters of a tag, escapes included. -/
def tagChars (activity : Activity) (start : Place) : (fuel : Nat) → Scanner (List Char)
  | 0 => pure []
  | fuel + 1 => do
    let cs ← run isTagChar
    if (← peek) == some '%' then
      let inner ← escapedChars activity start
      let more ← tagChars activity start fuel
      pure (cs ++ inner ++ more)
    else pure cs

/-- The text of a tag, which is not empty. It is told by another word than the rest of what is
being scanned. -/
def tagText (activity emptyActivity : Activity) (start : Place) : Scanner String := do
  let first ← place
  let cs ← tagChars activity start (← bound)
  if (← place) = first then want emptyActivity start .uri
  pure (String.ofList cs)

/-- A handle: an exclamation mark, or a name between two. -/
def tagHandle (activity : Activity) (start : Place) : Scanner String := do
  unless (← peek) == some '!' do
    want activity start .exclamationMark
  skip 1
  if (← peek) == some ' ' then pure "!"
  else
    let name ← run isNameChar
    unless (← peek) == some '!' do
      want activity start .exclamationMark
    skip 1
    pure (String.ofList ('!' :: name ++ ['!']))

/-- Whether a tag that starts with an exclamation mark has another one in the same word. The word
is looked at up to that mark or to what follows the word. -/
def hasHandle : Scanner Bool := do
  let behind := (← get).rest.drop 1
  let name := behind.takeWhile fun c => c != '!' && c != ' ' && !isBreak c
  pure ((← peekAt (name.length + 1)) == some '!')

/-- A tag. -/
def tagName : Scanner TagName := do
  let start ← place
  let next ← peekAt 1
  let name ← (do
    if next == some '<' then
      skip 2
      let text ← tagText .tag .tagText start
      unless (← peek) == some '>' do
        want .tagText start .closingAngle
      skip 1
      pure ⟨none, text⟩
    else if isGap next then
      skip 1
      pure ⟨none, "!"⟩
    else
      let handle ←
        if ← hasHandle then tagHandle .tag start
        else do
          skip 1
          pure "!"
      let text ← tagText .tag .tagText start
      pure ⟨some handle, text⟩ : Scanner TagName)
  unless endsWord (← peek) do
    want .tag start .space
  pure name

end VuserScript.Yaml.Scanner
