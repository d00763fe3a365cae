/-
  VuserScript.Yaml.Token.Block

  Block scalars: a header, and the lines below it that are indented far enough.
-/
import VuserScript.Yaml.Cursor

namespace VuserScript.Yaml.Scanner

/-- What becomes of the line ends behind the last line of a block. -/
inductive Chomping where
  | strip
  | clip
  | keep
  deriving DecidableEq, Repr

/-! ## The header -/

/-- The mark for what becomes of the line ends, if one stands here. -/
def chomping : Scanner (Option Chomping) := do
  match ← peek with
  | some '+' =>
    skip 1
    pure (some .keep)
  | some '-' =>
    skip 1
    pure (some .strip)
  | _ => pure none

/-- The digit for the indentation, if one stands here. -/
def indentation (start : Place) : Scanner (Option Nat) := do
  match ← peek with
  | some c =>
    if c == '0' then refuse .blockScalar start .zeroIndentation
    else if c.isDigit then
      skip 1
      pure (some (digitValue c))
    else pure none
  | none => pure none

/-- The marks of a header, in either order. -/
def blockMarks (start : Place) : Scanner (Chomping × Option Nat) := do
  let first ← chomping
  let indentation ← indentation start
  let second ← if first.isNone && indentation.isSome then chomping else pure none
  unless endsWord (← peek) do
    want .blockScalar start .blockIndicators
  pure ((first.or second).getD .clip, indentation)

/-! ## The lines -/

/-- Passes over spaces up to a column. -/
def indentTo (column : Nat) : Scanner Unit := do
  let c ← get
  let spaces := (c.rest.takeWhile (· == ' ')).length
  skip (min spaces (column - c.place.column))

/-- The empty lines that come next, each indented by no more than a column. -/
def emptyLines (column : Nat) : (fuel : Nat) → Scanner (List Char)
  | 0 => pure []
  | fuel + 1 => do
    indentTo column
    match ← lineEnd with
    | [] => pure []
    | ends =>
      let more ← emptyLines column fuel
      pure (ends ++ more)

/-- The column behind the longest run of spaces among empty lines, from a column on. -/
def widest (column : Nat) : List Char → Nat
  | [] => 0
  | c :: rest => if isBreak c then widest 0 rest else max (column + 1) (widest (column + 1) rest)

/-- The empty lines at the start of a block, and the column they suggest. -/
def firstEmptyLines : Scanner (List Char × Nat) := do
  let column := (← place).column
  let blank ← run fun c => c == ' ' || isBreak c
  pure ((blank.filter isBreak).map breakValue, widest column blank)

/-- Whether a line of the block starts here. -/
def atBlockLine (column : Nat) : Scanner Bool := do
  pure ((← place).column == column && (← peek).isSome)

/-- The text of a block, with the empty lines before its next line at hand: the text up to the
end of its last line, that line end, and the empty lines behind it. -/
def blockLines (isFolded : Bool) (column : Nat) :
    (fuel : Nat) → (before : List Char) → Scanner (List Char × List Char × List Char)
  | 0, before => pure ([], [], before)
  | fuel + 1, before => do
    if ← atBlockLine column then
      let startsWithText := !((← peek).any isSpaceOrTab)
      let line ← run fun c => !isBreak c
      let ends ← lineEnd
      let after ← emptyLines column (← bound)
      if ← atBlockLine column then
        let joins := isFolded && ends == ['\n'] && startsWithText && !((← peek).any isSpaceOrTab)
        let between := if joins then (if after.isEmpty then [' '] else []) else ends
        let (text, last) ← blockLines isFolded column fuel after
        pure (before ++ line ++ between ++ text, last)
      else pure (before ++ line, ends, after)
    else pure ([], [], before)

/-- A block scalar within a collection that is indented to a column, or outside of all. -/
def blockScalar (isFolded : Bool) (parent : Int) : Scanner String := do
  let start ← place
  skip 1
  let (chomping, indentation) ← blockMarks start
  restOfLine .blockScalar start
  let least := (max 1 (parent + 1)).toNat
  let (before, column) ← (do
    match indentation with
    | none =>
      let (before, column) ← firstEmptyLines
      pure (before, max least column)
    | some more =>
      let column := least + more - 1
      let before ← emptyLines column (← bound)
      pure (before, column) : Scanner (List Char × Nat))
  let (text, ends, after) ← blockLines isFolded column (← bound) before
  pure (String.ofList (match chomping with
    | .strip => text
    | .clip => text ++ ends
    | .keep => text ++ ends ++ after))

end VuserScript.Yaml.Scanner
