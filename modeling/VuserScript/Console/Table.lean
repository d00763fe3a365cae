/-
  VuserScript.Console.Table

  Tables. A column is as wide as its widest cell, which has a cell of space on
  either side. Where the columns do not fit the screen together, the widest ones
  give way, down to the width of the next one and so on.
-/
import VuserScript.Console.Wrap

namespace VuserScript.Console

open Text (cellCount)

/-- A column of a table. -/
structure Column where
  name : String
  /-- The width of its cells, where that does not depend on them. -/
  width : Option Nat := none
  /-- Whether its cells start at the left. -/
  startsLeft : Bool := true
  deriving DecidableEq, Repr

namespace Table

/-! ## Widths -/

/-- A character at which a line ends when the width of a text is taken. -/
def endsLine (c : Char) : Bool :=
  c == '\n' || ('\x1c' ≤ c && c ≤ '\x1e') || c == '\x85' || c == '\u2028' || c == '\u2029'

/-- The cells that a text takes. -/
def measure (s : String) : Nat :=
  ((splitAt endsLine (s.toList.filter fun c => !isAction c)).map cellCount).foldl max 0

/-- The space at the sides of a cell. -/
def margin : Nat := 2

/-- The width that a column asks for, with margins. -/
def wantedWidth (available : Nat) (c : Column) (cells : List String) : Nat :=
  min available (margin + c.width.getD (((c.name :: cells).map measure).foldl max 0))

/-- A quotient, rounded to the nearest whole number and from the middle to the even one. -/
def roundedQuotient (n d : Nat) : Nat :=
  let q := n / d
  let twice := 2 * (n % d)
  if d < twice ∨ (twice = d ∧ q % 2 = 1) then q + 1 else q

/-- Takes an amount in equal parts, none beyond a limit, from the columns that may shrink and have
a width. `count` of them are left. -/
def shrink (widest limit : Nat) : (amount count : Nat) → List (Nat × Bool) → List (Nat × Bool)
  | _, _, [] => []
  | amount, count, (width, mayShrink) :: rest =>
    if mayShrink ∧ width = widest then
      let part := min limit (roundedQuotient amount count)
      (width - part, mayShrink) :: shrink widest limit (amount - part) (count - 1) rest
    else (width, mayShrink) :: shrink widest limit amount count rest

/-- The sum of widths. -/
def total (widths : List (Nat × Bool)) : Nat :=
  (widths.map (·.1)).foldl (· + ·) 0

/-- The widths of columns that fit a number of cells together; the second of each pair tells
whether the column may shrink. `fuel` bounds the number of steps. -/
def fitted (available : Nat) : (fuel : Nat) → List (Nat × Bool) → List (Nat × Bool)
  | 0, widths => widths
  | fuel + 1, widths =>
    let excess := total widths - available
    if excess = 0 then widths
    else
      let shrinking := (widths.filter (·.2)).map (·.1)
      let widest := shrinking.foldl max 0
      let second := (shrinking.filter (· ≠ widest)).foldl max 0
      let limit := min excess (widest - second)
      if limit = 0 then widths
      else fitted available fuel (shrink widest limit excess (shrinking.count widest) widths)

/-- The widths of the cells of a table, without margins. A line stands on either side of each
column. -/
def cellWidths (screen : Nat) (columns : List Column) (rows : List (List String)) : List Nat :=
  let available := screen - (columns.length + 1)
  let wanted := columns.mapIdx fun n c =>
    (wantedWidth available c (rows.map fun row => row.getD n ""), c.width.isNone)
  (fitted available (total wanted) wanted).map fun entry => entry.1 - margin

/-! ## Lines -/

/-- A line with one column to the cell. -/
def joinCells (cells : List String) : String :=
  "  ".intercalate cells

/-- The lines of a row, as many as its highest cell has. -/
def rowLines (columns : List Column) (widths : List Nat) (cells : List String) : List String :=
  let cells := (columns.zip (widths.zip cells)).map fun (c, width, cell) =>
    wrap .shortened c.startsLeft width cell
  let height := cells.foldl (fun n lines => max n lines.length) 0
  (List.range height).map fun n => joinCells (cells.map fun lines => lines.getD n "")

/-- The lines of a table: its title, its header and its rows. -/
def toLines (screen : Nat) (title : String) (columns : List Column) (rows : List (List String)) :
    List String :=
  let widths := cellWidths screen columns rows
  title :: (columns.map (·.name) :: rows).flatMap (rowLines columns widths)

end Table

end VuserScript.Console
