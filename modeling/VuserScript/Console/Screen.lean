/-
  VuserScript.Console.Screen

  What a command shows, as blocks, and the lines of each block on a screen of a
  fixed width. Boxes and colours are left out, and so is the space that would
  fill up a line.
-/
import VuserScript.Console.Table
import VuserScript.Log

namespace VuserScript.Console

/-- Something shown. -/
inductive Block where
  /-- Lines of any length. -/
  | plain (lines : List String)
  /-- A text, which may have several lines. -/
  | text (s : String)
  /-- A table with a title. -/
  | table (title : String) (columns : List Column) (rows : List (List String))
  /-- A text in a box, which may have a title. -/
  | panel (title : Option String) (s : String)
  /-- A record of what happens. -/
  | record (r : Record)
  deriving DecidableEq, Repr

/-! ## Lines -/

/-- The name of a level. -/
def levelName : Level → String
  | .debug => "DEBUG"
  | .info => "INFO"
  | .warning => "WARNING"
  | .error => "ERROR"

/-- How many characters behind an escape character belong to a command to a terminal: a bracket,
digits and marks, and a letter; none if they are no command. -/
def commandLength : List Char → Nat
  | '[' :: rest =>
    let isMark := fun c : Char => c.isDigit || c == ';' || c == '?'
    match rest.dropWhile isMark with
    | c :: _ => if c.isAlpha then (rest.takeWhile isMark).length + 2 else 0
    | [] => 0
  | _ => 0

/-- The characters without the commands to a terminal among them. The first `skip` ones are part of
a command. -/
def withoutCommands : (skip : Nat) → List Char → List Char
  | _, [] => []
  | skip + 1, _ :: rest => withoutCommands skip rest
  | 0, c :: rest =>
    match if c = '\x1b' then commandLength rest else 0 with
    | 0 => c :: withoutCommands 0 rest
    | length => withoutCommands length rest

/-- The number of cells in a line of the screen. -/
def screenWidth : Nat := 4000

/-- The width of the text in a box, which has a line and a space on either side. -/
def panelWidth : Nat := screenWidth - 4

/-- The width of the message of a record, which stands behind the time and the level. -/
def recordWidth : Nat := screenWidth - 20

/-- The lines of a block. -/
def Block.toLines : Block → List String
  | plain lines =>
    lines.flatMap fun line =>
      (splitAt (· == '\n') (withoutCommands 0 line.toList)).map String.ofList
  | text s => wrap .folded true screenWidth s
  | table title columns rows => Table.toLines screenWidth title columns rows
  | panel title s => title.toList ++ wrap .folded true panelWidth s
  | record r =>
    match wrap .folded true recordWidth r.message with
    | first :: others => (levelName r.level ++ " " ++ first) :: others
    | [] => [levelName r.level]

end VuserScript.Console
