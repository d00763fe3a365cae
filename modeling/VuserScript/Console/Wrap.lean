/-
  VuserScript.Console.Wrap

  Cutting text into lines that fit a number of cells. Lines are cut between
  words. A word that fits no line is either folded, which spreads it over
  several lines, or shortened, which leaves an ellipsis at its end.
-/
import VuserScript.Text.Blank
import VuserScript.Text.CellWidth

namespace VuserScript.Console

open Text (cellCount cellWidth isBlank)

/-! ## Characters -/

/-- A control character that a screen acts on instead of showing it. -/
def isAction (c : Char) : Bool :=
  c == '\x07' || c == '\x08' || c == '\x0b' || c == '\x0c' || c == '\r'

/-- The parts of a list of characters between separators. -/
def splitAt (isSeparator : Char → Bool) : List Char → List (List Char)
  | [] => [[]]
  | c :: rest =>
    match splitAt isSeparator rest with
    | first :: others => if isSeparator c then [] :: first :: others else (c :: first) :: others
    | [] => [[c]]

/-- The lines of a text as it is given. -/
def linesOf (s : String) : List (List Char) :=
  splitAt (· == '\n') (s.toList.filter fun c => !isAction c)

/-- Spaces in place of tabs, which lead to the next multiple of eight cells. -/
def expandTabs (position : Nat) : List Char → List Char
  | [] => []
  | c :: rest =>
    if c = '\t' then
      let next := (position / 8 + 1) * 8
      List.replicate (next - position) ' ' ++ expandTabs next rest
    else c :: expandTabs (position + cellWidth c) rest

/-- The characters without the blanks at the end. -/
def trimEnd (cs : List Char) : List Char :=
  (cs.reverse.dropWhile isBlank).reverse

/-! ## Words -/

/-- The words of a line, each with the blanks behind it, and the first one with those before it.
`fuel` bounds the number of words. -/
def wordsFrom : (fuel : Nat) → List Char → List (List Char)
  | 0, _ => []
  | fuel + 1, cs =>
    let (before, rest) := cs.span isBlank
    if rest.isEmpty then []
    else
      let (word, rest) := rest.span fun c => !isBlank c
      let (after, rest) := rest.span isBlank
      (before ++ word ++ after) :: wordsFrom fuel rest

/-- The words of a line. -/
def wordsOf (cs : List Char) : List (List Char) :=
  wordsFrom (cs.length + 1) cs

/-! ## Cutting -/

/-- What becomes of a word that fits no line. -/
inductive LongWord where
  | folded
  | shortened
  deriving DecidableEq, Repr

/-- Lines in the making. -/
structure LineBuilder where
  /-- The lines that are complete, the last one first. -/
  done : List (List Char) := []
  /-- The parts of the line at hand, the last one first, and the cells they take. -/
  parts : List (List Char) := []
  cells : Nat := 0

namespace LineBuilder

/-- Adds a part to the line at hand. -/
def add (b : LineBuilder) (part : List Char) : LineBuilder :=
  { b with parts := part :: b.parts, cells := b.cells + cellCount part }

/-- Starts another line, unless nothing is in the line at hand. -/
def newLine (b : LineBuilder) : LineBuilder :=
  if b.parts.isEmpty then b else ⟨b.parts.reverse.flatten :: b.done, [], 0⟩

/-- All lines. -/
def lines (b : LineBuilder) : List (List Char) :=
  b.newLine.done.reverse

end LineBuilder

/-- The pieces of a word, each as long as fits. `taken` is the piece at hand, in reverse. -/
def chop (width : Nat) (taken : List Char) (cells : Nat) : List Char → List (List Char)
  | [] => if taken.isEmpty then [] else [taken.reverse]
  | c :: rest =>
    if width < cells + cellWidth c ∧ taken ≠ [] then
      taken.reverse :: chop width [c] (cellWidth c) rest
    else chop width (c :: taken) (cells + cellWidth c) rest

/-- Adds a word to lines of a width. The blanks behind it need not fit. -/
def addWord (long : LongWord) (width : Nat) (b : LineBuilder) (word : List Char) : LineBuilder :=
  let needed := cellCount (trimEnd word)
  if b.cells + needed ≤ width then b.add word
  else if width < needed ∧ long = .folded then
    (chop width [] 0 word).foldl (fun b piece => b.newLine.add piece) b
  else b.newLine.add word

/-- A line cut between words. -/
def cut (long : LongWord) (width : Nat) (line : List Char) : List (List Char) :=
  ((wordsOf line).foldl (addWord long width) {}).lines

/-! ## Fitting -/

/-- The first characters of a line that fill a number of cells, with a space in place of half a
wide character. -/
def crop : (width : Nat) → List Char → List Char
  | _, [] => []
  | width, c :: rest =>
    if cellWidth c ≤ width then c :: crop (width - cellWidth c) rest
    else if width = 0 then [] else [' ']

/-- Drops blanks at the end of a line as far as it has more characters than there are cells. -/
def dropExcess (width : Nat) (line : List Char) : List Char :=
  let blanks := line.length - (trimEnd line).length
  line.take (line.length - min blanks (line.length - width))

/-- A line that fits. What is still too long loses its end. -/
def fit (long : LongWord) (width : Nat) (line : List Char) : List Char :=
  if cellCount line ≤ width then line
  else match long with
    | .folded => crop width line
    | .shortened => crop (width - 1) line ++ ['…']

/-- The lines of a text on a screen of some width. Lines that do not start at the left lose the
blanks at their end. -/
def wrap (long : LongWord) (startsLeft : Bool) (width : Nat) (s : String) : List String :=
  (linesOf s).flatMap fun line =>
    (cut long width (expandTabs 0 line)).map fun piece =>
      let piece := dropExcess width piece
      String.ofList (fit long width (if startsLeft then piece else trimEnd piece))

end VuserScript.Console
