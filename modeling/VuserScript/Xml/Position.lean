/-
  VuserScript.Xml.Position

  Places in a document as error messages give them: lines are counted from one,
  columns from zero. A carriage return with a line feed behind it is one line
  end; alone, each of the two is a line end as well.
-/

namespace VuserScript.Xml

/-- A line and a column. -/
structure Position where
  line : Nat
  column : Nat
  deriving DecidableEq, Repr, Inhabited

namespace Position

/-- The first place of a document. -/
def start : Position := ⟨1, 0⟩

/-- The place behind a character. -/
def after (p : Position) (c : Char) : Position :=
  if c = '\n' ∨ c = '\r' then ⟨p.line + 1, 0⟩ else ⟨p.line, p.column + 1⟩

/-- The text of a place at the end of an error message. -/
def describe (p : Position) : String :=
  "line " ++ toString p.line ++ ", column " ++ toString p.column

end Position

end VuserScript.Xml
