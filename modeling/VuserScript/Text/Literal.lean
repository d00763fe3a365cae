/-
  VuserScript.Text.Literal

  Text inside a C string literal. A backslash and a double quote are protected
  by a backslash: first every backslash is doubled, then every quote is marked,
  so that the backslashes of the second step are not doubled again.
-/

namespace VuserScript.Text

/-- Every backslash written twice. -/
def doubleBackslashes (cs : List Char) : List Char :=
  cs.flatMap fun c => if c = '\\' then ['\\', '\\'] else [c]

/-- Every double quote with a backslash before it. -/
def markQuotes (cs : List Char) : List Char :=
  cs.flatMap fun c => if c = '"' then ['\\', '"'] else [c]

/-- The characters of a text as they stand between the quotes of a literal. -/
def escapeList (cs : List Char) : List Char :=
  markQuotes (doubleBackslashes cs)

/-- A text as it stands between the quotes of a C string literal. -/
def escape (s : String) : String :=
  String.ofList (escapeList s.toList)

@[simp] theorem toList_escape (s : String) : (escape s).toList = escapeList s.toList := by
  simp [escape]

end VuserScript.Text
