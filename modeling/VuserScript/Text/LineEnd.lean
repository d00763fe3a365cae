/-
  VuserScript.Text.LineEnd

  Lines end with a line feed, a carriage return, or both; reading a text makes
  all of them line feeds.
-/

namespace VuserScript.Text

/-- The characters with every line end written as a line feed. -/
def normalLineEnds : List Char → List Char
  | '\r' :: '\n' :: rest => '\n' :: normalLineEnds rest
  | '\r' :: rest => '\n' :: normalLineEnds rest
  | c :: rest => c :: normalLineEnds rest
  | [] => []

end VuserScript.Text
