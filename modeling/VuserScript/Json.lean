/-
  VuserScript.Json

  Structured answers. The members of an object keep their order, and the
  written form is ASCII: nested values are indented by two spaces, and
  characters outside ASCII are written as one or two UTF-16 units.
-/
import VuserScript.Text.Quoted

namespace VuserScript

/-- A structured value. -/
inductive Json where
  | null
  | bool (b : Bool)
  | int (n : Int)
  /-- A number with a fraction or an exponent, as it was written, or one of `Infinity`, `-Infinity`
  and `NaN`. -/
  | decimal (literal : String)
  | string (s : String)
  | array (items : List Json)
  | object (members : List (String × Json))
  deriving Inhabited

namespace Json

/-- The member of an object with a name; the last one counts. -/
def member? : Json → String → Option Json
  | .object members, name => members.reverse.lookup name
  | _, _ => none

/-! ## Written form -/

/-- A UTF-16 unit as an escape. -/
def unitEscape (n : Nat) : List Char :=
  '\\' :: 'u' :: Text.hexDigits 4 n

/-- A character within a string. -/
def escapedChar (c : Char) : List Char :=
  match c with
  | '"' => ['\\', '"']
  | '\\' => ['\\', '\\']
  | '\n' => ['\\', 'n']
  | '\r' => ['\\', 'r']
  | '\t' => ['\\', 't']
  | '\x08' => ['\\', 'b']
  | '\x0c' => ['\\', 'f']
  | c =>
    let n := c.toNat
    if 0x20 ≤ n ∧ n < 0x7F then [c]
    else if n < 0x10000 then unitEscape n
    else unitEscape (0xD800 + (n - 0x10000) / 0x400) ++ unitEscape (0xDC00 + (n - 0x10000) % 0x400)

/-- A string between its quotes. -/
def quote (s : String) : String :=
  String.ofList ('"' :: s.toList.flatMap escapedChar ++ ['"'])

/-- A line end and the indentation of a level. -/
def newLine (level : Nat) : String :=
  "\n" ++ String.ofList (List.replicate (2 * level) ' ')

mutual

/-- The written form of a value within some levels of others. -/
def renderAt (level : Nat) : Json → String
  | .null => "null"
  | .bool true => "true"
  | .bool false => "false"
  | .int n => toString n
  | .decimal literal => literal
  | .string s => quote s
  | .array [] => "[]"
  | .array (item :: items) =>
    "[" ++ newLine (level + 1) ++ renderAt (level + 1) item ++ renderItems (level + 1) items
      ++ newLine level ++ "]"
  | .object [] => "\x7b\x7d"
  | .object ((name, value) :: members) =>
    "\x7b" ++ newLine (level + 1) ++ quote name ++ ": " ++ renderAt (level + 1) value
      ++ renderMembers (level + 1) members ++ newLine level ++ "\x7d"

/-- The written form of the items behind the first one. -/
def renderItems (level : Nat) : List Json → String
  | [] => ""
  | item :: items => "," ++ newLine level ++ renderAt level item ++ renderItems level items

/-- The written form of the members behind the first one. -/
def renderMembers (level : Nat) : List (String × Json) → String
  | [] => ""
  | (name, value) :: members =>
    "," ++ newLine level ++ quote name ++ ": " ++ renderAt level value
      ++ renderMembers level members

end

/-- The written form of a value. -/
def render (value : Json) : String :=
  renderAt 0 value

/-! ## Words for values -/

/-- The digits of a number and the power of ten they are multiplied with, from its literal. -/
def readDecimal (literal : String) : Bool × List Char × Int :=
  let cs := literal.toList
  let isNegative := cs.head? == some '-'
  let unsigned := if isNegative then cs.drop 1 else cs
  let mantissa := unsigned.takeWhile fun c => c != 'e' && c != 'E'
  let exponent := (unsigned.dropWhile fun c => c != 'e' && c != 'E').drop 1
  let fraction := (mantissa.dropWhile (· != '.')).drop 1
  let digits := ((mantissa.filter Char.isDigit).dropWhile (· == '0')).reverse
  let power : Int := ((String.ofList (exponent.filter (· != '+'))).toInt?).getD 0
  let zeros := (digits.takeWhile (· == '0')).length
  (isNegative, (digits.drop zeros).reverse, power - fraction.length + zeros)

/-- The words for the absolute value of a number, by its digits and the power of ten they are
multiplied with: positional from a ten-thousandth up to ten thousand million million, with at least
one digit on each side of the point, and with an exponent of at least two digits beyond. -/
def magnitudeWords (digits : List Char) (power : Int) : String :=
  let zeros (n : Int) : List Char := List.replicate n.toNat '0'
  let point : Int := digits.length + power
  if digits.isEmpty then "0.0"
  else if -4 < point ∧ point ≤ 16 then
    let whole := digits.take point.toNat ++ zeros (point - digits.length)
    let fraction := zeros (-point) ++ digits.drop point.toNat
    String.ofList (if whole.isEmpty then ['0'] else whole) ++ "."
      ++ String.ofList (if fraction.isEmpty then ['0'] else fraction)
  else
    let exponent := (point - 1).natAbs
    let fraction := if digits.length = 1 then "" else "." ++ String.ofList (digits.drop 1)
    String.ofList (digits.take 1) ++ fraction ++ "e" ++ (if point - 1 < 0 then "-" else "+")
      ++ (if exponent < 10 then "0" else "") ++ toString exponent

/-- The words for a number that is not written as a whole one. -/
def decimalWords (literal : String) : String :=
  match literal with
  | "NaN" => "nan"
  | "Infinity" => "inf"
  | "-Infinity" => "-inf"
  | literal =>
    let (isNegative, digits, power) := readDecimal literal
    (if isNegative then "-" else "") ++ magnitudeWords digits power

mutual

/-- The words by which a value within another is named. -/
def innerWords : Json → String
  | .null => "None"
  | .bool b => if b then "True" else "False"
  | .int n => toString n
  | .decimal literal => decimalWords literal
  | .string s => Text.quoted s
  | .array [] => "[]"
  | .array (item :: items) => "[" ++ innerWords item ++ itemWords items ++ "]"
  | .object [] => "\x7b\x7d"
  | .object ((name, value) :: members) =>
    "\x7b" ++ Text.quoted name ++ ": " ++ innerWords value ++ memberWords members ++ "\x7d"

/-- The words for the items behind the first one. -/
def itemWords : List Json → String
  | [] => ""
  | item :: items => ", " ++ innerWords item ++ itemWords items

/-- The words for the members behind the first one. -/
def memberWords : List (String × Json) → String
  | [] => ""
  | (name, value) :: members =>
    ", " ++ Text.quoted name ++ ": " ++ innerWords value ++ memberWords members

end

/-- The words by which a value is named; a text stands for itself. -/
def words : Json → String
  | .string s => s
  | value => innerWords value

/-- The name of the type of a value. -/
def typeName : Json → String
  | .null => "NoneType"
  | .bool _ => "bool"
  | .int _ => "int"
  | .decimal _ => "float"
  | .string _ => "str"
  | .array _ => "list"
  | .object _ => "dict"

end Json

end VuserScript
