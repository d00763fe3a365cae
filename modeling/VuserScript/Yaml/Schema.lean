/-
  VuserScript.Yaml.Schema

  Tags, and the types that plain scalars have by their form. The types are the
  ones of version 1.1: among others `yes` and `off` are truth values, digits
  behind a zero are octal, and colons separate groups in base sixty.
-/

namespace VuserScript.Yaml

/-! ## Tags -/

/-- The types that every text can use. -/
inductive CoreType where
  | null
  | bool
  | int
  | float
  | binary
  | timestamp
  | orderedMap
  | pairs
  | set
  | text
  | sequence
  | mapping
  /-- The key under which other mappings are merged. -/
  | merge
  /-- The key under which a mapping has its value as a scalar. -/
  | value
  | indicator
  deriving DecidableEq, Repr

namespace CoreType

/-- The name of a type in tags. -/
def name : CoreType → String
  | null => "null"
  | bool => "bool"
  | int => "int"
  | float => "float"
  | binary => "binary"
  | timestamp => "timestamp"
  | orderedMap => "omap"
  | pairs => "pairs"
  | set => "set"
  | text => "str"
  | sequence => "seq"
  | mapping => "map"
  | merge => "merge"
  | value => "value"
  | indicator => "yaml"

/-- All types. -/
def all : List CoreType :=
  [null, bool, int, float, binary, timestamp, orderedMap, pairs, set, text, sequence, mapping,
    merge, value, indicator]

/-- How the tags of the types start. -/
def firstPart : String := "tag:yaml.org,2002:"

end CoreType

/-- What a node claims to be. -/
inductive Tag where
  | core (type : CoreType)
  | other (text : String)
  deriving DecidableEq, Repr

namespace Tag

/-- The tag with a written form. -/
def ofText (s : String) : Tag :=
  match CoreType.all.find? fun t => CoreType.firstPart ++ t.name == s with
  | some t => .core t
  | none => .other s

/-- The written form of a tag. -/
def text : Tag → String
  | core t => CoreType.firstPart ++ t.name
  | other s => s

end Tag

namespace Schema

/-! ## Numbers -/

/-- A digit or an underscore. -/
def isSpacedDigit (c : Char) : Bool :=
  c.isDigit || c == '_'

/-- The characters behind a sign, if there is one. -/
def unsigned : List Char → List Char
  | '+' :: rest | '-' :: rest => rest
  | cs => cs

/-- Groups of a number in base sixty up to the end, each behind a colon. -/
def isSixties : List Char → Bool
  | ':' :: a :: rest =>
    a.isDigit && match rest with
      | [] => true
      | ':' :: more => isSixties (':' :: more)
      | b :: more => a ≤ '5' && b.isDigit && (more.isEmpty || isSixties more)
  | _ => false

/-- A whole number. -/
def isInt (cs : List Char) : Bool :=
  match unsigned cs with
  | '0' :: 'b' :: digits => !digits.isEmpty && digits.all fun c => c == '0' || c == '1' || c == '_'
  | '0' :: 'x' :: digits => !digits.isEmpty && digits.all fun c =>
      isSpacedDigit c || ('a' ≤ c && c ≤ 'f') || ('A' ≤ c && c ≤ 'F')
  | '0' :: digits => digits.all fun c => ('0' ≤ c && c ≤ '7') || c == '_'
  | d :: rest =>
    let more := rest.dropWhile isSpacedDigit
    d.isDigit && (more.isEmpty || isSixties more)
  | [] => false

/-- An exponent, or nothing. -/
def isExponent : List Char → Bool
  | [] => true
  | e :: sign :: digits =>
    (e == 'e' || e == 'E') && (sign == '+' || sign == '-') && !digits.isEmpty
      && digits.all Char.isDigit
  | _ => false

/-- Digits and underscores with an exponent or none. -/
def isFraction (cs : List Char) : Bool :=
  isExponent (cs.dropWhile isSpacedDigit)

/-- Whether the first character is a digit. -/
def startsWithDigit (cs : List Char) : Bool :=
  cs.head?.any Char.isDigit

/-- A number with a period. -/
def isFloat (cs : List Char) : Bool :=
  let body := unsigned cs
  let whole := body.takeWhile (· ≠ '.')
  match body.dropWhile (· ≠ '.') with
  | [] => false
  | _ :: fraction =>
    if whole.isEmpty then
      (cs.length == body.length && startsWithDigit fraction && isFraction fraction)
        || fraction ∈ ["inf".toList, "Inf".toList, "INF".toList]
        || cs ∈ [".nan".toList, ".NaN".toList, ".NAN".toList]
    else
      startsWithDigit whole && match whole.dropWhile isSpacedDigit with
        | [] => isFraction fraction
        | groups => isSixties groups && fraction.all isSpacedDigit

/-! ## Moments -/

/-- A date, and the time of the day with a zone, as far as they are given. -/
structure Moment where
  year : Nat
  month : Nat
  day : Nat
  time : Option (Nat × Nat × Nat)
  /-- Whether the zone lies to the west, and its hours and minutes, both zero for `Z`. -/
  zone : Option (Bool × Nat × Nat)
  deriving DecidableEq, Repr

/-- The number of two digits. -/
def pairValue (a b : Char) : Nat :=
  (a.toNat - '0'.toNat) * 10 + (b.toNat - '0'.toNat)

/-- One or two digits, and what follows them. -/
def shortNumber : List Char → Option (Nat × List Char)
  | a :: b :: rest =>
    if a.isDigit && b.isDigit then some (pairValue a b, rest)
    else if a.isDigit then some (pairValue '0' a, b :: rest)
    else none
  | [a] => if a.isDigit then some (pairValue '0' a, []) else none
  | [] => none

/-- Two digits, and what follows them. -/
def longNumber : List Char → Option (Nat × List Char)
  | a :: b :: rest => if a.isDigit && b.isDigit then some (pairValue a b, rest) else none
  | _ => none

/-- What follows a character that has to come first. -/
def behind (c : Char) : List Char → Option (List Char)
  | d :: rest => if d = c then some rest else none
  | [] => none

/-- A space or a tab. -/
def isFiller (c : Char) : Bool :=
  c == ' ' || c == '\t'

/-- A zone up to the end, or nothing. -/
def zone? (cs : List Char) : Option (Option (Bool × Nat × Nat)) := do
  if cs.isEmpty then return none
  match cs.dropWhile isFiller with
  | ['Z'] => pure (some (false, 0, 0))
  | sign :: rest =>
    if sign ≠ '+' ∧ sign ≠ '-' then failure
    let (hours, rest) ← shortNumber rest
    if rest.isEmpty then return some (sign == '-', hours, 0)
    let (minutes, rest) ← longNumber (← behind ':' rest)
    if rest.isEmpty then pure (some (sign == '-', hours, minutes)) else failure
  | [] => failure

/-- What separates the date from the time. -/
def afterDate? : List Char → Option (List Char)
  | 'T' :: rest | 't' :: rest => some rest
  | c :: rest => if isFiller c then some (rest.dropWhile isFiller) else none
  | [] => none

/-- The moment that a text gives. -/
def moment? (cs : List Char) : Option Moment := do
  let (century, rest) ← longNumber cs
  let (yearOfCentury, rest) ← longNumber rest
  let (month, rest) ← shortNumber (← behind '-' rest)
  let (day, rest) ← shortNumber (← behind '-' rest)
  let year := century * 100 + yearOfCentury
  if rest.isEmpty then return ⟨year, month, day, none, none⟩
  let (hour, rest) ← shortNumber (← afterDate? rest)
  let (minute, rest) ← longNumber (← behind ':' rest)
  let (second, rest) ← longNumber (← behind ':' rest)
  let rest := match rest with
    | '.' :: fraction => fraction.dropWhile Char.isDigit
    | rest => rest
  let zone ← zone? rest
  pure ⟨year, month, day, some (hour, minute, second), zone⟩

/-- A moment; a date alone has two digits for the month and for the day. -/
def isMoment (cs : List Char) : Bool :=
  match moment? cs with
  | some m => m.time.isSome || cs.length == 10
  | none => false

/-! ## Types by form -/

/-- The words that are truth values. -/
def truths : List (String × Bool) :=
  [("yes", true), ("no", false), ("true", true), ("false", false), ("on", true), ("off", false)]

/-- A word in lower case, in upper case, or with its first letter in upper case. -/
def isWord (word cs : List Char) : Bool :=
  cs == word || cs == word.map Char.toUpper
    || cs == (word.take 1).map Char.toUpper ++ word.drop 1

/-- The characters without a line feed at the end, unless there is nothing else. -/
def withoutFinalBreak (cs : List Char) : List Char :=
  if cs.getLast? = some '\n' ∧ 1 < cs.length then cs.dropLast else cs

/-- The type that a scalar has by its form. -/
def typeOf (s : String) : CoreType :=
  let cs := withoutFinalBreak s.toList
  if truths.any fun entry => isWord entry.1.toList cs then .bool
  else if isFloat cs then .float
  else if isInt cs then .int
  else if cs == ['<', '<'] then .merge
  else if cs.isEmpty || cs == ['~'] || isWord "null".toList cs then .null
  else if isMoment cs then .timestamp
  else if cs == ['='] then .value
  else if cs == ['!'] || cs == ['&'] || cs == ['*'] then .indicator
  else .text

end Schema

end VuserScript.Yaml
