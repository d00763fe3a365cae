/-
  VuserScript.Yaml.Value.OfScalar

  The values of scalars. A tag may claim a type that a scalar has not by its
  form, so that reading a value can fail.
-/
import VuserScript.Text.Blank
import VuserScript.Text.DecimalDigit
import VuserScript.Text.LowerCase
import VuserScript.Yaml.Cursor
import VuserScript.Yaml.Schema
import VuserScript.Yaml.Value

namespace VuserScript.Yaml.Scalar

/-! ## Numbers in any script -/

/-- The form in which a character of a number is read: a decimal digit of any script as the one of
ASCII, a blank outside ASCII as a space, and nothing else outside ASCII. -/
def plainForm (c : Char) : Char :=
  if c.toNat < 0x7F then c
  else match Text.decimalValue? c with
    | some n => Char.ofNat ('0'.toNat + n)
    | none => if Text.isBlank c then ' ' else '?'

/-- A blank that may stand around a number. -/
def isPadding (c : Char) : Bool :=
  c == ' ' || ('\t' ≤ c && c ≤ '\r')

/-- The sign and the digits of a number that may have blanks around it. -/
def unpadded (cs : List Char) : List Char :=
  (((cs.map plainForm).dropWhile isPadding).reverse.dropWhile isPadding).reverse

/-! ## Whole numbers -/

/-- The value of a digit in a base up to sixteen. -/
def digit? (base : Nat) (c : Char) : Option Nat :=
  if isHexDigit c && digitValue c < base then some (digitValue c) else none

/-- The digits of a number behind a mark of its base, which is a zero and a letter. -/
def unmarked (base : Nat) : List Char → List Char
  | '0' :: mark :: digits =>
    if (base = 2 ∧ (mark = 'b' ∨ mark = 'B')) ∨ (base = 8 ∧ (mark = 'o' ∨ mark = 'O'))
        ∨ (base = 16 ∧ (mark = 'x' ∨ mark = 'X')) then digits
    else '0' :: mark :: digits
  | cs => cs

/-- The number that a text writes in a base, with a sign or none and blanks around it. -/
def intIn (base : Nat) (cs : List Char) : Except Misfit Int :=
  let number := unpadded cs
  let body := unmarked base (Schema.unsigned number)
  let digits := body.takeWhile fun c => (digit? base c).isSome
  if base = 10 ∧ longestInt < digits.length then .error (.longInteger digits.length)
  else if digits.isEmpty ∨ digits.length < body.length then
    .error (.integer base (String.ofList cs))
  else
    let n : Int := numberOf base digits
    .ok (if number.head? = some '-' then -n else n)

/-- The parts of a text between colons. -/
def groups : List Char → List (List Char)
  | [] => [[]]
  | c :: rest =>
    match groups rest with
    | first :: others => if c = ':' then [] :: first :: others else (c :: first) :: others
    | [] => [[c]]

/-- The value of a sign and what follows it. -/
def negated (cs : List Char) : Bool :=
  cs.head? = some '-'

/-- A whole number: binary behind `0b`, hexadecimal behind `0x`, octal behind `0`, with groups in
base sixty between colons, and decimal otherwise. Underscores do not count. -/
def int (s : String) : Except Misfit Int := do
  let cs := s.toList.filter (· ≠ '_')
  let body := Schema.unsigned cs
  if body.isEmpty then throw .emptyNumber
  let n ← match body with
    | ['0'] => pure 0
    | '0' :: 'b' :: digits => intIn 2 digits
    | '0' :: 'x' :: digits => intIn 16 digits
    | '0' :: _ => intIn 8 body
    | _ =>
      if ':' ∈ body then
        let parts ← (groups body).mapM (intIn 10)
        pure (parts.foldl (fun n part => n * 60 + part) 0)
      else intIn 10 body
  pure (if negated cs then -n else n)

/-! ## Numbers with a period -/

/-- The number that digits with a period and an exponent write. -/
def decimal? (cs : List Char) : Option Float := do
  let whole := cs.takeWhile Char.isDigit
  let rest := cs.dropWhile Char.isDigit
  let (fraction, rest) := match rest with
    | '.' :: rest => (rest.takeWhile Char.isDigit, rest.dropWhile Char.isDigit)
    | rest => ([], rest)
  if whole.isEmpty && fraction.isEmpty then failure
  let exponent ← match rest with
    | [] => pure 0
    | 'e' :: power =>
      let digits := Schema.unsigned power
      if digits.isEmpty || digits.any fun c => !c.isDigit then failure
      let n : Int := numberOf 10 digits
      pure (if negated power then -n else n)
    | _ => failure
  let scale := exponent - fraction.length
  let digits := (whole ++ fraction).dropWhile (· == '0')
  -- Numbers that are too large or too small for a float are not worked out.
  let magnitude := scale + digits.length
  if digits.isEmpty ∨ magnitude < -400 then pure 0.0
  else if 400 < magnitude then pure (1.0 / 0.0)
  else pure (Float.ofScientific (numberOf 10 digits) (decide (scale < 0)) scale.natAbs)

/-- The number that a text in lower case writes, with a sign or none and blanks around it. -/
def floatIn (cs : List Char) : Except Misfit Float :=
  let number := unpadded cs
  let body := Schema.unsigned number
  let sign (x : Float) : Float := if negated number then -x else x
  if body = "inf".toList ∨ body = "infinity".toList then .ok (sign (1.0 / 0.0))
  else if body = "nan".toList then .ok (0.0 / 0.0)
  else match decimal? body with
    | some x => .ok (sign x)
    | none => .error (.decimal (String.ofList cs))

/-- Adds groups in base sixty to a number, the last group first. The weight of each group has to be
a number that a float can hold. -/
def addSixties (sum : Float) (weight : Nat) : List Float → Except Misfit Float
  | [] => .ok sum
  | x :: groups =>
    if 2 ^ 1024 ≤ weight then .error .weight
    else addSixties (sum + x * Float.ofNat weight) (weight * 60) groups

/-- A number with a period, which may have groups in base sixty. -/
def float (s : String) : Except Misfit Float := do
  let cs := Text.lowerList (s.toList.filter (· ≠ '_'))
  if cs.isEmpty then throw .emptyNumber
  let body := Schema.unsigned cs
  let x ← if body = ".inf".toList then pure (1.0 / 0.0)
    else if body = ".nan".toList then pure (0.0 / 0.0)
    else if ':' ∈ body then
      let parts ← (groups body).mapM floatIn
      addSixties 0.0 1 parts.reverse
    else floatIn body
  pure (if negated cs then -x else x)

/-! ## Truth values -/

/-- A truth value, in any case of letters. -/
def bool (s : String) : Except Misfit Bool :=
  let word := String.ofList (Text.lowerList s.toList)
  match Schema.truths.lookup word with
  | some b => .ok b
  | none => .error (.truth word)

/-! ## Moments -/

/-- A year with a day more than others. -/
def isLeapYear (year : Nat) : Bool :=
  year % 4 == 0 && (year % 100 != 0 || year % 400 == 0)

/-- The days of a month. -/
def daysIn (year month : Nat) : Nat :=
  if month = 2 then if isLeapYear year then 29 else 28
  else if month ∈ [4, 6, 9, 11] then 30 else 31

/-- Refuses a zone that is a day or more away. -/
def checkZone (west : Bool) (hours minutes : Nat) : Except Misfit Unit :=
  let distance := hours * 3600 + minutes * 60
  let seconds : Int := if west then -distance else distance
  if distance < 86400 then .ok () else .error (.timeZone (seconds / 86400) (seconds % 86400).toNat)

/-- Refuses a date that is in no calendar. -/
def checkDate (m : Schema.Moment) : Except Misfit Unit :=
  if m.year = 0 then .error (.year m.year)
  else if m.month = 0 ∨ 12 < m.month then .error .month
  else if m.day = 0 ∨ daysIn m.year m.month < m.day then .error .day
  else .ok ()

/-- Refuses a time that is on no clock. -/
def checkTime (hour minute second : Nat) : Except Misfit Unit :=
  if 24 ≤ hour then .error .hour
  else if 60 ≤ minute then .error .minute
  else if 60 ≤ second then .error .second
  else .ok ()

/-- A date, or a moment of one. -/
def moment (s : String) : Except Misfit Value := do
  match Schema.moment? (Schema.withoutFinalBreak s.toList) with
  | none => throw .moment
  | some m =>
    match m.time with
    | none =>
      checkDate m
      pure .date
    | some (hour, minute, second) =>
      match m.zone with
      | some (west, hours, minutes) => checkZone west hours minutes
      | none => pure ()
      checkDate m
      checkTime hour minute second
      pure (.moment m.zone.isSome)

/-! ## Bytes -/

/-- The characters that are not ASCII and come first, with how many come before them. -/
def foreign? (position : Nat) : List Char → Option (Nat × List Char)
  | [] => none
  | c :: rest =>
    if c.toNat < 128 then foreign? (position + 1) rest
    else some (position, c :: rest.takeWhile fun d => 128 ≤ d.toNat)

/-- A digit in base 64. -/
def isDigit64 (c : Char) : Bool :=
  c.isAlphanum || c == '+' || c == '/'

/-- What is wrong with a text in base 64 behind some digits and padding marks. Other characters
do not count. -/
def fault64 (digits marks : Nat) : List Char → Option Complaint
  | [] =>
    if digits % 4 = 0 then none
    else if digits % 4 = 1 then some (.loneDigit digits)
    else some .wrongPadding
  | c :: rest =>
    if c = '=' then
      if digits % 4 < 2 then fault64 digits marks rest
      else if 4 ≤ digits % 4 + marks + 1 then none
      else fault64 digits (marks + 1) rest
    else if isDigit64 c then fault64 (digits + 1) 0 rest
    else fault64 digits marks rest

/-- What is wrong with a text that is to stand for bytes. -/
def bytesFault (s : String) : Option Complaint :=
  match foreign? 0 s.toList with
  | some (position, found) => some (.notAscii position found)
  | none => fault64 0 0 s.toList

end VuserScript.Yaml.Scalar
