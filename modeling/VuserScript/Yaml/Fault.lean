/-
  VuserScript.Yaml.Fault

  What can be wrong with a YAML text, and how it is told. A fault has a place
  and often a context, which is what was being read and where that started.
  Apart from faults a text may hold a character that it must not hold, or a
  scalar that is no value of the type its tag names.
-/
import VuserScript.Text.Utf8

namespace VuserScript.Yaml

/-! ## Places -/

/-- A place in a text: the characters before it, and its line and column counted from zero. -/
structure Place where
  index : Nat := 0
  line : Nat := 0
  column : Nat := 0
  deriving DecidableEq, Repr

/-- The line of a message that tells a place. -/
def Place.text (p : Place) (file : String) : String :=
  "  in \"" ++ file ++ "\", line " ++ toString (p.line + 1) ++ ", column "
    ++ toString (p.column + 1)

/-! ## Contexts -/

/-- What is being read when a fault is met. -/
inductive Activity where
  | nextToken
  | simpleKey
  | directive
  | directiveText
  | anchor
  | aliasName
  | tag
  | tagText
  | blockScalar
  | quotedScalar
  | doubleQuotedScalar
  | node
  | blockNode
  | flowNode
  | blockSequence
  | blockMapping
  | flowSequence
  | flowMapping
  /-- The first use of an anchor that is used twice. -/
  | firstAnchor (name : String)
  | onlyDocument
  | mapping
  | orderedMap
  | pairs
  deriving DecidableEq, Repr

/-- The wording of a context. -/
def Activity.message : Activity → String
  | nextToken => "while scanning for the next token"
  | simpleKey => "while scanning a simple key"
  | directive => "while scanning a directive"
  | directiveText => "while parsing a directive"
  | anchor => "while scanning an anchor"
  | aliasName => "while scanning an alias"
  | tag => "while scanning a tag"
  | tagText => "while parsing a tag"
  | blockScalar => "while scanning a block scalar"
  | quotedScalar => "while scanning a quoted scalar"
  | doubleQuotedScalar => "while scanning a double-quoted scalar"
  | node => "while parsing a node"
  | blockNode => "while parsing a block node"
  | flowNode => "while parsing a flow node"
  | blockSequence => "while parsing a block collection"
  | blockMapping => "while parsing a block mapping"
  | flowSequence => "while parsing a flow sequence"
  | flowMapping => "while parsing a flow mapping"
  | firstAnchor name => "found duplicate anchor " ++ Text.quoted name ++ "; first occurrence"
  | onlyDocument => "expected a single document in the stream"
  | mapping => "while constructing a mapping"
  | orderedMap => "while constructing an ordered map"
  | pairs => "while constructing pairs"

/-! ## Complaints -/

/-- What may stand at a place where something else is found. -/
inductive Wanted where
  | nameCharacter
  | digit
  | digitOrPeriod
  | digitOrSpace
  | space
  | exclamationMark
  | closingAngle
  | uri
  | escapedByte
  | hexDigits (count : Nat)
  | commentOrBreak
  | blockIndicators
  deriving DecidableEq, Repr

/-- The wording of what may stand at a place. -/
def Wanted.message : Wanted → String
  | nameCharacter => "alphabetic or numeric character"
  | digit => "a digit"
  | digitOrPeriod => "a digit or '.'"
  | digitOrSpace => "a digit or ' '"
  | space => "' '"
  | exclamationMark => "'!'"
  | closingAngle => "'>'"
  | uri => "URI"
  | escapedByte => "URI escape sequence of 2 hexadecimal numbers"
  | hexDigits count => "escape sequence of " ++ toString count ++ " hexadecimal numbers"
  | commentOrBreak => "a comment or a line break"
  | blockIndicators => "chomping or indentation indicators"

/-- What is wrong at a place. Tokens and kinds of nodes are given by their names. -/
inductive Complaint where
  | wanted (what : Wanted) (found : Option Char)
  | cannotStartToken (found : Char)
  | missingColon
  | entryNotAllowed
  | keyNotAllowed
  | valueNotAllowed
  | zeroIndentation
  | unknownEscape (found : Option Char)
  | endInQuotedScalar
  | separatorInQuotedScalar
  | undecodableTag (fault : Text.Utf8Fault)
  | secondVersion
  | otherVersion
  | secondHandle (handle : String)
  | unknownHandle (handle : String)
  | notDocumentStart (token : String)
  | notContent (token : String)
  | notBlockEnd (token : String)
  | notInFlowSequence (token : String)
  | notInFlowMapping (token : String)
  | unknownAnchor (name : String)
  | secondAnchor
  | secondDocument
  | unknownTag (tag : String)
  | notScalar (kind : String)
  | notSequence (kind : String)
  | notMapping (kind : String)
  | unusableKey
  | notMergeable (kind : String)
  | notMergeableItem (kind : String)
  | notListOfPairs (kind : String)
  | notPair (kind : String)
  | notOneItem (count : Nat)
  /-- Characters of a base 64 text that are not ASCII, and how many come before them. -/
  | notAscii (position : Nat) (found : List Char)
  | wrongPadding
  /-- A base 64 text whose last digit stands alone. -/
  | loneDigit (count : Nat)
  deriving DecidableEq, Repr

/-- How a message shows what comes next; at the end it is the character of number zero. -/
def shown (found : Option Char) : String :=
  Text.quoted (String.singleton (found.getD '\x00'))

/-- The escape that stands for a character in a message. -/
def escaped (c : Char) : String :=
  let n := c.toNat
  String.ofList <|
    if n < 0x100 then '\\' :: 'x' :: Text.hexDigits 2 n
    else if n < 0x10000 then '\\' :: 'u' :: Text.hexDigits 4 n
    else '\\' :: 'U' :: Text.hexDigits 8 n

/-- How a message tells the characters that are not ASCII. -/
def foreignCharacters (position : Nat) : List Char → String
  | [c] => "character '" ++ escaped c ++ "' in position " ++ toString position
  | cs =>
    "characters in position " ++ toString position ++ "-" ++ toString (position + cs.length - 1)

/-- The wording of a complaint. -/
def Complaint.message : Complaint → String
  | wanted what found => "expected " ++ what.message ++ ", but found " ++ shown found
  | cannotStartToken found => "found character " ++ shown found ++ " that cannot start any token"
  | missingColon => "could not find expected ':'"
  | entryNotAllowed => "sequence entries are not allowed here"
  | keyNotAllowed => "mapping keys are not allowed here"
  | valueNotAllowed => "mapping values are not allowed here"
  | zeroIndentation => "expected indentation indicator in the range 1-9, but found 0"
  | unknownEscape found => "found unknown escape character " ++ shown found
  | endInQuotedScalar => "found unexpected end of stream"
  | separatorInQuotedScalar => "found unexpected document separator"
  | undecodableTag fault => fault.message
  | secondVersion => "found duplicate YAML directive"
  | otherVersion => "found incompatible YAML document (version 1.* is required)"
  | secondHandle handle => "duplicate tag handle " ++ Text.quoted handle
  | unknownHandle handle => "found undefined tag handle " ++ Text.quoted handle
  | notDocumentStart token => "expected '<document start>', but found " ++ Text.quoted token
  | notContent token => "expected the node content, but found " ++ Text.quoted token
  | notBlockEnd token => "expected <block end>, but found " ++ Text.quoted token
  | notInFlowSequence token => "expected ',' or ']', but got " ++ Text.quoted token
  | notInFlowMapping token => "expected ',' or '\x7d', but got " ++ Text.quoted token
  | unknownAnchor name => "found undefined alias " ++ Text.quoted name
  | secondAnchor => "second occurrence"
  | secondDocument => "but found another document"
  | unknownTag tag => "could not determine a constructor for the tag " ++ Text.quoted tag
  | notScalar kind => "expected a scalar node, but found " ++ kind
  | notSequence kind => "expected a sequence node, but found " ++ kind
  | notMapping kind => "expected a mapping node, but found " ++ kind
  | unusableKey => "found unhashable key"
  | notMergeable kind => "expected a mapping or list of mappings for merging, but found " ++ kind
  | notMergeableItem kind => "expected a mapping for merging, but found " ++ kind
  | notListOfPairs kind => "expected a sequence, but found " ++ kind
  | notPair kind => "expected a mapping of length 1, but found " ++ kind
  | notOneItem count => "expected a single mapping item, but found " ++ toString count ++ " items"
  | notAscii position found =>
    "failed to convert base64 data into ascii: 'ascii' codec can't encode "
      ++ foreignCharacters position found ++ ": ordinal not in range(128)"
  | wrongPadding => "failed to decode base64 data: Incorrect padding"
  | loneDigit count =>
    "failed to decode base64 data: Invalid base64-encoded string: number of data "
      ++ "characters (" ++ toString count ++ ") cannot be 1 more than a multiple of 4"

/-! ## Faults -/

/-- A complaint, its place, and what was being read. -/
structure Fault where
  context : Option (Activity × Option Place)
  complaint : Complaint
  place : Place
  deriving DecidableEq, Repr

/-- The lines of a message about a fault. The place of the context is left out where it is the
place of the complaint. -/
def Fault.lines (f : Fault) (file : String) : List String :=
  let context := match f.context with
    | none => []
    | some (activity, none) => [activity.message]
    | some (activity, some start) =>
      if start.line = f.place.line ∧ start.column = f.place.column then [activity.message]
      else [activity.message, start.text file]
  context ++ [f.complaint.message, f.place.text file]

/-! ## Misfits -/

/-- The most digits of a whole number in base ten. -/
def longestInt : Nat := 4300

/-- A scalar that is no value of the type its tag names. -/
inductive Misfit where
  | integer (base : Nat) (text : String)
  /-- More digits than are read. -/
  | longInteger (count : Nat)
  | decimal (text : String)
  | truth (text : String)
  | emptyNumber
  | moment
  | year (n : Nat)
  | month
  | day
  | hour
  | minute
  | second
  /-- A time zone a day or more away, by whole days and the seconds behind them. -/
  | timeZone (days : Int) (seconds : Nat)
  /-- An escape past the last character, whose number fits a machine word or does not. -/
  | codePoint (fits : Bool)
  /-- A group in base sixty that weighs more than a float can hold. -/
  | weight
  /-- A moment that is written as a mapping. -/
  | momentInMapping
  /-- A mapping in place of a scalar whose own scalar is, in the end, the mapping itself. -/
  | endless
  deriving DecidableEq, Repr

namespace Misfit

/-- How a time zone is shown. -/
def zoneText (days : Int) (seconds : Nat) : String :=
  "datetime.timedelta(days=" ++ toString days
    ++ (if seconds = 0 then "" else ", seconds=" ++ toString seconds) ++ ")"

/-- The wording of a misfit. -/
def message : Misfit → String
  | integer base text =>
    "invalid literal for int() with base " ++ toString base ++ ": "
      ++ String.ofList ((Text.quoted text).toList.take 200)
  | longInteger count => "Exceeds the limit (4300 digits) for integer string conversion: value has "
      ++ toString count ++ " digits; use sys.set_int_max_str_digits() to increase the limit"
  | decimal text => "could not convert string to float: " ++ Text.quoted text
  | truth text => Text.quoted text
  | emptyNumber => "string index out of range"
  | moment => "'NoneType' object has no attribute 'groupdict'"
  | year n => "year " ++ toString n ++ " is out of range"
  | month => "month must be in 1..12"
  | day => "day is out of range for month"
  | hour => "hour must be in 0..23"
  | minute => "minute must be in 0..59"
  | second => "second must be in 0..59"
  | timeZone days seconds => "offset must be a timedelta strictly between -timedelta(hours=24) and "
      ++ "timedelta(hours=24), not " ++ zoneText days seconds ++ "."
  | codePoint fits =>
    if fits then "chr() arg not in range(0x110000)" else "Python int too large to convert to C int"
  | weight => "int too large to convert to float"
  | momentInMapping => "expected string or bytes-like object, got 'list'"
  | endless => "maximum recursion depth exceeded"

/-- The word for the kind of a misfit. -/
def kind : Misfit → String
  | truth _ => "KeyError"
  | emptyNumber => "IndexError"
  | moment => "AttributeError"
  | codePoint false | weight => "OverflowError"
  | momentInMapping => "TypeError"
  | endless => "RecursionError"
  | _ => "ValueError"

end Misfit

/-! ## Failures -/

/-- Why a text is not read. -/
inductive Failure where
  /-- The bytes of the text make no characters. -/
  | undecodable (fault : Text.Utf8Fault)
  /-- A character that no text holds, and how many come before it. -/
  | unacceptable (found : Char) (index : Nat)
  | fault (f : Fault)
  | misfit (m : Misfit)
  deriving DecidableEq, Repr

/-- Stops with a complaint in a context. -/
def Failure.within (activity : Activity) (start : Place) (complaint : Complaint) (place : Place) :
    Failure :=
  .fault ⟨some (activity, some start), complaint, place⟩

/-- Stops with a complaint alone. -/
def Failure.plain (complaint : Complaint) (place : Place) : Failure :=
  .fault ⟨none, complaint, place⟩

/-- The wording of a failure in a file. -/
def Failure.message (file : String) : Failure → String
  | undecodable problem => problem.message
  | unacceptable found index =>
    "unacceptable character #x" ++ String.ofList (Text.hexDigits 4 found.toNat)
      ++ ": special characters are not allowed\n  in \"" ++ file ++ "\", position "
      ++ toString index
  | fault f => "\n".intercalate (f.lines file)
  | misfit m => m.message

end VuserScript.Yaml
