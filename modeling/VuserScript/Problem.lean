/-
  VuserScript.Problem

  Everything that can stop an operation. Some problems are foreseen and end a
  conversion with an error in its report; the others are not handled by it.
-/
import VuserScript.Options
import VuserScript.Storage.Path
import VuserScript.Storage.Trouble
import VuserScript.Text.Markup
import VuserScript.Xml.Fault
import VuserScript.Yaml.Fault

namespace VuserScript

open Storage (Cause Path Trouble)

/-- Why a plan cannot be loaded. -/
inductive PlanProblem where
  | missing (path : String)
  | malformed (problem : Xml.Malformed)
  | unreadable (trouble : Trouble)
  | wrongRoot (tag : String)
  deriving DecidableEq, Repr

/-- The wording of a problem with a plan. -/
def PlanProblem.message : PlanProblem → String
  | missing path => "JMX file does not exist: " ++ path
  | malformed problem => "Failed to parse JMX file: " ++ problem.message
  | unreadable trouble => "Failed to read JMX file: " ++ trouble.message
  | wrongRoot tag =>
    "Invalid JMX file: root element is '" ++ tag ++ "', expected 'jmeterTestPlan'"

/-- Why a file holds no options. -/
inductive OptionsFileProblem where
  | malformed (path : String) (failure : Yaml.Failure)
  | notMapping (path : String)
  deriving DecidableEq, Repr

/-- The wording of a problem with a file of options. Places in it are told by the normal form of
the path. -/
def OptionsFileProblem.message : OptionsFileProblem → String
  | malformed path failure =>
    "Invalid YAML syntax in " ++ path ++ ": " ++ failure.message (Path.parse path).text
  | notMapping path => "Invalid options format in " ++ path ++ ": expected dictionary"

/-- Why an operation stops. -/
inductive Problem where
  | plan (problem : PlanProblem)
  /-- A folder cannot be made; `what` tells which kind of folder. -/
  | folder (what path : String) (trouble : Trouble)
  /-- A file of a script cannot be written. -/
  | scriptFile (path : String) (trouble : Trouble)
  | options (problem : OptionsProblem)
  | optionsFile (problem : OptionsFileProblem)
  | optionsMissing (path : String)
  /-- An argument that a tool needs is missing. -/
  | argumentMissing (name : String)
  | storage (trouble : Trouble)
  /-- The encoding of a document cannot be used. -/
  | encoding (failure : Xml.Failure)
  /-- The bytes of a file are no text. -/
  | undecodable (fault : Text.Utf8Fault)
  /-- A scalar of a file is no value of the type it claims. -/
  | misfit (m : Yaml.Misfit)
  /-- A closing tag in what is to be shown has nothing to close. -/
  | markup (fault : Text.MarkupFault)
  /-- Something has a type that an operation has no use for. -/
  | type (message : String)
  /-- Something has a value that an operation has no use for. -/
  | value (message : String)
  deriving DecidableEq, Repr

namespace Problem

/-- Whether the problem is one that conversions foresee. -/
def isForeseen : Problem → Bool
  | plan _ | folder .. | scriptFile .. | options _ | optionsFile _ => true
  | _ => false

/-- The wording of a problem. -/
def message : Problem → String
  | plan problem => problem.message
  | folder what path trouble =>
    "Unable to create " ++ what ++ ": " ++ path ++ " (" ++ trouble.message ++ ")"
  | scriptFile path trouble => "Failed to write " ++ path ++ ": " ++ trouble.message
  | options problem => problem.message
  | optionsFile problem => problem.message
  | optionsMissing path => "Options file not found: " ++ path
  | argumentMissing name => Text.quoted name
  | storage trouble => trouble.message
  | encoding failure =>
    match failure with
    | .malformed problem => problem.message
    | .noSuchEncoding name => "unknown encoding: " ++ name
    | .notTextEncoding name => Text.quoted name
        ++ " is not a text encoding; use codecs.decode() to handle arbitrary codecs"
    | .multiByteEncoding => "multi-byte encodings are not supported"
    | .refusingEncoding name reason =>
      "decoding with " ++ Text.quoted name ++ " codec failed (UnicodeError: " ++ reason ++ ")"
    | .asciiOnlyEncoding =>
      "'ascii' codec can't decode byte 0x80 in position 82: ordinal not in range(128)"
  | undecodable fault => fault.message
  | misfit m => m.message
  | markup fault => fault.message
  | type text | value text => text

/-- The word for the kind of a trouble with files. -/
def troubleKind : Trouble → String
  | .system .noEntry _ => "FileNotFoundError"
  | .system .denied _ => "PermissionError"
  | .system .alreadyExists _ => "FileExistsError"
  | .system .notFolder _ => "NotADirectoryError"
  | .system .isFolder _ => "IsADirectoryError"
  | .system .nameTooLong _ => "OSError"
  | .sameFile .. => "SameFileError"
  | .zeroCharacter => "ValueError"

/-- The word for the kind of a problem, by which answers tell problems apart. -/
def kind : Problem → String
  | plan _ => "JMXParseException"
  | folder .. => "OutputDirectoryException"
  | scriptFile .. => "ConversionException"
  | options _ | optionsFile _ => "ConfigException"
  | optionsMissing _ => "FileNotFoundError"
  | argumentMissing _ => "KeyError"
  | storage trouble => troubleKind trouble
  | encoding failure =>
    match failure with
    | .malformed _ => "ParseError"
    | .noSuchEncoding _ | .notTextEncoding _ => "LookupError"
    | .multiByteEncoding => "ValueError"
    | .refusingEncoding .. => "UnicodeError"
    | .asciiOnlyEncoding => "UnicodeDecodeError"
  | undecodable _ => "UnicodeDecodeError"
  | misfit m => m.kind
  | markup _ => "MarkupError"
  | type _ => "TypeError"
  | value _ => "ValueError"

end Problem

end VuserScript
