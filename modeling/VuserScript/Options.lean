/-
  VuserScript.Options

  The options of a conversion, and reading them from named values. Names that
  are no option are reported first, all of them in the order of code points;
  then the first value of a wrong type in the order in which they are given.
-/
import VuserScript.Json

namespace VuserScript

/-- What can be chosen for a conversion. -/
structure Options where
  /-- Whether extractors become registrations. -/
  enableCorrelation : Bool := true
  /-- What the names of script folders start with. -/
  scriptPrefix : String := "Script_"
  /-- Whether each CSV file gets a second copy with the extension of data files. -/
  writeDatFiles : Bool := true
  deriving DecidableEq, Repr

/-- A value that an option may be given. -/
inductive OptionValue where
  | bool (b : Bool)
  | text (s : String)
  /-- A value of another type, by the name of the type. -/
  | other (typeName : String)
  deriving DecidableEq, Repr

namespace OptionValue

/-- The name of the type of a value. -/
def typeName : OptionValue → String
  | bool _ => "bool"
  | text _ => "str"
  | other name => name

/-- A structured value as the value of an option. A number is not a switch. -/
def ofJson : Json → OptionValue
  | .bool b => .bool b
  | .string s => .text s
  | value => .other value.typeName

end OptionValue

/-- Why named values are no options; `source` tells where they come from. -/
inductive OptionsProblem where
  | unknownNames (source : String) (names : List String)
  | wrongType (source name expected found : String)
  deriving DecidableEq, Repr

/-- The wording of a problem with options. -/
def OptionsProblem.message : OptionsProblem → String
  | unknownNames source names =>
    "Unknown option(s) in " ++ source ++ ": " ++ ", ".intercalate names
  | wrongType source name expected found =>
    "Invalid value for '" ++ name ++ "' in " ++ source ++ ": expected " ++ expected ++ ", got "
      ++ found

namespace Options

/-- The names of the options. -/
def names : List String :=
  ["enable_correlation", "script_prefix", "write_dat_files"]

/-- Gives a value to an option. -/
def set (source : String) (o : Options) (name : String) (value : OptionValue) :
    Except OptionsProblem Options :=
  let refuse (expected : String) : Except OptionsProblem Options :=
    .error (.wrongType source name expected value.typeName)
  match name, value with
  | "enable_correlation", .bool b => .ok { o with enableCorrelation := b }
  | "write_dat_files", .bool b => .ok { o with writeDatFiles := b }
  | "script_prefix", .text s => .ok { o with scriptPrefix := s }
  | "script_prefix", _ => refuse "str"
  | _, _ => refuse "bool"

/-- Gives values to options one after another. -/
def setAll (source : String) (o : Options) :
    List (String × OptionValue) → Except OptionsProblem Options
  | [] => .ok o
  | (name, value) :: rest => do
    let o ← o.set source name value
    o.setAll source rest

/-- The options that named values give; what is not named keeps its default. -/
def ofEntries (source : String) (entries : List (String × OptionValue)) :
    Except OptionsProblem Options :=
  let unknown := (entries.map (·.1)).filter fun name => !names.contains name
  if unknown.isEmpty then setAll source {} entries
  else .error (.unknownNames source (unknown.mergeSort fun a b => decide (a ≤ b)))

/-- The named values that give these options. -/
def entries (o : Options) : List (String × OptionValue) :=
  [("enable_correlation", .bool o.enableCorrelation), ("script_prefix", .text o.scriptPrefix),
    ("write_dat_files", .bool o.writeDatFiles)]

/-- The options as a structured value. -/
def toJson (o : Options) : Json :=
  .object [("enable_correlation", .bool o.enableCorrelation),
    ("script_prefix", .string o.scriptPrefix), ("write_dat_files", .bool o.writeDatFiles)]

end Options

end VuserScript
