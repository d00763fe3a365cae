/-
  VuserScript.Script.Statement

  The statements of an action and how they are written. Each is a call, spread
  over lines and followed by an empty line. Names and methods are only escaped;
  in all other texts the references to variables are written in the form of a script first.
-/
import VuserScript.Plan.Correlation
import VuserScript.Plan.Request
import VuserScript.Text.Literal

namespace VuserScript.Script

open Plan (Argument Correlation Request)

/-- A statement of an action. -/
inductive Statement where
  /-- Registers a parameter that the next answer gives a value to. -/
  | register (c : Correlation)
  | start (name : String)
  | request (r : Request)
  | finish (name : String)
  deriving DecidableEq, Repr

/-- A text with its references in the form of a script, as it stands in a literal. -/
def literal (s : String) : String :=
  Text.escape (Text.scriptForm s)

/-- A field of a call: a literal with a key, indented, and a comma. -/
def fieldLine (key value : String) : String :=
  "        \"" ++ key ++ "=" ++ value ++ "\","

/-- The last line of a call, and the empty line behind it. -/
def lastLines : List String :=
  ["        LAST);", ""]

/-! ## Transactions -/

/-- The lines that start a transaction. -/
def startLines (name : String) : List String :=
  ["    lr_start_transaction(\"" ++ Text.escape name ++ "\");", ""]

/-- The lines that end a transaction. -/
def finishLines (name : String) : List String :=
  ["    lr_end_transaction(\"" ++ Text.escape name ++ "\", LR_AUTO);", ""]

/-! ## Registrations -/

/-- The lines that register a correlation. -/
def registrationLines (c : Correlation) : List String :=
  let (function, key) := match c.kind with
    | .regex => ("web_reg_save_param_ex", "RegExp")
    | .json => ("web_reg_save_param_json", "QueryString")
  ["    " ++ function ++ "(",
    fieldLine "ParamName" (Text.escape c.parameter),
    fieldLine key (literal c.expression)] ++ lastLines

/-! ## Requests -/

/-- The line of an argument in a form. -/
def itemLine (a : Argument) : String :=
  "        \"Name=" ++ literal a.name ++ "\", \"Value=" ++ literal a.value ++ "\", ENDITEM,"

/-- The lines of a request by GET, with the arguments in the URL. -/
def getLines (r : Request) : List String :=
  ["    web_url(\"" ++ Text.escape r.name ++ "\",",
    fieldLine "URL" (literal (Plan.appendQuery r.baseUrl r.arguments)),
    fieldLine "TargetFrame" "",
    fieldLine "Resource" "0",
    fieldLine "Mode" "HTTP"] ++ lastLines

/-- The lines of a request with a body of its own, or with none. -/
def customLines (r : Request) (body : Option String) : List String :=
  ["    web_custom_request(\"" ++ Text.escape r.name ++ "\",",
    fieldLine "URL" (literal r.baseUrl),
    fieldLine "Method" (Text.escape r.method),
    fieldLine "Resource" "0",
    fieldLine "Mode" "HTTP"]
    ++ (body.map fun body => fieldLine "Body" (literal body)).toList
    ++ lastLines

/-- The lines of a request that sends its arguments as a form. -/
def formLines (r : Request) : List String :=
  ["    web_submit_data(\"" ++ Text.escape r.name ++ "\",",
    fieldLine "Action" (literal r.baseUrl),
    fieldLine "Method" (Text.escape r.method),
    fieldLine "TargetFrame" "",
    fieldLine "Resource" "0",
    fieldLine "Mode" "HTTP",
    "        ITEMDATA,"]
    ++ r.arguments.map itemLine
    ++ lastLines

/-- The lines of a request. Other methods than GET send the first argument as the body if it is
raw, the arguments as a form if there are any, and no body otherwise. -/
def requestLines (r : Request) : List String :=
  if r.isGet then getLines r
  else if r.rawBody then
    customLines r (some (match r.arguments with
      | a :: _ => a.value
      | [] => ""))
  else if r.arguments.isEmpty then customLines r none
  else formLines r

/-! ## All statements -/

/-- The lines of a statement. A line may hold line ends that come from the plan. -/
def Statement.lines : Statement → List String
  | .register c => registrationLines c
  | .start name => startLines name
  | .request r => requestLines r
  | .finish name => finishLines name

end VuserScript.Script
