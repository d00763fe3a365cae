/-
  VuserScript.Tool

  The two tools that are offered to assistants. A call names a tool and gives
  it arguments as a structured value; the answer is the written form of a
  structured value, which tells of every problem instead of passing it on.
-/
import VuserScript.Conversion.Run
import VuserScript.Inspection

namespace VuserScript

/-- The tools. -/
inductive Tool where
  | inspect
  | convert
  deriving DecidableEq, Repr

namespace Tool

/-! ## Descriptions -/

/-- The name of a tool. -/
def name : Tool → String
  | inspect => "inspect_jmx_plan"
  | convert => "convert_jmx_to_loadrunner"

/-- What a tool is for. -/
def description : Tool → String
  | inspect =>
    "Use this tool FIRST when user wants to convert a JMeter test plan to LoadRunner. "
      ++ "Lists Thread Groups with the HTTP samplers, transaction controllers and "
      ++ "Regex/JSON extractors that will be converted, plus CSV Data Set Configs."
  | convert =>
    "Convert a JMeter JMX test plan into LoadRunner Web/HTTP (VuGen) scripts. "
      ++ "Creates one script folder per Thread Group with Action.c, vuser_init.c, "
      ++ "vuser_end.c, default.cfg, parameters.prm, CSV/.dat data files and conversion.log. "
      ++ "HTTP samplers become web_url/web_submit_data/web_custom_request, extractors "
      ++ "become web_reg_save_param_ex/web_reg_save_param_json, $\x7bvar\x7d becomes \x7bvar\x7d."

/-- An argument of a tool, with its default if it has one. -/
def argument (name type description : String) (absent : Option Json) : String × Json :=
  (name, .object ([("type", .string type), ("description", .string description)]
    ++ (absent.map fun value => ("default", value)).toList))

/-- The arguments of a tool. -/
def arguments : Tool → List (String × Json)
  | inspect => [argument "jmx_path" "string" "Path to JMeter JMX file" none]
  | convert => [
    argument "jmx_path" "string" "Path to JMeter JMX file" none,
    argument "output_dir" "string" "Output folder for generated script folders"
      (some (.string "lr_scripts")),
    argument "enable_correlation" "boolean" "Convert Regex/JSON extractors (default: true)"
      (some (.bool true)),
    argument "write_dat_files" "boolean" "Write .dat copies of CSV files (default: true)"
      (some (.bool true)),
    argument "script_prefix" "string" "Prefix of script folder names (default: Script_)"
      (some (.string "Script_"))]

/-- The description of a tool as a structured value. -/
def toJson (t : Tool) : Json :=
  .object [("name", .string t.name), ("description", .string t.description),
    ("inputSchema", .object [("type", .string "object"), ("properties", .object t.arguments),
      ("required", .array [.string "jmx_path"])])]

/-- All tools. -/
def all : List Tool := [inspect, convert]

/-- The tool with a name. -/
def ofName? (name : String) : Option Tool :=
  all.find? fun t => t.name == name

/-! ## Calls -/

/-- The path of the plan among the arguments. -/
def jmxPath (arguments : Json) : Except Problem Json :=
  match arguments with
  | .object _ =>
    match arguments.member? "jmx_path" with
    | some value => .ok value
    | none => .error (.argumentMissing "jmx_path")
  | .array _ => .error (.type "list indices must be integers or slices, not str")
  | .string _ => .error (.type "string indices must be integers, not 'str'")
  | other => .error (.type (Text.quoted other.typeName ++ " object is not subscriptable"))

/-- A value that is to be the text of a path. -/
def pathText : Json → Except Problem String
  | .string s => .ok s
  | other =>
    .error (.type ("expected str, bytes or os.PathLike object, not " ++ other.typeName))

/-- The options among the arguments. -/
def optionsOf (arguments : Json) : Except Problem Options :=
  let given := ["enable_correlation", "write_dat_files", "script_prefix"].filterMap fun name =>
    (arguments.member? name).map fun value => (name, OptionValue.ofJson value)
  match Options.ofEntries "tool arguments" given with
  | .ok options => .ok options
  | .error problem => .error (.options problem)

/-- The answer of the tool that describes a plan. -/
def inspectAnswer (arguments : Json) : Job Json := do
  let path := (← MonadExcept.ofExcept (jmxPath arguments)).words
  let inspection ← Inspection.ofFile path
  pure (.object ([("success", .bool true)] ++ inspection.members
    ++ [("next_step", .string ("Use convert_jmx_to_loadrunner with jmx_path='" ++ path ++ "'"))]))

/-- The answer of the tool that converts a plan. -/
def convertAnswer (arguments : Json) : Job Json := do
  let path ← MonadExcept.ofExcept (jmxPath arguments)
  let folder := (arguments.member? "output_dir").getD (.string "lr_scripts")
  let options ← MonadExcept.ofExcept (optionsOf arguments)
  let path ← MonadExcept.ofExcept (pathText path)
  let folder ← MonadExcept.ofExcept (pathText folder)
  let report ← Conversion.convert options path folder
  let message := "Generated " ++ toString report.scripts.length ++ " LoadRunner script(s) in "
    ++ folder
  pure (.object (report.members
    ++ if report.success then [("message", .string message)] else []))

/-- The answer of a tool. -/
def answer (arguments : Json) : Tool → Job Json
  | inspect => inspectAnswer arguments
  | convert => convertAnswer arguments

/-- The written answer of a tool; a problem is told as an answer. -/
def run (t : Tool) (arguments : Json) : StateM Session String := do
  match ← (t.answer arguments).run with
  | .ok value => pure value.render
  | .error problem =>
    pure (Json.object [("success", .bool false), ("error", .string problem.message),
      ("error_type", .string problem.kind)]).render

/-- The written answer of the tool with a name. Only an unknown name is passed on. -/
def call (name : String) (arguments : Json) : Job String :=
  match ofName? name with
  | some t => ExceptT.lift (t.run arguments)
  | none => throw (.value ("Unknown tool: " ++ name))

end Tool

end VuserScript
