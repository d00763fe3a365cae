/-
  VuserScript.Console.Command

  The commands of the program, the options of each, and their help.
-/

namespace VuserScript.Console

/-! ## Options -/

/-- The options of all commands. -/
inductive Choice where
  | output
  | config
  | noCorrelation
  | noDat
  | scriptPrefix
  | verbose
  | version
  | help
  deriving DecidableEq, Repr

namespace Choice

/-- The long name of an option. -/
def longName : Choice → String
  | output => "--output"
  | config => "--config"
  | noCorrelation => "--no-correlation"
  | noDat => "--no-dat"
  | scriptPrefix => "--script-prefix"
  | verbose => "--verbose"
  | version => "--version"
  | help => "--help"

/-- The letter of an option, if it has one. -/
def letter? : Choice → Option Char
  | output => some 'o'
  | verbose => some 'v'
  | _ => none

/-- All names of an option. -/
def names (c : Choice) : List String :=
  c.longName :: c.letter?.toList.map fun letter => String.ofList ['-', letter]

/-- Whether an option is followed by a value. -/
def takesValue : Choice → Bool
  | output | config | scriptPrefix => true
  | _ => false

end Choice

/-! ## Commands -/

/-- The program itself, and its commands. -/
inductive Command where
  | main
  | convert
  | inspect
  | mcp
  deriving DecidableEq, Repr

namespace Command

/-- The name of the program. -/
def program : String := "jmx2lr"

/-- The version of the program. -/
def version : String := "1.0.0"

/-- The words that call a command. -/
def path : Command → String
  | main => program
  | convert => program ++ " convert"
  | inspect => program ++ " inspect"
  | mcp => program ++ " mcp"

/-- The commands below the program, by name. -/
def byName : List (String × Command) :=
  [("convert", convert), ("inspect", inspect), ("mcp", mcp)]

/-- The options of a command. -/
def choices : Command → List Choice
  | main => [.version, .help]
  | convert => [.output, .config, .noCorrelation, .noDat, .scriptPrefix, .verbose, .help]
  | inspect | mcp => [.help]

/-- What follows the words that call a command. -/
def operands : Command → String
  | main => "[OPTIONS] COMMAND [ARGS]..."
  | convert | inspect => "[OPTIONS] JMX_PATH"
  | mcp => "[OPTIONS]"

/-- The line that tells how to call a command. -/
def usage (c : Command) : String :=
  "Usage: " ++ c.path ++ " " ++ c.operands

/-- What a command does. -/
def purpose : Command → List String
  | main => [
    "  JMX to LoadRunner Converter - Turn JMeter test plans into VuGen scripts.",
    "",
    "  Creates one LoadRunner Web/HTTP script folder per Thread Group, with requests,",
    "  transactions, correlations and CSV parameters converted."]
  | convert => [
    "  Convert a JMeter JMX test plan into LoadRunner scripts.",
    "",
    "  Example:     jmx2lr convert plan.jmx     jmx2lr convert plan.jmx -o lr_scripts",
    "  jmx2lr convert plan.jmx --config jmx2lr.yaml --no-correlation"]
  | inspect => [
    "  Show what a conversion of a JMX test plan would produce.",
    "",
    "  Lists Thread Groups with the samplers, transaction controllers and extractors",
    "  the converter will pick up, plus the CSV data sets.",
    "",
    "  Example:     jmx2lr inspect plan.jmx"]
  | mcp => [
    "  Serve the converter over MCP (stdio).",
    "",
    "  Exposes the inspect_jmx_plan and convert_jmx_to_loadrunner tools to MCP",
    "  clients. Status messages go to stderr; stdout carries the protocol.",
    "",
    "  Example:     jmx2lr mcp"]

/-- The options of a command and what each is for. -/
def optionHelp : Command → List String
  | main => [
    "  --version  Show the version and exit.",
    "  --help     Show this message and exit."]
  | convert => [
    "  -o, --output DIRECTORY  Output folder for script folders (default: <jmx",
    "                          name>_loadrunner next to the JMX)",
    "  --config FILE           YAML file with converter options",
    "  --no-correlation        Do not convert Regex/JSON extractors",
    "  --no-dat                Do not write .dat copies of CSV files",
    "  --script-prefix TEXT    Prefix of script folder names (default: Script_)",
    "  -v, --verbose           Show progress (-v) or debug details (-vv)",
    "  --help                  Show this message and exit."]
  | inspect | mcp => ["  --help  Show this message and exit."]

/-- The commands below a command. -/
def commandHelp : Command → List String
  | main => [
    "",
    "Commands:",
    "  convert  Convert a JMeter JMX test plan into LoadRunner scripts.",
    "  inspect  Show what a conversion of a JMX test plan would produce.",
    "  mcp      Serve the converter over MCP (stdio)."]
  | _ => []

/-- The help of a command. -/
def help (c : Command) : List String :=
  [c.usage, ""] ++ c.purpose ++ ["", "Options:"] ++ c.optionHelp ++ c.commandHelp

end Command

end VuserScript.Console
