/-
  VuserScript.Script.Bundle

  The texts of the files in a script folder.
-/
import VuserScript.Script.ParameterSet
import VuserScript.Text.SafeName

namespace VuserScript.Script.Bundle

/-! ## Names -/

def initFile : String := "vuser_init.c"

def actionFile : String := "Action.c"

def endFile : String := "vuser_end.c"

def configFile : String := "default.cfg"

def parametersFile : String := "parameters.prm"

def logFile : String := "conversion.log"

/-! ## Code -/

/-- Lines with line feeds between them. -/
def joinLines (lines : List String) : String :=
  "\n".intercalate lines

theorem toList_joinLines_cons (line : String) (lines : List String) :
    (joinLines (line :: lines)).toList
      = line.toList ++ lines.flatMap fun line => '\n' :: line.toList := by
  rw [joinLines, String.toList_intercalate]
  induction lines generalizing line with
  | nil => simp
  | cons next lines ih =>
    rw [List.map_cons, List.map_cons, List.intercalate_cons_cons, ← List.map_cons, ih]
    simp

/-- The includes at the start of each source file. -/
def includes : String :=
  "#include \"lrun.h\"\n#include \"web_api.h\"\n#include \"lrw_custom_body.h\"\n\n"

/-- A function with nothing in it but a note. -/
def emptyFunction (name note : String) : String :=
  includes ++ name ++ "()\n\x7b\n    // TODO: " ++ note ++ "\n    return 0;\n\x7d\n"

/-- The file that runs before the actions. -/
def initText : String :=
  emptyFunction "vuser_init" "Add login / init steps if needed"

/-- The file that runs behind the actions. -/
def endText : String :=
  emptyFunction "vuser_end" "Add logout / cleanup if needed"

/-- The file of the action, around the lines of its statements. -/
def actionText (body : List String) : String :=
  joinLines ([includes ++ "Action()", "\x7b", "    int rc = 0;", ""] ++ body
    ++ ["", "    return 0;", "\x7d", ""])

/-! ## Configuration -/

/-- The section of a parameter in the settings of a script. -/
def configSection (p : Parameter) : List String :=
  ["[" ++ Text.safeName p.name ++ "]",
    "Type=File",
    "FileName=" ++ p.file,
    "Column=" ++ toString p.column,
    "Delimiter=" ++ p.delimiter,
    "SelectNextRow=Sequential",
    "WhenOutOfRange=Continue",
    ""]

/-- The settings of a script, with a section for each parameter. -/
def configText (sets : List ParameterSet) : String :=
  joinLines (["[General]", "DefaultRunLogic=Action", "", "[Actions]",
    "vuser_init=" ++ initFile, "Action=" ++ actionFile, "vuser_end=" ++ endFile, "",
    "[Parameters]", ""] ++ (parametersOf sets).flatMap configSection) ++ "\n"

/-- The block of a parameter in the list of parameters. -/
def parameterBlock (p : Parameter) : List String :=
  ["[Parameter]",
    "Name=" ++ Text.safeName p.name,
    "Type=File",
    "FileName=" ++ p.file,
    "Column=" ++ toString p.column,
    "ColumnDelimiter=" ++ p.delimiter,
    "UpdateMode=Sequential",
    "WhenOutOfRange=Continue",
    ""]

/-- The list of parameters, with a block for each. -/
def parametersText (sets : List ParameterSet) : String :=
  joinLines (["; Basic PRM mapping generated from JMeter CSV Data Set Config",
    "; Please open in VuGen and refine as per your LoadRunner version.", ""]
    ++ (parametersOf sets).flatMap parameterBlock) ++ "\n"

end VuserScript.Script.Bundle
