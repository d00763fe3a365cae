/-
  VuserScript.Conversion.LogText

  The summary of a script that is written into its folder.
-/
import VuserScript.Conversion.Report
import VuserScript.Script.Bundle

namespace VuserScript.Conversion

open Script (ParameterSet)

/-- A text, or other words for an empty one. -/
def orElseText (s other : String) : String :=
  if s = "" then other else s

/-- The line of a parameter set. -/
def parameterSetLine (s : ParameterSet) : String :=
  "  CSV: " ++ s.fileName ++ "  DAT: " ++ orElseText (s.datFileName.getD "") "-"
    ++ "  Vars: " ++ orElseText (", ".intercalate s.variableNames) "(none)"
    ++ "  Delimiter: " ++ s.delimiter

/-- Lines, or a line that says that there are none. -/
def orNone (lines : List String) : List String :=
  if lines.isEmpty then ["  (none)"] else lines

/-- The summary of a script, whose folder is given by its absolute path. -/
def logText (folder : String) (r : GroupReport) : String :=
  Script.Bundle.joinLines (
    ["ThreadGroup: " ++ r.name, "Script folder: " ++ folder, "", "CSV/DAT Parameters:"]
    ++ orNone (r.parameterSets.map parameterSetLine)
    ++ ["", "Generated:", "  Requests: " ++ toString r.tally.requests,
      "  Transactions: " ++ toString r.tally.transactions,
      "  Correlations: " ++ toString r.tally.correlations, "", "Warnings:"]
    ++ orNone (r.warnings.map fun warning => "  - " ++ warning)
    ++ ["", "Notes:",
      "  - Correlations (Regex, JSON) have been converted to "
        ++ "web_reg_save_param_ex/web_reg_save_param_json.",
      "  - Parameters reference .dat files in default.cfg and parameters.prm.",
      "  - Please open this script in VuGen, check parameters & correlations."]) ++ "\n"

end VuserScript.Conversion
