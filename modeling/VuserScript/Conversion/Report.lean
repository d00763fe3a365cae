/-
  VuserScript.Conversion.Report

  What a conversion tells: for each thread group the folder of its script and
  what is in it, all warnings, and the problem that stopped it if there is one.
-/
import VuserScript.Problem
import VuserScript.Script.Action
import VuserScript.Script.ParameterSet

namespace VuserScript.Conversion

open Script (ParameterSet Tally)

/-- The script of a thread group. -/
structure GroupReport where
  name : String
  folder : String
  parameterSets : List ParameterSet := []
  tally : Tally := {}
  warnings : List String := []
  deriving DecidableEq, Repr

/-- The outcome of a conversion. -/
structure Report where
  jmxPath : String
  outputFolder : String
  scripts : List GroupReport := []
  warnings : List String := []
  /-- The foreseen problem that stopped the conversion. -/
  problem : Option Problem := none
  deriving DecidableEq, Repr

/-- Whether nothing stopped the conversion. -/
def Report.success (r : Report) : Bool :=
  r.problem.isNone

/-! ## As structured values -/

/-- Texts as a structured value. -/
def textsToJson (texts : List String) : Json :=
  .array (texts.map .string)

/-- A text that may be missing as a structured value. -/
def textToJson : Option String → Json
  | some s => .string s
  | none => .null

/-- A parameter set as a structured value. -/
def parameterSetToJson (s : ParameterSet) : Json :=
  .object [("file_name", .string s.fileName), ("dat_file_name", textToJson s.datFileName),
    ("variable_names", textsToJson s.variableNames), ("delimiter", .string s.delimiter)]

/-- The report of a group as a structured value. -/
def GroupReport.toJson (r : GroupReport) : Json :=
  .object [("group_name", .string r.name), ("script_dir", .string r.folder),
    ("parameter_sets", .array (r.parameterSets.map parameterSetToJson)),
    ("samplers", .int r.tally.requests), ("transactions", .int r.tally.transactions),
    ("correlations", .int r.tally.correlations), ("warnings", textsToJson r.warnings)]

/-- The members of a report as a structured value. -/
def Report.members (r : Report) : List (String × Json) :=
  [("success", .bool r.success), ("jmx_path", .string r.jmxPath),
    ("output_dir", .string r.outputFolder), ("scripts", .array (r.scripts.map GroupReport.toJson)),
    ("warnings", textsToJson r.warnings), ("error", textToJson (r.problem.map Problem.message))]

end VuserScript.Conversion
