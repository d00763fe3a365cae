/-
  VuserScript.Inspection

  What a conversion of a plan would find, without changing anything.
-/
import VuserScript.Conversion.Report
import VuserScript.Plan.DataSet
import VuserScript.Plan.Load
import VuserScript.Plan.Summary

namespace VuserScript

open Conversion (textsToJson)
open Plan (DataSet Summary)

/-- The description of a plan. -/
structure Inspection where
  jmxPath : String
  groups : List Summary
  dataSets : List DataSet

namespace Inspection

/-- The description of the plan in a file. -/
def ofFile (jmxPath : String) : Job Inspection := do
  let root ← Plan.load jmxPath
  pure ⟨jmxPath, Plan.summaries root, Plan.dataSets root⟩

/-- The summary of a group as a structured value. -/
def groupToJson (s : Summary) : Json :=
  .object [("name", .string s.name), ("has_children", .bool s.hasChildren),
    ("samplers", .int s.counts.samplers), ("transactions", .int s.counts.transactions),
    ("regex_extractors", .int s.counts.regexExtractors),
    ("json_extractors", .int s.counts.jsonExtractors)]

/-- A data set as a structured value. -/
def dataSetToJson (s : DataSet) : Json :=
  .object [("name", .string s.name), ("filename", .string (s.file.getD "")),
    ("variable_names", textsToJson s.variableNames), ("delimiter", .string s.delimiter)]

/-- The members of a description as a structured value. -/
def members (i : Inspection) : List (String × Json) :=
  [("jmx_path", .string i.jmxPath), ("thread_groups", .array (i.groups.map groupToJson)),
    ("csv_data_sets", .array (i.dataSets.map dataSetToJson))]

end Inspection

end VuserScript
