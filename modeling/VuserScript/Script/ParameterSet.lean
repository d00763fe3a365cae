/-
  VuserScript.Script.ParameterSet

  The parameters that a data set gives to a script. Column N of the data file
  is the N-th variable.
-/

namespace VuserScript.Script

/-- A data set whose file is in the script folder. -/
structure ParameterSet where
  fileName : String
  /-- The copy with the extension that scripts expect, unless none was to be written. -/
  datFileName : Option String := none
  variableNames : List String := []
  delimiter : String := ","
  deriving DecidableEq, Repr

namespace ParameterSet

/-- The file that parameters refer to. -/
def dataFile (s : ParameterSet) : String :=
  s.datFileName.getD s.fileName

/-- The variables with their columns, counted from one. -/
def columns (s : ParameterSet) : List (Nat × String) :=
  s.variableNames.mapIdx fun index name => (index + 1, name)

end ParameterSet

/-- A variable with all that a configuration file says about it. -/
structure Parameter where
  name : String
  file : String
  column : Nat
  delimiter : String
  deriving DecidableEq, Repr

/-- The parameters of sets, in order. -/
def parametersOf (sets : List ParameterSet) : List Parameter :=
  sets.flatMap fun s => s.columns.map fun (column, name) => ⟨name, s.dataFile, column, s.delimiter⟩

/-- The name of the data file for a CSV file: what follows the last period is replaced by `dat`,
unless the period comes first. -/
def datName (csvName : String) : String :=
  let cs := csvName.toList
  let stem := (cs.reverse.dropWhile (· ≠ '.')).drop 1 |>.reverse
  String.ofList (if stem = [] then cs else stem) ++ ".dat"

end VuserScript.Script
