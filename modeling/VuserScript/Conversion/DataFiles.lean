/-
  VuserScript.Conversion.DataFiles

  Bringing the files of the CSV data sets into a script folder. A data set
  whose file is not named or not there is left out with a warning; a copy that
  fails is a warning as well, and the data set counts all the same.
-/
import VuserScript.Plan.DataSet
import VuserScript.Script.ParameterSet
import VuserScript.Session

namespace VuserScript.Conversion

open Plan (DataSet)
open Script (ParameterSet)
open Storage (Path Trouble)

/-! ## Warnings -/

/-- The warning about a data set that names no file. -/
def noFileWarning (name : String) : String :=
  "CSV Data Set '" ++ name ++ "' has no filename, skipped."

/-- The warning about a file that is not there, by its absolute path. -/
def missingFileWarning (path : Path) : String :=
  "CSV file not found: " ++ path.text

/-- The warning about a copy that failed. -/
def copyWarning (source target : Path) (trouble : Trouble) : String :=
  "Failed to copy " ++ source.text ++ " to " ++ target.text ++ ": " ++ trouble.message

/-! ## Copies -/

/-- Where the files come from and how many copies of each are made. -/
structure DataSource where
  /-- The folder that relative names of files start from. -/
  folder : Path
  writeDatFiles : Bool

/-- Copies a file; a failure is a warning. -/
def copyFile (source target : Path) : Job (List String) := do
  match (← Job.disk).copy source target with
  | .ok disk =>
    Job.setDisk disk
    pure []
  | .error .zeroCharacter => throw (.storage .zeroCharacter)
  | .error trouble =>
    let warning := copyWarning source target trouble
    Job.warn warning
    pure [warning]

/-- The file of a data set, if it names one. -/
def DataSource.path? (s : DataSource) (dataSet : DataSet) : Option Path :=
  (dataSet.file.map Text.trim).bind fun name =>
    if name = "" then none else some (s.folder.join (Path.parse name))

/-- The parameter set of a data set whose file is at a path. -/
def DataSource.parameterSet (s : DataSource) (folder source : Path) (dataSet : DataSet) :
    ParameterSet :=
  let fileName := (folder.join (Path.parse source.name)).name
  { fileName
    datFileName := if s.writeDatFiles then some (Script.datName fileName) else none
    variableNames := dataSet.variableNames
    delimiter := dataSet.delimiter }

/-- Brings the file of a data set into a folder: the parameter set, if there is one, and the
warnings. -/
def DataSource.place (s : DataSource) (folder : Path) (dataSet : DataSet) :
    Job (Option ParameterSet × List String) := do
  match s.path? dataSet with
  | none =>
    let warning := noFileWarning dataSet.name
    Job.warn warning
    pure (none, [warning])
  | some source =>
    let disk ← Job.disk
    if ← Job.orTrouble .storage (disk.exists? source) then
      let set := s.parameterSet folder source dataSet
      let copied ← copyFile source (folder.join (Path.parse source.name))
      let datCopied ← match set.datFileName with
        | some name => copyFile source (folder.join (Path.parse name))
        | none => pure []
      pure (some set, copied ++ datCopied)
    else
      let absolute ← Job.orTrouble .storage (disk.resolve source)
      let warning := missingFileWarning absolute
      Job.warn warning
      pure (none, [warning])

/-- Brings the files of data sets into a folder, one after another. -/
def DataSource.placeAll (s : DataSource) (folder : Path) :
    List DataSet → Job (List ParameterSet × List String)
  | [] => pure ([], [])
  | dataSet :: rest => do
    let (set, warnings) ← s.place folder dataSet
    let (sets, others) ← s.placeAll folder rest
    pure (set.toList ++ sets, warnings ++ others)

end VuserScript.Conversion
