/-
  VuserScript.Conversion.Run

  Converting a plan: one folder with a script for each thread group. A foreseen
  problem ends the run and is told by the report, together with the scripts
  that were finished before it.
-/
import VuserScript.Conversion.DataFiles
import VuserScript.Conversion.FolderName
import VuserScript.Conversion.LogText
import VuserScript.Plan.Load
import VuserScript.Script.Action

namespace VuserScript.Conversion

open Plan (DataSet Group)
open Script (Names)
open Storage (Path)

/-! ## Writing -/

/-- Makes a folder and those it lies in; `what` tells which kind of folder it is. -/
def makeFolders (what : String) (path : Path) : Job Unit := do
  let (disk, made) := (← Job.disk).ensureFolders path
  Job.setDisk disk
  Job.orTrouble (.folder what path.text) made

/-- Writes a file of a script. -/
def writeFile (folder : Path) (name text : String) : Job Unit := do
  let path := folder.child name
  let disk ← Job.orTrouble (.scriptFile path.text) ((← Job.disk).write path text.toUTF8)
  Job.setDisk disk

/-- Writes the files that run before and behind the actions. -/
def writeStubs (folder : Path) : Job Unit := do
  writeFile folder Script.Bundle.initFile Script.Bundle.initText
  writeFile folder Script.Bundle.endFile Script.Bundle.endText

/-- Writes the settings and the list of parameters. -/
def writeConfig (folder : Path) (sets : List Script.ParameterSet) : Job Unit := do
  writeFile folder Script.Bundle.configFile (Script.Bundle.configText sets)
  writeFile folder Script.Bundle.parametersFile (Script.Bundle.parametersText sets)

/-- Writes the action. -/
def writeAction (folder : Path) (body : List String) : Job Unit :=
  writeFile folder Script.Bundle.actionFile (Script.Bundle.actionText body)

/-- Writes the summary of a script. -/
def writeLog (folder : Path) (r : GroupReport) : Job Unit := do
  let disk ← Job.disk
  let absolute := (Path.parse r.folder).resolve disk.workingFolder
  writeFile folder Script.Bundle.logFile (logText absolute.text r)

/-! ## One group -/

/-- The warning about a thread group without a container. -/
def bareGroupWarning (name : String) : String :=
  "No hashTree found for ThreadGroup '" ++ name ++ "'."

/-- Warns of a thread group that has no container: the warnings that were given. -/
def warnIfBare (name : String) (g : Group) : Job (List String) :=
  match g.items with
  | some _ => pure []
  | none => do
    Job.warn (bareGroupWarning name)
    pure [bareGroupWarning name]

/-- What stays the same for all groups of a run. -/
structure Setting where
  options : Options
  source : DataSource
  dataSets : List DataSet
  outputFolder : Path

/-- What one group of a run leaves to the next. -/
structure Progress where
  names : Names := {}
  /-- The folded names of the folders in use. -/
  taken : List String := []
  /-- The number of the next group. -/
  number : Nat := 1

/-- Converts a thread group into a script. -/
def convertGroup (s : Setting) (p : Progress) (g : Group) : Job (GroupReport × Progress) := do
  let name := g.name p.number
  let folderName := folderName s.options.scriptPrefix p.taken name
  let folder := s.outputFolder.join (Path.parse folderName)
  makeFolders "script directory" folder
  Job.note [⟨.info, "Converting ThreadGroup '" ++ name ++ "' into " ++ folder.text⟩]
  let (sets, dataWarnings) ← s.source.placeAll folder s.dataSets
  writeStubs folder
  writeConfig folder sets
  let bareWarnings ← warnIfBare name g
  let (action, names) := Script.actionOf s.options.enableCorrelation g.items p.names
  Job.note action.log
  writeAction folder action.lines
  let report : GroupReport :=
    { name
      folder := folder.text
      parameterSets := sets
      tally := action.tally
      warnings := dataWarnings ++ bareWarnings ++ Record.warnings action.log }
  writeLog folder report
  pure (report, ⟨names, folded folderName :: p.taken, p.number + 1⟩)

/-! ## The whole run -/

/-- Converts groups one after another, up to the first problem: the finished reports, and the
problem if there is one. -/
def convertGroups (s : Setting) (p : Progress) :
    List Group → StateM Session (List GroupReport × Option Problem)
  | [] => pure ([], none)
  | g :: groups => do
    match ← (convertGroup s p g).run with
    | .error problem => pure ([], some problem)
    | .ok (report, p) =>
      let (reports, problem) ← convertGroups s p groups
      pure (report :: reports, problem)

/-- The warning about a plan without thread groups. -/
def noGroupsWarning : String :=
  "No ThreadGroup elements found in JMX."

/-- The beginning of a run: the groups, what stays the same for all of them, and the warnings. -/
def prepare (options : Options) (jmxPath outputFolder : Path) :
    Job (List Group × Setting × List String) := do
  let root ← Plan.load jmxPath.text
  makeFolders "output directory" outputFolder
  let groups := Plan.groups root
  let warnings := if groups.isEmpty then [noGroupsWarning] else []
  Job.note (warnings.map Record.ofWarning)
  let folder := (jmxPath.resolve (← Job.disk).workingFolder).parent
  let source : DataSource := ⟨folder, options.writeDatFiles⟩
  pure (groups, ⟨options, source, Plan.dataSets root, outputFolder⟩, warnings)

/-- The report of a run that may have been stopped; a problem that is not foreseen is passed on. -/
def finish (r : Report) : Option Problem → Job Report
  | none => pure r
  | some problem => do
    if problem.isForeseen then
      Job.note [⟨.error, "Conversion failed: " ++ problem.message⟩]
      pure { r with problem := some problem }
    else throw problem

/-- Converts a plan into scripts within a folder. -/
def convert (options : Options) (jmxPath outputFolder : String) : Job Report := do
  let report : Report := { jmxPath, outputFolder }
  match ← ExceptT.lift (prepare options (Path.parse jmxPath) (Path.parse outputFolder)).run with
  | .error problem => finish report (some problem)
  | .ok (groups, setting, warnings) =>
    let (scripts, problem) ← ExceptT.lift (convertGroups setting {} groups)
    finish
      { report with scripts, warnings := warnings ++ scripts.flatMap GroupReport.warnings } problem

end VuserScript.Conversion
