/-
  VuserScript.Console.Run

  Running the program: the words of a call become what is shown and a code.
  Code 2 tells that the call was wrong, code 1 that it failed.
-/
import VuserScript.Console.Arguments
import VuserScript.Console.Screen
import VuserScript.Conversion.Run
import VuserScript.Inspection
import VuserScript.OptionsFile

namespace VuserScript.Console

open Storage (Path)

/-! ## Endings -/

/-- How a run ends. -/
structure Ending where
  code : Nat
  /-- A problem that no command handles. -/
  problem : Option Problem := none

/-- A run, which shows blocks and may end early. -/
abbrev Shell := ExceptT Ending (StateT (List Block) (StateM Session))

/-- How serving tools came to its end. -/
inductive Service where
  | finished
  | interrupted
  | failed (message : String)
  deriving DecidableEq, Repr

namespace Shell

/-- Shows a block. -/
def put (b : Block) : Shell Unit :=
  modifyThe (List Block) (· ++ [b])

/-- Ends the run. -/
def stop {α : Type} (code : Nat) : Shell α :=
  throw ⟨code, none⟩

/-- Ends the run with a problem that no command handles. -/
def abandon {α : Type} (problem : Problem) : Shell α :=
  throw ⟨1, some problem⟩

/-- What a text with tags shows, or the end of the run. -/
def plainText (markup : String) : Shell String :=
  match Text.Markup.plainText markup with
  | .ok s => pure s
  | .error fault => abandon (.markup fault)

/-- Shows a text with tags. -/
def say (markup : String) : Shell Unit := do
  put (.text (← plainText markup))

/-- Shows a text with tags in a box. -/
def sayBoxed (title : Option String) (markup : String) : Shell Unit := do
  put (.panel title (← plainText markup))

/-- Shows a table whose cells are texts with tags. They are read column by column. -/
def sayTable (title : String) (columns : List Column) (rows : List (List String)) :
    Shell Unit := do
  (List.range columns.length).forM fun n => rows.forM fun row => do
    let _ ← plainText (row.getD n "")
  put (.table title columns (← rows.mapM fun row => row.mapM plainText))

/-- Ends the run because a command is called in a wrong way. -/
def refuse {α : Type} (c : Command) (problem : UsageProblem) : Shell α := do
  if problem.showsUsage then
    put (.plain [c.usage, "Try '" ++ c.path ++ " --help' for help.", ""])
  put (.plain ["Error: " ++ problem.message])
  stop 2

/-- Ends the run with the text of a problem. -/
def fail {α : Type} (problem : Problem) : Shell α := do
  say ("\n[bold red]Error:[/bold red] " ++ problem.message)
  stop 1

/-- Whether records of a level are shown when more is asked for some times. -/
def isShown (verbosity : Nat) : Level → Bool
  | .debug => 2 ≤ verbosity
  | .info => 1 ≤ verbosity
  | _ => true

/-- Does a job and shows its records. -/
def perform {α : Type} (verbosity : Nat) (job : Job α) : Shell (Except Problem α) := do
  let before := (← getThe Session).log.length
  let result ← (liftM job.run : Shell (Except Problem α))
  let log := (← getThe Session).log.drop before
  (log.filter fun r => isShown verbosity r.level).forM fun r => put (.record r)
  pure result

/-! ## Calls -/

/-- The words behind a command, or the end of the run. -/
def arguments (c : Command) (isMixed : Bool) (words : List String) : Shell Arguments := do
  match Arguments.read c.choices isMixed words with
  | .ok a => pure a
  | .error problem => refuse c problem

/-- Shows the version or the help, whichever is asked for first, and ends the run. -/
def answerQuestions (c : Command) (a : Arguments) : Shell Unit := do
  match a.given.find? fun entry => entry.1 = .version ∨ entry.1 = .help with
  | some (.version, _) =>
    put (.plain [Command.program ++ ", version " ++ Command.version])
    stop 0
  | some _ =>
    put (.plain c.help)
    stop 0
  | none => pure ()

/-- What is at a path, and what may be done with it, or the end of the run. -/
def entryAt (path : String) : Shell (Option (Storage.Entry × Storage.Access)) := do
  match (← getThe Session).disk.entryAt path with
  | .ok e => pure e
  | .error trouble => abandon (.storage trouble)

/-- Demands that a path leads to a file that may be read. -/
def demandFile (c : Command) (names : List String) (path : String) : Shell Unit := do
  match ← entryAt path with
  | none => refuse c (.wrongPath names path .noFile)
  | some (.folder, _) => refuse c (.wrongPath names path .folderGiven)
  | some (.file _, access) =>
    unless access.read do
      refuse c (.wrongPath names path .closedFile)

/-- Demands that a path leads to a folder that may be read, or to nothing. -/
def demandNoFile (c : Command) (names : List String) (path : String) : Shell Unit := do
  match ← entryAt path with
  | none => pure ()
  | some (.file _, _) => refuse c (.wrongPath names path .fileGiven)
  | some (.folder, access) =>
    unless access.read do
      refuse c (.wrongPath names path .closedFolder)

/-- Checks the value of an option. -/
def checkOption (c : Command) (a : Arguments) (choice : Choice) : Shell Unit := do
  match choice, a.value? choice with
  | .output, some path => demandNoFile c choice.names path
  | .config, some path => demandFile c choice.names path
  | _, _ => pure ()

/-- The name of the operand that is a plan. -/
def planName : String := "JMX_PATH"

/-- Checks the words behind a command whose operand is a plan: the options in the order in which
they are given first, the operand, and that there is no other. The answer is the operand. -/
def planOperand (c : Command) (a : Arguments) : Shell String := do
  (a.given.map (·.1)).eraseDups.forM (checkOption c a)
  match a.operands with
  | [] => refuse c (.operandMissing planName)
  | path :: others =>
    demandFile c [planName] path
    unless others.isEmpty do
      refuse c (.extraOperands others)
    pure path

/-! ## Converting -/

/-- Whether a problem with a file of options is told as an error. -/
def isOptionsError : Problem → Bool
  | .optionsMissing _ => true
  | .storage .zeroCharacter => false
  | .storage _ => true
  | problem => problem.isForeseen

/-- The options for a call: those of a file, if one is given, changed by what is called for. -/
def options (a : Arguments) : Shell Options := do
  let o ← match a.value? .config with
    | none | some "" => pure {}
    | some path =>
      match ← perform 0 (OptionsFile.load path) with
      | .ok o => pure o
      | .error problem => if isOptionsError problem then fail problem else abandon problem
  pure
    { enableCorrelation := o.enableCorrelation && !a.has .noCorrelation
      writeDatFiles := o.writeDatFiles && !a.has .noDat
      scriptPrefix := (a.value? .scriptPrefix).getD o.scriptPrefix }

/-- The output folder for a plan: beside it, and named like it. -/
def defaultFolder (jmxPath : String) : String :=
  let path := Path.parse jmxPath
  (path.parent.child (path.stem ++ "_loadrunner")).text

/-- The column of the numbers of rows. -/
def numberColumn : Column :=
  ⟨"#", some 3, true⟩

/-- Columns of counts. -/
def countColumns (names : List String) : List Column :=
  names.map fun name => ⟨name, none, false⟩

/-- The row of a script. -/
def scriptRow (number : Nat) (r : Conversion.GroupReport) : List String :=
  [toString number, r.name, r.folder, toString r.tally.requests, toString r.tally.transactions,
    toString r.tally.correlations,
    toString (r.parameterSets.foldl (fun n s => n + s.variableNames.length) 0)]

/-- Shows the scripts and the warnings of a conversion. -/
def showReport (r : Conversion.Report) : Shell Unit := do
  unless r.scripts.isEmpty do
    sayTable ("Generated " ++ toString r.scripts.length ++ " LoadRunner Script(s)")
      (numberColumn :: [⟨"Thread Group", none, true⟩, ⟨"Script Folder", none, true⟩]
        ++ countColumns ["Requests", "Transactions", "Correlations", "Parameters"])
      (r.scripts.mapIdx fun n script => scriptRow (n + 1) script)
  unless r.warnings.isEmpty do
    say ("\n[bold yellow]Warnings (" ++ toString r.warnings.length ++ "):[/bold yellow]")
    (r.warnings.mapIdx fun n warning => (n + 1, warning)).forM fun (number, warning) =>
      say ("  " ++ toString number ++ ". " ++ warning)
    say "[dim]Warnings are also written to each script's conversion.log[/dim]"

/-- Converts a plan. -/
def convert (words : List String) : Shell Unit := do
  let c := Command.convert
  let a ← arguments c true words
  answerQuestions c a
  let jmxPath ← planOperand c a
  let options ← options a
  let folder := match a.value? .output with
    | none | some "" => defaultFolder jmxPath
    | some folder => folder
  say ("\n[bold]Converting JMX file:[/bold] " ++ jmxPath)
  say ("[bold]Output folder:[/bold] " ++ folder)
  match ← perform (a.count .verbose) (Conversion.convert options jmxPath folder) with
  | .error problem => abandon problem
  | .ok report =>
    showReport report
    match report.problem with
    | some problem =>
      sayBoxed none ("[bold red]✗ Conversion failed:[/bold red] " ++ problem.message)
      stop 1
    | none =>
      sayBoxed none ("[bold green]✓ Conversion completed![/bold green]\n\n"
        ++ "Script folders written to: " ++ folder
        ++ "\n[dim]Open them in VuGen and review parameters & correlations.[/dim]")

/-! ## Inspecting -/

/-- The row of a thread group. -/
def groupRow (number : Nat) (s : Plan.Summary) : List String :=
  [toString number, s.name ++ (if s.hasChildren then "" else " [yellow](no hashTree)[/yellow]"),
    toString s.counts.samplers, toString s.counts.transactions,
    toString s.counts.regexExtractors, toString s.counts.jsonExtractors]

/-- A text, or what stands for it if it is empty. -/
def orElse (s instead : String) : String :=
  if s.isEmpty then instead else s

/-- The row of a data set. -/
def dataSetRow (s : Plan.DataSet) : List String :=
  [s.name, orElse (s.file.getD "") "[red](missing)[/red]",
    orElse (", ".intercalate s.variableNames) "[dim](none)[/dim]", s.delimiter]

/-- Shows what a conversion of a plan would find. -/
def inspect (words : List String) : Shell Unit := do
  let c := Command.inspect
  let a ← arguments c true words
  answerQuestions c a
  let jmxPath ← planOperand c a
  match ← perform 0 (Inspection.ofFile jmxPath) with
  | .error problem => if problem.isForeseen then fail problem else abandon problem
  | .ok inspection =>
    if inspection.groups.isEmpty then
      say "\n[yellow]No ThreadGroup elements found in JMX.[/yellow]"
    else
      sayTable ("Found " ++ toString inspection.groups.length ++ " Thread Group(s)")
        (numberColumn :: ⟨"Thread Group", none, true⟩
          :: countColumns ["Samplers", "Transactions", "Regex", "JSON"])
        (inspection.groups.mapIdx fun n s => groupRow (n + 1) s)
    unless inspection.dataSets.isEmpty do
      sayTable "CSV Data Sets"
        [⟨"Name", none, true⟩, ⟨"File", none, true⟩, ⟨"Variables", none, true⟩,
          ⟨"Delimiter", none, false⟩]
        (inspection.dataSets.map dataSetRow)
    say ("\n[dim]Next step:[/dim] " ++ Command.program ++ " convert " ++ jmxPath)

/-! ## Serving -/

/-- Offers the tools; `service` tells how that came to its end. -/
def mcp (service : Service) (words : List String) : Shell Unit := do
  let c := Command.mcp
  let a ← arguments c true words
  answerQuestions c a
  unless a.operands.isEmpty do
    refuse c (.extraOperands a.operands)
  sayBoxed (some "jmx2lr MCP")
    ("[bold green]jmx2lr MCP server listening on stdio[/bold green]\n\n"
      ++ "Tools: inspect_jmx_plan, convert_jmx_to_loadrunner\n\n"
      ++ "[dim]Press Ctrl+C to stop[/dim]")
  match service with
  | .finished => pure ()
  | .interrupted => say "\n[yellow]MCP server stopped[/yellow]"
  | .failed message =>
    say ("\n[bold red]MCP server failed:[/bold red] " ++ message)
    stop 1

/-! ## The program -/

/-- The words behind the options of the program, after those have been answered. -/
def programWords (words : List String) : Shell (List String) := do
  let a ← arguments .main false words
  answerQuestions .main a
  pure a.operands

/-- Runs the program. What is no command may still be an option behind two hyphens. -/
def program (service : Service) (words : List String) : Shell Unit := do
  if words.isEmpty then
    put (.plain Command.main.help)
    stop 2
  match ← programWords words with
  | [] => refuse .main .commandMissing
  | name :: rest =>
    match Command.byName.lookup name with
    | some .convert => convert rest
    | some .inspect => inspect rest
    | some .mcp => mcp service rest
    | _ =>
      let _ ← programWords (name :: rest)
      refuse .main (.unknownCommand name (Text.suggestions name (Command.byName.map (·.1))))

end Shell

/-- What a run shows and how it ends. -/
structure Outcome where
  blocks : List Block
  ending : Ending

/-- Runs the program with the words of a call. -/
def run (service : Service) (words : List String) : StateM Session Outcome := do
  let (result, blocks) ← ((Shell.program service words).run).run []
  pure ⟨blocks, match result with
    | .ok () => ⟨0, none⟩
    | .error ending => ending⟩

end VuserScript.Console
