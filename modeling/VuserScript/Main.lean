/-
  VuserScript.Main

  The program on real files. What a run may look at is read first: the files
  that are named, the data files of a plan, the output folder, and the folders
  that all of these lie in. The run then works on that picture, and what it has
  changed is written back. What may be done with the files is not asked for:
  what can be read is taken for a file that may be used in every way.
-/
import VuserScript.Console.Run

namespace VuserScript.Main

open Console (Arguments Choice Command Outcome Service)
open Storage (Disk Entry FileTree Location Path)

/-! ## Reading -/

/-- The entry at a location, if there is one that can be read. -/
def readEntry (location : Location) : IO (Option Entry) := do
  let path := (← IO.currentDir) / ("/" ++ "/".intercalate location)
  try
    match (← path.metadata).type with
    | .dir => pure (some .folder)
    | .file => pure (some (.file (← IO.FS.readBinFile path)))
    | _ => pure none
  catch _ => pure none

/-- Adds what is at a location. -/
def addEntry (t : FileTree) (location : Location) : IO FileTree := do
  match ← readEntry location with
  | some e => pure (t.put location e)
  | none => pure t

/-- Adds what is at a location and the folders it lies in. -/
def addWithFolders (t : FileTree) (location : Location) : IO FileTree :=
  (List.range location.length).foldlM (fun t n => addEntry t (location.take (n + 1))) t

/-- Adds all that lies below a folder. -/
partial def addBelow (t : FileTree) (location : Location) : IO FileTree := do
  if t.get? location != some .folder then pure t
  else
    let path := (← IO.currentDir) / ("/" ++ "/".intercalate location)
    (← path.readDir).foldlM (fun t entry => do
      let inner := location ++ [entry.fileName]
      addBelow (← addEntry t inner) inner) t

/-- The location of a path, seen from a folder. -/
def locationOf (folder : Location) (path : Path) : Location :=
  (path.resolve folder).parts

/-- The files of the data sets of a plan, as far as the plan can be read. -/
def dataFiles (d : Disk) (jmxPath : Path) : List Path :=
  match (Plan.load jmxPath.text).run.run ⟨d, []⟩ with
  | (.ok root, _) =>
    let source : Conversion.DataSource := ⟨(jmxPath.resolve d.workingFolder).parent, true⟩
    (Plan.dataSets root).filterMap source.path?
  | _ => []

/-- What a run with some words may look at, seen from a folder. -/
def readDisk (folder : Location) (words : List String) : IO Disk := do
  let mut tree : FileTree ← addWithFolders {} folder
  match Arguments.read Command.convert.choices true (words.drop 1) with
  | .error _ => pure ⟨tree, folder⟩
  | .ok a =>
    let outputs := (a.value? .output).toList ++ a.operands.map Console.Shell.defaultFolder
    for name in a.operands ++ (a.value? .config).toList ++ outputs do
      tree ← addWithFolders tree (locationOf folder (Path.parse name))
    for name in a.operands do
      for file in dataFiles ⟨tree, folder⟩ (Path.parse name) do
        tree ← addWithFolders tree (locationOf folder file)
    for name in outputs do
      tree ← addBelow tree (locationOf folder (Path.parse name))
    pure ⟨tree, folder⟩

/-! ## Writing -/

/-- Writes what has changed, the folders first. -/
def writeChanges (before after : FileTree) : IO Unit := do
  let changed := after.entries.filter fun entry => before.get? entry.1 != some entry.2
  for (location, e) in changed do
    if e == .folder then
      IO.FS.createDirAll ("/" ++ "/".intercalate location)
  for (location, e) in changed do
    if let .file bytes := e then
      IO.FS.writeBinFile ("/" ++ "/".intercalate location) bytes

/-- Shows what a run shows. -/
def display (outcome : Outcome) : IO Unit := do
  for line in outcome.blocks.flatMap Console.Block.toLines do
    IO.println line
  if let some problem := outcome.ending.problem then
    IO.eprintln (problem.kind ++ ": " ++ problem.message)

end VuserScript.Main

open VuserScript in
/-- Runs the program with the words of its call. Tools are not offered over standard input here. -/
def main (words : List String) : IO UInt32 := do
  let folder := (Storage.Path.parse (← IO.currentDir).toString).parts
  let disk ← Main.readDisk folder words
  let service := Console.Service.failed "no connection"
  let (outcome, session) := (Console.run service words).run ⟨disk, []⟩
  Main.writeChanges disk.tree session.disk.tree
  Main.display outcome
  pure (UInt32.ofNat outcome.ending.code)
