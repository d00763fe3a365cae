/-
  VuserScript.Storage.Disk

  Operations on files by path, seen from a working folder. Each either fails
  with the cause that the system gives, or answers; those that change something
  also answer the disk as it is afterwards, and folders that were made stay even
  if a later step of the same operation fails.

  What the user may do counts everywhere: a name is looked up only in a folder
  that may be searched, and nothing is read or put anywhere without the right to
  do so. No entry is a link or belongs to another user, and between operations
  nothing changes but by them.
-/
import VuserScript.Storage.FileTree
import VuserScript.Storage.Path

namespace VuserScript.Storage

/-- The files there are, and the folder that relative paths start from. -/
structure Disk where
  tree : FileTree
  workingFolder : Location

namespace Disk

/-- The longest written form of a path, in bytes. -/
def longestPath : Nat := 4095

/-- Where the parts of a path start. -/
def startOf (d : Disk) (p : Path) : Location :=
  if p.isAbsolute then [] else d.workingFolder

/-- The location of a path. Nothing need be there yet. -/
def locate (d : Disk) (p : Path) : Except Trouble Location :=
  if '\x00' ∈ p.text.toList then .error .zeroCharacter
  else if longestPath < p.text.utf8ByteSize then .error (.system .nameTooLong p.text)
  else match d.tree.follow (d.startOf p) p.steps with
    | .ok location => .ok location
    | .error cause => .error (.system cause p.text)

/-- The location and the entry of a path. -/
def find (d : Disk) (p : Path) : Except Trouble (Location × Entry) := do
  let location ← d.locate p
  match d.tree.get? location with
  | some e => pure (location, e)
  | none => throw (.system .noEntry p.text)

/-! ## Asking -/

/-- Whether something is there. A missing folder on the way means no; other troubles remain. -/
def exists? (d : Disk) (p : Path) : Except Trouble Bool :=
  match d.find p with
  | .ok _ => .ok true
  | .error (.system cause path) =>
    if cause.isAbsence then .ok false else .error (.system cause path)
  | .error _ => .ok false

/-- The absolute form of a path, seen from the working folder. What is on its way makes no
difference, but it has to be a path that a file can have. -/
def resolve (d : Disk) (p : Path) : Except Trouble Path :=
  if '\x00' ∈ p.text.toList then .error .zeroCharacter else .ok (p.resolve d.workingFolder)

/-- Whether a folder is there. -/
def isFolder (d : Disk) (p : Path) : Bool :=
  match d.find p with
  | .ok (_, .folder) => true
  | _ => false

/-- Whether two paths lead to the same entry. -/
def isSame (d : Disk) (p q : Path) : Bool :=
  match d.find p, d.find q with
  | .ok (a, _), .ok (b, _) => a == b
  | _, _ => false

/-- What is there at exactly the path that a text writes, and what may be done with it: a slash at
its end is for a folder only, and nothing is at the empty text. -/
def entryAt (d : Disk) (s : String) : Except Trouble (Option (Entry × Access)) :=
  if s.isEmpty then .ok none
  else match d.find (Path.exact s) with
    | .ok (location, e) => .ok (some (e, d.tree.access location))
    | .error .zeroCharacter => .error .zeroCharacter
    | .error _ => .ok none

/-- The bytes of a file. -/
def read (d : Disk) (p : Path) : Except Trouble ByteArray := do
  let (location, e) ← d.find p
  if (d.tree.access location).read then
    match e with
    | .file bytes => pure bytes
    | .folder => throw (.system .isFolder p.text)
  else throw (.system .denied p.text)

/-! ## Changing -/

/-- Writes a file, in place of one that is there. -/
def write (d : Disk) (p : Path) (bytes : ByteArray) : Except Trouble Disk := do
  let location ← d.locate p
  if d.tree.get? location = some .folder then throw (.system .isFolder p.text)
  else if d.tree.mayPut location then pure { d with tree := d.tree.put location (.file bytes) }
  else throw (.system .denied p.text)

/-- Makes a folder in one that is there. -/
def makeFolder (d : Disk) (p : Path) : Except Trouble Disk := do
  let location ← d.locate p
  if (d.tree.get? location).isSome then throw (.system .alreadyExists p.text)
  else if d.tree.mayPut location then pure { d with tree := d.tree.put location .folder }
  else throw (.system .denied p.text)

/-- The disk with something else that may be done with the entry at a location. -/
def setAccess (d : Disk) (location : Location) (a : Access) : Disk :=
  { d with tree := d.tree.setAccess location a }

/-- Makes a folder unless it is there, in one that is there. -/
def ensureFolder (d : Disk) (p : Path) : Except Trouble Disk :=
  match d.makeFolder p with
  | .ok d => .ok d
  | .error (.system .noEntry path) => .error (.system .noEntry path)
  | .error .zeroCharacter => .error .zeroCharacter
  | .error trouble => if d.isFolder p then .ok d else .error trouble

/-- Makes a folder with a root and parts, the last part first, and those it lies in. -/
def ensureFoldersFrom (d : Disk) (root : Root) : List String → Disk × Except Trouble Unit
  | [] =>
    match d.ensureFolder ⟨root, []⟩ with
    | .ok d => (d, .ok ())
    | .error trouble => (d, .error trouble)
  | part :: above =>
    let p : Path := ⟨root, (part :: above).reverse⟩
    match d.ensureFolder p with
    | .ok d => (d, .ok ())
    | .error (.system .noEntry _) =>
      match d.ensureFoldersFrom root above with
      | (d, .error trouble) => (d, .error trouble)
      | (d, .ok ()) =>
        match d.ensureFolder p with
        | .ok d => (d, .ok ())
        | .error trouble => (d, .error trouble)
    | .error trouble => (d, .error trouble)

/-- Makes a folder and those it lies in, as far as they are not there. -/
def ensureFolders (d : Disk) (p : Path) : Disk × Except Trouble Unit :=
  d.ensureFoldersFrom p.root p.parts.reverse

/-- A path as it is named when two paths are found to be the same. -/
def named (p : Path) : String :=
  "PosixPath(" ++ Text.quoted p.text ++ ")"

/-- Copies a file to a path. If a folder is there, the copy goes into it under the name of the
file. What may be done with the file may be done with the copy. -/
def copy (d : Disk) (source target : Path) : Except Trouble Disk := do
  let (goal, goalName) :=
    if d.isFolder target then
      let inner := target.child source.name
      (inner, Text.quoted inner.text)
    else (target, named target)
  if d.isSame source goal then throw (.sameFile (named source) goalName)
  let bytes ← d.read source
  let written ← d.write goal bytes
  let access := d.tree.access (← d.locate source)
  pure (written.setAccess (← d.locate goal) access)

end Disk

end VuserScript.Storage
