/-
  VuserScript.Session

  Runs of operations that change files and keep records. What has been done
  before a problem stays done.
-/
import VuserScript.Log
import VuserScript.Problem
import VuserScript.Storage.Disk

namespace VuserScript

open Storage (Disk Trouble)

/-- The files and the records. -/
structure Session where
  disk : Disk
  log : List Record := []

/-- An operation within a session, which may stop with a problem. -/
abbrev Job := ExceptT Problem (StateM Session)

namespace Job

/-- Adds records. -/
def note (records : List Record) : Job Unit :=
  modify fun s => { s with log := s.log ++ records }

/-- Adds a warning. -/
def warn (message : String) : Job Unit :=
  note [.ofWarning message]

/-- The files as they are. -/
def disk : Job Disk := do
  pure (← get).disk

/-- Puts a disk in place of the one that is there. -/
def setDisk (d : Disk) : Job Unit :=
  modify fun s => { s with disk := d }

/-- An answer, or the problem that a trouble with files makes. A name that no file can have is
never foreseen. -/
def orTrouble {α : Type} (problem : Trouble → Problem) : Except Trouble α → Job α
  | .ok value => pure value
  | .error .zeroCharacter => throw (.storage .zeroCharacter)
  | .error trouble => throw (problem trouble)

end Job

end VuserScript
