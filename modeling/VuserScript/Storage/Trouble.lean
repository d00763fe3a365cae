/-
  VuserScript.Storage.Trouble

  Why an operation on files fails: the causes that the system gives for what is
  there, for names, and for what the user may do. Causes that lie elsewhere, as
  links that lead back to themselves or a disk that is full, are left out.
-/
import VuserScript.Text.Quoted

namespace VuserScript.Storage

/-- The causes that the system reports. -/
inductive Cause where
  | noEntry
  | denied
  | alreadyExists
  | notFolder
  | isFolder
  | nameTooLong
  deriving DecidableEq, Repr

namespace Cause

/-- The number of a cause. -/
def number : Cause → Nat
  | noEntry => 2
  | denied => 13
  | alreadyExists => 17
  | notFolder => 20
  | isFolder => 21
  | nameTooLong => 36

/-- The wording of a cause. -/
def message : Cause → String
  | noEntry => "No such file or directory"
  | denied => "Permission denied"
  | alreadyExists => "File exists"
  | notFolder => "Not a directory"
  | isFolder => "Is a directory"
  | nameTooLong => "File name too long"

/-- Whether a cause tells that nothing is there. -/
def isAbsence : Cause → Bool
  | noEntry | notFolder => true
  | _ => false

end Cause

/-- What went wrong with a file. -/
inductive Trouble where
  | system (cause : Cause) (path : String)
  /-- A file cannot be copied onto itself; both sides are named as they were given. -/
  | sameFile (source target : String)
  /-- No name of a file holds the character of number zero. -/
  | zeroCharacter
  deriving DecidableEq, Repr

/-- The wording of what went wrong. -/
def Trouble.message : Trouble → String
  | system cause path =>
    "[Errno " ++ toString cause.number ++ "] " ++ cause.message ++ ": " ++ Text.quoted path
  | sameFile source target => source ++ " and " ++ target ++ " are the same file"
  | zeroCharacter => "embedded null byte"

end VuserScript.Storage
