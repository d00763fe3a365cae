/-
  VuserScript.Conversion.FolderName

  The names of script folders. Names are told apart without regard to case; if
  a name is taken, the least number from two on that makes it free is added.
-/
import VuserScript.Text.SafeName

namespace VuserScript.Conversion

/-- The form in which names of folders are compared. -/
def folded (name : String) : String :=
  String.ofList (name.toList.map Char.toLower)

/-- The names that are tried in turn. One more than there are names taken is always enough. -/
def candidates (base : String) (count : Nat) : List String :=
  base :: (List.range count).map fun k => base ++ "_" ++ toString (k + 2)

/-- The first free name; `taken` holds the folded names in use. -/
def freshName (taken : List String) (base : String) : String :=
  ((candidates base taken.length).find? fun name => !taken.contains (folded name)).getD base

/-- The name of the folder for a thread group. -/
def folderName (scriptPrefix : String) (taken : List String) (group : String) : String :=
  freshName taken (Text.safeName (scriptPrefix ++ group))

/-- The names of the folders for thread groups one after another. -/
def folderNames (scriptPrefix : String) (taken : List String) : List String → List String
  | [] => []
  | group :: groups =>
    let name := folderName scriptPrefix taken group
    name :: folderNames scriptPrefix (folded name :: taken) groups

end VuserScript.Conversion
