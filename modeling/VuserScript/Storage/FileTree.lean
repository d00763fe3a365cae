/-
  VuserScript.Storage.FileTree

  The folders and files that there are. An entry has a location, the list of
  names that leads to it from the root; the root itself is always there. With
  the entries goes what the user who runs the program may do with each of them.
  They all belong to this user, so that what is made anew is open to the user;
  neither links nor other owners are part of it.
-/
import VuserScript.Storage.Trouble

namespace VuserScript.Storage

/-- The names that lead to an entry from the root. -/
abbrev Location := List String

/-- A folder, or a file with its bytes. -/
inductive Entry where
  | folder
  | file (bytes : ByteArray)

/-- Files are compared by their bytes. -/
instance : DecidableEq Entry
  | .folder, .folder => isTrue rfl
  | .folder, .file _ | .file _, .folder => isFalse nofun
  | .file ⟨a⟩, .file ⟨b⟩ =>
    if h : a = b then isTrue (by rw [h]) else isFalse fun e => h (by injections)

/-! ## What may be done -/

/-- What may be done with an entry. In a folder, to write is to put entries there and to search is
to go on to what lies in it; whether a file may be searched makes no difference. -/
structure Access where
  read : Bool := true
  write : Bool := true
  search : Bool := true
  deriving DecidableEq, Repr

/-- What may be done at each location. -/
class Rights where
  access : Location → Access

/-- Where nothing else is said, all may be done. -/
instance : Rights := ⟨fun _ => {}⟩

/-! ## Trees -/

/-- All entries but the root, of which the first at a location counts, and what may be done with
them. A tree that is given by its entries alone is one where all may be done. -/
structure FileTree where
  entries : List (Location × Entry) := []
  [rights : Rights]

namespace FileTree

/-- The entry at a location. -/
def get? (t : FileTree) : Location → Option Entry
  | [] => some .folder
  | location => t.entries.lookup location

/-- What may be done with the entry at a location. -/
def access (t : FileTree) (location : Location) : Access :=
  t.rights.access location

/-- The tree with something else that may be done with the entry at a location. -/
def setAccess (t : FileTree) (location : Location) (a : Access) : FileTree :=
  { t with rights := ⟨fun other => if other = location then a else t.access other⟩ }

/-- The tree with an entry at a location. If it takes the place of another one, it may be used like
that one; with a new entry all may be done. -/
def put (t : FileTree) (location : Location) (e : Entry) : FileTree :=
  let t := if (t.get? location).isSome then t else t.setAccess location {}
  { t with entries := (location, e) :: t.entries.filter fun entry => entry.1 ≠ location }

/-- Whether an entry may be put at a location: in place of a file that may be written, or into a
folder that may be. -/
def mayPut (t : FileTree) (location : Location) : Bool :=
  match t.get? location with
  | some _ => (t.access location).write
  | none => (t.access location.dropLast).write

theorem put_entries (t : FileTree) (location : Location) (e : Entry) : (t.put location e).entries
    = (location, e) :: t.entries.filter fun entry => entry.1 ≠ location := by
  unfold put
  cases (t.get? location).isSome <;> rfl

theorem get?_put_self (t : FileTree) {location : Location} (h : location ≠ []) (e : Entry) :
    (t.put location e).get? location = some e := by
  cases location with
  | nil => exact absurd rfl h
  | cons name rest => simp [get?, put_entries]

theorem get?_put_of_ne (t : FileTree) {location other : Location} (h : other ≠ location)
    (e : Entry) : (t.put location e).get? other = t.get? other := by
  cases other with
  | nil => rfl
  | cons name rest =>
    have hne : (name :: rest == location) = false := by simpa using h
    simp only [get?, put_entries, List.lookup_cons, hne]
    induction t.entries with
    | nil => rfl
    | cons entry entries ih =>
      obtain ⟨found, e⟩ := entry
      by_cases hf : found = location
      · subst hf
        simpa [List.lookup_cons, hne] using ih
      · by_cases hn : (name :: rest == found) = true
        · simp [List.lookup_cons, hf, hn]
        · simp only [Bool.not_eq_true] at hn
          simpa [List.lookup_cons, hf, hn] using ih

@[simp] theorem get?_setAccess (t : FileTree) (location other : Location) (a : Access) :
    (t.setAccess location a).get? other = t.get? other := by
  cases other <;> rfl

@[simp] theorem access_setAccess_self (t : FileTree) (location : Location) (a : Access) :
    (t.setAccess location a).access location = a :=
  if_pos rfl

theorem access_setAccess_of_ne (t : FileTree) {location other : Location} (h : other ≠ location)
    (a : Access) : (t.setAccess location a).access other = t.access other :=
  if_neg h

theorem access_put_of_some (t : FileTree) {location : Location} {found : Entry}
    (h : t.get? location = some found) (e : Entry) (other : Location) :
    (t.put location e).access other = t.access other := by
  unfold put
  rw [h]
  rfl

theorem access_put_of_none (t : FileTree) {location : Location} (h : t.get? location = none)
    (e : Entry) : (t.put location e).access location = {} := by
  unfold put
  rw [h]
  exact t.access_setAccess_self location {}

theorem access_put_of_ne (t : FileTree) {location other : Location} (h : other ≠ location)
    (e : Entry) : (t.put location e).access other = t.access other := by
  unfold put
  cases (t.get? location).isSome with
  | true => rfl
  | false => exact t.access_setAccess_of_ne h {}

/-! ## Following paths -/

/-- The longest name of an entry, in bytes. -/
def longestName : Nat := 255

/-- One step along a path, from a location that has to be a folder, and one that may be searched if
the step is for a name. The location that is reached need not exist. -/
def step (t : FileTree) (location : Location) (part : String) : Except Cause Location :=
  match t.get? location with
  | none => .error .noEntry
  | some (.file _) => .error .notFolder
  | some .folder =>
    if part = "" then .ok location
    else if !(t.access location).search then .error .denied
    else if part = ".." then .ok location.dropLast
    else if part = "." then .ok location
    else if longestName < part.utf8ByteSize then .error .nameTooLong
    else .ok (location ++ [part])

/-- The location at the end of some parts. It need not exist, but all before it are folders. -/
def follow (t : FileTree) (start : Location) (parts : List String) : Except Cause Location :=
  parts.foldlM t.step start

end FileTree

end VuserScript.Storage
