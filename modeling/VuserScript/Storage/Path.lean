/-
  VuserScript.Storage.Path

  Paths as texts. Repeated slashes, slashes at the end and the component `.`
  make no difference and are dropped; `..` is kept, because what it means
  depends on the folders that are there. Two slashes at the start, and no
  third one, are a root of their own.
-/

namespace VuserScript.Storage

/-- Where a path starts. -/
inductive Root where
  /-- At the working folder. -/
  | relative
  | absolute
  /-- At the root that is written with two slashes. -/
  | doubled
  deriving DecidableEq, Repr

/-- A path. -/
structure Path where
  root : Root
  parts : List String
  deriving DecidableEq, Repr

namespace Path

/-- The parts of a text between slashes, empty ones included. -/
def splitSlashes : List Char → List (List Char)
  | [] => [[]]
  | c :: rest =>
    if c = '/' then [] :: splitSlashes rest
    else match splitSlashes rest with
      | part :: parts => (c :: part) :: parts
      | [] => [[c]]

/-- The root that a text starts at. -/
def rootOf : List Char → Root
  | '/' :: '/' :: '/' :: _ => .absolute
  | '/' :: '/' :: _ => .doubled
  | '/' :: _ => .absolute
  | _ => .relative

/-- The path that a text writes. -/
def parse (s : String) : Path :=
  { root := rootOf s.toList
    parts := ((splitSlashes s.toList).filter fun part => part ≠ [] ∧ part ≠ ['.']).map
      String.ofList }

/-- The path whose parts are all those between the slashes of a text, empty ones and `.` too. -/
def exact (s : String) : Path :=
  let root := rootOf s.toList
  let leading := match root with
    | .relative => 0
    | .absolute => 1
    | .doubled => 2
  ⟨root, ((splitSlashes s.toList).drop leading).map String.ofList⟩

/-- The written form of a path. -/
def text (p : Path) : String :=
  let parts := "/".intercalate p.parts
  match p.root with
  | .relative => if p.parts.isEmpty then "." else parts
  | .absolute => "/" ++ parts
  | .doubled => "//" ++ parts

/-- The parts that the system follows: without any, the working folder is called up by a period. -/
def steps (p : Path) : List String :=
  if p.root = .relative ∧ p.parts = [] then ["."] else p.parts

/-- Whether a path starts at a root. -/
def isAbsolute (p : Path) : Bool :=
  p.root != .relative

/-- A path within a folder; an absolute one replaces the folder. -/
def join (folder p : Path) : Path :=
  if p.isAbsolute then p else ⟨folder.root, folder.parts ++ p.parts⟩

/-- A path with one more part. -/
def child (folder : Path) (name : String) : Path :=
  ⟨folder.root, folder.parts ++ [name]⟩

/-- The last part, empty if there is none. -/
def name (p : Path) : String :=
  p.parts.getLast?.getD ""

/-- The path without its last part. -/
def parent (p : Path) : Path :=
  ⟨p.root, p.parts.dropLast⟩

/-- The last part without its extension. A period at either end starts none. -/
def stem (p : Path) : String :=
  let cs := p.name.toList
  let beforeDot := (cs.reverse.dropWhile (· ≠ '.')).drop 1
  let extension := cs.reverse.takeWhile (· ≠ '.')
  if beforeDot = [] ∨ extension = [] then p.name else String.ofList beforeDot.reverse

/-- The parts of an absolute path, without `..`: each removes the part before it. -/
def normalParts (parts : List String) : List String :=
  parts.foldl (fun above part => if part = ".." then above.dropLast else above ++ [part]) []

/-- The absolute form of a path, seen from a working folder. -/
def resolve (workingFolder : List String) (p : Path) : Path :=
  ⟨.absolute, normalParts (if p.isAbsolute then p.parts else workingFolder ++ p.parts)⟩

end Path

end VuserScript.Storage
