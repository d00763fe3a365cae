/-
  VuserScript.Xml.Doctype.Expansion

  How much text references stand for. A few declarations can make a short
  reference stand for a huge text. References may make a document a hundred times
  as large as it is, or eight mebibytes if that is more; beyond that it is refused.
-/
import VuserScript.Xml.Doctype.Declarations

namespace VuserScript.Xml

/-- The bytes that references may stand for in a document of some size. -/
def allowedExpansion (documentSize : Nat) : Nat :=
  max (0x7FFFFF - documentSize) (99 * documentSize)

/-- The names of the entities that a text refers to. -/
def referredNames : List Char → List (List Char)
  | [] => []
  | c :: rest =>
    if c = '&' then rest.takeWhile (· ≠ ';') :: referredNames rest else referredNames rest

/-- The names of the entities that pieces refer to. -/
def Piece.referredNames (pieces : List Piece) : List (List Char) :=
  pieces.filterMap fun piece =>
    match piece with
    | .reference (.entity name) _ => some name
    | _ => none

/-- An entity with the size of its own text and the entities that this refers to. -/
structure EntitySize where
  name : List Char
  size : Nat
  references : List (List Char)

namespace Declarations

/-- The sizes of the entities that stand for a text. -/
def entitySizes (d : Declarations) : List EntitySize :=
  d.entities.filterMap fun (name, e) =>
    match e with
    | .internal text => some ⟨name, (text.map Char.utf8Size).foldl (· + ·) 0, referredNames text⟩
    | _ => none

/-- The size of what references stand for, by the sizes of entities. -/
def totalSize (sizes : List (List Char × Nat)) (references : List (List Char)) : Nat :=
  (references.map fun name => (sizes.lookup name).getD 0).foldl (· + ·) 0

/-- Adds to the sizes of entities those of the entities that they refer to, until nothing changes.
`fuel` bounds how deep references are nested. -/
def settleSizes (entities : List EntitySize) :
    (fuel : Nat) → List (List Char × Nat) → List (List Char × Nat)
  | 0, sizes => sizes
  | fuel + 1, sizes =>
    let next := entities.map fun e => (e.name, e.size + totalSize sizes e.references)
    if next = sizes then sizes else settleSizes entities fuel next

/-- The declarations with the size of all that each entity stands for. -/
def withSizes (d : Declarations) : Declarations :=
  let entities := d.entitySizes
  { d with sizes := settleSizes entities d.depth (entities.map fun e => (e.name, e.size)) }

/-- Counts what references stand for, unless it is too much. -/
def expand? (d : Declarations) (references : List (List Char)) : Option Declarations :=
  if references.isEmpty then some d
  else
    let expanded := d.expanded + totalSize d.sizes references
    if d.allowed < expanded then none else some { d with expanded }

end Declarations

end VuserScript.Xml
