/-
  VuserScript.Xml.Doctype.Declarations

  What a document type declaration says that matters to the tree: entities with
  their replacement texts, and the types and defaults of attributes. The first
  declaration of a name counts.
-/
import VuserScript.Xml.Content
import VuserScript.Xml.Doctype.Token

namespace VuserScript.Xml

/-- What a general entity stands for. -/
inductive Entity where
  | internal (text : List Char)
  /-- A text outside the document. -/
  | external
  /-- Data in a notation. -/
  | unparsed

/-- The declaration of an attribute of an element. -/
structure AttributeDeclaration where
  element : List Char
  name : List Char
  /-- Whether spaces in values count as they are. -/
  isText : Bool
  default : Option (List Char)

/-- What has been declared so far. -/
structure Declarations where
  entities : List (List Char × Entity) := []
  attributes : List AttributeDeclaration := []
  /-- The document says that it stands alone. -/
  standalone : Bool := false
  /-- There may be declarations outside the document. -/
  incomplete : Bool := false
  /-- Declarations still count: no parameter entity was left out. -/
  reading : Bool := true
  /-- The bytes that references may stand for in the document. -/
  allowed : Nat
  /-- The bytes that those stand for that have been met. -/
  expanded : Nat := 0
  /-- The bytes that a reference to each entity stands for, once the entities are known. -/
  sizes : List (List Char × Nat) := []

namespace Declarations

/-- The meaning of an entity. -/
def entity? (d : Declarations) (name : List Char) : Option Entity :=
  d.entities.lookup name

/-- Whether a reference to an entity that is not declared is a fault. -/
def complete (d : Declarations) : Bool :=
  !d.incomplete || d.standalone

/-- Adds an entity, unless its name is taken or declarations no longer count. -/
def addEntity (d : Declarations) (name : List Char) (e : Entity) : Declarations :=
  if d.reading && (Scan.predefined? name).isNone && (d.entity? name).isNone then
    { d with entities := d.entities ++ [(name, e)] }
  else d

/-- The declarations of an element's attributes, in order. -/
def attributesOf (d : Declarations) (element : List Char) : List AttributeDeclaration :=
  d.attributes.filter (·.element == element)

/-- Adds an attribute. A default or an identifier is not added a second time. -/
def addAttribute (d : Declarations) (a : AttributeDeclaration) (isId : Bool) : Declarations :=
  let known := (d.attributesOf a.element).any (·.name == a.name)
  if d.reading && !((a.default.isSome || isId) && known) then
    { d with attributes := d.attributes ++ [a] }
  else d

/-- Whether spaces in the values of an attribute count as they are. -/
def isText (d : Declarations) (element name : List Char) : Bool :=
  match (d.attributesOf element).find? (·.name == name) with
  | some a => a.isText
  | none => true

/-- How deep references can be nested before one of them repeats. -/
def depth (d : Declarations) : Nat :=
  d.entities.length + 1

end Declarations

/-! ## Values -/

namespace Scan

/-- A fault within a value. The place is missing when it is that of the whole value. -/
structure ValueFault where
  fault : Fault
  place : Option Position

/-- Adds a space to a value, kept in reverse. Where spaces do not count as they are, none comes
first and none comes twice. -/
def addSpace (isText : Bool) (value : List Char) : List Char :=
  if isText then ' ' :: value
  else match value with
    | [] => []
    | ' ' :: _ => value
    | _ => ' ' :: value

/-- Adds the pieces to a value, kept in reverse; `expand` adds the text of an entity, which is
one of those that are not `opened` yet. -/
def evaluate (d : Declarations) (isText : Bool) (opened : List (List Char))
    (expand : List Char → List Char → List Char → Except ValueFault (List Char)) :
    List Piece → List Char → Except ValueFault (List Char)
  | [], value => .ok value
  | .char c :: rest, value => evaluate d isText opened expand rest (c :: value)
  | .malformed place :: _, _ => .error ⟨.invalidToken, some place⟩
  | .space :: rest, value => evaluate d isText opened expand rest (addSpace isText value)
  | .reference (.character none) place :: _, _ => .error ⟨.invalidCharacterNumber, some place⟩
  | .reference (.character (some c)) _ :: rest, value =>
    evaluate d isText opened expand rest (if c = ' ' then addSpace isText value else c :: value)
  | .reference (.entity name) place :: rest, value => do
    match predefined? name with
    | some c => evaluate d isText opened expand rest (c :: value)
    | none =>
      match d.entity? name with
      | none =>
        if d.complete then throw ⟨.undefinedEntity, none⟩
        else evaluate d isText opened expand rest value
      | some e =>
        if opened.contains name then throw ⟨.recursiveEntity, some place⟩
        match e with
        | .unparsed => throw ⟨.binaryEntity, some place⟩
        | .external => throw ⟨.externalEntityInAttribute, some place⟩
        | .internal text =>
          let value ← expand name text value
          evaluate d isText opened expand rest value

/-- Adds the text of an entity to a value. Faults within it show at the value as a whole. -/
def expandIn (d : Declarations) (isText : Bool) :
    (depth : Nat) → (opened : List (List Char)) → (name text value : List Char) →
      Except ValueFault (List Char)
  | 0, _, _, _, _ => .error ⟨.recursiveEntity, none⟩
  | depth + 1, opened, name, text, value =>
    let found := Piece.ofSymbols .utf8 (Source.at .start text).symbols
    let inner := expandIn d isText depth (name :: opened)
    match evaluate d isText (name :: opened) inner found value with
    | .ok value => .ok value
    | .error problem => .error ⟨problem.fault, none⟩

end Scan

open Scan in
/-- The value that pieces stand for. Where spaces do not count as they are, one at the end goes. -/
def Declarations.valueOf (d : Declarations) (isText : Bool) (opened : List (List Char))
    (pieces : List Piece) : Except ValueFault (List Char) := do
  let value ← evaluate d isText opened (expandIn d isText d.depth opened) pieces []
  match isText, value with
  | false, ' ' :: value => pure value.reverse
  | _, value => pure value.reverse

/-! ## Replacement texts -/

namespace Scan

/-- The replacement text of an entity: numbers are replaced by their characters and line ends
become line feeds, while references to entities stay. `fuel` bounds the number of steps. -/
def replacementText (a : Alphabet) : (fuel : Nat) → List Symbol → Except Malformed (List Char)
  | 0, _ => .ok []
  | _ + 1, [] => .ok []
  | fuel + 1, .char '&' place _ :: rest =>
    match reference.start a rest with
    | .error (.invalid place) => .error ⟨.invalidToken, place⟩
    | .error _ => .error ⟨.invalidToken, place⟩
    | .ok (.character none, _) => .error ⟨.invalidCharacterNumber, place⟩
    | .ok (.character (some c), rest) => do
      let others ← replacementText a fuel rest
      pure (c :: others)
    | .ok (.entity name, rest) => do
      let others ← replacementText a fuel rest
      pure ('&' :: name ++ ';' :: others)
  | _ + 1, .char '%' place _ :: rest =>
    match Scan.percent.start a rest with
    | .ok (.parameterReference, _) => .error ⟨.parameterEntity, place⟩
    | .ok (_, rest) =>
      .error ⟨.invalidToken, match rest with
        | s :: _ => s.place
        | [] => place⟩
    | .error (.invalid place) => .error ⟨.invalidToken, place⟩
    | .error _ => .error ⟨.invalidToken, place⟩
  | fuel + 1, .char '\r' _ _ :: rest => do
    let rest := match rest with
      | .char '\n' _ _ :: rest => rest
      | rest => rest
    let others ← replacementText a fuel rest
    pure ('\n' :: others)
  | _ + 1, .stray place :: _ => .error ⟨.invalidToken, place⟩
  | fuel + 1, s :: rest => do
    let others ← replacementText a fuel rest
    pure (s.char?.toList ++ others)

/-- A character that can stand in a public identifier. -/
def isPublicChar (c : Char) : Bool :=
  c.isAlphanum || c == ' ' || c == '\n' || c == '\r' || "-'()+,./:=?;!*#@$_%".toList.contains c

end Scan

end VuserScript.Xml
