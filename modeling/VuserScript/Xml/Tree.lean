/-
  VuserScript.Xml.Tree

  Building the element tree from the tokens inside the document element. Open
  elements wait on a stack. A reference to an entity is replaced by what its
  text consists of, which has to close all elements that it opens and no other;
  whatever is wrong in it shows at the reference.
-/
import VuserScript.Xml.Doctype.Expansion
import VuserScript.Xml.Element
import VuserScript.Xml.Namespace

namespace VuserScript.Xml

open Scan

/-! ## Start tags -/

/-- The name, the attributes and the scope of an element. -/
structure Head where
  tag : String
  attributes : List (String × String)
  scope : Scope

namespace Head

/-- The attributes of a tag with their values, and the bindings they add. The faults come in the
order of the attributes. -/
def written (d : Declarations) (element : List Char) (opened : List (List Char)) (start : Position)
    (seen : List (List Char)) (scope : Scope) :
    List RawAttribute → Except Malformed (List (List Char × List Char) × Scope)
  | [] => .ok ([], scope)
  | a :: rest => do
    if seen.contains a.name then throw ⟨.duplicateAttribute, a.place⟩
    let value ← match d.valueOf (d.isText element a.name) opened a.value with
      | .ok value => pure value
      | .error problem => throw ⟨problem.fault, problem.place.getD start⟩
    match declaredPrefix? a.name with
    | some pre =>
      match scope.bind pre value with
      | .error fault => throw ⟨fault, start⟩
      | .ok scope => written d element opened start (a.name :: seen) scope rest
    | none =>
      let (others, scope) ← written d element opened start (a.name :: seen) scope rest
      pure ((a.name, value) :: others, scope)

/-- The defaults of the attributes that a tag leaves out, and the bindings they add. -/
def defaults (start : Position) (seen : List (List Char)) (scope : Scope) :
    List AttributeDeclaration → Except Malformed (List (List Char × List Char) × Scope)
  | [] => .ok ([], scope)
  | a :: rest =>
    match a.default with
    | none => defaults start seen scope rest
    | some value =>
      if seen.contains a.name then defaults start seen scope rest
      else
        match declaredPrefix? a.name with
        | some pre =>
          match scope.bind pre value with
          | .error fault => .error ⟨fault, start⟩
          | .ok scope => defaults start seen scope rest
        | none => do
          let (others, scope) ← defaults start (a.name :: seen) scope rest
          pure ((a.name, value) :: others, scope)

/-- The attributes under their expanded names, no two of which may be equal. -/
def expand (start : Position) (scope : Scope) (seen : List String) :
    List (List Char × List Char) → Except Malformed (List (String × String))
  | [] => .ok []
  | (name, value) :: rest => do
    let expanded ← match scope.attributeName name with
      | .ok expanded => pure expanded
      | .error fault => throw ⟨fault, start⟩
    if seen.contains expanded then throw ⟨.duplicateAttribute, start⟩
    let others ← expand start scope (expanded :: seen) rest
    pure ((expanded, String.ofList value) :: others)

/-- The head of an element whose tag starts at a place. -/
def ofTag (d : Declarations) (opened : List (List Char)) (scope : Scope) (start : Position)
    (name : List Char) (attributes : List RawAttribute) : Except Malformed Head := do
  let (given, scope) ← written d name opened start [] scope attributes
  let (added, scope) ←
    defaults start (attributes.map (·.name)) scope (d.attributesOf name)
  let attributes ← expand start scope [] (given ++ added)
  match scope.elementName name with
  | .ok tag => pure ⟨tag, attributes, scope⟩
  | .error fault => throw ⟨fault, start⟩

end Head

/-! ## Open elements -/

/-- A part of the content of an element. -/
inductive Node where
  | text (cs : List Char)
  | element (e : Element)

namespace Node

/-- A text, if it is there at all. -/
def textOf (cs : List Char) : Option String :=
  if cs = [] then none else some (String.ofList cs)

/-- The text before the first element, and the elements with the text behind each. -/
def gather : List Node → List Char × List Element
  | [] => ([], [])
  | .text cs :: rest =>
    let (leading, elements) := gather rest
    (cs ++ leading, elements)
  | .element e :: rest =>
    let (leading, elements) := gather rest
    ([], { e with tail := textOf leading } :: elements)

end Node

/-- An element whose end tag is still to come. -/
structure OpenElement where
  /-- The name as it is written, which the end tag repeats. -/
  name : List Char
  head : Head
  /-- The content so far, the latest part first. -/
  content : List Node := []

/-- The element when its end tag is there. -/
def OpenElement.close (o : OpenElement) : Element :=
  let (text, children) := Node.gather o.content.reverse
  { tag := o.head.tag, attributes := o.head.attributes, text := Node.textOf text, children }

/-! ## Content -/

/-- What reading content has come to. -/
inductive Progress where
  /-- The tokens are used up while elements are open. -/
  | unfinished (stack : List OpenElement)
  /-- The document element is complete, and these symbols follow it. -/
  | finished (root : Element) (rest : List Symbol)

namespace Tree

/-- Adds a part to the innermost open element. -/
def add (node : Node) : List OpenElement → List OpenElement
  | o :: stack => { o with content := node :: o.content } :: stack
  | [] => []

/-- The scope of the innermost open element. -/
def scopeOf : List OpenElement → Scope
  | o :: _ => o.head.scope
  | [] => .initial

/-- Counts what references at a place stand for. Within the text of an entity that is done for the
reference to it. -/
def count (d : Declarations) (opened : List (List Char)) (place : Position)
    (references : List (List Char)) : Except Malformed Declarations :=
  if opened ≠ [] then .ok d
  else match d.expand? references with
    | some d => .ok d
    | none => .error ⟨.excessiveExpansion, place⟩

/-- Follows tokens with a stack of open elements. The elements in the lower `floor` places of the
stack were opened outside of this text and cannot be closed in it. `expand` follows the text of
an entity; `opened` are the entities that this text is part of. -/
def follow (opened : List (List Char)) (floor : Nat)
    (expand : List Char → List Char → Position → List OpenElement →
      Except Malformed (List OpenElement)) :
    (d : Declarations) → List (Lexeme ContentToken) → List OpenElement →
      Except Malformed Progress
  | _, [], stack => .ok (.unfinished stack)
  | d, ⟨token, place, rest⟩ :: lexemes, stack =>
    match token with
    | .text cs => follow opened floor expand d lexemes (add (.text cs) stack)
    | .silent => follow opened floor expand d lexemes stack
    | .declaration => .error ⟨.misplacedDeclaration, place⟩
    | .fault problem => .error problem
    | .finish =>
      if floor = 0 then .error ⟨.noElement, place⟩
      else if stack.length = floor then .ok (.unfinished stack)
      else .error ⟨.asynchronousEntity, place⟩
    | .startTag name attributes empty => do
      let d ← count d opened place (attributes.flatMap fun a => Piece.referredNames a.value)
      let head ← Head.ofTag d opened (scopeOf stack) place name attributes
      let o : OpenElement := { name, head }
      if empty then
        if stack.isEmpty then pure (.finished o.close rest)
        else follow opened floor expand d lexemes (add (.element o.close) stack)
      else follow opened floor expand d lexemes (o :: stack)
    | .endTag name namePlace =>
      if stack.length ≤ floor ∧ floor ≠ 0 then .error ⟨.asynchronousEntity, place⟩
      else match stack with
        | [] => .error ⟨.asynchronousEntity, place⟩
        | o :: outer =>
          if o.name ≠ name then .error ⟨.mismatchedTag, namePlace⟩
          else if outer.isEmpty then .ok (.finished o.close rest)
          else follow opened floor expand d lexemes (add (.element o.close) outer)
    | .reference (.character none) => .error ⟨.invalidCharacterNumber, place⟩
    | .reference (.character (some c)) =>
      follow opened floor expand d lexemes (add (.text [c]) stack)
    | .reference (.entity name) =>
      match predefined? name with
      | some c => follow opened floor expand d lexemes (add (.text [c]) stack)
      | none =>
        match d.entity? name with
        | none =>
          if d.complete then .error ⟨.undefinedEntity, place⟩
          else .error ⟨.unknownEntity (String.ofList name), place⟩
        | some e =>
          if opened.contains name then .error ⟨.recursiveEntity, place⟩
          else match e with
            | .unparsed => .error ⟨.binaryEntity, place⟩
            | .external => .error ⟨.unknownEntity (String.ofList name), place⟩
            | .internal text => do
              let d ← count d opened place [name]
              let stack ← expand name text place stack
              follow opened floor expand d lexemes stack

/-- Follows the text of an entity that stands in for a reference. -/
def expandAt (d : Declarations) :
    (depth : Nat) → (opened : List (List Char)) → (name text : List Char) → Position →
      List OpenElement → Except Malformed (List OpenElement)
  | 0, _, _, _, place, _ => .error ⟨.recursiveEntity, place⟩
  | depth + 1, opened, name, text, place, stack => do
    let opened := name :: opened
    let lexemes := (Source.at place text).contentTokens
    match ← follow opened stack.length (expandAt d depth opened) d lexemes stack with
    | .unfinished stack => pure stack
    | .finished _ _ => throw ⟨.asynchronousEntity, place⟩

/-- Reads the document element, which starts at the first symbol. -/
def ofSource (d : Declarations) (source : Source) : Except Malformed (Element × List Symbol) := do
  match ← follow [] 0 (expandAt d d.depth []) d source.contentTokens [] with
  | .finished root rest => pure (root, rest)
  | .unfinished _ => throw ⟨.noElement, source.finish⟩

end Tree

end VuserScript.Xml
