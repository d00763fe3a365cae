/-
  VuserScript.Xml.Doctype.Grammar

  The order of tokens in front of the document element. A phase says what may
  come next and holds what the declaration at hand has given so far; each token
  but white space moves to another phase or is a fault.
-/
import VuserScript.Xml.Doctype.Expansion

namespace VuserScript.Xml

open Scan

/-- The entity that a declaration is about. -/
structure EntityName where
  cs : List Char
  isParameter : Bool

/-- The attribute that a declaration is about. -/
structure AttributeName where
  element : List Char
  cs : List Char

/-- The type of an attribute, as far as it matters. -/
structure AttributeType where
  isText : Bool
  isId : Bool

/-- What may come next. -/
inductive Phase where
  /-- In front of a document type declaration. -/
  | before
  /-- Behind the document type declaration. -/
  | behind
  | doctype
  | doctypeName
  | doctypePublic
  | doctypeSystem
  /-- Behind the external identifier. -/
  | doctypeIdentified
  /-- Behind the internal subset. -/
  | doctypeEnd
  /-- Between the declarations of the internal subset. -/
  | subset
  | entity
  | parameterEntity
  | entityMeaning (name : EntityName)
  | entityPublic (name : EntityName)
  | entitySystem (name : EntityName)
  /-- Behind the external identifier of an entity. -/
  | entityIdentified (name : EntityName)
  | entityNotation (name : EntityName)
  | notationName
  | notationIdentifier
  | notationPublic
  | notationSystem
  /-- Behind the public identifier of a notation. -/
  | notationEnd
  | attributes
  | attributeName (element : List Char)
  | attributeType (a : AttributeName)
  /-- Values between parentheses; names are those of notations. -/
  | attributeValue (a : AttributeName) (names : Bool)
  | attributeValueEnd (a : AttributeName) (names : Bool)
  | attributeNotations (a : AttributeName)
  | attributeDefault (a : AttributeName) (type : AttributeType)
  | attributeFixed (a : AttributeName) (type : AttributeType)
  | element
  | elementContent
  /-- The first item of a content model. -/
  | modelStart
  /-- Behind `#PCDATA`. -/
  | mixed
  | mixedName
  | mixedNext
  /-- An item of a group. The connectors of the open groups come innermost first. -/
  | modelItem (groups : List (Option PrologToken))
  | modelNext (groups : List (Option PrologToken))
  /-- Nothing but the end of a declaration. -/
  | declarationEnd

namespace Phase

/-- The fault of a token that may not come next. -/
def refuse {α : Type} (token : PrologToken) (place : Position) : Except Malformed α :=
  match token with
  | .parameterReference => .error ⟨.parameterEntity, place⟩
  | .declaration => .error ⟨.misplacedDeclaration, place⟩
  | _ => .error ⟨.syntaxError, place⟩

/-- Refuses a public identifier with a character that does not belong there. -/
def checkPublic (content : List Symbol) : Except Malformed Unit :=
  match content.find? fun s => s.char?.any fun c => !isPublicChar c with
  | some s => .error ⟨.publicIdentifier, s.place⟩
  | none => .ok ()

/-- The phase behind `SYSTEM` or `PUBLIC`. -/
def identifier? (keyword : List Char) (system public_ : Phase) : Option Phase :=
  if keyword = "SYSTEM".toList then some system
  else if keyword = "PUBLIC".toList then some public_
  else none

/-- The phase that a declaration in the internal subset starts with. -/
def ofKeyword? (keyword : List Char) : Option Phase :=
  if keyword = "ENTITY".toList then some entity
  else if keyword = "ATTLIST".toList then some attributes
  else if keyword = "ELEMENT".toList then some element
  else if keyword = "NOTATION".toList then some notationName
  else none

/-- The types of attributes that are written as one word. -/
def attributeType? (keyword : List Char) : Option AttributeType :=
  if keyword = "CDATA".toList then some ⟨true, false⟩
  else if keyword = "ID".toList then some ⟨false, true⟩
  else if ["IDREF", "IDREFS", "ENTITY", "ENTITIES", "NMTOKEN", "NMTOKENS"].any
      (·.toList = keyword) then some ⟨false, false⟩
  else none

/-- Records an attribute with or without a default value. -/
def declareAttribute (d : Declarations) (a : AttributeName) (type : AttributeType)
    (value : Option (List Char)) : Declarations :=
  d.addAttribute ⟨a.element, a.cs, type.isText, value⟩ type.isId

/-- The default value that a literal gives, and the declarations with what it expands counted. -/
def defaultValue (alphabet : Alphabet) (d : Declarations) (type : AttributeType)
    (content : List Symbol) (place : Position) : Except Malformed (List Char × Declarations) :=
  let found := Piece.ofSymbols alphabet content
  let references := Piece.referredNames found
  let d := if references.isEmpty then d else d.withSizes
  match d.expand? references with
  | none => .error ⟨.excessiveExpansion, place⟩
  | some d =>
    match d.valueOf type.isText [] found with
    | .ok value => .ok (value, d)
    | .error problem => .error ⟨problem.fault, problem.place.getD place⟩

/-- The phase behind a connector of a group, which has to be the one used before in it. -/
def connect (token : PrologToken) (place : Position) :
    List (Option PrologToken) → Except Malformed Phase
  | none :: groups => .ok (modelItem (some token :: groups))
  | some used :: groups =>
    match used, token with
    | .comma, .comma | .bar, .bar => .ok (modelItem (some token :: groups))
    | _, _ => .error ⟨.syntaxError, place⟩
  | [] => .error ⟨.syntaxError, place⟩

/-- The phase behind the end of a group. -/
def closeGroup : List (Option PrologToken) → Phase
  | _ :: group :: groups => modelNext (group :: groups)
  | _ => declarationEnd

/-- The phase behind a token, with what the token declares. -/
def step (alphabet : Alphabet) (d : Declarations) (phase : Phase) (token : PrologToken)
    (place : Position) : Except Malformed (Phase × Declarations) :=
  let goOn (next : Phase) : Except Malformed (Phase × Declarations) := .ok (next, d)
  let toOption (next : Option Phase) : Except Malformed (Phase × Declarations) :=
    match next with
    | some next => .ok (next, d)
    | none => refuse token place
  let outside : Declarations := { d with incomplete := true }
  match phase, token with
  | _, .space => goOn phase
  | before, .comment | before, .instruction => goOn before
  | before, .opening keyword =>
    if keyword = "DOCTYPE".toList then goOn doctype else refuse token place
  | behind, .comment | behind, .instruction => goOn behind
  -- the document type
  | doctype, .name _ | doctype, .prefixedName _ => goOn doctypeName
  | doctypeName, .openBracket => goOn subset
  | doctypeName, .close => goOn behind
  | doctypeName, .name keyword => toOption (identifier? keyword doctypeSystem doctypePublic)
  | doctypePublic, .literal content => do
    checkPublic content
    pure (doctypeSystem, outside)
  | doctypeSystem, .literal _ => .ok (doctypeIdentified, outside)
  | doctypeIdentified, .openBracket => goOn subset
  | doctypeIdentified, .close => goOn behind
  | doctypeEnd, .close => goOn behind
  -- the internal subset
  | subset, .opening keyword => toOption (ofKeyword? keyword)
  | subset, .comment | subset, .instruction => goOn subset
  | subset, .parameterReference => .ok (subset, { outside with reading := d.standalone })
  | subset, .closeBracket => goOn doctypeEnd
  | declarationEnd, .close => goOn subset
  -- entities
  | entity, .percent => goOn parameterEntity
  | entity, .name cs => goOn (entityMeaning ⟨cs, false⟩)
  | parameterEntity, .name cs => goOn (entityMeaning ⟨cs, true⟩)
  | entityMeaning name, .name keyword =>
    toOption (identifier? keyword (entitySystem name) (entityPublic name))
  | entityMeaning name, .literal content =>
    if d.reading then do
      let text ← replacementText alphabet (content.length + 1) content
      pure (declarationEnd, if name.isParameter then d else d.addEntity name.cs (.internal text))
    else goOn declarationEnd
  | entityPublic name, .literal content => do
    checkPublic content
    goOn (entitySystem name)
  | entitySystem name, .literal _ => goOn (entityIdentified name)
  | entityIdentified name, .close =>
    .ok (subset, if name.isParameter then d else d.addEntity name.cs .external)
  | entityIdentified name, .name keyword =>
    if keyword = "NDATA".toList && !name.isParameter then goOn (entityNotation name)
    else refuse token place
  | entityNotation name, .name _ => .ok (declarationEnd, d.addEntity name.cs .unparsed)
  -- notations
  | notationName, .name _ => goOn notationIdentifier
  | notationIdentifier, .name keyword =>
    toOption (identifier? keyword notationSystem notationPublic)
  | notationPublic, .literal content => do
    checkPublic content
    goOn notationEnd
  | notationSystem, .literal _ => goOn declarationEnd
  | notationEnd, .literal _ => goOn declarationEnd
  | notationEnd, .close => goOn subset
  -- attributes
  | attributes, .name cs | attributes, .prefixedName cs => goOn (attributeName cs)
  | attributeName _, .close => goOn subset
  | attributeName owner, .name cs | attributeName owner, .prefixedName cs =>
    goOn (attributeType ⟨owner, cs⟩)
  | attributeType a, .name keyword =>
    if keyword = "NOTATION".toList then goOn (attributeNotations a)
    else toOption ((attributeType? keyword).map (attributeDefault a))
  | attributeType a, .openParen => goOn (attributeValue a false)
  | attributeNotations a, .openParen => goOn (attributeValue a true)
  | attributeValue a names, .name _ => goOn (attributeValueEnd a names)
  | attributeValue a false, .nameToken _ | attributeValue a false, .prefixedName _ =>
    goOn (attributeValueEnd a false)
  | attributeValueEnd a _, .closeParen none => goOn (attributeDefault a ⟨false, false⟩)
  | attributeValueEnd a names, .bar => goOn (attributeValue a names)
  | attributeDefault a type, .keyword cs =>
    if cs = "IMPLIED".toList ∨ cs = "REQUIRED".toList then
      .ok (attributeName a.element, declareAttribute d a type none)
    else if cs = "FIXED".toList then goOn (attributeFixed a type)
    else refuse token place
  | attributeDefault a type, .literal content | attributeFixed a type, .literal content =>
    if d.reading then do
      let (value, d) ← defaultValue alphabet d type content place
      pure (attributeName a.element, declareAttribute d a type (some value))
    else goOn (attributeName a.element)
  -- elements
  | element, .name _ | element, .prefixedName _ => goOn elementContent
  | elementContent, .name keyword =>
    if keyword = "EMPTY".toList ∨ keyword = "ANY".toList then goOn declarationEnd
    else refuse token place
  | elementContent, .openParen => goOn modelStart
  | modelStart, .keyword cs => if cs = "PCDATA".toList then goOn mixed else refuse token place
  | modelStart, .openParen => goOn (modelItem [none, none])
  | modelStart, .name _ | modelStart, .prefixedName _ | modelStart, .markedName _ =>
    goOn (modelNext [none])
  | mixed, .closeParen none | mixed, .closeParen (some '*') => goOn declarationEnd
  | mixed, .bar => goOn mixedName
  | mixedName, .name _ | mixedName, .prefixedName _ => goOn mixedNext
  | mixedNext, .closeParen (some '*') => goOn declarationEnd
  | mixedNext, .bar => goOn mixedName
  | modelItem groups, .openParen => goOn (modelItem (none :: groups))
  | modelItem groups, .name _ | modelItem groups, .prefixedName _
  | modelItem groups, .markedName _ => goOn (modelNext groups)
  | modelNext groups, .closeParen _ => goOn (closeGroup groups)
  | modelNext groups, .comma | modelNext groups, .bar => do
    let next ← connect token place groups
    goOn next
  | _, _ => refuse token place

end Phase

/-- Where the prolog ends: the symbols from the document element on, and the declarations. -/
structure Prolog where
  declarations : Declarations
  rest : List Symbol

/-- Follows the tokens up to the document element. -/
def Prolog.ofTokens (alphabet : Alphabet) (d : Declarations) (phase : Phase) :
    List (Lexeme PrologToken) → Except Malformed Prolog
  | [] => .error ⟨.noElement, .start⟩
  | lexeme :: lexemes =>
    match lexeme.token, phase with
    | .fault problem, _ => .error problem
    | .finish, _ => .error ⟨.noElement, lexeme.place⟩
    | .element, .before | .element, .behind => .ok ⟨d.withSizes, lexeme.rest⟩
    | token, phase => do
      let (phase, d) ← phase.step alphabet d token lexeme.place
      Prolog.ofTokens alphabet d phase lexemes

end VuserScript.Xml
