/-
  VuserScript.Xml.Fault

  What can be wrong with a document, and the wording of it.
-/
import VuserScript.Xml.Position

namespace VuserScript.Xml

/-- The ways in which a document can fail to be well-formed. -/
inductive Fault where
  | noElement
  | syntaxError
  | unclosedToken
  | mismatchedTag
  | invalidToken
  | partialCharacter
  | junkAfterElement
  | undefinedEntity
  /-- An entity whose replacement text cannot be known. -/
  | unknownEntity (name : String)
  | duplicateAttribute
  | invalidCharacterNumber
  | unclosedSection
  | misplacedDeclaration
  | malformedDeclaration
  | unboundPrefix
  | undeclaredPrefix
  | reservedPrefixXml
  | reservedPrefixXmlns
  | reservedNamespace
  | recursiveEntity
  | asynchronousEntity
  | binaryEntity
  | externalEntityInAttribute
  | parameterEntity
  | publicIdentifier
  | incorrectEncoding
  | unknownEncoding
  /-- References stand for too much text. -/
  | excessiveExpansion
  deriving DecidableEq, Repr

namespace Fault

/-- The wording of a fault. -/
def message : Fault → String
  | noElement => "no element found"
  | syntaxError => "syntax error"
  | unclosedToken => "unclosed token"
  | mismatchedTag => "mismatched tag"
  | invalidToken => "not well-formed (invalid token)"
  | partialCharacter => "partial character"
  | junkAfterElement => "junk after document element"
  | undefinedEntity => "undefined entity"
  | unknownEntity name => "undefined entity &" ++ name ++ ";"
  | duplicateAttribute => "duplicate attribute"
  | invalidCharacterNumber => "reference to invalid character number"
  | unclosedSection => "unclosed CDATA section"
  | misplacedDeclaration => "XML or text declaration not at start of entity"
  | malformedDeclaration => "XML declaration not well-formed"
  | unboundPrefix => "unbound prefix"
  | undeclaredPrefix => "must not undeclare prefix"
  | reservedPrefixXml =>
    "reserved prefix (xml) must not be undeclared or bound to another namespace name"
  | reservedPrefixXmlns => "reserved prefix (xmlns) must not be declared or undeclared"
  | reservedNamespace => "prefix must not be bound to one of the reserved namespace names"
  | recursiveEntity => "recursive entity reference"
  | asynchronousEntity => "asynchronous entity"
  | binaryEntity => "reference to binary entity"
  | externalEntityInAttribute => "reference to external entity in attribute"
  | parameterEntity => "illegal parameter entity reference"
  | publicIdentifier => "illegal character(s) in public id"
  | incorrectEncoding => "encoding specified in XML declaration is incorrect"
  | unknownEncoding => "unknown encoding"
  | excessiveExpansion => "limit on input amplification factor (from DTD and entities) breached"

end Fault

/-- A fault and the place where it shows. -/
structure Malformed where
  fault : Fault
  place : Position
  deriving DecidableEq, Repr

/-- The wording of a fault, followed by its place. -/
def Malformed.message (m : Malformed) : String :=
  m.fault.message ++ ": " ++ m.place.describe

/-- Why a document cannot be read. -/
inductive Failure where
  /-- The text is not well-formed. -/
  | malformed (problem : Malformed)
  /-- No encoding has the declared name. -/
  | noSuchEncoding (name : String)
  /-- The declared name belongs to a transformation that yields no text. -/
  | notTextEncoding (name : String)
  /-- The declared encoding is not one byte to the character. -/
  | multiByteEncoding
  /-- The declared encoding refuses every input for a reason. -/
  | refusingEncoding (name reason : String)
  /-- The declared encoding has a character for ASCII bytes alone. -/
  | asciiOnlyEncoding
  deriving DecidableEq, Repr

end VuserScript.Xml
