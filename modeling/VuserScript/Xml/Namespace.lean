/-
  VuserScript.Xml.Namespace

  Namespace prefixes. A scope lists the bindings in force, the innermost first;
  the default namespace has the empty prefix, and an empty URI takes it away.
-/
import VuserScript.Xml.Fault

namespace VuserScript.Xml

/-- The bindings in force, from prefixes to URIs. -/
abbrev Scope := List (List Char × List Char)

namespace Scope

/-- The URI that the prefix `xml` always has. -/
def xmlUri : List Char := "http://www.w3.org/XML/1998/namespace".toList

/-- The URI of namespace declarations themselves. -/
def xmlnsUri : List Char := "http://www.w3.org/2000/xmlns/".toList

/-- The bindings at the start of a document. -/
def initial : Scope := [("xml".toList, xmlUri)]

/-- The URI of a prefix. -/
def uri? (scope : Scope) (pre : List Char) : Option (List Char) :=
  (scope.lookup pre).filter (· ≠ [])

/-- Binds a prefix. Only the default namespace can be taken away, and the two reserved prefixes
and URIs belong together. A closing brace ends the URI of a name and so cannot be part of one. -/
def bind (scope : Scope) (pre uri : List Char) : Except Fault Scope :=
  let isXml := pre = "xml".toList
  if uri = [] ∧ pre ≠ [] then .error .undeclaredPrefix
  else if pre = "xmlns".toList then .error .reservedPrefixXmlns
  else if '}' ∈ uri then .error .syntaxError
  else if isXml ∧ uri ≠ xmlUri then .error .reservedPrefixXml
  else if ¬isXml ∧ uri = xmlUri then .error .reservedNamespace
  else if ¬isXml ∧ uri = xmlnsUri then .error .reservedNamespace
  else .ok ((pre, uri) :: scope)

end Scope

/-- A name in two parts: the prefix, if there is a colon, and the local name. -/
def splitName (name : List Char) : Option (List Char) × List Char :=
  match name.dropWhile (· ≠ ':') with
  | _ :: localName => (some (name.takeWhile (· ≠ ':')), localName)
  | [] => (none, name)

/-- The prefix that an attribute declares, the empty one for the default namespace. -/
def declaredPrefix? (name : List Char) : Option (List Char) :=
  match splitName name with
  | (none, localName) => if localName = "xmlns".toList then some [] else none
  | (some pre, localName) => if pre = "xmlns".toList then some localName else none

/-- A local name in a namespace. -/
def expandedName (uri localName : List Char) : String :=
  String.ofList ('{' :: uri ++ '}' :: localName)

/-- The expanded name of an element. -/
def Scope.elementName (scope : Scope) (name : List Char) : Except Fault String :=
  match splitName name with
  | (some pre, localName) =>
    match scope.uri? pre with
    | some uri => .ok (expandedName uri localName)
    | none => .error .unboundPrefix
  | (none, localName) =>
    match scope.uri? [] with
    | some uri => .ok (expandedName uri localName)
    | none => .ok (String.ofList localName)

/-- The expanded name of an attribute; one without a prefix is in no namespace. -/
def Scope.attributeName (scope : Scope) (name : List Char) : Except Fault String :=
  match splitName name with
  | (some pre, localName) =>
    match scope.uri? pre with
    | some uri => .ok (expandedName uri localName)
    | none => .error .unboundPrefix
  | (none, localName) => .ok (String.ofList localName)

end VuserScript.Xml
