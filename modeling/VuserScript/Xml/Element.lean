/-
  VuserScript.Xml.Element

  The element tree of a document. Comments and processing instructions are not
  part of it, so the text around them is joined: an element has the text before
  its first child, and each child carries the text up to the next tag.
-/

namespace VuserScript.Xml

/-- An element with its expanded name, `{uri}local` when it is in a namespace. -/
structure Element where
  /-- The expanded name. -/
  tag : String
  /-- Attributes by expanded name: the written ones in order, then defaults. -/
  attributes : List (String × String) := []
  /-- The text before the first child, if there is any. -/
  text : Option String := none
  /-- The child elements in document order. -/
  children : List Element := []
  /-- The text from the end of this element to the next tag, if there is any. -/
  tail : Option String := none
  deriving Inhabited

/-- The value of an attribute. -/
def Element.attribute? (e : Element) (name : String) : Option String :=
  e.attributes.lookup name

end VuserScript.Xml
