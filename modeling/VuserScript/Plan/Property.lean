/-
  VuserScript.Plan.Property

  Properties of test elements. A property is a child element that carries the
  name of the property as an attribute and its value as text; of two with one
  name the first counts.
-/
import VuserScript.Text.Blank
import VuserScript.Xml.Element

namespace VuserScript.Plan

open Xml (Element)

/-- The first property of a kind with a name. -/
def property? (e : Element) (kind name : String) : Option Element :=
  e.children.find? fun p => p.tag == kind && p.attribute? "name" == some name

/-- The value of a text property; a property without text is empty, not missing. -/
def stringProperty? (e : Element) (name : String) : Option String :=
  (property? e "stringProp" name).map fun p => p.text.getD ""

/-- The word `true` in any case, between blanks. -/
def isTrueText (s : String) : Bool :=
  (Text.trimList s.toList).map Char.toLower == ['t', 'r', 'u', 'e']

/-- The value of a switch, or `absent` if the element does not have it. -/
def flag (e : Element) (name : String) (absent : Bool) : Bool :=
  match property? e "boolProp" name with
  | some p => isTrueText (p.text.getD "")
  | none => absent

/-- The name that an element is displayed with; a blank one does not count. -/
def testName? (e : Element) : Option String :=
  (e.attribute? "testname").filter fun name => !Text.isBlankText name

/-- A text that is there and not blank. -/
def filled? (s : Option String) : Option String :=
  s.filter fun s => !Text.isBlankText s

end VuserScript.Plan
