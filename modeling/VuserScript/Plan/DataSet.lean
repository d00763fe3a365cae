/-
  VuserScript.Plan.DataSet

  CSV data sets: the file, the names of its columns and the delimiter.
-/
import VuserScript.Plan.Pairing

namespace VuserScript.Plan

open Xml (Element)

/-- The parts of a text between commas. -/
def splitCommas : List Char → List (List Char)
  | [] => [[]]
  | c :: rest =>
    if c = ',' then [] :: splitCommas rest
    else match splitCommas rest with
      | part :: parts => (c :: part) :: parts
      | [] => [[c]]

/-- The names between commas, without blanks around them; empty ones are dropped. -/
def splitNames (s : String) : List String :=
  (((splitCommas s.toList).map Text.trimList).filter (· ≠ [])).map String.ofList

/-- A CSV data set as it is described in a plan. -/
structure DataSet where
  name : String
  /-- The file, exactly as it is written; it may be missing. -/
  file : Option String
  variableNames : List String
  delimiter : String

/-- The data set of an element with a number in the plan. -/
def DataSet.ofElement (number : Nat) (e : Element) : DataSet :=
  { name := (testName? e).getD ("CSVDataSet #" ++ toString number)
    file := stringProperty? e "filename"
    variableNames := splitNames ((stringProperty? e "variableNames").getD "")
    delimiter := ((stringProperty? e "delimiter").filter (· ≠ "")).getD "," }

/-- The data sets of a plan, in document order. -/
def dataSets (root : Element) : List DataSet :=
  (sitesOf root csvDataSet).mapIdx fun index s => DataSet.ofElement (index + 1) s.element

end VuserScript.Plan
