/-
  VuserScript.Plan.Pairing

  Test elements are not nested in each other. The children of an element are in
  the `hashTree` that directly follows it among its siblings, its container. A
  `hashTree` has no container itself, so of two in a row the second one belongs
  to nobody.

  Elements are told apart by their places: the list of child numbers that leads
  to them from the root.
-/
import VuserScript.Plan.Property

namespace VuserScript.Plan

open Xml (Element)

/-! ## Tags -/

/-- The tag of containers. -/
def hashTree : String := "hashTree"

/-- The tag of thread groups. -/
def threadGroup : String := "ThreadGroup"

/-- The tag of HTTP samplers. -/
def httpSampler : String := "HTTPSamplerProxy"

/-- The tag of transaction controllers. -/
def transactionController : String := "TransactionController"

/-- The tag of extractors by regular expression. -/
def regexExtractor : String := "RegexExtractor"

/-- The tag of extractors by JSON path. -/
def jsonExtractor : String := "JSONPostProcessor"

/-- The tag of CSV data sets. -/
def csvDataSet : String := "CSVDataSet"

/-- Whether an element is a container, paired or not. -/
def isHashTree (e : Element) : Bool :=
  e.tag == hashTree

/-- The test elements of a container, in order. -/
def testElements (container : Element) : List Element :=
  container.children.filter fun e => !isHashTree e

/-! ## Containers -/

/-- The container of an element, by the siblings that follow it. -/
def containerAmong (e : Element) : List Element → Option Element
  | next :: _ => if isHashTree next && !isHashTree e then some next else none
  | [] => none

/-- An element of a document, the place where it is, and its container. -/
structure Site where
  place : List Nat
  element : Element
  container : Option Element

namespace Site

/-- The place behind this one among its siblings. -/
def nextPlace (s : Site) : List Nat :=
  match s.place.reverse with
  | n :: above => ((n + 1) :: above).reverse
  | [] => []

/-- The place of the container. -/
def containerPlace? (s : Site) : Option (List Nat) :=
  s.container.map fun _ => s.nextPlace

end Site

mutual

/-- The sites below an element, in document order. -/
def sitesBelow (place : List Nat) : Element → List Site
  | ⟨_, _, _, children, _⟩ => sitesAmong place 0 children

/-- The sites of siblings from number `n` on and of all below them, in document order. -/
def sitesAmong (parent : List Nat) (n : Nat) : List Element → List Site
  | [] => []
  | e :: rest =>
    ⟨parent ++ [n], e, containerAmong e rest⟩ :: sitesBelow (parent ++ [n]) e
      ++ sitesAmong parent (n + 1) rest

end

/-- All sites of a document, in document order. -/
def sites (root : Element) : List Site :=
  ⟨[], root, none⟩ :: sitesBelow [] root

/-- The sites of the elements with a tag, in document order. -/
def sitesOf (root : Element) (tag : String) : List Site :=
  (sites root).filter fun s => s.element.tag == tag

/-- The site at a place. -/
def siteAt? (root : Element) (place : List Nat) : Option Site :=
  (sites root).find? fun s => s.place == place

end VuserScript.Plan
