/-
  VuserScript.Plan.Item

  What a container holds, as far as scripts are concerned: requests with the
  extractors placed directly under them, and transactions with their items. All
  other test elements are named and passed over, together with what is below
  them.
-/
import VuserScript.Plan.Pairing

namespace VuserScript.Plan

open Xml (Element)

/-- A part of a container. -/
inductive Item where
  /-- A sampler, and the test elements of its container. -/
  | request (sampler : Element) (parts : List Element)
  /-- A controller, and the items of its container. -/
  | transaction (controller : Element) (items : List Item)
  /-- A controller that has no container. -/
  | bareTransaction (controller : Element)
  /-- An element that has no place in a script. -/
  | unsupported (tag : String)

mutual

/-- The items of a container, in document order. -/
def itemsOf : Element → List Item
  | ⟨_, _, _, children, _⟩ => itemsAmong children

/-- The items of siblings, in document order. -/
def itemsAmong : List Element → List Item
  | [] => []
  | [e] =>
    if isHashTree e then []
    else if e.tag == httpSampler then [.request e []]
    else if e.tag == transactionController then [.bareTransaction e]
    else [.unsupported e.tag]
  | e :: next :: rest =>
    let others := itemsAmong (next :: rest)
    if isHashTree e then others
    else if e.tag == httpSampler then
      .request e (if isHashTree next then testElements next else []) :: others
    else if e.tag == transactionController then
      (if isHashTree next then .transaction e (itemsOf next) else .bareTransaction e) :: others
    else .unsupported e.tag :: others

end

/-- A thread group. -/
structure Group where
  element : Element
  /-- Its container, if it has one. -/
  container : Option Element

/-- The items of the container of a thread group, if it has one. -/
def Group.items (g : Group) : Option (List Item) :=
  g.container.map itemsOf

/-- The thread groups of a plan, in document order. -/
def groups (root : Element) : List Group :=
  (sitesOf root threadGroup).map fun s => ⟨s.element, s.container⟩

/-- The name of a thread group, by its number in the plan from one on. -/
def Group.name (g : Group) (number : Nat) : String :=
  (testName? g.element).getD ("ThreadGroup_" ++ toString number)

end VuserScript.Plan
