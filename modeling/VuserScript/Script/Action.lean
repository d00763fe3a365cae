/-
  VuserScript.Script.Action

  The action of a thread group. Its items are followed in document order, each
  controller before its items. A request under a controller belongs to the
  transaction of that controller; any other request gets a transaction of its
  own, named after it. Registrations come before the transaction or the request
  they belong to.

  Elements without a name are numbered through the whole run, whatever they
  are, so that no two of them share a name.
-/
import VuserScript.Log
import VuserScript.Plan.Item
import VuserScript.Script.Statement

namespace VuserScript.Script

open Plan (Item)
open Xml (Element)

/-! ## Names for elements without one -/

/-- How many names have been made up so far. -/
structure Names where
  given : Nat := 0
  deriving DecidableEq, Repr

namespace Names

/-- The next name with a stem. -/
def next (n : Names) (stem : String) : String × Names :=
  (stem ++ "_" ++ toString (n.given + 1), ⟨n.given + 1⟩)

/-- The names that stems give one after another. -/
def nextAll (n : Names) : List String → List String × Names
  | [] => ([], n)
  | stem :: stems =>
    let (name, n) := n.next stem
    let (names, n) := n.nextAll stems
    (name :: names, n)

/-- The name of an element, made up from a stem if it has none. -/
def nameOf (n : Names) (e : Element) (stem : String) : String × Names :=
  match Plan.testName? e with
  | some name => (name, n)
  | none => n.next stem

end Names

/-! ## What following items gives -/

/-- How many parts of each kind an action has. -/
structure Tally where
  requests : Nat := 0
  transactions : Nat := 0
  correlations : Nat := 0
  deriving DecidableEq, Repr

/-- The sum of two tallies. -/
def Tally.add (a b : Tally) : Tally :=
  ⟨a.requests + b.requests, a.transactions + b.transactions, a.correlations + b.correlations⟩

/-- Statements, how many of them there are, and what was noticed. -/
structure Outcome where
  statements : List Statement := []
  tally : Tally := {}
  log : List Record := []

namespace Outcome

/-- One outcome behind another. -/
def append (a b : Outcome) : Outcome :=
  ⟨a.statements ++ b.statements, a.tally.add b.tally, a.log ++ b.log⟩

/-- The outcome within a transaction of a controller. -/
def within (name : String) (o : Outcome) : Outcome :=
  { o with
    statements := .start name :: o.statements ++ [.finish name]
    tally := { o.tally with transactions := o.tally.transactions + 1 } }

end Outcome

/-! ## Following items -/

/-- The outcome of a request; `inside` tells that a controller is above it. -/
def requestOutcome (correlate inside : Bool) (sampler : Element) (parts : List Element)
    (name : String) : Outcome :=
  let found := if correlate then Plan.correlations parts else []
  let request := Statement.request (Plan.requestOf sampler name)
  { statements := found.map Statement.register
      ++ (if inside then [request] else [.start name, request, .finish name])
    tally := ⟨1, if inside then 0 else 1, found.length⟩ }

/-- The warning about a controller without a container. -/
def bareTransactionWarning (name : String) : String :=
  "TransactionController '" ++ name ++ "' has no hashTree."

mutual

/-- The outcome of an item, and the names made up behind it. -/
def followItem (correlate inside : Bool) : Item → Names → Outcome × Names
  | .request sampler parts, n =>
    let (name, n) := n.nameOf sampler "Request"
    (requestOutcome correlate inside sampler parts name, n)
  | .transaction controller items, n =>
    let (name, n) := n.nameOf controller "Txn"
    let (o, n) := followItems correlate true items n
    (o.within name, n)
  | .bareTransaction controller, n =>
    let (name, n) := n.nameOf controller "Txn"
    (Outcome.within name { log := [.ofWarning (bareTransactionWarning name)] }, n)
  | .unsupported tag, n =>
    ({ log := [⟨.debug, "Skipping unsupported element <" ++ tag ++ ">"⟩] }, n)

/-- The outcome of items one after another, and the names made up behind them. -/
def followItems (correlate inside : Bool) : List Item → Names → Outcome × Names
  | [], n => ({}, n)
  | item :: items, n =>
    let (first, n) := followItem correlate inside item n
    let (others, n) := followItems correlate inside items n
    (first.append others, n)

end

/-! ## Generators -/

/-- What a generator has counted over all the actions it made. -/
structure Generator where
  tally : Tally := {}
  warnings : List String := []

/-- The outcome for the items of a container; without a container there is no code. -/
def actionOf (correlate : Bool) (items : Option (List Item)) (n : Names) : Outcome × Names :=
  match items with
  | some items => followItems correlate false items n
  | none => ({}, n)

/-- The lines of the statements of an outcome. -/
def Outcome.lines (o : Outcome) : List String :=
  o.statements.flatMap Statement.lines

/-- The generator behind an action it made. -/
def Generator.count (g : Generator) (o : Outcome) : Generator :=
  ⟨g.tally.add o.tally, g.warnings ++ Record.warnings o.log⟩

/-- A call: which generator is to make an action, and of which items. -/
structure Call where
  generator : String
  items : Option (List Item)

/-- The generators of a sequence of calls, by name, and the names they share. -/
structure Workshop where
  generators : List (String × Generator) := []
  names : Names := {}

namespace Workshop

/-- A generator; one that was not used before has counted nothing. -/
def generator (w : Workshop) (id : String) : Generator :=
  (w.generators.lookup id).getD {}

/-- Makes an action: the lines, what its generator has counted, and the state behind it. -/
def call (w : Workshop) (correlate : Bool) (c : Call) : List String × Generator × Workshop :=
  let (o, names) := actionOf correlate c.items w.names
  let g := (w.generator c.generator).count o
  (o.lines, g, ⟨(c.generator, g) :: w.generators, names⟩)

/-- Makes actions one after another. -/
def calls (w : Workshop) (correlate : Bool) : List Call → List (List String × Generator)
  | [] => []
  | c :: rest =>
    let (lines, g, w) := w.call correlate c
    (lines, g) :: w.calls correlate rest

end Workshop

end VuserScript.Script
