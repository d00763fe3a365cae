/-
  VuserScript.Plan.Summary

  What the thread groups of a plan hold, as counts: the samplers and the
  controllers that a conversion reaches, and the extractors placed directly
  under those samplers. The elements are counted where they stand; no items
  are made of them.
-/
import VuserScript.Plan.Item

namespace VuserScript.Plan

open Xml (Element)

/-- How many parts of each kind there are. -/
structure Counts where
  samplers : Nat := 0
  transactions : Nat := 0
  regexExtractors : Nat := 0
  jsonExtractors : Nat := 0
  deriving DecidableEq, Repr

namespace Counts

/-- The sum of two counts, kind by kind. -/
def add (a b : Counts) : Counts :=
  ⟨a.samplers + b.samplers, a.transactions + b.transactions,
    a.regexExtractors + b.regexExtractors, a.jsonExtractors + b.jsonExtractors⟩

/-- The counts of a sampler, by the siblings that follow it. -/
def ofSampler (sampler : Element) (siblings : List Element) : Counts :=
  let parts := ((containerAmong sampler siblings).map testElements).getD []
  { samplers := 1
    regexExtractors := parts.countP (·.tag == regexExtractor)
    jsonExtractors := parts.countP (·.tag == jsonExtractor) }

mutual

/-- The counts of a container. -/
def ofContainer : Element → Counts
  | ⟨_, _, _, children, _⟩ => ofSiblings children

/-- The counts of siblings. Below a controller the ones of its container are counted too. -/
def ofSiblings : List Element → Counts
  | [] => {}
  | e :: rest =>
    let own :=
      if isHashTree e then {}
      else if e.tag == httpSampler then ofSampler e rest
      else if e.tag == transactionController then
        match rest with
        | next :: _ => add { transactions := 1 } (if isHashTree next then ofContainer next else {})
        | [] => { transactions := 1 }
      else {}
    add own (ofSiblings rest)

end

end Counts

/-- What a conversion will see of a thread group. -/
structure Summary where
  name : String
  hasChildren : Bool
  counts : Counts
  deriving DecidableEq, Repr

/-- The summary of a thread group with a number. -/
def Group.summary (g : Group) (number : Nat) : Summary :=
  { name := g.name number
    hasChildren := g.container.isSome
    counts := match g.container with
      | some container => Counts.ofContainer container
      | none => {} }

/-- The summaries of all thread groups of a plan, in document order. -/
def summaries (root : Element) : List Summary :=
  (groups root).mapIdx fun index g => g.summary (index + 1)

end VuserScript.Plan
