/-
  VuserScript.Proofs.Plan.Counting

  The counts of a container, which are taken from its elements as they stand,
  are those of the samplers and controllers reached from it and of the
  extractors placed directly under these samplers.
-/
import VuserScript.Plan.Correlation
import VuserScript.Plan.Summary
import VuserScript.Proofs.Plan.Reach

namespace VuserScript.Plan

open Xml (Element)

/-! ## Counting visits -/

/-- The test elements in the containers of the samplers among visits, in order. -/
def partsOfVisits (visits : List Visit) : List Element :=
  (visits.filter (·.isSampler)).flatMap Visit.parts

/-- The counts of visits. -/
def Counts.ofVisits (visits : List Visit) : Counts :=
  { samplers := visits.countP (·.isSampler)
    transactions := visits.countP (!·.isSampler)
    regexExtractors := (partsOfVisits visits).countP (·.tag == regexExtractor)
    jsonExtractors := (partsOfVisits visits).countP (·.tag == jsonExtractor) }

theorem partsOfVisits_append (a b : List Visit) :
    partsOfVisits (a ++ b) = partsOfVisits a ++ partsOfVisits b := by
  simp [partsOfVisits]

theorem partsOfVisits_map_under (c : Element) (visits : List Visit) :
    partsOfVisits (visits.map (Visit.under c)) = partsOfVisits visits := by
  simp only [partsOfVisits, List.filter_map, List.flatMap_map]
  rfl

theorem countP_isSampler_map_under (c : Element) (visits : List Visit) :
    (visits.map (Visit.under c)).countP (·.isSampler) = visits.countP (·.isSampler) := by
  rw [List.countP_map]
  rfl

namespace Counts

theorem ofVisits_append (a b : List Visit) : ofVisits (a ++ b) = (ofVisits a).add (ofVisits b) := by
  simp [ofVisits, add, partsOfVisits_append, List.countP_append]

theorem ofVisits_map_under (c : Element) (visits : List Visit) :
    ofVisits (visits.map (Visit.under c)) = ofVisits visits := by
  simp only [ofVisits, partsOfVisits_map_under, List.countP_map]
  rfl

theorem ofVisits_nil : ofVisits [] = {} := rfl

theorem ofVisits_sampler (above : List Element) (e : Element) (parts : List Element) :
    ofVisits [⟨above, e, true, parts, false⟩]
      = { samplers := 1
          regexExtractors := parts.countP (·.tag == regexExtractor)
          jsonExtractors := parts.countP (·.tag == jsonExtractor) } := by
  simp [ofVisits, partsOfVisits]

theorem ofVisits_controller (above : List Element) (e : Element) (bare : Bool) :
    ofVisits [⟨above, e, false, [], bare⟩] = { transactions := 1 } := by
  simp [ofVisits, partsOfVisits]

mutual

theorem ofContainer_eq_ofVisits :
    ∀ e : Element, ofContainer e = ofVisits (visitsOf (itemsOf e))
  | ⟨_, _, _, children, _⟩ => ofSiblings_eq_ofVisits children

/-- Counting siblings one by one, each with what is below it, counts what their items lead to. -/
theorem ofSiblings_eq_ofVisits :
    ∀ l : List Element, ofSiblings l = ofVisits (visitsOf (itemsAmong l))
  | [] => rfl
  | e :: rest => by
    rw [visitsOf_itemsAmong_cons, ofVisits_append, ofVisits_append, ofSiblings.eq_def]
    simp only
    -- both sides end with the later siblings; what is left is the first one and what is below it
    rw [ofSiblings_eq_ofVisits rest]
    congr 1
    by_cases htree : isHashTree e = true
    · have hnone : containerAmong e rest = none := by cases rest <;> simp [containerAmong, htree]
      rw [if_pos htree, ownVisit_of_isHashTree htree, innerVisits_eq_nil hnone]
      rfl
    rw [if_neg htree]
    simp only [Bool.not_eq_true] at htree
    have hdiff : transactionController ≠ httpSampler := by decide
    by_cases hs : e.tag = httpSampler
    · simp [hs, ofSampler, ownVisit, innerVisits, hdiff.symm, ofVisits_sampler, ofVisits_nil, add]
    by_cases hc : e.tag = transactionController
    · simp only [hc, ownVisit, innerVisits, hdiff, if_false, if_true, ofVisits_controller,
        beq_iff_eq, beq_self_eq_true]
      cases rest with
      | nil => rfl
      | cons next rest =>
        have hnext := ofContainer_eq_ofVisits next
        cases hn : isHashTree next <;>
          simp [containerAmong, htree, hn, ofVisits_map_under, hnext, ofVisits_nil]
    · simp [hs, hc, ownVisit, innerVisits, ofVisits_nil, add]

end

end Counts

/-! ## Counting what is reached -/

section

variable {root : Element} {place : List Nat} {visits : List Visit}

theorem Visit.IsTo.isAlone_iff {v : Visit} {s : Site} (h : v.IsTo root place s) :
    v.above = [] ↔ s.place.length = place.length + 1 := by
  obtain ⟨above, hreached, habove⟩ := h.reached
  rw [habove, List.map_eq_nil_iff, hreached.above_eq_nil_iff]

theorem countP_isAlone_eq
    (h : List.Forall₂ (Visit.IsTo root place) visits (metSites root place)) :
    visits.countP (fun v => v.isSampler && v.above.isEmpty) = (loneSamplers root place).length := by
  rw [← metSites_filter_lone, List.countP_eq_length_filter]
  refine (List.rel_filter (fun v s hto => ?_) h).length_eq
  simp [hto.isSampler, hto.isAlone_iff]

theorem partsOfVisits_eq
    (h : List.Forall₂ (Visit.IsTo root place) visits (metSites root place)) :
    partsOfVisits visits = (reachedSamplers root place).flatMap Site.parts := by
  rw [← metSites_filter_sampler]
  generalize metSites root place = met at h
  induction h with
  | nil => rfl
  | @cons v s visits sites hto _ ih =>
    rw [← List.singleton_append, partsOfVisits_append, ih]
    by_cases hs : v.isSampler = true
    · have htag := hto.isSampler.mp hs
      simp [partsOfVisits, hs, htag, hto.parts hs]
    · have htag := mt hto.isSampler.mpr hs
      simp [partsOfVisits, hs, htag]

end

/-! ## Thread groups -/

/-- What is listed for the container of a site; nothing if there is none. -/
def Site.inContainer {α : Type} (list : List Nat → List α) (s : Site) : List α :=
  (s.containerPlace?.map list).getD []

/-- The items of a site lead to what is reached from its container. -/
theorem Site.visits_isTo {root : Element} {g : Site} (h : g ∈ sites root) :
    (g.container = none ∧ ∀ {α : Type} (list : List Nat → List α), g.inContainer list = [])
      ∨ ∃ t place, g.container = some t
        ∧ (∀ {α : Type} (list : List Nat → List α), g.inContainer list = list place)
        ∧ List.Forall₂ (Visit.IsTo root place) (visitsOf (itemsOf t)) (metSites root place) := by
  cases hc : g.container with
  | none => exact .inl ⟨rfl, fun _ => by simp [inContainer, containerPlace?, hc]⟩
  | some t =>
    obtain ⟨u, hu, rfl, hplace⟩ := exists_container h hc
    exact .inr ⟨u.element, u.place, rfl, fun _ => by simp [inContainer, hplace],
      visits_isTo_metSites hu⟩

end VuserScript.Plan
