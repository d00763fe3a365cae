/-
  VuserScript.Proofs.Script.Registrations

  Registrations in an action. Those of a sampler stand directly before its
  transaction or request, so that none of another sampler comes between
  (`Announced`, kept by the ways in which following items puts statements
  together). Without correlations the same items give what is left when the
  registrations are taken out (`Outcome.silenced`), and nothing else changes.
-/
import VuserScript.Proofs.Plan.Extractors
import VuserScript.Proofs.Script.Openings
import VuserScript.Proofs.Script.Scopes

namespace VuserScript.Script

open Plan (Correlation Extracts Item Reached SameBesideTrees Site Visit correlations extractorSites
  httpSampler itemsOf jsonCorrelations reachedSamplers regexCorrelations visitsOf)
open Xml (Element)

/-! ## Registrations before requests -/

/-- Statements with no registration at their end. -/
def EndsQuiet (statements : List Statement) : Prop :=
  ∀ s ∈ statements.getLast?, s.kind ≠ .registration

theorem EndsQuiet.nil : EndsQuiet [] := by
  intro s hs
  cases hs

theorem EndsQuiet.concat {s : Statement} (h : s.kind ≠ .registration) (before : List Statement) :
    EndsQuiet (before ++ [s]) := by
  intro last hlast
  rw [List.getLast?_concat, Option.mem_some_iff] at hlast
  rwa [← hlast]

theorem EndsQuiet.append {a b : List Statement} (ha : EndsQuiet a) (hb : EndsQuiet b) :
    EndsQuiet (a ++ b) := by
  intro s hs
  rw [List.getLast?_append] at hs
  rcases Option.or_eq_some_iff.mp hs with h | ⟨-, h⟩
  · exact hb s h
  · exact ha s h

/-- The registrations of a sampler stand before its request, all of them and directly: only the
start of a transaction of its own comes between, and what is before them ends in no registration. -/
def IsAnnounced (alone : Bool) (sampler : Element) (parts : List Element) (m : Mark) : Prop :=
  ∃ name earlier, IsNameFor "Request" sampler name
    ∧ m.statement = .request (Plan.requestOf sampler name)
    ∧ m.before = earlier ++ (correlations parts).map Statement.register
      ++ (if alone then [.start name] else [])
    ∧ EndsQuiet earlier

theorem IsAnnounced.shift {alone : Bool} {sampler : Element} {parts : List Element} {m : Mark}
    (h : IsAnnounced alone sampler parts m) {more : List Statement} (hmore : EndsQuiet more) :
    IsAnnounced alone sampler parts (m.shift more) := by
  obtain ⟨name, earlier, hname, hrequest, hbefore, hquiet⟩ := h
  refine ⟨name, more ++ earlier, hname, hrequest, ?_, hmore.append hquiet⟩
  simp [Mark.shift, hbefore]

/-- Statements have the requests of visits, each behind its registrations, and no others. -/
structure Announced (inside : Bool) (visits : List Visit) (statements : List Statement) : Prop where
  requests : List.Forall₂
    (fun v m => IsAnnounced (!inside && v.above.isEmpty) v.element v.parts m)
    (visits.filter (·.isSampler)) (marksOf Statement.isRequest statements)
  registered : statements.filterMap Statement.registered?
    = (visits.filter (·.isSampler)).flatMap fun v => correlations v.parts
  quiet : EndsQuiet statements

namespace Announced

theorem nil (inside : Bool) : Announced inside [] [] :=
  ⟨.nil, rfl, .nil⟩

theorem append {inside : Bool} {v w : List Visit} {a b : List Statement}
    (ha : Announced inside v a) (hb : Announced inside w b) :
    Announced inside (v ++ w) (a ++ b) where
  requests := by
    rw [List.filter_append, marksOf_append]
    refine List.rel_append ?_ ?_ <;> rw [List.forall₂_map_right_iff]
    -- what comes behind a request does not matter; what comes before must not end in registrations
    · exact ha.requests
    · exact hb.requests.imp fun _ _ h => h.shift ha.quiet
  registered := by
    rw [List.filterMap_append, List.filter_append, List.flatMap_append, ha.registered,
      hb.registered]
  quiet := ha.quiet.append hb.quiet

theorem marksOf_register (found : List Correlation) :
    marksOf Statement.isRequest (found.map Statement.register) = [] := by
  induction found with
  | nil => rfl
  | cons c rest ih =>
    have hone : marksOf Statement.isRequest [.register c] = [] := rfl
    rw [List.map_cons, ← List.singleton_append, marksOf_append, hone, ih]
    rfl

/-- The request of a sampler, behind its registrations. -/
theorem request (inside : Bool) {sampler : Element} (parts : List Element) {name : String}
    (hname : IsNameFor "Request" sampler name) :
    Announced inside [⟨[], sampler, true, parts, false⟩]
      (requestOutcome true inside sampler parts name).statements where
  requests := by
    rw [requestOutcome, marksOf_append, if_pos rfl, marksOf_register]
    cases inside with
    | true =>
      refine .cons ⟨name, [], hname, rfl, ?_, .nil⟩ .nil
      simp [Mark.shift]
    | false =>
      refine .cons ⟨name, [], hname, rfl, ?_, .nil⟩ .nil
      simp [Mark.shift]
  registered := by
    have hnone : ∀ rest : List Statement, rest.filterMap Statement.registered? = [] →
        ((correlations parts).map Statement.register ++ rest).filterMap Statement.registered?
          = correlations parts := by
      intro rest hrest
      rw [List.filterMap_append, hrest, List.append_nil, List.filterMap_map]
      exact List.filterMap_some
    rw [requestOutcome, if_pos rfl, hnone]
    · simp
    · cases inside <;> rfl
  quiet := by
    -- the last statement is the request itself or the end of its transaction
    cases inside with
    | true => exact .concat (s := .request _) Kind.noConfusion _
    | false =>
      have hlast : EndsQuiet [.start name, .request (Plan.requestOf sampler name), .finish name] :=
        .concat (s := .finish name) Kind.noConfusion [.start name, .request _]
      intro s hs
      rw [requestOutcome, List.getLast?_append] at hs
      exact hlast s hs

/-- What is below a controller, within the transaction of the controller. -/
theorem within (inside bare : Bool) {visits : List Visit} {statements : List Statement}
    {c : Element} {name : String} (h : Announced true visits statements) :
    Announced inside (⟨[], c, false, [], bare⟩ :: visits.map (Visit.under c))
      (.start name :: statements ++ [.finish name]) where
  requests := by
    have hstart : EndsQuiet [.start name] := .concat (s := .start name) Kind.noConfusion []
    rw [Scoped.marksOf_within _ _ _ rfl, List.filter_cons_of_neg (by simp), List.filter_map]
    simp only [Statement.isRequest, Bool.false_eq_true, if_false, List.nil_append]
    rw [List.forall₂_map_left_iff, List.forall₂_map_right_iff]
    refine h.requests.imp fun v m hm => ?_
    -- the controller is above it now, so it has no transaction of its own in either case
    have halone : (!inside && (Visit.under c v).above.isEmpty) = false := by
      simp [Visit.under]
    rw [halone]
    exact IsAnnounced.shift (m := m.extend [.finish name]) hm hstart
  registered := by
    have hends : (Statement.start name :: statements ++ [Statement.finish name]).filterMap
        Statement.registered? = statements.filterMap Statement.registered? := by
      rw [List.cons_append, List.filterMap_cons, List.filterMap_append]
      exact List.append_nil _
    rw [hends, List.filter_cons_of_neg (by simp), List.filter_map, List.flatMap_map]
    exact h.registered
  quiet := .concat (s := .finish name) Kind.noConfusion (.start name :: statements)

end Announced

/-- Following items with correlations gives each request behind its registrations. -/
theorem announced_actionOf (items : Option (List Item)) (n : Names) :
    Announced false (visitsOf (items.getD [])) (actionOf true items n).1.statements := by
  have hkept : KeptByFollowing true fun inside visits o => Announced inside visits o.statements :=
    { noticed := fun inside _ => Announced.nil inside
      append := Announced.append
      request := Announced.request
      within := fun inside bare _ _ _ _ _ h => h.within inside bare }
  exact hkept.actionOf items n

/-! ## The registrations of a sampler -/

/-- The request of a sampler reached from the container at a place, behind its registrations. -/
def SamplerAnnounced (root : Element) (place : List Nat) (s : Site) (m : Mark) : Prop :=
  ∃ above, Reached root place above s ∧ IsAnnounced above.isEmpty s.element s.parts m

/-- Statements made for a container with correlations have the registrations of the samplers
reached from it and no others, each sampler's directly before its transaction or its request. -/
theorem announced_reachedSamplers (root : Element) (place : List Nat) (names : Names) :
    List.Forall₂ (SamplerAnnounced root place) (reachedSamplers root place)
        (marksOf Statement.isRequest (actionOf true
          ((Plan.siteAt? root place).map fun s => itemsOf s.element) names).1.statements)
      ∧ (actionOf true ((Plan.siteAt? root place).map fun s => itemsOf s.element)
          names).1.statements.filterMap Statement.registered?
        = (reachedSamplers root place).flatMap fun s => correlations s.parts := by
  have hannounced := announced_actionOf
    ((Plan.siteAt? root place).map fun s => itemsOf s.element) names
  have hsamplers := List.rel_filter (p := (·.isSampler)) (q := (·.element.tag = httpSampler))
    (fun v s h => by simpa using h.isSampler) (Plan.visits_isTo_metSites_siteAt? root place)
  rw [Plan.metSites_filter_sampler] at hsamplers
  -- a visit to a sampler is to one with the same test elements in its container
  have hboth := (List.forall₂_and_left _ _).mpr
    ⟨fun v hv => (List.mem_filter.mp hv).2, hsamplers⟩
  constructor
  · refine (forall₂_through hboth hannounced.requests).imp ?_
    rintro s m ⟨v, ⟨hsampler, hto⟩, hannounces⟩
    obtain ⟨above, hreached, habove⟩ := hto.reached
    refine ⟨above, hreached, ?_⟩
    have halone : (!false && v.above.isEmpty) = above.isEmpty := by
      rw [habove, List.isEmpty_map, Bool.not_false, Bool.true_and]
    rw [halone, hto.element, hto.parts hsampler] at hannounces
    exact hannounces
  · have hlists : List.Forall₂ Eq _ ((reachedSamplers root place).flatMap _) :=
      List.rel_flatMap hboth fun v s ⟨hsampler, hto⟩ =>
        List.forall₂_eq_eq_eq ▸ congrArg correlations (hto.parts hsampler)
    rw [List.forall₂_eq_eq_eq] at hlists
    exact hannounced.registered.trans hlists

/-- What a sampler registers, in every plan. Of each kind it has one correlation for each extractor
directly in its own container that has both texts, neither of them blank, in document order and with
the texts as they are; in another plan, a sampler whose container has the same children, but for
what is in the `hashTree`s among them, has the same. The calls of an action made with correlations
register these for each sampler reached, those by regular expression first: all of them stand
directly before the start of its transaction or, under a controller, before its request. -/
theorem sampler_correlations (root : Element) :
    (∀ s ∈ Plan.sitesOf root httpSampler,
      List.Forall₂ (fun t c => Extracts .regex t.element c) (extractorSites root s.place .regex)
          (regexCorrelations s.parts)
        ∧ List.Forall₂ (fun t c => Extracts .json t.element c) (extractorSites root s.place .json)
          (jsonCorrelations s.parts)
        ∧ ∀ other, ∀ t ∈ Plan.sitesOf other httpSampler,
          Option.Rel SameBesideTrees s.container t.container →
            regexCorrelations t.parts = regexCorrelations s.parts
              ∧ jsonCorrelations t.parts = jsonCorrelations s.parts)
    ∧ ∀ (place : List Nat) (names : Names), ∃ statements : List Statement,
        callsAmong (actionOf true
            ((Plan.siteAt? root place).map fun s => itemsOf s.element) names).1.lines
          = statements.map Statement.lines
        ∧ List.Forall₂ (SamplerAnnounced root place) (reachedSamplers root place)
          (marksOf Statement.isRequest statements)
        ∧ statements.filterMap Statement.registered?
          = (reachedSamplers root place).flatMap fun s =>
            regexCorrelations s.parts ++ jsonCorrelations s.parts := by
  refine ⟨fun s hs => ?_, fun place names => ?_⟩
  · have hmem : s ∈ Plan.sites root := (List.mem_filter.mp hs).1
    refine ⟨Plan.extracts_parts hmem .regex, Plan.extracts_parts hmem .json, ?_⟩
    intro other t _ hsame
    rw [Plan.parts_eq_of_sameBesideTrees hsame]
    exact ⟨rfl, rfl⟩
  · obtain ⟨hrequests, hregistered⟩ := announced_reachedSamplers root place names
    exact ⟨_, callsAmong_flatMap_lines _, hrequests, hregistered⟩

/-! ## Actions without correlations -/

/-- An outcome without its registrations. -/
def Outcome.silenced (o : Outcome) : Outcome :=
  { o with
    statements := o.statements.filter (·.kind != .registration)
    tally := { o.tally with correlations := 0 } }

namespace Outcome

theorem silenced_append (a b : Outcome) :
    (a.append b).silenced = a.silenced.append b.silenced := by
  simp [silenced, append, Tally.add]

theorem silenced_within (name : String) (o : Outcome) :
    (o.within name).silenced = o.silenced.within name := by
  simp [silenced, within, Statement.kind]

theorem silenced_requestOutcome (inside : Bool) (sampler : Element) (parts : List Element)
    (name : String) :
    (requestOutcome true inside sampler parts name).silenced
      = requestOutcome false inside sampler parts name := by
  cases inside <;> simp [silenced, requestOutcome, Statement.kind]

end Outcome

mutual

theorem followItem_silenced (inside : Bool) :
    ∀ (item : Item) (n : Names), followItem false inside item n
      = ((followItem true inside item n).1.silenced, (followItem true inside item n).2)
  | .request sampler parts, n => by
    rw [followItem, followItem, Outcome.silenced_requestOutcome]
  | .transaction controller items, n => by
    simp only [followItem, followItems_silenced true items, Outcome.silenced_within]
  | .bareTransaction controller, n => by
    rw [followItem, followItem, Outcome.silenced_within]
    rfl
  | .unsupported tag, n => rfl

/-- Following items without correlations gives what following them with correlations gives, without
the registrations, and the same names. -/
theorem followItems_silenced (inside : Bool) :
    ∀ (items : List Item) (n : Names), followItems false inside items n
      = ((followItems true inside items n).1.silenced, (followItems true inside items n).2)
  | [], n => rfl
  | item :: items, n => by
    simp only [followItems, followItem_silenced inside item, followItems_silenced inside items,
      Outcome.silenced_append]

end

/-- Lines without the calls that register. -/
def withoutRegistrations (lines : List String) : List String :=
  ((callsAmong lines).filter fun call => !call.head?.any Kind.registration.opens).flatten

/-- Taking out the calls that register from the lines is taking out the registrations. -/
theorem withoutRegistrations_lines (o : Outcome) :
    withoutRegistrations o.lines = o.silenced.lines := by
  have hhead : ∀ s : Statement, (!s.lines.head?.any Kind.registration.opens)
      = (s.kind != .registration) := by
    intro s
    obtain ⟨inner, hlines, -⟩ := opensWith_lines s
    rw [hlines, List.head?_cons, Option.any_some, Kind.opens_openingLine]
    rfl
  unfold withoutRegistrations Outcome.lines
  rw [callsAmong_flatMap_lines, List.filter_map, ← List.flatMap_def]
  congr 1
  exact List.filter_congr fun s _ => hhead s

/-- For every container and whatever names were made up before: without correlations the lines are
those with correlations, less the calls that register. No correlation is counted; requests and
transactions, all that is noticed, and the names made up behind the action are the same. -/
theorem correlation_switch (container : Option Element) (names : Names) :
    (actionOf false (container.map itemsOf) names).1.lines
        = withoutRegistrations (actionOf true (container.map itemsOf) names).1.lines
      ∧ (actionOf false (container.map itemsOf) names).1.tally
        = { (actionOf true (container.map itemsOf) names).1.tally with correlations := 0 }
      ∧ (actionOf false (container.map itemsOf) names).1.log
        = (actionOf true (container.map itemsOf) names).1.log
      ∧ (actionOf false (container.map itemsOf) names).2
        = (actionOf true (container.map itemsOf) names).2 := by
  have hboth : actionOf false (container.map itemsOf) names
      = ((actionOf true (container.map itemsOf) names).1.silenced,
        (actionOf true (container.map itemsOf) names).2) := by
    cases container with
    | none => rfl
    | some e => exact followItems_silenced false (itemsOf e) names
  rw [hboth, withoutRegistrations_lines]
  exact ⟨rfl, rfl, rfl, rfl⟩

end VuserScript.Script
