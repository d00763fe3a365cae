/-
  VuserScript.Proofs.Script.Tallies

  What an action counts: one request for each sampler that its items lead to,
  one transaction for each controller and for each sampler below none, and one
  correlation for each extractor of a sampler that says both a parameter and an
  expression. These are also the numbers of its statements of each kind, and as
  many transactions are ended as are started.
-/
import VuserScript.Proofs.Plan.Counting
import VuserScript.Proofs.Script.Openings
import VuserScript.Proofs.Script.Scopes

namespace VuserScript.Plan

open Xml (Element)

/-! ## Extractors that count -/

/-- An extractor by regular expression whose parameter and expression are there and not blank. -/
def isFilledRegex (e : Element) : Bool :=
  e.tag == regexExtractor && (filled? (stringProperty? e "RegexExtractor.refname")).isSome
    && (filled? (stringProperty? e "RegexExtractor.regex")).isSome

/-- An extractor by JSON path whose parameter and expression are there and not blank. -/
def isFilledJson (e : Element) : Bool :=
  e.tag == jsonExtractor
    && (filled? (eitherProperty? e "JSONPostProcessor.referenceNames"
      "JSONPostProcessor.referenceName")).isSome
    && (filled? (eitherProperty? e "JSONPostProcessor.jsonPathExprs"
      "JSONPostProcessor.jsonPathExpr")).isSome

/-- An extractor whose parameter and expression are both filled. -/
def isFilledExtractor (e : Element) : Bool :=
  isFilledRegex e || isFilledJson e

theorem isSome_filledCorrelation? (kind : CorrelationKind) (parameter expression : Option String) :
    (filledCorrelation? kind parameter expression).isSome
      = ((filled? parameter).isSome && (filled? expression).isSome) := by
  unfold filledCorrelation?
  cases filled? parameter <;> cases filled? expression <;> rfl

theorem length_regexCorrelations (parts : List Element) :
    (regexCorrelations parts).length = parts.countP isFilledRegex := by
  unfold regexCorrelations
  rw [List.length_filterMap_eq_countP, List.countP_filter]
  refine List.countP_congr fun e _ => ?_
  rw [regexCorrelation?, isSome_filledCorrelation?, isFilledRegex, Bool.and_comm, Bool.and_assoc]

theorem length_jsonCorrelations (parts : List Element) :
    (jsonCorrelations parts).length = parts.countP isFilledJson := by
  unfold jsonCorrelations
  rw [List.length_filterMap_eq_countP, List.countP_filter]
  refine List.countP_congr fun e _ => ?_
  rw [jsonCorrelation?, isSome_filledCorrelation?, isFilledJson, Bool.and_comm, Bool.and_assoc]

/-- A sampler has one correlation for each filled extractor in its container. -/
theorem length_correlations (parts : List Element) :
    (correlations parts).length = parts.countP isFilledExtractor := by
  have hdiff : regexExtractor ≠ jsonExtractor := by decide
  rw [correlations, List.length_append, length_regexCorrelations, length_jsonCorrelations]
  induction parts with
  | nil => rfl
  | cons e rest ih =>
    -- the tags differ, so no extractor counts twice
    have hone : ¬ (isFilledRegex e = true ∧ isFilledJson e = true) := by
      rintro ⟨hr, hj⟩
      simp only [isFilledRegex, isFilledJson, Bool.and_eq_true, beq_iff_eq] at hr hj
      exact hdiff (hr.1.1.symm.trans hj.1.1)
    rw [List.countP_cons, List.countP_cons, List.countP_cons, ← ih]
    cases hr : isFilledRegex e <;> cases hj : isFilledJson e <;>
      simp_all [isFilledExtractor] <;> omega

end VuserScript.Plan

namespace VuserScript.Script

open Plan (Item Visit isFilledExtractor partsOfVisits visitsOf)
open Xml (Element)

/-! ## Counting visits -/

/-- The tally of visits. -/
def Tally.ofVisits (correlate inside : Bool) (visits : List Visit) : Tally :=
  { requests := visits.countP (·.isSampler)
    transactions := visits.countP (ownsScope inside)
    correlations := if correlate then (partsOfVisits visits).countP isFilledExtractor else 0 }

theorem Tally.ofVisits_append (correlate inside : Bool) (a b : List Visit) :
    Tally.ofVisits correlate inside (a ++ b)
      = (Tally.ofVisits correlate inside a).add (Tally.ofVisits correlate inside b) := by
  cases correlate <;>
    simp [Tally.ofVisits, Tally.add, Plan.partsOfVisits_append, List.countP_append]

theorem ownsScope_under (inside : Bool) (c : Element) (v : Visit) :
    ownsScope inside (v.under c) = ownsScope true v := by
  simp [ownsScope, Visit.under]

/-- What is below a controller counts there as it does on its own, and the controller adds a
transaction. -/
theorem Tally.ofVisits_within (correlate inside bare : Bool) (c : Element) (visits : List Visit) :
    Tally.ofVisits correlate inside (⟨[], c, false, [], bare⟩ :: visits.map (Visit.under c))
      = { Tally.ofVisits correlate true visits with
          transactions := (Tally.ofVisits correlate true visits).transactions + 1 } := by
  have hparts : partsOfVisits (⟨[], c, false, [], bare⟩ :: visits.map (Visit.under c))
      = partsOfVisits visits := Plan.partsOfVisits_map_under c visits
  -- below the controller a sampler is no longer alone, so only controllers count
  have howners : (visits.map (Visit.under c)).countP (ownsScope inside)
      = visits.countP (ownsScope true) := by
    rw [List.countP_map]
    exact List.countP_congr fun v _ => by rw [Function.comp_apply, ownsScope_under]
  simp only [Tally.ofVisits, hparts, List.countP_cons, howners, Plan.countP_isSampler_map_under]
  simp [ownsScope]

theorem tally_requestOutcome (correlate inside : Bool) (sampler : Element) (parts : List Element)
    (name : String) :
    (requestOutcome correlate inside sampler parts name).tally
      = Tally.ofVisits correlate inside [⟨[], sampler, true, parts, false⟩] := by
  cases correlate <;> cases inside <;>
    simp [requestOutcome, Tally.ofVisits, ownsScope, partsOfVisits, Plan.length_correlations]

/-- Following items counts what they lead to. -/
theorem tally_actionOf (correlate : Bool) (items : Option (List Item)) (n : Names) :
    (actionOf correlate items n).1.tally
      = Tally.ofVisits correlate false (visitsOf (items.getD [])) := by
  have hkept : KeptByFollowing correlate fun inside visits o =>
      o.tally = Tally.ofVisits correlate inside visits :=
    { noticed := fun inside _ => by simp [Tally.ofVisits, partsOfVisits]
      append := fun ha hb => by
        rw [Tally.ofVisits_append, ← ha, ← hb]
        rfl
      request := fun inside _ parts name _ =>
        tally_requestOutcome correlate inside _ parts name
      within := fun inside bare _ _ c name _ h => by
        rw [Tally.ofVisits_within, ← h]
        rfl }
  exact hkept.actionOf items n

/-! ## Counting statements -/

/-- The tally of statements. -/
def Tally.ofStatements (statements : List Statement) : Tally :=
  { requests := (statements.filterMap Statement.request?).length
    transactions := (statements.filterMap Statement.started?).length
    correlations := (statements.filterMap Statement.registered?).length }

theorem Tally.ofStatements_append (a b : List Statement) :
    Tally.ofStatements (a ++ b) = (Tally.ofStatements a).add (Tally.ofStatements b) := by
  simp [Tally.ofStatements, Tally.add]

theorem Tally.ofStatements_cons (s : Statement) (rest : List Statement) :
    Tally.ofStatements (s :: rest) = (Tally.ofStatements [s]).add (Tally.ofStatements rest) :=
  Tally.ofStatements_append [s] rest

@[simp] theorem ofStatements_register (c : Plan.Correlation) :
    Tally.ofStatements [.register c] = ⟨0, 0, 1⟩ := rfl

@[simp] theorem ofStatements_start (name : String) :
    Tally.ofStatements [.start name] = ⟨0, 1, 0⟩ := rfl

@[simp] theorem ofStatements_request (r : Plan.Request) :
    Tally.ofStatements [.request r] = ⟨1, 0, 0⟩ := rfl

@[simp] theorem ofStatements_finish (name : String) :
    Tally.ofStatements [.finish name] = ⟨0, 0, 0⟩ := rfl

theorem ofStatements_registrations (found : List Plan.Correlation) :
    Tally.ofStatements (found.map Statement.register) = ⟨0, 0, found.length⟩ := by
  induction found with
  | nil => rfl
  | cons c rest ih =>
    rw [List.map_cons, Tally.ofStatements_cons, ih]
    simp [Tally.add, Nat.add_comm]

/-- The tally of an outcome is that of its statements. -/
def Outcome.IsTallied (o : Outcome) : Prop :=
  o.tally = Tally.ofStatements o.statements

theorem Outcome.IsTallied.append {a b : Outcome} (ha : a.IsTallied) (hb : b.IsTallied) :
    (a.append b).IsTallied := by
  have hsum : (a.append b).tally = a.tally.add b.tally := rfl
  rw [IsTallied, hsum, ha, hb]
  exact (Tally.ofStatements_append a.statements b.statements).symm

theorem Outcome.IsTallied.within {o : Outcome} (h : o.IsTallied) (name : String) :
    (o.within name).IsTallied := by
  have htally : (o.within name).tally
      = { o.tally with transactions := o.tally.transactions + 1 } := rfl
  have hstatements : (o.within name).statements
      = .start name :: (o.statements ++ [.finish name]) := rfl
  rw [IsTallied, htally, hstatements, h, Tally.ofStatements_cons, Tally.ofStatements_append]
  simp [Tally.add, Nat.add_comm]

theorem isTallied_requestOutcome (correlate inside : Bool) (sampler : Element)
    (parts : List Element) (name : String) :
    (requestOutcome correlate inside sampler parts name).IsTallied := by
  have halone : Tally.ofStatements
      [.start name, .request (Plan.requestOf sampler name), .finish name] = ⟨1, 1, 0⟩ := rfl
  unfold Outcome.IsTallied requestOutcome
  rw [Tally.ofStatements_append, ofStatements_registrations]
  cases inside <;> simp [Tally.add, halone]

/-- Following items counts the statements that it gives. -/
theorem isTallied_actionOf (correlate : Bool) (items : Option (List Item)) (n : Names) :
    (actionOf correlate items n).1.IsTallied := by
  have hkept : KeptByFollowing correlate fun _ _ o => o.IsTallied :=
    { noticed := fun _ _ => rfl
      append := Outcome.IsTallied.append
      request := fun inside _ parts name _ => isTallied_requestOutcome correlate inside _ parts name
      within := fun _ _ _ _ _ name _ h => h.within name }
  exact hkept.actionOf items n

/-- Where every end of a transaction meets its start, the transactions that are ended are those that
are started, but for those that were or are left open. -/
theorem started_perm_finished {scopes scopes' : List String} {statements : List Statement}
    (h : openAfter scopes statements = some scopes') :
    (statements.filterMap Statement.started? ++ scopes).Perm
      (statements.filterMap Statement.finished? ++ scopes') := by
  induction statements generalizing scopes with
  | nil =>
    obtain rfl := Option.some.inj h
    exact List.Perm.refl _
  | cons s rest ih =>
    rw [openAfter_cons, Option.bind_eq_some_iff] at h
    obtain ⟨next, hstep, hrest⟩ := h
    have hperm := ih hrest
    cases s with
    | start name =>
      obtain rfl : name :: scopes = next := Option.some.inj hstep
      exact List.perm_middle.symm.trans hperm
    | finish name =>
      cases scopes with
      | nil => simp [Statement.step] at hstep
      | cons innermost outer =>
        -- the end takes away the innermost open transaction, which has its name
        simp only [Statement.step, Option.ite_none_right_eq_some, Option.some_inj] at hstep
        obtain ⟨rfl, rfl⟩ := hstep
        exact List.perm_middle.trans (hperm.cons innermost)
    | register c =>
      obtain rfl : scopes = next := Option.some.inj hstep
      exact hperm
    | request r =>
      obtain rfl : scopes = next := Option.some.inj hstep
      exact hperm

theorem started_perm_finished_actionOf (correlate : Bool) (items : Option (List Item))
    (n : Names) :
    ((actionOf correlate items n).1.statements.filterMap Statement.started?).Perm
      ((actionOf correlate items n).1.statements.filterMap Statement.finished?) := by
  simpa using started_perm_finished (scoped_actionOf correlate items n).balanced

end VuserScript.Script
