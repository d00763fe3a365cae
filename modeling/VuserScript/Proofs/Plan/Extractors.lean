/-
  VuserScript.Proofs.Plan.Extractors

  Which extractors count for a sampler, and with which texts. An extractor gives
  a correlation if it has the tag of a kind and both texts, neither of them blank
  (`Extracts`); those of a sampler are the ones directly in its container, in
  document order. So what a sampler has depends on the children of its container
  that are no containers themselves, and on nothing else of the document.
-/
import VuserScript.Plan.Correlation
import VuserScript.Proofs.Plan.Containers
import VuserScript.Proofs.Plan.Reach

namespace VuserScript.Plan

open Xml (Element)

/-! ## What an extractor gives -/

/-- The text of the first of some properties that an element has at all. -/
def GivesFirst (e : Element) (names : List String) (text : String) : Prop :=
  ∃ before name behind, names = before ++ name :: behind
    ∧ stringProperty? e name = some text ∧ ∀ other ∈ before, stringProperty? e other = none

theorem findSome?_eq_some_iff_givesFirst {e : Element} {names : List String} {text : String} :
    names.findSome? (stringProperty? e) = some text ↔ GivesFirst e names text :=
  List.findSome?_eq_some_iff

namespace CorrelationKind

/-- The tag of the extractors of a kind. -/
def tag : CorrelationKind → String
  | regex => regexExtractor
  | json => jsonExtractor

/-- The properties with the name of the parameter, the one that counts first before the other. -/
def parameterNames : CorrelationKind → List String
  | regex => ["RegexExtractor.refname"]
  | json => ["JSONPostProcessor.referenceNames", "JSONPostProcessor.referenceName"]

/-- The properties with the expression, the one that counts first before the other. -/
def expressionNames : CorrelationKind → List String
  | regex => ["RegexExtractor.regex"]
  | json => ["JSONPostProcessor.jsonPathExprs", "JSONPostProcessor.jsonPathExpr"]

/-- The correlation of an extractor of a kind. -/
def correlation? (kind : CorrelationKind) (e : Element) : Option Correlation :=
  match kind with
  | regex => regexCorrelation? e
  | json => jsonCorrelation? e

/-- The correlations of a kind among test elements. -/
def correlations (kind : CorrelationKind) (parts : List Element) : List Correlation :=
  match kind with
  | regex => regexCorrelations parts
  | json => jsonCorrelations parts

theorem isHashTree_eq_false (kind : CorrelationKind) {e : Element} (h : e.tag = kind.tag) :
    isHashTree e = false := by
  cases kind <;> simp [isHashTree, h, tag, regexExtractor, jsonExtractor, hashTree]

theorem correlations_eq (kind : CorrelationKind) (parts : List Element) :
    kind.correlations parts = (parts.filter (·.tag == kind.tag)).filterMap kind.correlation? := by
  cases kind <;> rfl

/-- Both kinds look up their texts in one way. -/
theorem correlation?_eq (kind : CorrelationKind) (e : Element) :
    kind.correlation? e
      = filledCorrelation? kind (kind.parameterNames.findSome? (stringProperty? e))
        (kind.expressionNames.findSome? (stringProperty? e)) := by
  have hone : ∀ name, [name].findSome? (stringProperty? e) = stringProperty? e name := by
    intro name
    cases h : stringProperty? e name <;> simp [h]
  have htwo : ∀ first second,
      [first, second].findSome? (stringProperty? e) = eitherProperty? e first second := by
    intro first second
    rw [List.findSome?_cons, hone, eitherProperty?]
    cases stringProperty? e first <;> rfl
  cases kind with
  | regex => simp only [correlation?, regexCorrelation?, parameterNames, expressionNames, hone]
  | json => simp only [correlation?, jsonCorrelation?, parameterNames, expressionNames, htwo]

end CorrelationKind

theorem filled?_eq_some_iff {text : Option String} {value : String} :
    filled? text = some value ↔ text = some value ∧ Text.isBlankText value = false := by
  rw [filled?, Option.filter_eq_some_iff, Bool.not_eq_true']

theorem filledCorrelation?_eq_some_iff {kind : CorrelationKind}
    {parameter expression : Option String} {c : Correlation} :
    filledCorrelation? kind parameter expression = some c ↔ c.kind = kind
      ∧ filled? parameter = some c.parameter ∧ filled? expression = some c.expression := by
  obtain ⟨kind', parameter', expression'⟩ := c
  unfold filledCorrelation?
  cases filled? parameter <;> cases filled? expression <;> simp [eq_comm]

/-- An element is an extractor of a kind that gives a correlation: both texts are there and not
blank, and the correlation has them as they are. -/
structure Extracts (kind : CorrelationKind) (e : Element) (c : Correlation) : Prop where
  tag : e.tag = kind.tag
  kind_eq : c.kind = kind
  parameter : GivesFirst e kind.parameterNames c.parameter
  expression : GivesFirst e kind.expressionNames c.expression
  parameter_filled : Text.isBlankText c.parameter = false
  expression_filled : Text.isBlankText c.expression = false

theorem extracts_iff {kind : CorrelationKind} {e : Element} {c : Correlation} :
    Extracts kind e c ↔ e.tag = kind.tag ∧ kind.correlation? e = some c := by
  rw [CorrelationKind.correlation?_eq, filledCorrelation?_eq_some_iff, filled?_eq_some_iff,
    filled?_eq_some_iff, findSome?_eq_some_iff_givesFirst, findSome?_eq_some_iff_givesFirst]
  constructor
  · intro h
    exact ⟨h.tag, h.kind_eq, ⟨h.parameter, h.parameter_filled⟩,
      ⟨h.expression, h.expression_filled⟩⟩
  · rintro ⟨htag, hkind, ⟨hparameter, hfilled⟩, hexpression, hfilled'⟩
    exact ⟨htag, hkind, hparameter, hexpression, hfilled, hfilled'⟩

open Classical in
/-- The correlations of a kind are those of the extractors that give one, in order. -/
theorem extracts_correlations (kind : CorrelationKind) (parts : List Element) :
    List.Forall₂ (Extracts kind) (parts.filter fun e => ∃ c, Extracts kind e c)
      (kind.correlations parts) := by
  rw [CorrelationKind.correlations_eq]
  induction parts with
  | nil => exact .nil
  | cons e parts ih =>
    by_cases htag : e.tag = kind.tag
    · have hkept : (e :: parts).filter (·.tag == kind.tag)
          = e :: parts.filter (·.tag == kind.tag) := List.filter_cons_of_pos (by simpa using htag)
      rw [hkept]
      cases hc : kind.correlation? e with
      | none =>
        have hnone : ¬ ∃ c, Extracts kind e c := by
          rintro ⟨c, hextracts⟩
          rw [(extracts_iff.mp hextracts).2] at hc
          cases hc
        rwa [List.filter_cons_of_neg (by simpa using hnone), List.filterMap_cons_none hc]
      | some c =>
        have hextracts : Extracts kind e c := extracts_iff.mpr ⟨htag, hc⟩
        rw [List.filter_cons_of_pos (by simpa using ⟨c, hextracts⟩), List.filterMap_cons_some hc]
        exact .cons hextracts ih
    · have hnone : ¬ ∃ c, Extracts kind e c := by
        rintro ⟨c, h⟩
        exact htag h.tag
      have hleft : (e :: parts).filter (·.tag == kind.tag) = parts.filter (·.tag == kind.tag) :=
        List.filter_cons_of_neg (by simpa using htag)
      rwa [List.filter_cons_of_neg (by simpa using hnone), hleft]

/-! ## Extractors in the container of a sampler -/

/-- The places directly below a place. -/
def IsChild (above place : List Nat) : Prop :=
  ∃ n, place = above ++ [n]

theorem IsChild.isBelow {above place : List Nat} (h : IsChild above place) :
    IsBelow above place := by
  obtain ⟨n, rfl⟩ := h
  exact isBelow_child above n

/-- What is below a child is no child. -/
theorem not_isChild_of_isBelow {above place : List Nat} {n : Nat}
    (h : IsBelow (above ++ [n]) place) : ¬ IsChild above place := by
  rintro ⟨m, rfl⟩
  have := h.length_lt
  simp at this

open Classical in
/-- The sites of siblings are those directly below the place of their parent. -/
theorem element_children_sitesAmong (parent : List Nat) (n : Nat) (l : List Element) :
    ((sitesAmong parent n l).filter fun s => IsChild parent s.place).map Site.element = l := by
  induction l generalizing n with
  | nil => rfl
  | cons e l ih =>
    have hbelow : (sitesBelow (parent ++ [n]) e).filter (fun s => IsChild parent s.place) = [] := by
      rw [List.filter_eq_nil_iff]
      intro s hs hchild
      exact not_isChild_of_isBelow (isBelow_of_mem_sitesBelow hs) (of_decide_eq_true hchild)
    have hown : IsChild parent (parent ++ [n]) := ⟨n, rfl⟩
    rw [sitesAmong, List.cons_append, List.filter_cons_of_pos (by simpa using hown),
      List.filter_append, hbelow, List.nil_append, List.map_cons, ih]

open Classical in
/-- The elements directly below the place of an element are its children. -/
theorem element_children_sites {root : Element} {t : Site} (h : t ∈ sites root) :
    ((sites root).filter fun s => IsChild t.place s.place).map Site.element
      = t.element.children := by
  rw [(holdsAllBelow_sites h).filter_eq _ fun s hs => (of_decide_eq_true hs).isBelow]
  rw [sitesBelow_eq, element_children_sitesAmong]

open Classical in
/-- The extractors of a kind that give a correlation and stand directly in the container of the
element at a place, in document order. -/
noncomputable def extractorSites (root : Element) (place : List Nat) (kind : CorrelationKind) :
    List Site :=
  (sites root).filter fun s =>
    (∃ inner, containerOf? root place = some inner ∧ IsChild inner s.place)
      ∧ ∃ c, Extracts kind s.element c

open Classical in
theorem element_extractorSites {root : Element} {s : Site} (h : s ∈ sites root)
    (kind : CorrelationKind) :
    (extractorSites root s.place kind).map Site.element
      = s.parts.filter fun e => ∃ c, Extracts kind e c := by
  have hplace : containerOf? root s.place = s.containerPlace? := by
    rw [containerOf?, siteAt?_eq_some_iff.mpr ⟨h, rfl⟩, Option.bind_some]
  unfold extractorSites
  cases hc : s.container with
  | none =>
    have hnone : containerOf? root s.place = none := by
      rw [hplace, Site.containerPlace?, hc, Option.map_none]
    have hempty : (sites root).filter (fun t => (∃ inner, containerOf? root s.place = some inner
        ∧ IsChild inner t.place) ∧ ∃ c, Extracts kind t.element c) = [] := by
      simp [hnone]
    rw [hempty, Site.parts, hc]
    rfl
  | some t =>
    obtain ⟨u, hu, rfl, hinner⟩ := exists_container h hc
    have hsplit : ∀ t ∈ sites root, decide ((∃ inner, containerOf? root s.place = some inner
        ∧ IsChild inner t.place) ∧ ∃ c, Extracts kind t.element c)
        = (decide (∃ c, Extracts kind t.element c) && decide (IsChild u.place t.place)) := by
      intro t _
      rw [hplace, hinner, Bool.eq_iff_iff]
      simp [and_comm]
    -- an extractor is no `hashTree`, so leaving these out first changes nothing
    have hparts : u.element.children.filter (fun e => ∃ c, Extracts kind e c)
        = (testElements u.element).filter fun e => ∃ c, Extracts kind e c := by
      rw [testElements, List.filter_filter]
      refine List.filter_congr fun e _ => ?_
      rw [Bool.eq_iff_iff]
      simp only [decide_eq_true_eq, Bool.and_eq_true, Bool.not_eq_true']
      refine ⟨?_, And.left⟩
      rintro ⟨c, h⟩
      exact ⟨⟨c, h⟩, kind.isHashTree_eq_false h.tag⟩
    rw [List.filter_congr hsplit, ← List.filter_filter, Site.parts, hc, Option.map_some,
      Option.getD_some, ← hparts, ← element_children_sites hu, List.filter_map]
    rfl

/-- The correlations of a kind that a sampler has are those of the extractors directly in its
container that give one, in document order. -/
theorem extracts_parts {root : Element} {s : Site} (h : s ∈ sites root) (kind : CorrelationKind) :
    List.Forall₂ (fun t c => Extracts kind t.element c) (extractorSites root s.place kind)
      (kind.correlations s.parts) := by
  have hall := extracts_correlations kind s.parts
  rwa [← element_extractorSites h, List.forall₂_map_left_iff] at hall

/-! ## What the correlations of a sampler depend on -/

/-- Two containers have the same children, but for what is in the `hashTree`s among them. -/
def SameBesideTrees (a b : Element) : Prop :=
  List.Forall₂ (fun e e' => e = e' ∨ isHashTree e = true ∧ isHashTree e' = true)
    a.children b.children

theorem SameBesideTrees.testElements_eq {a b : Element} (h : SameBesideTrees a b) :
    testElements a = testElements b := by
  unfold SameBesideTrees at h
  unfold testElements
  generalize a.children = l, b.children = l' at h
  induction h with
  | nil => rfl
  | cons hsame _ ih =>
    rcases hsame with rfl | ⟨htree, htree'⟩
    · rw [List.filter_cons, List.filter_cons, ih]
    · rw [List.filter_cons_of_neg (by simp [htree]), List.filter_cons_of_neg (by simp [htree']), ih]

theorem parts_eq_of_sameBesideTrees {s s' : Site}
    (h : Option.Rel SameBesideTrees s.container s'.container) : s.parts = s'.parts := by
  unfold Site.parts
  generalize s.container = c, s'.container = c' at h
  cases h with
  | none => rfl
  | some hsame => rw [Option.map_some, Option.map_some, hsame.testElements_eq]

end VuserScript.Plan
