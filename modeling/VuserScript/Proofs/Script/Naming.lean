/-
  VuserScript.Proofs.Script.Naming

  The names under which the samplers and controllers of an action are shown.
  An element that has no name of its own is numbered among all elements without
  one, in the order in which they are met; `withNames` says so without a
  counter, and following items is shown to give each visit that name, in its
  request, in its transaction and in the warning about it.
-/
import VuserScript.Proofs.Script.Openings
import VuserScript.Proofs.Script.Tallies

namespace VuserScript.Script

open Plan (Item Visit visitsOf visitsOfItem)
open Xml (Element)

/-! ## Names by number -/

/-- Whether an element has no name to be displayed with. -/
def isUnnamed (e : Element) : Bool :=
  (Plan.testName? e).isNone

/-- The name that an element is shown with: its own, or else a stem with a number. -/
def shownName (stem : String) (number : Nat) (e : Element) : String :=
  (Plan.testName? e).getD (stem ++ "_" ++ toString number)

theorem shownName_of_isUnnamed {e : Element} (h : isUnnamed e = true) (stem : String)
    (number : Nat) : shownName stem number e = stem ++ "_" ++ toString number := by
  rw [shownName, Option.isNone_iff_eq_none.mp h, Option.getD_none]

section

variable {α : Type} (stem : α → String) (element : α → Element)

/-- How many of the elements that are met have no name. -/
def unnamedIn (met : List α) : Nat :=
  met.countP fun a => isUnnamed (element a)

/-- What is met, with the names that are shown when `given` names have been made up before: an
element without a name has its number among all those without one. -/
def withNames (given : Nat) (met : List α) : List (α × String) :=
  met.mapIdx fun i a =>
    (a, shownName (stem a) (given + unnamedIn element (met.take (i + 1))) (element a))

theorem unnamedIn_append (a b : List α) :
    unnamedIn element (a ++ b) = unnamedIn element a + unnamedIn element b :=
  List.countP_append

theorem unnamedIn_cons (a : α) (rest : List α) :
    unnamedIn element (a :: rest) = unnamedIn element [a] + unnamedIn element rest :=
  unnamedIn_append element [a] rest

@[simp] theorem withNames_nil (given : Nat) : withNames stem element given [] = [] := rfl

theorem withNames_cons (given : Nat) (a : α) (rest : List α) :
    withNames stem element given (a :: rest)
      = (a, shownName (stem a) (given + 1) (element a))
        :: withNames stem element (given + unnamedIn element [a]) rest := by
  rw [withNames, List.mapIdx_cons]
  congr 1
  · -- the number counts only for an element without a name, and then it is the next one
    cases h : Plan.testName? (element a) <;> simp [shownName, unnamedIn, isUnnamed, h]
  · refine congrArg (List.mapIdx · rest) ?_
    funext i b
    rw [List.take_succ_cons, unnamedIn_cons, Nat.add_assoc]

theorem withNames_append (given : Nat) (a b : List α) :
    withNames stem element given (a ++ b)
      = withNames stem element given a
        ++ withNames stem element (given + unnamedIn element a) b := by
  induction a generalizing given with
  | nil => rfl
  | cons m rest ih =>
    rw [List.cons_append, withNames_cons, withNames_cons, ih, List.cons_append,
      unnamedIn_cons element m rest, Nat.add_assoc]

theorem withNames_map {β : Type} (f : β → α) (given : Nat) (met : List β) :
    withNames stem element given (met.map f)
      = (withNames (stem ∘ f) (element ∘ f) given met).map (Prod.map f id) := by
  induction met generalizing given with
  | nil => rfl
  | cons b rest ih =>
    rw [List.map_cons, withNames_cons, withNames_cons, List.map_cons, ih]
    rfl

/-- The elements without a name have the numbers behind those given, one after another. -/
theorem filter_isUnnamed_withNames (given : Nat) (met : List α) :
    ((withNames stem element given met).filter fun x => isUnnamed (element x.1)).map Prod.snd
      = (met.filter fun a => isUnnamed (element a)).mapIdx
        fun k a => stem a ++ "_" ++ toString (given + k + 1) := by
  induction met generalizing given with
  | nil => rfl
  | cons a rest ih =>
    rw [withNames_cons]
    by_cases h : isUnnamed (element a) = true
    · have hone : unnamedIn element [a] = 1 := by simp [unnamedIn, h]
      rw [List.filter_cons_of_pos (by simpa using h), List.filter_cons_of_pos (by simpa using h),
        List.map_cons, List.mapIdx_cons, ih, shownName_of_isUnnamed h, hone]
      simp only [Nat.add_assoc, Nat.add_comm, Nat.add_left_comm]
    · have hnone : unnamedIn element [a] = 0 := by simp [unnamedIn, h]
      rw [List.filter_cons_of_neg (by simpa using h), List.filter_cons_of_neg (by simpa using h),
        ih, hnone, Nat.add_zero]

end

/-- What is matched element by element has the same names. -/
theorem forall₂_withNames {α β : Type} {r : α → β → Prop} {stem : α → String}
    {element : α → Element} {stem' : β → String} {element' : β → Element} {as : List α}
    {bs : List β} (hr : ∀ a b, r a b → stem a = stem' b ∧ element a = element' b)
    (h : List.Forall₂ r as bs) (given : Nat) :
    List.Forall₂ (fun x y => r x.1 y.1 ∧ x.2 = y.2) (withNames stem element given as)
      (withNames stem' element' given bs) := by
  induction h generalizing given with
  | nil => exact .nil
  | @cons a b as bs hab _ ih =>
    obtain ⟨hstem, helement⟩ := hr a b hab
    have hunnamed : unnamedIn element [a] = unnamedIn element' [b] := by
      simp [unnamedIn, helement]
    rw [withNames_cons, withNames_cons, hunnamed, hstem, helement]
    exact .cons ⟨hab, rfl⟩ (ih _)

/-! ## The names that a counter makes up -/

theorem nameOf_eq (n : Names) (e : Element) (stem : String) :
    n.nameOf e stem = (shownName stem (n.given + 1) e, ⟨n.given + unnamedIn id [e]⟩) := by
  cases h : Plan.testName? e <;>
    simp [Names.nameOf, Names.next, shownName, unnamedIn, isUnnamed, h]

mutual

theorem names_followItem (correlate inside : Bool) :
    ∀ (item : Item) (n : Names), (followItem correlate inside item n).2
      = ⟨n.given + unnamedIn Visit.element (visitsOfItem item)⟩
  | .request sampler _, n => congrArg Prod.snd (nameOf_eq n sampler "Request")
  | .transaction controller items, n => by
    have hbelow : unnamedIn Visit.element (visitsOfItem (.transaction controller items))
        = unnamedIn id [controller] + unnamedIn Visit.element (visitsOf items) := by
      rw [visitsOfItem, unnamedIn_cons]
      simp only [unnamedIn, List.countP_map]
      rfl
    have hnames := names_followItems correlate true items (n.nameOf controller "Txn").2
    have hstep : (followItem correlate inside (.transaction controller items) n).2
        = (followItems correlate true items (n.nameOf controller "Txn").2).2 := rfl
    rw [hstep, hnames, nameOf_eq, hbelow, Nat.add_assoc]
  | .bareTransaction controller, n => congrArg Prod.snd (nameOf_eq n controller "Txn")
  | .unsupported _, _ => rfl

/-- As many names are made up as elements without one are met. -/
theorem names_followItems (correlate inside : Bool) :
    ∀ (items : List Item) (n : Names), (followItems correlate inside items n).2
      = ⟨n.given + unnamedIn Visit.element (visitsOf items)⟩
  | [], _ => rfl
  | item :: items, n => by
    have hnames := names_followItems correlate inside items (followItem correlate inside item n).2
    have hstep : (followItems correlate inside (item :: items) n).2
        = (followItems correlate inside items (followItem correlate inside item n).2).2 := rfl
    rw [hstep, hnames, names_followItem correlate inside item n, Plan.visitsOf_cons,
      unnamedIn_append, Nat.add_assoc]

end

theorem names_actionOf (correlate : Bool) (items : Option (List Item)) (n : Names) :
    (actionOf correlate items n).2
      = ⟨n.given + unnamedIn Visit.element (visitsOf (items.getD []))⟩ := by
  cases items with
  | none => rfl
  | some items => exact names_followItems correlate false items n

/-! ## The names that an action shows -/

/-- Around the statements of a controller there are only the start and the end of its
transaction. -/
theorem filterMap_within {α : Type} {part : Statement → Option α} (name : String) (o : Outcome)
    (hfinish : part (.finish name) = none) :
    (o.within name).statements.filterMap part
      = (part (.start name)).toList ++ o.statements.filterMap part := by
  have hparts : (o.within name).statements
      = [Statement.start name] ++ o.statements ++ [.finish name] := rfl
  rw [hparts, List.filterMap_append, List.filterMap_append]
  cases hstart : part (.start name) <;> simp [hstart, hfinish]

theorem warnings_append (a b : List Record) :
    Record.warnings (a ++ b) = Record.warnings a ++ Record.warnings b := by
  simp [Record.warnings]

/-- Visits with the names that are shown when `given` names have been made up before. -/
abbrev namedVisits (given : Nat) (visits : List Visit) : List (Visit × String) :=
  withNames stemOf Visit.element given visits

/-- An outcome shows visits under their names: the samplers in its requests, what gets a transaction
in the starts, and the controllers without a container in its warnings. -/
structure Shows (inside : Bool) (given : Nat) (visits : List Visit) (o : Outcome) : Prop where
  requests : o.statements.filterMap Statement.request?
    = ((namedVisits given visits).filter fun x => x.1.isSampler).map
        fun x => Plan.requestOf x.1.element x.2
  starts : o.statements.filterMap Statement.started?
    = ((namedVisits given visits).filter fun x => ownsScope inside x.1).map Prod.snd
  warnings : Record.warnings o.log
    = ((namedVisits given visits).filter fun x => x.1.isBare).map
        fun x => bareTransactionWarning x.2

namespace Shows

theorem nil (inside : Bool) (given : Nat) (log : List Record)
    (hlog : Record.warnings log = []) : Shows inside given [] { log } :=
  ⟨rfl, rfl, hlog⟩

theorem append {inside : Bool} {given : Nat} {v w : List Visit} {a b : Outcome}
    (ha : Shows inside given v a) (hb : Shows inside (given + unnamedIn Visit.element v) w b) :
    Shows inside given (v ++ w) (a.append b) where
  requests := by
    rw [namedVisits, withNames_append, List.filter_append, List.map_append, ← ha.requests,
      ← hb.requests]
    exact List.filterMap_append
  starts := by
    rw [namedVisits, withNames_append, List.filter_append, List.map_append, ← ha.starts,
      ← hb.starts]
    exact List.filterMap_append
  warnings := by
    rw [namedVisits, withNames_append, List.filter_append, List.map_append, ← ha.warnings,
      ← hb.warnings]
    exact warnings_append a.log b.log

theorem request (correlate inside : Bool) (given : Nat) (sampler : Element)
    (parts : List Element) :
    Shows inside given [⟨[], sampler, true, parts, false⟩]
      (requestOutcome correlate inside sampler parts
        (shownName "Request" (given + 1) sampler)) := by
  have hregistrations : ∀ {α : Type} (part : Statement → Option α) (found : List Plan.Correlation),
      (∀ c, part (.register c) = none) → (found.map Statement.register).filterMap part = [] := by
    intro α part found hnone
    rw [List.filterMap_map, List.filterMap_eq_nil_iff]
    exact fun c _ => hnone c
  constructor <;> rw [namedVisits, withNames_cons]
  · rw [requestOutcome, List.filterMap_append, hregistrations _ _ fun _ => rfl]
    cases inside <;> rfl
  · rw [requestOutcome, List.filterMap_append, hregistrations _ _ fun _ => rfl]
    cases inside <;> rfl
  · rfl

/-- What is below a controller is shown as it is on its own, and the controller is shown by the
transaction around it. -/
theorem within (inside : Bool) {given : Nat} {controller : Element} {visits : List Visit}
    {o : Outcome} (h : Shows true (given + unnamedIn id [controller]) visits o) :
    Shows inside given (⟨[], controller, false, [], false⟩ :: visits.map (Visit.under controller))
      (o.within (shownName "Txn" (given + 1) controller)) := by
  have hbelow : namedVisits (given + unnamedIn id [controller])
        (visits.map (Visit.under controller))
      = (namedVisits (given + unnamedIn id [controller]) visits).map
          (Prod.map (Visit.under controller) id) :=
    withNames_map stemOf Visit.element (Visit.under controller) _ visits
  have hnamed : namedVisits given
        (⟨[], controller, false, [], false⟩ :: visits.map (Visit.under controller))
      = (⟨[], controller, false, [], false⟩, shownName "Txn" (given + 1) controller)
        :: (namedVisits (given + unnamedIn id [controller]) visits).map
          (Prod.map (Visit.under controller) id) := by
    rw [← hbelow]
    exact withNames_cons stemOf Visit.element given _ _
  constructor <;> rw [hnamed]
  · rw [List.filter_cons_of_neg (by simp), List.filter_map, List.map_map]
    exact (filterMap_within _ o rfl).trans h.requests
  · have howners : (fun x : Visit × String => ownsScope inside x.1)
          ∘ Prod.map (Visit.under controller) id
        = fun x => ownsScope true x.1 := by
      funext x
      exact ownsScope_under inside controller x.1
    rw [List.filter_cons_of_pos (by simp [ownsScope]), List.filter_map, howners, List.map_cons,
      List.map_map]
    exact (filterMap_within _ o rfl).trans (congrArg (List.cons _) h.starts)
  · rw [List.filter_cons_of_neg (by simp), List.filter_map, List.map_map]
    exact h.warnings

theorem bare (inside : Bool) (given : Nat) (controller : Element) :
    Shows inside given [⟨[], controller, false, [], true⟩]
      (Outcome.within (shownName "Txn" (given + 1) controller)
        { log := [.ofWarning (bareTransactionWarning
          (shownName "Txn" (given + 1) controller))] }) := by
  constructor <;> rw [namedVisits, withNames_cons] <;> rfl

end Shows

mutual

theorem shows_followItem (correlate inside : Bool) :
    ∀ (item : Item) (n : Names),
      Shows inside n.given (visitsOfItem item) (followItem correlate inside item n).1
  | .request sampler parts, n => by
    rw [followItem, nameOf_eq]
    exact Shows.request correlate inside n.given sampler parts
  | .transaction controller items, n => by
    have hbelow := shows_followItems correlate true items (n.nameOf controller "Txn").2
    rw [nameOf_eq] at hbelow
    rw [followItem, nameOf_eq]
    exact hbelow.within inside
  | .bareTransaction controller, n => by
    rw [followItem, nameOf_eq]
    exact Shows.bare inside n.given controller
  | .unsupported _, n => Shows.nil inside n.given _ rfl

/-- Following items shows what they lead to under the names of the visits. -/
theorem shows_followItems (correlate inside : Bool) :
    ∀ (items : List Item) (n : Names),
      Shows inside n.given (visitsOf items) (followItems correlate inside items n).1
  | [], n => Shows.nil inside n.given [] rfl
  | item :: items, n => by
    have hothers := shows_followItems correlate inside items (followItem correlate inside item n).2
    rw [names_followItem] at hothers
    have hall := (shows_followItem correlate inside item n).append hothers
    rwa [← names_followItem correlate inside item n] at hall

end

theorem shows_actionOf (correlate : Bool) (items : Option (List Item)) (n : Names) :
    Shows false n.given (visitsOf (items.getD [])) (actionOf correlate items n).1 := by
  cases items with
  | none => exact Shows.nil false n.given [] rfl
  | some items => exact shows_followItems correlate false items n

/-- An action warns of nothing but controllers without a container. -/
theorem warnings_actionOf (correlate : Bool) (items : Option (List Item)) (n : Names) :
    ∀ w ∈ Record.warnings (actionOf correlate items n).1.log,
      ∃ name, w = bareTransactionWarning name := by
  intro w hw
  rw [(shows_actionOf correlate items n).warnings, List.mem_map] at hw
  obtain ⟨x, -, rfl⟩ := hw
  exact ⟨x.2, rfl⟩

end VuserScript.Script
