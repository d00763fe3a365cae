/-
  VuserScript.Proofs.Script.Insertions

  What is put into a plan beside the elements that are followed. The action of
  a thread group depends on the items that are kept of its container, so an
  element of another tag with a `hashTree` of its own changes nothing in any
  container that the walk of the group comes to, whatever the `hashTree` holds.
-/
import VuserScript.Proofs.Plan.Insertions
import VuserScript.Script.Action

namespace VuserScript.Script

open Plan (Counts Group IsUnseen IsWalked Item Site containerOf? editAt insertPair itemsOf kept
  keptOfItem)
open Xml (Element)

/-! ## Following what is kept -/

/-- An outcome with the warnings alone of what was noticed. -/
def Outcome.heard (o : Outcome) : Outcome :=
  { o with log := o.log.filter (·.level == .warning) }

namespace Outcome

theorem heard_append (a b : Outcome) : (a.append b).heard = a.heard.append b.heard := by
  simp [heard, append]

theorem heard_within (name : String) (o : Outcome) : (o.within name).heard = o.heard.within name :=
  rfl

theorem empty_append (o : Outcome) : append {} o = o := by
  simp [append, Tally.add]

theorem warnings_heard (o : Outcome) : Record.warnings o.heard.log = Record.warnings o.log := by
  simp [Record.warnings, heard]

end Outcome

/-- Following the items that are kept gives what following the items gives, but for records that
are no warnings, and the same names. -/
theorem followItems_kept (correlate inside : Bool) :
    ∀ (items : List Item) (n : Names), followItems correlate inside (kept items) n
      = ((followItems correlate inside items n).1.heard, (followItems correlate inside items n).2)
  | [], _ => rfl
  | .request sampler parts :: rest, n => by
    have hrequest : ∀ name, (requestOutcome correlate inside sampler parts name).heard
        = requestOutcome correlate inside sampler parts name := fun _ => rfl
    simp only [kept, keptOfItem, List.singleton_append, followItems, followItem,
      followItems_kept correlate inside rest, Outcome.heard_append, hrequest]
  | .transaction controller items :: rest, n => by
    simp only [kept, keptOfItem, List.singleton_append, followItems, followItem,
      followItems_kept correlate true items, followItems_kept correlate inside rest,
      Outcome.heard_append, Outcome.heard_within]
  | .bareTransaction controller :: rest, n => by
    have hbare : ∀ warning, (Outcome.mk [] {} [.ofWarning warning]).heard
        = ⟨[], {}, [.ofWarning warning]⟩ := fun _ => rfl
    simp only [kept, keptOfItem, List.singleton_append, followItems, followItem,
      followItems_kept correlate inside rest, Outcome.heard_append, Outcome.heard_within, hbare]
  | .unsupported tag :: rest, n => by
    have hnone : ∀ message, (Outcome.mk [] {} [⟨.debug, message⟩]).heard = {} := fun _ => rfl
    simp only [kept, keptOfItem, List.nil_append, followItems, followItem,
      followItems_kept correlate inside rest, Outcome.heard_append, hnone, Outcome.empty_append]

/-- Two actions with the same lines, counts and warnings, and with the same names behind them. -/
structure Alike (a b : Outcome × Names) : Prop where
  lines : a.1.lines = b.1.lines
  tally : a.1.tally = b.1.tally
  warnings : Record.warnings a.1.log = Record.warnings b.1.log
  names : a.2 = b.2

/-- Containers of which the same is kept have actions alike. -/
theorem alike_of_kept_eq (correlate : Bool) {a b : Element}
    (h : kept (itemsOf a) = kept (itemsOf b)) (n : Names) :
    Alike (actionOf correlate (some (itemsOf a)) n) (actionOf correlate (some (itemsOf b)) n) := by
  have hboth := followItems_kept correlate false (itemsOf a) n
  rw [h, followItems_kept correlate false (itemsOf b) n, Prod.mk.injEq] at hboth
  obtain ⟨houtcome, hnames⟩ := hboth
  have hlines := congrArg Outcome.lines houtcome.symm
  have htally := congrArg Outcome.tally houtcome.symm
  have hwarnings := congrArg (fun o => Record.warnings o.log) houtcome.symm
  simp only [Outcome.warnings_heard] at hwarnings
  exact ⟨hlines, htally, hwarnings, hnames.symm⟩

/-! ## Thread groups -/

/-- Into any container that the walk of a thread group comes to, at any position that is not between
an element and its container, an element can be put that is no sampler, no controller and no
`hashTree`, with a `hashTree` directly behind it. Whatever these hold, the group keeps its number in
the plan, its action is the same for all options and all names made up before, in its lines, counts
and warnings and in the names behind it, and so is what is counted for the group. -/
theorem insertion_unseen {root x h : Element} {k i : Nat} {g : Site} {place : List Nat}
    (hgroup : (Plan.sitesOf root Plan.threadGroup)[k]? = some g)
    (hwalked : IsWalked root g.place place)
    (hposition : ∀ n, n + 1 = i → containerOf? root (place ++ [n]) = none)
    (hsampler : x.tag ≠ Plan.httpSampler) (hcontroller : x.tag ≠ Plan.transactionController)
    (hx : x.tag ≠ Plan.hashTree) (hh : h.tag = Plan.hashTree) :
    ∃ g', (Plan.sitesOf (editAt (insertPair i x h) place root) Plan.threadGroup)[k]? = some g'
      ∧ g'.place = g.place ∧ g'.element = g.element
      ∧ (∀ (correlate : Bool) (names : Names),
        Alike (actionOf correlate (g'.container.map itemsOf) names)
          (actionOf correlate (g.container.map itemsOf) names))
      ∧ (Plan.summaries (editAt (insertPair i x h) place root))[k]?
        = (Plan.summaries root)[k]? := by
  obtain ⟨container, hcontainer⟩ := hwalked.exists_elementAt?
  have hunseen : IsUnseen (insertPair i x h) container :=
    Plan.isUnseen_insertPair hcontainer hposition hsampler hcontroller
      (by simpa [Plan.isHashTree] using hx) (by simpa [Plan.isHashTree] using hh)
  obtain ⟨g', c, c', hgroup', hplace, helement, hc, hc', hkept⟩ :=
    hwalked.exists_site hgroup hcontainer hunseen
  refine ⟨g', hgroup', hplace, helement, fun correlate names => ?_, ?_⟩
  · rw [hc, hc']
    exact alike_of_kept_eq correlate hkept names
  · rw [Plan.getElem?_summaries hgroup', Plan.getElem?_summaries hgroup, helement, hc, hc',
      Plan.summary_eq_of_kept_eq hkept]

/-- A thread group with a sampler in a transaction. -/
def nestedGroup : Site where
  place := [0]
  element := { tag := Plan.threadGroup }
  container := some
    { tag := Plan.hashTree
      children := [{ tag := Plan.transactionController },
        { tag := Plan.hashTree
          children := [{ tag := Plan.httpSampler }, { tag := Plan.hashTree }] }] }

/-- A plan with nothing but this group. -/
def nestedPlan : Element :=
  { tag := "jmeterTestPlan", children := nestedGroup.element :: nestedGroup.container.toList }

/-- A `hashTree` with a sampler, and with a controller that has no container. -/
def foreignTree : Element :=
  { tag := Plan.hashTree
    children := [{ tag := Plan.httpSampler }, { tag := Plan.transactionController }] }

/-- A further thread group, with samplers and controllers of its own, behind the sampler. -/
theorem insertion_unseen_nestedPlan :
    (Plan.sitesOf nestedPlan Plan.threadGroup)[0]? = some nestedGroup
      ∧ IsWalked nestedPlan nestedGroup.place [1, 1]
      ∧ ∃ g', (Plan.sitesOf (editAt (insertPair 2 nestedGroup.element foreignTree) [1, 1]
          nestedPlan) Plan.threadGroup)[0]? = some g'
        ∧ ∀ (correlate : Bool) (names : Names),
          Alike (actionOf correlate (g'.container.map itemsOf) names)
            (actionOf correlate (nestedGroup.container.map itemsOf) names) := by
  have hgroup : (Plan.sitesOf nestedPlan Plan.threadGroup)[0]? = some nestedGroup := by rfl
  have hown : containerOf? nestedPlan nestedGroup.place = some [1] := by decide +kernel
  have hcontroller : containerOf? nestedPlan ([1] ++ [0]) = some [1, 1] := by decide +kernel
  have hwalked : IsWalked nestedPlan nestedGroup.place [1, 1] :=
    .through (.own hown) rfl rfl hcontroller
  have hposition : ∀ n, n + 1 = 2 → containerOf? nestedPlan ([1, 1] ++ [n]) = none := by
    intro n hn
    obtain rfl : n = 1 := Nat.succ_inj.mp hn
    decide +kernel
  obtain ⟨g', hgroup', -, -, halike, -⟩ := insertion_unseen (x := nestedGroup.element)
    (h := foreignTree) hgroup hwalked hposition (by decide) (by decide) (by decide) rfl
  exact ⟨hgroup, hwalked, g', hgroup', halike⟩

end VuserScript.Script
