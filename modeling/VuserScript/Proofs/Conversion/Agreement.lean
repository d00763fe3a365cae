/-
  VuserScript.Proofs.Conversion.Agreement

  The summaries of a plan against its conversion. For each thread group, in
  document order, the summary gives the name under which the group is converted
  and the counts of its action: each sampler is a request, each controller is a
  transaction and so is each sampler below none, and the correlations are those
  of the counted extractors that are filled.
-/
import VuserScript.Plan.Summary
import VuserScript.Proofs.Conversion.Steps
import VuserScript.Proofs.Plan.Counting
import VuserScript.Proofs.Script.Naming
import VuserScript.Proofs.Script.Tallies

namespace VuserScript.Conversion

open Plan (Counts DataSet Group Site Summary Visit isFilledExtractor itemsOf jsonExtractor
  loneSamplers reachedSamplers regexExtractor sites sitesOf summaries threadGroup visitsOf)
open Script (Names ParameterSet Tally actionOf)
open Storage (Disk Path)
open Xml (Element)

/-! ## Counts against tallies -/

/-- The extractors that are counted for the container at a place: those placed directly under the
samplers reached from it. -/
noncomputable def countedExtractors (root : Element) (place : List Nat) : List Element :=
  ((reachedSamplers root place).flatMap Site.parts).filter fun e =>
    e.tag == regexExtractor || e.tag == jsonExtractor

/-- The counts for a thread group foretell the tally of its action. -/
structure Foretells (root : Element) (correlate : Bool) (g : Site) (counts : Counts)
    (tally : Tally) : Prop where
  requests : tally.requests = counts.samplers
  transactions : tally.transactions
    = counts.transactions + (g.inContainer (loneSamplers root)).length
  regexExtractors : counts.regexExtractors
    = (g.inContainer (countedExtractors root)).countP (·.tag == regexExtractor)
  jsonExtractors : counts.jsonExtractors
    = (g.inContainer (countedExtractors root)).countP (·.tag == jsonExtractor)
  correlations : tally.correlations
    = if correlate then (g.inContainer (countedExtractors root)).countP isFilledExtractor else 0
  correlations_le : tally.correlations ≤ counts.regexExtractors + counts.jsonExtractors

theorem isFilledExtractor_imp {e : Element} (h : isFilledExtractor e = true) :
    (e.tag == regexExtractor || e.tag == jsonExtractor) = true := by
  simp only [isFilledExtractor, Plan.isFilledRegex, Plan.isFilledJson, Bool.or_eq_true,
    Bool.and_eq_true] at h ⊢
  exact h.imp (fun h => h.1.1) (fun h => h.1.1)

/-- Counting among the extractors of some parts is counting among the parts. -/
theorem countP_extractors {q : Element → Bool} (parts : List Element)
    (hq : ∀ e, q e = true → (e.tag == regexExtractor || e.tag == jsonExtractor) = true) :
    (parts.filter fun e => e.tag == regexExtractor || e.tag == jsonExtractor).countP q
      = parts.countP q := by
  rw [List.countP_filter]
  refine List.countP_congr fun e _ => ?_
  simp only [Bool.and_eq_true]
  exact ⟨fun h => h.1, fun h => ⟨h, hq e h⟩⟩

theorem countP_isFilledExtractor_le (parts : List Element) :
    parts.countP isFilledExtractor
      ≤ parts.countP (·.tag == regexExtractor) + parts.countP (·.tag == jsonExtractor) := by
  induction parts with
  | nil => simp
  | cons e rest ih =>
    simp only [List.countP_cons]
    by_cases h : isFilledExtractor e = true
    · have hone := isFilledExtractor_imp h
      rw [Bool.or_eq_true] at hone
      rw [if_pos h]
      rcases hone with hone | hone <;> rw [if_pos hone] <;> omega
    · rw [if_neg h]
      omega

/-- Each visit that gets a transaction is one to a controller or to a sampler below none. -/
theorem countP_ownsScope (visits : List Visit) :
    visits.countP (Script.ownsScope false)
      = visits.countP (!·.isSampler) + visits.countP fun v => v.isSampler && v.above.isEmpty := by
  induction visits with
  | nil => rfl
  | cons v rest ih =>
    rw [List.countP_cons, List.countP_cons, List.countP_cons, ih]
    cases hs : v.isSampler <;> cases ha : v.above.isEmpty <;> simp [Script.ownsScope, hs, ha] <;>
      omega

theorem foretells_ofVisits {root : Element} {correlate : Bool} {g : Site} {place : List Nat}
    {visits : List Visit}
    (hplace : ∀ {α : Type} (list : List Nat → List α), g.inContainer list = list place)
    (h : List.Forall₂ (Visit.IsTo root place) visits (Plan.metSites root place)) :
    Foretells root correlate g (Counts.ofVisits visits)
      (Tally.ofVisits correlate false visits) where
  requests := rfl
  transactions := by
    rw [hplace, ← Plan.countP_isAlone_eq h]
    exact countP_ownsScope visits
  regexExtractors := by
    rw [hplace, countedExtractors, countP_extractors _ (by simp_all), ← Plan.partsOfVisits_eq h]
    rfl
  jsonExtractors := by
    rw [hplace, countedExtractors, countP_extractors _ (by simp_all), ← Plan.partsOfVisits_eq h]
    rfl
  correlations := by
    rw [hplace, countedExtractors, countP_extractors _ fun _ => isFilledExtractor_imp,
      ← Plan.partsOfVisits_eq h]
    rfl
  correlations_le := by
    cases correlate with
    | false => exact Nat.zero_le _
    | true => exact countP_isFilledExtractor_le (Plan.partsOfVisits visits)

theorem foretells_nil {root : Element} {correlate : Bool} {g : Site}
    (hplace : ∀ {α : Type} (list : List Nat → List α), g.inContainer list = []) :
    Foretells root correlate g {} (Tally.ofVisits correlate false []) := by
  cases correlate <;> constructor <;>
    simp [Tally.ofVisits, Plan.partsOfVisits, hplace]

/-- The thread group of a site. -/
def groupAt (g : Site) : Group :=
  ⟨g.element, g.container⟩

/-- A summary foretells the tally of the action, whatever names have been given before. -/
theorem foretells_actionOf {root : Element} {g : Site} (h : g ∈ sites root) (correlate : Bool)
    (number : Nat) (names : Names) :
    Foretells root correlate g ((groupAt g).summary number).counts
      (actionOf correlate (groupAt g).items names).1.tally := by
  rw [Script.tally_actionOf]
  rcases Plan.Site.visits_isTo h with ⟨hc, hplace⟩ | ⟨t, place, hc, hplace, hto⟩
  · simp only [Group.summary, Group.items, groupAt, hc, Option.map_none, Option.getD_none]
    exact foretells_nil hplace
  · simp only [Group.summary, Group.items, groupAt, hc, Option.map_some, Option.getD_some,
      Counts.ofContainer_eq_ofVisits]
    exact foretells_ofVisits hplace hto

/-! ## Warnings -/

/-- A warning about a data set. -/
def IsDataWarning (w : String) : Prop :=
  (∃ name, w = noFileWarning name) ∨ (∃ path, w = missingFileWarning path)
    ∨ ∃ source target trouble, w = copyWarning source target trouble

theorem isDataWarning_of_copiedTo {source : Path} {targets : List Path} {d e : Disk}
    {warnings : List String} (h : CopiedTo source targets d warnings e) :
    ∀ w ∈ warnings, IsDataWarning w := by
  induction targets generalizing d warnings with
  | nil =>
    obtain ⟨-, rfl⟩ := h
    simp
  | cons target targets ih =>
    obtain ⟨c, first, others, hfirst, hothers, rfl⟩ := h
    intro w hw
    rcases List.mem_append.mp hw with hw | hw
    · rcases hfirst with ⟨-, rfl⟩ | ⟨trouble, -, -, rfl⟩
      · cases hw
      · exact .inr (.inr ⟨source, target, trouble, List.mem_singleton.mp hw⟩)
    · exact ih hothers w hw

theorem isDataWarning_of_placed {s : DataSource} {folder : Path} {dataSets : List DataSet}
    {sets : List ParameterSet} {d e : Disk} {warnings : List String}
    (h : Placed s folder dataSets d sets warnings e) : ∀ w ∈ warnings, IsDataWarning w := by
  induction h with
  | nil => simp
  | unnamed _ _ ih =>
    rintro w (_ | ⟨_, hw⟩)
    · exact .inl ⟨_, rfl⟩
    · exact ih w hw
  | missing _ _ _ ih =>
    rintro w (_ | ⟨_, hw⟩)
    · exact .inr (.inl ⟨_, rfl⟩)
    · exact ih w hw
  | found _ _ copies _ ih =>
    intro w hw
    rcases List.mem_append.mp hw with hw | hw
    · exact isDataWarning_of_copiedTo copies w hw
    · exact ih w hw

theorem head?_toList_append {a : String} {c : Char} (h : a.toList.head? = some c) (b : String) :
    (a ++ b).toList.head? = some c := by
  rw [String.toList_append, List.head?_append, h]
  rfl

theorem head?_bareGroupWarning (name : String) :
    (bareGroupWarning name).toList.head? = some 'N' :=
  head?_toList_append (head?_toList_append (by decide) name) "'."

/-- Warnings of other kinds are told from that about a missing container by their first letter. -/
theorem IsDataWarning.head? {w : String} (h : IsDataWarning w) :
    w.toList.head? = some 'C' ∨ w.toList.head? = some 'F' := by
  rcases h with ⟨name, rfl⟩ | ⟨path, rfl⟩ | ⟨source, target, trouble, rfl⟩
  · exact .inl (head?_toList_append (head?_toList_append (by decide) name) _)
  · exact .inl (head?_toList_append (by decide) path.text)
  · refine .inr (head?_toList_append (head?_toList_append (head?_toList_append
      (head?_toList_append (head?_toList_append ?_ source.text) " to ") target.text) ": ") _)
    decide

theorem IsDataWarning.ne_bareGroupWarning {w : String} (h : IsDataWarning w) (name : String) :
    w ≠ bareGroupWarning name := by
  rintro rfl
  have hhead := h.head?
  rw [head?_bareGroupWarning] at hhead
  rcases hhead with hhead | hhead <;> exact absurd hhead (by decide)

theorem bareTransactionWarning_ne (name group : String) :
    Script.bareTransactionWarning name ≠ bareGroupWarning group := by
  intro h
  have hhead : (Script.bareTransactionWarning name).toList.head? = some 'T' :=
    head?_toList_append (head?_toList_append (by decide) name) _
  rw [h, head?_bareGroupWarning] at hhead
  exact absurd hhead (by decide)

/-- A thread group is warned about if and only if it has no container. -/
theorem Converted.bareGroupWarning_mem_iff {s : Setting} {p q : Progress} {g : Group}
    {d e : Disk} {x : Stages} {r : GroupReport} (h : Converted s p g d x r q e) :
    bareGroupWarning r.name ∈ r.warnings ↔ g.container = none := by
  have haction : x.action = (actionOf s.options.enableCorrelation g.items p.names).1 :=
    congrArg Prod.fst h.action
  have hdata : bareGroupWarning r.name ∉ x.dataWarnings := fun hmem =>
    (isDataWarning_of_placed h.places _ hmem).ne_bareGroupWarning _ rfl
  have hbelow : bareGroupWarning r.name ∉ Record.warnings x.action.log := by
    intro hmem
    rw [haction] at hmem
    obtain ⟨name, hname⟩ := Script.warnings_actionOf _ _ _ _ hmem
    exact bareTransactionWarning_ne name r.name hname.symm
  rw [h.warnings]
  cases hc : g.container <;> simp [hdata, hbelow, Group.items, hc]

/-! ## Summaries against conversions -/

/-- The report of a thread group is what its summary foretells. -/
structure ReportsAs (root : Element) (correlate : Bool) (g : Site) (d : Summary)
    (r : GroupReport) : Prop where
  name : r.name = d.name
  tally : Foretells root correlate g d.counts r.tally
  bare : d.hasChildren = false ↔ bareGroupWarning r.name ∈ r.warnings

theorem Converted.reportsAs {root : Element} {s : Setting} {p q : Progress} {g : Site}
    {d e : Disk} {x : Stages} {r : GroupReport} (hg : g ∈ sites root)
    (h : Converted s p (groupAt g) d x r q e) :
    ReportsAs root s.options.enableCorrelation g ((groupAt g).summary p.number) r where
  name := h.name
  tally := by
    have haction : x.action = (actionOf s.options.enableCorrelation (groupAt g).items p.names).1 :=
      congrArg Prod.fst h.action
    rw [h.tally, haction]
    exact foretells_actionOf hg _ p.number p.names
  bare := by
    rw [h.bareGroupWarning_mem_iff]
    simp [Group.summary]

/-- Thread groups with their summaries, numbered from `n` on. -/
def withSummaries (n : Nat) (gs : List Site) : List (Site × Summary) :=
  gs.mapIdx fun index g => (g, (groupAt g).summary (n + index))

theorem withSummaries_cons (n : Nat) (g : Site) (gs : List Site) :
    withSummaries n (g :: gs) = (g, (groupAt g).summary n) :: withSummaries (n + 1) gs := by
  simp only [withSummaries, List.mapIdx_cons, Nat.add_zero, List.cons.injEq, true_and]
  congr 1
  funext index g
  rw [Nat.add_right_comm, Nat.add_assoc]

/-- The reports of a run are what the summaries of the finished thread groups foretell, in
order. -/
theorem Runs.reportsAs {root : Element} {s : Setting} {p : Progress} {groups : List Group}
    {gs : List Site} {σ τ : Session} {reports : List GroupReport} {problem : Option Problem}
    (h : Runs s p groups σ reports problem τ) (hgroups : groups = gs.map groupAt)
    (hgs : ∀ g ∈ gs, g ∈ sites root) :
    List.Forall₂ (fun gd r => ReportsAs root s.options.enableCorrelation gd.1 gd.2 r)
        ((withSummaries p.number gs).take reports.length) reports
      ∧ (problem = none → reports.length = gs.length) := by
  induction h generalizing gs with
  | done =>
    obtain rfl := List.map_eq_nil_iff.mp hgroups.symm
    exact ⟨.nil, fun _ => rfl⟩
  | stopped stop => exact ⟨.nil, nofun⟩
  | @next p q g groups r reports problem σ τ υ first others ih =>
    obtain ⟨site, rest, rfl, rfl, rfl⟩ := List.map_eq_cons_iff.mp hgroups.symm
    obtain ⟨x, hx⟩ := converted_of_ok first
    obtain ⟨hreports, hlength⟩ := ih rfl fun g hg => hgs g (.tail _ hg)
    rw [withSummaries_cons, List.length_cons, List.take_succ_cons]
    rw [hx.number] at hreports
    exact ⟨.cons (hx.reportsAs (hgs site (.head _))) hreports,
      fun hnone => congrArg (· + 1) (hlength hnone)⟩

/-- The summaries of a plan say what its conversion does, thread group by thread group in document
order. Whatever names have been given, the counts of a summary foretell the tally of the action of
the thread group; and each report of a run, whatever the files are, has the name of the summary, the
tally that it foretells, and the warning about a missing container if and only if the summary says
that there is none. A run that is not stopped reports all thread groups. -/
theorem summaries_foretell_conversion (root : Element) (s : Setting) (σ : Session) :
    List.Forall₂ (fun g d => ∀ names, Foretells root s.options.enableCorrelation g d.counts
        (actionOf s.options.enableCorrelation (g.container.map itemsOf) names).1.tally)
      (sitesOf root threadGroup) (summaries root)
    ∧ List.Forall₂ (fun gd r => ReportsAs root s.options.enableCorrelation gd.1 gd.2 r)
        (((sitesOf root threadGroup).zip (summaries root)).take
          ((convertGroups s {} (Plan.groups root)).run σ).1.1.length)
        ((convertGroups s {} (Plan.groups root)).run σ).1.1
    ∧ (((convertGroups s {} (Plan.groups root)).run σ).1.2 = none →
        ((convertGroups s {} (Plan.groups root)).run σ).1.1.length = (summaries root).length) := by
  have hsites : ∀ g ∈ sitesOf root threadGroup, g ∈ sites root := fun g hg =>
    (List.mem_filter.mp hg).1
  have hgroups : Plan.groups root = (sitesOf root threadGroup).map groupAt := rfl
  have hsummaries : summaries root
      = (sitesOf root threadGroup).mapIdx fun index g => (groupAt g).summary (index + 1) := by
    refine List.ext_getElem? fun index => ?_
    simp [summaries, hgroups, Function.comp_def]
  -- the summaries are numbered from one, as the run numbers its thread groups
  have hzip : (sitesOf root threadGroup).zip (summaries root)
      = withSummaries 1 (sitesOf root threadGroup) := by
    rw [hsummaries, withSummaries]
    refine List.ext_getElem (by simp) fun index h _ => ?_
    simp [Nat.add_comm]
  obtain ⟨hreports, hlength⟩ :=
    (runs_convertGroups s {} (Plan.groups root) σ).reportsAs hgroups hsites
  refine ⟨?_, ?_, ?_⟩
  · rw [hsummaries, List.forall₂_iff_get]
    refine ⟨by simp, fun index h h' names => ?_⟩
    simp only [List.get_eq_getElem, List.getElem_mapIdx]
    exact foretells_actionOf (hsites _ (List.getElem_mem h)) _ _ names
  · rw [hzip]
    exact hreports
  · intro hnone
    rw [hlength hnone, hsummaries, List.length_mapIdx]

end VuserScript.Conversion
