/-
  VuserScript.Proofs.Plan.Reach

  Which elements of a document belong to a container: its children, and what
  belongs to the containers of the controllers among them. `Reached` says so
  with the places of the document alone; `visitsOf` lists what items lead to.
  The main statement is that the items of a container lead to exactly the
  samplers and controllers reached from it, in document order.
-/
import VuserScript.Plan.Item
import VuserScript.Proofs.Plan.Sites
import Mathlib.Data.List.Forall2

namespace VuserScript.Plan

open Xml (Element)

/-! ## Reaching elements -/

/-- From the container at a place, a site is reached through the containers of the controllers
`above` it, the outermost first. -/
inductive Reached (root : Element) :
    (container : List Nat) → (above : List Site) → Site → Prop where
  /-- An element of the container itself. -/
  | child {container : List Nat} {n : Nat} {s : Site} (mem : s ∈ sites root)
      (place : s.place = container ++ [n]) : Reached root container [] s
  /-- What is reached from the container of a controller in the container. -/
  | through {container inner : List Nat} {n : Nat} {above : List Site} {c s : Site}
      (mem : c ∈ sites root) (place : c.place = container ++ [n])
      (tag : c.element.tag = transactionController) (found : c.containerPlace? = some inner)
      (reached : Reached root inner above s) : Reached root container (c :: above) s

namespace Reached

variable {root : Element} {container : List Nat} {above : List Site} {s : Site}

/-- The place of what is reached has one number for each controller above it and one of its own. -/
theorem place_eq (h : Reached root container above s) :
    IsBelow container s.place ∧ s.place.length = container.length + above.length + 1 := by
  induction h with
  | child _ place =>
    rw [place]
    exact ⟨isBelow_child _ _, by simp⟩
  | @through container inner n above c s _ place _ found _ ih =>
    rw [Site.containerPlace?_of_place place] at found
    obtain ⟨_, -, rfl⟩ := Option.map_eq_some_iff.mp found
    refine ⟨(isBelow_child container (n + 1)).trans ih.1, ?_⟩
    rw [ih.2]
    simp only [List.length_append, List.length_cons, List.length_nil]
    omega

theorem isBelow (h : Reached root container above s) : IsBelow container s.place :=
  h.place_eq.1

/-- Something is reached only from where an element is. -/
theorem exists_container_site (h : Reached root container above s) :
    ∃ t ∈ sites root, t.place = container := by
  cases h with
  | child mem place => exact exists_parent mem place
  | through mem place _ _ _ => exact exists_parent mem place

/-- Whether a controller is above a site can be read off its place. -/
theorem above_eq_nil_iff (h : Reached root container above s) :
    above = [] ↔ s.place.length = container.length + 1 := by
  rw [h.place_eq.2, ← List.length_eq_zero_iff]
  omega

/-- What is reached below a child of the container is reached through the controller before that
child, whose container the child is. -/
theorem exists_controller {n : Nat} (h : Reached root container above s)
    (hs : IsBelow (container ++ [n]) s.place) :
    ∃ c more m, above = c :: more ∧ n = m + 1 ∧ c ∈ sites root ∧ c.place = container ++ [m]
      ∧ c.element.tag = transactionController ∧ c.container.isSome
      ∧ Reached root (container ++ [n]) more s := by
  cases h with
  | child mem place =>
    have := hs.length_lt
    rw [place] at this
    simp at this
  | @through _ inner m more c _ mem place tag found reached =>
    rw [Site.containerPlace?_of_place place] at found
    obtain ⟨t, ht, rfl⟩ := Option.map_eq_some_iff.mp found
    obtain ⟨k, rest, hk⟩ := reached.isBelow
    obtain ⟨j, rest', hj⟩ := hs
    have heq : container ++ (m + 1) :: k :: rest = container ++ n :: j :: rest' := by
      simpa using hk.symm.trans hj
    obtain rfl : m + 1 = n := (child_unique container heq).1
    exact ⟨c, more, m, rfl, rfl, mem, place, tag, by simp [ht], reached⟩

end Reached

/-- A sampler or a controller that is reached from the container at a place. -/
def IsMet (root : Element) (container : List Nat) (s : Site) : Prop :=
  (s.element.tag = httpSampler ∨ s.element.tag = transactionController)
    ∧ ∃ above, Reached root container above s

open Classical in
/-- The samplers and controllers reached from the container at a place, in document order. -/
noncomputable def metSites (root : Element) (container : List Nat) : List Site :=
  (sites root).filter fun s => IsMet root container s

open Classical in
/-- The samplers reached from the container at a place, in document order. -/
noncomputable def reachedSamplers (root : Element) (container : List Nat) : List Site :=
  (sites root).filter fun s =>
    s.element.tag = httpSampler ∧ ∃ above, Reached root container above s

open Classical in
/-- The elements that get a transaction, in document order: the controllers that are reached from
the container at a place, and the samplers reached below none of them. -/
noncomputable def scopeOwners (root : Element) (container : List Nat) : List Site :=
  (sites root).filter fun s => ∃ above, Reached root container above s
    ∧ (s.element.tag = transactionController ∨ s.element.tag = httpSampler ∧ above = [])

open Classical in
/-- The samplers reached from the container at a place below no controller, in document order. -/
noncomputable def loneSamplers (root : Element) (container : List Nat) : List Site :=
  (sites root).filter fun s => s.element.tag = httpSampler ∧ Reached root container [] s

/-- The test elements in the container of a site. -/
def Site.parts (s : Site) : List Element :=
  (s.container.map testElements).getD []

/-! ## What items lead to -/

/-- A sampler or a controller that items lead to. -/
structure Visit where
  /-- The controllers above it, the outermost first. -/
  above : List Element
  element : Element
  isSampler : Bool
  /-- For a sampler, the test elements of its container. -/
  parts : List Element
  /-- Whether it is a controller without a container. -/
  isBare : Bool

/-- What is below a controller, seen from the container of the controller. -/
def Visit.under (controller : Element) (v : Visit) : Visit :=
  { v with above := controller :: v.above }

mutual

/-- The samplers and controllers that an item leads to, in order. -/
def visitsOfItem : Item → List Visit
  | .request sampler parts => [⟨[], sampler, true, parts, false⟩]
  | .transaction controller items =>
    ⟨[], controller, false, [], false⟩ :: (visitsOf items).map (Visit.under controller)
  | .bareTransaction controller => [⟨[], controller, false, [], true⟩]
  | .unsupported _ => []

/-- The samplers and controllers that items lead to, in order. -/
def visitsOf : List Item → List Visit
  | [] => []
  | item :: items => visitsOfItem item ++ visitsOf items

end

@[simp] theorem visitsOf_nil : visitsOf [] = [] := rfl

@[simp] theorem visitsOf_cons (item : Item) (items : List Item) :
    visitsOf (item :: items) = visitsOfItem item ++ visitsOf items := rfl

/-- The visit to an element itself, by the siblings that follow it. -/
def ownVisit (e : Element) (siblings : List Element) : List Visit :=
  if e.tag = httpSampler then
    [⟨[], e, true, ((containerAmong e siblings).map testElements).getD [], false⟩]
  else if e.tag = transactionController then
    [⟨[], e, false, [], (containerAmong e siblings).isNone⟩]
  else []

/-- The visits below an element, by the siblings that follow it. -/
def innerVisits (e : Element) (siblings : List Element) : List Visit :=
  if e.tag = transactionController then
    ((containerAmong e siblings).map fun t => (visitsOf (itemsOf t)).map (Visit.under e)).getD []
  else []

theorem isHashTree_eq_false_of_met {e : Element}
    (h : e.tag = httpSampler ∨ e.tag = transactionController) : isHashTree e = false := by
  rcases h with h | h <;> simp [isHashTree, hashTree, h, httpSampler, transactionController]

theorem ownVisit_of_isHashTree {e : Element} (h : isHashTree e = true) (siblings : List Element) :
    ownVisit e siblings = [] := by
  have hs : e.tag ≠ httpSampler := fun ht => by simp [isHashTree_eq_false_of_met (.inl ht)] at h
  have hc : e.tag ≠ transactionController := fun ht => by
    simp [isHashTree_eq_false_of_met (.inr ht)] at h
  simp [ownVisit, hs, hc]

theorem innerVisits_eq_nil {e : Element} {siblings : List Element}
    (h : containerAmong e siblings = none) : innerVisits e siblings = [] := by
  simp [innerVisits, h]

/-- The items of siblings lead to the first of them, to what is below it, and to what the items
of the others lead to. -/
theorem visitsOf_itemsAmong_cons (e : Element) (rest : List Element) :
    visitsOf (itemsAmong (e :: rest))
      = ownVisit e rest ++ innerVisits e rest ++ visitsOf (itemsAmong rest) := by
  by_cases htree : isHashTree e = true
  · have hnone : containerAmong e rest = none := by cases rest <;> simp [containerAmong, htree]
    rw [ownVisit_of_isHashTree htree, innerVisits_eq_nil hnone]
    cases rest <;> simp [itemsAmong, htree]
  · simp only [Bool.not_eq_true] at htree
    have hdiff : transactionController ≠ httpSampler := by decide
    by_cases hs : e.tag = httpSampler
    · cases rest with
      | nil => simp [itemsAmong, htree, hs, visitsOfItem, ownVisit, innerVisits, containerAmong,
          hdiff.symm]
      | cons next rest =>
        cases hn : isHashTree next <;>
          simp [itemsAmong, htree, hs, hn, visitsOfItem, ownVisit, innerVisits, containerAmong,
            hdiff.symm]
    · by_cases hc : e.tag = transactionController
      · cases rest with
        | nil => simp [itemsAmong, htree, hc, visitsOfItem, ownVisit, innerVisits, containerAmong,
            hdiff]
        | cons next rest =>
          cases hn : isHashTree next <;>
            simp [itemsAmong, htree, hc, hn, visitsOfItem, ownVisit, innerVisits, containerAmong,
              hdiff]
      · cases rest <;>
          simp [itemsAmong, htree, hs, hc, visitsOfItem, ownVisit, innerVisits]

/-! ## Items lead to what is reached -/

/-- A visit is one to a site reached from the container at a place. -/
structure Visit.IsTo (root : Element) (container : List Nat) (v : Visit) (s : Site) : Prop where
  reached : ∃ above, Reached root container above s ∧ v.above = above.map Site.element
  element : v.element = s.element
  isSampler : v.isSampler = true ↔ s.element.tag = httpSampler
  parts : v.isSampler = true → v.parts = s.parts
  isBare : v.isBare = true ↔ s.element.tag = transactionController ∧ s.container = none

theorem Visit.IsTo.under {root : Element} {container inner : List Nat} {n : Nat} {c s : Site}
    {v : Visit} (mem : c ∈ sites root) (place : c.place = container ++ [n])
    (tag : c.element.tag = transactionController) (found : c.containerPlace? = some inner)
    (h : v.IsTo root inner s) : (v.under c.element).IsTo root container s := by
  obtain ⟨above, hreached, habove⟩ := h.reached
  exact ⟨⟨c :: above, .through mem place tag found hreached, by simp [Visit.under, habove]⟩,
    h.element, h.isSampler, h.parts, h.isBare⟩

/-- The site before the sibling with number `n`, if there is one. -/
def IsBefore (root : Element) (container : List Nat) (n : Nat) (siblings : List Element) :
    Option Site → Prop
  | none => n = 0
  | some c => c ∈ sites root ∧ c.container = containerAmong c.element siblings
      ∧ ∃ m, n = m + 1 ∧ c.place = container ++ [m]

/-- The visits below the site before some siblings. -/
def visitsBefore (siblings : List Element) : Option Site → List Visit
  | none => []
  | some c => innerVisits c.element siblings

theorem containerAmong_cons_eq (e next : Element) (rest : List Element) :
    containerAmong e (next :: rest) = some next ∨ containerAmong e (next :: rest) = none := by
  cases h : isHashTree next && !isHashTree e <;> simp [containerAmong, h]

/-- The only way below a child is through the controller before it, if the child is its
container. -/
theorem IsBefore.reached_below {root : Element} {place : List Nat} {n : Nat} {e : Element}
    {rest : List Element} {prev : Option Site} {above : List Site} {s : Site}
    (hprev : IsBefore root place n (e :: rest) prev) (h : Reached root place above s)
    (hs : IsBelow (place ++ [n]) s.place) :
    ∃ c more, prev = some c ∧ above = c :: more ∧ c.element.tag = transactionController
      ∧ containerAmong c.element (e :: rest) = some e ∧ Reached root (place ++ [n]) more s := by
  obtain ⟨c, more, m, rfl, rfl, hmem, hplace, htag, hsome, hreached⟩ := h.exists_controller hs
  cases prev with
  | none => exact absurd hprev (Nat.succ_ne_zero m)
  | some d =>
    obtain ⟨hd, hcontainer, k, hk, hdplace⟩ := hprev
    obtain rfl : m = k := by omega
    obtain rfl : d = c := site_eq_of_place_eq hd hmem (hdplace.trans hplace.symm)
    refine ⟨d, more, rfl, rfl, htag, ?_, hreached⟩
    rcases containerAmong_cons_eq d.element e rest with h | h
    · exact h
    · simp [hcontainer, h] at hsome

open Classical in
/-- What is met below a child is what the items of the controller before it lead to. -/
theorem visitsBefore_isTo {root : Element} {place : List Nat} {n : Nat} {e : Element}
    {rest : List Element} {prev : Option Site} (hprev : IsBefore root place n (e :: rest) prev)
    (ih : List.Forall₂ (Visit.IsTo root (place ++ [n])) (visitsOf (itemsOf e))
      ((sitesBelow (place ++ [n]) e).filter fun s => IsMet root (place ++ [n]) s)) :
    List.Forall₂ (Visit.IsTo root place) (visitsBefore (e :: rest) prev)
      ((sitesBelow (place ++ [n]) e).filter fun s => IsMet root place s) := by
  by_cases hc : ∃ c, prev = some c ∧ c.element.tag = transactionController
      ∧ containerAmong c.element (e :: rest) = some e
  · obtain ⟨c, rfl, htag, hfound⟩ := hc
    -- the child is the container of the controller before it: both ways in reach the same
    obtain ⟨hmem, hcontainer, m, rfl, hplace⟩ := hprev
    have hinner : c.containerPlace? = some (place ++ [m + 1]) := by
      rw [Site.containerPlace?_of_place hplace, hcontainer, hfound]
      rfl
    have hsame : ∀ s ∈ sitesBelow (place ++ [m + 1]) e,
        decide (IsMet root place s) = decide (IsMet root (place ++ [m + 1]) s) := by
      intro s hs
      refine decide_eq_decide.mpr (and_congr_right fun _ => ⟨?_, ?_⟩)
      · rintro ⟨above, h⟩
        obtain ⟨_, more, _, -, -, -, -, -, -, hreached⟩ :=
          h.exists_controller (isBelow_of_mem_sitesBelow hs)
        exact ⟨more, hreached⟩
      · rintro ⟨above, h⟩
        exact ⟨c :: above, .through hmem hplace htag hinner h⟩
    rw [List.filter_congr hsame]
    simp only [visitsBefore, innerVisits, htag, if_true, hfound, Option.map_some, Option.getD_some]
    rw [List.forall₂_map_left_iff]
    exact ih.imp fun v s h => h.under hmem hplace htag hinner
  · have hnone : visitsBefore (e :: rest) prev = [] := by
      cases prev with
      | none => rfl
      | some c =>
        rcases containerAmong_cons_eq c.element e rest with h | h
        · have : c.element.tag ≠ transactionController := fun ht => hc ⟨c, rfl, ht, h⟩
          simp [visitsBefore, innerVisits, this]
        · exact innerVisits_eq_nil h
    -- no way leads in: a way below the child would have led through such a controller
    have hempty : (sitesBelow (place ++ [n]) e).filter (fun s => IsMet root place s) = [] := by
      rw [List.filter_eq_nil_iff]
      intro s hs hmet
      obtain ⟨-, above, h⟩ := of_decide_eq_true hmet
      obtain ⟨c, more, hprev, -, htag, hfound, -⟩ :=
        hprev.reached_below h (isBelow_of_mem_sitesBelow hs)
      exact hc ⟨c, hprev, htag, hfound⟩
    rw [hnone, hempty]
    exact .nil

open Classical in
/-- The visit to a child of the container is one to its site. -/
theorem ownVisit_isTo {root : Element} {place : List Nat} {n : Nat} {e : Element}
    {rest : List Element} (h : (⟨place ++ [n], e, containerAmong e rest⟩ : Site) ∈ sites root) :
    List.Forall₂ (Visit.IsTo root place) (ownVisit e rest)
      ([⟨place ++ [n], e, containerAmong e rest⟩].filter fun s => IsMet root place s) := by
  have hreached : Reached root place [] ⟨place ++ [n], e, containerAmong e rest⟩ := .child h rfl
  have hdiff : transactionController ≠ httpSampler := by decide
  unfold ownVisit
  split
  · next hs =>
    rw [List.filter_cons_of_pos (by simpa using ⟨.inl hs, [], hreached⟩)]
    exact .cons
      ⟨⟨[], hreached, rfl⟩, rfl, by simp [hs], fun _ => rfl, by simp [hs, hdiff.symm]⟩ .nil
  · next hs =>
    split
    · next hc =>
      rw [List.filter_cons_of_pos (by simpa using ⟨.inr hc, [], hreached⟩)]
      exact .cons
        ⟨⟨[], hreached, rfl⟩, rfl, by simp [hs], by simp, by simp [hc]⟩ .nil
    · next hc =>
      rw [List.filter_cons_of_neg (by simp [IsMet, hs, hc])]
      exact .nil

open Classical in
mutual

theorem visits_isTo_below (root : Element) :
    ∀ (e : Element) (place : List Nat), (∀ s ∈ sitesBelow place e, s ∈ sites root) →
      List.Forall₂ (Visit.IsTo root place) (visitsOf (itemsOf e))
        ((sitesBelow place e).filter fun s => IsMet root place s)
  | ⟨_, _, _, children, _⟩, place, hsub =>
    visits_isTo_among root place children 0 none hsub rfl

/-- The items of siblings are followed together with the items of the container that the
siblings start with, if it belongs to the site before them. -/
theorem visits_isTo_among (root : Element) (place : List Nat) :
    ∀ (l : List Element) (n : Nat) (prev : Option Site),
      (∀ s ∈ sitesAmong place n l, s ∈ sites root) → IsBefore root place n l prev →
      List.Forall₂ (Visit.IsTo root place) (visitsBefore l prev ++ visitsOf (itemsAmong l))
        ((sitesAmong place n l).filter fun s => IsMet root place s)
  | [], n, prev, _, _ => by
    have : visitsBefore [] prev = [] := by
      cases prev with
      | none => rfl
      | some c => exact innerVisits_eq_nil rfl
    rw [this]
    exact .nil
  | e :: rest, n, prev, hsub, hprev => by
    have hown : (⟨place ++ [n], e, containerAmong e rest⟩ : Site) ∈ sites root :=
      hsub _ (by simp [sitesAmong])
    have hbelow := visitsBefore_isTo hprev (visits_isTo_below root e (place ++ [n])
      fun s hs => hsub s (by simp [sitesAmong, hs]))
    have hrest := visits_isTo_among root place rest (n + 1)
      (some ⟨place ++ [n], e, containerAmong e rest⟩)
      (fun s hs => hsub s (by simp [sitesAmong, hs]))
      ⟨hown, rfl, n, rfl, rfl⟩
    have hsites : sitesAmong place n (e :: rest)
        = [⟨place ++ [n], e, containerAmong e rest⟩] ++ sitesBelow (place ++ [n]) e
          ++ sitesAmong place (n + 1) rest := rfl
    -- a child is visited itself or is a container, never both, so the order of the two is free
    have hswap : visitsBefore (e :: rest) prev ++ ownVisit e rest
        = ownVisit e rest ++ visitsBefore (e :: rest) prev := by
      by_cases htree : isHashTree e = true
      · rw [ownVisit_of_isHashTree htree, List.append_nil, List.nil_append]
      · have : visitsBefore (e :: rest) prev = [] := by
          cases prev with
          | none => rfl
          | some c => exact innerVisits_eq_nil (by simp [containerAmong, htree])
        rw [this, List.append_nil, List.nil_append]
    rw [visitsOf_itemsAmong_cons, ← List.append_assoc, ← List.append_assoc, hswap, hsites,
      List.filter_append, List.filter_append, List.append_assoc _ (innerVisits e rest)]
    exact List.rel_append (List.rel_append (ownVisit_isTo hown) hbelow) hrest

end

open Classical in
/-- The items of an element lead to exactly the samplers and controllers reached from its place,
in document order. -/
theorem visits_isTo_metSites {root : Element} {s : Site} (h : s ∈ sites root) :
    List.Forall₂ (Visit.IsTo root s.place) (visitsOf (itemsOf s.element))
      (metSites root s.place) := by
  unfold metSites
  -- what is met lies below the place, so the subtree of the place holds all of it
  rw [(holdsAllBelow_sites h).filter_eq _ fun t ht => by
    obtain ⟨-, above, hreached⟩ := of_decide_eq_true ht
    exact hreached.isBelow]
  exact visits_isTo_below root s.element s.place fun t ht => mem_sites_of_mem_sitesBelow h ht

open Classical in
/-- The items of the element at a place, if there is one, lead to what is reached from it. -/
theorem visits_isTo_metSites_siteAt? (root : Element) (place : List Nat) :
    List.Forall₂ (Visit.IsTo root place)
      (visitsOf (((siteAt? root place).map fun s => itemsOf s.element).getD []))
      (metSites root place) := by
  cases h : siteAt? root place with
  | some s =>
    obtain ⟨hs, rfl⟩ := siteAt?_eq_some_iff.mp h
    exact visits_isTo_metSites hs
  | none =>
    -- nothing is reached from a place where no element is
    have hempty : metSites root place = [] := by
      unfold metSites
      rw [List.filter_eq_nil_iff]
      intro s _ hmet
      obtain ⟨-, above, hreached⟩ := of_decide_eq_true hmet
      obtain ⟨t, ht, htp⟩ := hreached.exists_container_site
      rw [siteAt?_eq_some_iff.mpr ⟨ht, htp⟩] at h
      cases h
    rw [hempty]
    exact .nil

theorem metSites_filter_sampler (root : Element) (place : List Nat) :
    (metSites root place).filter (·.element.tag = httpSampler) = reachedSamplers root place := by
  unfold metSites reachedSamplers
  rw [List.filter_filter]
  refine List.filter_congr fun s _ => ?_
  rw [Bool.eq_iff_iff]
  simp only [Bool.and_eq_true, decide_eq_true_eq]
  unfold IsMet
  tauto

theorem metSites_filter_lone (root : Element) (place : List Nat) :
    (metSites root place).filter
        (fun s => s.element.tag = httpSampler ∧ s.place.length = place.length + 1)
      = loneSamplers root place := by
  unfold metSites loneSamplers
  rw [List.filter_filter]
  refine List.filter_congr fun s _ => ?_
  rw [Bool.eq_iff_iff]
  simp only [Bool.and_eq_true, decide_eq_true_eq]
  unfold IsMet
  constructor
  · rintro ⟨⟨htag, hlength⟩, -, above, h⟩
    obtain rfl := h.above_eq_nil_iff.mpr hlength
    exact ⟨htag, h⟩
  · rintro ⟨htag, h⟩
    exact ⟨⟨htag, h.above_eq_nil_iff.mp rfl⟩, .inl htag, [], h⟩

theorem metSites_filter_owner (root : Element) (place : List Nat) :
    (metSites root place).filter
        (fun s => s.element.tag = httpSampler → s.place.length = place.length + 1)
      = scopeOwners root place := by
  unfold metSites scopeOwners
  rw [List.filter_filter]
  refine List.filter_congr fun s _ => ?_
  have hdiff : transactionController ≠ httpSampler := by decide
  rw [Bool.eq_iff_iff]
  simp only [Bool.and_eq_true, decide_eq_true_eq]
  unfold IsMet
  constructor
  · rintro ⟨hlength, htag, above, h⟩
    exact ⟨above, h, htag.symm.imp_right fun ht => ⟨ht, h.above_eq_nil_iff.mpr (hlength ht)⟩⟩
  · rintro ⟨above, h, htag⟩
    refine ⟨fun ht => ?_, (htag.imp_right And.left).symm, above, h⟩
    rcases htag with hc | ⟨-, hnil⟩
    · exact absurd (hc.symm.trans ht) hdiff
    · exact h.above_eq_nil_iff.mp hnil

end VuserScript.Plan
