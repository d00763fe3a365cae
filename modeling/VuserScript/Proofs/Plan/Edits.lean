/-
  VuserScript.Proofs.Plan.Edits

  A document with one element exchanged. What is not below the place of the edit
  stays where it was, so an element that comes before that place keeps its
  number among those with its tag (`getElem?_sitesOf_editAt`). Elements that
  come behind it may not: what is put in can hold elements with the same tag.
-/
import VuserScript.Proofs.Plan.Containers

namespace VuserScript.Plan

open Xml (Element)

/-! ## Editing an element by child numbers -/

/-- An element with an edit at the place that child numbers lead to, if there is such a place. -/
def editAt (edit : Element → Element) : List Nat → Element → Element
  | [], e => edit e
  | n :: rest, e => { e with children := e.children.modify n (editAt edit rest) }

variable (edit : Element → Element)

theorem children_editAt_cons (n : Nat) (rest : List Nat) (e : Element) :
    (editAt edit (n :: rest) e).children = e.children.modify n (editAt edit rest) := rfl

theorem editAt_append (place rest : List Nat) (e : Element) :
    editAt edit (place ++ rest) e = editAt (editAt edit rest) place e := by
  induction place generalizing e with
  | nil => rfl
  | cons n place ih =>
    have hinner : editAt edit (place ++ rest) = editAt (editAt edit rest) place := funext ih
    rw [List.cons_append, editAt, hinner]
    rfl

/-- An element above the edit is edited itself, at the rest of the way. -/
theorem elementAt?_editAt_append (above rest : List Nat) (e : Element) :
    elementAt? (editAt edit (above ++ rest) e) above
      = (elementAt? e above).map (editAt edit rest) := by
  induction above generalizing e with
  | nil => rfl
  | cons n above ih =>
    rw [List.cons_append, elementAt?_cons, elementAt?_cons, children_editAt_cons,
      List.getElem?_modify_eq, Option.map_bind, Option.map_eq_map, Option.bind_map]
    exact Option.bind_congr fun child _ => ih child

/-! ## Outlines -/

/-- Where a site is and with which tag, but not what its container is. -/
def Site.outline (s : Site) : List Nat × String :=
  (s.place, s.element.tag)

/-- Siblings put one behind another have the outlines of both, though the last of the first ones
may get another container. -/
theorem outline_sitesAmong_append (parent : List Nat) (n : Nat) (a b : List Element) :
    (sitesAmong parent n (a ++ b)).map Site.outline
      = (sitesAmong parent n a).map Site.outline
        ++ (sitesAmong parent (n + a.length) b).map Site.outline := by
  induction a generalizing n with
  | nil => rfl
  | cons e a ih =>
    have hlength : n + 1 + a.length = n + (e :: a).length := by
      rw [List.length_cons]
      omega
    simp only [List.cons_append, sitesAmong, List.map_cons, List.map_append, ih, hlength,
      List.append_assoc]
    rfl

theorem outline_sitesAmong_cons (parent : List Nat) (n : Nat) (e : Element) (l : List Element) :
    (sitesAmong parent n (e :: l)).map Site.outline
      = (parent ++ [n], e.tag) :: ((sitesBelow (parent ++ [n]) e).map Site.outline
        ++ (sitesAmong parent (n + 1) l).map Site.outline) := by
  rw [sitesAmong, List.cons_append, List.map_cons, List.map_append]
  rfl

/-- Two lists of outlines agree from the start to an outline at least. -/
def AgreeUpTo (last : List Nat × String) (outlines others : List (List Nat × String)) : Prop :=
  ∃ common rest rest', outlines = common ++ rest ∧ others = common ++ rest' ∧ last ∈ common

theorem AgreeUpTo.append_left {last : List Nat × String}
    {outlines others : List (List Nat × String)} (h : AgreeUpTo last outlines others)
    (before behind : List (List Nat × String)) :
    AgreeUpTo last (before ++ (outlines ++ behind)) (before ++ (others ++ behind)) := by
  obtain ⟨common, rest, rest', rfl, rfl, hlast⟩ := h
  refine ⟨before ++ common, rest ++ behind, rest' ++ behind, ?_, ?_, List.mem_append_right _ hlast⟩
    <;> simp only [List.append_assoc]

/-- Agreeing up to an outline, two lists have it at the same number among those of a kind. -/
theorem AgreeUpTo.getElem?_filter {last : List Nat × String}
    {outlines others : List (List Nat × String)} (h : AgreeUpTo last outlines others)
    (hnodup : outlines.Nodup) {p : List Nat × String → Bool} {k : Nat}
    (hk : (outlines.filter p)[k]? = some last) : (others.filter p)[k]? = some last := by
  obtain ⟨common, rest, rest', rfl, rfl, hlast⟩ := h
  rw [List.filter_append] at hk ⊢
  by_cases hlt : k < (common.filter p).length
  · rw [List.getElem?_append_left hlt] at hk ⊢
    exact hk
  · -- it is in what both have in common, and so not behind that as well
    rw [List.getElem?_append_right (Nat.le_of_not_lt hlt)] at hk
    have hbehind : last ∈ rest := (List.mem_filter.mp (List.mem_of_getElem? hk)).1
    exact absurd hbehind (List.disjoint_of_nodup_append hnodup hlast)

/-- An edit behind an element, or below what is directly behind it, changes no outline up to that
of the element. -/
theorem agreeUpTo_sitesBelow {above : List Nat} {m : Nat} (rest : List Nat) {target : Element} :
    ∀ (place : List Nat) {e : Element}, elementAt? e (above ++ [m]) = some target →
      AgreeUpTo (place ++ above ++ [m], target.tag) ((sitesBelow place e).map Site.outline)
        ((sitesBelow place (editAt edit (above ++ (m + 1) :: rest) e)).map Site.outline) := by
  induction above with
  | nil =>
    intro place e htarget
    rw [elementAt?_child, elementAt?_nil, Option.bind_some] at htarget
    -- the siblings up to the element are what both have in common
    have hmem : (place ++ [] ++ [m], target.tag)
        ∈ (sitesAmong place 0 (e.children.take (m + 1))).map Site.outline := by
      have hchild : (e.children.take (m + 1))[m]? = some target := by
        rwa [List.getElem?_take_of_lt (Nat.lt_succ_self m)]
      refine List.mem_map.mpr
        ⟨_, mem_sitesAmong_iff.mpr ⟨m, target, hchild, .inl rfl⟩, ?_⟩
      simp [Site.outline]
    have hedit : (editAt edit ([] ++ (m + 1) :: rest) e).children = e.children.take (m + 1)
        ++ (e.children.drop (m + 1)).modifyHead (editAt edit rest) :=
      List.modify_eq_take_drop ..
    rw [sitesBelow_eq, sitesBelow_eq, hedit, outline_sitesAmong_append]
    nth_rewrite 1 [← List.take_append_drop (m + 1) e.children]
    rw [outline_sitesAmong_append]
    exact ⟨_, _, _, rfl, rfl, hmem⟩
  | cons j above ih =>
    -- the siblings around the child on the way are shared; in the child the way is shorter by one
    intro place e htarget
    rw [List.cons_append, elementAt?_cons] at htarget
    obtain ⟨child, hchild, htarget⟩ := Option.bind_eq_some_iff.mp htarget
    obtain ⟨hlt, rfl⟩ := List.getElem?_eq_some_iff.mp hchild
    have hedit : (editAt edit (j :: above ++ (m + 1) :: rest) e).children = e.children.take j
        ++ editAt edit (above ++ (m + 1) :: rest) e.children[j] :: e.children.drop (j + 1) :=
      List.modify_eq_take_cons_drop hlt
    have hchildren : e.children
        = e.children.take j ++ e.children[j] :: e.children.drop (j + 1) := by
      rw [← List.drop_eq_getElem_cons hlt, List.take_append_drop]
    have htag : (editAt edit (above ++ (m + 1) :: rest) e.children[j]).tag = e.children[j].tag := by
      cases above <;> rfl
    have hinner := ih (place ++ [j]) htarget
    rw [sitesBelow_eq, sitesBelow_eq, hedit, outline_sitesAmong_append, outline_sitesAmong_cons,
      htag]
    nth_rewrite 1 [hchildren]
    rw [outline_sitesAmong_append, outline_sitesAmong_cons]
    have hlength : 0 + (e.children.take j).length = j := by
      rw [List.length_take, Nat.zero_add]
      omega
    rw [hlength]
    have hall := hinner.append_left
      ((sitesAmong place 0 (e.children.take j)).map Site.outline
        ++ [(place ++ [j], e.children[j].tag)])
      ((sitesAmong place (j + 1) (e.children.drop (j + 1))).map Site.outline)
    simpa only [List.append_assoc, List.singleton_append] using hall

theorem nodup_outlines (root : Element) : ((sites root).map Site.outline).Nodup := by
  have hplaces : ((sites root).map Site.outline).map Prod.fst = (sites root).map Site.place := by
    rw [List.map_map]
    rfl
  exact .of_map Prod.fst (hplaces ▸ nodup_places root)

theorem outline_sitesOf (root : Element) (tag : String) :
    (sitesOf root tag).map Site.outline
      = ((sites root).map Site.outline).filter fun outline => outline.2 == tag := by
  rw [sitesOf, List.filter_map]
  rfl

/-- An edit behind an element, or below what is directly behind it, leaves the element its number
among those with its tag. -/
theorem getElem?_sitesOf_editAt {root : Element} {tag : String} {k m : Nat} {above : List Nat}
    {s : Site} (hs : (sitesOf root tag)[k]? = some s) (hplace : s.place = above ++ [m])
    (rest : List Nat) :
    ∃ t, (sitesOf (editAt edit (above ++ (m + 1) :: rest) root) tag)[k]? = some t
      ∧ t.place = s.place := by
  have hmem : s ∈ sites root := (List.mem_filter.mp (List.mem_of_getElem? hs)).1
  have htarget : elementAt? root (above ++ [m]) = some s.element := by
    rw [← element_siteAt?, siteAt?_eq_some_iff.mpr ⟨hmem, hplace⟩, Option.map_some]
  have htag : (editAt edit (above ++ (m + 1) :: rest) root).tag = root.tag := by
    cases above <;> rfl
  have hagree : AgreeUpTo s.outline ((sites root).map Site.outline)
      ((sites (editAt edit (above ++ (m + 1) :: rest) root)).map Site.outline) := by
    have hbelow := (agreeUpTo_sitesBelow edit rest [] htarget).append_left [([], root.tag)] []
    rw [sites, sites, List.map_cons, List.map_cons, Site.outline, Site.outline, Site.outline, htag,
      hplace]
    simpa using hbelow
  have hk : ((sitesOf root tag).map Site.outline)[k]? = some s.outline := by
    rw [List.getElem?_map, hs, Option.map_some]
  rw [outline_sitesOf] at hk
  have hfound := hagree.getElem?_filter (nodup_outlines root) hk
  rw [← outline_sitesOf, List.getElem?_map, Option.map_eq_some_iff] at hfound
  obtain ⟨t, ht, houtline⟩ := hfound
  exact ⟨t, ht, congrArg Prod.fst houtline⟩

/-- What is directly behind an element is edited at the rest of the way, and the element stays. -/
theorem siteAt?_editAt {root parent e t : Element} {above : List Nat} {m : Nat}
    (hparent : elementAt? root above = some parent) (he : parent.children[m]? = some e)
    (ht : parent.children[m + 1]? = some t) (rest : List Nat) :
    siteAt? (editAt edit (above ++ (m + 1) :: rest) root) (above ++ [m])
      = some ⟨above ++ [m], e, containerAmong e [editAt edit rest t]⟩ := by
  have he' : (editAt edit ((m + 1) :: rest) parent).children[m]? = some e := by
    rw [children_editAt_cons, List.getElem?_modify_ne _ _ (Nat.succ_ne_self m), he]
  have ht' : (editAt edit ((m + 1) :: rest) parent).children[m + 1]?
      = some (editAt edit rest t) := by
    rw [children_editAt_cons, List.getElem?_modify_eq, ht]
    rfl
  have hdrop : containerAmong e ((editAt edit ((m + 1) :: rest) parent).children.drop (m + 1))
      = containerAmong e [editAt edit rest t] := by
    obtain ⟨hlt, heq⟩ := List.getElem?_eq_some_iff.mp ht'
    rw [List.drop_eq_getElem_cons hlt, heq]
    rfl
  rw [siteAt?_child, elementAt?_editAt_append, hparent, Option.map_some, Option.bind_some,
    childSite?, he', Option.map_some, hdrop]

end VuserScript.Plan
