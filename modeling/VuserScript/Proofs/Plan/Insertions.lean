/-
  VuserScript.Proofs.Plan.Insertions

  Elements that no walk follows. Following the items of a container passes over
  the elements that have no place in a script, so it depends on the others alone
  (`kept`). An element of another tag can be put into a container together with
  a `hashTree` of its own, and neither is seen: not from that container, and not
  from any container whose walk comes there.
-/
import VuserScript.Proofs.Plan.Counting
import VuserScript.Proofs.Plan.Edits

namespace VuserScript.Plan

open Xml (Element)

/-! ## Items that are followed -/

mutual

/-- An item without the unsupported elements in it, if it is not one itself. -/
def keptOfItem : Item → List Item
  | .request sampler parts => [.request sampler parts]
  | .transaction controller items => [.transaction controller (kept items)]
  | .bareTransaction controller => [.bareTransaction controller]
  | .unsupported _ => []

/-- Items without the unsupported elements among them, at every depth. -/
def kept : List Item → List Item
  | [] => []
  | item :: items => keptOfItem item ++ kept items

end

theorem visitsOf_append (a b : List Item) : visitsOf (a ++ b) = visitsOf a ++ visitsOf b := by
  induction a with
  | nil => rfl
  | cons item a ih => rw [List.cons_append, visitsOf_cons, visitsOf_cons, ih, List.append_assoc]

mutual

theorem visitsOf_keptOfItem : ∀ item : Item, visitsOf (keptOfItem item) = visitsOfItem item
  | .request sampler parts => rfl
  | .transaction controller items => by
    rw [keptOfItem, visitsOf_cons, visitsOf_nil, List.append_nil, visitsOfItem, visitsOf_kept items,
      visitsOfItem]
  | .bareTransaction controller => rfl
  | .unsupported tag => rfl

/-- The items that are kept lead to all that the items lead to. -/
theorem visitsOf_kept : ∀ items : List Item, visitsOf (kept items) = visitsOf items
  | [] => rfl
  | item :: items => by
    rw [kept, visitsOf_append, visitsOf_keptOfItem item, visitsOf_kept items, visitsOf_cons]

end

/-- The items kept of an element, by its container. -/
def keptOf (e : Element) (container : Option Element) : List Item :=
  if e.tag = httpSampler then [.request e ((container.map testElements).getD [])]
  else if e.tag = transactionController then
    [match container with
      | some t => .transaction e (kept (itemsOf t))
      | none => .bareTransaction e]
  else []

theorem keptOf_eq_nil {e : Element} (hsampler : e.tag ≠ httpSampler)
    (hcontroller : e.tag ≠ transactionController) (container : Option Element) :
    keptOf e container = [] := by
  unfold keptOf
  rw [if_neg hsampler, if_neg hcontroller]

theorem keptOf_of_isHashTree {e : Element} (h : isHashTree e = true) (container : Option Element) :
    keptOf e container = [] := by
  apply keptOf_eq_nil
  · intro htag
    simp [isHashTree_eq_false_of_met (.inl htag)] at h
  · intro htag
    simp [isHashTree_eq_false_of_met (.inr htag)] at h

/-- The items kept of siblings are those of the first of them and those of the others. -/
theorem kept_itemsAmong_cons (e : Element) (rest : List Element) :
    kept (itemsAmong (e :: rest)) = keptOf e (containerAmong e rest) ++ kept (itemsAmong rest) := by
  by_cases htree : isHashTree e = true
  · rw [keptOf_of_isHashTree htree]
    cases rest <;> simp [itemsAmong, htree, kept]
  simp only [Bool.not_eq_true] at htree
  have hdiff : transactionController ≠ httpSampler := by decide
  by_cases hs : e.tag = httpSampler
  · cases rest with
    | nil => simp [itemsAmong, htree, hs, kept, keptOfItem, keptOf, containerAmong]
    | cons next rest =>
      cases hn : isHashTree next <;>
        simp [itemsAmong, htree, hs, hn, kept, keptOfItem, keptOf, containerAmong]
  by_cases hc : e.tag = transactionController
  · cases rest with
    | nil => simp [itemsAmong, htree, hc, hdiff, kept, keptOfItem, keptOf, containerAmong]
    | cons next rest =>
      cases hn : isHashTree next <;>
        simp [itemsAmong, htree, hc, hdiff, hn, kept, keptOfItem, keptOf, containerAmong]
  · rw [keptOf_eq_nil hs hc]
    cases rest <;> simp [itemsAmong, htree, hs, hc, kept, keptOfItem]

theorem itemsOf_eq (e : Element) : itemsOf e = itemsAmong e.children := by
  cases e
  rfl

/-! ## What is put into a container -/

/-- Siblings with others behind them: the last of the first ones is the only one that may get
another container. -/
theorem kept_itemsAmong_append {behind behind' : List Element}
    (hbehind : kept (itemsAmong behind') = kept (itemsAmong behind)) {before : List Element}
    (hlast : ∀ e ∈ before.getLast?,
      keptOf e (containerAmong e behind') = keptOf e (containerAmong e behind)) :
    kept (itemsAmong (before ++ behind')) = kept (itemsAmong (before ++ behind)) := by
  induction before with
  | nil => exact hbehind
  | cons e before ih =>
    -- the container of an element is read off the sibling directly behind it, and off no other
    have hfirst : keptOf e (containerAmong e (before ++ behind'))
        = keptOf e (containerAmong e (before ++ behind)) := by
      cases before with
      | nil => exact hlast e rfl
      | cons next before => rfl
    have hrest : ∀ last ∈ before.getLast?,
        keptOf last (containerAmong last behind') = keptOf last (containerAmong last behind) := by
      intro last hmem
      apply hlast
      rw [List.getLast?_cons, Option.mem_def.mp hmem]
      rfl
    rw [List.cons_append, List.cons_append, kept_itemsAmong_cons, kept_itemsAmong_cons, hfirst,
      ih hrest]

/-- Siblings with an element and a `hashTree` of its own put in, not between an element and its
container. -/
theorem kept_itemsAmong_insert {x h : Element} (hsampler : x.tag ≠ httpSampler)
    (hcontroller : x.tag ≠ transactionController) (hx : isHashTree x = false)
    (hh : isHashTree h = true) {before behind : List Element}
    (hlast : ∀ e ∈ before.getLast?, containerAmong e behind = none) :
    kept (itemsAmong (before ++ x :: h :: behind)) = kept (itemsAmong (before ++ behind)) := by
  apply kept_itemsAmong_append
  · rw [kept_itemsAmong_cons, kept_itemsAmong_cons, keptOf_eq_nil hsampler hcontroller,
      keptOf_of_isHashTree hh]
    rfl
  · intro e he
    have hnone : containerAmong e (x :: h :: behind) = none := by simp [containerAmong, hx]
    rw [hlast e he, hnone]

/-- Siblings with the container of a controller exchanged for one of which the same is kept. -/
theorem kept_itemsAmong_exchange {t t' : Element} (ht : isHashTree t = true)
    (ht' : isHashTree t' = true) (hkept : kept (itemsOf t') = kept (itemsOf t))
    {before : List Element} (behind : List Element)
    (hlast : ∀ e ∈ before.getLast?, e.tag = transactionController) :
    kept (itemsAmong (before ++ t' :: behind)) = kept (itemsAmong (before ++ t :: behind)) := by
  apply kept_itemsAmong_append
  · rw [kept_itemsAmong_cons, kept_itemsAmong_cons, keptOf_of_isHashTree ht,
      keptOf_of_isHashTree ht']
  · intro e he
    have hdiff : transactionController ≠ httpSampler := by decide
    have htree : isHashTree e = false := isHashTree_eq_false_of_met (.inr (hlast e he))
    simp [containerAmong, ht, ht', htree, keptOf, hlast e he, hdiff, hkept]

/-- A container with an element and a `hashTree` put in at a position. -/
def insertPair (i : Nat) (x h container : Element) : Element :=
  { container with children := container.children.take i ++ x :: h :: container.children.drop i }

/-- An edit of a container that changes nothing of what is kept of it. -/
structure IsUnseen (edit : Element → Element) (container : Element) : Prop where
  tag : (edit container).tag = container.tag
  kept_eq : kept (itemsOf (edit container)) = kept (itemsOf container)

/-! ## Edits in containers that are walked -/

/-- The places of the containers that the walk of an element comes to: its own, and those of the
controllers in containers it comes to. -/
inductive IsWalked (root : Element) (place : List Nat) : List Nat → Prop where
  | own {inner : List Nat} (found : containerOf? root place = some inner) :
      IsWalked root place inner
  | through {outer inner : List Nat} {n : Nat} {c : Element} (walked : IsWalked root place outer)
      (controller : elementAt? root (outer ++ [n]) = some c)
      (tag : c.tag = transactionController)
      (found : containerOf? root (outer ++ [n]) = some inner) : IsWalked root place inner

/-- Putting an element of another tag and a `hashTree` behind it into a container is not seen, at a
position that is not between an element and its container. -/
theorem isUnseen_insertPair {root container x h : Element} {place : List Nat} {i : Nat}
    (hcontainer : elementAt? root place = some container)
    (hposition : ∀ n, n + 1 = i → containerOf? root (place ++ [n]) = none)
    (hsampler : x.tag ≠ httpSampler) (hcontroller : x.tag ≠ transactionController)
    (hx : isHashTree x = false) (hh : isHashTree h = true) :
    IsUnseen (insertPair i x h) container := by
  refine ⟨rfl, ?_⟩
  have hlast : ∀ e ∈ (container.children.take i).getLast?,
      containerAmong e (container.children.drop i) = none := by
    intro e he
    cases i with
    | zero => cases he
    | succ n =>
      rw [Option.eq_none_iff_forall_ne_some]
      intro t ht
      -- then the position would be between the element and its container
      obtain ⟨hhead, htrees⟩ := containerAmong_eq_some_iff.mp ht
      rw [List.head?_drop] at hhead
      have hown : container.children[n]? = some e := by
        obtain ⟨hlt, -⟩ := List.getElem?_eq_some_iff.mp hhead
        rw [List.getLast?_take, if_neg (Nat.succ_ne_zero n), Nat.add_sub_cancel,
          List.getElem?_eq_getElem (Nat.lt_of_succ_lt hlt), Option.some_or] at he
        rw [List.getElem?_eq_getElem (Nat.lt_of_succ_lt hlt)]
        exact he
      have hfound := containerOf?_child_eq_some_iff.mpr
        ⟨rfl, container, e, t, hcontainer, hown, hhead, htrees⟩
      rw [hposition n rfl] at hfound
      cases hfound
  rw [itemsOf_eq, itemsOf_eq, insertPair,
    kept_itemsAmong_insert hsampler hcontroller hx hh hlast, List.take_append_drop]

/-- An edit of the container of a controller that is not seen there is not seen from the container
that the controller is in. -/
theorem IsUnseen.outward {root outer c t : Element} {edit : Element → Element} {place : List Nat}
    {n : Nat} (houter : elementAt? root place = some outer)
    (hc : elementAt? root (place ++ [n]) = some c) (htag : c.tag = transactionController)
    (ht : elementAt? root (place ++ [n + 1]) = some t) (htree : isHashTree t = true)
    (h : IsUnseen edit t) : IsUnseen (editAt edit [n + 1]) outer := by
  refine ⟨rfl, ?_⟩
  rw [elementAt?_child, houter, Option.bind_some] at hc ht
  obtain ⟨hlt, rfl⟩ := List.getElem?_eq_some_iff.mp ht
  have hedit : (editAt edit [n + 1] outer).children = outer.children.take (n + 1)
      ++ edit outer.children[n + 1] :: outer.children.drop (n + 2) :=
    List.modify_eq_take_cons_drop hlt
  have hchildren : outer.children = outer.children.take (n + 1)
      ++ outer.children[n + 1] :: outer.children.drop (n + 2) := by
    rw [← List.drop_eq_getElem_cons hlt, List.take_append_drop]
  have htree' : isHashTree (edit outer.children[n + 1]) = true := by
    rw [isHashTree, h.tag]
    exact htree
  have hlast : ∀ e ∈ (outer.children.take (n + 1)).getLast?, e.tag = transactionController := by
    intro e he
    rw [List.getLast?_take, if_neg (Nat.succ_ne_zero n), Nat.add_sub_cancel, hc, Option.some_or,
      Option.mem_some_iff] at he
    exact he ▸ htag
  rw [itemsOf_eq, itemsOf_eq, hedit]
  conv_rhs => rw [hchildren]
  exact kept_itemsAmong_exchange htree htree' h.kept_eq _ hlast

/-- The container of an element is there, and is a `hashTree`. -/
theorem exists_elementAt?_of_containerOf? {root : Element} {place inner : List Nat}
    (h : containerOf? root place = some inner) :
    ∃ t, elementAt? root inner = some t ∧ isHashTree t = true := by
  obtain ⟨e, t, ⟨above, n, parent, hparent, -, -, rfl, ht⟩, htree, -⟩ :=
    containerOf?_eq_some_iff.mp h
  refine ⟨t, ?_, htree⟩
  rw [elementAt?_child, hparent]
  exact ht

/-- An edit that is not seen in a container the walk comes to is not seen in the container the walk
starts from. -/
theorem IsWalked.exists_own {root : Element} {place inner : List Nat}
    (h : IsWalked root place inner) :
    ∃ own rest container t, containerOf? root place = some own ∧ inner = own ++ rest
      ∧ elementAt? root own = some container ∧ elementAt? root inner = some t
      ∧ ∀ edit, IsUnseen edit t → IsUnseen (editAt edit rest) container := by
  -- along the walk; each step inwards takes the edit outwards by one controller more
  induction h with
  | @own inner found =>
    obtain ⟨t, ht, -⟩ := exists_elementAt?_of_containerOf? found
    exact ⟨inner, [], t, t, found, (List.append_nil inner).symm, ht, ht, fun _ h => h⟩
  | @through outer inner n c _ hc tag found ih =>
    obtain ⟨own, rest, container, outerTree, hown, rfl, hcontainer, houter, hunseen⟩ := ih
    obtain ⟨t, ht, htree⟩ := exists_elementAt?_of_containerOf? found
    obtain ⟨rfl, -⟩ := containerOf?_child_eq_some_iff.mp found
    refine ⟨own, rest ++ [n + 1], container, t, hown, List.append_assoc .., hcontainer, ht, ?_⟩
    intro edit hedit
    have hway : editAt edit (rest ++ [n + 1]) = editAt (editAt edit [n + 1]) rest :=
      funext (editAt_append edit rest [n + 1])
    rw [hway]
    exact hunseen _ (hedit.outward houter hc tag ht htree)

theorem IsWalked.exists_elementAt? {root : Element} {place inner : List Nat}
    (h : IsWalked root place inner) : ∃ t, elementAt? root inner = some t := by
  obtain ⟨_, _, _, t, -, -, -, ht, -⟩ := h.exists_own
  exact ⟨t, ht⟩

/-- An edit that is not seen in a container that the walk of an element comes to: the element stays
as it is and where it is, with the same number among those with its tag, and the same is kept of its
container. -/
theorem IsWalked.exists_site {root t : Element} {tag : String} {k : Nat} {s : Site}
    {edit : Element → Element} {place : List Nat} (h : IsWalked root s.place place)
    (hs : (sitesOf root tag)[k]? = some s) (ht : elementAt? root place = some t)
    (hunseen : IsUnseen edit t) :
    ∃ s' c c', (sitesOf (editAt edit place root) tag)[k]? = some s' ∧ s'.place = s.place
      ∧ s'.element = s.element ∧ s.container = some c ∧ s'.container = some c'
      ∧ kept (itemsOf c') = kept (itemsOf c) := by
  obtain ⟨own, rest, c, t', hown, rfl, hc, ht', houtward⟩ := h.exists_own
  obtain rfl : t' = t := Option.some.inj (ht'.symm.trans ht)
  have hedit := houtward edit hunseen
  -- the element stands directly before its container, so it comes before all that is edited
  obtain ⟨e, c', ⟨above, m, parent, hparent, hplace, he, rfl, hnext⟩, htree, hnone⟩ :=
    containerOf?_eq_some_iff.mp hown
  obtain rfl : c' = c := by
    rw [elementAt?_child, hparent, Option.bind_some, hnext] at hc
    exact Option.some.inj hc
  have hmem : s ∈ sites root := (List.mem_filter.mp (List.mem_of_getElem? hs)).1
  have helement : s.element = e := by
    have hat := element_siteAt? root s.place
    rw [siteAt?_eq_some_iff.mpr ⟨hmem, rfl⟩, hplace, elementAt?_child, hparent, Option.bind_some,
      he] at hat
    exact Option.some.inj hat
  have hcontainer : s.container = some c' := by
    rw [container_eq_elementAt? hmem, hown, Option.bind_some, hc]
  -- the site with the number in the edited document is the one at the old place
  rw [List.append_assoc, List.singleton_append]
  obtain ⟨s', hs', hplace'⟩ := getElem?_sitesOf_editAt edit hs hplace rest
  have hmem' := (List.mem_filter.mp (List.mem_of_getElem? hs')).1
  have hsite := siteAt?_editAt edit hparent he hnext rest
  rw [siteAt?_eq_some_iff.mpr ⟨hmem', hplace'.trans hplace⟩, Option.some_inj] at hsite
  have htree' : isHashTree (editAt edit rest c') = true := by
    rw [isHashTree, hedit.tag]
    exact htree
  refine ⟨s', c', editAt edit rest c', hs', hplace', ?_, hcontainer, ?_, hedit.kept_eq⟩
  · rw [hsite, helement]
  · rw [hsite, containerAmong_eq_some_iff]
    exact ⟨rfl, htree', hnone⟩

/-! ## Summaries -/

/-- Two containers of which the same is kept give a thread group the same summary. -/
theorem summary_eq_of_kept_eq {c c' : Element} (h : kept (itemsOf c') = kept (itemsOf c))
    (e : Element) (number : Nat) :
    Group.summary ⟨e, some c'⟩ number = Group.summary ⟨e, some c⟩ number := by
  have hcounts : Counts.ofContainer c' = Counts.ofContainer c := by
    rw [Counts.ofContainer_eq_ofVisits, Counts.ofContainer_eq_ofVisits, ← visitsOf_kept, h,
      visitsOf_kept]
  simp [Group.summary, Group.name, hcounts]

theorem getElem?_summaries {root : Element} {k : Nat} {g : Site}
    (h : (sitesOf root threadGroup)[k]? = some g) :
    (summaries root)[k]? = some (Group.summary ⟨g.element, g.container⟩ (k + 1)) := by
  rw [summaries, groups, List.getElem?_mapIdx, List.getElem?_map, h]
  rfl

end VuserScript.Plan
