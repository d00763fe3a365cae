/-
  VuserScript.Proofs.Plan.Containers

  Which element is the container of which. The sites of a document are listed in
  one pass over all siblings; here each of them is found again by its child
  numbers alone (`siteAt?_child`), and what a container is can then be said of
  two neighbours among the children of one parent.

  Going from a container into the container of one of its children leads one
  step down the document, so a walk that does nothing else comes to an end.
-/
import VuserScript.Proofs.Plan.Sites

namespace VuserScript.Plan

open Xml (Element)

/-! ## Elements by child numbers -/

/-- The element that child numbers lead to. -/
def elementAt? : Element → List Nat → Option Element
  | e, [] => some e
  | e, n :: rest => e.children[n]?.bind fun child => elementAt? child rest

@[simp] theorem elementAt?_nil (e : Element) : elementAt? e [] = some e := rfl

theorem elementAt?_cons (e : Element) (n : Nat) (rest : List Nat) :
    elementAt? e (n :: rest) = e.children[n]?.bind fun child => elementAt? child rest := rfl

theorem elementAt?_append (e : Element) (place rest : List Nat) :
    elementAt? e (place ++ rest)
      = (elementAt? e place).bind fun inner => elementAt? inner rest := by
  induction place generalizing e with
  | nil => rfl
  | cons n place ih =>
    rw [List.cons_append, elementAt?_cons, elementAt?_cons, Option.bind_assoc]
    exact Option.bind_congr fun child _ => ih child

theorem elementAt?_child (e : Element) (above : List Nat) (n : Nat) :
    elementAt? e (above ++ [n]) = (elementAt? e above).bind fun parent => parent.children[n]? := by
  rw [elementAt?_append]
  refine Option.bind_congr fun parent _ => ?_
  rw [elementAt?_cons]
  cases parent.children[n]? <;> rfl

/-! ## Sites by child numbers -/

/-- The site of a child, by the place of its parent. -/
def childSite? (parent : Element) (above : List Nat) (n : Nat) : Option Site :=
  parent.children[n]?.map fun e =>
    ⟨above ++ [n], e, containerAmong e (parent.children.drop (n + 1))⟩

theorem childSite?_eq_some_iff {parent : Element} {above : List Nat} {n : Nat} {s : Site} :
    childSite? parent above n = some s ↔ s.place = above ++ [n]
      ∧ parent.children[n]? = some s.element
      ∧ s.container = containerAmong s.element (parent.children.drop (n + 1)) := by
  obtain ⟨place, e, container⟩ := s
  rw [childSite?, Option.map_eq_some_iff]
  constructor
  · rintro ⟨e, he, heq⟩
    cases heq
    exact ⟨rfl, he, rfl⟩
  · intro h
    dsimp only at h
    obtain ⟨rfl, he, rfl⟩ := h
    exact ⟨e, he, rfl⟩

theorem mem_sitesAmong_iff {parent : List Nat} {n : Nat} {l : List Element} {s : Site} :
    s ∈ sitesAmong parent n l ↔ ∃ k e, l[k]? = some e
      ∧ (s = ⟨parent ++ [n + k], e, containerAmong e (l.drop (k + 1))⟩
        ∨ s ∈ sitesBelow (parent ++ [n + k]) e) := by
  induction l generalizing n with
  | nil => simp [sitesAmong]
  | cons e rest ih =>
    simp only [sitesAmong, List.cons_append, List.mem_cons, List.mem_append, ih]
    constructor
    · rintro (rfl | h | ⟨k, e', he', h⟩)
      · exact ⟨0, e, rfl, .inl rfl⟩
      · exact ⟨0, e, rfl, .inr h⟩
      · exact ⟨k + 1, e', he', by rwa [Nat.add_right_comm, Nat.add_assoc] at h⟩
    · rintro ⟨_ | k, e', he', h⟩
      · obtain rfl := Option.some.inj he'
        exact h.imp_right .inl
      · exact .inr (.inr ⟨k, e', he', by rwa [Nat.add_right_comm, Nat.add_assoc]⟩)

/-- A site below an element is a child or is below one. -/
theorem mem_sitesBelow_iff {place : List Nat} {e : Element} {s : Site} :
    s ∈ sitesBelow place e ↔ ∃ n child, e.children[n]? = some child
      ∧ (childSite? e place n = some s ∨ s ∈ sitesBelow (place ++ [n]) child) := by
  rw [sitesBelow_eq, mem_sitesAmong_iff]
  refine exists_congr fun n => exists_congr fun child => and_congr_right fun hchild => ?_
  rw [Nat.zero_add, childSite?, hchild, Option.map_some, Option.some_inj, eq_comm]

theorem exists_parent_of_mem_sitesBelow {rest : List Nat} {s : Site} :
    ∀ {n : Nat} {place : List Nat} {e : Element}, s ∈ sitesBelow place e →
      s.place = place ++ n :: rest →
      ∃ above m parent, elementAt? e above = some parent
        ∧ childSite? parent (place ++ above) m = some s := by
  induction rest with
  | nil =>
    intro n place e hs hplace
    obtain ⟨m, child, hchild, hsite | hbelow⟩ := mem_sitesBelow_iff.mp hs
    · exact ⟨[], m, e, rfl, by rwa [List.append_nil]⟩
    · have := (isBelow_of_mem_sitesBelow hbelow).length_lt
      simp [hplace] at this
  | cons k rest ih =>
    intro n place e hs hplace
    obtain ⟨m, child, hchild, hsite | hbelow⟩ := mem_sitesBelow_iff.mp hs
    · exact ⟨[], m, e, rfl, by rwa [List.append_nil]⟩
    · -- the child's own number is the next of the place, so one number less is left
      obtain ⟨j, more, hj⟩ := isBelow_of_mem_sitesBelow hbelow
      obtain ⟨rfl, -⟩ := child_unique place (hplace.symm.trans (by simpa using hj))
      obtain ⟨above, m, parent, hparent, hsite⟩ := ih hbelow (by simpa using hplace)
      exact ⟨n :: above, m, parent, by rwa [elementAt?_cons, hchild], by simpa using hsite⟩

theorem mem_sitesBelow_of_child {above : List Nat} {m : Nat} {parent : Element} {s : Site} :
    ∀ {place : List Nat} {e : Element}, elementAt? e above = some parent →
      childSite? parent (place ++ above) m = some s → s ∈ sitesBelow place e := by
  induction above with
  | nil =>
    intro place e hparent hsite
    obtain rfl := Option.some.inj hparent
    rw [List.append_nil] at hsite
    exact mem_sitesBelow_iff.mpr
      ⟨m, s.element, (childSite?_eq_some_iff.mp hsite).2.1, .inl hsite⟩
  | cons k above ih =>
    intro place e hparent hsite
    obtain ⟨child, hchild, hparent⟩ := Option.bind_eq_some_iff.mp hparent
    exact mem_sitesBelow_iff.mpr ⟨k, child, hchild, .inr (ih hparent (by simpa using hsite))⟩

/-- The sites of a document are that of the root and those of the children of its elements. -/
theorem mem_sites_iff {root : Element} {s : Site} :
    s ∈ sites root ↔ s = ⟨[], root, none⟩
      ∨ ∃ above n parent, elementAt? root above = some parent
        ∧ childSite? parent above n = some s := by
  rw [sites, List.mem_cons]
  refine or_congr_right ⟨fun hs => ?_, ?_⟩
  · obtain ⟨n, rest, hplace⟩ := isBelow_of_mem_sitesBelow hs
    simpa using exists_parent_of_mem_sitesBelow hs hplace
  · rintro ⟨above, n, parent, hparent, hsite⟩
    exact mem_sitesBelow_of_child hparent (by rwa [List.nil_append])

theorem siteAt?_nil (root : Element) : siteAt? root [] = some ⟨[], root, none⟩ :=
  siteAt?_eq_some_iff.mpr ⟨List.mem_cons_self, rfl⟩

/-- The site at a place, by the element above it. -/
theorem siteAt?_child (root : Element) (above : List Nat) (n : Nat) :
    siteAt? root (above ++ [n])
      = (elementAt? root above).bind fun parent => childSite? parent above n := by
  refine Option.ext fun s => ?_
  rw [siteAt?_eq_some_iff, Option.bind_eq_some_iff, mem_sites_iff]
  constructor
  · rintro ⟨rfl | ⟨above', m, parent, hparent, hsite⟩, hplace⟩
    · simp at hplace
    · have heq := (childSite?_eq_some_iff.mp hsite).1.symm.trans hplace
      obtain ⟨rfl, hm⟩ := List.append_inj' heq rfl
      obtain rfl : m = n := by simpa using hm
      exact ⟨parent, hparent, hsite⟩
  · rintro ⟨parent, hparent, hsite⟩
    exact ⟨.inr ⟨above, n, parent, hparent, hsite⟩, (childSite?_eq_some_iff.mp hsite).1⟩

/-- The site at a place holds the element that the child numbers lead to. -/
theorem element_siteAt? (root : Element) (place : List Nat) :
    (siteAt? root place).map Site.element = elementAt? root place := by
  rcases List.eq_nil_or_concat place with rfl | ⟨above, n, rfl⟩
  · rw [siteAt?_nil]
    rfl
  · rw [List.concat_eq_append, siteAt?_child, elementAt?_child, Option.map_bind]
    refine Option.bind_congr fun parent _ => ?_
    rw [Function.comp_apply, childSite?, Option.map_map]
    exact Option.map_id'

/-! ## Containers by child numbers -/

/-- The place of the container of the element at a place. -/
def containerOf? (root : Element) (place : List Nat) : Option (List Nat) :=
  (siteAt? root place).bind Site.containerPlace?

/-- Two places are those of children of one element, the second directly behind the first. -/
def AreNeighbours (root : Element) (place behind : List Nat) (e next : Element) : Prop :=
  ∃ above n parent, elementAt? root above = some parent
    ∧ place = above ++ [n] ∧ parent.children[n]? = some e
    ∧ behind = above ++ [n + 1] ∧ parent.children[n + 1]? = some next

/-- A container has a child whose own container is at another place. -/
def LeadsInto (root : Element) (outer inner : List Nat) : Prop :=
  ∃ n, containerOf? root (outer ++ [n]) = some inner

theorem containerAmong_eq_some_iff {e t : Element} {siblings : List Element} :
    containerAmong e siblings = some t
      ↔ siblings.head? = some t ∧ isHashTree t = true ∧ isHashTree e = false := by
  cases siblings with
  | nil => simp [containerAmong]
  | cons next rest =>
    simp only [containerAmong, List.head?_cons, Option.some_inj, Option.ite_none_right_eq_some,
      Bool.and_eq_true, Bool.not_eq_true']
    constructor
    · rintro ⟨h, rfl⟩
      exact ⟨rfl, h⟩
    · rintro ⟨rfl, h⟩
      exact ⟨h, rfl⟩

theorem containerOf?_nil (root : Element) : containerOf? root [] = none := by
  rw [containerOf?, siteAt?_nil]
  rfl

theorem containerOf?_child_eq_some_iff {root : Element} {above inner : List Nat} {n : Nat} :
    containerOf? root (above ++ [n]) = some inner
      ↔ inner = above ++ [n + 1] ∧ ∃ parent e t, elementAt? root above = some parent
        ∧ parent.children[n]? = some e ∧ parent.children[n + 1]? = some t
        ∧ isHashTree t = true ∧ isHashTree e = false := by
  rw [containerOf?, siteAt?_child, Option.bind_assoc]
  simp only [Option.bind_eq_some_iff, childSite?_eq_some_iff]
  constructor
  · rintro ⟨parent, hparent, s, ⟨hplace, he, hcontainer⟩, hinner⟩
    rw [Site.containerPlace?_of_place hplace, Option.map_eq_some_iff] at hinner
    obtain ⟨t, ht, rfl⟩ := hinner
    rw [hcontainer, containerAmong_eq_some_iff, List.head?_drop] at ht
    exact ⟨rfl, parent, s.element, t, hparent, he, ht⟩
  · rintro ⟨rfl, parent, e, t, hparent, he, ht⟩
    have hfound : containerAmong e (parent.children.drop (n + 1)) = some t := by
      rwa [containerAmong_eq_some_iff, List.head?_drop]
    refine ⟨parent, hparent, ⟨above ++ [n], e, some t⟩, ⟨rfl, he, hfound.symm⟩, ?_⟩
    rw [Site.containerPlace?_of_place rfl]
    rfl

/-- An element has a container if and only if the element directly behind it is a `hashTree` and it
is none itself; its container is then that element. -/
theorem containerOf?_eq_some_iff {root : Element} {place inner : List Nat} :
    containerOf? root place = some inner ↔ ∃ e t, AreNeighbours root place inner e t
      ∧ isHashTree t = true ∧ isHashTree e = false := by
  constructor
  · intro h
    rcases List.eq_nil_or_concat place with rfl | ⟨above, n, rfl⟩
    · rw [containerOf?_nil] at h
      cases h
    · rw [List.concat_eq_append] at h ⊢
      obtain ⟨rfl, parent, e, t, hparent, he, ht, htags⟩ := containerOf?_child_eq_some_iff.mp h
      exact ⟨e, t, ⟨above, n, parent, hparent, rfl, he, rfl, ht⟩, htags⟩
  · rintro ⟨e, t, ⟨above, n, parent, hparent, rfl, he, rfl, ht⟩, htags⟩
    exact containerOf?_child_eq_some_iff.mpr ⟨rfl, parent, e, t, hparent, he, ht, htags⟩

/-- A `hashTree` has no container. -/
theorem containerOf?_eq_none_of_isHashTree {root e : Element} {place : List Nat}
    (he : elementAt? root place = some e) (htree : isHashTree e = true) :
    containerOf? root place = none := by
  rw [Option.eq_none_iff_forall_ne_some]
  intro inner h
  obtain ⟨e', t, ⟨above, n, parent, hparent, rfl, he', -⟩, -, hnone⟩ :=
    containerOf?_eq_some_iff.mp h
  rw [elementAt?_child, hparent, Option.bind_some, he', Option.some_inj] at he
  rw [he, htree] at hnone
  cases hnone

/-- Whatever has the element at a place as its container is the child directly before it. -/
theorem exists_child_before_container {root : Element} {place above : List Nat} {m : Nat}
    (h : containerOf? root place = some (above ++ [m])) :
    ∃ n, m = n + 1 ∧ place = above ++ [n] := by
  obtain ⟨-, -, ⟨above', n, -, -, hplace, -, hinner, -⟩, -⟩ := containerOf?_eq_some_iff.mp h
  obtain ⟨rfl, hm⟩ := List.append_inj' hinner rfl
  exact ⟨n, by simpa using hm, hplace⟩

/-- No `hashTree` is the container of two elements. -/
theorem eq_of_containerOf?_eq {root : Element} {place place' inner : List Nat}
    (h : containerOf? root place = some inner) (h' : containerOf? root place' = some inner) :
    place = place' := by
  obtain ⟨-, -, ⟨above, n, -, -, rfl, -, rfl, -⟩, -⟩ := containerOf?_eq_some_iff.mp h
  obtain ⟨n', hn, rfl⟩ := exists_child_before_container h'
  rw [Nat.succ_inj.mp hn]

/-- The container that a site carries is the element at the place of the container. -/
theorem container_eq_elementAt? {root : Element} {s : Site} (h : s ∈ sites root) :
    s.container = (containerOf? root s.place).bind (elementAt? root) := by
  rw [containerOf?, siteAt?_eq_some_iff.mpr ⟨h, rfl⟩, Option.bind_some]
  cases hc : s.container with
  | none => simp [Site.containerPlace?, hc]
  | some t =>
    obtain ⟨u, hu, rfl, hplace⟩ := exists_container h hc
    rw [hplace, Option.bind_some, ← element_siteAt?, siteAt?_eq_some_iff.mpr ⟨hu, rfl⟩]
    rfl

theorem LeadsInto.isBelow {root : Element} {outer inner : List Nat}
    (h : LeadsInto root outer inner) : IsBelow outer inner := by
  obtain ⟨n, hn⟩ := h
  obtain ⟨rfl, -⟩ := containerOf?_child_eq_some_iff.mp hn
  exact isBelow_child outer (n + 1)

theorem sizeOf_lt_of_child {parent e : Element} {n : Nat} (h : parent.children[n]? = some e) :
    sizeOf e < sizeOf parent := by
  have hmem := List.sizeOf_lt_of_mem (List.mem_of_getElem? h)
  cases parent with
  | mk tag attributes text children tail =>
    simp only [Element.mk.sizeOf_spec] at hmem ⊢
    omega

/-- What is left below a place. -/
noncomputable def sizeAt (root : Element) (place : List Nat) : Nat :=
  ((elementAt? root place).map sizeOf).getD 0

theorem LeadsInto.sizeAt_lt {root : Element} {outer inner : List Nat}
    (h : LeadsInto root outer inner) : sizeAt root inner < sizeAt root outer := by
  obtain ⟨n, hn⟩ := h
  obtain ⟨rfl, parent, e, t, hparent, -, ht, -⟩ := containerOf?_child_eq_some_iff.mp hn
  have hinner : elementAt? root (outer ++ [n + 1]) = some t := by
    rw [elementAt?_child, hparent]
    exact ht
  simpa only [sizeAt, hparent, hinner, Option.map_some, Option.getD_some] using
    sizeOf_lt_of_child ht

/-- Going from container to container comes to an end. -/
theorem wellFounded_leadsInto (root : Element) :
    WellFounded fun inner outer => LeadsInto root outer inner :=
  Subrelation.wf LeadsInto.sizeAt_lt (measure (sizeAt root)).wf

/-- For every document, with elements told apart by their places: the container of an element is the
`hashTree` directly behind it among the children of one parent, if there is one there and the element
is none itself, and a site carries that element as its container. So the root and every `hashTree`
have no container, no `hashTree` is the container of two elements, and one that is a first child or
directly behind a `hashTree` belongs to nobody. Going from a container to the container of one of
its children leads strictly deeper, and comes to an end. -/
theorem containers_are_followers (root : Element) :
    (∀ place inner, containerOf? root place = some inner ↔
      ∃ e t, AreNeighbours root place inner e t ∧ isHashTree t = true ∧ isHashTree e = false)
    ∧ (∀ s ∈ sites root, s.container = (containerOf? root s.place).bind (elementAt? root))
    ∧ containerOf? root [] = none
    ∧ (∀ place e, elementAt? root place = some e → isHashTree e = true →
        containerOf? root place = none)
    ∧ (∀ place place' inner, containerOf? root place = some inner →
        containerOf? root place' = some inner → place = place')
    ∧ (∀ place above, containerOf? root place ≠ some (above ++ [0]))
    ∧ (∀ above n e, elementAt? root (above ++ [n]) = some e → isHashTree e = true →
        ∀ place, containerOf? root place ≠ some (above ++ [n + 1]))
    ∧ (∀ outer inner, LeadsInto root outer inner → IsBelow outer inner)
    ∧ WellFounded fun inner outer => LeadsInto root outer inner := by
  refine ⟨fun _ _ => containerOf?_eq_some_iff, fun _ => container_eq_elementAt?,
    containerOf?_nil root, fun _ _ => containerOf?_eq_none_of_isHashTree,
    fun _ _ _ => eq_of_containerOf?_eq, ?_, ?_, fun _ _ => LeadsInto.isBelow,
    wellFounded_leadsInto root⟩
  · intro place above h
    obtain ⟨n, hn, -⟩ := exists_child_before_container h
    cases hn
  · intro above n e he htree place h
    -- only the child before could own it, and that is a `hashTree`
    obtain ⟨m, hm, rfl⟩ := exists_child_before_container h
    obtain rfl := Nat.succ_inj.mp hm
    rw [containerOf?_eq_none_of_isHashTree he htree] at h
    cases h

end VuserScript.Plan
