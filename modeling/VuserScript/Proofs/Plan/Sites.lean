/-
  VuserScript.Proofs.Plan.Sites

  Where the elements of a document stand. The sites below an element are one
  stretch of the sites of the document, and nothing outside that stretch has a
  place below it; no two sites have one place. What is said of the elements
  below a place can so be read off the subtree alone.
-/
import VuserScript.Plan.Pairing
import Mathlib.Data.List.Nodup

namespace VuserScript.Plan

open Xml (Element)

/-! ## Places below a place -/

/-- A place is strictly below another one. -/
def IsBelow (above place : List Nat) : Prop :=
  ∃ n rest, place = above ++ n :: rest

theorem isBelow_child (above : List Nat) (n : Nat) : IsBelow above (above ++ [n]) :=
  ⟨n, [], rfl⟩

theorem IsBelow.trans {a b c : List Nat} (hab : IsBelow a b) (hbc : IsBelow b c) :
    IsBelow a c := by
  obtain ⟨n, rest, rfl⟩ := hab
  obtain ⟨m, more, rfl⟩ := hbc
  exact ⟨n, rest ++ m :: more, by simp⟩

theorem IsBelow.length_lt {a b : List Nat} (h : IsBelow a b) : a.length < b.length := by
  obtain ⟨n, rest, rfl⟩ := h
  simp only [List.length_append, List.length_cons]
  omega

/-- A place below one child and at or below another one tells which child it is. -/
theorem child_unique (above : List Nat) {rest more : List Nat} {n m : Nat}
    (h : above ++ n :: rest = above ++ m :: more) : n = m ∧ rest = more := by
  simpa using h

/-! ## Sites below an element -/

theorem sitesBelow_eq (place : List Nat) (e : Element) :
    sitesBelow place e = sitesAmong place 0 e.children := by
  cases e
  rfl

mutual

theorem isBelow_of_mem_sitesBelow {place : List Nat} {s : Site} :
    ∀ {e : Element}, s ∈ sitesBelow place e → IsBelow place s.place
  | ⟨_, _, _, children, _⟩, h => by
    obtain ⟨k, rest, -, hs⟩ := place_of_mem_sitesAmong h
    exact ⟨k, rest, hs⟩

theorem place_of_mem_sitesAmong {parent : List Nat} {s : Site} :
    ∀ {n : Nat} {l : List Element}, s ∈ sitesAmong parent n l →
      ∃ k rest, n ≤ k ∧ s.place = parent ++ k :: rest
  | n, e :: l, h => by
    simp only [sitesAmong, List.cons_append, List.mem_cons, List.mem_append] at h
    rcases h with rfl | h | h
    · exact ⟨n, [], Nat.le_refl n, rfl⟩
    · obtain ⟨m, more, hs⟩ := isBelow_of_mem_sitesBelow (e := e) h
      exact ⟨n, m :: more, Nat.le_refl n, by simpa using hs⟩
    · obtain ⟨k, rest, hk, hs⟩ := place_of_mem_sitesAmong (l := l) h
      exact ⟨k, rest, Nat.le_of_succ_le hk, hs⟩

end

/-- A place among the siblings from number `n` on is not one below an earlier sibling. -/
theorem not_isBelow_of_mem_sitesAmong {parent : List Nat} {n m : Nat} {l : List Element} {s : Site}
    (h : s ∈ sitesAmong parent n l) (hm : m < n) (rest : List Nat) :
    s.place ≠ parent ++ m :: rest := by
  obtain ⟨k, more, hk, hs⟩ := place_of_mem_sitesAmong h
  intro heq
  have := (child_unique parent (hs.symm.trans heq)).1
  omega

/-! ## No two sites at one place -/

mutual

theorem nodup_places_sitesBelow (place : List Nat) :
    ∀ e : Element, ((sitesBelow place e).map Site.place).Nodup
  | ⟨_, _, _, children, _⟩ => nodup_places_sitesAmong place 0 children

theorem nodup_places_sitesAmong (parent : List Nat) :
    ∀ (n : Nat) (l : List Element), ((sitesAmong parent n l).map Site.place).Nodup
  | _, [] => List.nodup_nil
  | n, e :: l => by
    simp only [sitesAmong, List.cons_append, List.map_cons, List.map_append, List.nodup_cons,
      List.nodup_append, List.mem_append, List.mem_map]
    -- the first sibling stands above what is below it, and neither has the number of a later one
    refine ⟨?_, nodup_places_sitesBelow _ e, nodup_places_sitesAmong parent (n + 1) l, ?_⟩
    · rintro (⟨s, hs, heq⟩ | ⟨s, hs, heq⟩)
      · have := (isBelow_of_mem_sitesBelow hs).length_lt
        rw [heq] at this
        omega
      · exact not_isBelow_of_mem_sitesAmong hs (Nat.lt_succ_self n) [] heq
    · rintro _ ⟨s, hs, rfl⟩ _ ⟨t, ht, rfl⟩ heq
      obtain ⟨m, more, hm⟩ := isBelow_of_mem_sitesBelow hs
      refine not_isBelow_of_mem_sitesAmong ht (Nat.lt_succ_self n) (m :: more) ?_
      rw [← heq, hm]
      simp

end

/-- No two sites of a document have one place. -/
theorem nodup_places (root : Element) : ((sites root).map Site.place).Nodup := by
  simp only [sites, List.map_cons, List.nodup_cons, List.mem_map]
  refine ⟨?_, nodup_places_sitesBelow [] root⟩
  rintro ⟨s, hs, heq⟩
  have := (isBelow_of_mem_sitesBelow hs).length_lt
  rw [heq] at this
  omega

/-- The site at a place is the only one there. -/
theorem site_eq_of_place_eq {root : Element} {s t : Site} (hs : s ∈ sites root)
    (ht : t ∈ sites root) (h : s.place = t.place) : s = t :=
  List.inj_on_of_nodup_map (nodup_places root) hs ht h

theorem siteAt?_eq_some_iff {root : Element} {place : List Nat} {s : Site} :
    siteAt? root place = some s ↔ s ∈ sites root ∧ s.place = place := by
  constructor
  · intro h
    exact ⟨List.mem_of_find?_eq_some h, by simpa using List.find?_some h⟩
  · rintro ⟨hs, rfl⟩
    cases h : siteAt? root s.place with
    | none => simpa using List.find?_eq_none.mp h s hs
    | some t =>
      have ht : t ∈ sites root := List.mem_of_find?_eq_some h
      have hp : t.place = s.place := by simpa using List.find?_some h
      rw [site_eq_of_place_eq ht hs hp]

/-! ## Elements around a site -/

mutual

theorem exists_parent_sitesBelow {place above : List Nat} {n : Nat} {s : Site}
    (hs : s.place = above ++ [n]) :
    ∀ {e : Element}, s ∈ sitesBelow place e →
      above = place ∨ ∃ t ∈ sitesBelow place e, t.place = above
  | ⟨_, _, _, children, _⟩, h => exists_parent_sitesAmong (k := 0) (l := children) hs h

theorem exists_parent_sitesAmong {parent above : List Nat} {n : Nat} {s : Site}
    (hs : s.place = above ++ [n]) :
    ∀ {k : Nat} {l : List Element}, s ∈ sitesAmong parent k l →
      above = parent ∨ ∃ t ∈ sitesAmong parent k l, t.place = above
  | k, e :: l, h => by
    simp only [sitesAmong, List.cons_append, List.mem_cons, List.mem_append] at h ⊢
    rcases h with rfl | h | h
    · exact .inl (List.append_inj_left' hs rfl).symm
    · rcases exists_parent_sitesBelow hs h with rfl | ⟨t, ht, htp⟩
      · exact .inr ⟨_, .inl rfl, rfl⟩
      · exact .inr ⟨t, .inr (.inl ht), htp⟩
    · rcases exists_parent_sitesAmong hs h with h | ⟨t, ht, htp⟩
      · exact .inl h
      · exact .inr ⟨t, .inr (.inr ht), htp⟩

end

/-- There is an element above every element but the root. -/
theorem exists_parent {root : Element} {s : Site} (h : s ∈ sites root) {above : List Nat} {n : Nat}
    (hs : s.place = above ++ [n]) : ∃ t ∈ sites root, t.place = above := by
  rcases List.mem_cons.mp h with rfl | h
  · simp at hs
  · rcases exists_parent_sitesBelow hs h with rfl | ⟨t, ht, htp⟩
    · exact ⟨_, List.mem_cons_self, rfl⟩
    · exact ⟨t, List.mem_cons_of_mem _ ht, htp⟩

theorem Site.containerPlace?_of_place {s : Site} {above : List Nat} {n : Nat}
    (h : s.place = above ++ [n]) :
    s.containerPlace? = s.container.map fun _ => above ++ [n + 1] := by
  simp [Site.containerPlace?, Site.nextPlace, h]

mutual

theorem exists_container_sitesBelow {place : List Nat} {s : Site} {t : Element}
    (hc : s.container = some t) :
    ∀ {e : Element}, s ∈ sitesBelow place e →
      ∃ u ∈ sitesBelow place e, u.element = t ∧ s.containerPlace? = some u.place
  | ⟨_, _, _, children, _⟩, h => exists_container_sitesAmong (n := 0) (l := children) hc h

theorem exists_container_sitesAmong {parent : List Nat} {s : Site} {t : Element}
    (hc : s.container = some t) :
    ∀ {n : Nat} {l : List Element}, s ∈ sitesAmong parent n l →
      ∃ u ∈ sitesAmong parent n l, u.element = t ∧ s.containerPlace? = some u.place
  | n, e :: l, h => by
    simp only [sitesAmong, List.cons_append, List.mem_cons, List.mem_append] at h
    rcases h with rfl | h | h
    · cases l with
      | nil => simp [containerAmong] at hc
      | cons next rest =>
        have hnext : next = t := by
          unfold containerAmong at hc
          simp only at hc
          split at hc
          · exact Option.some.inj hc
          · cases hc
        refine
          ⟨⟨parent ++ [n + 1], next, containerAmong next rest⟩, by simp [sitesAmong], hnext, ?_⟩
        rw [Site.containerPlace?_of_place rfl, hc]
        rfl
    · obtain ⟨u, hu, hut⟩ := exists_container_sitesBelow hc h
      exact ⟨u, by simp [sitesAmong, hu], hut⟩
    · obtain ⟨u, hu, hut⟩ := exists_container_sitesAmong hc h
      exact ⟨u, by simp [sitesAmong, hu], hut⟩

end

/-- The container of an element stands at the place behind it. -/
theorem exists_container {root : Element} {s : Site} (h : s ∈ sites root) {t : Element}
    (hc : s.container = some t) :
    ∃ u ∈ sites root, u.element = t ∧ s.containerPlace? = some u.place := by
  rcases List.mem_cons.mp h with rfl | h
  · simp at hc
  · obtain ⟨u, hu, hut⟩ := exists_container_sitesBelow hc h
    exact ⟨u, List.mem_cons_of_mem _ hu, hut⟩

/-! ## Subtrees as stretches -/

/-- A part of a list of sites that holds all those below a place. -/
def HoldsAllBelow (place : List Nat) (part whole : List Site) : Prop :=
  ∃ before behind, whole = before ++ part ++ behind
    ∧ ∀ s ∈ before ++ behind, ¬ IsBelow place s.place

mutual

theorem holdsAllBelow_sitesBelow {place : List Nat} {s : Site} :
    ∀ {e : Element}, s ∈ sitesBelow place e →
      HoldsAllBelow s.place (sitesBelow s.place s.element) (sitesBelow place e)
  | ⟨_, _, _, children, _⟩, h => holdsAllBelow_sitesAmong (n := 0) (l := children) h

theorem holdsAllBelow_sitesAmong {parent : List Nat} {s : Site} :
    ∀ {n : Nat} {l : List Element}, s ∈ sitesAmong parent n l →
      HoldsAllBelow s.place (sitesBelow s.place s.element) (sitesAmong parent n l)
  | n, e :: l, h => by
    -- a later sibling has another number, so nothing at it or below it is below the first one
    have hrest : ∀ rest, ∀ t ∈ sitesAmong parent (n + 1) l,
        ¬ IsBelow (parent ++ n :: rest) t.place := by
      rintro rest t ht ⟨m, more, heq⟩
      exact not_isBelow_of_mem_sitesAmong ht (Nat.lt_succ_self n) (rest ++ m :: more)
        (by simpa using heq)
    simp only [sitesAmong, List.cons_append, List.mem_cons, List.mem_append] at h
    rcases h with rfl | h | h
    · refine ⟨[⟨parent ++ [n], e, containerAmong e l⟩], sitesAmong parent (n + 1) l, rfl, ?_⟩
      intro t ht hb
      rcases List.mem_append.mp ht with ht | ht
      · obtain rfl := List.mem_singleton.mp ht
        exact absurd hb.length_lt (Nat.lt_irrefl _)
      · exact hrest [] t ht hb
    · obtain ⟨before, behind, hwhole, hout⟩ := holdsAllBelow_sitesBelow h
      obtain ⟨m, more, hm⟩ := isBelow_of_mem_sitesBelow h
      refine ⟨⟨parent ++ [n], e, containerAmong e l⟩ :: before,
        behind ++ sitesAmong parent (n + 1) l, by simp [sitesAmong, hwhole], ?_⟩
      intro t ht hb
      simp only [List.cons_append, List.mem_cons, List.mem_append] at ht
      rcases ht with rfl | ht | ht | ht
      · have := hb.length_lt
        rw [hm] at this
        simp only [List.length_append, List.length_cons] at this
        omega
      · exact hout t (List.mem_append_left _ ht) hb
      · exact hout t (List.mem_append_right _ ht) hb
      · rw [hm] at hb
        exact hrest (m :: more) t ht (by simpa using hb)
    · obtain ⟨before, behind, hwhole, hout⟩ := holdsAllBelow_sitesAmong h
      obtain ⟨k, more, hk, hs⟩ := place_of_mem_sitesAmong h
      refine ⟨⟨parent ++ [n], e, containerAmong e l⟩ :: sitesBelow (parent ++ [n]) e ++ before,
        behind, by simp [sitesAmong, hwhole], ?_⟩
      intro t ht hb
      simp only [List.cons_append, List.mem_cons, List.mem_append] at ht
      -- the place that is asked about has a later number, so nothing below it starts with this one
      have hfirst : ∀ rest, t.place ≠ parent ++ n :: rest := by
        intro rest heq
        obtain ⟨m, more', hb⟩ := hb
        rw [hs] at hb
        have := (child_unique parent (heq.symm.trans (by simpa using hb))).1
        omega
      rcases ht with rfl | (ht | ht) | ht
      · exact hfirst [] rfl
      · obtain ⟨m, more', hm⟩ := isBelow_of_mem_sitesBelow ht
        exact hfirst (m :: more') (by simpa using hm)
      · exact hout t (List.mem_append_left _ ht) hb
      · exact hout t (List.mem_append_right _ ht) hb

end

/-- The sites below an element of a document are all those of the document below its place. -/
theorem holdsAllBelow_sites {root : Element} {s : Site} (h : s ∈ sites root) :
    HoldsAllBelow s.place (sitesBelow s.place s.element) (sites root) := by
  rcases List.mem_cons.mp h with rfl | h
  · refine ⟨[⟨[], root, none⟩], [], by simp [sites], ?_⟩
    intro t ht hb
    obtain rfl : t = ⟨[], root, none⟩ := by simpa using ht
    exact absurd hb.length_lt (Nat.lt_irrefl _)
  · obtain ⟨before, behind, hwhole, hout⟩ := holdsAllBelow_sitesBelow h
    refine ⟨⟨[], root, none⟩ :: before, behind, by simp [sites, hwhole], ?_⟩
    intro t ht hb
    rcases List.mem_cons.mp ht with rfl | ht
    · exact absurd hb.length_lt (Nat.not_lt_zero _)
    · exact hout t ht hb

theorem mem_sites_of_mem_sitesBelow {root : Element} {s t : Site} (hs : s ∈ sites root)
    (ht : t ∈ sitesBelow s.place s.element) : t ∈ sites root := by
  obtain ⟨before, behind, hwhole, -⟩ := holdsAllBelow_sites hs
  rw [hwhole]
  simp [ht]

/-- What is asked only of sites below a place can be asked of the subtree there. -/
theorem HoldsAllBelow.filter_eq {place : List Nat} {part whole : List Site}
    (h : HoldsAllBelow place part whole) (p : Site → Bool)
    (hp : ∀ s, p s = true → IsBelow place s.place) : whole.filter p = part.filter p := by
  obtain ⟨before, behind, rfl, hout⟩ := h
  have hnone : ∀ l ⊆ before ++ behind, l.filter p = [] := by
    intro l hl
    rw [List.filter_eq_nil_iff]
    exact fun s hs hps => hout s (hl hs) (hp s hps)
  rw [List.filter_append, List.filter_append, hnone before (List.subset_append_left ..),
    hnone behind (List.subset_append_right ..)]
  simp

end VuserScript.Plan
