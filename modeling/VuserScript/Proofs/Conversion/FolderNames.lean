/-
  VuserScript.Proofs.Conversion.FolderNames

  The names of script folders are names that entries of a folder can have, made
  of safe characters only, and no two of a run are the same, not even when case
  is not regarded.

  The name that is chosen is found among finitely many candidates. `Search` is
  the search without that bound: it ends, and with the name that is chosen.

  The prefix has no part in the choice: it stands in front of every name that is
  compared, so that names collide under one prefix just as under another.
-/
import VuserScript.Conversion.FolderName
import VuserScript.Plan.Item
import VuserScript.Proofs.Storage.Paths
import Mathlib.Data.List.Nodup

namespace VuserScript.Conversion

open Storage (IsEntryName)

/-! ## Safe characters -/

/-- A text of safe characters. -/
def IsSafeText (s : String) : Prop :=
  ∀ c ∈ s.toList, Text.isSafe c = true

theorem isSafeText_safeName (s : String) : IsSafeText (Text.safeName s) := by
  intro c hc
  rw [Text.toList_safeName, List.mem_map] at hc
  obtain ⟨d, -, rfl⟩ := hc
  exact Text.isSafe_safeChar d

theorem IsSafeText.append {a b : String} (ha : IsSafeText a) (hb : IsSafeText b) :
    IsSafeText (a ++ b) := by
  intro c hc
  rw [String.toList_append, List.mem_append] at hc
  exact hc.elim (ha c) (hb c)

theorem isSafeText_toString (n : Nat) : IsSafeText (toString n) := by
  intro c hc
  rw [Nat.toString_eq_repr, Nat.toList_repr] at hc
  have hdigit := Nat.isDigit_of_mem_toDigits (by decide) (by decide) hc
  simp [Text.isSafe, Char.isAlphanum, hdigit]

/-- A text of safe characters is the name of an entry: it holds no period and no slash. -/
theorem IsSafeText.isEntryName {s : String} (h : IsSafeText s) (hne : s ≠ "") : IsEntryName s where
  ne_empty := hne
  ne_dot := by
    rintro rfl
    exact absurd (h '.' (by decide)) (by decide)
  ne_dots := by
    rintro rfl
    exact absurd (h '.' (by decide)) (by decide)
  no_slash := fun hc => absurd (h '/' hc) (by decide)

/-! ## Candidates -/

theorem isSafeText_of_mem_candidates {base name : String} {count : Nat} (hbase : IsSafeText base)
    (h : name ∈ candidates base count) : IsSafeText name := by
  rw [candidates, List.mem_cons, List.mem_map] at h
  rcases h with rfl | ⟨k, -, rfl⟩
  · exact hbase
  · have hmark : IsSafeText "_" := by
      intro c hc
      obtain rfl : c = '_' := by simpa using hc
      decide
    exact (hbase.append hmark).append (isSafeText_toString (k + 2))

theorem ne_empty_of_mem_candidates {base name : String} {count : Nat} (hbase : base ≠ "")
    (h : name ∈ candidates base count) : name ≠ "" := by
  rw [candidates, List.mem_cons, List.mem_map] at h
  rcases h with rfl | ⟨k, -, rfl⟩
  · exact hbase
  · intro hempty
    have := congrArg String.toList hempty
    simp at this

theorem freshName_mem_candidates (taken : List String) (base : String) :
    freshName taken base ∈ candidates base taken.length := by
  unfold freshName
  cases h : (candidates base taken.length).find? fun name => !taken.contains (folded name) with
  | none => simp [candidates]
  | some name => exact List.mem_of_find?_eq_some h

/-- The folder of a thread group with a name gets a name as well. -/
theorem isEntryName_folderName (scriptPrefix : String) (taken : List String) {group : String}
    (hgroup : group ≠ "") : IsEntryName (folderName scriptPrefix taken group) := by
  have hbase : Text.safeName (scriptPrefix ++ group) ≠ "" := by
    intro hempty
    have hlist := congrArg String.toList hempty
    rw [Text.toList_safeName, String.toList_append] at hlist
    simp only [String.toList_empty, List.map_eq_nil_iff, List.append_eq_nil_iff] at hlist
    exact hgroup (String.toList_inj.mp hlist.2)
  have hmem := freshName_mem_candidates taken (Text.safeName (scriptPrefix ++ group))
  exact (isSafeText_of_mem_candidates (isSafeText_safeName _) hmem).isEntryName
    (ne_empty_of_mem_candidates hbase hmem)

/-- No thread group is without a name. -/
theorem group_name_ne_empty (g : Plan.Group) (number : Nat) : g.name number ≠ "" := by
  unfold Plan.Group.name
  cases h : Plan.testName? g.element with
  | none =>
    intro hempty
    have := congrArg String.toList hempty
    simp at this
  | some name =>
    rintro rfl
    rw [Plan.testName?, Option.filter_eq_some_iff] at h
    exact absurd h.2 (by decide)

/-! ## Names that are told apart -/

theorem toLower_of_isDigit {c : Char} (h : c.isDigit = true) : c.toLower = c := by
  have hle : c.toNat ≤ '9'.toNat := (Char.isDigit_iff_toNat.mp h).2
  unfold Char.toLower
  rw [dif_neg]
  rintro ⟨hupper, -⟩
  exact absurd (Nat.le_trans (UInt32.le_iff_toNat_le.mp hupper) hle) (by decide)

theorem folded_numbered (base : String) (n : Nat) :
    (folded (base ++ "_" ++ toString n)).toList
      = base.toList.map Char.toLower ++ '_' :: Nat.toDigits 10 n := by
  have hdigits : (Nat.toDigits 10 n).map Char.toLower = Nat.toDigits 10 n :=
    List.map_congr_left (fun c hc => toLower_of_isDigit
      (Nat.isDigit_of_mem_toDigits (by decide) (by decide) hc)) |>.trans (List.map_id _)
  simp [folded, hdigits]

/-- The names that are tried differ from each other, without regard to case. -/
theorem nodup_folded_candidates (base : String) (count : Nat) :
    ((candidates base count).map folded).Nodup := by
  rw [candidates, List.map_cons, List.nodup_cons, List.map_map]
  constructor
  · intro hmem
    obtain ⟨k, -, hk⟩ := List.mem_map.mp hmem
    have hlength := congrArg (fun s => s.toList.length) hk
    simp only [Function.comp_apply, folded_numbered] at hlength
    simp [folded] at hlength
  · refine List.Nodup.map ?_ List.nodup_range
    intro i j hij
    have hlist := congrArg String.toList hij
    simp only [Function.comp_apply, folded_numbered, List.append_cancel_left_eq,
      List.cons.injEq, true_and] at hlist
    have hnumber := congrArg (fun ds => Nat.ofDigitChars 10 ds 0) hlist
    simpa using hnumber

/-- Among one more candidate than names are taken one must be free. -/
theorem exists_free_candidate (taken : List String) (base : String) :
    ∃ name ∈ candidates base taken.length, folded name ∉ taken := by
  by_contra hall
  push Not at hall
  have hsub : (candidates base taken.length).map folded ⊆ taken := by
    intro name hname
    obtain ⟨candidate, hcandidate, rfl⟩ := List.mem_map.mp hname
    exact hall candidate hcandidate
  have hle := (nodup_folded_candidates base taken.length).length_le_of_subset hsub
  rw [List.length_map, candidates, List.length_cons, List.length_map, List.length_range] at hle
  omega

/-- So the first free candidate is there, and it is the name that is chosen. -/
theorem find?_candidates (taken : List String) (base : String) :
    (candidates base taken.length).find? (fun name => !taken.contains (folded name))
      = some (freshName taken base) := by
  unfold freshName
  cases h : (candidates base taken.length).find? fun name => !taken.contains (folded name) with
  | some name => rfl
  | none =>
    obtain ⟨name, hmem, hfree⟩ := exists_free_candidate taken base
    exact absurd (List.find?_eq_none.mp h name hmem) (by simpa using hfree)

theorem folded_freshName_not_mem (taken : List String) (base : String) :
    folded (freshName taken base) ∉ taken := by
  simpa using List.find?_some (find?_candidates taken base)

/-- The names of the folders of a run differ from each other and from those in use, without
regard to case. -/
theorem nodup_folderNames (scriptPrefix : String) (taken groups : List String) :
    ((folderNames scriptPrefix taken groups).map folded).Nodup
      ∧ ∀ name ∈ folderNames scriptPrefix taken groups, folded name ∉ taken := by
  induction groups generalizing taken with
  | nil => simp [folderNames]
  | cons group groups ih =>
    have hfresh := folded_freshName_not_mem taken (Text.safeName (scriptPrefix ++ group))
    obtain ⟨hnodup, hfree⟩ := ih (folded (folderName scriptPrefix taken group) :: taken)
    rw [folderNames, List.map_cons, List.nodup_cons]
    refine ⟨⟨fun hmem => ?_, hnodup⟩, fun name hname => ?_⟩
    · obtain ⟨name, hname, heq⟩ := List.mem_map.mp hmem
      exact hfree name hname (heq ▸ .head _)
    · rcases List.mem_cons.mp hname with rfl | hname
      · exact hfresh
      · exact fun hmem => hfree name hname (.tail _ hmem)

/-! ## The search for a free name -/

/-- A name with a number. -/
def numbered (base : String) (n : Nat) : String :=
  base ++ "_" ++ toString n

/-- The search for a free name with no bound to it, from a name that is tried and the number that
comes next: a free name ends it, and for one that is taken the base with the number is tried. -/
inductive Search (taken : List String) (base : String) : String → Nat → String → Prop where
  | found {name : String} {n : Nat} (free : folded name ∉ taken) : Search taken base name n name
  | goOn {name result : String} {n : Nat} (used : folded name ∈ taken)
      (rest : Search taken base (numbered base n) (n + 1) result) : Search taken base name n result

/-- A name is the base if that is free, and otherwise the base with the least number from two on
that makes it free. -/
def IsFirstFree (taken : List String) (base name : String) : Prop :=
  (folded base ∉ taken ∧ name = base)
    ∨ folded base ∈ taken ∧ ∃ k, 2 ≤ k ∧ name = numbered base k ∧ folded (numbered base k) ∉ taken
        ∧ ∀ j, 2 ≤ j → j < k → folded (numbered base j) ∈ taken

theorem isFirstFree_freshName (taken : List String) (base : String) :
    IsFirstFree taken base (freshName taken base) := by
  have hfind := find?_candidates taken base
  rw [candidates, List.find?_cons] at hfind
  by_cases hbase : folded base ∈ taken
  · refine .inr ⟨hbase, ?_⟩
    simp only [List.contains_iff_mem.mpr hbase, Bool.not_true] at hfind
    obtain ⟨hfree, i, hi, hname, hbefore⟩ := List.find?_eq_some_iff_getElem.mp hfind
    rw [List.getElem_map, List.getElem_range] at hname
    have hfree : folded (numbered base (i + 2)) ∉ taken := by
      rw [numbered, hname]
      simpa using hfree
    refine ⟨i + 2, Nat.le_add_left 2 i, hname.symm, hfree, ?_⟩
    intro j hj hlt
    -- the numbers that are tried start with two
    obtain ⟨m, rfl⟩ := Nat.exists_eq_add_of_le' hj
    simpa [numbered] using hbefore m (by omega)
  · simp only [List.contains_eq_mem, hbase, decide_false, Bool.not_false, Option.some_inj] at hfind
    exact .inl ⟨hbase, hfind.symm⟩

/-- From a number on up to the least free one, the search goes on to the free one. -/
theorem search_numbered {taken : List String} {base : String} {k : Nat}
    (hfree : folded (numbered base k) ∉ taken) :
    ∀ d n, n + d = k → (∀ j, n ≤ j → j < k → folded (numbered base j) ∈ taken) →
      Search taken base (numbered base n) (n + 1) (numbered base k)
  | 0, _, rfl, _ => .found hfree
  | d + 1, n, hn, hused =>
    .goOn (hused n (Nat.le_refl n) (by omega))
      (search_numbered hfree d (n + 1) (by omega) fun j hj => hused j (by omega))

theorem IsFirstFree.search {taken : List String} {base name : String}
    (h : IsFirstFree taken base name) : Search taken base base 2 name := by
  rcases h with ⟨hfree, rfl⟩ | ⟨hbase, k, hk, rfl, hfree, hused⟩
  · exact .found hfree
  · exact .goOn hbase (search_numbered hfree (k - 2) 2 (by omega) hused)

theorem Search.unique {taken : List String} {base name result other : String} {n : Nat}
    (h : Search taken base name n result) (h' : Search taken base name n other) :
    result = other := by
  induction h with
  | found free =>
    cases h' with
    | found _ => rfl
    | goOn used _ => exact absurd used free
  | goOn used _ ih =>
    cases h' with
    | found free => exact absurd used free
    | goOn _ rest => exact ih rest

/-- The search ends, with the name that is chosen and with no other. -/
theorem search_iff {taken : List String} {base result : String} :
    Search taken base base 2 result ↔ result = freshName taken base := by
  have hsearch := (isFirstFree_freshName taken base).search
  exact ⟨fun h => h.unique hsearch, fun h => h ▸ hsearch⟩

/-! ## Folders one after another -/

theorem length_folderNames (scriptPrefix : String) (taken groups : List String) :
    (folderNames scriptPrefix taken groups).length = groups.length := by
  induction groups generalizing taken with
  | nil => rfl
  | cons group groups ih => rw [folderNames, List.length_cons, List.length_cons, ih]

/-- The names in use when a folder gets its name: those used from the start, and those of the
folders before it. -/
def takenBefore (scriptPrefix : String) (taken groups : List String) (i : Nat) : List String :=
  (((folderNames scriptPrefix taken groups).take i).map folded).reverse ++ taken

theorem getElem?_folderNames (scriptPrefix : String) (taken groups : List String) (i : Nat) :
    (folderNames scriptPrefix taken groups)[i]? = groups[i]?.map fun group =>
      folderName scriptPrefix (takenBefore scriptPrefix taken groups i) group := by
  induction groups generalizing taken i with
  | nil => rfl
  | cons group groups ih =>
    cases i with
    | zero => rfl
    | succ i =>
      have htaken : takenBefore scriptPrefix taken (group :: groups) (i + 1)
          = takenBefore scriptPrefix (folded (folderName scriptPrefix taken group) :: taken)
            groups i := by
        simp [takenBefore, folderNames]
      rw [htaken]
      exact ih _ i

/-- The folders of thread groups one after another, whatever names are in use from the start: there
is one for each, and no two of the names differ in case only, nor does one from a name in use. The
search for each name ends with it. It is a word of safe characters, and it is the safe form of
prefix and name if that is not taken yet without regard to case, and otherwise that form with the
least number from two on that is not. -/
theorem folderNames_first_free (scriptPrefix : String) (taken groups : List String)
    (hgroups : ∀ group ∈ groups, Text.isBlankText group = false) :
    (folderNames scriptPrefix taken groups).length = groups.length
    ∧ ((folderNames scriptPrefix taken groups).map folded).Nodup
    ∧ (∀ name ∈ folderNames scriptPrefix taken groups, folded name ∉ taken)
    ∧ ∀ i group name, groups[i]? = some group →
        (folderNames scriptPrefix taken groups)[i]? = some name →
        (∀ result, Search (takenBefore scriptPrefix taken groups i)
            (Text.safeName (scriptPrefix ++ group)) (Text.safeName (scriptPrefix ++ group)) 2 result
          ↔ result = name)
        ∧ name ≠ "" ∧ IsSafeText name
        ∧ IsFirstFree (takenBefore scriptPrefix taken groups i)
            (Text.safeName (scriptPrefix ++ group)) name := by
  refine ⟨length_folderNames _ _ _, (nodup_folderNames _ _ _).1, (nodup_folderNames _ _ _).2, ?_⟩
  intro i group name hgroup hname
  have hne : group ≠ "" := by
    rintro rfl
    exact absurd (hgroups "" (List.mem_of_getElem? hgroup)) (by decide)
  rw [getElem?_folderNames, hgroup, Option.map_some, Option.some_inj] at hname
  subst hname
  exact ⟨fun _ => search_iff, (isEntryName_folderName scriptPrefix _ hne).ne_empty,
    isSafeText_of_mem_candidates (isSafeText_safeName _) (freshName_mem_candidates _ _),
    isFirstFree_freshName _ _⟩

/-- The third group is called like the first but for its case, and the second has taken the name
with a two. -/
theorem folderNames_first_free_namesakes :
    (∀ group ∈ ["a b", "A_B_2", "A_B"], Text.isBlankText group = false)
    ∧ folderNames "S-" [] ["a b", "A_B_2", "A_B"] = ["S-a_b", "S-A_B_2", "S-A_B_3"]
    ∧ ((folderNames "S-" [] ["a b", "A_B_2", "A_B"]).map folded).Nodup
    ∧ Search ["s-a_b_2", "s-a_b"] "S-A_B" "S-A_B" 2 "S-A_B_3"
    ∧ IsFirstFree ["s-a_b_2", "s-a_b"] "S-A_B" "S-A_B_3" := by
  have hgroups : ∀ group ∈ ["a b", "A_B_2", "A_B"], Text.isBlankText group = false := by decide
  have hnames : folderNames "S-" [] ["a b", "A_B_2", "A_B"] = ["S-a_b", "S-A_B_2", "S-A_B_3"] := by
    decide
  obtain ⟨-, hnodup, -, hall⟩ := folderNames_first_free "S-" [] ["a b", "A_B_2", "A_B"] hgroups
  obtain ⟨hsearch, -, -, hfirst⟩ := hall 2 "A_B" "S-A_B_3" rfl (by rw [hnames]; rfl)
  have htaken : takenBefore "S-" [] ["a b", "A_B_2", "A_B"] 2 = ["s-a_b_2", "s-a_b"] := by
    rw [takenBefore, hnames]
    decide
  have hbase : Text.safeName ("S-" ++ "A_B") = "S-A_B" := by decide
  rw [htaken, hbase] at hsearch hfirst
  exact ⟨hgroups, hnames, hnodup, (hsearch _).mpr rfl, hfirst⟩

/-! ## Names behind a prefix -/

theorem safeName_append (a b : String) :
    Text.safeName (a ++ b) = Text.safeName a ++ Text.safeName b := by
  refine String.toList_inj.mp ?_
  simp only [Text.toList_safeName, String.toList_append, List.map_append]

theorem folded_append (a b : String) : folded (a ++ b) = folded a ++ folded b := by
  refine String.toList_inj.mp ?_
  simp only [folded, String.toList_append, List.map_append, String.toList_ofList]

theorem candidates_append (front base : String) (count : Nat) :
    candidates (front ++ base) count = (candidates base count).map (front ++ ·) := by
  simp only [candidates, List.map_cons, List.map_map, Function.comp_def, String.append_assoc]

/-- What stands in front of all names, those in use and the one that is asked for, has no part in
the choice. -/
theorem freshName_append (front : String) (taken : List String) (base : String) :
    freshName (taken.map (folded front ++ ·)) (front ++ base) = front ++ freshName taken base := by
  -- names are compared in folded form, where the front is the same on both sides and cancels
  have hfree : ∀ name, (taken.map (folded front ++ ·)).contains (folded (front ++ name))
      = taken.contains (folded name) := by
    intro name
    rw [folded_append, Bool.eq_iff_iff, List.contains_iff_mem, List.contains_iff_mem,
      List.mem_map]
    constructor
    · rintro ⟨used, hused, heq⟩
      rwa [← String.append_right_inj (folded front) |>.mp heq]
    · intro hused
      exact ⟨_, hused, rfl⟩
  unfold freshName
  rw [candidates_append, List.length_map, List.find?_map]
  simp only [Function.comp_def, hfree]
  cases (candidates base taken.length).find? fun name => !taken.contains (folded name) <;> rfl

/-- Nor has it in the choices one after another, each of which is in use for the next. -/
theorem folderNames_append (scriptPrefix : String) (taken groups : List String) :
    folderNames scriptPrefix (taken.map (folded (Text.safeName scriptPrefix) ++ ·)) groups
      = (folderNames "" taken groups).map (Text.safeName scriptPrefix ++ ·) := by
  induction groups generalizing taken with
  | nil => rfl
  | cons group groups ih =>
    have hname :
        folderName scriptPrefix (taken.map (folded (Text.safeName scriptPrefix) ++ ·)) group
          = Text.safeName scriptPrefix ++ folderName "" taken group := by
      rw [folderName, folderName, safeName_append, freshName_append, String.empty_append]
    have hrest := ih (folded (folderName "" taken group) :: taken)
    rw [List.map_cons, ← folded_append] at hrest
    rw [folderNames, folderNames, List.map_cons, hname, hrest]

/-- Each name is the safe form of prefix and group, alone or with a number. -/
theorem forall₂_folderNames (scriptPrefix : String) (taken groups : List String) :
    List.Forall₂ (fun group name => name = Text.safeName (scriptPrefix ++ group)
        ∨ ∃ k, 2 ≤ k ∧ name = numbered (Text.safeName (scriptPrefix ++ group)) k)
      groups (folderNames scriptPrefix taken groups) := by
  induction groups generalizing taken with
  | nil => exact .nil
  | cons group groups ih =>
    refine .cons ?_ (ih _)
    have hfirst := isFirstFree_freshName taken (Text.safeName (scriptPrefix ++ group))
    rcases hfirst with ⟨-, hname⟩ | ⟨-, k, hk, hname, -, -⟩
    · exact .inl hname
    · exact .inr ⟨k, hk, hname⟩

/-- The folders of thread groups have the same remainders behind their prefix, whatever that is: one
list of remainders serves for all prefixes, so also for any two of them. Under each prefix the name
of a folder is the safe form of the prefix with the remainder behind it. The remainder is the safe
form of the name of the group, alone or with a number. -/
theorem folderNames_remainders (groups : List String) :
    ∃ remainders : List String,
      List.Forall₂ (fun group remainder => remainder = Text.safeName group
        ∨ ∃ k, 2 ≤ k ∧ remainder = numbered (Text.safeName group) k) groups remainders
      ∧ ∀ scriptPrefix : String, folderNames scriptPrefix [] groups
          = remainders.map (Text.safeName scriptPrefix ++ ·) := by
  have hremainders := forall₂_folderNames "" [] groups
  simp only [String.empty_append] at hremainders
  refine ⟨_, hremainders, fun scriptPrefix => ?_⟩
  have hnames := folderNames_append scriptPrefix [] groups
  rwa [List.map_nil] at hnames

/-- A name that looks like one with a number is in the way under all prefixes. -/
example : folderNames "a/" [] ["b_2", "b", "B"] = ["b_2", "b", "B_3"].map ("a_" ++ ·) := by
  decide

end VuserScript.Conversion
