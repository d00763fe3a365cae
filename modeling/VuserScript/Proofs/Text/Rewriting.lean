/-
  VuserScript.Proofs.Text.Rewriting

  Which references a text has, and when they are all gone. Writing a text in the
  form of a script takes its references from the left and drops one dollar sign
  for each. A second pass finds nothing more unless the first one has joined a
  dollar sign to a brace, or has passed over a reference in the name of another.
-/
import VuserScript.Proofs.Text.References
import Mathlib.Data.List.TakeWhile

namespace VuserScript.Text

variable {c : Char} {s t name rest : List Char}

/-! ## Complete references -/

/-- A name that a reference can have. -/
def IsReferenceName (name : List Char) : Prop :=
  name ≠ [] ∧ '}' ∉ name

/-- A reference as plans write it. -/
def referenceTo (name : List Char) : List Char :=
  '$' :: '{' :: (name ++ ['}'])

/-- A reference starts a text if the text is this reference and what follows it. -/
theorem reference?_eq_some_iff :
    reference? s = some (name, rest) ↔ IsReferenceName name ∧ s = referenceTo name ++ rest := by
  have hwritten : referenceTo name ++ rest = '$' :: '{' :: (name ++ '}' :: rest) := by
    simp [referenceTo]
  rw [hwritten]
  constructor
  · intro h
    have hs := eq_of_reference? h
    refine ⟨?_, hs⟩
    -- the name is what stands before the first closing brace
    subst hs
    simp only [reference?] at h
    split at h
    · next d taken e after htake hdrop =>
      cases h
      refine ⟨List.cons_ne_nil d taken, fun hmem => ?_⟩
      rw [← htake] at hmem
      simpa using List.mem_takeWhile_imp hmem
    · cases h
  · rintro ⟨⟨hne, hbrace⟩, rfl⟩
    exact reference?_of_name hne hbrace

theorem reference?_referenceTo (h : IsReferenceName name) (rest : List Char) :
    reference? (referenceTo name ++ rest) = some (name, rest) :=
  reference?_eq_some_iff.mpr ⟨h, rfl⟩

/-- A complete reference stands somewhere in the text. -/
def HasReference (s : List Char) : Prop :=
  ∃ name, IsReferenceName name ∧ referenceTo name <:+: s

theorem hasReference_nil : ¬ HasReference [] := by
  rintro ⟨name, -, h⟩
  simp [referenceTo] at h

theorem hasReference_cons :
    HasReference (c :: s) ↔ (∃ found, reference? (c :: s) = some found) ∨ HasReference s := by
  simp only [HasReference, List.infix_cons_iff]
  constructor
  · rintro ⟨name, hname, ⟨rest, hrest⟩ | h⟩
    · exact .inl ⟨_, reference?_eq_some_iff.mpr ⟨hname, hrest.symm⟩⟩
    · exact .inr ⟨name, hname, h⟩
  · rintro (⟨⟨name, rest⟩, h⟩ | ⟨name, hname, h⟩)
    · obtain ⟨hname, hs⟩ := reference?_eq_some_iff.mp h
      exact ⟨name, hname, .inl ⟨rest, hs.symm⟩⟩
    · exact ⟨name, hname, .inr h⟩

/-! ## The references that are rewritten -/

/-- The names of the references that are rewritten, from the left. -/
def namesIn (s : List Char) : List (List Char) :=
  match _h : reference? s with
  | some (name, rest) => name :: namesIn rest
  | none =>
    match s with
    | [] => []
    | _ :: r => namesIn r
termination_by s.length
decreasing_by
  · exact length_lt_of_reference? _h
  · simp

@[simp] theorem namesIn_nil : namesIn [] = [] := by
  rw [namesIn]
  rfl

theorem namesIn_of_reference (h : reference? s = some (name, rest)) :
    namesIn s = name :: namesIn rest := by
  rw [namesIn]
  split
  · next name' rest' h' =>
    rw [h, Option.some.injEq, Prod.mk.injEq] at h'
    obtain ⟨rfl, rfl⟩ := h'
    rfl
  · next h' =>
    rw [h] at h'
    cases h'

theorem namesIn_cons (h : reference? (c :: s) = none) : namesIn (c :: s) = namesIn s := by
  rw [namesIn]
  split
  · next h' =>
    rw [h] at h'
    cases h'
  · rfl

/-- Each reference that is rewritten makes the text one character shorter. -/
theorem length_scriptFormList (s : List Char) :
    (scriptFormList s).length + (namesIn s).length = s.length := by
  induction s using scriptFormList.induct with
  | case1 s name rest href ih =>
    rw [scriptFormList_of_reference href, namesIn_of_reference href, eq_of_reference? href]
    simp only [List.length_cons, List.length_append]
    omega
  | case2 => simp
  | case3 c rest hnone ih =>
    rw [scriptFormList_cons hnone, namesIn_cons hnone, List.length_cons, List.length_cons]
    omega

/-- None is rewritten only if there is none. -/
theorem namesIn_eq_nil_iff : namesIn s = [] ↔ ¬ HasReference s := by
  induction s using scriptFormList.induct with
  | case1 s name rest href ih =>
    obtain ⟨hname, rfl⟩ := reference?_eq_some_iff.mp href
    have hhas : HasReference (referenceTo name ++ rest) :=
      ⟨name, hname, List.infix_append_left⟩
    simp [namesIn_of_reference href, hhas]
  | case2 => simp [hasReference_nil]
  | case3 c rest hnone ih =>
    rw [namesIn_cons hnone, ih, hasReference_cons]
    simp [hnone]

theorem scriptFormList_eq_self (h : ¬ HasReference s) : scriptFormList s = s := by
  induction s with
  | nil => exact scriptFormList_nil
  | cons c s ih =>
    rw [hasReference_cons, not_or] at h
    have hnone : reference? (c :: s) = none :=
      Option.eq_none_iff_forall_ne_some.mpr fun found hfound => h.1 ⟨found, hfound⟩
    rw [scriptFormList_cons hnone, ih h.2]

/-- A text stays as it is only if it has no reference. -/
theorem scriptFormList_eq_self_iff : scriptFormList s = s ↔ ¬ HasReference s := by
  refine ⟨fun h => ?_, scriptFormList_eq_self⟩
  have hlength := length_scriptFormList s
  rw [h] at hlength
  exact namesIn_eq_nil_iff.mp (List.length_eq_zero_iff.mp (by omega))

/-! ## Tangled references -/

/-- An opening of a reference that is not closed, or the dollar sign of one. -/
def IsOpening (lead : List Char) : Prop :=
  lead = ['$'] ∨ ∃ a, '}' ∉ a ∧ lead = '$' :: '{' :: a

/-- A reference stands right behind a dollar sign, or within the name of another one. -/
def HasTangledReference (s : List Char) : Prop :=
  ∃ lead name, IsOpening lead ∧ IsReferenceName name ∧ lead ++ referenceTo name <:+: s

/-- Texts are the same if they are so up to a character that both have there first and behind it. -/
theorem append_first_inj {a b : List Char} (ha : c ∉ a) (hb : c ∉ b) :
    a ++ c :: s = b ++ c :: t ↔ a = b ∧ s = t := by
  constructor
  · intro h
    have hsplit := congrArg (List.splitOn c) h
    rw [List.splitOn_append_cons_self_of_not_mem ha,
      List.splitOn_append_cons_self_of_not_mem hb] at hsplit
    obtain rfl := (List.cons.inj hsplit).1
    simpa using h
  · rintro ⟨rfl, rfl⟩
    rfl

/-- What goes on to a closing brace ends at the first brace of a text, or lies behind it. -/
theorem closed_infix_iff (hs : '}' ∉ s) (ht : '}' ∉ t) :
    t ++ ['}'] <:+: s ++ '}' :: rest ↔ t <:+ s ∨ t ++ ['}'] <:+: rest := by
  have hfirst : ∀ {u}, '}' ∉ u → (t ++ ['}'] <+: u ++ '}' :: rest ↔ t = u) := by
    intro u hu
    constructor
    · rintro ⟨after, hafter⟩
      rw [List.append_assoc, List.singleton_append, append_first_inj ht hu] at hafter
      exact hafter.1
    · rintro rfl
      exact ⟨rest, by simp⟩
  induction s with
  | nil =>
    have hnil := hfirst hs
    rw [List.nil_append] at hnil ⊢
    rw [List.infix_cons_iff, hnil, List.suffix_nil]
  | cons c s ih =>
    have hcons := hfirst hs
    rw [List.mem_cons, not_or] at hs
    rw [List.cons_append] at hcons ⊢
    rw [List.infix_cons_iff, hcons, List.suffix_cons_iff, or_assoc]
    exact or_congr Iff.rfl (ih hs.2)

theorem hasReference_append (hs : '}' ∉ s) : HasReference (s ++ '}' :: rest)
    ↔ (∃ name, IsReferenceName name ∧ '$' :: '{' :: name <:+ s) ∨ HasReference rest := by
  have hiff : ∀ {name}, IsReferenceName name → (referenceTo name <:+: s ++ '}' :: rest
      ↔ '$' :: '{' :: name <:+ s ∨ referenceTo name <:+: rest) := fun hname =>
    closed_infix_iff (t := '$' :: '{' :: _) hs (by simpa using hname.2)
  constructor
  · rintro ⟨name, hname, h⟩
    rcases (hiff hname).mp h with h | h
    · exact .inl ⟨name, hname, h⟩
    · exact .inr ⟨name, hname, h⟩
  · rintro (⟨name, hname, h⟩ | ⟨name, hname, h⟩)
    · exact ⟨name, hname, (hiff hname).mpr (.inl h)⟩
    · exact ⟨name, hname, (hiff hname).mpr (.inr h)⟩

theorem IsOpening.no_brace {lead : List Char} (h : IsOpening lead) : '}' ∉ lead := by
  rcases h with rfl | ⟨a, ha, rfl⟩
  · decide
  · simpa using ha

theorem hasTangledReference_cons : HasTangledReference (c :: s)
    ↔ (∃ lead name, IsOpening lead ∧ IsReferenceName name ∧ lead ++ referenceTo name <+: c :: s)
      ∨ HasTangledReference s := by
  simp only [HasTangledReference, List.infix_cons_iff, and_or_left, exists_or]

theorem hasTangledReference_append (hs : '}' ∉ s) : HasTangledReference (s ++ '}' :: rest)
    ↔ (∃ lead name, IsOpening lead ∧ IsReferenceName name ∧ lead ++ '$' :: '{' :: name <:+ s)
      ∨ HasTangledReference rest := by
  have hiff : ∀ {lead name}, IsOpening lead → IsReferenceName name →
      (lead ++ referenceTo name <:+: s ++ '}' :: rest
        ↔ lead ++ '$' :: '{' :: name <:+ s ∨ lead ++ referenceTo name <:+: rest) := by
    intro lead name hlead hname
    have hbrace : '}' ∉ lead ++ '$' :: '{' :: name := by
      simpa using ⟨hlead.no_brace, hname.2⟩
    simpa [referenceTo] using closed_infix_iff hs hbrace
  constructor
  · rintro ⟨lead, name, hlead, hname, h⟩
    rcases (hiff hlead hname).mp h with h | h
    · exact .inl ⟨lead, name, hlead, hname, h⟩
    · exact .inr ⟨lead, name, hlead, hname, h⟩
  · rintro (⟨lead, name, hlead, hname, h⟩ | ⟨lead, name, hlead, hname, h⟩)
    · exact ⟨lead, name, hlead, hname, (hiff hlead hname).mpr (.inl h)⟩
    · exact ⟨lead, name, hlead, hname, (hiff hlead hname).mpr (.inr h)⟩

/-- Within a name, an opening with text behind it is a reference of the script form and a tangled
one of the plan. -/
theorem opening_suffix_iff (hname : '}' ∉ name) :
    (∃ x, IsReferenceName x ∧ '$' :: '{' :: x <:+ '{' :: name)
      ↔ ∃ lead x, IsOpening lead ∧ IsReferenceName x
        ∧ lead ++ '$' :: '{' :: x <:+ '$' :: '{' :: name := by
  constructor
  · rintro ⟨x, hx, h⟩
    rcases List.suffix_cons_iff.mp h with h | ⟨a, rfl⟩
    · simp at h
    · have ha : '}' ∉ a := fun hmem => hname (List.mem_append_left _ hmem)
      exact ⟨'$' :: '{' :: a, x, .inr ⟨a, ha, rfl⟩, hx, List.suffix_refl _⟩
  · rintro ⟨lead, x, hlead, hx, h⟩
    obtain ⟨d, lead, rfl⟩ : ∃ d l, lead = d :: l := by
      rcases hlead with rfl | ⟨a, -, rfl⟩ <;> exact ⟨_, _, rfl⟩
    -- the opening has a character before it, so it starts behind the first dollar sign
    have hbehind : '$' :: '{' :: x <:+ lead ++ '$' :: '{' :: x := List.suffix_append _ _
    rcases List.suffix_cons_iff.mp h with h | h
    · rw [List.cons_append, List.cons.injEq] at h
      exact ⟨x, hx, h.2 ▸ hbehind⟩
    · exact ⟨x, hx, (hbehind.trans (List.suffix_cons d _)).trans h⟩

/-! ## References that a second pass would find -/

/-- Where no reference starts, one is made only of a dollar sign and the reference right behind. -/
theorem reference?_cons_scriptFormList_iff (hnone : reference? (c :: s) = none) :
    (∃ found, reference? (c :: scriptFormList s) = some found)
      ↔ ∃ lead name, IsOpening lead ∧ IsReferenceName name
        ∧ lead ++ referenceTo name <+: c :: s := by
  constructor
  · rintro ⟨⟨x, after⟩, hfound⟩
    obtain ⟨hx, heq⟩ := reference?_eq_some_iff.mp hfound
    obtain ⟨rfl, hform⟩ : c = '$' ∧ scriptFormList s = '{' :: (x ++ '}' :: after) := by
      simpa [referenceTo] using heq
    cases href : reference? s with
    | some found =>
      obtain ⟨name, rest⟩ := found
      obtain ⟨hname, rfl⟩ := reference?_eq_some_iff.mp href
      exact ⟨['$'], name, .inl rfl, hname, rest, rfl⟩
    | none =>
      -- then the brace is one of the plan, and what it opens is closed there as well
      exfalso
      cases s with
      | nil => simp at hform
      | cons d s =>
        rw [scriptFormList_cons href, List.cons.injEq] at hform
        obtain ⟨rfl, hform⟩ := hform
        have hclosed : '}' ∈ s := by
          rw [← mem_scriptFormList (by decide), hform]
          simp
        obtain ⟨name, rest, rfl, hbrace⟩ := List.eq_append_cons_of_mem hclosed
        by_cases hempty : name = []
        · subst hempty
          rw [List.nil_append, scriptFormList_cons rfl] at hform
          obtain ⟨e, x, rfl⟩ := List.exists_cons_of_ne_nil hx.1
          rw [List.cons_append, List.cons.injEq] at hform
          exact hx.2 (hform.1 ▸ .head _)
        · rw [reference?_of_name hempty hbrace] at hnone
          cases hnone
  · rintro ⟨lead, name, rfl | ⟨a, ha, rfl⟩, hname, rest, hrest⟩
    · obtain ⟨rfl, rfl⟩ : '$' = c ∧ referenceTo name ++ rest = s := by simpa using hrest
      rw [scriptFormList_of_reference (reference?_referenceTo hname rest)]
      exact ⟨_, reference?_of_name hname.1 hname.2⟩
    · -- an opening that is not closed would start a reference with a longer name
      have hlong : IsReferenceName (a ++ '$' :: '{' :: name) :=
        ⟨by simp, by simpa using ⟨ha, hname.2⟩⟩
      have hstart := reference?_referenceTo hlong rest
      rw [← hrest] at hnone
      simp only [referenceTo, List.cons_append, List.append_assoc] at hnone hstart
      rw [hstart] at hnone
      cases hnone

/-- A second pass finds a reference if and only if one of the plan is tangled with another or with
a dollar sign. -/
theorem hasReference_scriptFormList_iff :
    HasReference (scriptFormList s) ↔ HasTangledReference s := by
  induction s using scriptFormList.induct with
  | case1 s name rest href ih =>
    obtain ⟨hname, rfl⟩ := reference?_eq_some_iff.mp href
    have hbrace : '}' ∉ '{' :: name := by simpa using hname.2
    have hbrace' : '}' ∉ '$' :: '{' :: name := by simpa using hname.2
    have hplan : referenceTo name ++ rest = '$' :: '{' :: name ++ '}' :: rest := by
      simp [referenceTo]
    rw [scriptFormList_of_reference href, ← List.cons_append, hasReference_append hbrace, ih, hplan,
      hasTangledReference_append hbrace', opening_suffix_iff hname.2]
  | case2 =>
    simp [hasReference_nil, HasTangledReference, referenceTo]
  | case3 c rest hnone ih =>
    rw [scriptFormList_cons hnone, hasReference_cons, ih, hasTangledReference_cons,
      reference?_cons_scriptFormList_iff hnone]

/-- A second pass leaves a text in the form of a script as it is if and only if no reference is
left in it; and none is left if and only if no reference of the plan stands right behind a dollar
sign or within what another one takes for its name. -/
theorem scriptForm_again_iff (s : String) :
    (scriptForm (scriptForm s) = scriptForm s ↔ ¬ HasReference (scriptForm s).toList)
      ∧ (¬ HasReference (scriptForm s).toList ↔ ¬ HasTangledReference s.toList) := by
  rw [← String.toList_inj, toList_scriptForm, toList_scriptForm]
  exact ⟨scriptFormList_eq_self_iff, not_congr hasReference_scriptFormList_iff⟩

/-- A dollar sign before a reference makes a new one of what is left. -/
theorem not_forall_scriptForm_again :
    ¬ ∀ s : String, scriptForm (scriptForm s) = scriptForm s := by
  intro hall
  have htangled : HasTangledReference ("$$\x7ba\x7d" : String).toList :=
    ⟨['$'], ['a'], .inl rfl, ⟨by decide, by decide⟩, List.infix_refl _⟩
  have hagain := congrArg String.toList (hall "$$\x7ba\x7d")
  rw [toList_scriptForm, toList_scriptForm, scriptFormList_eq_self_iff] at hagain
  exact hagain (hasReference_scriptFormList_iff.mpr htangled)

/-! ## Texts put together -/

theorem reference?_append (h : reference? s = some (name, rest)) (t : List Char) :
    reference? (s ++ t) = some (name, rest ++ t) := by
  obtain ⟨hname, rfl⟩ := reference?_eq_some_iff.mp h
  rw [List.append_assoc]
  exact reference?_referenceTo hname (rest ++ t)

theorem namesIn_of_no_brace (h : '}' ∉ s) : namesIn s = [] := by
  rw [namesIn_eq_nil_iff]
  rintro ⟨name, -, hname⟩
  exact h (hname.subset (by simp [referenceTo]))

/-- A reference that starts in a text and is closed only by what follows it. -/
theorem no_brace_of_reference?_append (hnone : reference? s = none)
    (h : reference? (s ++ t) = some (name, rest)) : '}' ∉ s := by
  intro hbrace
  obtain ⟨a, b, rfl, ha⟩ := List.eq_append_cons_of_mem hbrace
  obtain ⟨hname, heq⟩ := reference?_eq_some_iff.mp h
  have hlead : '}' ∉ '$' :: '{' :: name := by simpa using hname.2
  have hfirst : a ++ '}' :: (b ++ t) = '$' :: '{' :: name ++ '}' :: rest := by
    simpa [referenceTo] using heq
  obtain ⟨rfl, -⟩ := (append_first_inj ha hlead).mp hfirst
  have hstart : reference? ('$' :: '{' :: name ++ '}' :: b) = some (name, b) :=
    reference?_of_name hname.1 hname.2
  rw [hstart] at hnone
  cases hnone

/-- The references of a text are rewritten in whatever it is the beginning of. -/
theorem namesIn_append_begins (s t : List Char) : namesIn s <+: namesIn (s ++ t) := by
  induction s using scriptFormList.induct with
  | case1 s name rest href ih =>
    rw [namesIn_of_reference href, namesIn_of_reference (reference?_append href t)]
    exact (List.prefix_cons_inj name).mpr ih
  | case2 => simp
  | case3 c rest hnone ih =>
    rw [List.cons_append]
    cases hlong : reference? (c :: (rest ++ t)) with
    | none =>
      rw [namesIn_cons hnone, namesIn_cons hlong]
      exact ih
    | some found =>
      rw [namesIn_of_no_brace (no_brace_of_reference?_append hnone hlong)]
      exact List.nil_prefix

/-- Of two texts put together only the first is rewritten if and only if there are no references
but those of the first: none in the second, and none that is made of both. -/
theorem scriptFormList_append_iff :
    scriptFormList (s ++ t) = scriptFormList s ++ t ↔ namesIn (s ++ t) = namesIn s := by
  constructor
  · intro h
    have hlength := congrArg List.length h
    have hboth := length_scriptFormList (s ++ t)
    have hfirst := length_scriptFormList s
    rw [List.length_append] at hlength hboth
    exact ((namesIn_append_begins s t).eq_of_length (by omega)).symm
  · intro h
    induction s using scriptFormList.induct with
    | case1 s name rest href ih =>
      have hlong := reference?_append href t
      rw [namesIn_of_reference href, namesIn_of_reference hlong, List.cons.injEq] at h
      rw [scriptFormList_of_reference href, scriptFormList_of_reference hlong, ih h.2]
      simp
    | case2 =>
      rw [List.nil_append, namesIn_nil, namesIn_eq_nil_iff] at h
      simpa using scriptFormList_eq_self h
    | case3 c rest hnone ih =>
      rw [List.cons_append] at h ⊢
      cases hlong : reference? (c :: (rest ++ t)) with
      | none =>
        rw [namesIn_cons hnone, namesIn_cons hlong] at h
        rw [scriptFormList_cons hnone, scriptFormList_cons hlong, ih h, List.cons_append]
      | some found =>
        rw [namesIn_of_no_brace (no_brace_of_reference?_append hnone hlong),
          namesIn_of_reference hlong] at h
        cases h

end VuserScript.Text
