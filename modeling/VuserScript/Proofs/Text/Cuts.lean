/-
  VuserScript.Proofs.Text.Cuts

  A text cut into the references that are rewritten and the gaps before, between
  and behind them. There is exactly one way to cut a text so that no reference
  begins within a gap. The form of a script puts the pieces of this cut together
  again, with one dollar sign less for each reference and no other change.
-/
import VuserScript.Proofs.Text.Rewriting

namespace VuserScript.Text

variable {c : Char} {s gap name rest : List Char}

/-! ## Pieces of a text -/

/-- A text in pieces: the last gap, or a gap with a reference behind it and the pieces that
follow. -/
inductive Cut where
  | last (gap : List Char)
  | reference (gap name : List Char) (behind : Cut)

/-- No reference begins within the first part of a text, wherever it ends. -/
def NoneBegins (gap rest : List Char) : Prop :=
  ∀ tail name, tail ≠ [] → tail <:+ gap → IsReferenceName name →
    ¬ referenceTo name <+: tail ++ rest

namespace Cut

/-- The text that is cut. -/
def text : Cut → List Char
  | last gap => gap
  | reference gap name behind => gap ++ (referenceTo name ++ behind.text)

/-- The pieces put together with each reference as scripts write it. -/
def rewritten : Cut → List Char
  | last gap => gap
  | reference gap name behind => gap ++ '{' :: (name ++ '}' :: behind.rewritten)

/-- The names of the references. -/
def names : Cut → List (List Char)
  | last _ => []
  | reference _ name behind => name :: behind.names

/-- All references are complete, and none begins within a gap. -/
def IsLeftmost : Cut → Prop
  | last gap => NoneBegins gap []
  | reference gap name behind =>
    IsReferenceName name ∧ NoneBegins gap (referenceTo name ++ behind.text) ∧ behind.IsLeftmost

/-- The pieces with a character put in front of the first gap. -/
def push (c : Char) : Cut → Cut
  | last gap => last (c :: gap)
  | reference gap name behind => reference (c :: gap) name behind

@[simp] theorem text_push (c : Char) (cut : Cut) : (cut.push c).text = c :: cut.text := by
  cases cut <;> rfl

@[simp] theorem rewritten_push (c : Char) (cut : Cut) :
    (cut.push c).rewritten = c :: cut.rewritten := by
  cases cut <;> rfl

end Cut

/-! ## Gaps -/

theorem reference?_eq_none_iff :
    reference? s = none ↔ ∀ name, IsReferenceName name → ¬ referenceTo name <+: s := by
  constructor
  · rintro hnone name hname ⟨rest, rfl⟩
    rw [reference?_referenceTo hname] at hnone
    cases hnone
  · intro h
    rw [Option.eq_none_iff_forall_ne_some]
    rintro ⟨name, rest⟩ hfound
    obtain ⟨hname, hs⟩ := reference?_eq_some_iff.mp hfound
    exact h name hname ⟨rest, hs.symm⟩

theorem noneBegins_nil (rest : List Char) : NoneBegins [] rest :=
  fun _ _ hne htail => absurd (List.suffix_nil.mp htail) hne

theorem noneBegins_cons :
    NoneBegins (c :: gap) rest ↔ reference? (c :: (gap ++ rest)) = none ∧ NoneBegins gap rest := by
  rw [reference?_eq_none_iff]
  constructor
  · intro h
    have hfirst : ∀ name, IsReferenceName name → ¬ referenceTo name <+: c :: (gap ++ rest) :=
      fun name => h (c :: gap) name (List.cons_ne_nil c gap) (List.suffix_refl _)
    have hbehind : NoneBegins gap rest := fun tail name hne htail =>
      h tail name hne (htail.trans (List.suffix_cons c gap))
    exact ⟨hfirst, hbehind⟩
  · rintro ⟨hfirst, hbehind⟩ tail name hne htail
    rcases List.suffix_cons_iff.mp htail with rfl | htail
    · exact hfirst name
    · exact hbehind tail name hne htail

namespace Cut

theorem isLeftmost_push {cut : Cut} (hnone : reference? (c :: cut.text) = none)
    (h : cut.IsLeftmost) : (cut.push c).IsLeftmost := by
  cases cut with
  | last gap =>
    have hgap : reference? (c :: (gap ++ [])) = none := by rwa [List.append_nil]
    exact noneBegins_cons.mpr ⟨hgap, h⟩
  | reference gap name behind =>
    obtain ⟨hname, hgap, hbehind⟩ := h
    exact ⟨hname, noneBegins_cons.mpr ⟨hnone, hgap⟩, hbehind⟩

/-! ## The cut of a text -/

/-- The references of a text from the left, each as soon as it begins. -/
def ofText (s : List Char) : Cut :=
  match _h : reference? s with
  | some (name, rest) => reference [] name (ofText rest)
  | none =>
    match s with
    | [] => last []
    | c :: r => (ofText r).push c
termination_by s.length
decreasing_by
  · exact length_lt_of_reference? _h
  · simp

theorem ofText_nil : ofText [] = last [] := by
  rw [ofText]
  rfl

theorem ofText_of_reference (h : reference? s = some (name, rest)) :
    ofText s = reference [] name (ofText rest) := by
  rw [ofText]
  split
  · next name' rest' h' =>
    rw [h, Option.some.injEq, Prod.mk.injEq] at h'
    obtain ⟨rfl, rfl⟩ := h'
    rfl
  · next h' =>
    rw [h] at h'
    cases h'

theorem ofText_cons (h : reference? (c :: s) = none) : ofText (c :: s) = (ofText s).push c := by
  rw [ofText]
  split
  · next h' =>
    rw [h] at h'
    cases h'
  · rfl

theorem text_ofText (s : List Char) : (ofText s).text = s := by
  induction s using scriptFormList.induct with
  | case1 s name rest href ih =>
    obtain ⟨-, rfl⟩ := reference?_eq_some_iff.mp href
    rw [ofText_of_reference href, text, ih, List.nil_append]
  | case2 => rw [ofText_nil, text]
  | case3 c rest hnone ih => rw [ofText_cons hnone, text_push, ih]

theorem rewritten_ofText (s : List Char) : (ofText s).rewritten = scriptFormList s := by
  induction s using scriptFormList.induct with
  | case1 s name rest href ih =>
    rw [ofText_of_reference href, scriptFormList_of_reference href, rewritten, ih, List.nil_append]
  | case2 => rw [ofText_nil, scriptFormList_nil, rewritten]
  | case3 c rest hnone ih =>
    rw [ofText_cons hnone, scriptFormList_cons hnone, rewritten_push, ih]

theorem isLeftmost_ofText (s : List Char) : (ofText s).IsLeftmost := by
  induction s using scriptFormList.induct with
  | case1 s name rest href ih =>
    obtain ⟨hname, -⟩ := reference?_eq_some_iff.mp href
    rw [ofText_of_reference href]
    exact ⟨hname, noneBegins_nil _, ih⟩
  | case2 =>
    rw [ofText_nil]
    exact noneBegins_nil []
  | case3 c rest hnone ih =>
    rw [ofText_cons hnone]
    exact isLeftmost_push (by rwa [text_ofText]) ih

/-- A gap in which no reference begins is passed over, character by character. -/
theorem ofText_gap (hgap : NoneBegins gap rest) :
    ofText (gap ++ rest) = gap.foldr push (ofText rest) := by
  induction gap with
  | nil => rfl
  | cons c gap ih =>
    obtain ⟨hnone, hbehind⟩ := noneBegins_cons.mp hgap
    rw [List.cons_append, ofText_cons hnone, ih hbehind, List.foldr_cons]

theorem foldr_push_last (gap g : List Char) : gap.foldr push (last g) = last (gap ++ g) := by
  induction gap with
  | nil => rfl
  | cons c gap ih => rw [List.foldr_cons, ih, push, List.cons_append]

theorem foldr_push_reference (gap g name : List Char) (behind : Cut) :
    gap.foldr push (reference g name behind) = reference (gap ++ g) name behind := by
  induction gap with
  | nil => rfl
  | cons c gap ih => rw [List.foldr_cons, ih, push, List.cons_append]

/-- There is no other cut of a text in which no reference begins within a gap. -/
theorem ofText_text {cut : Cut} (h : cut.IsLeftmost) : ofText cut.text = cut := by
  induction cut with
  | last gap =>
    have hgap : ofText (gap ++ []) = gap.foldr push (ofText []) := ofText_gap h
    rw [ofText_nil, foldr_push_last, List.append_nil] at hgap
    rw [text, hgap]
  | reference gap name behind ih =>
    obtain ⟨hname, hgap, hbehind⟩ := h
    -- once the gap is passed over, the reference is the first thing that is found
    have hreference : ofText (referenceTo name ++ behind.text) = reference [] name behind := by
      rw [ofText_of_reference (reference?_referenceTo hname _), ih hbehind]
    rw [text, ofText_gap hgap, hreference, foldr_push_reference, List.append_nil]

/-! ## What is left out -/

theorem rewritten_sublist (cut : Cut) : List.Sublist cut.rewritten cut.text := by
  induction cut with
  | last gap => exact List.Sublist.refl gap
  | reference gap name behind ih =>
    have hbehind : List.Sublist (name ++ '}' :: behind.rewritten) (name ++ '}' :: behind.text) :=
      (ih.cons_cons '}').append_left name
    have hreference : List.Sublist ('{' :: (name ++ '}' :: behind.rewritten))
        (referenceTo name ++ behind.text) := by
      simpa [referenceTo] using (hbehind.cons_cons '{').cons '$'
    exact hreference.append_left gap

theorem filter_rewritten (cut : Cut) :
    cut.rewritten.filter (· != '$') = cut.text.filter (· != '$') := by
  induction cut with
  | last gap => rfl
  | reference gap name behind ih => simp [rewritten, text, referenceTo, ih]

theorem count_rewritten (cut : Cut) :
    cut.rewritten.count '$' + cut.names.length = cut.text.count '$' := by
  induction cut with
  | last gap => rfl
  | reference gap name behind ih =>
    have hopening : ('{' == '$') = false := rfl
    have hclosing : ('}' == '$') = false := rfl
    simp only [rewritten, text, names, referenceTo, List.count_append, List.count_cons,
      List.count_nil, List.length_cons, hopening, hclosing, beq_self_eq_true, if_true,
      Bool.false_eq_true, if_false]
    omega

end Cut

/-- There is one cut of a text, and no other, in which all references are complete and none begins
within a gap. The form of a script is made of its pieces, with the dollar sign of each reference
left out: characters that are none stay as they are and in their order, and there is one dollar sign
less for each reference. -/
theorem scriptForm_leftmost (s : String) :
    (∃! cut : Cut, cut.text = s.toList ∧ cut.IsLeftmost)
      ∧ ∃ cut : Cut, (cut.text = s.toList ∧ cut.IsLeftmost)
        ∧ (scriptForm s).toList = cut.rewritten
        ∧ List.Sublist (scriptForm s).toList s.toList
        ∧ (scriptForm s).toList.filter (· != '$') = s.toList.filter (· != '$')
        ∧ (scriptForm s).toList.count '$' + cut.names.length = s.toList.count '$' := by
  have htext : (Cut.ofText s.toList).text = s.toList := Cut.text_ofText s.toList
  have hleftmost : (Cut.ofText s.toList).IsLeftmost := Cut.isLeftmost_ofText s.toList
  have hform : (scriptForm s).toList = (Cut.ofText s.toList).rewritten := by
    rw [toList_scriptForm, Cut.rewritten_ofText]
  -- any such cut is the one of its own text, which is this text
  have hunique : ∀ cut : Cut, cut.text = s.toList ∧ cut.IsLeftmost → cut = Cut.ofText s.toList := by
    rintro cut ⟨hcut, hother⟩
    rw [← hcut, Cut.ofText_text hother]
  refine ⟨⟨_, ⟨htext, hleftmost⟩, hunique⟩, Cut.ofText s.toList, ⟨htext, hleftmost⟩, hform, ?_⟩
  have hsublist := (Cut.ofText s.toList).rewritten_sublist
  have hfilter := (Cut.ofText s.toList).filter_rewritten
  have hcount := (Cut.ofText s.toList).count_rewritten
  rw [← hform, htext] at hsublist hfilter hcount
  exact ⟨hsublist, hfilter, hcount⟩

/-- An opening that is not closed takes what follows for its name, up to the first brace. -/
example : scriptForm "$\x7b\x7d$$\x7ba$\x7bb\x7d" = "$\x7b\x7d$\x7ba$\x7bb\x7d" := by
  cbv

end VuserScript.Text
