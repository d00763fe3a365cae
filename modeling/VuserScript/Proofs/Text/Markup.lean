/-
  VuserScript.Proofs.Text.Markup

  Texts with tags that can be shown. A closing tag that has nothing to close is
  the only fault there is. A text without tags has none, and put behind tags that
  are closed, or in front of them, it does not change what they are.
-/
import VuserScript.Text.Markup
import Mathlib.Data.List.TakeDrop
import Mathlib.Data.List.TakeWhile

namespace VuserScript.Text.Markup

/-! ## Tags -/

/-- Whether a character is no bracket. -/
def isInside (c : Char) : Bool :=
  c ≠ '[' && c ≠ ']'

/-- Whether a character is one that a tag may start with. -/
def startsTag (c : Char) : Bool :=
  ('a' ≤ c && c ≤ 'z') || c == '#' || c == '/' || c == '@'

theorem bracketed?_eq (c : Char) (rest : List Char) : bracketed? ('[' :: c :: rest)
    = match rest.dropWhile isInside with
      | ']' :: after => if startsTag c then some (c :: rest.takeWhile isInside, after) else none
      | _ => none := by
  unfold bracketed?
  simp only [List.span_eq_takeWhile_dropWhile]
  rfl

/-- A tag starts with a character for one, and the next bracket closes it. -/
theorem bracketed?_eq_none_iff (c : Char) (rest : List Char) : bracketed? ('[' :: c :: rest) = none
    ↔ startsTag c = false ∨ (rest.dropWhile isInside).head? ≠ some ']' := by
  rw [bracketed?_eq]
  split
  · next heq =>
    rw [heq]
    cases startsTag c <;> simp
  · next hne =>
    refine iff_of_true rfl (.inr fun hhead => ?_)
    obtain ⟨after, hafter⟩ := List.head?_eq_some_iff.mp hhead
    exact hne after hafter

/-- Only an opening bracket starts a tag. -/
theorem bracketed?_of_ne {c : Char} (h : c ≠ '[') (rest : List Char) :
    bracketed? (c :: rest) = none := by
  unfold bracketed?
  split
  · next heq =>
    cases heq
    exact absurd rfl h
  · rfl

/-- A tag that is complete is found, whatever follows it. -/
theorem bracketed?_tag {c : Char} {inner : List Char} (hstart : startsTag c = true)
    (hinner : inner.all isInside = true) (after : List Char) :
    bracketed? ('[' :: c :: inner ++ ']' :: after) = some (c :: inner, after) := by
  have hall := List.all_eq_true.mp hinner
  have htake : (inner ++ ']' :: after).takeWhile isInside = inner := by
    rw [List.takeWhile_append_of_pos hall, List.takeWhile_cons_of_neg (by decide),
      List.append_nil]
  have hdrop : (inner ++ ']' :: after).dropWhile isInside = ']' :: after := by
    rw [List.dropWhile_append_of_pos hall, List.dropWhile_cons_of_neg (by decide)]
  rw [List.cons_append, List.cons_append, bracketed?_eq, hdrop, htake]
  simp only [hstart, if_true]

/-- A text in which no tag stands. -/
def HasNoTag (cs : List Char) : Prop :=
  ∀ rest, rest <:+ cs → bracketed? rest = none

/-- Without an opening bracket there is no tag. -/
theorem hasNoTag_of_not_mem {cs : List Char} (h : '[' ∉ cs) : HasNoTag cs := by
  rintro (_ | ⟨c, rest⟩) hsuffix
  · rfl
  · refine bracketed?_of_ne ?_ rest
    rintro rfl
    exact h (hsuffix.subset (.head _))

theorem HasNoTag.tail {c : Char} {cs : List Char} (h : HasNoTag (c :: cs)) : HasNoTag cs :=
  fun rest hsuffix => h rest (hsuffix.trans (List.suffix_cons c cs))

/-- Whether there is a closing bracket before any opening one. -/
def Closes (cs : List Char) : Prop :=
  (cs.dropWhile isInside).head? = some ']'

instance (cs : List Char) : Decidable (Closes cs) :=
  inferInstanceAs (Decidable ((cs.dropWhile isInside).head? = some ']'))

theorem closes_append {cs rest : List Char} (hrest : ¬ Closes rest) (h : Closes (cs ++ rest)) :
    Closes cs := by
  unfold Closes at h hrest ⊢
  rw [List.dropWhile_append] at h
  split at h
  · exact absurd h hrest
  · next hne =>
    rw [List.isEmpty_iff] at hne
    obtain ⟨c, others, heq⟩ := List.exists_cons_of_ne_nil hne
    rw [heq] at h ⊢
    exact h

/-- What follows a text without tags makes no tag of its end, unless it closes one. -/
theorem HasNoTag.append {c : Char} {cs rest : List Char} (h : HasNoTag (c :: cs))
    (hrest : ¬ Closes rest) : bracketed? (c :: cs ++ rest) = none := by
  by_cases hc : c = '['
  · subst hc
    have hnone := h _ (List.suffix_refl _)
    cases cs with
    | nil =>
      cases rest with
      | nil => rfl
      | cons d rest =>
        -- the bracket at the end would need one that closes it right behind
        refine (bracketed?_eq_none_iff d rest).mpr ?_
        by_cases hd : isInside d = true
        · refine .inr fun hcloses => hrest ?_
          rwa [Closes, List.dropWhile_cons_of_pos hd]
        · have hbracket : d = '[' ∨ d = ']' := by
            rw [isInside, Bool.and_eq_true, decide_eq_true_eq, decide_eq_true_eq] at hd
            by_contra hneither
            exact hd (not_or.mp hneither)
          rcases hbracket with rfl | rfl <;> exact .inl (by decide)
    | cons d cs =>
      refine (bracketed?_eq_none_iff d (cs ++ rest)).mpr ?_
      refine ((bracketed?_eq_none_iff d cs).mp hnone).imp_right fun hno hcloses => hno ?_
      exact closes_append hrest hcloses
  · exact bracketed?_of_ne hc _

/-! ## Texts that can be shown -/

/-- Behind some backslashes, and while some styles are open, characters have no fault. -/
def CanShow (slashes : Nat) (opened : List (List Char)) (cs : List Char) : Prop :=
  ∀ position plain fuel, cs.length < fuel →
    ∃ out, shown opened (partsFrom position plain slashes fuel cs) = .ok out

theorem ofInner_of_not_mem {inner : List Char} (h : '=' ∉ inner) :
    Tag.ofInner inner = ⟨inner, none⟩ := by
  have hall : ∀ c ∈ inner, decide (c ≠ '=') = true := by
    intro c hc
    refine decide_eq_true ?_
    rintro rfl
    exact h hc
  rw [Tag.ofInner, List.span_eq_takeWhile_dropWhile, List.takeWhile_eq_self_iff.mpr hall,
    List.dropWhile_eq_nil_iff.mpr hall]

theorem shown_text_append {opened : List (List Char)} {parts : List MarkupPart}
    (h : ∃ out, shown opened parts = .ok out) (reversed : List Char) :
    ∃ out, shown opened (textPart reversed ++ parts) = .ok out := by
  obtain ⟨out, hout⟩ := h
  unfold textPart
  split
  · exact ⟨out, hout⟩
  · refine ⟨Emoji.replace (unescaped reversed.reverse) ++ out, ?_⟩
    rw [List.singleton_append, shown, hout]
    rfl

namespace CanShow

variable {slashes : Nat} {opened : List (List Char)} {cs rest : List Char} {c : Char}

theorem nil (slashes : Nat) (opened : List (List Char)) : CanShow slashes opened [] := by
  intro position plain fuel hfuel
  obtain ⟨fuel, rfl⟩ := Nat.exists_eq_succ_of_ne_zero (Nat.ne_zero_of_lt hfuel)
  have htext : partsFrom position plain slashes (fuel + 1) []
      = textPart (List.replicate slashes '\\' ++ plain) ++ [] := by
    rw [List.append_nil]
    rfl
  rw [htext]
  exact shown_text_append ⟨[], rfl⟩ _

/-- A character that starts no tag. -/
theorem cons (h : CanShow 0 opened rest) (hslash : c ≠ '\\')
    (hnone : bracketed? (c :: rest) = none) : CanShow slashes opened (c :: rest) := by
  intro position plain fuel hfuel
  obtain ⟨fuel, rfl⟩ := Nat.exists_eq_succ_of_ne_zero (Nat.ne_zero_of_lt hfuel)
  have hnext : partsFrom position plain slashes (fuel + 1) (c :: rest)
      = partsFrom (position + 1) (c :: (List.replicate slashes '\\' ++ plain)) 0 fuel rest := by
    rw [partsFrom, hnone]
    simp only
  rw [hnext]
  exact h _ _ _ (Nat.lt_of_succ_lt_succ hfuel)

/-- A backslash is kept in mind until it is known what it stands before. -/
theorem slash (h : CanShow (slashes + 1) opened rest) : CanShow slashes opened ('\\' :: rest) := by
  intro position plain fuel hfuel
  obtain ⟨fuel, rfl⟩ := Nat.exists_eq_succ_of_ne_zero (Nat.ne_zero_of_lt hfuel)
  have hnext : partsFrom position plain slashes (fuel + 1) ('\\' :: rest)
      = partsFrom (position + 1) plain (slashes + 1) fuel rest := by
    rw [partsFrom, bracketed?_of_ne (by decide)]
    rfl
  rw [hnext]
  exact h _ _ _ (Nat.lt_of_succ_lt_succ hfuel)

/-- A text without tags does not change whether what follows it can be shown. -/
theorem append (h : ∀ slashes, CanShow slashes opened rest) (hplain : HasNoTag cs)
    (hrest : ¬ Closes rest) (slashes : Nat) : CanShow slashes opened (cs ++ rest) := by
  induction cs generalizing slashes with
  | nil => exact h slashes
  | cons c cs ih =>
    have hnext := ih hplain.tail
    by_cases hc : c = '\\'
    · subst hc
      exact slash (hnext (slashes + 1))
    · exact cons (hnext 0) hc (hplain.append hrest)

/-- A text without tags can be shown. -/
theorem of_hasNoTag (h : HasNoTag cs) (slashes : Nat) : CanShow slashes opened cs := by
  rw [← List.append_nil cs]
  exact append (fun slashes => nil slashes opened) h (by simp [Closes]) slashes

/-- A tag with no backslash in front of it, which leaves other styles open. -/
theorem tag {others : List (List Char)} {inner : List Char} (hstart : startsTag c = true)
    (hinner : inner.all isInside = true) (h : CanShow 0 others rest)
    (htag : ∀ position parts, (∃ out, shown others parts = .ok out) →
      ∃ out, shown opened (.tag (Tag.ofInner (c :: inner)) position :: parts) = .ok out) :
    CanShow 0 opened ('[' :: c :: inner ++ ']' :: rest) := by
  intro position plain fuel hfuel
  obtain ⟨fuel, rfl⟩ := Nat.exists_eq_succ_of_ne_zero (Nat.ne_zero_of_lt hfuel)
  have hparts : partsFrom position plain 0 (fuel + 1) ('[' :: c :: inner ++ ']' :: rest)
      = textPart plain ++ .tag (Tag.ofInner (c :: inner)) position
        :: partsFrom (position + (c :: inner).length + 2) [] 0 fuel rest := by
    rw [partsFrom, bracketed?_tag hstart hinner]
    simp [textPart]
  rw [hparts]
  refine shown_text_append (htag _ _ (h _ _ _ ?_)) plain
  simp only [List.length_append, List.length_cons] at hfuel
  omega

/-- A tag that opens a style, without an equals sign in it. -/
theorem opening {inner : List Char} (hstart : startsTag c = true) (hslash : c ≠ '/')
    (hinner : inner.all isInside = true) (hequals : '=' ∉ c :: inner)
    (h : CanShow 0 (Style.normalName (c :: inner) :: opened) rest) :
    CanShow 0 opened ('[' :: c :: inner ++ ']' :: rest) := by
  refine tag hstart hinner h fun position parts hparts => ?_
  rw [ofInner_of_not_mem hequals, shown]
  simp only
  split
  · next heq =>
    cases heq
    exact absurd rfl hslash
  · exact hparts

/-- A tag that closes the style that was opened last. -/
theorem closing {name : List Char} (hname : name.all isInside = true) (hequals : '=' ∉ name)
    (htrim : trimList name = name) (hne : name ≠ []) (h : CanShow 0 opened rest) :
    CanShow 0 (Style.normalName name :: opened) ('[' :: '/' :: name ++ ']' :: rest) := by
  refine tag (by decide) hname h fun position parts hparts => ?_
  have hinner : '=' ∉ '/' :: name := by simpa using hequals
  obtain ⟨d, others, rfl⟩ := List.exists_cons_of_ne_nil hne
  rw [ofInner_of_not_mem hinner, shown]
  simp only [htrim, List.contains_cons, beq_self_eq_true, Bool.true_or, if_true,
    List.erase_cons_head]
  exact hparts

/-- Characters that are neither brackets nor backslashes. -/
theorem text (h : CanShow 0 opened rest) (hcs : ∀ c ∈ cs, c ≠ '[' ∧ c ≠ '\\') :
    CanShow 0 opened (cs ++ rest) := by
  induction cs with
  | nil => exact h
  | cons c cs ih =>
    obtain ⟨hbracket, hslash⟩ := hcs c (.head _)
    exact cons (ih fun d hd => hcs d (.tail _ hd)) hslash (bracketed?_of_ne hbracket _)

end CanShow

/-! ## Styled texts -/

/-- Whether characters are the name of a style as it is written, and nothing else. -/
def isStyleName (cs : List Char) : Bool :=
  cs.all (fun c => isInside c && c != '=') && trimList cs == cs
    && cs.head?.any fun c => startsTag c && c != '/'

/-- A text in a style, between its tags. -/
def styled (style text : String) : String :=
  "[" ++ style ++ "]" ++ text ++ "[/" ++ style ++ "]"

/-- A text in a style can be shown if what follows it can. -/
theorem canShow_styled {opened : List (List Char)} {style text rest : String}
    (h : CanShow 0 opened rest.toList) (hstyle : isStyleName style.toList = true)
    (htext : ∀ c ∈ text.toList, c ≠ '[' ∧ c ≠ '\\') :
    CanShow 0 opened (styled style text ++ rest).toList := by
  have htoList : (styled style text ++ rest).toList = '[' :: style.toList
      ++ ']' :: (text.toList ++ ('[' :: '/' :: style.toList ++ ']' :: rest.toList)) := by
    simp [styled]
  rw [htoList]
  generalize style.toList = cs at hstyle
  obtain _ | ⟨c, inner⟩ := cs
  · simp [isStyleName] at hstyle
  simp only [isStyleName, List.all_eq_true, Bool.and_eq_true, beq_iff_eq, bne_iff_ne,
    List.head?_cons, Option.any_some] at hstyle
  obtain ⟨⟨hall, htrim⟩, hstart, hslash⟩ := hstyle
  have hinside : (c :: inner).all isInside = true :=
    List.all_eq_true.mpr fun d hd => (hall d hd).1
  have hequals : '=' ∉ c :: inner := fun hmem => (hall '=' hmem).2 rfl
  have hclosed := CanShow.closing hinside hequals htrim (List.cons_ne_nil c inner) h
  have hinner : inner.all isInside = true :=
    List.all_eq_true.mpr fun d hd => (hall d (.tail _ hd)).1
  exact .opening hstart hslash hinner hequals (hclosed.text htext)

/-- What a text with tags shows, if it can be shown. -/
theorem exists_plainText {s : String} (h : CanShow 0 [] s.toList) :
    ∃ out, plainText s = .ok out := by
  obtain ⟨out, hout⟩ := h 0 [] (s.toList.length + 1) (Nat.lt_succ_self _)
  refine ⟨String.ofList out, ?_⟩
  rw [plainText, parts, hout]
  rfl

end VuserScript.Text.Markup
