/-
  VuserScript.Proofs.Text.References

  How references become those of a script, step by step: a reference at the
  start of a text loses its dollar sign, any other character stays as it is.
-/
import VuserScript.Text.Reference

namespace VuserScript.Text

variable {c : Char} {s name rest : List Char}

/-! ## References at the start -/

/-- A name that is not empty ends at the first closing brace. -/
theorem reference?_of_name (hne : name ≠ []) (hbrace : '}' ∉ name) :
    reference? ('$' :: '{' :: (name ++ '}' :: rest)) = some (name, rest) := by
  have hkept : ∀ d ∈ name, (d != '}') = true := by
    intro d hd
    rw [bne_iff_ne]
    rintro rfl
    exact hbrace hd
  obtain ⟨d, name, rfl⟩ := List.exists_cons_of_ne_nil hne
  have htake : (d :: name ++ '}' :: rest).takeWhile (· != '}') = d :: name := by
    rw [List.takeWhile_append_of_pos hkept]
    simp
  have hdrop : (d :: name ++ '}' :: rest).dropWhile (· != '}') = '}' :: rest := by
    rw [List.dropWhile_append_of_pos hkept]
    simp
  simp only [reference?, htake, hdrop]

/-! ## The form of a script -/

@[simp] theorem scriptFormList_nil : scriptFormList [] = [] := by
  rw [scriptFormList]
  rfl

theorem scriptFormList_of_reference (h : reference? s = some (name, rest)) :
    scriptFormList s = '{' :: (name ++ '}' :: scriptFormList rest) := by
  rw [scriptFormList]
  split
  · next name' rest' h' =>
    rw [h, Option.some.injEq, Prod.mk.injEq] at h'
    obtain ⟨rfl, rfl⟩ := h'
    rfl
  · next h' =>
    rw [h] at h'
    cases h'

theorem scriptFormList_cons (h : reference? (c :: s) = none) :
    scriptFormList (c :: s) = c :: scriptFormList s := by
  rw [scriptFormList]
  split
  · next h' =>
    rw [h] at h'
    cases h'
  · rfl

/-- No character is lost or added but dollar signs. -/
theorem mem_scriptFormList (h : c ≠ '$') (s : List Char) : c ∈ scriptFormList s ↔ c ∈ s := by
  induction s using scriptFormList.induct with
  | case1 s name rest href ih =>
    rw [scriptFormList_of_reference href, eq_of_reference? href]
    simp [ih, h]
  | case2 => simp
  | case3 d rest hnone ih =>
    rw [scriptFormList_cons hnone]
    simp [ih]

/-- A reference alone loses its dollar sign. -/
theorem scriptForm_reference {v : String} (hne : v ≠ "") (hbrace : '}' ∉ v.toList) :
    scriptForm ("$\x7b" ++ v ++ "\x7d") = "\x7b" ++ v ++ "\x7d" := by
  have hlist : ("$\x7b" ++ v ++ "\x7d").toList = '$' :: '{' :: (v.toList ++ '}' :: []) := by simp
  have hname : v.toList ≠ [] := fun h => hne (String.toList_eq_nil_iff.mp h)
  refine String.toList_inj.mp ?_
  rw [toList_scriptForm, hlist, scriptFormList_of_reference (reference?_of_name hname hbrace)]
  simp

end VuserScript.Text
