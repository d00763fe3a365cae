/-
  VuserScript.Proofs.Text.Parts

  The parts of a text between separators, and what trimming leaves of a text: the
  part between the blanks at its two ends. No blank stands at an end of this part,
  and it is the only part that has nothing but blanks around it and none at its
  ends.
-/
import VuserScript.Text.Blank
import Mathlib.Data.List.TakeWhile

namespace VuserScript.Text

/-! ## Between separators -/

section Separators

variable {α : Type} {separator : α} {text part : List α}

/-- A part of a text between separators holds none of them. -/
theorem not_mem_of_mem_splitOn [BEq α] [LawfulBEq α] (h : part ∈ text.splitOn separator) :
    separator ∉ part := by
  induction text generalizing part with
  | nil =>
    obtain rfl : part = [] := List.mem_singleton.mp h
    exact List.not_mem_nil
  | cons c rest ih =>
    obtain ⟨first, parts, hsplit⟩ := List.exists_cons_of_ne_nil (List.splitOn_ne_nil separator rest)
    rw [hsplit] at ih
    rw [List.splitOn_cons_eq_if_modifyHead, hsplit] at h
    by_cases hc : c = separator
    · subst hc
      rw [if_pos (beq_self_eq_true c)] at h
      rcases List.mem_cons.mp h with rfl | h
      · exact List.not_mem_nil
      · exact ih h
    · -- the character goes into the first part of the rest
      rw [if_neg (by simpa using hc)] at h
      rcases List.mem_cons.mp h with rfl | h
      · exact List.not_mem_cons_of_ne_of_not_mem (Ne.symm hc) (ih (.head _))
      · exact ih (.tail _ h)

theorem intercalate_cons (between first : List α) (others : List (List α)) :
    between.intercalate (first :: others) = first ++ others.flatMap (between ++ ·) := by
  induction others generalizing first with
  | nil => simp
  | cons other others ih =>
    rw [List.intercalate_cons_cons, ih, List.flatMap_cons, List.append_assoc, List.append_assoc]

end Separators

/-! ## Between blanks -/

variable {name before behind cs : List Char}

/-- No blank stands at either end. -/
def IsTrimmed (cs : List Char) : Prop :=
  (∀ c ∈ cs.head?, isBlank c = false) ∧ ∀ c ∈ cs.getLast?, isBlank c = false

/-- The blanks before the first character that is none. -/
def blanksBefore (cs : List Char) : List Char :=
  cs.takeWhile isBlank

/-- The blanks behind the last character that is none; none of a text of blanks only. -/
def blanksBehind (cs : List Char) : List Char :=
  ((cs.dropWhile isBlank).reverse.takeWhile isBlank).reverse

theorem isBlank_of_mem_blanksBefore : ∀ c ∈ blanksBefore cs, isBlank c = true :=
  fun _ hc => List.mem_takeWhile_imp hc

theorem isBlank_of_mem_blanksBehind : ∀ c ∈ blanksBehind cs, isBlank c = true :=
  fun _ hc => List.mem_takeWhile_imp (List.mem_reverse.mp hc)

theorem trimList_append_blanksBehind (cs : List Char) :
    trimList cs ++ blanksBehind cs = cs.dropWhile isBlank := by
  rw [trimList, blanksBehind, ← List.reverse_append, List.takeWhile_append_dropWhile,
    List.reverse_reverse]

/-- Only blanks at the ends of a text are trimmed. -/
theorem blanksBefore_append_trimList (cs : List Char) :
    blanksBefore cs ++ (trimList cs ++ blanksBehind cs) = cs := by
  rw [trimList_append_blanksBehind, blanksBefore, List.takeWhile_append_dropWhile]

theorem isTrimmed_trimList (cs : List Char) : IsTrimmed (trimList cs) := by
  have hfirst : ∀ ds : List Char, ∀ c ∈ (ds.dropWhile isBlank).head?, isBlank c = false := by
    intro ds c hc
    have hds := List.head?_dropWhile_not isBlank ds
    rw [Option.mem_def.mp hc] at hds
    simpa using hds
  constructor
  · -- what trimming leaves starts as the text does behind its first blanks
    intro c hc
    refine hfirst cs c ?_
    rw [← trimList_append_blanksBehind, List.head?_append, Option.mem_def.mp hc]
    rfl
  · intro c hc
    rw [trimList, List.getLast?_reverse] at hc
    exact hfirst _ c hc

theorem dropWhile_blanks_append (hbefore : ∀ c ∈ before, isBlank c = true)
    (hfirst : ∀ c ∈ cs.head?, isBlank c = false) : (before ++ cs).dropWhile isBlank = cs := by
  rw [List.dropWhile_append_of_pos hbefore]
  cases cs with
  | nil => rfl
  | cons c cs => rw [List.dropWhile_cons, hfirst c rfl, if_neg Bool.false_ne_true]

/-- All blanks around a trimmed text are trimmed, and nothing else is. -/
theorem trimList_of_isTrimmed (hname : IsTrimmed name) (hbefore : ∀ c ∈ before, isBlank c = true)
    (hbehind : ∀ c ∈ behind, isBlank c = true) : trimList (before ++ (name ++ behind)) = name := by
  cases name with
  | nil =>
    have hall : ∀ c ∈ before ++ behind, isBlank c = true := by
      intro c hc
      exact (List.mem_append.mp hc).elim (hbefore c) (hbehind c)
    have hgone : (before ++ behind).dropWhile isBlank = [] := List.dropWhile_eq_nil_iff.mpr hall
    rw [List.nil_append, trimList, hgone]
    rfl
  | cons c name =>
    have hreversed : ∀ d ∈ behind.reverse, isBlank d = true :=
      fun d hd => hbehind d (List.mem_reverse.mp hd)
    have hlast : ∀ d ∈ (c :: name).reverse.head?, isBlank d = false := by
      rw [List.head?_reverse]
      exact hname.2
    have hfront : (before ++ (c :: name ++ behind)).dropWhile isBlank = c :: name ++ behind :=
      dropWhile_blanks_append hbefore hname.1
    rw [trimList, hfront, List.reverse_append, dropWhile_blanks_append hreversed hlast,
      List.reverse_reverse]

end VuserScript.Text
