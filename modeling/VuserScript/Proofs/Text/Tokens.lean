/-
  VuserScript.Proofs.Text.Tokens

  Reading the tokens of a text of C: words, signs, and literals with the marks
  undone that escaping puts into them. An escaped text between quotes is read as
  one literal that says the text again, whatever stands in it. So a text that is
  put together from fixed texts and from escaped ones is read part by part.
-/
import VuserScript.Proofs.Text.Literals

namespace VuserScript.Text

/-! ## Reading tokens -/

/-- What can stand between the commas of a call: a literal, with what it says, or a word. -/
inductive Part where
  | literal (text : List Char)
  | word (name : List Char)
  deriving DecidableEq

/-- A token: a part of a call, or a sign. -/
inductive Token where
  | part (p : Part)
  | sign (c : Char)
  deriving DecidableEq

/-- Whether a character belongs to words. -/
def isWordChar (c : Char) : Bool :=
  c.isAlphanum || c == '_'

/-- Where a reader stands, with what it has read of a word or of a literal, in reverse. -/
inductive Standing where
  | outside (word : List Char)
  | inside (taken : List Char)

/-- The word that has been read, if there is any of it, and the tokens behind it. -/
def putWord (word : List Char) (tokens : List Token) : List Token :=
  if word = [] then tokens else .part (.word word.reverse) :: tokens

/-- The tokens of a text. Blanks part words and are no tokens. In a literal a backslash and a quote
that are protected by a backslash stand for themselves, and a quote that is not protected ends it. A
text that ends within a literal has no answer. -/
def tokensFrom : Standing → List Char → Option (List Token)
  | .outside word, [] => some (putWord word [])
  | .outside word, c :: rest =>
    if c = '"' then (tokensFrom (.inside []) rest).map (putWord word)
    else if isWordChar c then tokensFrom (.outside (c :: word)) rest
    else (tokensFrom (.outside []) rest).map fun tokens =>
      putWord word (if c.isWhitespace then tokens else .sign c :: tokens)
  | .inside _, [] => none
  | .inside taken, '\\' :: '\\' :: rest => tokensFrom (.inside ('\\' :: taken)) rest
  | .inside taken, '\\' :: '"' :: rest => tokensFrom (.inside ('"' :: taken)) rest
  | .inside taken, c :: rest =>
    if c = '"' then (tokensFrom (.outside []) rest).map (.part (.literal taken.reverse) :: ·)
    else tokensFrom (.inside (c :: taken)) rest

/-- The tokens of a text, read from its start. -/
def tokens? (cs : List Char) : Option (List Token) :=
  tokensFrom (.outside []) cs

theorem tokensFrom_inside {c : Char} (hquote : c ≠ '"') (hslash : c ≠ '\\')
    (taken rest : List Char) :
    tokensFrom (.inside taken) (c :: rest) = tokensFrom (.inside (c :: taken)) rest := by
  rw [tokensFrom, if_neg hquote]
  · intro rest' hc
    exact absurd hc hslash
  · intro rest' hc
    exact absurd hc hslash

/-- An escaped character is read as itself. -/
theorem tokensFrom_escapeChar (c : Char) (taken rest : List Char) :
    tokensFrom (.inside taken) (escapeChar c ++ rest) = tokensFrom (.inside (c :: taken)) rest := by
  rcases escapeChar_cases c with ⟨rfl | rfl, -⟩ | ⟨⟨hquote, hslash⟩, heq⟩
  · rfl
  · rfl
  · rw [heq]
    exact tokensFrom_inside hquote hslash taken rest

/-- An escaped text is read as itself. -/
theorem tokensFrom_escapeList (cs taken rest : List Char) :
    tokensFrom (.inside taken) (escapeList cs ++ rest)
      = tokensFrom (.inside (cs.reverse ++ taken)) rest := by
  induction cs generalizing taken with
  | nil => rfl
  | cons c cs ih =>
    rw [escapeList_cons, List.append_assoc, tokensFrom_escapeChar, ih, List.reverse_cons,
      List.append_assoc, List.singleton_append]

/-! ## Parts of a text -/

/-- A part of a text that starts and ends between tokens, with the tokens in it. -/
def Spells (text : List Char) (tokens : List Token) : Prop :=
  ∀ rest, tokens? (text ++ rest) = (tokens? rest).map (tokens ++ ·)

/-- A fixed text without quotes, at whose end no word can go on, and its tokens. -/
def IsFixed (text : List Char) (tokens : List Token) : Prop :=
  '"' ∉ text ∧ text.getLast?.all (fun c => !isWordChar c) ∧ tokens? text = some tokens

instance (text : List Char) (tokens : List Token) : Decidable (IsFixed text tokens) :=
  inferInstanceAs (Decidable ('"' ∉ text ∧ text.getLast?.all (fun c => !isWordChar c) ∧
    tokens? text = some tokens))

/-- What follows a sign or a blank is read for itself. -/
theorem exists_tokensFrom_concat {c : Char} (hquote : c ≠ '"') (hword : isWordChar c = false)
    {text : List Char} (h : '"' ∉ text) (word : List Char) :
    ∃ tokens, ∀ rest, tokensFrom (.outside word) (text ++ c :: rest)
      = (tokensFrom (.outside []) rest).map (tokens ++ ·) := by
  induction text generalizing word with
  | nil =>
    refine ⟨putWord word (if c.isWhitespace then [] else [.sign c]), fun rest => ?_⟩
    rw [List.nil_append, tokensFrom, if_neg hquote, if_neg (by simp [hword])]
    congr 1
    funext tokens
    unfold putWord
    split <;> split <;> rfl
  | cons d text ih =>
    rw [List.mem_cons, not_or] at h
    by_cases hd : isWordChar d = true
    · obtain ⟨tokens, htokens⟩ := ih h.2 (d :: word)
      refine ⟨tokens, fun rest => ?_⟩
      rw [List.cons_append, tokensFrom, if_neg (Ne.symm h.1), if_pos hd, htokens]
    · obtain ⟨tokens, htokens⟩ := ih h.2 []
      refine ⟨putWord word ((if d.isWhitespace then [] else [.sign d]) ++ tokens), fun rest => ?_⟩
      rw [List.cons_append, tokensFrom, if_neg (Ne.symm h.1), if_neg hd, htokens, Option.map_map]
      congr 1
      funext others
      simp only [Function.comp_apply, putWord]
      split <;> split <;> rfl

namespace Spells

variable {text more : List Char} {tokens others : List Token}

theorem nil : Spells [] [] := by
  intro rest
  simp

theorem append (h : Spells text tokens) (h' : Spells more others) :
    Spells (text ++ more) (tokens ++ others) := by
  intro rest
  rw [List.append_assoc, h, h', Option.map_map]
  simp [Function.comp_def]

theorem fixed (h : IsFixed text tokens) : Spells text tokens := by
  obtain ⟨hquote, hlast, htokens⟩ := h
  rcases List.eq_nil_or_concat text with rfl | ⟨text, c, rfl⟩
  · obtain rfl : [] = tokens := by simpa [tokens?, tokensFrom, putWord] using htokens
    exact nil
  rw [List.concat_eq_append] at hquote hlast htokens ⊢
  simp only [List.mem_append, List.mem_singleton, not_or] at hquote
  obtain ⟨found, hfound⟩ := exists_tokensFrom_concat (Ne.symm hquote.2) (by simpa using hlast)
    hquote.1 []
  -- what is found does not depend on the rest, so it is what is found in the text alone
  obtain rfl : found = tokens := by
    have hall := hfound []
    rw [tokens?, hall] at htokens
    simpa [tokensFrom, putWord] using htokens
  intro rest
  rw [List.append_assoc, List.singleton_append]
  exact hfound rest

/-- An escaped text between quotes is one literal. -/
theorem literal (cs : List Char) :
    Spells ('"' :: (escapeList cs ++ ['"'])) [.part (.literal cs)] := by
  intro rest
  have hopen : tokens? ('"' :: (escapeList cs ++ ['"']) ++ rest)
      = (tokensFrom (.inside []) (escapeList cs ++ '"' :: rest)).map (putWord []) := by
    simp [tokens?, tokensFrom]
  rw [hopen, tokensFrom_escapeList, tokensFrom, if_pos rfl]
  · simp [tokens?, putWord, Function.comp_def]
  · intro rest' hc
    cases hc
  · intro rest' hc
    cases hc

theorem eq_some (h : Spells text tokens) : tokens? text = some tokens := by
  have hall := h []
  rw [List.append_nil] at hall
  rw [hall]
  simp [tokens?, tokensFrom, putWord]

theorem isPartwise : IsPartwise Spells where
  empty := nil
  lineFeed := fixed (by decide)
  append := append

end Spells

end VuserScript.Text
