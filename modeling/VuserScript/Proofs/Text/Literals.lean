/-
  VuserScript.Proofs.Text.Literals

  Reading the string literals of C back from a text. An escaped text stays
  within its literal, whatever its characters are: the literal ends at the quote
  that is put behind it, and what is read of it gives the text again. Neither
  escaping nor writing references in the form of a script adds or removes a line
  break, so a literal is broken over lines exactly if the text in it is.
-/
import VuserScript.Proofs.Text.References
import VuserScript.Text.Literal

namespace VuserScript.Text

/-! ## Reading literals -/

/-- The literals of a text, without the quotes around them. A double quote opens a literal; in it a
backslash protects the next character, and a double quote that is not protected closes it. The state
is what has been read of an open literal, in reverse, and `none` outside of literals. A text that
ends within a literal has no answer. -/
def literalsFrom : Option (List Char) → List Char → Option (List (List Char))
  | none, [] => some []
  | none, c :: rest => literalsFrom (if c = '"' then some [] else none) rest
  | some _, [] => none
  | some taken, '\\' :: c :: rest => literalsFrom (some (c :: '\\' :: taken)) rest
  | some taken, c :: rest =>
    if c = '"' then (literalsFrom none rest).map (taken.reverse :: ·)
    else literalsFrom (some (c :: taken)) rest

/-- The literals of a text, read from its start. -/
def literals? (s : String) : Option (List (List Char)) :=
  literalsFrom none s.toList

theorem literalsFrom_quote (rest : List Char) :
    literalsFrom none ('"' :: rest) = literalsFrom (some []) rest := rfl

theorem literalsFrom_outside {c : Char} (h : c ≠ '"') (rest : List Char) :
    literalsFrom none (c :: rest) = literalsFrom none rest := by
  rw [literalsFrom, if_neg h]

theorem literalsFrom_close (taken rest : List Char) :
    literalsFrom (some taken) ('"' :: rest)
      = (literalsFrom none rest).map (taken.reverse :: ·) := rfl

theorem literalsFrom_within {c : Char} (hquote : c ≠ '"') (hslash : c ≠ '\\')
    (taken rest : List Char) :
    literalsFrom (some taken) (c :: rest) = literalsFrom (some (c :: taken)) rest := by
  rw [literalsFrom, if_neg hquote]
  intro d rest' hc
  exact absurd hc hslash

/-! ## Parts of a text -/

/-- A way of saying what is in a text that goes part by part, with nothing in a line feed. -/
structure IsPartwise {α : Type} (tells : List Char → List α → Prop) : Prop where
  empty : tells [] []
  lineFeed : tells ['\n'] []
  append {a b : List Char} {found others : List α} (ha : tells a found) (hb : tells b others) :
    tells (a ++ b) (found ++ others)

namespace IsPartwise

variable {α : Type} {tells : List Char → List α → Prop} {found others : List α}

theorem append_lines (h : IsPartwise tells) {lines more : List String}
    (hlines : tells (lines.flatMap fun line => '\n' :: line.toList) found)
    (hmore : tells (more.flatMap fun line => '\n' :: line.toList) others) :
    tells ((lines ++ more).flatMap fun line => '\n' :: line.toList) (found ++ others) := by
  rw [List.flatMap_append]
  exact h.append hlines hmore

theorem cons_line (h : IsPartwise tells) {line : String} {lines : List String}
    (hline : tells line.toList found)
    (hlines : tells (lines.flatMap fun line => '\n' :: line.toList) others) :
    tells ((line :: lines).flatMap fun line => '\n' :: line.toList) (found ++ others) :=
  h.append (h.append h.lineFeed hline) hlines

end IsPartwise

/-- A part that starts and ends outside of literals, with the literals in it. -/
def ReadsAs (text : List Char) (found : List (List Char)) : Prop :=
  ∀ rest, literalsFrom none (text ++ rest) = (literalsFrom none rest).map (found ++ ·)

/-- A part that starts and ends in one and the same literal. -/
def StaysWithin (body : List Char) : Prop :=
  ∀ taken rest, literalsFrom (some taken) (body ++ rest)
    = literalsFrom (some (body.reverse ++ taken)) rest

namespace ReadsAs

theorem append {a b : List Char} {found others : List (List Char)} (ha : ReadsAs a found)
    (hb : ReadsAs b others) : ReadsAs (a ++ b) (found ++ others) := by
  intro rest
  rw [List.append_assoc, ha, hb, Option.map_map]
  simp [Function.comp_def]

/-- Text without quotes has no literals. -/
theorem of_no_quote {text : List Char} (h : '"' ∉ text) : ReadsAs text [] := by
  intro rest
  induction text with
  | nil => simp
  | cons c text ih =>
    rw [List.mem_cons, not_or] at h
    rw [List.cons_append, literalsFrom_outside (Ne.symm h.1), ih h.2]

/-- A text that stays within a literal is one between quotes. -/
theorem literal {body : List Char} (h : StaysWithin body) :
    ReadsAs ('"' :: (body ++ ['"'])) [body] := by
  intro rest
  rw [List.cons_append, literalsFrom_quote, List.append_assoc, h, List.singleton_append,
    literalsFrom_close]
  simp

theorem eq_some {text : List Char} {found : List (List Char)} (h : ReadsAs text found) :
    literalsFrom none text = some found := by
  have hall := h []
  rw [List.append_nil] at hall
  rw [hall]
  simp [literalsFrom]

theorem isPartwise : IsPartwise ReadsAs where
  empty := of_no_quote List.not_mem_nil
  lineFeed := of_no_quote (by decide)
  append := append

end ReadsAs

namespace StaysWithin

theorem append {a b : List Char} (ha : StaysWithin a) (hb : StaysWithin b) :
    StaysWithin (a ++ b) := by
  intro taken rest
  rw [List.append_assoc, ha, hb, List.reverse_append, List.append_assoc]

theorem of_plain {body : List Char} (h : ∀ c ∈ body, c ≠ '"' ∧ c ≠ '\\') : StaysWithin body := by
  intro taken rest
  induction body generalizing taken with
  | nil => rfl
  | cons c body ih =>
    obtain ⟨hquote, hslash⟩ := h c (.head _)
    rw [List.cons_append, literalsFrom_within hquote hslash, ih fun d hd => h d (.tail _ hd)]
    simp

end StaysWithin

/-! ## Escaped texts -/

/-- One character as it stands in a literal. -/
def escapeChar (c : Char) : List Char :=
  if c = '\\' then ['\\', '\\'] else if c = '"' then ['\\', '"'] else [c]

/-- A character that would end a literal, or protect another one, is protected, and any other stands
for itself. -/
theorem escapeChar_cases (c : Char) : (c = '\\' ∨ c = '"') ∧ escapeChar c = ['\\', c]
    ∨ (c ≠ '"' ∧ c ≠ '\\') ∧ escapeChar c = [c] := by
  by_cases hslash : c = '\\'
  · subst hslash
    exact .inl ⟨.inl rfl, rfl⟩
  by_cases hquote : c = '"'
  · subst hquote
    exact .inl ⟨.inr rfl, rfl⟩
  · exact .inr ⟨⟨hquote, hslash⟩, by simp [escapeChar, hslash, hquote]⟩

/-- The two steps of escaping are one pass over the characters: the backslashes of the second step
are no characters of the first. -/
theorem escapeList_eq_flatMap (cs : List Char) : escapeList cs = cs.flatMap escapeChar := by
  simp only [escapeList, markQuotes, doubleBackslashes, List.flatMap_assoc]
  congr 1
  funext c
  by_cases hslash : c = '\\'
  · subst hslash
    rfl
  · simp [escapeChar, hslash]

theorem escapeList_cons (c : Char) (cs : List Char) :
    escapeList (c :: cs) = escapeChar c ++ escapeList cs := by
  simp only [escapeList_eq_flatMap, List.flatMap_cons]

theorem escapeList_append (a b : List Char) :
    escapeList (a ++ b) = escapeList a ++ escapeList b := by
  simp only [escapeList_eq_flatMap, List.flatMap_append]

/-- A text with nothing to protect stays as it is. -/
theorem escapeList_of_plain {cs : List Char} (h : ∀ c ∈ cs, c ≠ '"' ∧ c ≠ '\\') :
    escapeList cs = cs := by
  induction cs with
  | nil => rfl
  | cons c cs ih =>
    obtain ⟨hquote, hslash⟩ := h c (.head _)
    rw [escapeList_cons, ih fun d hd => h d (.tail _ hd)]
    simp [escapeChar, hquote, hslash]

theorem staysWithin_escapeChar (c : Char) : StaysWithin (escapeChar c) := by
  intro taken rest
  rcases escapeChar_cases c with ⟨-, heq⟩ | ⟨⟨hquote, hslash⟩, heq⟩
  · rw [heq]
    rfl
  · rw [heq]
    exact literalsFrom_within hquote hslash taken rest

theorem staysWithin_escapeList (cs : List Char) : StaysWithin (escapeList cs) := by
  induction cs with
  | nil => exact fun _ _ => rfl
  | cons c cs ih =>
    rw [escapeList_cons]
    exact (staysWithin_escapeChar c).append ih

/-- A text in which each protected backslash and each protected quote stands for itself. -/
def unescapeList : List Char → List Char
  | [] => []
  | '\\' :: '\\' :: rest => '\\' :: unescapeList rest
  | '\\' :: '"' :: rest => '"' :: unescapeList rest
  | c :: rest => c :: unescapeList rest

theorem unescapeList_escapeChar_append (c : Char) (rest : List Char) :
    unescapeList (escapeChar c ++ rest) = c :: unescapeList rest := by
  rcases escapeChar_cases c with ⟨rfl | rfl, heq⟩ | ⟨⟨-, hslash⟩, heq⟩
  · rfl
  · rfl
  · rw [heq, List.singleton_append, unescapeList] <;> simp [hslash]

/-- Escaping is undone. -/
theorem unescapeList_escapeList (cs : List Char) : unescapeList (escapeList cs) = cs := by
  induction cs with
  | nil => rfl
  | cons c cs ih => rw [escapeList_cons, unescapeList_escapeChar_append, ih]

/-! ## The end of a literal -/

/-- A literal read from behind the quote that opens it: what is in it, and what follows the quote
that closes it. A backslash protects the next character, and the first double quote that is not
protected closes the literal. -/
def readLiteral? : List Char → Option (List Char × List Char)
  | [] => none
  | '\\' :: c :: rest => (readLiteral? rest).map fun found => ('\\' :: c :: found.1, found.2)
  | c :: rest =>
    if c = '"' then some ([], rest)
    else (readLiteral? rest).map fun found => (c :: found.1, found.2)

theorem readLiteral?_within {c : Char} (hquote : c ≠ '"') (hslash : c ≠ '\\') (rest : List Char) :
    readLiteral? (c :: rest) = (readLiteral? rest).map fun found => (c :: found.1, found.2) := by
  rw [readLiteral?, if_neg hquote]
  intro d rest' hc
  exact absurd hc hslash

/-- An escaped character does not close a literal. -/
theorem readLiteral?_escapeChar_append (c : Char) (rest : List Char) :
    readLiteral? (escapeChar c ++ rest)
      = (readLiteral? rest).map fun found => (escapeChar c ++ found.1, found.2) := by
  rcases escapeChar_cases c with ⟨-, heq⟩ | ⟨⟨hquote, hslash⟩, heq⟩
  · rw [heq]
    rfl
  · rw [heq]
    exact readLiteral?_within hquote hslash rest

/-- An escaped text does not either, so that the quote behind it does. -/
theorem readLiteral?_escapeList_append (cs rest : List Char) :
    readLiteral? (escapeList cs ++ '"' :: rest) = some (escapeList cs, rest) := by
  induction cs with
  | nil => rfl
  | cons c cs ih =>
    rw [escapeList_cons, List.append_assoc, readLiteral?_escapeChar_append, ih, Option.map_some]

/-- Put between quotes, an escaped text is read up to the quote behind it, and undoing the marks in
what is read gives the text again. So no two texts are escaped alike. The two steps of escaping are
one pass over the characters. -/
theorem escape_closed_by_quote :
    (∀ t r : String, ∃ body, readLiteral? ((escape t).toList ++ '"' :: r.toList)
        = some (body, r.toList) ∧ body = (escape t).toList ∧ unescapeList body = t.toList)
      ∧ Function.Injective escape
      ∧ ∀ t : String, markQuotes (doubleBackslashes t.toList) = t.toList.flatMap escapeChar
        ∧ (escape t).toList = t.toList.flatMap escapeChar := by
  refine ⟨fun t r => ?_, fun t u h => ?_, fun t => ?_⟩
  · rw [toList_escape]
    exact ⟨_, readLiteral?_escapeList_append t.toList r.toList, rfl, unescapeList_escapeList _⟩
  · -- what is escaped alike is the same once the marks are undone
    have hlists : escapeList t.toList = escapeList u.toList := by
      rw [← toList_escape, h, toList_escape]
    have hundone := congrArg unescapeList hlists
    rw [unescapeList_escapeList, unescapeList_escapeList] at hundone
    exact String.toList_inj.mp hundone
  · have honce := escapeList_eq_flatMap t.toList
    exact ⟨honce, by rw [toList_escape, honce]⟩

/-! ## Line breaks -/

/-- A text with a line feed or a carriage return. -/
def HasBreak (cs : List Char) : Prop :=
  '\n' ∈ cs ∨ '\r' ∈ cs

instance : DecidablePred HasBreak := fun cs =>
  inferInstanceAs (Decidable ('\n' ∈ cs ∨ '\r' ∈ cs))

@[simp] theorem hasBreak_append (a b : List Char) :
    HasBreak (a ++ b) ↔ HasBreak a ∨ HasBreak b := by
  simp only [HasBreak, List.mem_append]
  grind

theorem mem_escapeList {c : Char} (h : c ≠ '\\') (cs : List Char) :
    c ∈ escapeList cs ↔ c ∈ cs := by
  have hchar : ∀ d, c ∈ escapeChar d ↔ c = d := by
    intro d
    rcases escapeChar_cases d with ⟨-, heq⟩ | ⟨-, heq⟩ <;> simp [heq, h]
  simp [escapeList_eq_flatMap, hchar]

theorem hasBreak_escapeList (cs : List Char) : HasBreak (escapeList cs) ↔ HasBreak cs := by
  rw [HasBreak, mem_escapeList (by decide), mem_escapeList (by decide), HasBreak]

theorem hasBreak_scriptFormList (cs : List Char) : HasBreak (scriptFormList cs) ↔ HasBreak cs := by
  rw [HasBreak, mem_scriptFormList (by decide), mem_scriptFormList (by decide), HasBreak]

end VuserScript.Text
