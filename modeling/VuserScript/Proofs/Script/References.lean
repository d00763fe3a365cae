/-
  VuserScript.Proofs.Script.References

  The references of a text that stands in a literal. The dollar sign and the two
  braces of a reference need no protection, and nothing is put before them, so
  the references of an escaped text are those of the text itself, each escaped
  where it stands. The cut of a text therefore goes over to its escaped form piece
  by piece, and it does not matter whether a text is escaped before or after its
  references are rewritten.
-/
import VuserScript.Proofs.Text.Cuts
import VuserScript.Proofs.Text.Literals
import VuserScript.Script.Statement

namespace VuserScript.Text

variable {c : Char} {s a gap name rest : List Char}

/-! ## Characters that need no protection -/

theorem escapeList_cons_of_plain (h : c ≠ '"' ∧ c ≠ '\\') (s : List Char) :
    escapeList (c :: s) = c :: escapeList s := by
  have hc : escapeChar c = [c] := by simp [escapeChar, h.1, h.2]
  rw [escapeList_cons, hc, List.singleton_append]

theorem escapeList_eq_nil_iff : escapeList s = [] ↔ s = [] := by
  constructor
  · intro h
    rw [← unescapeList_escapeList s, h]
    rfl
  · rintro rfl
    rfl

/-- A character that is not protected parts an escaped text exactly where it parts the text. -/
theorem escapeList_eq_append_cons_iff (h : c ≠ '"' ∧ c ≠ '\\') :
    escapeList s = a ++ c :: rest
      ↔ ∃ before behind, s = before ++ c :: behind ∧ escapeList before = a
        ∧ escapeList behind = rest := by
  constructor
  · intro heq
    induction s generalizing a with
    | nil =>
      rw [escapeList_eq_nil_iff.mpr rfl] at heq
      simp at heq
    | cons d s ih =>
      rw [escapeList_cons] at heq
      rcases escapeChar_cases d with ⟨hd, hchar⟩ | ⟨-, hchar⟩
      · -- neither the backslash nor the character behind it is the one that is looked for
        rw [hchar] at heq
        rcases a with _ | ⟨x, _ | ⟨y, a⟩⟩
        · exact absurd (List.cons.inj heq).1.symm h.2
        · obtain ⟨-, rfl, -⟩ : '\\' = x ∧ d = c ∧ escapeList s = rest := by simpa using heq
          exact absurd hd (by simp [h])
        · obtain ⟨rfl, rfl, hs⟩ : '\\' = x ∧ d = y ∧ escapeList s = a ++ c :: rest := by
            simpa using heq
          obtain ⟨before, behind, rfl, rfl, rfl⟩ := ih hs
          exact ⟨d :: before, behind, rfl, by rw [escapeList_cons, hchar]; rfl, rfl⟩
      · rw [hchar, List.singleton_append] at heq
        rcases a with _ | ⟨x, a⟩
        · obtain ⟨rfl, rfl⟩ : d = c ∧ escapeList s = rest := by simpa using heq
          exact ⟨[], s, rfl, rfl, rfl⟩
        · obtain ⟨rfl, hs⟩ : d = x ∧ escapeList s = a ++ c :: rest := by simpa using heq
          obtain ⟨before, behind, rfl, rfl, rfl⟩ := ih hs
          exact ⟨d :: before, behind, rfl, by rw [escapeList_cons, hchar]; rfl, rfl⟩
  · rintro ⟨before, behind, rfl, rfl, rfl⟩
    rw [escapeList_append, escapeList_cons_of_plain h]

/-! ## References and their places -/

/-- A reference with the text before it and behind it. -/
structure Spot where
  before : List Char
  name : List Char
  behind : List Char

namespace Spot

/-- The whole text around the reference, and the reference. -/
def text (spot : Spot) : List Char :=
  spot.before ++ (referenceTo spot.name ++ spot.behind)

/-- The reference is complete, and stands at this place in a text. -/
def IsIn (spot : Spot) (s : List Char) : Prop :=
  IsReferenceName spot.name ∧ spot.text = s

/-- The place with each of its three parts changed. -/
def map (f : List Char → List Char) (spot : Spot) : Spot :=
  ⟨f spot.before, f spot.name, f spot.behind⟩

end Spot

theorem isReferenceName_escapeList : IsReferenceName (escapeList name) ↔ IsReferenceName name := by
  rw [IsReferenceName, IsReferenceName, mem_escapeList (by decide), ne_eq, ne_eq,
    escapeList_eq_nil_iff]

theorem escapeList_referenceTo (name : List Char) :
    escapeList (referenceTo name) = referenceTo (escapeList name) := by
  rw [referenceTo, referenceTo, escapeList_cons_of_plain (by decide),
    escapeList_cons_of_plain (by decide), escapeList_append]
  rfl

/-- The references of an escaped text are those of the text, escaped with what is around them. -/
theorem Spot.isIn_escapeList_iff {spot : Spot} :
    spot.IsIn (escapeList s) ↔ ∃ plain : Spot, plain.IsIn s ∧ plain.map escapeList = spot := by
  constructor
  · rintro ⟨hname, htext⟩
    obtain ⟨before, name, behind⟩ := spot
    -- the dollar sign and the two braces of the reference are characters of the text
    have hdollar : escapeList s = before ++ '$' :: '{' :: (name ++ '}' :: behind) := by
      rw [← htext]
      simp [Spot.text, referenceTo]
    obtain ⟨b, s, rfl, rfl, hbrace⟩ := (escapeList_eq_append_cons_iff (by decide)).mp hdollar
    rw [← List.nil_append ('{' :: _)] at hbrace
    obtain ⟨e, s, rfl, hempty, hclosing⟩ := (escapeList_eq_append_cons_iff (by decide)).mp hbrace
    obtain rfl := escapeList_eq_nil_iff.mp hempty
    obtain ⟨n, r, rfl, rfl, rfl⟩ := (escapeList_eq_append_cons_iff (by decide)).mp hclosing
    exact ⟨⟨b, n, r⟩, ⟨isReferenceName_escapeList.mp hname, by simp [Spot.text, referenceTo]⟩, rfl⟩
  · rintro ⟨plain, ⟨hname, rfl⟩, rfl⟩
    refine ⟨isReferenceName_escapeList.mpr hname, ?_⟩
    rw [Spot.text, Spot.text, escapeList_append, escapeList_append, escapeList_referenceTo]
    rfl

/-! ## Escaped cuts -/

/-- No reference begins within an escaped gap either. -/
theorem NoneBegins.escapeList (h : NoneBegins gap rest) :
    NoneBegins (escapeList gap) (escapeList rest) := by
  rintro tail name hne ⟨lead, hlead⟩ hname ⟨after, hafter⟩
  -- what begins there is a dollar sign, which is one of the gap
  obtain ⟨d, tail, rfl⟩ := List.exists_cons_of_ne_nil hne
  obtain rfl : '$' = d := (List.cons.inj hafter).1
  obtain ⟨b, t, rfl, -, rfl⟩ := (escapeList_eq_append_cons_iff (by decide)).mp hlead.symm
  have hspot : Spot.IsIn ⟨[], name, after⟩ (escapeList ('$' :: t ++ rest)) := by
    refine ⟨hname, ?_⟩
    rw [escapeList_append, escapeList_cons_of_plain (by decide)]
    exact hafter
  obtain ⟨plain, ⟨hplain, htext⟩, hmap⟩ := Spot.isIn_escapeList_iff.mp hspot
  have hbefore : plain.before = [] := escapeList_eq_nil_iff.mp (congrArg Spot.before hmap)
  rw [Spot.text, hbefore, List.nil_append] at htext
  exact h ('$' :: t) plain.name (List.cons_ne_nil _ _) ⟨b, rfl⟩ hplain ⟨plain.behind, htext⟩

namespace Cut

/-- The cut with each of its pieces changed. -/
def map (f : List Char → List Char) : Cut → Cut
  | last gap => last (f gap)
  | reference gap name behind => reference (f gap) (f name) (behind.map f)

theorem text_map_escapeList (cut : Cut) : (cut.map escapeList).text = escapeList cut.text := by
  induction cut with
  | last gap => rfl
  | reference gap name behind ih =>
    rw [map, text, text, ih, escapeList_append, escapeList_append, escapeList_referenceTo]

theorem rewritten_map_escapeList (cut : Cut) :
    (cut.map escapeList).rewritten = escapeList cut.rewritten := by
  induction cut with
  | last gap => rfl
  | reference gap name behind ih =>
    rw [map, rewritten, rewritten, ih, escapeList_append, escapeList_cons_of_plain (by decide),
      escapeList_append, escapeList_cons_of_plain (by decide)]

theorem IsLeftmost.map_escapeList {cut : Cut} (h : cut.IsLeftmost) :
    (cut.map escapeList).IsLeftmost := by
  induction cut with
  | last gap => exact NoneBegins.escapeList h
  | reference gap name behind ih =>
    obtain ⟨hname, hgap, hbehind⟩ := h
    have hescaped := hgap.escapeList
    rw [escapeList_append, escapeList_referenceTo, ← text_map_escapeList] at hescaped
    exact ⟨isReferenceName_escapeList.mpr hname, hescaped, ih hbehind⟩

/-- A text is cut in the same places once it is escaped. -/
theorem ofText_escapeList (s : List Char) : ofText (escapeList s) = (ofText s).map escapeList := by
  have hunique := ofText_text (isLeftmost_ofText s).map_escapeList
  rwa [text_map_escapeList, text_ofText] at hunique

/-- The cuts of an escaped text are those of the text, with all their pieces escaped. -/
theorem isCut_escapeList_iff {cut : Cut} : (cut.text = escapeList s ∧ cut.IsLeftmost)
    ↔ ∃ plain : Cut, (plain.text = s ∧ plain.IsLeftmost) ∧ plain.map escapeList = cut := by
  constructor
  · rintro ⟨htext, hleftmost⟩
    -- there is only one such cut, and escaping the cut of the text gives it
    have hcut : cut = (ofText s).map escapeList := by
      rw [← ofText_escapeList, ← htext, ofText_text hleftmost]
    exact ⟨ofText s, ⟨text_ofText s, isLeftmost_ofText s⟩, hcut.symm⟩
  · rintro ⟨plain, ⟨rfl, hleftmost⟩, rfl⟩
    exact ⟨text_map_escapeList plain, hleftmost.map_escapeList⟩

end Cut

/-- So the references may be rewritten first or last. -/
theorem escapeList_scriptFormList (s : List Char) :
    escapeList (scriptFormList s) = scriptFormList (escapeList s) := by
  rw [← Cut.rewritten_ofText, ← Cut.rewritten_ofText, Cut.ofText_escapeList,
    Cut.rewritten_map_escapeList]

end VuserScript.Text

namespace VuserScript.Script

open Text (Cut Spot escape escapeList scriptForm)

/-- A literal is the same whether its text is escaped before or after the references are rewritten.
A reference stands in the escaped text exactly where one stands in the text: its name and what is
around it are escaped, so that none is made, lost or moved. This is so for the references that are
rewritten as well: the cuts of the escaped text from the left are those of the text with all their
pieces escaped. -/
theorem literal_in_either_order (s : String) :
    escape (scriptForm s) = scriptForm (escape s)
      ∧ literal s = scriptForm (escape s)
      ∧ (∀ spot : Spot, spot.IsIn (escape s).toList
        ↔ ∃ plain : Spot, plain.IsIn s.toList ∧ plain.map escapeList = spot)
      ∧ ∀ cut : Cut, (cut.text = (escape s).toList ∧ cut.IsLeftmost)
        ↔ ∃ plain : Cut, (plain.text = s.toList ∧ plain.IsLeftmost)
          ∧ plain.map escapeList = cut := by
  have horder : escape (scriptForm s) = scriptForm (escape s) := by
    refine String.toList_inj.mp ?_
    simp only [Text.toList_escape, Text.toList_scriptForm, Text.escapeList_scriptFormList]
  refine ⟨horder, horder, fun spot => ?_, fun cut => ?_⟩
  · rw [Text.toList_escape]
    exact Spot.isIn_escapeList_iff
  · rw [Text.toList_escape]
    exact Cut.isCut_escapeList_iff

/-- A name may hold quotes and backslashes: it is the same reference, under the escaped name. -/
example : literal "\"$\x7ba\"\\\x7d$\x7b" = "\\\"\x7ba\\\"\\\\\x7d$\x7b" := by
  cbv

end VuserScript.Script
