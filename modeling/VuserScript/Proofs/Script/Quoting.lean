/-
  VuserScript.Proofs.Script.Quoting

  The literals in the text of an action. Whatever the plan says, the text ends
  outside of literals: each text that a statement quotes stays within the quotes
  that are put around it. Line breaks are kept, though, so a literal is broken
  over lines exactly if one of the quoted texts is.
-/
import VuserScript.Options
import VuserScript.Proofs.Text.Literals
import VuserScript.Script.Action
import VuserScript.Script.Bundle
import VuserScript.Xml.Document
import Mathlib.Data.List.Basic

namespace VuserScript.Script

open Plan (Argument Correlation Request)
open Text (HasBreak ReadsAs StaysWithin literals?)

/-! ## Quoted texts -/

/-- The texts of the plan that a request quotes, by the form in which it is written. -/
def quotedByRequest (r : Request) : List String :=
  r.name :: r.baseUrl ::
    if r.isGet then r.arguments.flatMap fun a => [a.name, a.value]
    else r.method ::
      if r.rawBody then (r.arguments.head?.map Argument.value).toList
      else r.arguments.flatMap fun a => [a.name, a.value]

/-- The texts of the plan that a statement quotes. -/
def Statement.quoted : Statement → List String
  | .register c => [c.parameter, c.expression]
  | .start name | .finish name => [name]
  | .request r => quotedByRequest r

/-- Some of the texts are broken over lines. -/
def AnyBreak (texts : List String) : Prop :=
  ∃ t ∈ texts, HasBreak t.toList

@[simp] theorem anyBreak_nil : ¬ AnyBreak [] := by
  simp [AnyBreak]

@[simp] theorem anyBreak_cons (t : String) (texts : List String) :
    AnyBreak (t :: texts) ↔ HasBreak t.toList ∨ AnyBreak texts := by
  simp [AnyBreak]

@[simp] theorem anyBreak_append (a b : List String) :
    AnyBreak (a ++ b) ↔ AnyBreak a ∨ AnyBreak b := by
  simp only [AnyBreak, List.mem_append, or_and_right, exists_or]

/-! ## Parts that quote texts -/

/-- The inside of a literal that is broken over lines exactly if one of some texts is. -/
structure Holds (body : String) (texts : List String) : Prop where
  within : StaysWithin body.toList
  broken : HasBreak body.toList ↔ AnyBreak texts

theorem holds_escape (s : String) : Holds (Text.escape s) [s] where
  within := by
    rw [Text.toList_escape]
    exact Text.staysWithin_escapeList s.toList
  broken := by
    rw [Text.toList_escape, Text.hasBreak_escapeList]
    simp

theorem holds_literal (s : String) : Holds (literal s) [s] where
  within := (holds_escape (Text.scriptForm s)).within
  broken := by
    rw [literal, (holds_escape _).broken]
    simp [Text.hasBreak_scriptFormList]

/-- A fixed text between the quotes, without quotes, backslashes and line breaks of its own. -/
def IsPlain (s : String) : Prop :=
  ∀ c ∈ s.toList, c ≠ '"' ∧ c ≠ '\\' ∧ c ≠ '\n' ∧ c ≠ '\r'

-- Not by inference, which may come upon an instance that goes through all characters there are.
instance : DecidablePred IsPlain := fun s =>
  List.decidableBAll (fun c => c ≠ '"' ∧ c ≠ '\\' ∧ c ≠ '\n' ∧ c ≠ '\r') s.toList

theorem IsPlain.holds {s : String} (h : IsPlain s) : Holds s [] where
  within := .of_plain fun c hc => ⟨(h c hc).1, (h c hc).2.1⟩
  broken := by
    simp only [anyBreak_nil, iff_false]
    rintro (hc | hc)
    · exact (h _ hc).2.2.1 rfl
    · exact (h _ hc).2.2.2 rfl

theorem Holds.append {a b : String} {texts others : List String} (ha : Holds a texts)
    (hb : Holds b others) : Holds (a ++ b) (texts ++ others) where
  within := by
    rw [String.toList_append]
    exact ha.within.append hb.within
  broken := by
    rw [String.toList_append, Text.hasBreak_append, ha.broken, hb.broken, anyBreak_append]

/-- A part of a text that starts and ends outside of literals. Some literal in it is broken over
lines exactly if one of some texts is. -/
def Encloses (text : List Char) (texts : List String) : Prop :=
  ∃ found, ReadsAs text found ∧ ((∃ l ∈ found, HasBreak l) ↔ AnyBreak texts)

namespace Encloses

theorem append {a b : List Char} {texts others : List String} (ha : Encloses a texts)
    (hb : Encloses b others) : Encloses (a ++ b) (texts ++ others) := by
  obtain ⟨found, hfound, hbreak⟩ := ha
  obtain ⟨found', hfound', hbreak'⟩ := hb
  refine ⟨found ++ found', hfound.append hfound', ?_⟩
  rw [anyBreak_append, ← hbreak, ← hbreak']
  simp only [List.mem_append, or_and_right, exists_or]

theorem of_no_quote {text : List Char} (h : '"' ∉ text) : Encloses text [] :=
  ⟨[], .of_no_quote h, by simp⟩

theorem isPartwise : Text.IsPartwise Encloses where
  empty := of_no_quote List.not_mem_nil
  lineFeed := of_no_quote (by decide)
  append := append

end Encloses

/-- A fixed text whose last character is its only quote. -/
def OpensLiteral (s : String) : Prop :=
  s.toList.getLast? = some '"' ∧ '"' ∉ s.toList.dropLast

instance : DecidablePred OpensLiteral := fun s =>
  inferInstanceAs (Decidable (s.toList.getLast? = some '"' ∧ '"' ∉ s.toList.dropLast))

/-- A fixed text whose first character is its only quote. -/
def ClosesLiteral (s : String) : Prop :=
  s.toList.head? = some '"' ∧ '"' ∉ s.toList.tail

instance : DecidablePred ClosesLiteral := fun s =>
  inferInstanceAs (Decidable (s.toList.head? = some '"' ∧ '"' ∉ s.toList.tail))

theorem toList_between {opening closing : String} (hopening : opening.toList.getLast? = some '"')
    (hclosing : closing.toList.head? = some '"') (body : String) :
    (opening ++ body ++ closing).toList
      = opening.toList.dropLast ++ '"' :: (body.toList ++ ['"']) ++ closing.toList.tail := by
  rw [String.toList_append, String.toList_append]
  nth_rewrite 1 [← List.dropLast_append_getLast? '"' hopening]
  nth_rewrite 1 [← List.cons_head?_tail hclosing]
  simp

/-- What stands between an opening and a closing text is the only literal of the three. -/
theorem readsAs_between {opening body closing : String} (hopening : OpensLiteral opening)
    (hclosing : ClosesLiteral closing) (hbody : StaysWithin body.toList) :
    ReadsAs (opening ++ body ++ closing).toList [body.toList] := by
  obtain ⟨hlast, hbefore⟩ := hopening
  obtain ⟨hfirst, hafter⟩ := hclosing
  have hall := ((ReadsAs.of_no_quote hbefore).append (ReadsAs.literal hbody)).append
    (ReadsAs.of_no_quote hafter)
  rw [toList_between hlast hfirst]
  simpa using hall

theorem encloses_between {opening body closing : String} {texts : List String}
    (hopening : OpensLiteral opening) (hclosing : ClosesLiteral closing)
    (hbody : Holds body texts) : Encloses (opening ++ body ++ closing).toList texts :=
  ⟨[body.toList], readsAs_between hopening hclosing hbody.within, by simpa using hbody.broken⟩

/-! ## Lines -/

theorem fieldLine_eq (key value : String) :
    fieldLine key value = "        \"" ++ (key ++ "=" ++ value) ++ "\"," := by
  unfold fieldLine
  simp only [String.append_assoc]

theorem itemLine_eq (a : Argument) :
    itemLine a = "        \"" ++ ("Name" ++ "=" ++ literal a.name) ++ "\", "
      ++ ("\"" ++ ("Value" ++ "=" ++ literal a.value) ++ "\", ENDITEM,") := by
  have hfirst : "        \"Name=" = "        \"" ++ ("Name" ++ "=") := by decide
  have hnext : "\", \"Value=" = "\", " ++ ("\"" ++ ("Value" ++ "=")) := by decide
  unfold itemLine
  rw [hfirst, hnext]
  simp only [String.append_assoc]

theorem encloses_fieldLine {key value : String} {texts : List String} (hkey : IsPlain key)
    (hvalue : Holds value texts) : Encloses (fieldLine key value).toList texts := by
  have hbody : Holds (key ++ "=" ++ value) texts :=
    (hkey.holds.append (IsPlain.holds (by decide))).append hvalue
  rw [fieldLine_eq]
  exact encloses_between (by decide) (by decide) hbody

theorem encloses_itemLine (a : Argument) : Encloses (itemLine a).toList [a.name, a.value] := by
  have hname : Holds ("Name" ++ "=" ++ literal a.name) [a.name] :=
    (IsPlain.holds (by decide)).append (holds_literal a.name)
  have hvalue : Holds ("Value" ++ "=" ++ literal a.value) [a.value] :=
    (IsPlain.holds (by decide)).append (holds_literal a.value)
  rw [itemLine_eq, String.toList_append]
  exact (encloses_between (by decide) (by decide) hname).append
    (encloses_between (by decide) (by decide) hvalue)

/-- Lines that enclose texts, each behind a line feed. -/
def LinesEnclose (lines texts : List String) : Prop :=
  Encloses (lines.flatMap fun line => '\n' :: line.toList) texts

namespace LinesEnclose

theorem nil : LinesEnclose [] [] :=
  Encloses.isPartwise.empty

theorem append {lines others texts texts' : List String} (h : LinesEnclose lines texts)
    (h' : LinesEnclose others texts') : LinesEnclose (lines ++ others) (texts ++ texts') :=
  Encloses.isPartwise.append_lines h h'

theorem cons {line : String} {lines texts texts' : List String} (h : Encloses line.toList texts)
    (h' : LinesEnclose lines texts') : LinesEnclose (line :: lines) (texts ++ texts') :=
  Encloses.isPartwise.cons_line h h'

theorem plain {line : String} {lines texts : List String} (h : '"' ∉ line.toList)
    (h' : LinesEnclose lines texts) : LinesEnclose (line :: lines) texts :=
  cons (.of_no_quote h) h'

theorem congr {lines texts texts' : List String} (h : LinesEnclose lines texts)
    (htexts : AnyBreak texts ↔ AnyBreak texts') : LinesEnclose lines texts' := by
  obtain ⟨found, hfound, hbreak⟩ := h
  exact ⟨found, hfound, hbreak.trans htexts⟩

theorem flatMap {α : Type} {f g : α → List String} {as : List α}
    (h : ∀ a ∈ as, LinesEnclose (f a) (g a)) : LinesEnclose (as.flatMap f) (as.flatMap g) := by
  induction as with
  | nil => exact nil
  | cons a as ih =>
    rw [List.flatMap_cons, List.flatMap_cons]
    exact append (h a (.head _)) (ih fun b hb => h b (.tail _ hb))

end LinesEnclose

/-! ## Statements -/

theorem linesEnclose_lastLines : LinesEnclose lastLines [] :=
  .plain (by decide) (.plain (by decide) .nil)

theorem linesEnclose_startLines (name : String) : LinesEnclose (startLines name) [name] :=
  .cons (encloses_between (by decide) (by decide) (holds_escape name)) (.plain (by decide) .nil)

theorem linesEnclose_finishLines (name : String) : LinesEnclose (finishLines name) [name] :=
  .cons (encloses_between (by decide) (by decide) (holds_escape name)) (.plain (by decide) .nil)

theorem linesEnclose_registrationLines (c : Correlation) :
    LinesEnclose (registrationLines c) [c.parameter, c.expression] := by
  unfold registrationLines
  cases c.kind with
  | regex =>
    exact .plain (by decide) (.cons (encloses_fieldLine (by decide) (holds_escape _))
      (.cons (encloses_fieldLine (by decide) (holds_literal _)) linesEnclose_lastLines))
  | json =>
    exact .plain (by decide) (.cons (encloses_fieldLine (by decide) (holds_escape _))
      (.cons (encloses_fieldLine (by decide) (holds_literal _)) linesEnclose_lastLines))

/-! ## Requests -/

/-- Joining with a separator that is not broken breaks no text and mends none. -/
theorem hasBreak_intercalate {separator : String} (h : ¬ HasBreak separator.toList)
    (texts : List String) : HasBreak (separator.intercalate texts).toList ↔ AnyBreak texts := by
  rw [String.toList_intercalate]
  induction texts with
  | nil => simp [HasBreak]
  | cons t texts ih =>
    cases texts with
    | nil => simp
    | cons u texts =>
      rw [List.map_cons, List.map_cons, List.intercalate_cons_cons, Text.hasBreak_append,
        Text.hasBreak_append, ← List.map_cons, ih, anyBreak_cons]
      simp [h]

theorem hasBreak_query (a : Argument) :
    HasBreak a.query.toList ↔ AnyBreak [a.name, a.value] := by
  have hsign : ¬ HasBreak "=".toList := by decide
  simp only [Argument.query, String.toList_append, Text.hasBreak_append, Text.toList_scriptForm,
    Text.hasBreak_scriptFormList, hsign, or_false, anyBreak_cons, anyBreak_nil]

theorem hasBreak_querySeparator (url : String) : ¬ HasBreak (Plan.querySeparator url).toList := by
  unfold Plan.querySeparator
  split
  · decide
  · split <;> decide

/-- A URL with arguments appended is broken if the URL or an argument is. -/
theorem hasBreak_appendQuery (url : String) (arguments : List Argument) :
    HasBreak (Plan.appendQuery url arguments).toList
      ↔ AnyBreak (url :: arguments.flatMap fun a => [a.name, a.value]) := by
  have hqueries : AnyBreak (arguments.map Argument.query)
      ↔ AnyBreak (arguments.flatMap fun a => [a.name, a.value]) := by
    induction arguments with
    | nil => simp
    | cons a arguments ih =>
      rw [List.map_cons, List.flatMap_cons, anyBreak_cons, anyBreak_append, hasBreak_query, ih]
  unfold Plan.appendQuery
  split
  · next hempty =>
    obtain rfl := List.isEmpty_iff.mp hempty
    simp
  · rw [String.toList_append, String.toList_append, Text.hasBreak_append, Text.hasBreak_append,
      hasBreak_intercalate (by decide), hqueries, anyBreak_cons]
    simp [hasBreak_querySeparator]

section

variable (r : Request)

/-- The first line of a request names it. -/
theorem encloses_firstLine (opening : String) (h : OpensLiteral opening) :
    Encloses (opening ++ Text.escape r.name ++ "\",").toList [r.name] :=
  encloses_between h (by decide) (holds_escape r.name)

theorem encloses_methodLine :
    Encloses (fieldLine "Method" (Text.escape r.method)).toList [r.method] :=
  encloses_fieldLine (by decide) (holds_escape r.method)

theorem encloses_addressLine (key : String) (h : IsPlain key) :
    Encloses (fieldLine key (literal r.baseUrl)).toList [r.baseUrl] :=
  encloses_fieldLine h (holds_literal r.baseUrl)

/-- A field that is the same for all requests. -/
theorem encloses_fixedLine {key value : String} (hkey : IsPlain key) (hvalue : IsPlain value) :
    Encloses (fieldLine key value).toList [] :=
  encloses_fieldLine hkey hvalue.holds

theorem linesEnclose_getLines : LinesEnclose (getLines r)
    (r.name :: r.baseUrl :: r.arguments.flatMap fun a => [a.name, a.value]) := by
  have hquery : Holds (literal (Plan.appendQuery r.baseUrl r.arguments))
      (r.baseUrl :: r.arguments.flatMap fun a => [a.name, a.value]) := by
    refine ⟨(holds_literal _).within, ?_⟩
    rw [(holds_literal _).broken, ← hasBreak_appendQuery]
    simp
  have hfields : LinesEnclose ([fieldLine "TargetFrame" "", fieldLine "Resource" "0",
      fieldLine "Mode" "HTTP"] ++ lastLines) [] :=
    .cons (encloses_fixedLine (by decide) (by decide))
      (.cons (encloses_fixedLine (by decide) (by decide))
        (.cons (encloses_fixedLine (by decide) (by decide)) linesEnclose_lastLines))
  have hurl : IsPlain "URL" := by decide
  have hall := LinesEnclose.cons (encloses_firstLine r "    web_url(\"" (by decide))
    (.cons (encloses_fieldLine hurl hquery) hfields)
  exact hall.congr (by simp)

theorem linesEnclose_customLines (body : Option String) : LinesEnclose (customLines r body)
    (r.name :: r.baseUrl :: r.method :: body.toList) := by
  have hbody : LinesEnclose (body.map fun body => fieldLine "Body" (literal body)).toList
      body.toList := by
    cases body with
    | none => exact .nil
    | some body => exact .cons (encloses_fieldLine (by decide) (holds_literal body)) .nil
  have hfields : LinesEnclose [fieldLine "Resource" "0", fieldLine "Mode" "HTTP"] [] :=
    .cons (encloses_fixedLine (by decide) (by decide))
      (.cons (encloses_fixedLine (by decide) (by decide)) .nil)
  have hhead := LinesEnclose.cons
    (encloses_firstLine r "    web_custom_request(\"" (by decide))
    (.cons (encloses_addressLine r "URL" (by decide))
      (.cons (encloses_methodLine r) hfields))
  exact ((hhead.append hbody).append linesEnclose_lastLines).congr (by simp)

theorem linesEnclose_formLines : LinesEnclose (formLines r)
    (r.name :: r.baseUrl :: r.method :: r.arguments.flatMap fun a => [a.name, a.value]) := by
  have hitems : LinesEnclose (r.arguments.map itemLine)
      (r.arguments.flatMap fun a => [a.name, a.value]) := by
    rw [List.map_eq_flatMap]
    exact .flatMap fun a _ => .cons (encloses_itemLine a) .nil
  have hfields : LinesEnclose [fieldLine "TargetFrame" "", fieldLine "Resource" "0",
      fieldLine "Mode" "HTTP", "        ITEMDATA,"] [] :=
    .cons (encloses_fixedLine (by decide) (by decide))
      (.cons (encloses_fixedLine (by decide) (by decide))
        (.cons (encloses_fixedLine (by decide) (by decide)) (.plain (by decide) .nil)))
  have hhead := LinesEnclose.cons
    (encloses_firstLine r "    web_submit_data(\"" (by decide))
    (.cons (encloses_addressLine r "Action" (by decide))
      (.cons (encloses_methodLine r) hfields))
  exact ((hhead.append hitems).append linesEnclose_lastLines).congr (by simp)

theorem linesEnclose_requestLines : LinesEnclose (requestLines r) (quotedByRequest r) := by
  unfold requestLines quotedByRequest
  split
  · exact linesEnclose_getLines r
  split
  · -- without an argument the body is empty
    refine (linesEnclose_customLines r _).congr ?_
    cases r.arguments <;> simp [HasBreak]
  split
  · next hnone =>
    refine (linesEnclose_customLines r none).congr ?_
    rw [List.isEmpty_iff.mp hnone]
    simp
  · exact linesEnclose_formLines r

end

/-! ## Actions -/

theorem linesEnclose_statement (s : Statement) : LinesEnclose s.lines s.quoted := by
  cases s with
  | register c => exact linesEnclose_registrationLines c
  | start name => exact linesEnclose_startLines name
  | request r => exact linesEnclose_requestLines r
  | finish name => exact linesEnclose_finishLines name

theorem encloses_includes : Encloses Bundle.includes.toList [] := by
  have hline : ∀ {name : String}, IsPlain name →
      Encloses ("#include \"" ++ name ++ "\"\n").toList [] := fun h =>
    encloses_between (by decide) (by decide) h.holds
  have heq : Bundle.includes = ("#include \"" ++ "lrun.h" ++ "\"\n")
      ++ ("#include \"" ++ "web_api.h" ++ "\"\n")
      ++ ("#include \"" ++ "lrw_custom_body.h" ++ "\"\n") ++ "\n" := by decide
  rw [heq, String.toList_append, String.toList_append, String.toList_append]
  exact (((hline (by decide)).append (hline (by decide))).append (hline (by decide))).append
    (.of_no_quote (by decide))

/-- Lines that start and end outside of literals do so in the text of an action as well. -/
theorem encloses_actionText {lines texts : List String} (h : LinesEnclose lines texts) :
    Encloses (Bundle.actionText lines).toList texts := by
  have hfirst : Encloses (Bundle.includes ++ "Action()").toList [] := by
    rw [String.toList_append]
    exact encloses_includes.append (.of_no_quote (by decide))
  have hbefore : LinesEnclose ["\x7b", "    int rc = 0;", ""] [] :=
    .plain (by decide) (.plain (by decide) (.plain (by decide) .nil))
  have hbehind : LinesEnclose ["", "    return 0;", "\x7d", ""] [] :=
    .plain (by decide) (.plain (by decide) (.plain (by decide) (.plain (by decide) .nil)))
  have hall := hfirst.append ((hbefore.append h).append hbehind)
  rw [← Bundle.toList_joinLines_cons, List.nil_append, List.nil_append, List.append_nil] at hall
  exact hall

/-- A text of C whose literals are sound: it ends outside of them, and none is broken over lines. -/
def IsSound (text : String) : Prop :=
  ∃ found, literals? text = some found ∧ ∀ l ∈ found, ¬ HasBreak l

theorem Encloses.isSome_literals? {text : String} {texts : List String}
    (h : Encloses text.toList texts) : (literals? text).isSome = true := by
  obtain ⟨found, hfound, -⟩ := h
  rw [literals?, hfound.eq_some]
  rfl

theorem Encloses.isSound_iff {text : String} {texts : List String}
    (h : Encloses text.toList texts) : IsSound text ↔ ¬ AnyBreak texts := by
  obtain ⟨found, hfound, hbreak⟩ := h
  have hread : literals? text = some found := hfound.eq_some
  rw [← hbreak]
  simp [IsSound, hread]

theorem encloses_action (o : Outcome) :
    Encloses (Bundle.actionText o.lines).toList (o.statements.flatMap Statement.quoted) :=
  encloses_actionText (.flatMap fun s _ => linesEnclose_statement s)

/-- The text of an action ends outside of literals, whatever the thread group, the options and the
names given before are. Its literals are sound if and only if no text that its statements quote is
broken over lines. -/
theorem literals_actionText (options : Options) (g : Plan.Group) (names : Names) :
    let action := (actionOf options.enableCorrelation g.items names).1
    (literals? (Bundle.actionText action.lines)).isSome = true
      ∧ (IsSound (Bundle.actionText action.lines)
        ↔ ∀ s ∈ action.statements, ∀ t ∈ s.quoted, ¬ HasBreak t.toList) := by
  intro action
  have hencloses := encloses_action action
  refine ⟨hencloses.isSome_literals?, hencloses.isSound_iff.trans ?_⟩
  simp only [AnyBreak, List.mem_flatMap, not_exists, not_and]
  constructor
  · intro h s hs t ht
    exact h t ⟨s, hs, ht⟩
  · rintro h t ⟨s, hs, ht⟩
    exact h s hs t ht

/-- A plan with a request whose body has two lines. -/
def planWithBrokenBody : String :=
  "<jmeterTestPlan><hashTree><ThreadGroup testname=\"G\"/><hashTree>"
    ++ "<HTTPSamplerProxy testname=\"S\"><stringProp name=\"HTTPSampler.method\">POST</stringProp>"
    ++ "<boolProp name=\"HTTPSampler.postBodyRaw\">true</boolProp>"
    ++ "<elementProp name=\"HTTPsampler.Arguments\" elementType=\"Arguments\">"
    ++ "<collectionProp name=\"Arguments.arguments\"><elementProp elementType=\"HTTPArgument\">"
    ++ "<stringProp name=\"Argument.value\">a\nb</stringProp></elementProp></collectionProp>"
    ++ "</elementProp></HTTPSamplerProxy><hashTree/></hashTree></hashTree></jmeterTestPlan>"

theorem quoted_planWithBrokenBody :
    (Xml.Document.parse planWithBrokenBody).toOption.map
        (fun root => (Plan.groups root).map fun g =>
          (actionOf true g.items {}).1.statements.flatMap Statement.quoted)
      = some [["S", "S", "http://localhost", "POST", "a\nb", "S"]] := by
  decide +kernel

/-- The literals of an action are not sound for every plan: a body of two lines is a literal of two
lines. -/
theorem not_forall_isSound :
    ¬ ∀ (xml : String) (root : Xml.Element), Xml.Document.parse xml = .ok root →
      ∀ g ∈ Plan.groups root, ∀ (options : Options) (names : Names),
        IsSound (Bundle.actionText (actionOf options.enableCorrelation g.items names).1.lines) := by
  intro hall
  obtain ⟨root, hparse, hquoted⟩ := Option.map_eq_some_iff.mp quoted_planWithBrokenBody
  obtain ⟨g, rest, hgroups, hg, -⟩ := List.map_eq_cons_iff.mp hquoted
  have hroot : Xml.Document.parse planWithBrokenBody = .ok root := by
    cases h : Xml.Document.parse planWithBrokenBody <;> rw [h] at hparse <;> cases hparse
    rfl
  have hsound := hall _ root hroot g (hgroups ▸ .head _) {} {}
  rw [(encloses_action _).isSound_iff, hg] at hsound
  exact hsound ⟨"a\nb", by decide, by decide⟩

end VuserScript.Script
