/-
  VuserScript.Proofs.Script.Fields

  What a call says is read back from its lines: the literals behind the first,
  which names the call, are fields with a key and a value. A form gives each
  text of an argument as it is in the form of a script. A request by GET has
  the arguments in its URL, which is written in that form as a whole; so the
  two say the same only if no reference is made of what the URL is put together
  from.
-/
import VuserScript.Proofs.Plan.Queries
import VuserScript.Proofs.Script.Quoting
import VuserScript.Proofs.Text.Rewriting

namespace VuserScript.Script

open Plan (Argument Request appendQuery joinedArguments querySeparator)
open Text (ReadsAs StaysWithin escapeList literals? namesIn scriptFormList unescapeList)

/-! ## Lines and their literals -/

/-- Lines that start and end outside of literals, each behind a line feed. -/
def LinesRead (lines : List String) (found : List (List Char)) : Prop :=
  ReadsAs (lines.flatMap fun line => '\n' :: line.toList) found

namespace LinesRead

variable {line : String} {lines others : List String} {found found' : List (List Char)}

theorem nil : LinesRead [] [] :=
  ReadsAs.isPartwise.empty

theorem append (h : LinesRead lines found) (h' : LinesRead others found') :
    LinesRead (lines ++ others) (found ++ found') :=
  ReadsAs.isPartwise.append_lines h h'

theorem cons (h : ReadsAs line.toList found) (h' : LinesRead lines found') :
    LinesRead (line :: lines) (found ++ found') :=
  ReadsAs.isPartwise.cons_line h h'

theorem plain (h : '"' ∉ line.toList) (h' : LinesRead lines found) :
    LinesRead (line :: lines) found :=
  cons (.of_no_quote h) h'

theorem literals?_joinLines (h : LinesRead lines found) :
    literals? (Bundle.joinLines lines) = some found := by
  have hall := h.eq_some
  cases lines with
  | nil => exact hall
  | cons line lines =>
    rw [List.flatMap_cons, List.cons_append, Text.literalsFrom_outside (by decide)] at hall
    rwa [literals?, Bundle.toList_joinLines_cons]

end LinesRead

/-! ## Fields -/

/-- The inside of a literal that gives a value for a key. -/
def keyed (key : String) (value : List Char) : List Char :=
  key.toList ++ '=' :: value

/-- The value that a literal gives for a key, without the marks that are put into literals. -/
def valueOf? (key : String) (inside : List Char) : Option (List Char) :=
  ((key.toList ++ ['=']).isPrefixOf? inside).map unescapeList

/-- The values that a call gives for a key. Its first literal is its name and no field. -/
def fieldsOf? (key : String) (lines : List String) : Option (List (List Char)) :=
  (literals? (Bundle.joinLines lines)).map fun found => found.tail.filterMap (valueOf? key)

@[simp] theorem valueOf?_keyed (key : String) (value : List Char) :
    valueOf? key (keyed key (escapeList value)) = some value := by
  have hvalue : (key.toList ++ ['=']).isPrefixOf? (keyed key (escapeList value))
      = some (escapeList value) := by
    rw [List.isPrefixOf?_eq_some_iff_append_eq]
    simp [keyed]
  rw [valueOf?, hvalue, Option.map_some, Text.unescapeList_escapeList]

/-- What is given for one key is not given for another. -/
theorem valueOf?_keyed_of_ne {key other : String} (hne : key ≠ other) (hkey : '=' ∉ key.toList)
    (hother : '=' ∉ other.toList) (value : List Char) :
    valueOf? key (keyed other value) = none := by
  rw [valueOf?, Option.map_eq_none_iff, Option.eq_none_iff_forall_ne_some]
  intro rest hrest
  rw [List.isPrefixOf?_eq_some_iff_append_eq, List.append_assoc, List.singleton_append, keyed,
    Text.append_first_inj hkey hother] at hrest
  exact hne (String.toList_inj.mp hrest.1)

theorem fieldsOf?_of_linesRead {key : String} {lines : List String} {name : List Char}
    {found : List (List Char)} (h : LinesRead lines (name :: found)) :
    fieldsOf? key lines = some (found.filterMap (valueOf? key)) := by
  rw [fieldsOf?, h.literals?_joinLines]
  rfl

/-! ## Lines of a call -/

/-- The literal of a key and a value, between an opening and a closing text. -/
theorem readsAs_keyed {opening key value closing : String} (hopening : OpensLiteral opening)
    (hclosing : ClosesLiteral closing) (hkey : IsPlain key) (hvalue : StaysWithin value.toList) :
    ReadsAs (opening ++ (key ++ "=" ++ value) ++ closing).toList [keyed key value.toList] := by
  have hinside : (key ++ "=" ++ value).toList = keyed key value.toList := by
    simp [keyed]
  have hsign : IsPlain "=" := by decide
  have hbody : StaysWithin (key ++ "=" ++ value).toList := by
    rw [String.toList_append, String.toList_append]
    exact (hkey.holds.within.append hsign.holds.within).append hvalue
  rw [← hinside]
  exact readsAs_between hopening hclosing hbody

theorem readsAs_fieldLine {key value : String} (hkey : IsPlain key)
    (hvalue : StaysWithin value.toList) :
    ReadsAs (fieldLine key value).toList [keyed key value.toList] := by
  rw [fieldLine_eq]
  exact readsAs_keyed (by decide) (by decide) hkey hvalue

/-- A text of the plan as it is given for a key. -/
def keyedText (key s : String) : List Char :=
  keyed key (literal s).toList

theorem readsAs_itemLine (a : Argument) :
    ReadsAs (itemLine a).toList [keyedText "Name" a.name, keyedText "Value" a.value] := by
  rw [itemLine_eq, String.toList_append]
  exact (readsAs_keyed (by decide) (by decide) (by decide) (holds_literal a.name).within).append
    (readsAs_keyed (by decide) (by decide) (by decide) (holds_literal a.value).within)

theorem valueOf?_keyedText (key s : String) :
    valueOf? key (keyedText key s) = some (scriptFormList s.toList) := by
  rw [keyedText, literal, Text.toList_escape, Text.toList_scriptForm, valueOf?_keyed]

theorem linesRead_lastLines : LinesRead lastLines [] :=
  .plain (by decide) (.plain (by decide) .nil)

variable (r : Request)

theorem readsAs_firstLine {opening : String} (h : OpensLiteral opening) :
    ReadsAs (opening ++ Text.escape r.name ++ "\",").toList [(Text.escape r.name).toList] :=
  readsAs_between h (by decide) (holds_escape r.name).within

theorem readsAs_addressLine {key : String} (h : IsPlain key) (url : String) :
    ReadsAs (fieldLine key (literal url)).toList [keyedText key url] :=
  readsAs_fieldLine h (holds_literal url).within

/-- A field that is the same for all requests. -/
theorem readsAs_fixedLine {key value : String} (hkey : IsPlain key) (hvalue : IsPlain value) :
    ReadsAs (fieldLine key value).toList [keyed key value.toList] :=
  readsAs_fieldLine hkey hvalue.holds.within

/-! ## Requests -/

theorem linesRead_getLines : LinesRead (getLines r) ((Text.escape r.name).toList
    :: [keyedText "URL" (appendQuery r.baseUrl r.arguments), keyed "TargetFrame" "".toList,
      keyed "Resource" "0".toList, keyed "Mode" "HTTP".toList]) :=
  .cons (readsAs_firstLine r (by decide))
    (.cons (readsAs_addressLine (by decide) _)
      (.cons (readsAs_fixedLine (by decide) (by decide))
        (.cons (readsAs_fixedLine (by decide) (by decide))
          (.cons (readsAs_fixedLine (by decide) (by decide)) linesRead_lastLines))))

theorem linesRead_itemLines (arguments : List Argument) :
    LinesRead (arguments.map itemLine)
      (arguments.flatMap fun a => [keyedText "Name" a.name, keyedText "Value" a.value]) := by
  induction arguments with
  | nil => exact .nil
  | cons a arguments ih => exact .cons (readsAs_itemLine a) ih

/-- The fields of a form that stand before its items. -/
def formFields : List (List Char) :=
  [keyedText "Action" r.baseUrl, keyed "Method" (Text.escape r.method).toList,
    keyed "TargetFrame" "".toList, keyed "Resource" "0".toList, keyed "Mode" "HTTP".toList]

theorem linesRead_formLines : LinesRead (formLines r) ((Text.escape r.name).toList :: (formFields r
    ++ r.arguments.flatMap fun a => [keyedText "Name" a.name, keyedText "Value" a.value])) := by
  have hfixed : LinesRead [fieldLine "TargetFrame" "", fieldLine "Resource" "0",
      fieldLine "Mode" "HTTP", "        ITEMDATA,"]
      [keyed "TargetFrame" "".toList, keyed "Resource" "0".toList, keyed "Mode" "HTTP".toList] :=
    .cons (readsAs_fixedLine (by decide) (by decide))
      (.cons (readsAs_fixedLine (by decide) (by decide))
        (.cons (readsAs_fixedLine (by decide) (by decide)) (.plain (by decide) .nil)))
  have hfirst : OpensLiteral "    web_submit_data(\"" := by decide
  have haction : IsPlain "Action" := by decide
  have hmethod : IsPlain "Method" := by decide
  have hhead := LinesRead.cons (readsAs_firstLine r hfirst)
    (.cons (readsAs_addressLine haction r.baseUrl)
      (.cons (readsAs_fieldLine hmethod (holds_escape r.method).within) hfixed))
  have hall := (hhead.append (linesRead_itemLines r.arguments)).append linesRead_lastLines
  rw [List.append_nil] at hall
  exact hall

theorem filterMap_formFields {key : String} (hsign : '=' ∉ key.toList)
    (h : key ∉ ["Action", "Method", "TargetFrame", "Resource", "Mode"]) :
    (formFields r).filterMap (valueOf? key) = [] := by
  have hother : ∀ other ∈ ["Action", "Method", "TargetFrame", "Resource", "Mode"],
      ∀ value, valueOf? key (keyed other value) = none := by
    intro other hmem value
    have hsigns : ∀ other ∈ ["Action", "Method", "TargetFrame", "Resource", "Mode"],
        '=' ∉ other.toList := by decide
    have hne : key ≠ other := by
      rintro rfl
      exact h hmem
    exact valueOf?_keyed_of_ne hne hsign (hsigns other hmem) value
  simp [formFields, keyedText, hother]

/-- The URL of a request by GET, in the form of a script as a whole. -/
theorem fieldsOf?_getLines : fieldsOf? "URL" (getLines r)
    = some [scriptFormList (appendQuery r.baseUrl r.arguments).toList] := by
  rw [fieldsOf?_of_linesRead (linesRead_getLines r), List.filterMap_cons, valueOf?_keyedText]
  rfl

/-- The names and the values in a form, each in the form of a script by itself. -/
theorem fieldsOf?_formLines :
    fieldsOf? "Name" (formLines r) = some (r.arguments.map fun a => scriptFormList a.name.toList)
      ∧ fieldsOf? "Value" (formLines r)
        = some (r.arguments.map fun a => scriptFormList a.value.toList) := by
  have hname : ∀ s, valueOf? "Name" (keyedText "Value" s) = none := fun s =>
    valueOf?_keyed_of_ne (by decide) (by decide) (by decide) _
  have hvalue : ∀ s, valueOf? "Value" (keyedText "Name" s) = none := fun s =>
    valueOf?_keyed_of_ne (by decide) (by decide) (by decide) _
  have hread := linesRead_formLines r
  rw [fieldsOf?_of_linesRead hread, fieldsOf?_of_linesRead hread, List.filterMap_append,
    List.filterMap_append, filterMap_formFields r (by decide) (by decide),
    filterMap_formFields r (by decide) (by decide), List.filterMap_flatMap, List.filterMap_flatMap]
  simp [valueOf?_keyedText, hname, hvalue, List.map_eq_flatMap]

/-! ## URLs of requests by GET -/

/-- What is appended to the URL of a request. -/
def appended : List Char :=
  if r.arguments = [] then []
  else (querySeparator r.baseUrl).toList ++ joinedArguments r.arguments

theorem toList_appendQuery_eq :
    (appendQuery r.baseUrl r.arguments).toList = r.baseUrl.toList ++ appended r := by
  unfold appended
  split
  · next hnone => simp [appendQuery, hnone]
  · next hne => rw [Plan.toList_appendQuery r.baseUrl hne, List.append_assoc]

/-- The URL of a request when each text of the plan is brought into the form of a script once and by
itself. -/
def piecewiseUrl : List Char :=
  scriptFormList r.baseUrl.toList ++ appended r

/-- The URL of a request by GET is brought into the form of a script as a whole, arguments that are
in that form included. It says what its pieces say if and only if it has no references but those of
the base: none is left in what is appended, and none is made of several pieces. -/
theorem get_url_piecewise_iff {r : Request} (h : r.isGet = true) :
    fieldsOf? "URL" (requestLines r)
        = some [scriptFormList (appendQuery r.baseUrl r.arguments).toList]
      ∧ (fieldsOf? "URL" (requestLines r) = some [piecewiseUrl r]
        ↔ namesIn (appendQuery r.baseUrl r.arguments).toList = namesIn r.baseUrl.toList) := by
  have hlines : requestLines r = getLines r := if_pos h
  rw [hlines, fieldsOf?_getLines, toList_appendQuery_eq, piecewiseUrl,
    ← Text.scriptFormList_append_iff]
  simp

/-- A request with a reference in the base of its URL and one in an argument. -/
def requestWithQuery : Request :=
  ⟨"S", "GET", "http://h/$\x7bp\x7d", [⟨"q", "$\x7ba\x7d"⟩], false⟩

theorem get_url_requestWithQuery : requestWithQuery.isGet = true
    ∧ fieldsOf? "URL" (requestLines requestWithQuery)
      = some ["http://h/\x7bp\x7d?q=\x7ba\x7d".toList] := by
  have hget : requestWithQuery.isGet = true := by decide
  refine ⟨hget, ((get_url_piecewise_iff hget).2.mpr ?_).trans ?_⟩
  · decide +kernel
  · decide +kernel

/-- A dollar sign of an argument stands before a reference of the script, and both are taken for a
reference of the plan. -/
theorem not_forall_piecewiseUrl :
    ¬ ∀ r : Request, r.isGet = true → fieldsOf? "URL" (requestLines r) = some [piecewiseUrl r] := by
  intro hall
  have hurl := hall ⟨"S", "GET", "http://h/", [⟨"q", "$$\x7ba\x7d"⟩], false⟩ (by decide)
  revert hurl
  decide +kernel

end VuserScript.Script
