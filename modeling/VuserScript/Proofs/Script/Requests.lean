/-
  VuserScript.Proofs.Script.Requests

  A request that is not one by GET, read back from its lines as a call: the
  function, and the literals and words between its commas. Each line of a
  request spells tokens that are known beforehand but for what its literals say,
  so the call is the one that was meant, whatever texts of the plan stand in it.
-/
import VuserScript.Proofs.Script.Fields
import VuserScript.Proofs.Script.Openings
import VuserScript.Proofs.Text.Tokens

namespace VuserScript.Script

open Plan (Argument Request)
open Text (IsFixed Part Spells Token escapeList scriptFormList tokens?)

/-! ## Reading calls -/

/-- A call: its function, and what stands between its commas. -/
structure CallText where
  function : List Char
  parts : List Part
  deriving DecidableEq

/-- The parts of a call from behind its opening parenthesis to its end. -/
def partsOf? : List Token → Option (List Part)
  | [.part p, .sign ')', .sign ';'] => some [p]
  | .part p :: .sign ',' :: rest => (partsOf? rest).map (p :: ·)
  | _ => none

/-- The call that tokens are. -/
def callOf? : List Token → Option CallText
  | .part (.word function) :: .sign '(' :: rest =>
    (partsOf? rest).map fun parts => ⟨function, parts⟩
  | _ => none

/-- The call that lines are, put together to one text. -/
def readCall? (lines : List String) : Option CallText :=
  (tokens? (Bundle.joinLines lines).toList).bind callOf?

/-! ## What requests say -/

/-- A literal that gives a value for a key. -/
def fieldPart (key : String) (value : List Char) : Part :=
  .literal (keyed key value)

/-- A word that stands for itself. -/
def wordPart (name : String) : Part :=
  .word name.toList

/-- What stands in the call for a request with a body of its own, or with none. -/
def customParts (r : Request) (body : Option String) : List Part :=
  [.literal r.name.toList,
    fieldPart "URL" (scriptFormList r.baseUrl.toList),
    fieldPart "Method" r.method.toList,
    fieldPart "Resource" "0".toList,
    fieldPart "Mode" "HTTP".toList]
  ++ (body.map fun body => fieldPart "Body" (scriptFormList body.toList)).toList

/-- The call for a request with a body of its own, or with none. -/
def customCall (r : Request) (body : Option String) : CallText :=
  ⟨"web_custom_request".toList, customParts r body ++ [wordPart "LAST"]⟩

/-- What stands in a form for an argument. -/
def itemParts (a : Argument) : List Part :=
  [fieldPart "Name" (scriptFormList a.name.toList),
    fieldPart "Value" (scriptFormList a.value.toList),
    wordPart "ENDITEM"]

/-- What stands in the call for a request that sends its arguments as a form. -/
def formParts (r : Request) : List Part :=
  [.literal r.name.toList,
    fieldPart "Action" (scriptFormList r.baseUrl.toList),
    fieldPart "Method" r.method.toList,
    fieldPart "TargetFrame" "".toList,
    fieldPart "Resource" "0".toList,
    fieldPart "Mode" "HTTP".toList,
    wordPart "ITEMDATA"]
  ++ r.arguments.flatMap itemParts

/-- The call for a request that sends its arguments as a form. -/
def formCall (r : Request) : CallText :=
  ⟨"web_submit_data".toList, formParts r ++ [wordPart "LAST"]⟩

/-- The body of a request that has one of its own: the value of the first argument, if any. -/
def bodyOf (r : Request) : String :=
  (r.arguments.head?.map Argument.value).getD ""

/-- A part without what a literal says behind its key. -/
def labelOf : Part → Part
  | .literal text => .literal (text.takeWhile (· != '='))
  | .word name => .word name

/-- What of a call does not depend on what its literals say: its function, that a name comes first,
and which keys and words follow. -/
def CallText.shape (c : CallText) : List Char × List Part :=
  (c.function, c.parts.tail.map labelOf)

/-! ## Lines and their tokens -/

/-- The parts between the commas of a call, each with the comma behind it. -/
def commaBehind (parts : List Part) : List Token :=
  parts.flatMap fun p => [.part p, .sign ',']

theorem partsOf?_commaBehind (parts : List Part) (last : Part) :
    partsOf? (commaBehind parts ++ [.part last, .sign ')', .sign ';'])
      = some (parts ++ [last]) := by
  induction parts with
  | nil => rfl
  | cons p parts ih =>
    have hstep : partsOf? (commaBehind (p :: parts) ++ [.part last, .sign ')', .sign ';'])
        = (partsOf? (commaBehind parts ++ [.part last, .sign ')', .sign ';'])).map (p :: ·) := by
      simp [commaBehind, partsOf?]
    rw [hstep, ih]
    rfl

/-- Lines that start and end between tokens, each behind a line feed. -/
def LinesSpell (lines : List String) (tokens : List Token) : Prop :=
  Spells (lines.flatMap fun line => '\n' :: line.toList) tokens

namespace LinesSpell

variable {line : String} {lines others : List String} {tokens tokens' : List Token}

theorem nil : LinesSpell [] [] :=
  Spells.isPartwise.empty

theorem append (h : LinesSpell lines tokens) (h' : LinesSpell others tokens') :
    LinesSpell (lines ++ others) (tokens ++ tokens') :=
  Spells.isPartwise.append_lines h h'

theorem cons (h : Spells line.toList tokens) (h' : LinesSpell lines tokens') :
    LinesSpell (line :: lines) (tokens ++ tokens') :=
  Spells.isPartwise.cons_line h h'

theorem tokens?_joinLines (h : LinesSpell lines tokens) :
    tokens? (Bundle.joinLines lines).toList = some tokens := by
  have hall := h.eq_some
  cases lines with
  | nil => exact hall
  | cons line lines =>
    rw [Bundle.toList_joinLines_cons]
    -- a line feed at the start of a text is a blank
    have hfirst : ∀ text, tokens? ('\n' :: text) = tokens? text := by
      intro text
      simpa using Spells.isPartwise.lineFeed text
    rwa [List.flatMap_cons, List.cons_append, hfirst] at hall

end LinesSpell

/-- An escaped text between a fixed text that ends with a quote and one that begins with one. -/
theorem spells_between (opening closing : String) {cs : List Char} {body : String}
    {before behind : List Token} (hopening : opening.toList.getLast? = some '"')
    (hbefore : IsFixed opening.toList.dropLast before)
    (hclosing : closing.toList.head? = some '"') (hbehind : IsFixed closing.toList.tail behind)
    (hbody : body.toList = escapeList cs) :
    Spells (opening ++ body ++ closing).toList (before ++ .part (.literal cs) :: behind) := by
  have hall := ((Spells.fixed hbefore).append (Spells.literal cs)).append (Spells.fixed hbehind)
  rw [toList_between hopening hclosing, hbody]
  simpa using hall

/-- A key needs no protection in a literal. -/
theorem escapeList_keyed {key : String} (h : IsPlain key) (value : List Char) :
    escapeList (keyed key value) = keyed key (escapeList value) := by
  have hkey : ∀ c ∈ key.toList ++ ['='], c ≠ '"' ∧ c ≠ '\\' := by
    intro c hc
    rcases List.mem_append.mp hc with hc | hc
    · exact ⟨(h c hc).1, (h c hc).2.1⟩
    · obtain rfl := List.mem_singleton.mp hc
      exact ⟨by decide, by decide⟩
  have hparts : ∀ value, keyed key value = key.toList ++ ['='] ++ value := by
    intro value
    simp [keyed]
  rw [hparts, hparts, Text.escapeList_append, Text.escapeList_of_plain hkey]

theorem toList_keyed {key value : String} {cs : List Char} (h : IsPlain key)
    (hvalue : value.toList = escapeList cs) :
    (key ++ "=" ++ value).toList = escapeList (keyed key cs) := by
  rw [escapeList_keyed h, String.toList_append, String.toList_append, hvalue, keyed]
  simp

theorem toList_literal (s : String) :
    (literal s).toList = escapeList (scriptFormList s.toList) := by
  simp [literal]

/-- A line with a field spells the field and the comma behind it. -/
theorem spells_fieldLine {key value : String} {cs : List Char} (h : IsPlain key)
    (hvalue : value.toList = escapeList cs) :
    Spells (fieldLine key value).toList (commaBehind [fieldPart key cs]) := by
  have hblank : IsFixed "        \"".toList.dropLast [] := by decide
  have hcomma : IsFixed "\",".toList.tail [.sign ','] := by decide
  rw [fieldLine_eq]
  exact spells_between _ _ (by decide) hblank (by decide) hcomma (toList_keyed h hvalue)

/-- A field that is the same for all requests. -/
theorem spells_fixedLine {key value : String} (hkey : IsPlain key) (hvalue : IsPlain value) :
    Spells (fieldLine key value).toList (commaBehind [fieldPart key value.toList]) :=
  spells_fieldLine hkey (Text.escapeList_of_plain fun c hc =>
    ⟨(hvalue c hc).1, (hvalue c hc).2.1⟩).symm

theorem spells_itemLine (a : Argument) :
    Spells (itemLine a).toList (commaBehind (itemParts a)) := by
  have hblank : IsFixed "        \"".toList.dropLast [] := by decide
  have hcomma : IsFixed "\", ".toList.tail [.sign ','] := by decide
  have hnone : IsFixed "\"".toList.dropLast [] := by decide
  have hend : IsFixed "\", ENDITEM,".toList.tail
      [.sign ',', .part (wordPart "ENDITEM"), .sign ','] := by decide
  have hkeys : IsPlain "Name" ∧ IsPlain "Value" := by decide
  rw [itemLine_eq, String.toList_append]
  have hname := spells_between _ _ (by decide) hblank (by decide) hcomma
    (toList_keyed hkeys.1 (toList_literal a.name))
  have hvalue := spells_between _ _ (by decide) hnone (by decide) hend
    (toList_keyed hkeys.2 (toList_literal a.value))
  exact hname.append hvalue

/-- The tokens of a call. -/
def callTokens (function : String) (parts : List Part) : List Token :=
  .part (wordPart function) :: .sign '(' ::
    (commaBehind parts ++ [.part (wordPart "LAST"), .sign ')', .sign ';'])

theorem readCall?_of_linesSpell {lines : List String} {function : String} {parts : List Part}
    (h : LinesSpell lines (callTokens function parts)) :
    readCall? lines = some ⟨function.toList, parts ++ [wordPart "LAST"]⟩ := by
  rw [readCall?, h.tokens?_joinLines, Option.bind_some, callTokens, wordPart, callOf?,
    partsOf?_commaBehind]
  rfl

theorem linesSpell_lastLines :
    LinesSpell lastLines [.part (wordPart "LAST"), .sign ')', .sign ';'] := by
  have hlast : Spells "        LAST);".toList [.part (wordPart "LAST"), .sign ')', .sign ';'] :=
    .fixed (by decide)
  have hempty : Spells "".toList [] := .fixed (by decide)
  exact .cons hlast (.cons hempty .nil)

/-! ## Requests -/

section

variable (r : Request)

/-- The first line of a request spells the function and the name. -/
theorem spells_firstLine (opening : String) {function : String}
    (hopening : opening.toList.getLast? = some '"')
    (hfunction : IsFixed opening.toList.dropLast [.part (wordPart function), .sign '(']) :
    Spells (opening ++ Text.escape r.name ++ "\",").toList
      (.part (wordPart function) :: .sign '(' :: commaBehind [.literal r.name.toList]) := by
  have hcomma : IsFixed "\",".toList.tail [.sign ','] := by decide
  exact spells_between _ _ hopening hfunction (by decide) hcomma (Text.toList_escape r.name)

theorem spells_methodLine :
    Spells (fieldLine "Method" (Text.escape r.method)).toList
      (commaBehind [fieldPart "Method" r.method.toList]) :=
  spells_fieldLine (by decide) (Text.toList_escape r.method)

/-- A line with a text of the plan in the form of a script. -/
theorem spells_textLine {key : String} (h : IsPlain key) (s : String) :
    Spells (fieldLine key (literal s)).toList
      (commaBehind [fieldPart key (scriptFormList s.toList)]) :=
  spells_fieldLine h (toList_literal s)

theorem linesSpell_customLines (body : Option String) :
    LinesSpell (customLines r body) (callTokens "web_custom_request" (customParts r body)) := by
  have hfields : LinesSpell [fieldLine "Resource" "0", fieldLine "Mode" "HTTP"]
      (commaBehind [fieldPart "Resource" "0".toList, fieldPart "Mode" "HTTP".toList]) :=
    .cons (spells_fixedLine (by decide) (by decide))
      (.cons (spells_fixedLine (by decide) (by decide)) .nil)
  have hbody : LinesSpell (body.map fun body => fieldLine "Body" (literal body)).toList
      (commaBehind (body.map fun body =>
        fieldPart "Body" (scriptFormList body.toList)).toList) := by
    cases body with
    | none => exact .nil
    | some body => exact .cons (spells_textLine (by decide) body) .nil
  have hfirst : IsFixed "    web_custom_request(\"".toList.dropLast
      [.part (wordPart "web_custom_request"), .sign '('] := by decide
  have hurl : IsPlain "URL" := by decide
  have hhead := LinesSpell.cons (spells_firstLine r _ (by decide) hfirst)
    (.cons (spells_textLine hurl r.baseUrl) (.cons (spells_methodLine r) hfields))
  have hall := (hhead.append hbody).append linesSpell_lastLines
  simpa [customLines, callTokens, customParts, commaBehind] using hall

theorem linesSpell_itemLines (arguments : List Argument) :
    LinesSpell (arguments.map itemLine) (commaBehind (arguments.flatMap itemParts)) := by
  induction arguments with
  | nil => exact .nil
  | cons a arguments ih =>
    rw [List.flatMap_cons, commaBehind, List.flatMap_append]
    exact .cons (spells_itemLine a) ih

theorem linesSpell_formLines :
    LinesSpell (formLines r) (callTokens "web_submit_data" (formParts r)) := by
  have hmark : Spells "        ITEMDATA,".toList (commaBehind [wordPart "ITEMDATA"]) :=
    .fixed (by decide)
  have hfields : LinesSpell [fieldLine "TargetFrame" "", fieldLine "Resource" "0",
      fieldLine "Mode" "HTTP", "        ITEMDATA,"]
      (commaBehind [fieldPart "TargetFrame" "".toList, fieldPart "Resource" "0".toList,
        fieldPart "Mode" "HTTP".toList, wordPart "ITEMDATA"]) :=
    .cons (spells_fixedLine (by decide) (by decide))
      (.cons (spells_fixedLine (by decide) (by decide))
        (.cons (spells_fixedLine (by decide) (by decide)) (.cons hmark .nil)))
  have hfirst : IsFixed "    web_submit_data(\"".toList.dropLast
      [.part (wordPart "web_submit_data"), .sign '('] := by decide
  have haction : IsPlain "Action" := by decide
  have hhead := LinesSpell.cons (spells_firstLine r _ (by decide) hfirst)
    (.cons (spells_textLine haction r.baseUrl) (.cons (spells_methodLine r) hfields))
  have hall := (hhead.append (linesSpell_itemLines r.arguments)).append linesSpell_lastLines
  simpa [formLines, callTokens, formParts, commaBehind] using hall

end

/-! ## Keys and words -/

theorem labelOf_fieldPart {key : String} (h : '=' ∉ key.toList) (value : List Char) :
    labelOf (fieldPart key value) = .literal key.toList := by
  have hkey : ∀ c ∈ key.toList, (c != '=') = true := by
    intro c hc
    rw [bne_iff_ne]
    rintro rfl
    exact h hc
  rw [fieldPart, labelOf, keyed, List.takeWhile_append_of_pos hkey]
  simp

@[simp] theorem labelOf_wordPart (name : String) : labelOf (wordPart name) = wordPart name :=
  rfl

/-- The keys and the words of a form with so many arguments. -/
theorem labels_itemParts (arguments : List Argument) :
    (arguments.flatMap itemParts).map labelOf
      = (List.replicate arguments.length
          [.literal "Name".toList, .literal "Value".toList, wordPart "ENDITEM"]).flatten := by
  induction arguments with
  | nil => rfl
  | cons a arguments ih =>
    have hitem : (itemParts a).map labelOf
        = [.literal "Name".toList, .literal "Value".toList, wordPart "ENDITEM"] := by
      simp only [itemParts, List.map_cons, List.map_nil, labelOf_wordPart]
      rw [labelOf_fieldPart (by decide), labelOf_fieldPart (by decide)]
    rw [List.flatMap_cons, List.map_append, hitem, ih, List.length_cons, List.replicate_succ,
      List.flatten_cons]

/-- The keys and the words in a form depend on how many arguments there are, and on nothing else. -/
theorem labels_formParts (r : Request) :
    (formParts r).tail.map labelOf = [.literal "Action".toList, .literal "Method".toList,
        .literal "TargetFrame".toList, .literal "Resource".toList, .literal "Mode".toList,
        wordPart "ITEMDATA"]
      ++ (List.replicate r.arguments.length
        [.literal "Name".toList, .literal "Value".toList, wordPart "ENDITEM"]).flatten := by
  have hkeys : '=' ∉ "Action".toList ∧ '=' ∉ "Method".toList ∧ '=' ∉ "TargetFrame".toList
      ∧ '=' ∉ "Resource".toList ∧ '=' ∉ "Mode".toList := by decide
  obtain ⟨haction, hmethod, hframe, hresource, hmode⟩ := hkeys
  rw [formParts, List.cons_append, List.tail_cons, List.map_append, labels_itemParts]
  simp only [List.map_cons, List.map_nil, labelOf_fieldPart haction, labelOf_fieldPart hmethod,
    labelOf_fieldPart hframe, labelOf_fieldPart hresource, labelOf_fieldPart hmode,
    labelOf_wordPart]

/-- The keys in a request with a body of its own, or with none, depend on whether it has one. -/
theorem labels_customParts (r : Request) (body : Option String) :
    (customParts r body).tail.map labelOf = [.literal "URL".toList, .literal "Method".toList,
        .literal "Resource".toList, .literal "Mode".toList]
      ++ (body.map fun _ => Part.literal "Body".toList).toList := by
  have hkeys : '=' ∉ "URL".toList ∧ '=' ∉ "Method".toList ∧ '=' ∉ "Resource".toList
      ∧ '=' ∉ "Mode".toList ∧ '=' ∉ "Body".toList := by decide
  obtain ⟨hurl, hmethod, hresource, hmode, hbody⟩ := hkeys
  have htail : (body.map fun body => fieldPart "Body" (scriptFormList body.toList)).toList.map
      labelOf = (body.map fun _ => Part.literal "Body".toList).toList := by
    cases body with
    | none => rfl
    | some body => simp only [Option.map_some, Option.toList_some, List.map_cons, List.map_nil,
        labelOf_fieldPart hbody]
  rw [customParts, List.cons_append, List.tail_cons, List.map_append, htail]
  simp only [List.map_cons, List.map_nil, labelOf_fieldPart hurl, labelOf_fieldPart hmethod,
    labelOf_fieldPart hresource, labelOf_fieldPart hmode]

theorem shape_formCall {r other : Request} (h : other.arguments.length = r.arguments.length) :
    (formCall other).shape = (formCall r).shape := by
  have hparts : ∀ r, (formCall r).shape = ("web_submit_data".toList,
      (formParts r).tail.map labelOf ++ [wordPart "LAST"]) := by
    intro r
    have htail : (formCall r).parts.tail = (formParts r).tail ++ [wordPart "LAST"] := rfl
    rw [CallText.shape, htail, List.map_append]
    rfl
  rw [hparts, hparts, labels_formParts, labels_formParts, h]

theorem shape_customCall {r other : Request} {body body' : Option String}
    (h : body'.isSome = body.isSome) :
    (customCall other body').shape = (customCall r body).shape := by
  have hparts : ∀ r body, (customCall r body).shape = ("web_custom_request".toList,
      (customParts r body).tail.map labelOf ++ [wordPart "LAST"]) := by
    intro r body
    have htail : (customCall r body).parts.tail
        = (customParts r body).tail ++ [wordPart "LAST"] := rfl
    rw [CallText.shape, htail, List.map_append]
    rfl
  have hbody : (body'.map fun _ => Part.literal "Body".toList)
      = body.map fun _ => Part.literal "Body".toList := by
    cases body <;> cases body' <;> simp_all
  rw [hparts, hparts, labels_customParts, labels_customParts, hbody]

/-- The call that is read from the lines of a request that is not one by GET. -/
theorem readCall?_requestLines {r : Request} (h : r.isGet = false) :
    readCall? (requestLines r) = some (
      if r.rawBody then customCall r (some (bodyOf r))
      else if r.arguments = [] then customCall r none
      else formCall r) := by
  have hlines : requestLines r = if r.rawBody then customLines r (some (bodyOf r))
      else if r.arguments = [] then customLines r none else formLines r := by
    unfold requestLines bodyOf
    cases r.arguments <;> simp [h]
  rw [hlines]
  split
  · exact readCall?_of_linesSpell (linesSpell_customLines r (some (bodyOf r)))
  · split
    · exact readCall?_of_linesSpell (linesSpell_customLines r none)
    · exact readCall?_of_linesSpell (linesSpell_formLines r)

/-- A request that is not one by GET is read back as the call that was meant: with a body of its
own, as a form with each argument, or with neither. What stands in its texts changes neither the
function nor the keys and the words of the call. -/
theorem request_read_back {r : Request} (h : r.isGet = false) :
    (r.rawBody = true → readCall? (requestLines r) = some (customCall r (some (bodyOf r))))
      ∧ (r.rawBody = false → r.arguments ≠ [] → readCall? (requestLines r) = some (formCall r))
      ∧ (r.rawBody = false → r.arguments = [] →
        readCall? (requestLines r) = some (customCall r none))
      ∧ ∀ other : Request, other.isGet = false → other.rawBody = r.rawBody →
        other.arguments.length = r.arguments.length →
          (readCall? (requestLines other)).map CallText.shape
            = (readCall? (requestLines r)).map CallText.shape := by
  have hread := readCall?_requestLines h
  refine ⟨?_, ?_, ?_, ?_⟩
  · intro hraw
    simpa [hraw] using hread
  · intro hraw hne
    simpa [hraw, hne] using hread
  · intro hraw hnil
    simpa [hraw, hnil] using hread
  · intro other hother hraw hlength
    -- both take the same of the three ways, and each of these has one shape
    have hnil : (other.arguments = []) = (r.arguments = []) := by
      rw [← List.length_eq_zero_iff, ← List.length_eq_zero_iff, hlength]
    rw [hread, readCall?_requestLines hother, hraw]
    simp only [hnil, Option.map_some]
    split
    · exact congrArg some (shape_customCall rfl)
    · split
      · exact congrArg some (shape_customCall rfl)
      · exact congrArg some (shape_formCall hlength)

/-- A form whose texts hold the end of a literal, a further item and the end of the call, and that
sends an argument twice. -/
def hostileRequest : Request :=
  ⟨"a\", \"URL=b", "post", "http://h/$\x7bp\x7d\\", [⟨"q", "1\", ENDITEM, \"Name=z"⟩,
    ⟨"q", "LAST);\n"⟩, ⟨"q", "LAST);\n"⟩], false⟩

theorem request_read_back_hostile : hostileRequest.isGet = false
    ∧ readCall? (requestLines hostileRequest) = some ⟨"web_submit_data".toList,
      [.literal "a\", \"URL=b".toList, .literal "Action=http://h/\x7bp\x7d\\".toList,
        .literal "Method=post".toList, .literal "TargetFrame=".toList,
        .literal "Resource=0".toList, .literal "Mode=HTTP".toList, .word "ITEMDATA".toList,
        .literal "Name=q".toList, .literal "Value=1\", ENDITEM, \"Name=z".toList,
        .word "ENDITEM".toList,
        .literal "Name=q".toList, .literal "Value=LAST);\n".toList, .word "ENDITEM".toList,
        .literal "Name=q".toList, .literal "Value=LAST);\n".toList, .word "ENDITEM".toList,
        .word "LAST".toList]⟩ := by
  have hpost : hostileRequest.isGet = false := by decide
  refine ⟨hpost, ((request_read_back hpost).2.1 rfl (by decide)).trans ?_⟩
  decide +kernel

end VuserScript.Script
