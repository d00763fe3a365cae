/-
  VuserScript.Proofs.Conversion.VariableNames

  The names of the variables of a data set, as a plan lists them between commas.
  A text is a list of entries, each a name with blanks around it; the entries
  without a name are left out, and nothing of the others but these blanks. A list
  of such names is read again from the text that joins them, also when blanks
  stand behind the commas, as in the summary of a script. So the columns that are
  counted there are those of the script.
-/
import VuserScript.Conversion.LogText
import VuserScript.Plan.DataSet
import VuserScript.Proofs.Text.Parts

namespace VuserScript.Plan

open Text (IsTrimmed isBlank trimList)

/-! ## Between commas -/

theorem splitCommas_eq_splitOn (cs : List Char) : splitCommas cs = cs.splitOn ',' := by
  induction cs with
  | nil => rfl
  | cons c rest ih =>
    rw [splitCommas, List.splitOn_cons_eq_if_modifyHead, ih]
    obtain ⟨part, parts, h⟩ := List.exists_cons_of_ne_nil (List.splitOn_ne_nil ',' rest)
    by_cases hc : c = ',' <;> simp [hc, h]

/-- What stands between two commas: a name, which may be missing, and the blanks around it. -/
structure Entry where
  before : List Char
  name : List Char
  behind : List Char
  blank_before : ∀ c ∈ before, isBlank c = true
  blank_behind : ∀ c ∈ behind, isBlank c = true
  trimmed : IsTrimmed name
  no_comma : ',' ∉ name

/-- A name as it can stand in a list. -/
structure IsName (name : String) : Prop where
  ne_empty : name ≠ ""
  no_comma : ',' ∉ name.toList
  trimmed : IsTrimmed name.toList

namespace Entry

/-- The whole entry, with its blanks. -/
def text (e : Entry) : List Char :=
  e.before ++ (e.name ++ e.behind)

/-- Entries with commas between them. -/
def listText (entries : List Entry) : List Char :=
  [','].intercalate (entries.map text)

/-- The names of entries in order, without those that are missing. -/
def namesOf (entries : List Entry) : List String :=
  ((entries.map name).filter (· ≠ [])).map String.ofList

theorem trimList_text (e : Entry) : trimList e.text = e.name :=
  Text.trimList_of_isTrimmed e.trimmed e.blank_before e.blank_behind

theorem no_comma_text (e : Entry) : ',' ∉ e.text := by
  have hblank : ∀ c, isBlank c = true → ',' ≠ c := by
    rintro _ hc rfl
    cases hc
  simp only [text, List.mem_append, not_or]
  exact ⟨fun h => hblank _ (e.blank_before _ h) rfl, e.no_comma,
    fun h => hblank _ (e.blank_behind _ h) rfl⟩

/-- Any text without commas is an entry. -/
def ofPart (part : List Char) (h : ',' ∉ part) : Entry where
  before := Text.blanksBefore part
  name := trimList part
  behind := Text.blanksBehind part
  blank_before := Text.isBlank_of_mem_blanksBefore
  blank_behind := Text.isBlank_of_mem_blanksBehind
  trimmed := Text.isTrimmed_trimList part
  no_comma := by
    rw [← Text.blanksBefore_append_trimList part] at h
    simp only [List.mem_append, not_or] at h
    exact h.2.1

theorem text_ofPart (part : List Char) (h : ',' ∉ part) : (ofPart part h).text = part :=
  Text.blanksBefore_append_trimList part

/-- A name with a text of blanks before it. -/
def padded (pad : List Char) (hpad : ∀ c ∈ pad, isBlank c = true) (name : String)
    (h : IsName name) : Entry where
  before := pad
  name := name.toList
  behind := []
  blank_before := hpad
  blank_behind := by simp
  trimmed := h.trimmed
  no_comma := h.no_comma

/-- Names as entries: nothing stands before the first, and the same blanks before each of the
others. -/
def ofNames (pad : List Char) (hpad : ∀ c ∈ pad, isBlank c = true) :
    (names : List String) → (∀ name ∈ names, IsName name) → List Entry
  | [], _ => []
  | first :: others, h =>
    padded [] (by simp) first (h first (.head _))
      :: others.pmap (padded pad hpad) fun name hname => h name (.tail _ hname)

/-- Every text is a list of entries. -/
theorem exists_listText (cs : List Char) : ∃ entries, listText entries = cs := by
  refine ⟨(cs.splitOn ',').pmap ofPart fun part => Text.not_mem_of_mem_splitOn, ?_⟩
  rw [listText, List.map_pmap]
  simp only [text_ofPart]
  rw [List.pmap_eq_map, List.map_id', List.intercalate_splitOn]

end Entry

open Entry (listText namesOf)

/-! ## The names of a list -/

/-- However a text is written as a list of entries, its names are theirs. -/
theorem splitNames_of_listText {s : String} {entries : List Entry}
    (h : listText entries = s.toList) : splitNames s = namesOf entries := by
  cases entries with
  | nil =>
    obtain rfl : s = "" := String.toList_eq_nil_iff.mp h.symm
    rfl
  | cons e entries =>
    -- no entry has a comma, so the parts between the commas are the entries
    have hparts : splitCommas s.toList = (e :: entries).map Entry.text := by
      rw [splitCommas_eq_splitOn, ← h, listText]
      refine List.splitOn_intercalate ',' (fun part hpart => ?_) (by simp)
      obtain ⟨e', -, rfl⟩ := List.mem_map.mp hpart
      exact e'.no_comma_text
    have hnames : ((e :: entries).map Entry.text).map trimList = (e :: entries).map Entry.name := by
      rw [List.map_map]
      exact List.map_congr_left fun e' _ => e'.trimList_text
    rw [splitNames, hparts, hnames, namesOf]

theorem isName_of_mem_splitNames {s name : String} (h : name ∈ splitNames s) : IsName name := by
  obtain ⟨entries, hentries⟩ := Entry.exists_listText s.toList
  rw [splitNames_of_listText hentries, namesOf] at h
  obtain ⟨cs, hcs, rfl⟩ := List.mem_map.mp h
  obtain ⟨hmem, hne⟩ := List.mem_filter.mp hcs
  obtain ⟨e, -, rfl⟩ := List.mem_map.mp hmem
  refine ⟨fun hempty => ?_, by simpa using e.no_comma, by simpa using e.trimmed⟩
  rw [← String.toList_eq_nil_iff, String.toList_ofList] at hempty
  simp [hempty] at hne

section OfNames

variable {names : List String} {separator : String} {pad : List Char}
  (hpad : ∀ c ∈ pad, isBlank c = true) (h : ∀ name ∈ names, IsName name)

theorem listText_ofNames (hseparator : separator.toList = ',' :: pad) :
    listText (Entry.ofNames pad hpad names h) = (separator.intercalate names).toList := by
  cases names with
  | nil => rfl
  | cons first others =>
    -- the blanks of the separator go to the entry behind it, and only its comma is left
    have htexts : (Entry.ofNames pad hpad (first :: others) h).map Entry.text
        = first.toList :: others.map fun name => pad ++ name.toList := by
      simp [Entry.ofNames, List.map_pmap, Entry.padded, Entry.text, List.pmap_eq_map]
    rw [listText, htexts, String.toList_intercalate, List.map_cons, Text.intercalate_cons,
      Text.intercalate_cons, List.flatMap_map, List.flatMap_map, hseparator]
    simp

theorem namesOf_ofNames : namesOf (Entry.ofNames pad hpad names h) = names := by
  have hnames : (Entry.ofNames pad hpad names h).map Entry.name = names.map String.toList := by
    cases names <;> simp [Entry.ofNames, List.map_pmap, Entry.padded, List.pmap_eq_map]
  have hfilled : ∀ cs ∈ names.map String.toList, decide (cs ≠ []) = true := by
    intro cs hcs
    obtain ⟨name, hname, rfl⟩ := List.mem_map.mp hcs
    rw [decide_eq_true_eq]
    exact fun hempty => (h name hname).ne_empty (String.toList_eq_nil_iff.mp hempty)
  rw [namesOf, hnames, List.filter_eq_self.mpr hfilled, List.map_map]
  simp [Function.comp_def]

include hpad h in
/-- Names that are joined by commas, with blanks behind them or none, are read again. -/
theorem splitNames_intercalate (hseparator : separator.toList = ',' :: pad) :
    splitNames (separator.intercalate names) = names := by
  rw [splitNames_of_listText (listText_ofNames hpad h hseparator), namesOf_ofNames]

end OfNames

end VuserScript.Plan

namespace VuserScript.Conversion

open Plan (Entry IsName splitNames)
open Script (ParameterSet)

/-! ## Columns -/

/-- Counting the names in a text, from one on, gives the columns of a set. -/
def TellsColumns (text : String) (set : ParameterSet) : Prop :=
  ∀ column name, (column, name) ∈ set.columns
    ↔ 0 < column ∧ (splitNames text)[column - 1]? = some name

theorem tellsColumns_of_eq {text : String} {set : ParameterSet}
    (h : splitNames text = set.variableNames) : TellsColumns text set := by
  intro column name
  rw [h, ParameterSet.columns, List.mem_mapIdx]
  constructor
  · rintro ⟨index, hindex, heq⟩
    obtain ⟨rfl, rfl⟩ := Prod.mk.inj heq
    exact ⟨Nat.succ_pos index, List.getElem?_eq_getElem hindex⟩
  · rintro ⟨hpos, hname⟩
    obtain ⟨hindex, hget⟩ := List.getElem?_eq_some_iff.mp hname
    exact ⟨column - 1, hindex, by rw [hget, Nat.sub_add_cancel hpos]⟩

/-- The names of a list are those of its entries that have one, in order, and the list has nothing
else but commas and the blanks around the names. Each of them can stand in a list again. So they are
read again from the text that joins them with commas, or with commas and blanks as the summary of a
script does where there are any names, and counting them there gives the columns of the set. -/
theorem splitNames_read_back (s : String) :
    (∀ names : List String, names = splitNames s
        ↔ ∃ entries : List Entry, Entry.listText entries = s.toList
          ∧ names = Entry.namesOf entries)
      ∧ (∀ name ∈ splitNames s, IsName name)
      ∧ splitNames (",".intercalate (splitNames s)) = splitNames s
      ∧ splitNames (", ".intercalate (splitNames s)) = splitNames s
      ∧ (splitNames s ≠ [] → orElseText (", ".intercalate (splitNames s)) "(none)"
        = ", ".intercalate (splitNames s))
      ∧ ∀ set : ParameterSet,
        TellsColumns (",".intercalate (splitNames s)) { set with variableNames := splitNames s }
        ∧ TellsColumns (", ".intercalate (splitNames s))
          { set with variableNames := splitNames s } := by
  have hname : ∀ name ∈ splitNames s, IsName name := fun name => Plan.isName_of_mem_splitNames
  have hcomma : splitNames (",".intercalate (splitNames s)) = splitNames s := by
    have hseparator : ",".toList = [','] := by decide
    exact Plan.splitNames_intercalate (by simp) hname hseparator
  have hblank : splitNames (", ".intercalate (splitNames s)) = splitNames s := by
    have hseparator : ", ".toList = [',', ' '] := by decide
    have hpad : ∀ c ∈ [' '], Text.isBlank c = true := List.forall_mem_singleton.mpr rfl
    exact Plan.splitNames_intercalate hpad hname hseparator
  refine ⟨fun names => ?_, hname, hcomma, hblank, fun hne => ?_, fun set => ?_⟩
  · constructor
    · rintro rfl
      obtain ⟨entries, hentries⟩ := Entry.exists_listText s.toList
      exact ⟨entries, hentries, Plan.splitNames_of_listText hentries⟩
    · rintro ⟨entries, hentries, rfl⟩
      exact (Plan.splitNames_of_listText hentries).symm
  · -- names whose text is empty could not be read again
    have hshown : ", ".intercalate (splitNames s) ≠ "" := by
      intro hempty
      rw [hempty] at hblank
      exact hne hblank.symm
    rw [orElseText, if_neg hshown]
  · exact ⟨tellsColumns_of_eq hcomma, tellsColumns_of_eq hblank⟩

/-- Names between blanks of several kinds, and entries without a name. -/
def paddedNames : String :=
  " user ,\u00a0pass word,,\u3000,id\u001c"

theorem splitNames_read_back_paddedNames :
    "pass word" ∈ splitNames paddedNames ∧ IsName "pass word"
      ∧ splitNames paddedNames ≠ []
      ∧ orElseText (", ".intercalate ["user", "pass word", "id"]) "(none)" = "user, pass word, id"
      ∧ splitNames "user, pass word, id" = ["user", "pass word", "id"] := by
  have hnames : splitNames paddedNames = ["user", "pass word", "id"] := by cbv
  obtain ⟨-, hname, -, hblank, hshown, -⟩ := splitNames_read_back paddedNames
  have hmem : "pass word" ∈ splitNames paddedNames := by
    rw [hnames]
    decide
  have hne : splitNames paddedNames ≠ [] := by
    rw [hnames]
    decide
  have hlog := hshown hne
  rw [hnames] at hblank hlog
  exact ⟨hmem, hname _ hmem, hne, hlog, hblank⟩

end VuserScript.Conversion
