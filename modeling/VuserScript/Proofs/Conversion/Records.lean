/-
  VuserScript.Proofs.Conversion.Records

  What the two configuration files of a script tell of its parameters. Each
  section behind the fixed ones of the settings, and each section of the list of
  parameters, is read as a record: a name, a data file, a column and a delimiter.
  Both files give the same records, one for each variable of each set, whatever
  the variables are called.
-/
import VuserScript.Proofs.Conversion.Parameters

namespace VuserScript.Conversion

open Script (Parameter ParameterSet Section parametersOf sectionsOf)
open Script.Bundle (configText parametersText)
open Text (safeName)

/-! ## Reading records -/

/-- The number that a text of digits writes. -/
def number? (text : String) : Option Nat :=
  if text.toList ≠ [] ∧ text.toList.all Char.isDigit then
    some (Nat.ofDigitChars 10 text.toList 0)
  else none

theorem number?_toString (n : Nat) : number? (toString n) = some n := by
  have hdigits : (Nat.toDigits 10 n).all Char.isDigit = true :=
    List.all_eq_true.mpr fun c hc => Nat.isDigit_of_mem_toDigits (by decide) (by decide) hc
  rw [number?, Nat.toString_eq_repr, Nat.toList_repr, if_pos ⟨Nat.toDigits_ne_nil, hdigits⟩,
    Nat.ofDigitChars_ten_toDigits]

/-- The record of a section that goes by a name; the delimiter has a key of its own in each of the
files. -/
def recordOf? (delimiterKey : String) (name : Option String) (s : Section) : Option Parameter := do
  let name ← name
  let file ← s.entries.lookup "FileName"
  let column ← (s.entries.lookup "Column").bind number?
  let delimiter ← s.entries.lookup delimiterKey
  pure ⟨name, file, column, delimiter⟩

/-- The record of a section of the settings, whose heading is the name. -/
def settingsRecord? (s : Section) : Option Parameter :=
  recordOf? "Delimiter" (some s.heading) s

/-- The record of a section of the list of parameters. All sections have one heading there. -/
def listRecord? (s : Section) : Option Parameter :=
  recordOf? "ColumnDelimiter"
    (if s.heading = "Parameter" then s.entries.lookup "Name" else none) s

/-- The sections behind the first one with a heading. -/
def sectionsBehind (heading : String) (sections : List Section) : List Section :=
  (sections.dropWhile fun s => s.heading ≠ heading).drop 1

/-- The records of all sections of the settings behind `Parameters`; `none` if one of them is no
record. -/
def settingsRecords? (text : String) : Option (List Parameter) :=
  (sectionsBehind "Parameters" (sectionsOf text)).mapM settingsRecord?

/-- The records of all sections of the list of parameters; `none` if one of them is no record. -/
def listRecords? (text : String) : Option (List Parameter) :=
  (sectionsOf text).mapM listRecord?

/-! ## Writing records -/

/-- The records of a set: its variables in order, each under its safe name and with its number, from
one on. All of them have the delimiter of the set and its data file, or else its CSV file. -/
def recordsOf (set : ParameterSet) : List Parameter :=
  set.variableNames.mapIdx fun index v =>
    { name := safeName v
      file := match set.datFileName with
        | some name => name
        | none => set.fileName
      column := index + 1
      delimiter := set.delimiter }

/-- A parameter under its safe name. -/
def underSafeName (p : Parameter) : Parameter :=
  { p with name := safeName p.name }

theorem map_underSafeName_parametersOf (sets : List ParameterSet) :
    (parametersOf sets).map underSafeName = sets.flatMap recordsOf := by
  have hfile : ∀ set : ParameterSet, set.dataFile
      = match set.datFileName with
        | some name => name
        | none => set.fileName := by
    intro set
    unfold ParameterSet.dataFile
    cases set.datFileName <;> rfl
  rw [parametersOf, List.map_flatMap]
  congr 1
  funext set
  refine List.ext_getElem (by simp [ParameterSet.columns, recordsOf]) fun index _ _ => ?_
  simp [ParameterSet.columns, recordsOf, underSafeName, ← hfile]

/-- A section that names a data file, a column and a delimiter is a record under any name. -/
theorem recordOf?_of_lookup {delimiterKey name : String} {p : Parameter} {s : Section}
    (hcarries : Carries s p.file p.column)
    (hdelimiter : s.entries.lookup delimiterKey = some p.delimiter) :
    recordOf? delimiterKey (some name) s = some { p with name } := by
  obtain ⟨hfile, hcolumn⟩ := hcarries
  have hnumber : (s.entries.lookup "Column").bind number? = some p.column := by
    rw [hcolumn, Option.bind_some, number?_toString]
  rw [recordOf?, hfile, hnumber, hdelimiter]
  rfl

theorem settingsRecord?_settingsSection (p : Parameter) :
    settingsRecord? (settingsSection p) = some (underSafeName p) :=
  recordOf?_of_lookup (carries_settingsSection p) rfl

theorem listRecord?_listSection (p : Parameter) :
    listRecord? (listSection p) = some (underSafeName p) :=
  recordOf?_of_lookup (carries_listSection p) rfl

theorem sectionsBehind_fixedSections (sections : List Section) :
    sectionsBehind "Parameters" (fixedSections ++ sections) = sections := by
  simp [sectionsBehind, fixedSections]

/-- Records are read back from sections if each of them is. -/
theorem mapM_map_sections {write : Parameter → Section} {read? : Section → Option Parameter}
    (h : ∀ p, read? (write p) = some (underSafeName p)) (sets : List ParameterSet) :
    ((parametersOf sets).map write).mapM read? = some (sets.flatMap recordsOf) := by
  rw [← map_underSafeName_parametersOf]
  induction parametersOf sets with
  | nil => rfl
  | cons p ps ih => simp [List.mapM_cons, h, ih]

/-! ## Sets without variables -/

theorem parametersOf_filter (sets : List ParameterSet) :
    parametersOf (sets.filter fun set => set.variableNames ≠ []) = parametersOf sets := by
  induction sets with
  | nil => rfl
  | cons set sets ih =>
    have hcons : ∀ rest, parametersOf (set :: rest) = parametersOf [set] ++ parametersOf rest := by
      intro rest
      simp [parametersOf]
    by_cases hnone : set.variableNames = []
    · have hown : parametersOf [set] = [] := by
        simp [parametersOf, ParameterSet.columns, hnone]
      rw [List.filter_cons_of_neg (by simpa using hnone), ih, hcons, hown, List.nil_append]
    · rw [List.filter_cons_of_pos (by simpa using hnone), hcons, ih, ← hcons]

/-- For every list of sets: the settings of a script and its list of parameters are both read back
as the same records, those of the sets in order, and sets without variables make no difference to
either file. Data files and delimiters are taken to be without line feeds; nothing is asked of the
variables. -/
theorem configuration_read_back {sets : List ParameterSet}
    (h : ∀ set ∈ sets, '\n' ∉ set.dataFile.toList ∧ '\n' ∉ set.delimiter.toList) :
    settingsRecords? (configText sets) = some (sets.flatMap recordsOf)
      ∧ listRecords? (parametersText sets) = some (sets.flatMap recordsOf)
      ∧ configText (sets.filter fun set => set.variableNames ≠ []) = configText sets
      ∧ parametersText (sets.filter fun set => set.variableNames ≠ []) = parametersText sets := by
  have hlines := isOnOneLine_of_mem h
  refine ⟨?_, ?_, ?_, ?_⟩
  · rw [settingsRecords?, sectionsOf_configText hlines, sectionsBehind_fixedSections]
    exact mapM_map_sections settingsRecord?_settingsSection sets
  · rw [listRecords?, sectionsOf_parametersText hlines]
    exact mapM_map_sections listRecord?_listSection sets
  · rw [configText, configText, parametersOf_filter]
  · rw [parametersText, parametersText, parametersOf_filter]

/-- Sets with variables that are written like headings, like entries and over two lines, with a
delimiter that is an equals sign and one that is empty, and a set without variables. -/
def hostileSets : List ParameterSet :=
  [⟨"a.csv", some "a.dat", ["[Parameters]", "Name=x\n[General]"], "="⟩,
    ⟨"b.csv", none, [], ";"⟩, ⟨"c.csv", none, ["[Parameters]"], ""⟩]

/-- Their records are read back from both files. -/
theorem configuration_read_back_hostileSets :
    settingsRecords? (configText hostileSets)
        = some [⟨"_Parameters_", "a.dat", 1, "="⟩, ⟨"Name_x__General_", "a.dat", 2, "="⟩,
          ⟨"_Parameters_", "c.csv", 1, ""⟩]
      ∧ listRecords? (parametersText hostileSets) = settingsRecords? (configText hostileSets) := by
  obtain ⟨hsettings, hlist, -⟩ := @configuration_read_back hostileSets (by decide)
  rw [hsettings, hlist]
  exact ⟨by decide, rfl⟩

end VuserScript.Conversion
