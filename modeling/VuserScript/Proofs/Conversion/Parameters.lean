/-
  VuserScript.Proofs.Conversion.Parameters

  References to variables against the parameters of a script. A reference keeps
  the name of its variable, while the configuration files have the safe form of
  it; so a reference leads to the column of its variable if and only if the
  name is safe as it stands, is none of a section that all scripts have, and is
  the safe form of no other name.
-/
import VuserScript.Proofs.Conversion.FolderNames
import VuserScript.Proofs.Conversion.Steps
import VuserScript.Proofs.Script.Sections
import VuserScript.Proofs.Text.References

namespace VuserScript.Conversion

open Plan (DataSet)
open Script (Parameter ParameterSet Section parametersOf sectionsOf)
open Script.Bundle (configText parametersText)
open Storage (Disk Path)
open Text (safeName)

/-! ## Sections of parameters -/

/-- The sections that the settings of all scripts have. -/
def fixedSections : List Section :=
  [⟨"General", [("DefaultRunLogic", "Action")]⟩,
    ⟨"Actions", [("vuser_init", Script.Bundle.initFile), ("Action", Script.Bundle.actionFile),
      ("vuser_end", Script.Bundle.endFile)]⟩,
    ⟨"Parameters", []⟩]

/-- The section of a parameter in the settings. -/
def settingsSection (p : Parameter) : Section :=
  ⟨safeName p.name, [("Type", "File"), ("FileName", p.file), ("Column", toString p.column),
    ("Delimiter", p.delimiter), ("SelectNextRow", "Sequential"), ("WhenOutOfRange", "Continue")]⟩

/-- The section of a parameter in the list of parameters. -/
def listSection (p : Parameter) : Section :=
  ⟨"Parameter", [("Name", safeName p.name), ("Type", "File"), ("FileName", p.file),
    ("Column", toString p.column), ("ColumnDelimiter", p.delimiter), ("UpdateMode", "Sequential"),
    ("WhenOutOfRange", "Continue")]⟩

theorem lines_settingsSection (p : Parameter) :
    (settingsSection p).lines = Script.Bundle.configSection p := by
  simp only [Section.lines, settingsSection, Script.Bundle.configSection, List.map_cons,
    List.map_nil, List.cons_append, List.nil_append, String.reduceAppend]

theorem lines_listSection (p : Parameter) :
    (listSection p).lines = Script.Bundle.parameterBlock p := by
  simp only [Section.lines, listSection, Script.Bundle.parameterBlock, List.map_cons,
    List.map_nil, List.cons_append, List.nil_append, String.reduceAppend]

theorem IsSafeText.no_break {s : String} (h : IsSafeText s) : '\n' ∉ s.toList := fun hc =>
  absurd (h '\n' hc) (by decide)

/-- A parameter without line feeds in what it takes over from its data set. -/
structure IsOnOneLine (p : Parameter) : Prop where
  file : '\n' ∉ p.file.toList
  delimiter : '\n' ∉ p.delimiter.toList

theorem IsOnOneLine.isPlain_settingsSection {p : Parameter} (h : IsOnOneLine p) :
    (settingsSection p).IsPlain where
  heading := (isSafeText_safeName p.name).no_break
  keys entry hentry := by
    have hkeys : ∀ key ∈ ["Type", "FileName", "Column", "Delimiter", "SelectNextRow",
        "WhenOutOfRange"], Script.IsKey key ∧ '\n' ∉ key.toList := by decide
    exact hkeys _ (List.mem_map_of_mem (f := Prod.fst) hentry)
  values := by
    simp only [settingsSection, List.forall_mem_cons]
    exact ⟨by decide, h.file, (isSafeText_toString p.column).no_break, h.delimiter, by decide,
      by decide, nofun⟩

theorem IsOnOneLine.isPlain_listSection {p : Parameter} (h : IsOnOneLine p) :
    (listSection p).IsPlain where
  heading := by
    have hheading : '\n' ∉ "Parameter".toList := by decide
    exact hheading
  keys entry hentry := by
    have hkeys : ∀ key ∈ ["Name", "Type", "FileName", "Column", "ColumnDelimiter", "UpdateMode",
        "WhenOutOfRange"], Script.IsKey key ∧ '\n' ∉ key.toList := by decide
    exact hkeys _ (List.mem_map_of_mem (f := Prod.fst) hentry)
  values := by
    simp only [listSection, List.forall_mem_cons]
    exact ⟨(isSafeText_safeName p.name).no_break, by decide, h.file,
      (isSafeText_toString p.column).no_break, h.delimiter, by decide, by decide, nofun⟩

theorem sectionsOf_configText {sets : List ParameterSet}
    (h : ∀ p ∈ parametersOf sets, IsOnOneLine p) :
    sectionsOf (configText sets) = fixedSections ++ (parametersOf sets).map settingsSection := by
  have hfixed : ∀ s ∈ fixedSections, s.IsPlain := by
    have hall : ∀ s ∈ fixedSections, '\n' ∉ s.heading.toList ∧ ∀ entry ∈ s.entries,
        (Script.IsKey entry.1 ∧ '\n' ∉ entry.1.toList) ∧ '\n' ∉ entry.2.toList := by decide
    exact fun s hs => ⟨(hall s hs).1, fun entry hentry => ((hall s hs).2 entry hentry).1,
      fun entry hentry => ((hall s hs).2 entry hentry).2⟩
  have hplain : ∀ s ∈ fixedSections ++ (parametersOf sets).map settingsSection, s.IsPlain := by
    refine List.forall_mem_append.mpr ⟨hfixed, List.forall_mem_map.mpr fun p hp => ?_⟩
    exact (h p hp).isPlain_settingsSection
  have hfirst : ["[General]", "DefaultRunLogic=Action", "", "[Actions]",
      "vuser_init=" ++ Script.Bundle.initFile, "Action=" ++ Script.Bundle.actionFile,
      "vuser_end=" ++ Script.Bundle.endFile, "", "[Parameters]", ""]
      = fixedSections.flatMap Section.lines := by decide
  have hrest : (parametersOf sets).flatMap Script.Bundle.configSection
      = ((parametersOf sets).map settingsSection).flatMap Section.lines := by
    simp only [List.flatMap_map, lines_settingsSection]
  rw [configText, hfirst, hrest, ← List.flatMap_append, ← List.nil_append (List.flatMap _ _)]
  exact Script.sectionsOf_joinLines rfl nofun (by simp [fixedSections, Section.lines]) hplain

theorem sectionsOf_parametersText {sets : List ParameterSet}
    (h : ∀ p ∈ parametersOf sets, IsOnOneLine p) :
    sectionsOf (parametersText sets) = (parametersOf sets).map listSection := by
  have hplain : ∀ s ∈ (parametersOf sets).map listSection, s.IsPlain :=
    List.forall_mem_map.mpr fun p hp => (h p hp).isPlain_listSection
  have hlines : (parametersOf sets).flatMap Script.Bundle.parameterBlock
      = ((parametersOf sets).map listSection).flatMap Section.lines := by
    simp only [List.flatMap_map, lines_listSection]
  rw [parametersText, hlines]
  exact Script.sectionsOf_joinLines (by decide) (by decide) (by simp) hplain

/-! ## References -/

/-- A section that names a data file and one of its columns. -/
def Carries (s : Section) (file : String) (column : Nat) : Prop :=
  s.entries.lookup "FileName" = some file ∧ s.entries.lookup "Column" = some (toString column)

/-- A reference to a variable leads to a column of a data file: under the name that it has in a
script there is exactly one section of the settings and exactly one of the list of parameters, and
both name this file and this column. -/
def Resolves (sets : List ParameterSet) (file : String) (column : Nat) (v : String) : Prop :=
  ∃ w, Text.scriptForm ("$\x7b" ++ v ++ "\x7d") = "\x7b" ++ w ++ "\x7d"
    ∧ (∃ s, (sectionsOf (configText sets)).filter (fun s => s.heading = w) = [s]
      ∧ Carries s file column)
    ∧ ∃ s, (sectionsOf (parametersText sets)).filter
        (fun s => s.heading = "Parameter" ∧ s.entries.lookup "Name" = some w) = [s]
      ∧ Carries s file column

/-- A variable whose name is the same in the configuration files, and is the name of no other
section there. -/
structure HasOwnSection (sets : List ParameterSet) (v : String) : Prop where
  safe : safeName v = v
  free : v ∉ fixedSections.map Section.heading
  alone : ∀ p ∈ parametersOf sets, safeName p.name = v → p.name = v

/-- The parameters with a name in the configuration files. -/
def namedInFiles (sets : List ParameterSet) (w : String) : List Parameter :=
  (parametersOf sets).filter fun p => safeName p.name = w

theorem mem_namedInFiles {sets : List ParameterSet} {w : String} {p : Parameter} :
    p ∈ namedInFiles sets w ↔ p ∈ parametersOf sets ∧ safeName p.name = w := by
  rw [namedInFiles, List.mem_filter, decide_eq_true_eq]

theorem filter_fixedSections_eq_nil_iff (w : String) :
    fixedSections.filter (fun s => s.heading = w) = [] ↔ w ∉ fixedSections.map Section.heading := by
  rw [List.filter_eq_nil_iff]
  constructor
  · intro h hmem
    obtain ⟨s, hs, hheading⟩ := List.mem_map.mp hmem
    exact h s hs (decide_eq_true hheading)
  · intro h s hs heq
    rw [← of_decide_eq_true heq] at h
    exact h (List.mem_map_of_mem hs)

theorem filter_settings {sets : List ParameterSet} (h : ∀ p ∈ parametersOf sets, IsOnOneLine p)
    (w : String) : (sectionsOf (configText sets)).filter (fun s => s.heading = w)
      = fixedSections.filter (fun s => s.heading = w)
        ++ (namedInFiles sets w).map settingsSection := by
  rw [sectionsOf_configText h, List.filter_append, List.filter_map]
  rfl

theorem filter_list {sets : List ParameterSet} (h : ∀ p ∈ parametersOf sets, IsOnOneLine p)
    (w : String) : (sectionsOf (parametersText sets)).filter
        (fun s => s.heading = "Parameter" ∧ s.entries.lookup "Name" = some w)
      = (namedInFiles sets w).map listSection := by
  rw [sectionsOf_parametersText h, List.filter_map]
  congr 1
  refine List.filter_congr fun p _ => ?_
  simp [listSection]

theorem carries_settingsSection (p : Parameter) :
    Carries (settingsSection p) p.file p.column :=
  ⟨rfl, rfl⟩

theorem carries_listSection (p : Parameter) : Carries (listSection p) p.file p.column :=
  ⟨rfl, rfl⟩

theorem map_name_parametersOf (sets : List ParameterSet) :
    (parametersOf sets).map Parameter.name = sets.flatMap ParameterSet.variableNames := by
  have hcolumns : ∀ set : ParameterSet, set.columns.map Prod.snd = set.variableNames := by
    intro set
    refine List.ext_getElem (by simp [ParameterSet.columns]) fun index _ _ => ?_
    simp [ParameterSet.columns]
  rw [parametersOf, List.map_flatMap]
  congr 1
  funext set
  rw [List.map_map, ← hcolumns]
  rfl

/-- If no two of its parameters have a name in common, one with a name is found by it alone. -/
theorem filter_name_eq_singleton {ps : List Parameter} (h : (ps.map Parameter.name).Nodup)
    {p : Parameter} (hp : p ∈ ps) : ps.filter (fun q => q.name = p.name) = [p] := by
  induction ps with
  | nil => cases hp
  | cons q ps ih =>
    obtain ⟨hq, h⟩ := List.nodup_cons.mp h
    rcases List.mem_cons.mp hp with rfl | hp
    · have hnone : ps.filter (fun q => q.name = p.name) = [] := by
        refine List.filter_eq_nil_iff.mpr fun r hr heq => hq ?_
        rw [← of_decide_eq_true heq]
        exact List.mem_map_of_mem hr
      simp [hnone]
    · have hne : q.name ≠ p.name := fun heq => hq (heq ▸ List.mem_map_of_mem hp)
      rw [List.filter_cons_of_neg (by simpa using hne), ih h hp]

section

variable {sets : List ParameterSet} {p : Parameter}

theorem HasOwnSection.namedInFiles_eq (h : HasOwnSection sets p.name)
    (hnodup : (sets.flatMap ParameterSet.variableNames).Nodup) (hp : p ∈ parametersOf sets) :
    namedInFiles sets p.name = [p] := by
  rw [← map_name_parametersOf] at hnodup
  rw [← filter_name_eq_singleton hnodup hp, namedInFiles]
  refine List.filter_congr fun q hq => ?_
  rw [decide_eq_decide]
  constructor
  · exact h.alone q hq
  · intro heq
    rw [heq, h.safe]

/-- A name of which there is one parameter in the configuration files, and no other section in the
settings, is that of this parameter. -/
theorem hasOwnSection_of_namedInFiles {q : Parameter} (hp : p ∈ parametersOf sets)
    (hq : namedInFiles sets p.name = [q]) (hfree : p.name ∉ fixedSections.map Section.heading) :
    HasOwnSection sets p.name := by
  have hmem : ∀ r, r ∈ parametersOf sets ∧ safeName r.name = p.name ↔ r = q := by
    intro r
    rw [← mem_namedInFiles, hq, List.mem_singleton]
  obtain ⟨-, hsafe⟩ := (hmem q).mpr rfl
  -- a name in the files is safe, so the parameter itself is there by its own name
  have hself : safeName p.name = p.name := by
    rw [← hsafe, Text.safeName_safeName]
  have hpq := (hmem p).mp ⟨hp, hself⟩
  refine ⟨hself, hfree, fun r hr hname => ?_⟩
  rw [(hmem r).mp ⟨hr, hname⟩, hpq]

/-- A reference to a variable of a set leads to its column if and only if the variable has a section
of its own in the configuration files. -/
theorem resolves_iff (hnodup : (sets.flatMap ParameterSet.variableNames).Nodup)
    (hlines : ∀ p ∈ parametersOf sets, IsOnOneLine p) (hp : p ∈ parametersOf sets)
    (hne : p.name ≠ "") (hbrace : '}' ∉ p.name.toList) :
    Resolves sets p.file p.column p.name ↔ HasOwnSection sets p.name := by
  have hform := Text.scriptForm_reference hne hbrace
  constructor
  · rintro ⟨w, hw, ⟨s, hsettings, -⟩, t, hlist, -⟩
    obtain rfl : p.name = w := by
      rw [hform] at hw
      refine String.toList_inj.mp ?_
      simpa using congrArg String.toList hw
    rw [filter_list hlines, List.map_eq_singleton_iff] at hlist
    obtain ⟨q, hq, -⟩ := hlist
    rw [filter_settings hlines, hq] at hsettings
    -- the section of the parameter is the only one, so no other section of the settings is left
    have hfree : fixedSections.filter (fun s => s.heading = p.name) = [] := by
      have hlength := congrArg List.length hsettings
      rw [List.length_append] at hlength
      refine List.length_eq_zero_iff.mp ?_
      simpa using hlength
    exact hasOwnSection_of_namedInFiles hp hq ((filter_fixedSections_eq_nil_iff _).mp hfree)
  · intro h
    have hone := h.namedInFiles_eq hnodup hp
    have hfree := (filter_fixedSections_eq_nil_iff p.name).mpr h.free
    refine ⟨p.name, hform, ⟨settingsSection p, ?_, carries_settingsSection p⟩,
      listSection p, ?_, carries_listSection p⟩
    · rw [filter_settings hlines, hfree, hone]
      rfl
    · rw [filter_list hlines, hone]
      rfl

end

/-! ## Recorded sets -/

/-- The sets that are recorded for data sets have the variables of these, as far as they go. -/
theorem Placed.variableNames_sublist {s : DataSource} {folder : Path} {dataSets : List DataSet}
    {sets : List ParameterSet} {warnings : List String} {d e : Disk}
    (h : Placed s folder dataSets d sets warnings e) :
    (sets.flatMap ParameterSet.variableNames).Sublist (dataSets.flatMap DataSet.variableNames) := by
  induction h with
  | nil => exact .slnil
  | unnamed path others ih =>
    rw [List.flatMap_cons]
    exact List.sublist_append_of_sublist_right ih
  | missing path absent others ih =>
    rw [List.flatMap_cons]
    exact List.sublist_append_of_sublist_right ih
  | found path present copies others ih =>
    rw [List.flatMap_cons, List.flatMap_cons]
    exact (List.Sublist.refl _).append ih

theorem ne_empty_of_mem_variableNames {root : Xml.Element} {v : String}
    (h : v ∈ (Plan.dataSets root).flatMap DataSet.variableNames) : v ≠ "" := by
  obtain ⟨dataSet, hdataSet, hv⟩ := List.mem_flatMap.mp h
  obtain ⟨index, hindex, rfl⟩ := List.mem_mapIdx.mp hdataSet
  simp only [DataSet.ofElement, Plan.splitNames, List.mem_map, List.mem_filter,
    decide_eq_true_eq] at hv
  obtain ⟨cs, ⟨-, hcs⟩, rfl⟩ := hv
  rwa [Ne, String.ofList_eq_empty_iff]

theorem mem_parametersOf {sets : List ParameterSet} {set : ParameterSet} (hset : set ∈ sets)
    {column : Nat} {v : String} (h : (column, v) ∈ set.columns) :
    ⟨v, set.dataFile, column, set.delimiter⟩ ∈ parametersOf sets :=
  List.mem_flatMap.mpr ⟨set, hset, List.mem_map.mpr ⟨(column, v), h, rfl⟩⟩

theorem isOnOneLine_of_mem {sets : List ParameterSet}
    (h : ∀ set ∈ sets, '\n' ∉ set.dataFile.toList ∧ '\n' ∉ set.delimiter.toList) :
    ∀ p ∈ parametersOf sets, IsOnOneLine p := by
  intro p hp
  obtain ⟨set, hset, hp⟩ := List.mem_flatMap.mp hp
  obtain ⟨_, -, rfl⟩ := List.mem_map.mp hp
  exact ⟨(h set hset).1, (h set hset).2⟩

/-- For a plan whose data sets have different variables, and whatever the files are: of the sets
that are recorded, a reference to a variable leads to the column of the variable if and only if the
variable has a section of its own in the configuration files. File names and delimiters are taken to
be without line feeds. -/
theorem references_resolve_iff {s : DataSource} {folder : Path} {root : Xml.Element}
    {sets : List ParameterSet} {warnings : List String} {σ τ : Session}
    (h : (s.placeAll folder (Plan.dataSets root)).outcome σ = (.ok (sets, warnings), τ))
    (hnodup : ((Plan.dataSets root).flatMap DataSet.variableNames).Nodup)
    (hbrace : ∀ v ∈ (Plan.dataSets root).flatMap DataSet.variableNames, '}' ∉ v.toList)
    (hlines : ∀ set ∈ sets, '\n' ∉ set.dataFile.toList ∧ '\n' ∉ set.delimiter.toList) :
    ∀ set ∈ sets, ∀ column ∈ set.columns,
      Resolves sets set.dataFile column.1 column.2 ↔ HasOwnSection sets column.2 := by
  rintro set hset ⟨column, v⟩ hcolumn
  have hsublist := (placed_placeAll h).variableNames_sublist
  have hp := mem_parametersOf hset hcolumn
  have hv : v ∈ (Plan.dataSets root).flatMap DataSet.variableNames := by
    refine hsublist.subset ?_
    rw [← map_name_parametersOf]
    exact List.mem_map_of_mem (f := Parameter.name) hp
  have hiff := resolves_iff (hsublist.nodup hnodup) (isOnOneLine_of_mem hlines) hp
    (ne_empty_of_mem_variableNames hv) (hbrace v hv)
  exact hiff

/-! ## A name that is not safe -/

/-- A plan with a data set that has a variable with a period in its name. -/
def planWithDottedName : String :=
  "<jmeterTestPlan><hashTree><CSVDataSet><stringProp name=\"filename\">rows.csv</stringProp>"
    ++ "<stringProp name=\"variableNames\">id,user.name</stringProp></CSVDataSet></hashTree>"
    ++ "</jmeterTestPlan>"

/-- Its data file, and a folder for a script. -/
def rowsAndFolder : Session where
  disk :=
    { tree := ⟨[(["rows.csv"], .file "1,a".toUTF8), (["out"], .folder)]⟩
      workingFolder := [] }

/-- The set that is recorded for it. -/
def dottedSet : ParameterSet where
  fileName := "rows.csv"
  datFileName := some "rows.dat"
  variableNames := ["id", "user.name"]

theorem outcome_planWithDottedName :
    (Xml.Document.parse planWithDottedName).toOption.map (fun root =>
        (((DataSource.placeAll ⟨⟨.absolute, []⟩, true⟩ ⟨.absolute, ["out"]⟩
            (Plan.dataSets root)).outcome rowsAndFolder).1.toOption,
          (Plan.dataSets root).flatMap DataSet.variableNames))
      = some (some ([dottedSet], []), ["id", "user.name"]) := by
  decide +kernel

theorem placeAll_planWithDottedName : ∃ root τ,
    (DataSource.placeAll ⟨⟨.absolute, []⟩, true⟩ ⟨.absolute, ["out"]⟩
        (Plan.dataSets root)).outcome rowsAndFolder = (.ok ([dottedSet], []), τ)
      ∧ (Plan.dataSets root).flatMap DataSet.variableNames = ["id", "user.name"] := by
  obtain ⟨root, -, houtcome⟩ := Option.map_eq_some_iff.mp outcome_planWithDottedName
  obtain ⟨hsets, hnames⟩ := Prod.mk.inj houtcome
  exact ⟨root, _, Prod.ext (Job.eq_ok_of_toOption_eq_some hsets) rfl, hnames⟩

/-- A reference to its first variable leads to the first column, and one to the other variable leads
nowhere. -/
theorem references_resolve_planWithDottedName :
    Resolves [dottedSet] "rows.dat" 1 "id" ∧ ¬ Resolves [dottedSet] "rows.dat" 2 "user.name" := by
  obtain ⟨root, τ, hplaced, hnames⟩ := placeAll_planWithDottedName
  have hnodup : ((Plan.dataSets root).flatMap DataSet.variableNames).Nodup := by
    rw [hnames]
    decide
  have hbrace : ∀ v ∈ (Plan.dataSets root).flatMap DataSet.variableNames, '}' ∉ v.toList := by
    rw [hnames]
    decide
  have hiff := references_resolve_iff hplaced hnodup hbrace (by decide) dottedSet (.head _)
  refine ⟨(hiff (1, "id") (by decide)).mpr ⟨by decide, by decide, by decide⟩, fun hresolves => ?_⟩
  exact absurd ((hiff (2, "user.name") (by decide)).mp hresolves).safe (by decide)

/-- Not all references lead to the column of their variable, even if all variables are different:
one to a name with a period keeps the period, and the configuration files have an underscore. -/
theorem not_forall_resolves :
    ¬ ∀ (s : DataSource) (folder : Path) (root : Xml.Element) (sets : List ParameterSet)
      (warnings : List String) (σ τ : Session),
      (s.placeAll folder (Plan.dataSets root)).outcome σ = (.ok (sets, warnings), τ) →
      ((Plan.dataSets root).flatMap DataSet.variableNames).Nodup →
      (∀ v ∈ (Plan.dataSets root).flatMap DataSet.variableNames, '}' ∉ v.toList) →
      ∀ set ∈ sets, ∀ column ∈ set.columns, Resolves sets set.dataFile column.1 column.2 := by
  intro hall
  obtain ⟨root, τ, hplaced, hnames⟩ := placeAll_planWithDottedName
  have hresolves := hall _ _ root _ _ _ τ hplaced (by rw [hnames]; decide) (by rw [hnames]; decide)
    dottedSet (.head _) (2, "user.name") (by decide)
  have hlines : ∀ p ∈ parametersOf [dottedSet], IsOnOneLine p := isOnOneLine_of_mem (by decide)
  have hp : ⟨"user.name", "rows.dat", 2, ","⟩ ∈ parametersOf [dottedSet] := by decide
  have hown := (resolves_iff (by decide) hlines hp (by decide) (by decide)).mp hresolves
  exact absurd hown.safe (by decide)

end VuserScript.Conversion
