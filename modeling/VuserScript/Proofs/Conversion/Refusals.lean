/-
  VuserScript.Proofs.Conversion.Refusals

  When bringing the files of data sets into a folder comes to an end. Files that
  are not there and copies that fail are warnings; what is left is the question
  whether a file is there. The system refuses to answer it for a path that is
  too long or leads through a folder that may not be searched, and a path that
  no file can have is not told in a warning. Nothing else stops the operation.
-/
import VuserScript.Proofs.Conversion.Accounts
import VuserScript.Proofs.Conversion.Repetition

namespace VuserScript.Conversion

open Plan (DataSet)
open Script (ParameterSet)
open Storage (Cause Disk Location Path Trouble)

/-! ## One data set -/

section

variable {s : DataSource} {folder source : Path} {l : Location} {σ : Session}

/-- A copy between paths that files can have comes to an end. -/
theorem copyFile_answers {target : Path} (σ : Session) (hsource : source.HasNoZero)
    (htarget : target.HasNoZero) :
    ∃ warnings τ, (copyFile source target).outcome σ = (.ok warnings, τ) := by
  cases hcopy : σ.disk.copy source target with
  | ok d => exact ⟨_, _, copyFile_of_ok hcopy⟩
  | error trouble =>
    have hne : trouble ≠ .zeroCharacter := by
      rintro rfl
      exact Disk.copy_ne_zeroCharacter hsource htarget hcopy
    have houtcome := copyFile_of_error hcopy
    rw [if_neg hne] at houtcome
    exact ⟨_, _, houtcome⟩

theorem datName_no_zero {name : String} (h : '\x00' ∉ name.toList) :
    '\x00' ∉ (Script.datName name).toList := by
  intro hmem
  rcases Storage.mem_of_mem_datName hmem with hname | hdat
  · exact h hname
  · exact absurd hdat (by decide)

/-- A file that is there is brought into a folder that is there, whatever becomes of the copies. -/
theorem place_of_exists (hfolder : σ.disk.LeadsTo folder l) {dataSet : DataSet}
    (hpath : s.path? dataSet = some source) (hthere : σ.disk.exists? source = .ok true) :
    ∃ answer τ, (s.place folder dataSet).outcome σ = (.ok answer, τ) := by
  have hsource := Disk.hasNoZero_of_exists hthere
  have htarget := hfolder.hasNoZero.join_parse hsource.name
  have hdat := hfolder.hasNoZero.join_parse (datName_no_zero htarget.name)
  obtain ⟨copied, υ, hcopy⟩ := copyFile_answers σ hsource htarget
  obtain ⟨datCopied, τ, hcopyDat⟩ := copyFile_answers υ hsource hdat
  simp only [DataSource.place, hpath, Job.outcome_bind, Job.outcome_disk, hthere,
    Job.outcome_orTrouble_ok, if_true, hcopy, DataSource.parameterSet]
  -- the second copy is made only if there are to be data files
  cases s.writeDatFiles with
  | false => exact ⟨_, _, rfl⟩
  | true =>
    simp only [if_true, Job.outcome_bind, hcopyDat]
    exact ⟨_, _, rfl⟩

/-- Why looking for the file at a path stops the operation: the system refuses to look for it, or no
file can have this path, so that it has no absolute form for the warning. -/
inductive Halts (d : Disk) (source : Path) : Problem → Prop where
  | refused {cause : Cause} (refuses : d.Refuses source cause) :
      Halts d source (.storage (.system cause source.text))
  | zeroCharacter (zero : ¬ source.HasNoZero) : Halts d source (.storage .zeroCharacter)

theorem place_of_halts {dataSet : DataSet} {problem : Problem}
    (hpath : s.path? dataSet = some source) (h : Halts σ.disk source problem) :
    (s.place folder dataSet).outcome σ = (.error problem, σ) := by
  cases h with
  | refused refuses =>
    have hthere := Disk.exists?_eq_error_iff.mpr ⟨_, refuses, rfl⟩
    simp only [DataSource.place, hpath, Job.outcome_bind, Job.outcome_disk, hthere]
    rfl
  | zeroCharacter zero =>
    have hresolve : σ.disk.resolve source = .error .zeroCharacter := if_pos (not_not.mp zero)
    simp only [DataSource.place, hpath, Job.outcome_bind, Job.outcome_disk,
      Disk.exists?_of_zero zero, Job.outcome_orTrouble_ok, Bool.false_eq_true, if_false, hresolve]
    rfl

/-- A data set whose file cannot be looked for stops the operation, and any other one does not. -/
theorem place_cases (hfolder : σ.disk.LeadsTo folder l) (dataSet : DataSet) :
    (∃ source problem, s.path? dataSet = some source ∧ Halts σ.disk source problem
        ∧ (s.place folder dataSet).outcome σ = (.error problem, σ))
      ∨ (∀ source, s.path? dataSet = some source → ∀ problem, ¬ Halts σ.disk source problem)
        ∧ ∃ answer τ, (s.place folder dataSet).outcome σ = (.ok answer, τ) := by
  cases hpath : s.path? dataSet with
  | none =>
    simp only [DataSource.place, hpath, Job.outcome_bind, Job.outcome_warn]
    exact .inr ⟨nofun, _, _, rfl⟩
  | some source =>
    by_cases hhalts : ∃ problem, Halts σ.disk source problem
    · obtain ⟨problem, hproblem⟩ := hhalts
      exact .inl ⟨source, problem, rfl, hproblem, place_of_halts hpath hproblem⟩
    refine .inr ⟨fun other heq problem hother => hhalts ⟨problem, ?_⟩, ?_⟩
    · rwa [Option.some.inj heq]
    cases hthere : σ.disk.exists? source with
    | error trouble =>
      obtain ⟨cause, hrefuses, -⟩ := Disk.exists?_eq_error_iff.mp hthere
      exact absurd ⟨_, .refused hrefuses⟩ hhalts
    | ok isThere =>
      cases isThere with
      | true => exact place_of_exists hfolder hpath hthere
      | false =>
        have hzero : source.HasNoZero := by
          by_contra hzero
          exact hhalts ⟨_, .zeroCharacter hzero⟩
        have hresolve : σ.disk.resolve source = .ok (source.resolve σ.disk.workingFolder) :=
          Disk.resolve_eq_ok.mpr ⟨hzero, rfl⟩
        simp only [DataSource.place, hpath, Job.outcome_bind, Job.outcome_disk, hthere,
          Job.outcome_orTrouble_ok, Bool.false_eq_true, if_false, hresolve]
        exact ⟨_, _, rfl⟩

theorem keepsFolders_of_place {τ : Session} {dataSet : DataSet}
    {answer : Option ParameterSet × List String}
    (h : (s.place folder dataSet).outcome σ = (.ok answer, τ)) :
    Disk.KeepsFolders σ.disk τ.disk := by
  have hall : (s.placeAll folder [dataSet]).outcome σ
      = (.ok (answer.1.toList ++ [], answer.2 ++ []), τ) := by
    simp only [DataSource.placeAll, Job.outcome_bind, h]
    rfl
  exact (placed_placeAll hall).keepsFolders

/-! ## All data sets -/

/-- A data set whose file cannot be looked for. -/
def IsHalting (s : DataSource) (d : Disk) (dataSet : DataSet) : Prop :=
  ∃ source problem, s.path? dataSet = some source ∧ Halts d source problem

/-- A list of data sets is stopped by the first one whose file cannot be looked for, and for the
reason of this. -/
def StoppedBy (s : DataSource) (d : Disk) (dataSets : List DataSet) (problem : Problem) : Prop :=
  ∃ before dataSet others source, dataSets = before ++ dataSet :: others
    ∧ (∀ other ∈ before, ¬ IsHalting s d other)
    ∧ s.path? dataSet = some source ∧ Halts d source problem

/-- Behind a data set that does not stop the operation, the others decide whether it answers. -/
theorem placeAll_cons_fst {τ : Session} {dataSet : DataSet} {rest : List DataSet}
    {answer : Option ParameterSet × List String}
    (h : (s.place folder dataSet).outcome σ = (.ok answer, τ)) :
    ((s.placeAll folder (dataSet :: rest)).outcome σ).1
      = ((s.placeAll folder rest).outcome τ).1.map fun others =>
        (answer.1.toList ++ others.1, answer.2 ++ others.2) := by
  simp only [DataSource.placeAll, Job.outcome_bind, h]
  rcases (s.placeAll folder rest).outcome τ with ⟨problem | others, υ⟩ <;> rfl

/-- As long as the folders stay, the same files cannot be looked for. -/
theorem halts_iff {d e : Disk} (h : Disk.KeepsFolders d e) {problem : Problem} :
    Halts e source problem ↔ Halts d source problem := by
  constructor
  · rintro (refuses | zero)
    · exact .refused (h.refuses_iff.mp refuses)
    · exact .zeroCharacter zero
  · rintro (refuses | zero)
    · exact .refused (h.refuses_iff.mpr refuses)
    · exact .zeroCharacter zero

theorem isHalting_iff {d e : Disk} (h : Disk.KeepsFolders d e) (dataSet : DataSet) :
    IsHalting s e dataSet ↔ IsHalting s d dataSet := by
  simp only [IsHalting, halts_iff h]

theorem placeAll_cases (hfolder : σ.disk.LeadsTo folder l) (dataSets : List DataSet) :
    (∃ problem, ((s.placeAll folder dataSets).outcome σ).1 = .error problem
        ∧ StoppedBy s σ.disk dataSets problem)
      ∨ (∃ answer, ((s.placeAll folder dataSets).outcome σ).1 = .ok answer)
        ∧ ∀ dataSet ∈ dataSets, ¬ IsHalting s σ.disk dataSet := by
  induction dataSets generalizing σ with
  | nil => exact .inr ⟨⟨_, rfl⟩, nofun⟩
  | cons dataSet rest ih =>
    rcases place_cases hfolder dataSet with ⟨source, problem, hpath, hhalts, houtcome⟩
      | ⟨hgoes, answer, τ, houtcome⟩
    · refine .inl ⟨problem, ?_, [], dataSet, rest, source, rfl, nofun, hpath, hhalts⟩
      simp only [DataSource.placeAll, Job.outcome_bind, houtcome]
    · -- the folders are the same behind the first data set, so the others are looked for alike
      have hkeeps := keepsFolders_of_place houtcome
      have hfirst : ¬ IsHalting s σ.disk dataSet := by
        rintro ⟨source, problem, hpath, hhalts⟩
        exact hgoes source hpath problem hhalts
      rcases ih (hkeeps.leadsTo hfolder) with ⟨problem, hrest, hstop⟩ | ⟨⟨others, hrest⟩, hall⟩
      · obtain ⟨before, stop, after, source, rfl, hbefore, hpath, hhalts⟩ := hstop
        refine .inl ⟨_, ?_, dataSet :: before, stop, after, source, rfl, ?_, hpath,
          (halts_iff hkeeps).mp hhalts⟩
        · rw [placeAll_cons_fst houtcome, hrest]
          rfl
        · refine List.forall_mem_cons.mpr ⟨hfirst, fun other hmem => ?_⟩
          rw [← isHalting_iff hkeeps]
          exact hbefore other hmem
      · refine .inr ⟨?_, List.forall_mem_cons.mpr ⟨hfirst, fun other hmem => ?_⟩⟩
        · rw [placeAll_cons_fst houtcome, hrest]
          exact ⟨_, rfl⟩
        · rw [← isHalting_iff hkeeps]
          exact hall other hmem

end

/-- A thread group whose folder can be made is stopped by a data set whose file cannot be looked
for. -/
theorem convertGroup_stopped {s : Setting} {p : Progress} {g : Plan.Group} {σ : Session}
    {made : Disk} (hmake : σ.disk.ensureFolders (s.groupFolder p g) = (made, .ok ()))
    (hhalting : ∃ dataSet ∈ s.dataSets, IsHalting s.source made dataSet) :
    ∃ problem τ, (convertGroup s p g).outcome σ = (.error problem, τ)
      ∧ StoppedBy s.source made s.dataSets problem := by
  obtain ⟨dataSet, hmem, hpath⟩ := hhalting
  obtain ⟨l, hfolder⟩ := Disk.isFolder_iff.mp (Disk.isFolder_of_ensureFolders hmake)
  have hmade : (makeFolders "script directory" (s.groupFolder p g)).outcome σ
      = (.ok (), { σ with disk := made }) := makeFolders_of_ok hmake
  unfold Setting.groupFolder Setting.scriptName at hmade hfolder
  simp only [convertGroup, Job.outcome_bind, hmade, Job.outcome_note]
  generalize hσ : Session.mk _ _ = σ'
  have hdisk : σ'.disk = made := by
    rw [← hσ]
  rw [← hdisk] at hfolder hpath ⊢
  rcases placeAll_cases hfolder s.dataSets with ⟨problem, houtcome, hstop⟩ | ⟨-, hgoes⟩
  · generalize hplaced : (s.source.placeAll _ s.dataSets).outcome σ' = placed at houtcome ⊢
    obtain ⟨result, τ⟩ := placed
    obtain rfl : result = .error problem := houtcome
    exact ⟨problem, τ, rfl, hstop⟩
  · exact absurd hpath (hgoes dataSet hmem)

/-- A data set whose file cannot be looked for ends a conversion of some thread group, and without a
report: the problem is none that conversions foresee. -/
theorem convert_stopped {options : Options} {jmxPath outputFolder : String} {σ τ : Session}
    {g : Plan.Group} {groups : List Plan.Group} {s : Setting} {warnings : List String} {made : Disk}
    (hprepare : (prepare options (Path.parse jmxPath) (Path.parse outputFolder)).outcome σ
      = (.ok (g :: groups, s, warnings), τ))
    (hmake : τ.disk.ensureFolders (s.groupFolder {} g) = (made, .ok ()))
    (hhalting : ∃ dataSet ∈ s.dataSets, IsHalting s.source made dataSet) :
    ∃ problem, ((convert options jmxPath outputFolder).outcome σ).1 = .error problem
      ∧ StoppedBy s.source made s.dataSets problem := by
  obtain ⟨stop, υ, hgroup, hstop⟩ := convertGroup_stopped hmake hhalting
  rcases convert_cases options jmxPath outputFolder σ with ⟨problem, ρ, hnot, -⟩
    | ⟨groups', setting, warnings', ρ, scripts, problem, ω, hprepare', hruns, hconvert⟩
  · rw [hprepare] at hnot
    cases hnot
  · rw [hprepare] at hprepare'
    cases hprepare'
    cases hruns with
    | stopped hother =>
      rw [hgroup] at hother
      cases hother
      refine ⟨stop, ?_, hstop⟩
      obtain ⟨_, _, _, source, -, -, -, hhalts⟩ := hstop
      rw [hconvert]
      cases hhalts <;> rfl
    | next hfirst others =>
      rw [hgroup] at hfirst
      cases hfirst

/-! ## A name that is too long -/

/-- A name that is longer than the system allows. -/
def longName : String :=
  String.ofList (List.replicate 256 'a')

/-- A plan with a data set whose file has this name. -/
def planWithLongName : String :=
  "<jmeterTestPlan><hashTree><CSVDataSet><stringProp name=\"filename\">" ++ longName
    ++ "</stringProp></CSVDataSet></hashTree></jmeterTestPlan>"

/-- A folder for a script, and no files. -/
def folderAlone : Session where
  disk :=
    { tree := ⟨[(["out"], .folder)]⟩
      workingFolder := [] }

theorem leadsTo_folderAlone : folderAlone.disk.LeadsTo ⟨.absolute, ["out"]⟩ ["out"] :=
  ⟨by decide, by decide⟩

theorem files_planWithLongName :
    (Xml.Document.parse planWithLongName).toOption.map (fun root =>
        (Plan.dataSets root).map DataSet.file)
      = some [some longName] := by
  decide +kernel

theorem toList_longName : longName.toList = List.replicate 256 'a' :=
  String.toList_ofList

theorem isEntryName_longName : Storage.IsEntryName longName := by
  have hshort : ∀ name : String, name.toList.length ≤ 2 → longName ≠ name := by
    rintro name hlength rfl
    rw [toList_longName, List.length_replicate] at hlength
    omega
  refine ⟨hshort "" (by decide), hshort "." (by decide), hshort ".." (by decide), ?_⟩
  rw [toList_longName]
  decide

theorem trim_of_no_blank {name : String} (h : ∀ c ∈ name.toList, Text.isBlank c = false) :
    Text.trim name = name := by
  have hkept : ∀ cs : List Char, (∀ c ∈ cs, Text.isBlank c = false) →
      cs.dropWhile Text.isBlank = cs := by
    intro cs hcs
    cases cs with
    | nil => rfl
    | cons c cs => rw [List.dropWhile_cons, hcs c (.head _), if_neg Bool.false_ne_true]
  rw [Text.trim, Text.trimList, hkept _ h, hkept _ fun c hc => h c (List.mem_reverse.mp hc),
    List.reverse_reverse, String.ofList_toList]

theorem trim_longName : Text.trim longName = longName := by
  refine trim_of_no_blank fun c hc => ?_
  rw [toList_longName] at hc
  obtain rfl := List.eq_of_mem_replicate hc
  decide

/-- Looking for this file in a folder that is there, the system refuses the name. -/
theorem isHalting_longName {dataSet : DataSet} (hfile : dataSet.file = some longName) :
    IsHalting ⟨⟨.absolute, []⟩, true⟩ folderAlone.disk dataSet := by
  have hnoZero : (⟨.absolute, [longName]⟩ : Path).HasNoZero := by
    refine Path.hasNoZero_iff.mpr fun part hpart => ?_
    rw [List.mem_singleton.mp hpart, toList_longName]
    decide
  have hsteps : (⟨.absolute, [longName]⟩ : Path).steps = [] ++ longName :: [] := rfl
  refine ⟨⟨.absolute, [longName]⟩, _, ?_, .refused
    (.onTheWay hnoZero ?_ hsteps rfl (.nameTooLong rfl rfl ?_))⟩
  · rw [DataSource.path?, hfile, Option.map_some, Option.bind_some, trim_longName,
      if_neg isEntryName_longName.ne_empty,
      Path.join_parse_of_isEntryName isEntryName_longName]
    rfl
  · decide +kernel
  · decide +kernel

theorem exists_planWithLongName : ∃ root, ∃ dataSet ∈ Plan.dataSets root,
    IsHalting ⟨⟨.absolute, []⟩, true⟩ folderAlone.disk dataSet := by
  obtain ⟨root, -, hfiles⟩ := Option.map_eq_some_iff.mp files_planWithLongName
  obtain ⟨dataSet, others, hsets, hfile, -⟩ := List.map_eq_cons_iff.mp hfiles
  refine ⟨root, dataSet, ?_, isHalting_longName hfile⟩
  rw [hsets]
  exact .head _

end VuserScript.Conversion
