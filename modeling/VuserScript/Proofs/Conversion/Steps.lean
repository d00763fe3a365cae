/-
  VuserScript.Proofs.Conversion.Steps

  What a conversion does, read off its operations: which files it copies and
  writes for a thread group, in which order, and what it reports of them. Later
  statements about conversions start from here and leave the operations closed.
-/
import VuserScript.Conversion.Run
import VuserScript.Proofs.Session
import VuserScript.Proofs.Storage.Operations

namespace VuserScript.Conversion

open Plan (DataSet Group)
open Script (Names ParameterSet)
open Storage (Disk Path Trouble)

/-! ## Folders and files -/

theorem makeFolders_eq_ok {what : String} {path : Path} {σ τ : Session} {u : Unit}
    (h : (makeFolders what path).outcome σ = (.ok u, τ)) :
    σ.disk.ensureFolders path = (τ.disk, .ok ()) := by
  simp only [makeFolders, Job.bind_eq_ok, Job.outcome_disk, Job.outcome_setDisk] at h
  obtain ⟨d, _, hd, _, _, hset, hmade⟩ := h
  cases hd
  cases hset
  obtain ⟨hok, rfl⟩ := Job.orTrouble_eq_ok hmade
  exact Prod.ext rfl hok

theorem makeFolders_eq_error {what : String} {path : Path} {σ τ : Session} {problem : Problem}
    (h : (makeFolders what path).outcome σ = (.error problem, τ)) :
    ∃ trouble, σ.disk.ensureFolders path = (τ.disk, .error trouble) := by
  simp only [makeFolders, Job.outcome_bind, Job.outcome_disk, Job.outcome_setDisk] at h
  rcases hmade : (σ.disk.ensureFolders path).2 with trouble | made
  · have hdisk := congrArg (fun x => x.2.disk) h
    simp only [Job.outcome_orTrouble_snd] at hdisk
    exact ⟨trouble, Prod.ext hdisk hmade⟩
  · rw [hmade] at h
    cases h

theorem makeFolders_outcome_disk (what : String) (path : Path) (σ : Session) :
    ((makeFolders what path).outcome σ).2.disk = (σ.disk.ensureFolders path).1 := by
  simp only [makeFolders, Job.outcome_bind, Job.outcome_disk, Job.outcome_setDisk,
    Job.outcome_orTrouble_snd]

theorem writeFile_eq_ok {folder : Path} {name text : String} {σ τ : Session} {u : Unit}
    (h : (writeFile folder name text).outcome σ = (.ok u, τ)) :
    σ.disk.write (folder.child name) text.toUTF8 = .ok τ.disk := by
  simp only [writeFile, Job.bind_eq_ok, Job.outcome_disk, Job.outcome_setDisk] at h
  obtain ⟨d, _, hd, e, _, he, hset⟩ := h
  cases hd
  obtain ⟨he, rfl⟩ := Job.orTrouble_eq_ok he
  cases hset
  exact he

/-- Files with texts written into a folder one after another. -/
def Written (folder : Path) : List (String × String) → Disk → Disk → Prop
  | [], d, e => d = e
  | (name, text) :: files, d, e =>
    ∃ c, d.write (folder.child name) text.toUTF8 = .ok c ∧ Written folder files c e

/-- The files of a script besides those of its data sets, in the order in which they are
written. -/
def scriptFiles (sets : List ParameterSet) (lines : List String) (log : String) :
    List (String × String) :=
  [(Script.Bundle.initFile, Script.Bundle.initText), (Script.Bundle.endFile, Script.Bundle.endText),
    (Script.Bundle.configFile, Script.Bundle.configText sets),
    (Script.Bundle.parametersFile, Script.Bundle.parametersText sets),
    (Script.Bundle.actionFile, Script.Bundle.actionText lines), (Script.Bundle.logFile, log)]

/-- The names of these files. -/
def scriptFileNames : List String :=
  [Script.Bundle.initFile, Script.Bundle.endFile, Script.Bundle.configFile,
    Script.Bundle.parametersFile, Script.Bundle.actionFile, Script.Bundle.logFile]

theorem scriptFiles_map_fst (sets : List ParameterSet) (lines : List String) (log : String) :
    (scriptFiles sets lines log).map Prod.fst = scriptFileNames := rfl

/-! ## Copies -/

/-- A file copied to a path, or a warning in place of the copy. -/
def Copied (source target : Path) (d : Disk) (warnings : List String) (e : Disk) : Prop :=
  (d.copy source target = .ok e ∧ warnings = [])
    ∨ ∃ trouble, d.copy source target = .error trouble ∧ e = d
        ∧ warnings = [copyWarning source target trouble]

/-- A file copied to paths one after another. -/
def CopiedTo (source : Path) : List Path → Disk → List String → Disk → Prop
  | [], d, warnings, e => d = e ∧ warnings = []
  | target :: targets, d, warnings, e =>
    ∃ c first others, Copied source target d first c ∧ CopiedTo source targets c others e
      ∧ warnings = first ++ others

theorem copyFile_eq_ok {source target : Path} {σ τ : Session} {warnings : List String}
    (h : (copyFile source target).outcome σ = (.ok warnings, τ)) :
    Copied source target σ.disk warnings τ.disk := by
  simp only [copyFile, Job.bind_eq_ok, Job.outcome_disk] at h
  obtain ⟨d, _, hd, h⟩ := h
  cases hd
  cases hcopy : σ.disk.copy source target with
  | ok e =>
    rw [hcopy] at h
    cases h
    exact .inl ⟨hcopy, rfl⟩
  | error trouble =>
    rw [hcopy] at h
    cases trouble <;> cases h <;> exact .inr ⟨_, hcopy, rfl, rfl⟩

/-- The paths that the file of a data set is copied to. -/
def DataSource.targets (s : DataSource) (folder source : Path) (dataSet : DataSet) : List Path :=
  folder.join (Path.parse source.name)
    :: (s.parameterSet folder source dataSet).datFileName.toList.map fun name =>
      folder.join (Path.parse name)

/-- The files of data sets brought into a folder one after another: the parameter sets and the
warnings that come of it. -/
inductive Placed (s : DataSource) (folder : Path) :
    List DataSet → Disk → List ParameterSet → List String → Disk → Prop where
  | nil {d : Disk} : Placed s folder [] d [] [] d
  /-- A data set that names no file. -/
  | unnamed {dataSet : DataSet} {rest : List DataSet} {sets : List ParameterSet}
      {warnings : List String} {d e : Disk} (path : s.path? dataSet = none)
      (others : Placed s folder rest d sets warnings e) :
      Placed s folder (dataSet :: rest) d sets (noFileWarning dataSet.name :: warnings) e
  /-- A data set whose file is not there. -/
  | missing {dataSet : DataSet} {rest : List DataSet} {source : Path} {sets : List ParameterSet}
      {warnings : List String} {d e : Disk} (path : s.path? dataSet = some source)
      (absent : d.exists? source = .ok false) (others : Placed s folder rest d sets warnings e) :
      Placed s folder (dataSet :: rest) d sets
        (missingFileWarning (source.resolve d.workingFolder) :: warnings) e
  /-- A data set whose file is there. -/
  | found {dataSet : DataSet} {rest : List DataSet} {source : Path} {sets : List ParameterSet}
      {own warnings : List String} {c d e : Disk} (path : s.path? dataSet = some source)
      (present : d.exists? source = .ok true)
      (copies : CopiedTo source (s.targets folder source dataSet) d own c)
      (others : Placed s folder rest c sets warnings e) :
      Placed s folder (dataSet :: rest) d (s.parameterSet folder source dataSet :: sets)
        (own ++ warnings) e

theorem placed_placeAll {s : DataSource} {folder : Path} {sets : List ParameterSet}
    {warnings : List String} {dataSets : List DataSet} {σ τ : Session}
    (h : (s.placeAll folder dataSets).outcome σ = (.ok (sets, warnings), τ)) :
    Placed s folder dataSets σ.disk sets warnings τ.disk := by
  induction dataSets generalizing σ sets warnings with
  | nil =>
    cases h
    exact .nil
  | cons dataSet rest ih =>
    simp only [DataSource.placeAll, Job.bind_eq_ok] at h
    obtain ⟨⟨set, own⟩, υ, hplace, ⟨sets', others⟩, _, hrest, h⟩ := h
    cases h
    replace ih := ih hrest
    unfold DataSource.place at hplace
    cases hpath : s.path? dataSet with
    | none =>
      rw [hpath] at hplace
      cases hplace
      exact .unnamed hpath ih
    | some source =>
      rw [hpath] at hplace
      simp only [Job.bind_eq_ok, Job.outcome_disk] at hplace
      obtain ⟨d, _, hd, isThere, _, hthere, hplace⟩ := hplace
      cases hd
      obtain ⟨hthere, rfl⟩ := Job.orTrouble_eq_ok hthere
      cases isThere with
      | false =>
        obtain ⟨absolute, _, habsolute, hplace⟩ := Job.bind_eq_ok.mp hplace
        obtain ⟨habsolute, rfl⟩ := Job.orTrouble_eq_ok habsolute
        obtain ⟨-, rfl⟩ := Storage.Disk.resolve_eq_ok.mp habsolute
        cases hplace
        exact .missing hpath hthere ih
      | true =>
        simp only [if_true, Job.bind_eq_ok] at hplace
        obtain ⟨copied, ρ, hcopy, hplace⟩ := hplace
        cases hname : (s.parameterSet folder source dataSet).datFileName with
        | none =>
          rw [hname] at hplace
          cases hplace
          refine .found hpath hthere ⟨_, _, _, copyFile_eq_ok hcopy, ?_, rfl⟩ ih
          rw [hname]
          exact ⟨rfl, rfl⟩
        | some name =>
          rw [hname] at hplace
          simp only [Job.bind_eq_ok] at hplace
          obtain ⟨datCopied, _, hdat, hplace⟩ := hplace
          cases hplace
          refine .found hpath hthere ⟨_, _, _, copyFile_eq_ok hcopy, ?_, rfl⟩ ih
          rw [hname]
          exact ⟨_, _, _, copyFile_eq_ok hdat, ⟨rfl, rfl⟩, (List.append_nil _).symm⟩

/-! ## Thread groups -/

/-- The name of the folder for the script of a thread group. -/
def Setting.scriptName (s : Setting) (p : Progress) (g : Group) : String :=
  folderName s.options.scriptPrefix p.taken (g.name p.number)

/-- The folder for the script of a thread group. -/
def Setting.groupFolder (s : Setting) (p : Progress) (g : Group) : Path :=
  s.outputFolder.join (Path.parse (s.scriptName p g))

/-- What comes up while a thread group is converted: the files as they are when the folder is
made and when the data sets are copied, the warnings about these, and the action. -/
structure Stages where
  made : Disk
  placed : Disk
  dataWarnings : List String
  action : Script.Outcome

/-- A thread group converted into a script: its folder is made, the files of the data sets are
copied into it, and then its own files are written. -/
structure Converted (s : Setting) (p : Progress) (g : Group) (d : Disk) (x : Stages)
    (r : GroupReport) (q : Progress) (e : Disk) : Prop where
  action : (x.action, q.names) = Script.actionOf s.options.enableCorrelation g.items p.names
  taken : q.taken = folded (s.scriptName p g) :: p.taken
  number : q.number = p.number + 1
  makes : d.ensureFolders (s.groupFolder p g) = (x.made, .ok ())
  places : Placed s.source (s.groupFolder p g) s.dataSets x.made r.parameterSets x.dataWarnings
    x.placed
  writes : Written (s.groupFolder p g) (scriptFiles r.parameterSets x.action.lines
    (logText ((Path.parse r.folder).resolve e.workingFolder).text r)) x.placed e
  name : r.name = g.name p.number
  folder : r.folder = (s.groupFolder p g).text
  tally : r.tally = x.action.tally
  warnings : r.warnings = x.dataWarnings
    ++ (if g.items.isSome then [] else [bareGroupWarning r.name]) ++ Record.warnings x.action.log

theorem warnIfBare_eq_ok {name : String} {g : Group} {warnings : List String} {σ τ : Session}
    (h : (warnIfBare name g).outcome σ = (.ok warnings, τ)) : τ.disk = σ.disk
      ∧ warnings = if g.items.isSome then [] else [bareGroupWarning name] := by
  unfold warnIfBare at h
  cases hitems : g.items <;> rw [hitems] at h <;> cases h <;> exact ⟨rfl, rfl⟩

theorem converted_of_ok {s : Setting} {p q : Progress} {g : Group} {r : GroupReport}
    {σ τ : Session} (h : (convertGroup s p g).outcome σ = (.ok (r, q), τ)) :
    ∃ x, Converted s p g σ.disk x r q τ.disk := by
  unfold convertGroup at h
  simp only [Job.bind_eq_ok, Job.outcome_note, writeStubs, writeConfig, writeAction, writeLog,
    Job.outcome_disk] at h
  -- the session behind each step, in the order of the steps
  obtain ⟨_, σ₁, hmake, _, _, hnote, ⟨sets, dataWarnings⟩, σ₂, hplace, _, σ₃,
    ⟨_, σ₄, hinit, hend⟩, _, σ₅, ⟨_, σ₆, hconfig, hparameters⟩, bareWarnings, σ₇, hbare, _, _,
    hnotes, _, σ₈, haction, _, σ₉, ⟨_, _, hd, hlog⟩, h⟩ := h
  cases hnote
  cases hnotes
  cases hd
  cases h
  obtain ⟨hdisk, rfl⟩ := warnIfBare_eq_ok hbare
  have hplaced := placed_placeAll hplace
  have haction := writeFile_eq_ok haction
  have hlog := writeFile_eq_ok hlog
  rw [hdisk] at haction
  obtain ⟨_, -, -, -, hwritten⟩ := Storage.Disk.write_eq_ok.mp hlog
  -- the summary is written with the working folder of the disk before; it is the same after
  have hfolder : τ.disk.workingFolder = σ₈.disk.workingFolder := by rw [hwritten]
  refine ⟨⟨σ₁.disk, σ₂.disk, dataWarnings,
      (Script.actionOf s.options.enableCorrelation g.items p.names).1⟩,
    rfl, rfl, rfl, makeFolders_eq_ok hmake, hplaced, ?_, rfl, rfl, rfl, rfl⟩
  rw [hfolder]
  exact ⟨_, writeFile_eq_ok hinit, _, writeFile_eq_ok hend, _, writeFile_eq_ok hconfig, _,
    writeFile_eq_ok hparameters, _, haction, _, hlog, rfl⟩

/-! ## Runs -/

/-- Thread groups converted one after another, from a session on: the reports of the groups that
were finished, the problem that stopped the others, and the session behind them. -/
inductive Runs (s : Setting) :
    Progress → List Group → Session → List GroupReport → Option Problem → Session → Prop where
  | done {p : Progress} {σ : Session} : Runs s p [] σ [] none σ
  | stopped {p : Progress} {g : Group} {groups : List Group} {problem : Problem} {σ τ : Session}
      (stop : (convertGroup s p g).outcome σ = (.error problem, τ)) :
      Runs s p (g :: groups) σ [] (some problem) τ
  | next {p q : Progress} {g : Group} {groups : List Group} {r : GroupReport}
      {reports : List GroupReport} {problem : Option Problem} {σ τ υ : Session}
      (first : (convertGroup s p g).outcome σ = (.ok (r, q), τ))
      (others : Runs s q groups τ reports problem υ) :
      Runs s p (g :: groups) σ (r :: reports) problem υ

/-- One step of a run, by what comes of its first thread group. -/
theorem convertGroups_run_cons (s : Setting) (p : Progress) (g : Group) (groups : List Group)
    (σ : Session) : (convertGroups s p (g :: groups)).run σ
      = match (convertGroup s p g).outcome σ with
        | (.error problem, τ) => (([], some problem), τ)
        | (.ok (r, q), τ) =>
          let rest := (convertGroups s q groups).run τ
          ((r :: rest.1.1, rest.1.2), rest.2) := by
  rw [convertGroups]
  simp only [StateT.run_bind]
  change (match (convertGroup s p g).run.run σ with | (x, τ) => _) = _
  simp only [Job.outcome]
  rcases (convertGroup s p g).run.run σ with ⟨problem | ⟨r, q⟩, τ⟩ <;> rfl

theorem runs_convertGroups (s : Setting) (p : Progress) (groups : List Group) (σ : Session) :
    Runs s p groups σ ((convertGroups s p groups).run σ).1.1 ((convertGroups s p groups).run σ).1.2
      ((convertGroups s p groups).run σ).2 := by
  induction groups generalizing p σ with
  | nil => exact .done
  | cons g groups ih =>
    rw [convertGroups_run_cons]
    rcases hfirst : (convertGroup s p g).outcome σ with ⟨problem | ⟨r, q⟩, τ⟩
    · exact .stopped hfirst
    · exact .next hfirst (ih q τ)

/-- Runs are what comes of converting thread groups one after another, and nothing else. -/
theorem Runs.run_eq {s : Setting} {p : Progress} {groups : List Group} {σ τ : Session}
    {reports : List GroupReport} {problem : Option Problem}
    (h : Runs s p groups σ reports problem τ) :
    (convertGroups s p groups).run σ = ((reports, problem), τ) := by
  induction h with
  | done => rfl
  | stopped stop => rw [convertGroups_run_cons, stop]
  | next first others ih => simp only [convertGroups_run_cons, first, ih]

/-! ## The whole conversion -/

/-- Loading a plan changes nothing. -/
theorem load_outcome_snd (path : String) (σ : Session) : ((Plan.load path).outcome σ).2 = σ := by
  unfold Plan.load
  refine Job.outcome_bind_snd rfl fun disk => ?_
  refine Job.outcome_bind_snd (Job.outcome_orTrouble_snd ..) fun isThere => ?_
  cases isThere with
  | false => rfl
  | true =>
    refine Job.outcome_bind_snd (Job.outcome_orTrouble_snd ..) fun bytes => ?_
    split
    · next root _ => by_cases htag : root.tag = Plan.rootTag <;> simp [htag]
    · rfl
    · rfl

theorem load_eq_ok {path : String} {root : Xml.Element} {σ τ : Session}
    (h : (Plan.load path).outcome σ = (.ok root, τ)) : τ = σ := by
  rw [← load_outcome_snd path σ, h]

/-- A plan is loaded if a file can be read at its path, and the root of the document in it is that
of a plan. -/
theorem load_eq_ok_iff {path : String} {root : Xml.Element} {σ : Session} :
    (Plan.load path).outcome σ = (.ok root, σ)
      ↔ ∃ bytes, σ.disk.read (Path.parse path) = .ok bytes ∧ Xml.Document.read bytes = .ok root
        ∧ root.tag = Plan.rootTag := by
  unfold Plan.load
  constructor
  · intro h
    obtain ⟨d, _, hd, h⟩ := Job.bind_eq_ok.mp h
    cases hd
    obtain ⟨isThere, _, hthere, h⟩ := Job.bind_eq_ok.mp h
    obtain ⟨-, rfl⟩ := Job.orTrouble_eq_ok hthere
    cases isThere with
    | false => cases h
    | true =>
      obtain ⟨bytes, _, hread, h⟩ := Job.bind_eq_ok.mp h
      obtain ⟨hread, rfl⟩ := Job.orTrouble_eq_ok hread
      refine ⟨bytes, hread, ?_⟩
      split at h
      · next found hfound =>
        split at h
        · next htag =>
          cases h
          exact ⟨hfound, htag⟩
        · cases h
      · cases h
      · cases h
  · rintro ⟨bytes, hread, hroot, htag⟩
    simp only [Job.outcome_bind, Job.outcome_disk, Disk.exists?_of_read hread, hread,
      Job.outcome_orTrouble_ok, if_true, hroot, htag, Job.outcome_pure]

/-- What stays the same in the run that converts a plan. -/
def settingOf (options : Options) (jmxPath outputFolder : Path) (root : Xml.Element) (d : Disk) :
    Setting :=
  ⟨options, ⟨(jmxPath.resolve d.workingFolder).parent, options.writeDatFiles⟩, Plan.dataSets root,
    outputFolder⟩

theorem settingOf_congr (options : Options) (jmxPath outputFolder : Path) (root : Xml.Element)
    {d e : Disk} (h : e.workingFolder = d.workingFolder) :
    settingOf options jmxPath outputFolder root e
      = settingOf options jmxPath outputFolder root d := by
  rw [settingOf, settingOf, h]

theorem prepare_eq_ok {options : Options} {jmxPath outputFolder : Path} {groups : List Group}
    {setting : Setting} {warnings : List String} {σ τ : Session}
    (h : (prepare options jmxPath outputFolder).outcome σ = (.ok (groups, setting, warnings), τ)) :
    ∃ root, (Plan.load jmxPath.text).outcome σ = (.ok root, σ) ∧ groups = Plan.groups root
      ∧ σ.disk.ensureFolders outputFolder = (τ.disk, .ok ())
      ∧ setting = settingOf options jmxPath outputFolder root τ.disk
      ∧ warnings = if groups.isEmpty then [noGroupsWarning] else [] := by
  simp only [prepare, Job.bind_eq_ok, Job.outcome_note, Job.outcome_disk] at h
  obtain ⟨root, _, hload, _, υ, hmake, _, _, hnote, d, _, hd, h⟩ := h
  obtain rfl := load_eq_ok hload
  have hmade := makeFolders_eq_ok hmake
  cases hnote
  cases hd
  cases h
  exact ⟨root, hload, rfl, hmade, rfl, rfl⟩

/-- The beginning of a run is stopped if there is no plan or if no output folder can be made. -/
theorem prepare_eq_error {options : Options} {jmxPath outputFolder : Path} {problem : Problem}
    {σ τ : Session}
    (h : (prepare options jmxPath outputFolder).outcome σ = (.error problem, τ)) :
    (Plan.load jmxPath.text).outcome σ = (.error problem, σ) ∧ τ = σ
      ∨ ∃ root trouble, (Plan.load jmxPath.text).outcome σ = (.ok root, σ)
        ∧ σ.disk.ensureFolders outputFolder = (τ.disk, .error trouble) := by
  simp only [prepare, Job.bind_eq_error, Job.outcome_note, Job.outcome_disk,
    Job.outcome_pure] at h
  rcases h with hload | ⟨root, ρ, hload, hmake | ⟨made, υ, hmake, h⟩⟩
  · obtain rfl : τ = σ := by
      rw [← load_outcome_snd jmxPath.text σ, hload]
    exact .inl ⟨hload, rfl⟩
  · obtain rfl := load_eq_ok hload
    obtain ⟨trouble, hmade⟩ := makeFolders_eq_error hmake
    exact .inr ⟨root, trouble, hload, hmade⟩
  · -- nothing that follows can be stopped
    simp at h

/-- The end of a conversion changes no files. -/
theorem finish_outcome_disk (r : Report) (problem : Option Problem) (σ : Session) :
    ((finish r problem).outcome σ).2.disk = σ.disk := by
  cases problem with
  | none => rfl
  | some problem =>
    cases h : problem.isForeseen <;> simp only [finish, h] <;> rfl

/-- A run that answers with a report was stopped by a foreseen problem if by any. -/
theorem finish_eq_ok {r report : Report} {problem : Option Problem} {σ : Session}
    (h : ((finish r problem).outcome σ).1 = .ok report) (hr : r.problem = none) :
    report = { r with problem } := by
  cases problem with
  | none =>
    cases h
    rw [← hr]
  | some problem =>
    cases hforeseen : problem.isForeseen <;> simp only [finish, hforeseen] at h <;> cases h
    rfl

/-- A run that is reported as a success was not stopped. -/
theorem finish_success {r report : Report} {problem : Option Problem} {σ : Session}
    (h : ((finish r problem).outcome σ).1 = .ok report) (hsuccess : report.success = true) :
    problem = none ∧ report = r := by
  cases problem with
  | none =>
    cases h
    exact ⟨rfl, rfl⟩
  | some problem =>
    cases hforeseen : problem.isForeseen <;> simp only [finish, hforeseen] at h <;> cases h
    cases hsuccess

/-- A conversion is stopped before the first thread group, or it is a run over all of them. -/
theorem convert_cases (options : Options) (jmxPath outputFolder : String) (σ : Session) :
    (∃ problem τ, (prepare options (Path.parse jmxPath) (Path.parse outputFolder)).outcome σ
          = (.error problem, τ)
        ∧ (convert options jmxPath outputFolder).outcome σ
          = (finish { jmxPath, outputFolder } (some problem)).outcome τ)
      ∨ ∃ groups setting warnings τ scripts problem υ,
        (prepare options (Path.parse jmxPath) (Path.parse outputFolder)).outcome σ
            = (.ok (groups, setting, warnings), τ)
        ∧ Runs setting {} groups τ scripts problem υ
        ∧ (convert options jmxPath outputFolder).outcome σ
          = (finish { jmxPath, outputFolder, scripts
                      warnings := warnings ++ scripts.flatMap GroupReport.warnings }
              problem).outcome υ := by
  rcases hprepare : (prepare options (Path.parse jmxPath) (Path.parse outputFolder)).outcome σ with
    ⟨problem | ⟨groups, setting, warnings⟩, τ⟩
  · refine .inl ⟨problem, τ, rfl, ?_⟩
    rw [Job.outcome] at hprepare
    simp only [convert, Job.outcome_bind, Job.outcome_lift, hprepare]
  · refine .inr ⟨groups, setting, warnings, τ, _, _, _, rfl, runs_convertGroups setting {} groups τ,
      ?_⟩
    rw [Job.outcome] at hprepare
    simp only [convert, Job.outcome_bind, Job.outcome_lift, hprepare]

end VuserScript.Conversion
