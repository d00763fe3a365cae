/-
  VuserScript.Proofs.Conversion.Warnings

  The warnings that a conversion gives, against those that its report lists.
  Each step that answers lists what it gave, and nothing is lost between the
  steps. The report takes over what a thread group lists once its script is
  finished: what had been given for the thread group that a run is stopped at is
  in the records of the run, and in no report.
-/
import VuserScript.Proofs.Conversion.Beginnings
import VuserScript.Proofs.Conversion.Repetition
import VuserScript.Proofs.Script.Naming

namespace VuserScript

/-! ## The warnings of an operation -/

/-- The only warnings among the records that came between two sessions. -/
def Session.Warned (σ τ : Session) (warnings : List String) : Prop :=
  ∃ records, τ.log = σ.log ++ records ∧ Record.warnings records = warnings

/-- The warnings that an operation gives, in the order in which it gives them. -/
def Job.warned {α : Type} (x : Job α) (σ : Session) : List String :=
  Record.warnings ((x.outcome σ).2.log.drop σ.log.length)

namespace Session

variable {σ τ υ : Session} {first second : List String}

theorem Warned.of_same (h : τ.log = σ.log) : Warned σ τ [] :=
  ⟨[], by rw [h, List.append_nil], rfl⟩

theorem Warned.of_note (records : List Record) :
    Warned σ { σ with log := σ.log ++ records } (Record.warnings records) :=
  ⟨records, rfl, rfl⟩

theorem Warned.of_warning {message : String} (h : τ.log = σ.log ++ [.ofWarning message]) :
    Warned σ τ [message] :=
  ⟨_, h, rfl⟩

theorem Warned.trans (h : Warned σ τ first) (h' : Warned τ υ second) :
    Warned σ υ (first ++ second) := by
  obtain ⟨records, hτ, rfl⟩ := h
  obtain ⟨others, hυ, rfl⟩ := h'
  refine ⟨records ++ others, ?_, Script.warnings_append records others⟩
  rw [hυ, hτ, List.append_assoc]

theorem Warned.trans_same (h : Warned σ τ first) (h' : υ.log = τ.log) : Warned σ υ first := by
  obtain ⟨records, hτ, hrecords⟩ := h
  exact ⟨records, h'.trans hτ, hrecords⟩

theorem Warned.warned_eq {α : Type} {x : Job α} (h : Warned σ (x.outcome σ).2 first) :
    x.warned σ = first := by
  obtain ⟨records, hlog, rfl⟩ := h
  rw [Job.warned, hlog, List.drop_left]

end Session

namespace Conversion

open Plan (DataSet Group)
open Script (ParameterSet)
open Session (Warned)
open Storage (Disk Path Trouble)

/-! ## Folders and files -/

/-- A foreseen trouble with files is told with the words of the step that it stopped. -/
theorem orTrouble_eq_error {α : Type} {problem : Trouble → Problem} {r : Except Trouble α}
    {σ τ : Session} {stop : Problem} (h : (Job.orTrouble problem r).outcome σ = (.error stop, τ)) :
    τ = σ ∧ ∃ trouble, r = .error trouble ∧ (stop.isForeseen = true → stop = problem trouble) := by
  cases r with
  | ok a => cases h
  | error trouble => cases trouble <;> cases h <;> exact ⟨rfl, _, rfl, by simp [Problem.isForeseen]⟩

theorem makeFolders_outcome_log (what : String) (path : Path) (σ : Session) :
    ((makeFolders what path).outcome σ).2.log = σ.log := by
  simp only [makeFolders, Job.outcome_bind, Job.outcome_disk, Job.outcome_setDisk,
    Job.outcome_orTrouble_snd]

theorem makeFolders_same {what : String} {path : Path} {σ τ : Session}
    {answer : Except Problem Unit} (h : (makeFolders what path).outcome σ = (answer, τ)) :
    τ.log = σ.log := by
  rw [← makeFolders_outcome_log what path σ, h]

theorem makeFolders_stopped {what : String} {path : Path} {σ τ : Session} {stop : Problem}
    (h : (makeFolders what path).outcome σ = (.error stop, τ)) (hstop : stop.isForeseen = true) :
    ∃ d trouble, σ.disk.ensureFolders path = (d, .error trouble)
      ∧ stop = .folder what path.text trouble := by
  simp only [makeFolders, Job.outcome_bind, Job.outcome_disk, Job.outcome_setDisk] at h
  obtain ⟨-, trouble, hmade, htold⟩ := orTrouble_eq_error h
  exact ⟨_, trouble, Prod.ext rfl hmade, htold hstop⟩

theorem writeFile_outcome_log (folder : Path) (name text : String) (σ : Session) :
    ((writeFile folder name text).outcome σ).2.log = σ.log := by
  cases hwrite : σ.disk.write (folder.child name) text.toUTF8 with
  | ok d => rw [writeFile_of_ok hwrite]
  | error trouble =>
    simp only [writeFile, Job.outcome_bind, Job.outcome_disk, hwrite]
    obtain ⟨stop, hstop⟩ := Job.outcome_orTrouble_error (α := Disk)
      (.scriptFile (folder.child name).text) trouble σ
    rw [hstop]

theorem writeFile_same {folder : Path} {name text : String} {σ τ : Session}
    {answer : Except Problem Unit} (h : (writeFile folder name text).outcome σ = (answer, τ)) :
    τ.log = σ.log := by
  rw [← writeFile_outcome_log folder name text σ, h]

theorem Written.snoc {folder : Path} {files : List (String × String)} {name text : String}
    {c d e : Disk} (h : Written folder files c d)
    (hwrite : d.write (folder.child name) text.toUTF8 = .ok e) :
    Written folder (files ++ [(name, text)]) c e := by
  induction files generalizing c with
  | nil =>
    cases h
    exact ⟨e, hwrite, rfl⟩
  | cons file files ih =>
    obtain ⟨b, hfirst, hrest⟩ := h
    exact ⟨b, hfirst, ih hrest⟩

theorem writeFile_stopped {folder : Path} {name text : String} {σ τ : Session} {stop : Problem}
    (h : (writeFile folder name text).outcome σ = (.error stop, τ))
    (hstop : stop.isForeseen = true) :
    ∃ trouble, σ.disk.write (folder.child name) text.toUTF8 = .error trouble
      ∧ stop = .scriptFile (folder.child name).text trouble := by
  simp only [writeFile, Job.bind_eq_error, Job.outcome_disk, Job.outcome_setDisk] at h
  obtain hno | ⟨d, _, hd, hwrite | ⟨_, _, _, hset⟩⟩ := h
  · cases hno
  · cases hd
    obtain ⟨-, trouble, hfailed, htold⟩ := orTrouble_eq_error hwrite
    exact ⟨trouble, hfailed, htold hstop⟩
  · cases hset

/-! ## Data sets -/

theorem copyFile_warned {source target : Path} {σ τ : Session} {warnings : List String}
    (h : (copyFile source target).outcome σ = (.ok warnings, τ)) : Warned σ τ warnings := by
  cases hcopy : σ.disk.copy source target with
  | ok d =>
    rw [copyFile_of_ok hcopy] at h
    cases h
    exact .of_same rfl
  | error trouble =>
    rw [copyFile_of_error hcopy] at h
    split at h <;> cases h
    exact .of_warning rfl

theorem copyFile_stopped {source target : Path} {σ τ : Session} {stop : Problem}
    (h : (copyFile source target).outcome σ = (.error stop, τ)) : stop.isForeseen = false := by
  cases hcopy : σ.disk.copy source target with
  | ok d =>
    rw [copyFile_of_ok hcopy] at h
    cases h
  | error trouble =>
    rw [copyFile_of_error hcopy] at h
    split at h <;> cases h
    rfl

theorem orTrouble_storage_stopped {α : Type} {r : Except Trouble α} {σ τ : Session}
    {stop : Problem} (h : (Job.orTrouble .storage r).outcome σ = (.error stop, τ)) :
    stop.isForeseen = false := by
  cases r with
  | ok a => cases h
  | error trouble => cases trouble <;> cases h <;> rfl

theorem place_warned {s : DataSource} {folder : Path} {dataSet : DataSet} {σ τ : Session}
    {set : Option ParameterSet} {warnings : List String}
    (h : (s.place folder dataSet).outcome σ = (.ok (set, warnings), τ)) : Warned σ τ warnings := by
  unfold DataSource.place at h
  cases hpath : s.path? dataSet with
  | none =>
    rw [hpath] at h
    cases h
    exact .of_warning rfl
  | some source =>
    rw [hpath] at h
    simp only [Job.bind_eq_ok, Job.outcome_disk] at h
    obtain ⟨d, _, hd, isThere, _, hthere, h⟩ := h
    cases hd
    obtain ⟨-, rfl⟩ := Job.orTrouble_eq_ok hthere
    cases isThere with
    | false =>
      simp only [Bool.false_eq_true, if_false, Job.bind_eq_ok] at h
      obtain ⟨absolute, _, habsolute, _, _, hwarn, h⟩ := h
      obtain ⟨-, rfl⟩ := Job.orTrouble_eq_ok habsolute
      cases hwarn
      cases h
      exact .of_warning rfl
    | true =>
      simp only [if_true, Job.bind_eq_ok] at h
      obtain ⟨copied, υ, hcopy, h⟩ := h
      have hcopied := copyFile_warned hcopy
      cases hname : (s.parameterSet folder source dataSet).datFileName with
      | none =>
        rw [hname] at h
        cases h
        exact hcopied.trans (.of_same rfl)
      | some name =>
        rw [hname] at h
        simp only [Job.bind_eq_ok] at h
        obtain ⟨datCopied, _, hdat, h⟩ := h
        cases h
        exact hcopied.trans (copyFile_warned hdat)

theorem place_stopped {s : DataSource} {folder : Path} {dataSet : DataSet} {σ τ : Session}
    {stop : Problem} (h : (s.place folder dataSet).outcome σ = (.error stop, τ)) :
    stop.isForeseen = false := by
  unfold DataSource.place at h
  cases hpath : s.path? dataSet with
  | none =>
    rw [hpath] at h
    cases h
  | some source =>
    rw [hpath] at h
    simp only [Job.bind_eq_error, Job.outcome_disk] at h
    obtain hno | ⟨d, _, -, hthere | ⟨isThere, _, -, h⟩⟩ := h
    · cases hno
    · exact orTrouble_storage_stopped hthere
    cases isThere with
    | false =>
      obtain habsolute | ⟨_, _, -, h⟩ := Job.bind_eq_error.mp h
      · exact orTrouble_storage_stopped habsolute
      · cases h
    | true =>
      simp only [if_true, Job.bind_eq_error] at h
      obtain hcopy | ⟨copied, υ, -, h⟩ := h
      · exact copyFile_stopped hcopy
      cases hname : (s.parameterSet folder source dataSet).datFileName with
      | none =>
        rw [hname] at h
        cases h
      | some name =>
        rw [hname] at h
        simp only [Job.bind_eq_error] at h
        obtain hdat | ⟨_, _, -, hno⟩ := h
        · exact copyFile_stopped hdat
        · cases hno

/-- The data sets of a plan are told of by the warnings that were given, and by no others. -/
theorem placeAll_warned {s : DataSource} {folder : Path} {dataSets : List DataSet} {σ τ : Session}
    {sets : List ParameterSet} {warnings : List String}
    (h : (s.placeAll folder dataSets).outcome σ = (.ok (sets, warnings), τ)) :
    Warned σ τ warnings := by
  induction dataSets generalizing σ sets warnings with
  | nil =>
    cases h
    exact .of_same rfl
  | cons dataSet rest ih =>
    simp only [DataSource.placeAll, Job.bind_eq_ok] at h
    obtain ⟨⟨set, own⟩, υ, hplace, ⟨sets', others⟩, _, hrest, h⟩ := h
    cases h
    exact (place_warned hplace).trans (ih hrest)

/-- What stops the operation on data sets is never a problem that conversions foresee. -/
theorem placeAll_stopped {s : DataSource} {folder : Path} {dataSets : List DataSet} {σ τ : Session}
    {stop : Problem} (h : (s.placeAll folder dataSets).outcome σ = (.error stop, τ)) :
    stop.isForeseen = false := by
  induction dataSets generalizing σ with
  | nil => cases h
  | cons dataSet rest ih =>
    simp only [DataSource.placeAll, Job.bind_eq_error] at h
    obtain hplace | ⟨_, υ, -, hrest | ⟨_, _, -, hno⟩⟩ := h
    · exact place_stopped hplace
    · exact ih hrest
    · cases hno

/-! ## Thread groups -/

/-- The warnings about a thread group itself, besides those about the data sets: that it has no
container, and those of its action. -/
def ownWarnings (s : Setting) (p : Progress) (g : Group) : List String :=
  (if g.items.isSome then [] else [bareGroupWarning (g.name p.number)])
    ++ Record.warnings (Script.actionOf s.options.enableCorrelation g.items p.names).1.log

/-- How far a thread group had come when a foreseen problem stopped it, and the warnings that it had
given by then: none before its folder was made, those about the data sets while the first four files
were written, and all of them after these, while the action and the summary were. -/
inductive Stopped (s : Setting) (p : Progress) (g : Group) (d : Disk) :
    Problem → List String → Prop where
  | folder {e : Disk} {trouble : Trouble}
      (makes : d.ensureFolders (s.groupFolder p g) = (e, .error trouble)) :
      Stopped s p g d (.folder "script directory" (s.groupFolder p g).text trouble) []
  | file {made placed c : Disk} {sets : List ParameterSet} {dataWarnings : List String}
      {name text : String} {trouble : Trouble} (log : String)
      (before after : List (String × String))
      (makes : d.ensureFolders (s.groupFolder p g) = (made, .ok ()))
      (places : Placed s.source (s.groupFolder p g) s.dataSets made sets dataWarnings placed)
      (files : scriptFiles sets
        (Script.actionOf s.options.enableCorrelation g.items p.names).1.lines log
          = before ++ (name, text) :: after)
      (writes : Written (s.groupFolder p g) before placed c)
      (fails : c.write ((s.groupFolder p g).child name) text.toUTF8 = .error trouble) :
      Stopped s p g d (.scriptFile ((s.groupFolder p g).child name).text trouble)
        (if before.length < 4 then dataWarnings else dataWarnings ++ ownWarnings s p g)

theorem warnIfBare_warned {name : String} {g : Group} {warnings : List String} {σ τ : Session}
    (h : (warnIfBare name g).outcome σ = (.ok warnings, τ)) : Warned σ τ warnings := by
  unfold warnIfBare at h
  cases hitems : g.items <;> rw [hitems] at h <;> cases h
  · exact .of_warning rfl
  · exact .of_same rfl

theorem convertGroup_warned {s : Setting} {p q : Progress} {g : Group} {r : GroupReport}
    {σ τ : Session} (h : (convertGroup s p g).outcome σ = (.ok (r, q), τ)) :
    Warned σ τ r.warnings := by
  unfold convertGroup at h
  simp only [Job.bind_eq_ok, Job.outcome_note, writeStubs, writeConfig, writeAction, writeLog,
    Job.outcome_disk] at h
  obtain ⟨_, σ₁, hmake, _, _, hnote, ⟨sets, dataWarnings⟩, σ₂, hplace, _, σ₃,
    ⟨_, σ₄, hinit, hend⟩, _, σ₅, ⟨_, σ₆, hconfig, hparameters⟩, bareWarnings, σ₇, hbare, _, _,
    hnotes, _, σ₈, haction, _, σ₉, ⟨_, _, hd, hlog⟩, h⟩ := h
  cases hnote
  cases hnotes
  cases hd
  cases h
  -- folders and files are silent, and what is given between them is listed
  have hdata : Warned σ σ₂ dataWarnings :=
    (Warned.of_same (makeFolders_same hmake)).trans
      ((Warned.of_note _).trans (placeAll_warned hplace))
  have hfiles : Warned σ σ₅ dataWarnings := hdata.trans_same <| by
    rw [writeFile_same hparameters, writeFile_same hconfig, writeFile_same hend,
      writeFile_same hinit]
  have hbared := hfiles.trans (warnIfBare_warned hbare)
  exact (hbared.trans (.of_note _)).trans_same
    ((writeFile_same hlog).trans (writeFile_same haction))

/-- A file among those that are written one after another is the one that cannot be written, or the
operation goes on behind it. -/
theorem writeFile_bind_stopped {α : Type} {folder : Path} {name text : String}
    {next : Unit → Job α} {before : List (String × String)} {d : Disk} {σ τ : Session}
    {stop : Problem} (h : (writeFile folder name text >>= next).outcome σ = (.error stop, τ))
    (hstop : stop.isForeseen = true) (hbefore : Written folder before d σ.disk) :
    (∃ trouble, σ.disk.write (folder.child name) text.toUTF8 = .error trouble
        ∧ stop = .scriptFile (folder.child name).text trouble ∧ τ.log = σ.log)
      ∨ ∃ υ, υ.log = σ.log ∧ Written folder (before ++ [(name, text)]) d υ.disk
        ∧ (next ()).outcome υ = (.error stop, τ) := by
  rcases Job.bind_eq_error.mp h with hwrite | ⟨_, υ, hwrite, h⟩
  · obtain ⟨trouble, hfails, htold⟩ := writeFile_stopped hwrite hstop
    exact .inl ⟨trouble, hfails, htold, writeFile_same hwrite⟩
  · exact .inr ⟨υ, writeFile_same hwrite, hbefore.snoc (writeFile_eq_ok hwrite), h⟩

/-- A thread group that a foreseen problem stops has given some of its warnings by then, or all. -/
theorem stopped_of_error {s : Setting} {p : Progress} {g : Group} {σ τ : Session} {stop : Problem}
    (h : (convertGroup s p g).outcome σ = (.error stop, τ)) (hstop : stop.isForeseen = true) :
    ∃ warnings, Stopped s p g σ.disk stop warnings ∧ Warned σ τ warnings := by
  simp only [convertGroup, writeStubs, writeConfig, writeAction, writeLog, bind_assoc] at h
  rcases Job.bind_eq_error.mp h with hmake | ⟨_, σ₁, hmake, h⟩
  · obtain ⟨d, trouble, hfailed, rfl⟩ := makeFolders_stopped hmake hstop
    exact ⟨[], .folder hfailed, .of_same (makeFolders_same hmake)⟩
  rcases Job.bind_eq_error.mp h with hno | ⟨_, _, hnote, h⟩
  · cases hno
  rw [Job.outcome_note] at hnote
  cases hnote
  rcases Job.bind_eq_error.mp h with hplace | ⟨⟨sets, dataWarnings⟩, σ₂, hplace, h⟩
  · rw [placeAll_stopped hplace] at hstop
    cases hstop
  have hmakes := makeFolders_eq_ok hmake
  have hplaces := placed_placeAll hplace
  have hdata : Warned σ σ₂ dataWarnings :=
    (Warned.of_same (makeFolders_same hmake)).trans
      ((Warned.of_note _).trans (placeAll_warned hplace))
  have hwritten : Written (s.groupFolder p g) [] σ₂.disk σ₂.disk := rfl
  -- the four files before the action
  rcases writeFile_bind_stopped h hstop hwritten with ⟨trouble, hfails, rfl, hsame⟩
    | ⟨σ₃, hsame, hwritten, h⟩
  · exact ⟨_, .file "" _ _ hmakes hplaces rfl hwritten hfails, hdata.trans_same hsame⟩
  replace hdata := hdata.trans_same hsame
  rcases writeFile_bind_stopped h hstop hwritten with ⟨trouble, hfails, rfl, hsame⟩
    | ⟨σ₄, hsame, hwritten, h⟩
  · exact ⟨_, .file "" _ _ hmakes hplaces rfl hwritten hfails, hdata.trans_same hsame⟩
  replace hdata := hdata.trans_same hsame
  rcases writeFile_bind_stopped h hstop hwritten with ⟨trouble, hfails, rfl, hsame⟩
    | ⟨σ₅, hsame, hwritten, h⟩
  · exact ⟨_, .file "" _ _ hmakes hplaces rfl hwritten hfails, hdata.trans_same hsame⟩
  replace hdata := hdata.trans_same hsame
  rcases writeFile_bind_stopped h hstop hwritten with ⟨trouble, hfails, rfl, hsame⟩
    | ⟨σ₆, hsame, hwritten, h⟩
  · exact ⟨_, .file "" _ _ hmakes hplaces rfl hwritten hfails, hdata.trans_same hsame⟩
  replace hdata := hdata.trans_same hsame
  -- the warnings about the thread group itself
  rcases Job.bind_eq_error.mp h with hbare | ⟨bareWarnings, σ₇, hbare, h⟩
  · unfold warnIfBare at hbare
    split at hbare <;> cases hbare
  obtain ⟨hdisk, rfl⟩ := warnIfBare_eq_ok hbare
  rw [← hdisk] at hwritten
  rcases Job.bind_eq_error.mp h with hno | ⟨_, _, hnotes, h⟩
  · cases hno
  rw [Job.outcome_note] at hnotes
  cases hnotes
  have hown : Warned σ _ (dataWarnings ++ ownWarnings s p g) :=
    hdata.trans ((warnIfBare_warned hbare).trans (.of_note _))
  -- the action and the summary
  rcases writeFile_bind_stopped h hstop hwritten with ⟨trouble, hfails, rfl, hsame⟩
    | ⟨σ₈, hsame, hwritten, h⟩
  · exact ⟨_, .file "" _ _ hmakes hplaces rfl hwritten hfails, hown.trans_same hsame⟩
  replace hown := hown.trans_same hsame
  rcases Job.bind_eq_error.mp h with hno | ⟨_, _, hd, h⟩
  · cases hno
  cases hd
  rcases writeFile_bind_stopped h hstop hwritten with ⟨trouble, hfails, rfl, hsame⟩
    | ⟨_, _, _, hno⟩
  · exact ⟨_, .file _ _ _ hmakes hplaces rfl hwritten hfails, hown.trans_same hsame⟩
  · cases hno

/-! ## Runs -/

/-- What a thread group leaves to the next, once it is finished. -/
def Progress.next (s : Setting) (p : Progress) (g : Group) : Progress :=
  ⟨(Script.actionOf s.options.enableCorrelation g.items p.names).2,
    folded (s.scriptName p g) :: p.taken, p.number + 1⟩

/-- What thread groups leave to those behind them, once they are finished. -/
def Progress.behind (s : Setting) (p : Progress) (groups : List Group) : Progress :=
  groups.foldl (Progress.next s) p

theorem Progress.behind_cons (s : Setting) (p : Progress) (g : Group) (groups : List Group) :
    p.behind s (g :: groups) = (p.next s g).behind s groups := rfl

theorem Converted.next {s : Setting} {p q : Progress} {g : Group} {d e : Disk} {x : Stages}
    {r : GroupReport} (h : Converted s p g d x r q e) : q = p.next s g := by
  rw [Progress.next, ← h.action, ← h.taken, ← h.number]

section

variable {s : Setting} {p : Progress} {groups : List Group} {σ τ : Session}
  {reports : List GroupReport}

/-- A run that was not stopped gives the warnings that its reports list. -/
theorem Runs.warned (h : Runs s p groups σ reports none τ) :
    Warned σ τ (reports.flatMap GroupReport.warnings) := by
  generalize hnone : none = problem at h
  induction h with
  | done => exact .of_same rfl
  | stopped stop => cases hnone
  | next first others ih => exact (convertGroup_warned first).trans (ih hnone)

/-- A run that was stopped finished the thread groups before the one that stopped it. -/
theorem Runs.stopping {stop : Problem} (h : Runs s p groups σ reports (some stop) τ) :
    ∃ g υ, groups[reports.length]? = some g
      ∧ Runs s p (groups.take reports.length) σ reports none υ
      ∧ (convertGroup s (p.behind s (groups.take reports.length)) g).outcome υ
        = (.error stop, τ) := by
  generalize hsome : some stop = problem at h
  induction h with
  | done => cases hsome
  | stopped failed =>
    cases hsome
    exact ⟨_, _, rfl, .done, failed⟩
  | next first others ih =>
    obtain ⟨g, υ, hg, hruns, hstop⟩ := ih hsome
    obtain ⟨x, hx⟩ := converted_of_ok first
    rw [hx.next, ← Progress.behind_cons] at hstop
    exact ⟨g, υ, hg, .next first hruns, hstop⟩

end

/-! ## Conversions -/

/-- The thread group behind those with a listed script, where a run has come to it: with this
setting, this progress, and in this session. -/
def ComesTo (options : Options) (jmxPath outputFolder : String) (σ : Session)
    (scripts : List GroupReport) (s : Setting) (p : Progress) (g : Group) (υ : Session) : Prop :=
  ∃ groups opening τ, (prepare options (Path.parse jmxPath) (Path.parse outputFolder)).outcome σ
      = (.ok (groups, s, opening), τ)
    ∧ groups[scripts.length]? = some g
    ∧ Runs s {} (groups.take scripts.length) τ scripts none υ
    ∧ p = Progress.behind s {} (groups.take scripts.length)

theorem warnings_map_ofWarning (messages : List String) :
    Record.warnings (messages.map Record.ofWarning) = messages := by
  induction messages with
  | nil => rfl
  | cons message messages ih => exact congrArg (message :: ·) ih

theorem prepare_warned {options : Options} {jmxPath outputFolder : Path} {groups : List Group}
    {setting : Setting} {warnings : List String} {σ τ : Session}
    (h : (prepare options jmxPath outputFolder).outcome σ = (.ok (groups, setting, warnings), τ)) :
    Warned σ τ warnings := by
  simp only [prepare, Job.bind_eq_ok, Job.outcome_note, Job.outcome_disk] at h
  obtain ⟨root, _, hload, _, υ, hmake, _, _, hnote, d, _, hd, h⟩ := h
  obtain rfl := load_eq_ok hload
  cases hnote
  cases hd
  cases h
  generalize (if (Plan.groups root).isEmpty then [noGroupsWarning] else []) = warnings
  have hnoted : Warned υ { υ with log := υ.log ++ warnings.map Record.ofWarning } warnings :=
    ⟨_, rfl, warnings_map_ofWarning warnings⟩
  exact (Warned.of_same (makeFolders_same hmake)).trans hnoted

/-- A run that is stopped before its first thread group gives no warnings. -/
theorem prepare_stopped {options : Options} {jmxPath outputFolder : Path} {stop : Problem}
    {σ τ : Session}
    (h : (prepare options jmxPath outputFolder).outcome σ = (.error stop, τ)) :
    τ.log = σ.log := by
  simp only [prepare, Job.bind_eq_error, Job.outcome_note, Job.outcome_disk] at h
  rcases h with hload | ⟨root, _, hload, hmake | ⟨_, _, -, hno⟩⟩
  · rw [← load_outcome_snd jmxPath.text σ, hload]
  · obtain rfl := load_eq_ok hload
    exact makeFolders_same hmake
  · simp at hno

theorem finish_warned {r report : Report} {problem : Option Problem} {σ : Session}
    (h : ((finish r problem).outcome σ).1 = .ok report) :
    Warned σ ((finish r problem).outcome σ).2 []
      ∧ ∀ stop, problem = some stop → stop.isForeseen = true := by
  cases problem with
  | none =>
    refine ⟨.of_same rfl, fun stop hstop => ?_⟩
    cases hstop
  | some problem =>
    cases hforeseen : problem.isForeseen <;> simp only [finish, hforeseen] at h ⊢
    · cases h
    · refine ⟨.of_note _, fun stop hstop => ?_⟩
      cases hstop
      exact hforeseen

section

variable {options : Options} {jmxPath outputFolder : String} {σ : Session} {report : Report}

/-- A run comes to one thread group at most. -/
theorem ComesTo.unique {scripts : List GroupReport} {s s' : Setting} {p p' : Progress}
    {g g' : Group} {υ υ' : Session} (h : ComesTo options jmxPath outputFolder σ scripts s p g υ)
    (h' : ComesTo options jmxPath outputFolder σ scripts s' p' g' υ') :
    s' = s ∧ p' = p ∧ g' = g ∧ υ' = υ := by
  obtain ⟨groups, opening, τ, hprepare, hg, hruns, rfl⟩ := h
  obtain ⟨groups', opening', τ', hprepare', hg', hruns', rfl⟩ := h'
  rw [hprepare] at hprepare'
  cases hprepare'
  rw [hg] at hg'
  cases hg'
  have hsame := hruns.run_eq.symm.trans hruns'.run_eq
  exact ⟨rfl, rfl, rfl, (congrArg Prod.snd hsame).symm⟩

/-- A conversion that was stopped at a thread group gave warning of what its report lists, and then
of what had come up for this thread group. -/
theorem warned_of_stopped {groups : List Group} {s : Setting} {opening : List String}
    {τ ω : Session} {scripts : List GroupReport} {stop : Problem}
    (hprepare : (prepare options (Path.parse jmxPath) (Path.parse outputFolder)).outcome σ
      = (.ok (groups, s, opening), τ))
    (hruns : Runs s {} groups τ scripts (some stop) ω) (hstop : stop.isForeseen = true) :
    ∃ p g υ, ComesTo options jmxPath outputFolder σ scripts s p g υ
      ∧ Stopped s p g υ.disk stop ((convertGroup s p g).warned υ)
      ∧ Warned σ ω (opening ++ scripts.flatMap GroupReport.warnings
        ++ (convertGroup s p g).warned υ) := by
  obtain ⟨g, υ, hg, hfinished, hstopped⟩ := hruns.stopping
  obtain ⟨lost, hhow, hlost⟩ := stopped_of_error hstopped hstop
  have hgroup : (convertGroup s (Progress.behind s {} (groups.take scripts.length)) g).warned υ
      = lost := Warned.warned_eq (by rw [hstopped]; exact hlost)
  refine ⟨_, g, υ, ⟨groups, opening, τ, hprepare, hg, hfinished, rfl⟩, ?_, ?_⟩
  · rw [hgroup]
    exact hhow
  · rw [hgroup]
    exact ((prepare_warned hprepare).trans hfinished.warned).trans hlost

/-- What a conversion gives warning of is what its report lists, and behind it what had come up for
the thread group that stopped it, if one did. -/
theorem convert_warned (h : ((convert options jmxPath outputFolder).outcome σ).1 = .ok report) :
    (convert options jmxPath outputFolder).warned σ = report.warnings
        ∧ (∀ s p g υ, ¬ ComesTo options jmxPath outputFolder σ report.scripts s p g υ)
      ∨ ∃ s p g υ stop, ComesTo options jmxPath outputFolder σ report.scripts s p g υ
        ∧ report.problem = some stop
        ∧ Stopped s p g υ.disk stop ((convertGroup s p g).warned υ)
        ∧ (convert options jmxPath outputFolder).warned σ
          = report.warnings ++ (convertGroup s p g).warned υ := by
  rcases convert_cases options jmxPath outputFolder σ with ⟨problem, τ, hprepare, hconvert⟩
    | ⟨groups, setting, opening, τ, scripts, problem, ω, hprepare, hruns, hconvert⟩
  · rw [hconvert] at h
    obtain ⟨hfinish, -⟩ := finish_warned h
    obtain rfl := finish_eq_ok h rfl
    refine .inl ⟨?_, ?_⟩
    · have hwarned := (Warned.of_same (prepare_stopped hprepare)).trans hfinish
      rw [← hconvert] at hwarned
      exact hwarned.warned_eq
    · rintro s p g υ ⟨groups, opening, ρ, hother, -⟩
      rw [hprepare] at hother
      cases hother
  · rw [hconvert] at h
    obtain ⟨hfinish, hforeseen⟩ := finish_warned h
    obtain rfl := finish_eq_ok h rfl
    rw [← hconvert] at hfinish
    cases problem with
    | none =>
      refine .inl ⟨?_, ?_⟩
      · have hwarned := ((prepare_warned hprepare).trans hruns.warned).trans hfinish
        rw [List.append_nil] at hwarned
        exact hwarned.warned_eq
      · rintro s p g υ ⟨groups', opening', ρ, hother, hg, -⟩
        rw [hprepare] at hother
        cases hother
        rw [hruns.length_eq, List.getElem?_eq_none (Nat.le_refl _)] at hg
        cases hg
    | some stop =>
      obtain ⟨p, g, υ, hcomes, hhow, hwarned⟩ :=
        warned_of_stopped hprepare hruns (hforeseen stop rfl)
      have hall := hwarned.trans hfinish
      rw [List.append_nil] at hall
      exact .inr ⟨setting, p, g, υ, stop, hcomes, rfl, hhow, hall.warned_eq⟩

/-- The report of a conversion begins the list of all warnings that were given, in their order, and
lacks only those for the thread group at which the run was stopped: they are those that had been
given until its folder or one of its files could not be made. So the report lists all warnings of
the run exactly if it comes to no such thread group, or to one for which no warning had been given;
a success is complete. -/
theorem warnings_complete_iff
    (h : ((convert options jmxPath outputFolder).outcome σ).1 = .ok report) :
    (report.warnings = (convert options jmxPath outputFolder).warned σ
        ↔ ∀ s p g υ, ComesTo options jmxPath outputFolder σ report.scripts s p g υ →
          (convertGroup s p g).warned υ = [])
      ∧ (∀ s p g υ, ComesTo options jmxPath outputFolder σ report.scripts s p g υ →
        (convert options jmxPath outputFolder).warned σ
            = report.warnings ++ (convertGroup s p g).warned υ
          ∧ ∃ stop, report.problem = some stop
            ∧ Stopped s p g υ.disk stop ((convertGroup s p g).warned υ))
      ∧ (report.success = true →
        report.warnings = (convert options jmxPath outputFolder).warned σ) := by
  rcases convert_warned h with ⟨hwarned, hnone⟩
    | ⟨s, p, g, υ, stop, hcomes, hproblem, hhow, hwarned⟩
  · refine ⟨⟨fun _ s p g υ hcomes => absurd hcomes (hnone s p g υ), fun _ => hwarned.symm⟩,
      fun s p g υ hcomes => absurd hcomes (hnone s p g υ), fun _ => hwarned.symm⟩
  · refine ⟨⟨fun hsame s' p' g' υ' hcomes' => ?_, fun hall => ?_⟩,
      fun s' p' g' υ' hcomes' => ?_, fun hsuccess => ?_⟩
    · obtain ⟨rfl, rfl, rfl, rfl⟩ := hcomes.unique hcomes'
      rw [hwarned] at hsame
      exact List.self_eq_append_right.mp hsame
    · rw [hwarned, hall s p g υ hcomes, List.append_nil]
    · obtain ⟨rfl, rfl, rfl, rfl⟩ := hcomes.unique hcomes'
      exact ⟨hwarned, stop, hproblem, hhow⟩
    · rw [Report.success, hproblem] at hsuccess
      cases hsuccess

end

/-! ## A warning that is lost -/

/-- A plan with a thread group that has no container. Where the file with the action of its script
should be, there is a folder. -/
def planWithBlockedAction : Session where
  disk :=
    { tree := ⟨[(["out"], .folder), (["out", "Script_G"], .folder),
        (["out", "Script_G", "Action.c"], .folder),
        (["plan.jmx"], .file ("<jmeterTestPlan><hashTree><ThreadGroup testname=\"G\"/></hashTree>"
          ++ "</jmeterTestPlan>").toUTF8)]⟩
      workingFolder := [] }

/-- The warning about the container is given, and the report does not list it. -/
theorem outcome_planWithBlockedAction : ∃ report,
    ((convert {} "plan.jmx" "out").outcome planWithBlockedAction).1 = .ok report
      ∧ report.warnings = []
      ∧ (convert {} "plan.jmx" "out").warned planWithBlockedAction
        = ["No hashTree found for ThreadGroup 'G'."] := by
  have hlisted : ((convert {} "plan.jmx" "out").outcome planWithBlockedAction).1.toOption.map
      Report.warnings = some [] := by
    decide +kernel
  obtain ⟨report, hreport, hnone⟩ := Option.map_eq_some_iff.mp hlisted
  exact ⟨report, Job.eq_ok_of_toOption_eq_some hreport, hnone, by decide +kernel⟩

/-- The conversion comes to this thread group, and a warning had been given for it. -/
theorem warnings_complete_iff_planWithBlockedAction : ∃ report,
    ((convert {} "plan.jmx" "out").outcome planWithBlockedAction).1 = .ok report
      ∧ ¬ ∀ s p g υ, ComesTo {} "plan.jmx" "out" planWithBlockedAction report.scripts s p g υ →
        (convertGroup s p g).warned υ = [] := by
  obtain ⟨report, hconverted, hnone, hwarned⟩ := outcome_planWithBlockedAction
  refine ⟨report, hconverted, fun hall => ?_⟩
  have hsame := (warnings_complete_iff hconverted).1.mpr hall
  rw [hnone, hwarned] at hsame
  cases hsame

/-- Not all reports list all warnings of their conversions. -/
theorem not_forall_warnings_complete :
    ¬ ∀ (options : Options) (jmxPath outputFolder : String) (σ : Session) (report : Report),
      ((convert options jmxPath outputFolder).outcome σ).1 = .ok report →
      report.warnings = (convert options jmxPath outputFolder).warned σ := by
  intro hall
  obtain ⟨report, hconverted, hnone, hwarned⟩ := outcome_planWithBlockedAction
  have hsame := hall {} "plan.jmx" "out" planWithBlockedAction report hconverted
  rw [hnone, hwarned] at hsame
  cases hsame

end Conversion

end VuserScript
