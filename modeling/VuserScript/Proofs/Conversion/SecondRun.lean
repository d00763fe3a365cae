/-
  VuserScript.Proofs.Conversion.SecondRun

  A conversion that is run once more. If the plan and the files of the data sets
  lie outside the script folders, and if no file has become one that may not be
  written, the second run reports the same and leaves everything as it was. A
  file of a data set that may not be written is copied only once.
-/
import VuserScript.Proofs.Conversion.OpenFiles

namespace VuserScript.Conversion

open Plan (DataSet Group)
open Storage (Disk IsEntryName Location Path)

/-! ## Runs and conversions -/

theorem prepare_of_ok (options : Options) {jmxPath outputFolder : Path} {root : Xml.Element}
    {σ : Session} {d : Disk} {made : Unit}
    (hload : (Plan.load jmxPath.text).outcome σ = (.ok root, σ))
    (hmade : σ.disk.ensureFolders outputFolder = (d, .ok made)) :
    ∃ τ, (prepare options jmxPath outputFolder).outcome σ
        = (.ok (Plan.groups root, settingOf options jmxPath outputFolder root d,
          if (Plan.groups root).isEmpty then [noGroupsWarning] else []), τ)
      ∧ τ.disk = d := by
  simp only [prepare, Job.outcome_bind, hload, makeFolders_of_ok hmade, Job.outcome_note,
    Job.outcome_disk]
  exact ⟨_, rfl, rfl⟩

section

variable {options : Options} {jmxPath outputFolder : String} {σ τ υ : Session} {report : Report}

/-- A conversion that succeeds is a run over all thread groups. -/
theorem runs_of_convert (h : (convert options jmxPath outputFolder).outcome σ = (.ok report, τ))
    (hsuccess : report.success = true) : ∃ groups setting warnings ρ scripts,
      (prepare options (Path.parse jmxPath) (Path.parse outputFolder)).outcome σ
          = (.ok (groups, setting, warnings), ρ)
        ∧ Runs setting {} groups ρ scripts none τ
        ∧ report = { jmxPath, outputFolder, scripts
                     warnings := warnings ++ scripts.flatMap GroupReport.warnings } := by
  rcases convert_cases options jmxPath outputFolder σ with ⟨problem, ρ, -, hconvert⟩
    | ⟨groups, setting, warnings, ρ, scripts, problem, χ, hprepare, hruns, hconvert⟩
  · rw [hconvert] at h
    exact absurd (finish_success (congrArg Prod.fst h) hsuccess).1 nofun
  · rw [hconvert] at h
    obtain ⟨rfl, hreport⟩ := finish_success (congrArg Prod.fst h) hsuccess
    obtain rfl : χ = τ := congrArg Prod.snd h
    exact ⟨groups, setting, warnings, ρ, scripts, hprepare, hruns, hreport⟩

theorem convert_of_runs {groups : List Group} {setting : Setting} {warnings : List String}
    {scripts : List GroupReport}
    (hprepare : (prepare options (Path.parse jmxPath) (Path.parse outputFolder)).outcome σ
      = (.ok (groups, setting, warnings), τ))
    (hruns : Runs setting {} groups τ scripts none υ) :
    (convert options jmxPath outputFolder).outcome σ
      = (.ok { jmxPath, outputFolder, scripts
               warnings := warnings ++ scripts.flatMap GroupReport.warnings }, υ) := by
  rw [Job.outcome] at hprepare
  simp only [convert, Job.outcome_bind, Job.outcome_lift, hprepare, hruns.run_eq]
  rfl

/-- The paths that a conversion reads from: those of the plan and of the files of its data sets. -/
def IsInput (options : Options) (jmxPath outputFolder : String) (σ : Session) (p : Path) : Prop :=
  p = Path.parse jmxPath
    ∨ ∃ root dataSet, (Plan.load (Path.parse jmxPath).text).outcome σ = (.ok root, σ)
      ∧ dataSet ∈ Plan.dataSets root
      ∧ (settingOf options (Path.parse jmxPath) (Path.parse outputFolder) root
          σ.disk).source.path? dataSet = some p

/-- The files of the data sets come from elsewhere if no path to them passes through the folders. -/
theorem readsElsewhere_settingOf {jmxPath outputFolder : Path} {root : Xml.Element} {c d : Disk}
    {out : Location} {names : List String}
    (hrooted : IsRooted (settingOf options jmxPath outputFolder root d).source.folder)
    (h : ∀ dataSet ∈ Plan.dataSets root, ∀ source,
      (settingOf options jmxPath outputFolder root d).source.path? dataSet = some source →
      ∀ name ∈ names, ¬ c.Passes source (out ++ [name])) :
    ReadsElsewhere (settingOf options jmxPath outputFolder root d).source out names
      (Plan.dataSets root) :=
  ⟨hrooted, fun dataSet hmem source hsource =>
    Disk.keepsOut_of_not_passes (isRooted_of_path? hrooted hsource).absolute
      (h dataSet hmem source hsource)⟩

/-- A plan is loaded again if its path passes through no folder that has grown meanwhile. -/
theorem load_again {root : Xml.Element} {d : Disk} {out : Location} {names : List String}
    {folders : Location → Prop}
    (hload : (Plan.load (Path.parse jmxPath).text).outcome σ = (.ok root, σ))
    (hmade : Disk.GrownTo (fun _ => False) folders σ.disk d)
    (hgrown : Disk.GrownIn out names d υ.disk)
    (hapart : ∀ name ∈ names, ¬ σ.disk.Passes (Path.parse jmxPath) (out ++ [name])) :
    (Plan.load (Path.parse jmxPath).text).outcome υ = (.ok root, υ) := by
  have hparse : Path.parse (Path.parse jmxPath).text = Path.parse jmxPath :=
    Path.parse_text fun part hpart => Path.isPart_of_mem_parse hpart
  obtain ⟨bytes, hread, hroot, htag⟩ := load_eq_ok_iff.mp hload
  rw [hparse] at hread
  refine load_eq_ok_iff.mpr ⟨bytes, ?_, hroot, htag⟩
  rw [hparse]
  exact hgrown.read hmade hread hapart

/-- A conversion that succeeded, taken apart: its plan, the session in which the output folder has
been made, the location of this folder, and the run over the thread groups. The files of the data
sets come from elsewhere. -/
structure RanElsewhere (options : Options) (jmxPath outputFolder : String) (σ τ : Session)
    (report : Report) (root : Xml.Element) (ρ : Session) (out : Location)
    (scripts : List GroupReport) : Prop where
  load : (Plan.load (Path.parse jmxPath).text).outcome σ = (.ok root, σ)
  makes : σ.disk.ensureFolders (Path.parse outputFolder) = (ρ.disk, .ok ())
  leads : ρ.disk.LeadsTo (Path.parse outputFolder) out
  elsewhere : ReadsElsewhere
    (settingOf options (Path.parse jmxPath) (Path.parse outputFolder) root ρ.disk).source out
    (scriptNames options.scriptPrefix {} (Plan.groups root)) (Plan.dataSets root)
  runs : Runs (settingOf options (Path.parse jmxPath) (Path.parse outputFolder) root ρ.disk) {}
    (Plan.groups root) ρ scripts none τ
  report : report
    = { jmxPath, outputFolder, scripts
        warnings := (if (Plan.groups root).isEmpty then [noGroupsWarning] else [])
          ++ scripts.flatMap GroupReport.warnings }

namespace RanElsewhere

variable {root : Xml.Element} {ρ : Session} {out : Location} {scripts : List GroupReport}

theorem made (h : RanElsewhere options jmxPath outputFolder σ τ report root ρ out scripts) :
    Disk.GrownTo (fun _ => False)
      (ρ.disk.AlongPath (Path.parse outputFolder).root (Path.parse outputFolder).parts)
      σ.disk ρ.disk := by
  have hgrown := Disk.grownTo_of_ensureFolders σ.disk (Path.parse outputFolder)
  rwa [h.makes] at hgrown

theorem grown (h : RanElsewhere options jmxPath outputFolder σ τ report root ρ out scripts) :
    Disk.GrownIn out (scriptNames options.scriptPrefix {} (Plan.groups root)) ρ.disk τ.disk :=
  h.runs.grownTo h.elsewhere.rooted h.leads

theorem isScriptFolder {name : String}
    (h : RanElsewhere options jmxPath outputFolder σ τ report root ρ out scripts)
    (hname : name ∈ scriptNames options.scriptPrefix {} (Plan.groups root)) :
    IsScriptFolder options jmxPath outputFolder σ τ.disk (out ++ [name]) :=
  ⟨root, out, name, h.load, h.grown.leadsTo h.leads, hname, isEntryName_of_mem_scriptNames hname,
    rfl⟩

end RanElsewhere

theorem ranElsewhere_of_convert (hworking : ∀ name ∈ σ.disk.workingFolder, IsEntryName name)
    (hapart : ∀ p, IsInput options jmxPath outputFolder σ p →
      ∀ l, IsScriptFolder options jmxPath outputFolder σ τ.disk l → ¬ σ.disk.Passes p l)
    (h : (convert options jmxPath outputFolder).outcome σ = (.ok report, τ))
    (hsuccess : report.success = true) : ∃ root ρ out scripts,
      RanElsewhere options jmxPath outputFolder σ τ report root ρ out scripts := by
  obtain ⟨groups, setting, warnings, ρ, scripts, hprepare, hruns, rfl⟩ :=
    runs_of_convert h hsuccess
  obtain ⟨root, hload, rfl, hensure, rfl, rfl⟩ := prepare_eq_ok hprepare
  have hmade := Disk.grownTo_of_ensureFolders σ.disk (Path.parse outputFolder)
  rw [hensure] at hmade
  obtain ⟨out, hout⟩ := Disk.isFolder_iff.mp (Disk.isFolder_of_ensureFolders hensure)
  have hrooted : IsRooted (settingOf options (Path.parse jmxPath) (Path.parse outputFolder) root
      ρ.disk).source.folder := isRooted_settingOf (hmade.workingFolder ▸ hworking)
  have hlast := (hruns.grownTo hrooted hout).leadsTo hout
  refine ⟨root, ρ, out, scripts, hload, hensure, hout, ?_, hruns, rfl⟩
  refine readsElsewhere_settingOf (c := σ.disk) hrooted
    fun dataSet hmem source hsource name hname => ?_
  refine hapart source (.inr ⟨root, dataSet, hload, hmem, ?_⟩) _
    ⟨root, out, name, hload, hlast, hname, isEntryName_of_mem_scriptNames hname, rfl⟩
  rwa [settingOf_congr _ _ _ _ hmade.workingFolder] at hsource

/-! ## Files that may not be written -/

/-- A conversion makes no file that may not be written, if the files of its data sets may be: those
at the locations that the paths to them spell out. -/
theorem keepsWritable_of_convert (hworking : ∀ name ∈ σ.disk.workingFolder, IsEntryName name)
    (hapart : ∀ p, IsInput options jmxPath outputFolder σ p →
      ∀ l, IsScriptFolder options jmxPath outputFolder σ τ.disk l → ¬ σ.disk.Passes p l)
    (hopen : ∀ p, IsInput options jmxPath outputFolder σ p → ∀ bytes,
      σ.disk.tree.get? (p.resolve σ.disk.workingFolder).parts = some (.file bytes) →
      (σ.disk.tree.access (p.resolve σ.disk.workingFolder).parts).write = true)
    (h : (convert options jmxPath outputFolder).outcome σ = (.ok report, τ))
    (hsuccess : report.success = true) : Disk.KeepsWritable σ.disk τ.disk := by
  obtain ⟨root, ρ, out, scripts, hran⟩ := ranElsewhere_of_convert hworking hapart h hsuccess
  refine (Disk.KeepsWritable.of_folders hran.made).trans
    (hran.runs.keepsWritable hran.elsewhere (fun _ hname => hname) hran.leads ?_)
  -- where a file is when the run starts there was the same file before
  intro dataSet hmem source hsource l bytes hl hfile
  have hrooted := isRooted_of_path? hran.elsewhere.rooted hsource
  have hlocation : l = (source.resolve σ.disk.workingFolder).parts := by
    rw [Disk.locate_eq_resolve hl hrooted.parts (.inl hrooted.absolute), hran.made.workingFolder]
  have hinput : IsInput options jmxPath outputFolder σ source := by
    refine .inr ⟨root, dataSet, hran.load, hmem, ?_⟩
    rwa [settingOf_congr _ _ _ _ hran.made.workingFolder] at hsource
  rcases hran.made.tree l with ⟨hsame, haccess⟩ | ⟨hno, -⟩ | ⟨-, -, -, hfolder⟩
  · rw [haccess, hlocation]
    exact hopen source hinput bytes (hlocation ▸ hsame.symm.trans hfile)
  · exact hno.elim
  · rw [hfile] at hfolder
    cases hfolder

/-! ## The second run -/

/-- A conversion that succeeds can be run once more, if none of the paths that it reads from passes
through one of its script folders, and if it has left no file that may not be written but those
that were there: it reports the same, and every file and folder is as it was. A copy may be used
like the file that it is made of, so that a file of a data set that may not be written leaves one
which no second copy can replace. -/
theorem convert_again (hworking : ∀ name ∈ σ.disk.workingFolder, IsEntryName name)
    (hapart : ∀ p, IsInput options jmxPath outputFolder σ p →
      ∀ l, IsScriptFolder options jmxPath outputFolder σ τ.disk l → ¬ σ.disk.Passes p l)
    (hwritable : Disk.KeepsWritable σ.disk τ.disk)
    (h : (convert options jmxPath outputFolder).outcome σ = (.ok report, τ))
    (hsuccess : report.success = true) (hυ : υ.disk = τ.disk) :
    ∃ ω, (convert options jmxPath outputFolder).outcome υ = (.ok report, ω)
      ∧ ω.disk.workingFolder = τ.disk.workingFolder
      ∧ ∀ l, τ.disk.tree.SameAt ω.disk.tree l := by
  obtain ⟨root, ρ, out, scripts, hran⟩ := ranElsewhere_of_convert hworking hapart h hsuccess
  have hgrown := hran.grown
  -- the plan is where it was, and so are the files of the data sets
  have hplan := load_again hran.load hran.made (hυ ▸ hgrown) fun name hname =>
    hapart _ (.inl rfl) _ (hran.isScriptFolder hname)
  have hfolder : υ.disk.ensureFolders (Path.parse outputFolder) = (υ.disk, .ok ()) := by
    rw [hυ]
    exact (hgrown.leadsTo hran.leads).ensureFolders
  obtain ⟨χ, hprepared, hχ⟩ := prepare_of_ok options hplan hfolder
  rw [settingOf_congr _ _ _ _ (hυ ▸ hgrown.workingFolder)] at hprepared
  have hstart : Disk.Retraces ρ.disk τ.disk χ.disk := by
    rw [hχ, hυ]
    exact .start (hwritable.of_grownTo hran.made)
  obtain ⟨ω, hagain, hω⟩ := hran.runs.again hran.elsewhere hran.leads (fun _ h => h) (.refl _ _ _)
    hstart
  rw [hran.report]
  exact ⟨ω, convert_of_runs hprepared hagain, hω.workingFolder, hω.finish⟩

end

/-! ## A file outside the output folder -/

theorem isEntryName_work : ∀ name ∈ ["work"], IsEntryName name := by
  rintro name hname
  obtain rfl := List.mem_singleton.mp hname
  exact ⟨by decide, by decide, by decide, by decide⟩

/-- The plan with a file outside is read from beside the output folder, and the file from above. -/
theorem eq_of_isInput_planWithOutsideFile {σ : Session} (hworking : σ.disk.workingFolder = ["work"])
    (hfiles : ((Plan.load "plan.jmx").outcome σ).1.toOption.map
        (fun root => (Plan.dataSets root).map DataSet.file) = some [some "../rows"])
    {p : Path} (hp : IsInput {} "plan.jmx" "out" σ p) :
    p = ⟨.relative, ["plan.jmx"]⟩ ∨ p = ⟨.absolute, ["work", "..", "rows"]⟩ := by
  rcases hp with rfl | ⟨root, dataSet, hload, hmem, hpath⟩
  · exact .inl (by decide)
  · have hfile : dataSet.file ∈ (Plan.dataSets root).map DataSet.file := List.mem_map_of_mem hmem
    have hplan : (Path.parse "plan.jmx").text = "plan.jmx" := by decide
    rw [hplan] at hload
    rw [hload] at hfiles
    have hlist : (Plan.dataSets root).map DataSet.file = [some "../rows"] :=
      Option.some.inj hfiles
    rw [hlist, List.mem_singleton] at hfile
    have hsource : (settingOf {} (Path.parse "plan.jmx") (Path.parse "out") root
        σ.disk).source.path? dataSet = some ⟨.absolute, ["work", "..", "rows"]⟩ := by
      rw [DataSource.path?, hfile]
      change (Option.map Text.trim (some "../rows")).bind (fun name =>
        if name = "" then none
        else some (((Path.parse "plan.jmx").resolve σ.disk.workingFolder).parent.join
          (Path.parse name))) = _
      rw [hworking]
      decide +kernel
    exact .inr (Option.some.inj (hpath.symm.trans hsource))

/-- Whatever may be done with the entries, the plan with a file outside is converted with a script
folder that none of its inputs passes through. -/
theorem passes_planWithOutsideFile {σ τ : Session} (hworking : σ.disk.workingFolder = ["work"])
    (hworking' : τ.disk.workingFolder = ["work"])
    (hfiles : ((Plan.load "plan.jmx").outcome σ).1.toOption.map
        (fun root => (Plan.dataSets root).map DataSet.file) = some [some "../rows"])
    {p : Path} (hp : IsInput {} "plan.jmx" "out" σ p) {l : Location}
    (hl : IsScriptFolder {} "plan.jmx" "out" σ τ.disk l) : ¬ σ.disk.Passes p l := by
  obtain ⟨root, out, name, -, hout, -, -, rfl⟩ := hl
  rintro ⟨k, hk, hleads⟩
  obtain rfl := Disk.locate_eq_resolve hout.locate
    (fun part hpart => Path.isPart_of_mem_parse hpart) (.inr (hworking' ▸ isEntryName_work))
  have hcalled : k ∈ σ.disk.startOf p
      :: Storage.FileTree.stations (σ.disk.startOf p) p.parts :=
    List.mem_cons.mpr (hk.elim .inr fun hlocate =>
      Storage.FileTree.mem_stations_of_follow (Disk.follow_of_locate hlocate))
  -- a script folder lies deeper than anything that is called up
  have hshort : ∀ k ∈ σ.disk.startOf p :: Storage.FileTree.stations (σ.disk.startOf p) p.parts,
      k.length ≤ 2 := by
    rw [Disk.startOf, hworking]
    rcases eq_of_isInput_planWithOutsideFile hworking hfiles hp with rfl | rfl <;> decide
  have hfolder : ((Path.parse "out").resolve ["work"]).parts = ["work", "out"] := by decide
  have hlength := Nat.le_trans hleads.length_le (hshort k hcalled)
  rw [hworking', hfolder] at hlength
  simp at hlength

theorem files_planWithOutsideFile :
    ((Plan.load "plan.jmx").outcome planWithOutsideFile).1.toOption.map
        (fun root => (Plan.dataSets root).map DataSet.file)
      = some [some "../rows"] := by
  decide +kernel

theorem outcome_planWithOutsideFile : ∃ report τ,
    (convert {} "plan.jmx" "out").outcome planWithOutsideFile = (.ok report, τ)
      ∧ report.success = true ∧ τ.disk.workingFolder = ["work"] := by
  have hout : let x := (convert {} "plan.jmx" "out").outcome planWithOutsideFile
      x.1.toOption.map Report.success = some true ∧ x.2.disk.workingFolder = ["work"] := by
    decide +kernel
  rcases hx : (convert {} "plan.jmx" "out").outcome planWithOutsideFile with ⟨answer, τ⟩
  rw [hx] at hout
  obtain ⟨report, hanswer, hsuccess⟩ := Option.map_eq_some_iff.mp hout.1
  exact ⟨report, τ, Prod.ext (Job.eq_ok_of_toOption_eq_some hanswer) rfl, hsuccess, hout.2⟩

/-- All files may be written here, and so may their copies. -/
theorem convert_again_planWithOutsideFile : ∃ report τ ω,
    (convert {} "plan.jmx" "out").outcome planWithOutsideFile = (.ok report, τ)
      ∧ report.success = true ∧ Disk.KeepsWritable planWithOutsideFile.disk τ.disk
      ∧ (convert {} "plan.jmx" "out").outcome τ = (.ok report, ω)
      ∧ ω.disk.workingFolder = τ.disk.workingFolder
      ∧ ∀ l, τ.disk.tree.SameAt ω.disk.tree l := by
  obtain ⟨report, τ, hx, hsuccess, hworking⟩ := outcome_planWithOutsideFile
  have hapart : ∀ p, IsInput {} "plan.jmx" "out" planWithOutsideFile p →
      ∀ l, IsScriptFolder {} "plan.jmx" "out" planWithOutsideFile τ.disk l →
      ¬ planWithOutsideFile.disk.Passes p l := fun _ hp _ hl =>
    passes_planWithOutsideFile rfl hworking files_planWithOutsideFile hp hl
  have hwritable : Disk.KeepsWritable planWithOutsideFile.disk τ.disk :=
    keepsWritable_of_convert isEntryName_work hapart (fun _ _ _ _ => rfl) hx hsuccess
  obtain ⟨ω, hω⟩ := convert_again isEntryName_work hapart hwritable hx hsuccess rfl
  exact ⟨report, τ, ω, hx, hsuccess, hwritable, hω⟩

/-! ## A file that may not be written -/

/-- The same plan with a file that may be read only. -/
def planWithClosedFile : Session where
  disk := planWithOutsideFile.disk.setAccess ["rows"] { write := false }

/-- The second run cannot replace the copies of the first. -/
theorem outcome_planWithClosedFile : ∃ report τ,
    (convert {} "plan.jmx" "out").outcome planWithClosedFile = (.ok report, τ)
      ∧ report.success = true ∧ report.warnings = [] ∧ τ.disk.workingFolder = ["work"]
      ∧ ((convert {} "plan.jmx" "out").outcome τ).1.toOption.map Report.warnings = some
        ["Failed to copy /work/../rows to out/Script___/rows: "
            ++ "[Errno 13] Permission denied: 'out/Script___/rows'",
          "Failed to copy /work/../rows to out/Script___/rows.dat: "
            ++ "[Errno 13] Permission denied: 'out/Script___/rows.dat'"] := by
  have hout : let x := (convert {} "plan.jmx" "out").outcome planWithClosedFile
      x.1.toOption.map (fun report => (report.success, report.warnings)) = some (true, [])
        ∧ x.2.disk.workingFolder = ["work"]
        ∧ ((convert {} "plan.jmx" "out").outcome x.2).1.toOption.map Report.warnings = some
          ["Failed to copy /work/../rows to out/Script___/rows: "
              ++ "[Errno 13] Permission denied: 'out/Script___/rows'",
            "Failed to copy /work/../rows to out/Script___/rows.dat: "
              ++ "[Errno 13] Permission denied: 'out/Script___/rows.dat'"] := by
    decide +kernel
  rcases hx : (convert {} "plan.jmx" "out").outcome planWithClosedFile with ⟨answer, τ⟩
  rw [hx] at hout
  obtain ⟨hfirst, hworking, hsecond⟩ := hout
  obtain ⟨report, hanswer, hreport⟩ := Option.map_eq_some_iff.mp hfirst
  obtain ⟨hsuccess, hwarnings⟩ := Prod.mk.inj hreport
  exact ⟨report, τ, Prod.ext (Job.eq_ok_of_toOption_eq_some hanswer) rfl, hsuccess, hwarnings,
    hworking, hsecond⟩

theorem files_planWithClosedFile :
    ((Plan.load "plan.jmx").outcome planWithClosedFile).1.toOption.map
        (fun root => (Plan.dataSets root).map DataSet.file)
      = some [some "../rows"] := by
  decide +kernel

/-- Not every conversion that succeeds reports the same when it is run once more, even if the plan
and the files of the data sets lie outside its script folders. -/
theorem not_forall_convert_again :
    ¬ ∀ (options : Options) (jmxPath outputFolder : String) (σ τ : Session) (report : Report),
      (∀ name ∈ σ.disk.workingFolder, IsEntryName name) →
      (∀ p, IsInput options jmxPath outputFolder σ p →
        ∀ l, IsScriptFolder options jmxPath outputFolder σ τ.disk l → ¬ σ.disk.Passes p l) →
      (convert options jmxPath outputFolder).outcome σ = (.ok report, τ) →
      report.success = true →
      ∃ ω, (convert options jmxPath outputFolder).outcome τ = (.ok report, ω)
        ∧ ω.disk.workingFolder = τ.disk.workingFolder
        ∧ ∀ l, ω.disk.tree.get? l = τ.disk.tree.get? l := by
  intro hall
  obtain ⟨report, τ, hfirst, hsuccess, hwarnings, hworking, hsecond⟩ := outcome_planWithClosedFile
  obtain ⟨ω, hagain, -⟩ := hall {} "plan.jmx" "out" planWithClosedFile τ report isEntryName_work
    (fun _ hp _ hl => passes_planWithOutsideFile rfl hworking files_planWithClosedFile hp hl)
    hfirst hsuccess
  rw [hagain] at hsecond
  have hnone : some report.warnings = some [] := congrArg some hwarnings
  exact List.cons_ne_nil _ _ (Option.some.inj (hsecond.symm.trans hnone))

end VuserScript.Conversion
