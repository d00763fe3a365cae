/-
  VuserScript.Proofs.Conversion.Bundles

  What is in the folders of the scripts that a conversion reports. Each of them
  holds the files of its script, with the texts that belong to its action and to
  its report, whatever the data files that are copied there are called. Neither
  later thread groups nor a problem with one of them change anything in it.
-/
import VuserScript.Proofs.Conversion.Beginnings
import VuserScript.Proofs.Conversion.DataCopies

namespace VuserScript.Conversion

open Plan (DataSet Group)
open Script (ParameterSet)
open Storage (Disk IsEntryName IsInside Location Path lastNamed)

/-! ## What copies and files change -/

section

variable {folder source : Path} {l : Location} {s : DataSource} {d e : Disk}
  {folders : Location → Prop}

theorem CopiedTo.grownTo {targets : List Path} {warnings : List String}
    (h : CopiedTo source targets d warnings e) (hsource : IsRooted source)
    (htargets : ∀ target ∈ targets, IsEntryName source.name →
      ∃ name, IsEntryName name ∧ target = folder.child name)
    (hfolder : d.LeadsTo folder l) : Disk.GrownTo (IsInside l) folders d e := by
  induction targets generalizing d warnings with
  | nil =>
    obtain ⟨rfl, -⟩ := h
    exact .refl _ _ d
  | cons target targets ih =>
    obtain ⟨c, first, others, hfirst, hothers, -⟩ := h
    have hgrown : Disk.GrownTo (IsInside l) folders d c :=
      hfirst.grownTo hsource (htargets target (.head _)) hfolder
    exact hgrown.trans (ih hothers (fun other hmem => htargets other (.tail _ hmem))
      (hgrown.leadsTo hfolder))

/-- Bringing data files into a folder changes nothing outside of it, also if copies fail. -/
theorem Placed.grownTo {dataSets : List DataSet} {sets : List ParameterSet}
    {warnings : List String} (h : Placed s folder dataSets d sets warnings e)
    (hs : IsRooted s.folder) (hfolder : d.LeadsTo folder l) :
    Disk.GrownTo (IsInside l) folders d e := by
  induction h with
  | nil => exact .refl _ _ _
  | unnamed path others ih => exact ih hfolder
  | missing path absent others ih => exact ih hfolder
  | @found dataSet rest source sets own warnings c d e path present copies others ih =>
    have hgrown : Disk.GrownTo (IsInside l) folders _ _ :=
      copies.grownTo (isRooted_of_path? hs path) (fun _ => exists_child_of_mem_targets) hfolder
    exact hgrown.trans (ih (hgrown.leadsTo hfolder))

/-- Files that are written under different names are all there in the end. -/
theorem Written.holds {files : List (String × String)} (h : Written folder files d e)
    (hfolder : d.LeadsTo folder l) (hnames : ∀ name ∈ files.map Prod.fst, IsEntryName name)
    (hnodup : (files.map Prod.fst).Nodup) :
    ∀ file ∈ files, e.Holds (folder.child file.1) file.2.toUTF8 := by
  induction files generalizing d with
  | nil => nofun
  | cons file files ih =>
    obtain ⟨c, hwrite, hrest⟩ := h
    obtain ⟨hother, hnodup⟩ := List.nodup_cons.mp hnodup
    have hname : IsEntryName file.1 := hnames _ (.head _)
    have hnames' : ∀ name ∈ files.map Prod.fst, IsEntryName name := fun name hmem =>
      hnames name (.tail _ hmem)
    have hput := hfolder.deposits_of_write hname hwrite
    have hfolder' := hput.grown.leadsTo hfolder
    refine List.forall_mem_cons.mpr ⟨?_, ih hrest hfolder' hnames' hnodup⟩
    -- the file was written, so no folder was there, and no later file has its name
    obtain ⟨k, hk, hno, -⟩ := Disk.write_eq_ok.mp hwrite
    obtain rfl := hfolder.locate_child hname hk
    have hlast : lastNamed file.1 (encoded files) = none := by
      refine Storage.lastNamed_eq_none ?_
      rwa [encoded, List.map_map]
    have hputs := hput.trans (hrest.deposits hfolder' hnames')
    rw [hputs.holds_iff (.head _)]
    refine ⟨hno, ?_⟩
    rw [Storage.lastNamed_append, hlast, Storage.lastNamed_singleton_self]
    rfl

end

/-! ## Scripts -/

/-- The folder of a script holds its files: those that are the same for all scripts, the settings
and the list of parameters for the reported sets, the action, and the summary of the report. -/
def HoldsScript (e : Disk) (action : Script.Outcome) (r : GroupReport) : Prop :=
  let folder := Path.parse r.folder
  ∀ file ∈ scriptFiles r.parameterSets action.lines
      (logText (folder.resolve e.workingFolder).text r),
    e.Holds (folder.child file.1) file.2.toUTF8

theorem HoldsScript.of_sameFolder {d e : Disk} {action : Script.Outcome} {r : GroupReport}
    (h : HoldsScript d action r) (hsame : Disk.SameFolder (Path.parse r.folder) d e)
    (hworking : e.workingFolder = d.workingFolder) : HoldsScript e action r := by
  intro file hfile
  have hname : file.1 ∈ scriptFileNames := by
    rw [← scriptFiles_map_fst]
    exact List.mem_map_of_mem hfile
  rw [hworking] at hfile
  exact hsame.holds (isEntryName_of_mem_scriptFileNames hname) (h file hfile)

section

variable {s : Setting} {p : Progress} {out : Location}

/-- A converted thread group has its script in a folder of its own in the output folder. -/
theorem Converted.bundled {q : Progress} {g : Group} {d e : Disk} {x : Stages} {r : GroupReport}
    (h : Converted s p g d x r q e) (hs : IsRooted s.source.folder)
    (houtput : ∀ part ∈ s.outputFolder.parts, Path.IsPart part)
    (hout : d.LeadsTo s.outputFolder out) :
    e.LeadsTo (Path.parse r.folder) (out ++ [s.scriptName p g]) ∧ HoldsScript e x.action r := by
  have hparse : Path.parse r.folder = s.groupFolder p g := by
    rw [h.folder, parse_text_groupFolder houtput]
  have hmakes := h.makes
  rw [groupFolder_eq] at hmakes
  have hmade := hout.child_of_ensureFolders (isEntryName_scriptName s p g) hmakes
  rw [← groupFolder_eq, ← hparse] at hmade
  have hplaces := h.places
  have hwrites := h.writes
  rw [← hparse] at hplaces hwrites
  have hgrown : Disk.GrownTo (IsInside (out ++ [s.scriptName p g])) (fun _ => False) x.made
      x.placed :=
    hplaces.grownTo hs hmade
  have hplaced := hgrown.leadsTo hmade
  have hnames : ∀ name ∈ (scriptFiles r.parameterSets x.action.lines
      (logText ((Path.parse r.folder).resolve e.workingFolder).text r)).map Prod.fst,
      IsEntryName name := fun name hname =>
    isEntryName_of_mem_scriptFileNames (scriptFiles_map_fst _ _ _ ▸ hname)
  have hwritten := hwrites.deposits hplaced hnames
  refine ⟨hwritten.grown.leadsTo hplaced, ?_⟩
  exact hwrites.holds hplaced hnames (by rw [scriptFiles_map_fst]; decide)

variable {groups : List Group} {σ τ : Session} {reports : List GroupReport}
  {problem : Option Problem}

/-- The folders of the scripts of a run are in the output folder, under the names that are made for
the thread groups. -/
theorem Runs.leadsTo (h : Runs s p groups σ reports problem τ) (hs : IsRooted s.source.folder)
    (houtput : ∀ part ∈ s.outputFolder.parts, Path.IsPart part)
    (hout : σ.disk.LeadsTo s.outputFolder out) :
    ∀ r ∈ reports, ∃ name ∈ scriptNames s.options.scriptPrefix p groups,
      τ.disk.LeadsTo (Path.parse r.folder) (out ++ [name]) := by
  induction h with
  | done => nofun
  | stopped stop => nofun
  | @next p q g groups r reports problem σ τ υ first others ih =>
    obtain ⟨x, hx⟩ := converted_of_ok first
    have hout' := (grownTo_of_convertGroup first hs hout).leadsTo hout
    have hlater := others.grownTo hs hout'
    rw [hx.scriptNames_cons]
    refine List.forall_mem_cons.mpr ⟨⟨_, .head _, ?_⟩, fun r hr => ?_⟩
    · exact hlater.leadsTo (hx.bundled hs houtput hout).1
    · obtain ⟨name, hname, hleads⟩ := ih hout' r hr
      exact ⟨name, .tail _ hname, hleads⟩

/-- What is in the folder of a script stays as it is while other thread groups are converted. -/
theorem Runs.sameFolder {folder : Path} {name : String} (h : Runs s p groups σ reports problem τ)
    (hs : IsRooted s.source.folder) (hout : σ.disk.LeadsTo s.outputFolder out)
    (hfolder : σ.disk.LeadsTo folder (out ++ [name]))
    (hname : name ∉ scriptNames s.options.scriptPrefix p groups) :
    Disk.SameFolder folder σ.disk τ.disk := by
  have hgrown := h.grownTo hs hout
  exact ⟨out ++ [name], hfolder, hgrown.leadsTo hfolder, hgrown.sameFrom hname⟩

/-- In the end the folders of all finished thread groups hold their scripts. -/
theorem Runs.holdsScripts (h : Runs s p groups σ reports problem τ) (hs : IsRooted s.source.folder)
    (houtput : ∀ part ∈ s.outputFolder.parts, Path.IsPart part)
    (hout : σ.disk.LeadsTo s.outputFolder out) :
    List.Forall₂ (HoldsScript τ.disk)
      ((actionsOf s.options.enableCorrelation p.names groups).take reports.length) reports := by
  induction h with
  | done => exact .nil
  | stopped stop => exact .nil
  | @next p q g groups r reports problem σ τ υ first others ih =>
    obtain ⟨x, hx⟩ := converted_of_ok first
    have hout' := (grownTo_of_convertGroup first hs hout).leadsTo hout
    obtain ⟨hleads, hholds⟩ := hx.bundled hs houtput hout
    have hsame := others.sameFolder hs hout' hleads (hx.folderName_not_mem groups)
    rw [actionsOf, ← hx.action, List.length_cons, List.take_succ_cons]
    exact .cons (hholds.of_sameFolder hsame (others.grownTo hs hout').workingFolder) (ih hout')

/-- The folders of the first scripts of a run are left as they were behind these. -/
theorem Runs.keeps_first {k : Nat} (h : Runs s p groups σ reports problem τ)
    (hs : IsRooted s.source.folder) (houtput : ∀ part ∈ s.outputFolder.parts, Path.IsPart part)
    (hout : σ.disk.LeadsTo s.outputFolder out) (hk : k ≤ reports.length) :
    ∃ υ, Runs s p (groups.take k) σ (reports.take k) none υ
      ∧ ∀ r ∈ reports.take k, Disk.SameFolder (Path.parse r.folder) υ.disk τ.disk := by
  obtain ⟨q, υ, hfirst, hrest, hnames⟩ := h.split hk
  have hout' := (hfirst.grownTo hs hout).leadsTo hout
  refine ⟨υ, hfirst, fun r hr => ?_⟩
  obtain ⟨name, hname, hleads⟩ := hfirst.leadsTo hs houtput hout r hr
  rw [scriptNames_take] at hname
  exact hrest.sameFolder hs hout' hleads (hnames ▸ not_mem_drop_scriptNames hname)

end

/-! ## Conversions -/

/-- A conversion that answers with a report, be it a success or not, leaves in the folder of each
script that it lists the files of this script, as the report tells of it: the action is that of its
thread group, with the names that are left by the groups before. And in the folders of the first
scripts, however many, everything is as it was when these were finished: no later thread group
changes it, and no problem with one. -/
theorem convert_keeps_scripts {options : Options} {jmxPath outputFolder : String} {σ : Session}
    {report : Report} (hworking : ∀ name ∈ σ.disk.workingFolder, IsEntryName name)
    (h : ((convert options jmxPath outputFolder).outcome σ).1 = .ok report) :
    let e := ((convert options jmxPath outputFolder).outcome σ).2.disk
    List.Forall₂ (HoldsScript e)
        ((actionsOf options.enableCorrelation {} (plannedGroups jmxPath σ)).take
          report.scripts.length)
        report.scripts
      ∧ ∀ k < report.scripts.length,
        let first := (convertFirst (k + 1) options jmxPath outputFolder).outcome σ
        first.1 = .ok (report.scripts.take (k + 1), none)
          ∧ ∀ r ∈ report.scripts.take (k + 1),
            Disk.SameFolder (Path.parse r.folder) first.2.disk e := by
  intro e
  rcases convert_cases options jmxPath outputFolder σ with ⟨problem, τ, -, hconvert⟩
    | ⟨groups, setting, warnings, τ, scripts, problem, υ, hprepare, hruns, hconvert⟩
  · rw [hconvert] at h
    rw [finish_eq_ok h rfl]
    exact ⟨.nil, nofun⟩
  · have he : e = υ.disk := by
      simp only [e, hconvert, finish_outcome_disk]
    rw [hconvert] at h
    rw [he, finish_eq_ok h rfl]
    obtain ⟨out, hbegun⟩ := begun_of_prepare hworking hprepare
    have houtput : ∀ part ∈ setting.outputFolder.parts, Path.IsPart part := fun part hpart =>
      Path.isPart_of_mem_parse (hbegun.folder ▸ hpart)
    have hholds := hruns.holdsScripts hbegun.rooted houtput hbegun.leads
    rw [hbegun.options, ← hbegun.groups] at hholds
    refine ⟨hholds, fun k hk => ?_⟩
    obtain ⟨ρ, hfirst, hkept⟩ := hruns.keeps_first hbegun.rooted houtput hbegun.leads hk
    rw [convertFirst_eq_ok hprepare hfirst]
    exact ⟨rfl, hkept⟩

/-- Of the plan whose second thread group cannot be converted, the first script is there. -/
theorem convert_keeps_scripts_planWithBlockedFolder : ∃ report,
    ((convert {} "plan.jmx" "out").outcome planWithBlockedFolder).1 = .ok report
      ∧ report.scripts.map GroupReport.name = ["A"]
      ∧ let e := ((convert {} "plan.jmx" "out").outcome planWithBlockedFolder).2.disk
        List.Forall₂ (HoldsScript e)
            ((actionsOf true {} (plannedGroups "plan.jmx" planWithBlockedFolder)).take
              report.scripts.length)
            report.scripts
          ∧ ∀ k < report.scripts.length,
            let first := (convertFirst (k + 1) {} "plan.jmx" "out").outcome planWithBlockedFolder
            first.1 = .ok (report.scripts.take (k + 1), none)
              ∧ ∀ r ∈ report.scripts.take (k + 1),
                Disk.SameFolder (Path.parse r.folder) first.2.disk e := by
  obtain ⟨report, hreport, hscripts⟩ := Option.map_eq_some_iff.mp outcome_planWithBlockedFolder
  have hconverted := Job.eq_ok_of_toOption_eq_some hreport
  exact ⟨report, hconverted, congrArg Prod.fst hscripts, convert_keeps_scripts nofun hconverted⟩

end VuserScript.Conversion
