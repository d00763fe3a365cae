/-
  VuserScript.Proofs.Conversion.Confinement

  What a conversion may change, however it ends. Files are made or changed only
  inside the script folders of the run, each of which lies in the output folder
  under the name that is made for a thread group. Besides these, only folders
  along the path of the output folder are made. Nothing is removed.
-/
import VuserScript.Proofs.Conversion.FolderNames
import VuserScript.Proofs.Conversion.Steps
import VuserScript.Proofs.Storage.Growth

namespace VuserScript.Conversion

open Plan (DataSet Group)
open Script (ParameterSet)
open Storage (Disk Grown IsEntryName IsInside Location Path)

/-! ## Where data files come from -/

/-- A path from a root whose parts are those of a written path. -/
structure IsRooted (p : Path) : Prop where
  absolute : p.isAbsolute = true
  parts : ∀ part ∈ p.parts, Path.IsPart part

theorem IsRooted.join_parse {folder : Path} (h : IsRooted folder) (name : String) :
    IsRooted (folder.join (Path.parse name)) := by
  unfold Path.join
  split
  · next habs => exact ⟨habs, fun part hpart => Path.isPart_of_mem_parse hpart⟩
  · refine ⟨h.absolute, fun part hpart => ?_⟩
    rcases List.mem_append.mp hpart with hpart | hpart
    · exact h.parts part hpart
    · exact Path.isPart_of_mem_parse hpart

theorem IsRooted.isEntryName_of_read {p : Path} {d : Disk} {bytes : ByteArray} (h : IsRooted p)
    (hread : d.read p = .ok bytes) : IsEntryName p.name :=
  Disk.isEntryName_of_read hread h.absolute fun part hpart => (h.parts part hpart).no_slash

theorem isRooted_of_path? {s : DataSource} {dataSet : DataSet} {source : Path}
    (hs : IsRooted s.folder) (h : s.path? dataSet = some source) : IsRooted source := by
  unfold DataSource.path? at h
  obtain ⟨name, -, h⟩ := Option.bind_eq_some_iff.mp h
  split at h
  · cases h
  · cases h
    exact hs.join_parse name

/-- The folder that files of data sets are looked up in, if the working folder has a proper
location. -/
theorem isRooted_settingOf {options : Options} {jmxPath : String} {outputFolder : Path}
    {root : Xml.Element} {d : Disk} (h : ∀ name ∈ d.workingFolder, IsEntryName name) :
    IsRooted (settingOf options (Path.parse jmxPath) outputFolder root d).source.folder := by
  refine ⟨rfl, fun part hpart => ?_⟩
  rcases Path.mem_resolve (List.dropLast_subset _ hpart) with hpart | hpart
  · exact Path.isPart_of_isEntryName (h part hpart)
  · exact Path.isPart_of_mem_parse hpart

/-! ## In a script folder -/

section

variable {folder : Path} {l : Location} {folders : Location → Prop}

/-- Writing a file into a folder that is there changes nothing outside the folder. -/
theorem ensures_writeFile {name : String} (hname : IsEntryName name) (text : String) :
    Job.Ensures (Disk.LeadsTo folder l) (Disk.GrownTo (IsInside l) folders)
      (writeFile folder name text) (Disk.LeadsTo folder l) := by
  intro σ hfolder
  have hgrown : Disk.GrownTo (IsInside l) folders σ.disk
      ((writeFile folder name text).outcome σ).2.disk := by
    simp only [writeFile, Job.outcome_bind, Job.outcome_disk]
    cases hwrite : σ.disk.write (folder.child name) text.toUTF8 with
    | ok e => exact hfolder.write_child hname hwrite
    | error trouble =>
      obtain ⟨p, hp⟩ := Job.outcome_orTrouble_error (α := Disk)
        (.scriptFile (folder.child name).text) trouble σ
      rw [hp]
      exact .refl _ _ _
  exact ⟨hgrown, fun _ _ => hgrown.leadsTo hfolder⟩

/-- Copying a file to a name in the folder changes nothing outside the folder either. The target is
of this kind only if the file has a name, but else there is nothing to be copied. -/
theorem grownTo_of_copy {source target : Path} {d e : Disk} (hsource : IsRooted source)
    (htarget : IsEntryName source.name → ∃ name, IsEntryName name ∧ target = folder.child name)
    (hfolder : d.LeadsTo folder l) (hcopy : d.copy source target = .ok e) :
    Disk.GrownTo (IsInside l) folders d e := by
  obtain ⟨bytes, _, _, _, hread, -⟩ := Disk.copy_eq_ok hcopy
  have hname := hsource.isEntryName_of_read hread
  obtain ⟨name, hentry, rfl⟩ := htarget hname
  exact hfolder.copy_child hentry hname hcopy

theorem Copied.grownTo {source target : Path} {warnings : List String} {d e : Disk}
    (h : Copied source target d warnings e) (hsource : IsRooted source)
    (htarget : IsEntryName source.name → ∃ name, IsEntryName name ∧ target = folder.child name)
    (hfolder : d.LeadsTo folder l) : Disk.GrownTo (IsInside l) folders d e := by
  rcases h with ⟨hcopy, -⟩ | ⟨_, -, rfl, -⟩
  · exact grownTo_of_copy hsource htarget hfolder hcopy
  · exact .refl _ _ _

theorem ensures_copyFile {source target : Path} (hsource : IsRooted source)
    (htarget : IsEntryName source.name → ∃ name, IsEntryName name ∧ target = folder.child name) :
    Job.Ensures (Disk.LeadsTo folder l) (Disk.GrownTo (IsInside l) folders)
      (copyFile source target) (Disk.LeadsTo folder l) := by
  intro σ hfolder
  have hgrown : Disk.GrownTo (IsInside l) folders σ.disk
      ((copyFile source target).outcome σ).2.disk := by
    simp only [copyFile, Job.outcome_bind, Job.outcome_disk]
    cases hcopy : σ.disk.copy source target with
    | ok e => exact grownTo_of_copy hsource htarget hfolder hcopy
    | error trouble => cases trouble <;> exact .refl _ _ _
  exact ⟨hgrown, fun _ _ => hgrown.leadsTo hfolder⟩

theorem ensures_place {s : DataSource} (hs : IsRooted s.folder) (dataSet : DataSet) :
    Job.Ensures (Disk.LeadsTo folder l) (Disk.GrownTo (IsInside l) folders)
      (s.place folder dataSet) (Disk.LeadsTo folder l) := by
  have htrans : ∀ {c d e : Disk}, Disk.GrownTo (IsInside l) folders c d →
      Disk.GrownTo (IsInside l) folders d e → Disk.GrownTo (IsInside l) folders c e :=
    Disk.GrownTo.trans
  have hsame : ∀ {α : Type} {x : Job α}, (∀ σ, (x.outcome σ).2.disk = σ.disk) →
      Job.Ensures (Disk.LeadsTo folder l) (Disk.GrownTo (IsInside l) folders) x
        (Disk.LeadsTo folder l) := .of_same (.refl _ _)
  unfold DataSource.place
  cases hpath : s.path? dataSet with
  | none => exact hsame fun _ => rfl
  | some source =>
    have hsource := isRooted_of_path? hs hpath
    -- a source without a name cannot be read, so the targets matter only if it has one
    have hchild : IsEntryName source.name → (folder.join (Path.parse source.name))
        = folder.child source.name := fun h => Path.join_parse_of_isEntryName h folder
    refine .bind htrans (hsame fun _ => rfl) fun disk => ?_
    refine .bind htrans (.orTrouble (.refl _ _) _ _) fun isThere => ?_
    cases isThere with
    | false => exact .bind htrans (.orTrouble (.refl _ _) _ _) fun _ => hsame fun _ => rfl
    | true =>
      refine .bind htrans (ensures_copyFile hsource fun h => ⟨_, h, hchild h⟩) fun copied => ?_
      simp only [DataSource.parameterSet]
      cases s.writeDatFiles with
      | false => exact hsame fun _ => rfl
      | true =>
        refine .bind htrans (ensures_copyFile hsource fun h => ?_) fun _ => hsame fun _ => rfl
        rw [hchild h, Path.name_child]
        have hdat := Storage.isEntryName_datName h
        exact ⟨_, hdat, Path.join_parse_of_isEntryName hdat folder⟩

theorem ensures_placeAll {s : DataSource} (hs : IsRooted s.folder) (dataSets : List DataSet) :
    Job.Ensures (Disk.LeadsTo folder l) (Disk.GrownTo (IsInside l) folders)
      (s.placeAll folder dataSets) (Disk.LeadsTo folder l) := by
  induction dataSets with
  | nil => exact .of_same (.refl _ _) fun _ => rfl
  | cons dataSet rest ih =>
    refine .bind Disk.GrownTo.trans (ensures_place hs dataSet) fun placed => ?_
    exact .bind Disk.GrownTo.trans ih fun _ => .of_same (.refl _ _) fun _ => rfl

theorem isEntryName_of_mem_scriptFileNames {name : String} (h : name ∈ scriptFileNames) :
    IsEntryName name := by
  have hnames : ∀ name ∈ scriptFileNames,
      name ≠ "" ∧ name ≠ "." ∧ name ≠ ".." ∧ '/' ∉ name.toList := by decide
  obtain ⟨hempty, hdot, hdots, hslash⟩ := hnames name h
  exact ⟨hempty, hdot, hdots, hslash⟩

end

/-! ## Thread groups -/

theorem ensures_makeFolders_child (p : Path) (out : Location) (what : String) {name : String}
    (hname : IsEntryName name) :
    Job.Ensures (Disk.LeadsTo p out)
      (Disk.GrownTo (IsInside (out ++ [name])) (· = out ++ [name]))
      (makeFolders what (p.child name)) (Disk.LeadsTo (p.child name) (out ++ [name])) := by
  intro σ hp
  have hgrown : Disk.GrownTo (IsInside (out ++ [name])) (· = out ++ [name]) σ.disk
      ((makeFolders what (p.child name)).outcome σ).2.disk := by
    rw [makeFolders_outcome_disk]
    exact (hp.ensureFolders_child hname).mono nofun fun _ h _ => h
  exact ⟨hgrown, fun u hu =>
    hp.child_of_ensureFolders hname (makeFolders_eq_ok (Prod.ext hu rfl))⟩

theorem isEntryName_scriptName (s : Setting) (p : Progress) (g : Group) :
    IsEntryName (s.scriptName p g) :=
  isEntryName_folderName _ _ (group_name_ne_empty g p.number)

theorem groupFolder_eq (s : Setting) (p : Progress) (g : Group) :
    s.groupFolder p g = s.outputFolder.child (s.scriptName p g) :=
  Path.join_parse_of_isEntryName (isEntryName_scriptName s p g) s.outputFolder

/-- Converting a thread group changes nothing outside the folder of its script. -/
theorem ensures_convertGroup {s : Setting} (hs : IsRooted s.source.folder) (p : Progress)
    (g : Group) (out : Location) :
    Job.Ensures (Disk.LeadsTo s.outputFolder out)
      (Disk.GrownTo (IsInside (out ++ [s.scriptName p g])) (· = out ++ [s.scriptName p g]))
      (convertGroup s p g) fun _ => True := by
  have hmake := ensures_makeFolders_child s.outputFolder out "script directory"
    (isEntryName_scriptName s p g)
  have hfolder : s.outputFolder.join
      (Path.parse (folderName s.options.scriptPrefix p.taken (g.name p.number)))
      = s.outputFolder.child (s.scriptName p g) := groupFolder_eq s p g
  unfold convertGroup
  simp only [hfolder]
  generalize s.outputFolder.child (s.scriptName p g) = folder at hmake ⊢
  generalize out ++ [s.scriptName p g] = l at hmake ⊢
  have htrans : ∀ {c d e : Disk}, Disk.GrownTo (IsInside l) (· = l) c d →
      Disk.GrownTo (IsInside l) (· = l) d e → Disk.GrownTo (IsInside l) (· = l) c e :=
    Disk.GrownTo.trans
  have hsame : ∀ {α : Type} {x : Job α}, (∀ σ, (x.outcome σ).2.disk = σ.disk) →
      Job.Ensures (Disk.LeadsTo folder l) (Disk.GrownTo (IsInside l) (· = l)) x
        (Disk.LeadsTo folder l) := .of_same (.refl _ _)
  have hwrite : ∀ {name : String}, name ∈ scriptFileNames → ∀ text : String,
      Job.Ensures (Disk.LeadsTo folder l) (Disk.GrownTo (IsInside l) (· = l))
        (writeFile folder name text) (Disk.LeadsTo folder l) := fun h =>
    ensures_writeFile (isEntryName_of_mem_scriptFileNames h)
  -- the steps one by one: each writes into the folder, or changes no files
  refine .bind htrans hmake fun _ => .bind htrans (hsame fun _ => rfl) fun _ => ?_
  refine .bind htrans (ensures_placeAll hs s.dataSets) fun placed => ?_
  refine .bind htrans
    (.bind htrans (hwrite (by decide) _) fun _ => hwrite (by decide) _) fun _ => ?_
  refine .bind htrans
    (.bind htrans (hwrite (by decide) _) fun _ => hwrite (by decide) _) fun _ => ?_
  refine .bind htrans (hsame fun σ => ?_) fun bareWarnings => ?_
  · unfold warnIfBare
    cases g.items <;> rfl
  refine .bind htrans (hsame fun _ => rfl) fun _ => .bind htrans (hwrite (by decide) _) fun _ => ?_
  refine .bind htrans (.bind htrans (hsame fun _ => rfl) fun _ => hwrite (by decide) _) fun _ => ?_
  exact (hsame fun _ => rfl).mono (fun _ h => h) (fun _ _ h => h) fun _ _ => trivial

theorem grownTo_of_convertGroup {s : Setting} {p : Progress} {g : Group} {σ τ : Session}
    {result : Except Problem (GroupReport × Progress)} {out : Location}
    (h : (convertGroup s p g).outcome σ = (result, τ)) (hs : IsRooted s.source.folder)
    (hout : σ.disk.LeadsTo s.outputFolder out) :
    Disk.GrownTo (IsInside (out ++ [s.scriptName p g])) (· = out ++ [s.scriptName p g])
      σ.disk τ.disk := by
  have hgrown := (ensures_convertGroup hs p g out σ hout).1
  rwa [h] at hgrown

/-! ## Runs -/

/-- The names of the script folders for thread groups, from where a run has come to. -/
def scriptNames (scriptPrefix : String) (p : Progress) (groups : List Group) : List String :=
  folderNames scriptPrefix p.taken (groups.mapIdx fun index g => g.name (p.number + index))

theorem scriptNames_cons (scriptPrefix : String) (p : Progress) (g : Group) (groups : List Group) :
    scriptNames scriptPrefix p (g :: groups)
      = folderName scriptPrefix p.taken (g.name p.number)
        :: scriptNames scriptPrefix
          ⟨p.names, folded (folderName scriptPrefix p.taken (g.name p.number)) :: p.taken,
            p.number + 1⟩ groups := by
  simp only [scriptNames, List.mapIdx_cons, folderNames, Nat.add_zero]
  simp only [Nat.add_assoc, Nat.add_comm 1]

theorem Converted.scriptNames_cons {s : Setting} {p q : Progress} {g : Group} {d e : Disk}
    {x : Stages} {r : GroupReport} (h : Converted s p g d x r q e) (groups : List Group) :
    scriptNames s.options.scriptPrefix p (g :: groups)
      = s.scriptName p g :: scriptNames s.options.scriptPrefix q groups := by
  rw [Conversion.scriptNames_cons]
  simp only [scriptNames, h.taken, h.number, Setting.scriptName]

theorem isEntryName_of_mem_scriptNames {scriptPrefix name : String} {p : Progress}
    {groups : List Group} (h : name ∈ scriptNames scriptPrefix p groups) : IsEntryName name := by
  induction groups generalizing p with
  | nil => cases h
  | cons g groups ih =>
    rw [scriptNames_cons] at h
    rcases List.mem_cons.mp h with rfl | h
    · exact isEntryName_folderName _ _ (group_name_ne_empty g p.number)
    · exact ih h

/-- A run changes nothing outside the script folders of its thread groups. -/
theorem Runs.grownTo {s : Setting} {p : Progress} {groups : List Group} {σ τ : Session}
    {reports : List GroupReport} {problem : Option Problem} {out : Location}
    (h : Runs s p groups σ reports problem τ) (hs : IsRooted s.source.folder)
    (hout : σ.disk.LeadsTo s.outputFolder out) :
    Disk.GrownTo
      (fun l => ∃ name ∈ scriptNames s.options.scriptPrefix p groups, IsInside (out ++ [name]) l)
      (fun l => ∃ name ∈ scriptNames s.options.scriptPrefix p groups, l = out ++ [name])
      σ.disk τ.disk := by
  induction h with
  | done => exact .refl _ _ _
  | @stopped p g groups problem σ τ stop =>
    have hgrown := grownTo_of_convertGroup stop hs hout
    rw [scriptNames_cons]
    exact hgrown.mono (fun l hl => ⟨_, .head _, hl⟩) fun l hl _ => ⟨_, .head _, hl⟩
  | @next p q g groups r reports problem σ τ υ first others ih =>
    have hgrown := grownTo_of_convertGroup first hs hout
    obtain ⟨x, hx⟩ := converted_of_ok first
    rw [hx.scriptNames_cons]
    refine (hgrown.mono ?_ ?_).trans ((ih (hgrown.leadsTo hout)).mono ?_ ?_)
    · exact fun l hl => ⟨_, .head _, hl⟩
    · exact fun l hl _ => ⟨_, .head _, hl⟩
    · exact fun l ⟨name, hname, hl⟩ => ⟨name, .tail _ hname, hl⟩
    · exact fun l ⟨name, hname, hl⟩ _ => ⟨name, .tail _ hname, hl⟩

/-! ## Conversions -/

/-- A disk that has become another one in which there are folders along a path. -/
def MadeAlong (p : Path) (d e : Disk) : Prop :=
  Disk.GrownTo (fun _ => False) (e.AlongPath p.root p.parts) d e

theorem MadeAlong.refl (p : Path) (d : Disk) : MadeAlong p d d :=
  Disk.GrownTo.refl _ _ d

theorem MadeAlong.trans {p : Path} {c d e : Disk} (h : MadeAlong p c d) (h' : MadeAlong p d e) :
    MadeAlong p c e :=
  (Disk.GrownTo.mono h (fun _ h => h) fun _ hl _ => hl.of_grownTo h').trans h'

/-- The beginning of a run makes folders along the path of the output folder only. -/
theorem ensures_prepare (options : Options) (jmxPath outputFolder : Path) :
    Job.Ensures (fun _ => True) (MadeAlong outputFolder) (prepare options jmxPath outputFolder)
      fun _ => True := by
  have hsame : ∀ {α : Type} {x : Job α}, (∀ σ, (x.outcome σ).2.disk = σ.disk) →
      Job.Ensures (fun _ => True) (MadeAlong outputFolder) x fun _ => True :=
    .of_same (MadeAlong.refl outputFolder)
  have hmake : Job.Ensures (fun _ => True) (MadeAlong outputFolder)
      (makeFolders "output directory" outputFolder) fun _ => True := by
    intro σ _
    rw [makeFolders_outcome_disk]
    exact ⟨Disk.grownTo_of_ensureFolders σ.disk outputFolder, fun _ _ => trivial⟩
  unfold prepare
  refine .bind MadeAlong.trans (hsame fun σ => ?_) fun root =>
    .bind MadeAlong.trans hmake fun _ => ?_
  · rw [load_outcome_snd]
  · exact .bind MadeAlong.trans (hsame fun _ => rfl) fun _ =>
      .bind MadeAlong.trans (hsame fun _ => rfl) fun _ => hsame fun _ => rfl

/-- The folders of the scripts of a conversion, on the disk as it is in the end: each lies in the
output folder itself, under the name that is made for a thread group of the plan. -/
def IsScriptFolder (options : Options) (jmxPath outputFolder : String) (σ : Session) (e : Disk)
    (l : Location) : Prop :=
  ∃ root out name, (Plan.load (Path.parse jmxPath).text).outcome σ = (.ok root, σ)
    ∧ e.LeadsTo (Path.parse outputFolder) out
    ∧ name ∈ scriptNames options.scriptPrefix {} (Plan.groups root) ∧ IsEntryName name
    ∧ l = out ++ [name]

/-- Whatever comes of a conversion, a report or a problem that stops it: the files that it makes or
changes lie inside the script folders of the run, the folders that it makes are these and those
along the path of the output folder, and everything else is as it was. The working folder need
only be at a location that a folder can have. -/
theorem convert_confined (options : Options) (jmxPath outputFolder : String) (σ : Session)
    (h : ∀ name ∈ σ.disk.workingFolder, IsEntryName name) :
    let e := ((convert options jmxPath outputFolder).outcome σ).2.disk
    Disk.GrownTo
      (fun l => ∃ script, IsScriptFolder options jmxPath outputFolder σ e script
        ∧ IsInside script l)
      (fun l => IsScriptFolder options jmxPath outputFolder σ e l
        ∨ e.AlongPath (Path.parse outputFolder).root (Path.parse outputFolder).parts l)
      σ.disk e := by
  intro e
  have hprepared := (ensures_prepare options (Path.parse jmxPath) (Path.parse outputFolder) σ
    trivial).1
  rcases convert_cases options jmxPath outputFolder σ with ⟨problem, τ, hprepare, hconvert⟩
    | ⟨groups, setting, warnings, τ, scripts, problem, υ, hprepare, hruns, hconvert⟩
  · have he : e = τ.disk := by
      simp only [e, hconvert, finish_outcome_disk]
    rw [hprepare] at hprepared
    rw [he]
    exact Disk.GrownTo.mono hprepared nofun fun _ hl _ => .inr hl
  · have he : e = υ.disk := by
      simp only [e, hconvert, finish_outcome_disk]
    rw [hprepare] at hprepared
    obtain ⟨root, hload, rfl, hmade, rfl, -⟩ := prepare_eq_ok hprepare
    obtain ⟨out, hout⟩ := Disk.isFolder_iff.mp (Disk.isFolder_of_ensureFolders hmade)
    have hnames : ∀ name ∈ τ.disk.workingFolder, IsEntryName name :=
      hprepared.workingFolder ▸ h
    have hgrown := hruns.grownTo (isRooted_settingOf hnames) hout
    have hscript : ∀ name ∈ scriptNames options.scriptPrefix {} (Plan.groups root),
        IsScriptFolder options jmxPath outputFolder σ e (out ++ [name]) := fun name hname =>
      ⟨root, out, name, hload, he ▸ hgrown.leadsTo hout, hname,
        isEntryName_of_mem_scriptNames hname, rfl⟩
    -- the folders made first stay along the path, the others are made by the run
    rw [he] at hscript ⊢
    refine (Disk.GrownTo.mono hprepared nofun fun _ hl _ => .inr (hl.of_grownTo hgrown)).trans
      (hgrown.mono ?_ ?_)
    · rintro l ⟨name, hname, hl⟩
      exact ⟨_, hscript name hname, hl⟩
    · rintro l ⟨name, hname, rfl⟩ -
      exact .inl (hscript name hname)

/-- A plan that stands alone in the working folder, with a thread group and a data set whose file
is named by a path that leads up. -/
def planWithOutsideFile : Session where
  disk :=
    { tree := ⟨[(["work"], .folder), (["rows"], .file "1".toUTF8),
        (["work", "plan.jmx"], .file ("<jmeterTestPlan><hashTree><ThreadGroup testname=\"..\"/>"
          ++ "<hashTree/><CSVDataSet><stringProp name=\"filename\">../rows</stringProp>"
          ++ "</CSVDataSet></hashTree></jmeterTestPlan>").toUTF8)]⟩
      workingFolder := ["work"] }

/-- Neither the name of the thread group nor that of the file leads out of the script folder. -/
theorem convert_confined_planWithOutsideFile :
    let e := ((convert {} "plan.jmx" "out").outcome planWithOutsideFile).2.disk
    Disk.GrownTo
      (fun l => ∃ script, IsScriptFolder {} "plan.jmx" "out" planWithOutsideFile e script
        ∧ IsInside script l)
      (fun l => IsScriptFolder {} "plan.jmx" "out" planWithOutsideFile e l
        ∨ e.AlongPath (Path.parse "out").root (Path.parse "out").parts l)
      planWithOutsideFile.disk e :=
  convert_confined {} "plan.jmx" "out" planWithOutsideFile fun name hname => by
    obtain rfl : name = "work" := List.mem_singleton.mp hname
    exact ⟨by decide, by decide, by decide, by decide⟩

end VuserScript.Conversion
