/-
  VuserScript.Proofs.Conversion.DataCopies

  What the data files of a script hold when a conversion is over. The files of
  all data sets are brought into the folder of each script by their last names
  alone, twice each, and then the script is written there; so what is under a
  name in the end is the last of all that was put there. A copy is the file of
  its data set if and only if this last file has the same bytes.
-/
import VuserScript.Proofs.Conversion.Confinement
import VuserScript.Proofs.Storage.Deposits

namespace VuserScript.Conversion

open Plan (DataSet Group)
open Script (Names ParameterSet)
open Storage (Disk IsEntryName IsInside Location Path lastNamed)

/-! ## Data files -/

/-- The names of the files that a parameter set has in the folder of its script. -/
def fileNames (set : ParameterSet) : List String :=
  set.fileName :: set.datFileName.toList

theorem dataFile_mem_fileNames (set : ParameterSet) : set.dataFile ∈ fileNames set := by
  unfold ParameterSet.dataFile fileNames
  cases set.datFileName <;> simp

/-- The file of a data set, with its bytes. -/
structure DataFile where
  dataSet : DataSet
  source : Path
  bytes : ByteArray

/-- The parameter set that a data file gives to the script in a folder. -/
def DataFile.parameterSet (s : DataSource) (folder : Path) (f : DataFile) : ParameterSet :=
  s.parameterSet folder f.source f.dataSet

/-- The copies of a data file that are put into a folder. -/
def DataFile.copies (s : DataSource) (folder : Path) (f : DataFile) : List (String × ByteArray) :=
  (fileNames (f.parameterSet s folder)).map fun name => (name, f.bytes)

/-- The data files that the parameter sets in a folder come from: each is the file that a data set
of the plan names, and has the bytes that this file has on the disk. -/
structure Sourced (s : DataSource) (folder : Path) (dataSets : List DataSet)
    (sets : List ParameterSet) (d : Disk) (files : List DataFile) : Prop where
  dataSets : (files.map DataFile.dataSet).Sublist dataSets
  sets : sets = files.map (DataFile.parameterSet s folder)
  path : ∀ f ∈ files, s.path? f.dataSet = some f.source
  bytes : ∀ f ∈ files, d.read f.source = .ok f.bytes

/-! ## Copies without warnings -/

/-- A warning about a copy that failed. -/
def IsCopyWarning (w : String) : Prop :=
  "Failed to copy ".toList <+: w.toList

instance : DecidablePred IsCopyWarning := fun w =>
  inferInstanceAs (Decidable ("Failed to copy ".toList <+: w.toList))

theorem isCopyWarning_copyWarning (source target : Path) (trouble : Storage.Trouble) :
    IsCopyWarning (copyWarning source target trouble) := by
  unfold IsCopyWarning copyWarning
  simp only [String.toList_append, List.append_assoc]
  exact List.prefix_append _ _

/-- A path that leads to no location at another one or inside it, whatever is on the disk. -/
def Avoids (l : Location) (p : Path) : Prop :=
  ∀ (d : Disk) (k : Location), d.locate p = .ok k → ¬ l <+: k

theorem Avoids.concat {l : Location} {p : Path} (h : Avoids l p) (name : String) :
    Avoids (l ++ [name]) p :=
  fun d k hk hleads => h d k hk ((List.prefix_append l [name]).trans hleads)

/-- A file outside a location is read as before if nothing is changed but there. -/
theorem Avoids.read {l : Location} {p : Path} {files folders : Location → Prop} {d e : Disk}
    {bytes : ByteArray} (h : Avoids l p) (hgrown : Disk.GrownTo files folders d e)
    (hfiles : ∀ k, files k → l <+: k) (hfolders : ∀ k, folders k → l <+: k)
    (hread : d.read p = .ok bytes) : e.read p = .ok bytes := by
  obtain ⟨k, hk, -⟩ := Disk.read_eq_ok.mp hread
  exact (hgrown.read_iff hk (fun hf => h d k hk (hfiles k hf))
    fun hf => h d k hk (hfolders k hf)).mpr hread

section

variable {folder source : Path} {l : Location} {s : DataSource} {d e : Disk} {bytes : ByteArray}

theorem Copied.eq_ok {target : Path} {warnings : List String}
    (h : Copied source target d warnings e) (hwarnings : ∀ w ∈ warnings, ¬ IsCopyWarning w) :
    d.copy source target = .ok e := by
  rcases h with ⟨hcopy, -⟩ | ⟨trouble, -, -, rfl⟩
  · exact hcopy
  · exact absurd (isCopyWarning_copyWarning source target trouble) (hwarnings _ (.head _))

/-- A file that is copied to names in a folder without a warning is put there under each. -/
theorem CopiedTo.deposits {names warnings : List String}
    (h : CopiedTo source (names.map folder.child) d warnings e)
    (hwarnings : ∀ w ∈ warnings, ¬ IsCopyWarning w) (hfolder : d.LeadsTo folder l)
    (hsource : IsEntryName source.name) (havoids : Avoids l source)
    (hnames : ∀ name ∈ names, IsEntryName name) (hread : d.read source = .ok bytes) :
    Disk.Deposits folder l (names.map fun name => (name, bytes)) d e := by
  induction names generalizing d warnings with
  | nil =>
    obtain ⟨rfl, -⟩ := h
    exact .refl folder l d
  | cons name names ih =>
    obtain ⟨c, first, others, hfirst, hothers, rfl⟩ := h
    have hcopy := hfirst.eq_ok fun w hw => hwarnings w (List.mem_append_left _ hw)
    obtain ⟨found, hfound, hput⟩ := hfolder.deposits_of_copy (hnames name (.head _)) hsource hcopy
    obtain rfl : bytes = found := Except.ok.inj (hread.symm.trans hfound)
    exact hput.trans (ih hothers (fun w hw => hwarnings w (List.mem_append_right _ hw))
      (hput.grown.leadsTo hfolder) (fun name hname => hnames name (.tail _ hname))
      (havoids.read hput.grown (fun _ hk => hk.1) nofun hread))

theorem fileNames_parameterSet (s : DataSource) (folder : Path) (dataSet : DataSet)
    (hsource : IsEntryName source.name) : fileNames (s.parameterSet folder source dataSet)
      = source.name :: if s.writeDatFiles then [Script.datName source.name] else [] := by
  simp only [fileNames, DataSource.parameterSet, Path.join_parse_of_isEntryName hsource,
    Path.name_child]
  cases s.writeDatFiles <;> rfl

theorem isEntryName_of_mem_fileNames {dataSet : DataSet} {name : String}
    (hsource : IsEntryName source.name)
    (h : name ∈ fileNames (s.parameterSet folder source dataSet)) : IsEntryName name := by
  rw [fileNames_parameterSet s folder dataSet hsource] at h
  rcases List.mem_cons.mp h with rfl | h
  · exact hsource
  · split at h
    · obtain rfl := List.mem_singleton.mp h
      exact Storage.isEntryName_datName hsource
    · cases h

theorem targets_eq (s : DataSource) (folder : Path) (dataSet : DataSet)
    (hsource : IsEntryName source.name) : s.targets folder source dataSet
      = (fileNames (s.parameterSet folder source dataSet)).map folder.child := by
  have hnames := fileNames_parameterSet s folder dataSet hsource
  have hdat : (s.parameterSet folder source dataSet).datFileName.toList
      = if s.writeDatFiles then [Script.datName source.name] else [] :=
    (List.cons.inj hnames).2
  rw [DataSource.targets, hnames, hdat, Path.join_parse_of_isEntryName hsource]
  cases s.writeDatFiles with
  | false => rfl
  | true =>
    have hentry := Storage.isEntryName_datName hsource
    simp only [if_true, List.map_cons, List.map_nil, Path.join_parse_of_isEntryName hentry]

/-- A file that has a name is copied to names in the folder only. -/
theorem exists_child_of_mem_targets {target : Path} {dataSet : DataSet}
    (h : target ∈ s.targets folder source dataSet) (hsource : IsEntryName source.name) :
    ∃ name, IsEntryName name ∧ target = folder.child name := by
  rw [targets_eq s folder dataSet hsource] at h
  obtain ⟨name, hmem, rfl⟩ := List.mem_map.mp h
  exact ⟨name, isEntryName_of_mem_fileNames hsource hmem, rfl⟩

/-- If no copy fails, the data files of all parameter sets are put into the folder. -/
theorem Placed.deposits {dataSets : List DataSet} {sets : List ParameterSet}
    {warnings : List String} (h : Placed s folder dataSets d sets warnings e)
    (hwarnings : ∀ w ∈ warnings, ¬ IsCopyWarning w) (hfolder : d.LeadsTo folder l)
    (hs : IsRooted s.folder)
    (havoids : ∀ dataSet ∈ dataSets, ∀ source, s.path? dataSet = some source → Avoids l source) :
    ∃ files, Sourced s folder dataSets sets e files
      ∧ Disk.Deposits folder l (files.flatMap (DataFile.copies s folder)) d e := by
  induction h with
  | nil => exact ⟨[], ⟨.slnil, rfl, nofun, nofun⟩, .refl folder l _⟩
  | unnamed path others ih =>
    obtain ⟨files, hfiles, hput⟩ := ih (fun w hw => hwarnings w (.tail _ hw)) hfolder
      fun dataSet hmem => havoids dataSet (.tail _ hmem)
    exact ⟨files, { hfiles with dataSets := hfiles.dataSets.cons _ }, hput⟩
  | missing path absent others ih =>
    obtain ⟨files, hfiles, hput⟩ := ih (fun w hw => hwarnings w (.tail _ hw)) hfolder
      fun dataSet hmem => havoids dataSet (.tail _ hmem)
    exact ⟨files, { hfiles with dataSets := hfiles.dataSets.cons _ }, hput⟩
  | @found dataSet rest source sets own warnings c d e path present copies others ih =>
    have hown : ∀ w ∈ own, ¬ IsCopyWarning w := fun w hw =>
      hwarnings w (List.mem_append_left _ hw)
    have hsource := isRooted_of_path? hs path
    have hsourceAvoids := havoids dataSet (.head _) source path
    -- the first copy tells that the file can be read, and so that it has a name
    obtain ⟨bytes, hread⟩ : ∃ bytes, d.read source = .ok bytes := by
      obtain ⟨_, first, _, hfirst, _, heq⟩ := copies
      obtain ⟨bytes, _, _, _, hread, -⟩ := Disk.copy_eq_ok
        (hfirst.eq_ok fun w hw => hown w (heq ▸ List.mem_append_left _ hw))
      exact ⟨bytes, hread⟩
    have hname := hsource.isEntryName_of_read hread
    rw [targets_eq s folder dataSet hname] at copies
    have hput := copies.deposits hown hfolder hname hsourceAvoids
      (fun _ h => isEntryName_of_mem_fileNames hname h) hread
    obtain ⟨files, hfiles, hputs⟩ := ih (fun w hw => hwarnings w (List.mem_append_right _ hw))
      (hput.grown.leadsTo hfolder) fun dataSet hmem => havoids dataSet (.tail _ hmem)
    -- the file itself is not changed, neither by its copies nor by those that follow
    have hread' := hsourceAvoids.read (hput.grown.trans hputs.grown) (fun _ hk => hk.1) nofun hread
    refine ⟨⟨dataSet, source, bytes⟩ :: files, ⟨?_, ?_, ?_, ?_⟩, hput.trans hputs⟩
    · exact hfiles.dataSets.cons_cons dataSet
    · rw [hfiles.sets]
      rfl
    · exact List.forall_mem_cons.mpr ⟨path, hfiles.path⟩
    · exact List.forall_mem_cons.mpr ⟨hread', hfiles.bytes⟩

/-- Texts as the bytes of files. -/
def encoded (files : List (String × String)) : List (String × ByteArray) :=
  files.map fun file => (file.1, file.2.toUTF8)

theorem Written.deposits {files : List (String × String)} (h : Written folder files d e)
    (hfolder : d.LeadsTo folder l) (hnames : ∀ name ∈ files.map Prod.fst, IsEntryName name) :
    Disk.Deposits folder l (encoded files) d e := by
  induction files generalizing d with
  | nil =>
    obtain rfl := h
    exact .refl folder l d
  | cons file files ih =>
    obtain ⟨c, hwrite, hrest⟩ := h
    have hput := hfolder.deposits_of_write (hnames _ (.head _)) hwrite
    exact hput.trans (ih hrest (hput.grown.leadsTo hfolder) fun name hname =>
      hnames name (.tail _ hname))

end

/-! ## Thread groups -/

/-- All that is put into the folder of a script, in order: the copies of its data files, and then
its own files. -/
def deposited (s : DataSource) (folder : Path) (workingFolder : Location) (files : List DataFile)
    (action : Script.Outcome) (r : GroupReport) : List (String × ByteArray) :=
  files.flatMap (DataFile.copies s folder) ++ encoded (scriptFiles r.parameterSets action.lines
    (logText (folder.resolve workingFolder).text r))

theorem mem_deposited {s : DataSource} {folder : Path} {workingFolder : Location}
    {files : List DataFile} {action : Script.Outcome} {r : GroupReport} {f : DataFile}
    {name : String} (hf : f ∈ files) (hname : name ∈ fileNames (f.parameterSet s folder)) :
    name ∈ (deposited s folder workingFolder files action r).map Prod.fst := by
  rw [deposited, List.map_append]
  refine List.mem_append_left _ (List.mem_map.mpr ⟨(name, f.bytes), ?_, rfl⟩)
  exact List.mem_flatMap.mpr ⟨f, hf, List.mem_map_of_mem hname⟩

/-- A run whose output folder is at a location outside which all data files lie. -/
structure Apart (s : Setting) (out : Location) : Prop where
  output : ∀ part ∈ s.outputFolder.parts, Path.IsPart part
  rooted : IsRooted s.source.folder
  avoids : ∀ dataSet ∈ s.dataSets, ∀ source, s.source.path? dataSet = some source →
    Avoids out source

/-- What is changed in the output folder leaves the data files alone. -/
theorem Sourced.of_grownTo {s : Setting} {folder : Path} {sets : List ParameterSet} {d e : Disk}
    {data : List DataFile} {out : Location} {files folders : Location → Prop}
    (h : Sourced s.source folder s.dataSets sets d data) (hs : Apart s out)
    (hgrown : Disk.GrownTo files folders d e) (hfiles : ∀ k, files k → out <+: k)
    (hfolders : ∀ k, folders k → out <+: k) :
    Sourced s.source folder s.dataSets sets e data where
  dataSets := h.dataSets
  sets := h.sets
  path := h.path
  bytes f hf := by
    have hmem : f.dataSet ∈ s.dataSets := h.dataSets.subset (List.mem_map_of_mem hf)
    exact (hs.avoids _ hmem _ (h.path f hf)).read hgrown hfiles hfolders (h.bytes f hf)

/-- The folder of a script is read back from its written form. -/
theorem parse_text_groupFolder {s : Setting} (h : ∀ part ∈ s.outputFolder.parts, Path.IsPart part)
    (p : Progress) (g : Group) : Path.parse (s.groupFolder p g).text = s.groupFolder p g := by
  rw [groupFolder_eq]
  refine Path.parse_text fun part hpart => ?_
  rcases List.mem_append.mp hpart with hpart | hpart
  · exact h part hpart
  · obtain rfl := List.mem_singleton.mp hpart
    exact Path.isPart_of_isEntryName (isEntryName_scriptName s p g)

/-- The folder of a converted thread group, as it is when the data sets are copied, holds under each
name what it held before; then its files are put there. -/
theorem Converted.deposits {s : Setting} {p q : Progress} {g : Group} {d e : Disk} {x : Stages}
    {r : GroupReport} {out : Location} (h : Converted s p g d x r q e)
    (hwarnings : ∀ w ∈ r.warnings, ¬ IsCopyWarning w) (hout : d.LeadsTo s.outputFolder out)
    (hs : Apart s out) :
    let l := out ++ [s.scriptName p g]
    ∃ files, Path.parse r.folder = s.groupFolder p g
      ∧ e.LeadsTo (s.groupFolder p g) l
      ∧ Sourced s.source (s.groupFolder p g) s.dataSets r.parameterSets e files
      ∧ (∀ name, x.made.tree.get? (l ++ [name]) = d.tree.get? (l ++ [name]))
      ∧ Disk.Deposits (s.groupFolder p g) l
        (deposited s.source (s.groupFolder p g) e.workingFolder files x.action r) x.made e := by
  intro l
  have hname := isEntryName_scriptName s p g
  have hparse : Path.parse r.folder = s.groupFolder p g := by
    rw [h.folder, parse_text_groupFolder hs.output]
  -- making the folder changes nothing in it, and then it is put into only
  have hmakes := h.makes
  rw [groupFolder_eq] at hmakes
  have hmade := hout.ensureFolders_child hname
  rw [hmakes] at hmade
  have hleads := hout.child_of_ensureFolders hname hmakes
  rw [← groupFolder_eq] at hleads
  have hdata : ∀ w ∈ x.dataWarnings, ¬ IsCopyWarning w := fun w hw => hwarnings w (by
    rw [h.warnings, List.append_assoc]
    exact List.mem_append_left _ hw)
  obtain ⟨files, hfiles, hplaced⟩ := h.places.deposits hdata hleads hs.rooted
    fun dataSet hmem source hsource => (hs.avoids dataSet hmem source hsource).concat _
  have hwritten := h.writes.deposits (hplaced.grown.leadsTo hleads) fun name hname =>
    isEntryName_of_mem_scriptFileNames (scriptFiles_map_fst _ _ _ ▸ hname)
  rw [hparse] at hwritten
  refine ⟨files, hparse, hwritten.grown.leadsTo (hplaced.grown.leadsTo hleads),
    hfiles.of_grownTo hs hwritten.grown (fun _ hk => (List.prefix_append out _).trans hk.1) nofun,
    fun name => ?_, hplaced.trans hwritten⟩
  exact (hmade.tree.same (fun h => h) (by simp [l])).1

/-! ## Runs -/

/-- The actions of thread groups one after another, from given names on. -/
def actionsOf (correlate : Bool) : Names → List Group → List Script.Outcome
  | _, [] => []
  | names, g :: groups =>
    let (action, names) := Script.actionOf correlate g.items names
    action :: actionsOf correlate names groups

/-- Of all that is put into a folder, some bytes are the last under a name, and no folder on the
disk is in their way. -/
def LeavesLast (d : Disk) (folder : Path) (put : List (String × ByteArray)) (name : String)
    (bytes : ByteArray) : Prop :=
  d.tree.get? ((folder.resolve d.workingFolder).parts ++ [name]) ≠ some .folder
    ∧ lastNamed name put = some bytes

/-- The data files of a script, on the disk as it is in the end: under both names of its parameter
set, there is a data file if and only if it was the last to be put there. The disk `made` is that
on which the script folders are made. -/
def CopiesLast (s : Setting) (made e : Disk) (action : Script.Outcome) (r : GroupReport) : Prop :=
  let folder := Path.parse r.folder
  ∃ files, Sourced s.source folder s.dataSets r.parameterSets e files
    ∧ ∀ f ∈ files, ∀ name ∈ [(f.parameterSet s.source folder).fileName,
        (f.parameterSet s.source folder).dataFile],
      e.Holds (folder.child name) f.bytes ↔ LeavesLast made folder
        (deposited s.source folder made.workingFolder files action r) name f.bytes

/-- Two disks that hold the same in folders of some names. -/
structure SamePlaces (out : Location) (names : List String) (d e : Disk) : Prop where
  workingFolder : e.workingFolder = d.workingFolder
  place : ∀ name ∈ names, ∀ other,
    e.tree.get? (out ++ [name] ++ [other]) = d.tree.get? (out ++ [name] ++ [other])

theorem SamePlaces.trans {out : Location} {names : List String} {c d e : Disk}
    (h : SamePlaces out names c d) (h' : SamePlaces out names d e) : SamePlaces out names c e where
  workingFolder := h'.workingFolder.trans h.workingFolder
  place name hname other := (h'.place name hname other).trans (h.place name hname other)

theorem SamePlaces.mono {out : Location} {names names' : List String} {d e : Disk}
    (h : SamePlaces out names d e) (hnames : ∀ name ∈ names', name ∈ names) :
    SamePlaces out names' d e :=
  ⟨h.workingFolder, fun name hname => h.place name (hnames name hname)⟩

/-- What is made in folders of other names leaves a folder alone. -/
theorem samePlaces_of_grownTo {out : Location} {names : List String} {changed : String → Prop}
    {d e : Disk} (h : Disk.GrownTo (fun l => ∃ name, changed name ∧ IsInside (out ++ [name]) l)
      (fun l => ∃ name, changed name ∧ l = out ++ [name]) d e)
    (hnames : ∀ name ∈ names, ¬ changed name) : SamePlaces out names d e where
  workingFolder := h.workingFolder
  place name hname other :=
    (h.sameFrom (hnames name hname) _ (List.prefix_append _ [other])).1

/-- The folder of a thread group is none of those that follow. -/
theorem Converted.folderName_not_mem {s : Setting} {p q : Progress} {g : Group} {d e : Disk}
    {x : Stages} {r : GroupReport} (h : Converted s p g d x r q e) (groups : List Group) :
    s.scriptName p g ∉ scriptNames s.options.scriptPrefix q groups := by
  intro hmem
  refine (nodup_folderNames _ q.taken _).2 _ hmem ?_
  rw [h.taken]
  exact .head _

/-- The data files of a converted thread group stay as they are left while others are converted. -/
theorem Converted.copiesLast {s : Setting} {p q : Progress} {g : Group} {d e c made : Disk}
    {x : Stages} {r : GroupReport} {out : Location} {files folders : Location → Prop}
    (h : Converted s p g d x r q e) (hwarnings : ∀ w ∈ r.warnings, ¬ IsCopyWarning w)
    (hout : d.LeadsTo s.outputFolder out) (hs : Apart s out)
    (hworking : ∀ name ∈ made.workingFolder, IsEntryName name)
    (hsame : e.workingFolder = made.workingFolder)
    (hmade : SamePlaces out [s.scriptName p g] made d)
    (hlater : Disk.GrownTo files folders e c) (hfiles : ∀ k, files k → out <+: k)
    (hfolders : ∀ k, folders k → out <+: k)
    (hkept : SamePlaces out [s.scriptName p g] e c) :
    CopiesLast s made c x.action r := by
  obtain ⟨data, hparse, hfolder, hdata, hplace, hput⟩ :=
    h.deposits hwarnings hout hs
  have hlocation := Disk.locate_eq_resolve hfolder.locate
    (fun part hpart => Path.isPart_of_mem_parse (hparse.symm ▸ hpart)) (.inr (hsame ▸ hworking))
  rw [hsame] at hlocation hput
  unfold CopiesLast
  rw [hparse]
  refine ⟨data, hdata.of_grownTo hs hlater hfiles hfolders, fun f hf name hname => ?_⟩
  have hmem : name ∈ fileNames (f.parameterSet s.source (s.groupFolder p g)) := by
    rcases List.mem_pair.mp hname with rfl | rfl
    · exact .head _
    · exact dataFile_mem_fileNames _
  have hput' : name ∈ (deposited s.source (s.groupFolder p g) made.workingFolder data x.action
      r).map Prod.fst := mem_deposited hf hmem
  -- later groups leave the folder alone
  have hholds : c.Holds ((s.groupFolder p g).child name) f.bytes
      ↔ e.Holds ((s.groupFolder p g).child name) f.bytes := by
    simp only [Disk.Holds, hlater.locate (hput.locate name hput'), hput.locate name hput',
      Except.ok.injEq, exists_eq_left', hkept.place _ (.head _)]
  rw [hholds, hput.holds_iff hput', hplace, hmade.place _ (.head _), hlocation, LeavesLast]

theorem Runs.copiesLast {s : Setting} {p : Progress} {groups : List Group} {σ τ : Session}
    {reports : List GroupReport} {problem : Option Problem} {out : Location} {made : Disk}
    (h : Runs s p groups σ reports problem τ) (hproblem : problem = none)
    (hwarnings : ∀ r ∈ reports, ∀ w ∈ r.warnings, ¬ IsCopyWarning w)
    (hout : σ.disk.LeadsTo s.outputFolder out) (hs : Apart s out)
    (hworking : ∀ name ∈ made.workingFolder, IsEntryName name)
    (hmade : SamePlaces out (scriptNames s.options.scriptPrefix p groups) made σ.disk) :
    List.Forall₂ (CopiesLast s made τ.disk) (actionsOf s.options.enableCorrelation p.names groups)
      reports := by
  induction h with
  | done => exact .nil
  | stopped stop => cases hproblem
  | @next p q g groups r reports problem σ τ υ first others ih =>
    obtain ⟨x, hx⟩ := converted_of_ok first
    have hown := grownTo_of_convertGroup first hs.rooted hout
    have hlater := others.grownTo hs.rooted (hown.leadsTo hout)
    rw [hx.scriptNames_cons] at hmade
    have hother := hx.folderName_not_mem groups
    -- the folders of later groups have other names, and so had those of earlier ones
    have hkept : SamePlaces out [s.scriptName p g] τ.disk υ.disk :=
      samePlaces_of_grownTo hlater (by simpa using hother)
    have hnext : SamePlaces out (scriptNames s.options.scriptPrefix q groups) σ.disk τ.disk :=
      samePlaces_of_grownTo (hown.mono (fun l hl => ⟨_, rfl, hl⟩) fun l hl _ => ⟨_, rfl, hl⟩)
        fun name hname heq => hother (heq ▸ hname)
    have hmade' := (hmade.mono fun name hname => .tail _ hname).trans hnext
    rw [actionsOf, ← hx.action]
    refine .cons ?_ (ih hproblem (fun r hr => hwarnings r (.tail _ hr)) (hown.leadsTo hout) hmade')
    refine hx.copiesLast (hwarnings r (.head _)) hout hs hworking
      hmade'.workingFolder (hmade.mono (by simp)) hlater ?_ ?_ hkept
    · rintro k ⟨name, -, hk, -⟩
      exact (List.prefix_append out _).trans hk
    · rintro k ⟨name, -, rfl⟩
      exact List.prefix_append out _

/-! ## Conversions -/

/-- A conversion that succeeds without a warning about a copy, of a plan whose data files all lie
outside the output folder. The working folder is at a location that a folder can have. -/
structure CopiesAll (options : Options) (jmxPath outputFolder : String) (σ : Session)
    (root : Xml.Element) (report : Report) : Prop where
  working : ∀ name ∈ σ.disk.workingFolder, IsEntryName name
  plan : ((Plan.load (Path.parse jmxPath).text).outcome σ).1 = .ok root
  outside : ∀ dataSet ∈ Plan.dataSets root, ∀ source,
    (settingOf options (Path.parse jmxPath) (Path.parse outputFolder) root σ.disk).source.path?
        dataSet = some source →
      ¬ ((Path.parse outputFolder).resolve σ.disk.workingFolder).parts
        <+: (source.resolve σ.disk.workingFolder).parts
  converted : ((convert options jmxPath outputFolder).outcome σ).1 = .ok report
  success : report.success = true
  copied : ∀ w ∈ report.warnings, ¬ IsCopyWarning w

/-- An absolute path whose absolute form is not within a location leads nowhere within it. -/
theorem IsRooted.avoids {p : Path} {l workingFolder : Location} (hp : IsRooted p)
    (h : ¬ l <+: (p.resolve workingFolder).parts) : Avoids l p := by
  intro d k hk
  obtain rfl := Disk.locate_eq_resolve hk hp.parts (.inl hp.absolute)
  simpa only [Path.resolve, if_pos hp.absolute] using h

theorem CopiesAll.apart {options : Options} {jmxPath outputFolder : String} {σ : Session}
    {root : Xml.Element} {report : Report}
    (h : CopiesAll options jmxPath outputFolder σ root report) :
    Apart (settingOf options (Path.parse jmxPath) (Path.parse outputFolder) root σ.disk)
      ((Path.parse outputFolder).resolve σ.disk.workingFolder).parts where
  output _ hpart := Path.isPart_of_mem_parse hpart
  rooted := isRooted_settingOf h.working
  avoids dataSet hmem source hsource :=
    (isRooted_of_path? (isRooted_settingOf h.working) hsource).avoids
      (h.outside dataSet hmem source hsource)

/-- What a successful conversion leaves of the data files. For each script, every parameter set is
that of a data file of the plan; and under the names that the set gives to this file and to its copy
for the script, there are the bytes of the file if and only if it is the last that is put there:
the last of all copies of data files by these names and of the files of the script itself. No folder
must have the name before, since this would take the copies in. -/
theorem copiesLast_of_copiesAll {options : Options} {jmxPath outputFolder : String} {σ : Session}
    {root : Xml.Element} {report : Report}
    (h : CopiesAll options jmxPath outputFolder σ root report) :
    let s := settingOf options (Path.parse jmxPath) (Path.parse outputFolder) root σ.disk
    let made := (σ.disk.ensureFolders (Path.parse outputFolder)).1
    let e := ((convert options jmxPath outputFolder).outcome σ).2.disk
    List.Forall₂ (CopiesLast s made e)
      (actionsOf options.enableCorrelation {} (Plan.groups root)) report.scripts := by
  intro s made e
  have hconverted := h.converted
  rcases convert_cases options jmxPath outputFolder σ with ⟨problem, τ, -, hconvert⟩
    | ⟨groups, setting, warnings, τ, scripts, problem, υ, hprepare, hruns, hconvert⟩
  · rw [hconvert] at hconverted
    exact absurd (finish_success hconverted h.success).1 nofun
  rw [hconvert] at hconverted
  obtain ⟨rfl, hreport⟩ := finish_success hconverted h.success
  obtain ⟨root', hload, rfl, hensure, rfl, -⟩ := prepare_eq_ok hprepare
  obtain rfl : root = root' := Except.ok.inj (h.plan.symm.trans (congrArg Prod.fst hload))
  have hmade : made = τ.disk := congrArg Prod.fst hensure
  have he : e = υ.disk := by
    simp only [e, hconvert, finish_outcome_disk]
  have hgrown := Disk.grownTo_of_ensureFolders σ.disk (Path.parse outputFolder)
  rw [hensure] at hgrown
  have hworking : τ.disk.workingFolder = σ.disk.workingFolder := hgrown.workingFolder
  have hsetting : settingOf options (Path.parse jmxPath) (Path.parse outputFolder) root τ.disk
      = s := by
    simp only [s, settingOf, hworking]
  obtain ⟨out, hout⟩ := Disk.isFolder_iff.mp (Disk.isFolder_of_ensureFolders hensure)
  have hnames : ∀ name ∈ τ.disk.workingFolder, IsEntryName name := hworking ▸ h.working
  obtain rfl := Disk.locate_eq_resolve hout.locate
    (fun part hpart => Path.isPart_of_mem_parse hpart) (.inr hnames)
  rw [hsetting] at hruns
  rw [hmade, he, hreport]
  refine hruns.copiesLast rfl (fun r hr w hw => h.copied w ?_) hout (hworking ▸ h.apart) hnames
    ⟨rfl, fun _ _ _ => rfl⟩
  rw [hreport]
  exact List.mem_append_right _ (List.mem_flatMap.mpr ⟨r, hr, hw⟩)

/-- The data files of a script hold, under both names of each parameter set, the bytes of the file
that its data set names. -/
def HoldsCopies (s : Setting) (e : Disk) (r : GroupReport) : Prop :=
  let folder := Path.parse r.folder
  ∃ files, Sourced s.source folder s.dataSets r.parameterSets e files
    ∧ ∀ f ∈ files, ∀ name ∈ [(f.parameterSet s.source folder).fileName,
        (f.parameterSet s.source folder).dataFile],
      e.Holds (folder.child name) f.bytes

/-- A plan with two data sets whose files, in folders of their own, have the same name. -/
def planWithNamesakes : Session where
  disk :=
    { tree := ⟨[(["a"], .folder), (["a", "u.csv"], .file "1".toUTF8), (["b"], .folder),
        (["b", "u.csv"], .file "2".toUTF8),
        (["plan.jmx"], .file ("<jmeterTestPlan><hashTree><ThreadGroup testname=\"G\"/><hashTree/>"
          ++ "<CSVDataSet><stringProp name=\"filename\">a/u.csv</stringProp></CSVDataSet>"
          ++ "<CSVDataSet><stringProp name=\"filename\">b/u.csv</stringProp></CSVDataSet>"
          ++ "</hashTree></jmeterTestPlan>").toUTF8)]⟩
      workingFolder := [] }

/-- What is reported of its conversion. -/
def reportOfNamesakes : Report where
  jmxPath := "plan.jmx"
  outputFolder := "out"
  scripts :=
    [{ name := "G"
       folder := "out/Script_G"
       parameterSets := [⟨"u.csv", some "u.dat", [], ","⟩, ⟨"u.csv", some "u.dat", [], ","⟩] }]

theorem files_planWithNamesakes :
    ((Plan.load "plan.jmx").outcome planWithNamesakes).1.toOption.map
        (fun root => (Plan.dataSets root).map DataSet.file)
      = some [some "a/u.csv", some "b/u.csv"] := by
  decide +kernel

theorem outcome_planWithNamesakes :
    let x := (convert {} "plan.jmx" "out").outcome planWithNamesakes
    x.1.toOption = some reportOfNamesakes
      ∧ (x.2.disk.read ⟨.absolute, ["a", "u.csv"]⟩).toOption = some "1".toUTF8
      ∧ (x.2.disk.read ⟨.relative, ["out", "Script_G", "u.csv"]⟩).toOption = some "2".toUTF8 := by
  decide +kernel

/-- Where the two files are. -/
theorem path?_planWithNamesakes {root : Xml.Element} {dataSet : DataSet} {folder : String}
    (hfolder : folder ∈ ["a", "b"]) (hfile : dataSet.file = some (folder ++ "/u.csv")) :
    (settingOf {} (Path.parse "plan.jmx") (Path.parse "out") root
      planWithNamesakes.disk).source.path? dataSet = some ⟨.absolute, [folder, "u.csv"]⟩ := by
  rw [DataSource.path?, hfile]
  change (Option.map Text.trim (some (folder ++ "/u.csv"))).bind (fun name =>
    if name = "" then none
    else some (((Path.parse "plan.jmx").resolve []).parent.join (Path.parse name))) = _
  rcases List.mem_pair.mp hfolder with rfl | rfl <;> decide +kernel

/-- Its conversion succeeds without a warning. -/
theorem copiesAll_planWithNamesakes : ∃ root,
    CopiesAll {} "plan.jmx" "out" planWithNamesakes root reportOfNamesakes
      ∧ (Plan.dataSets root).map DataSet.file
        = [some ("a" ++ "/u.csv"), some ("b" ++ "/u.csv")] := by
  obtain ⟨root, hplan, hfiles⟩ := Option.map_eq_some_iff.mp files_planWithNamesakes
  refine ⟨root, ⟨nofun, Job.eq_ok_of_toOption_eq_some hplan, fun dataSet hmem source hsource => ?_,
    Job.eq_ok_of_toOption_eq_some outcome_planWithNamesakes.1, rfl, nofun⟩, hfiles⟩
  have hfile : dataSet.file ∈ (Plan.dataSets root).map DataSet.file := List.mem_map_of_mem hmem
  rw [hfiles] at hfile
  rcases List.mem_pair.mp hfile with hfile | hfile
  · rw [path?_planWithNamesakes (.head _) hfile, Option.some.injEq] at hsource
    subst hsource
    decide
  · rw [path?_planWithNamesakes (.tail _ (.head _)) hfile, Option.some.injEq] at hsource
    subst hsource
    decide

theorem copiesLast_planWithNamesakes : ∃ root,
    CopiesAll {} "plan.jmx" "out" planWithNamesakes root reportOfNamesakes
      ∧ List.Forall₂
        (CopiesLast
          (settingOf {} (Path.parse "plan.jmx") (Path.parse "out") root planWithNamesakes.disk)
          (planWithNamesakes.disk.ensureFolders (Path.parse "out")).1
          ((convert {} "plan.jmx" "out").outcome planWithNamesakes).2.disk)
        (actionsOf true {} (Plan.groups root)) reportOfNamesakes.scripts := by
  obtain ⟨root, h, -⟩ := copiesAll_planWithNamesakes
  exact ⟨root, h, copiesLast_of_copiesAll h⟩

/-- Not every conversion of this kind leaves each data file with the bytes of the file that its data
set names: the second of two files of one name takes the place of the first, without a warning. -/
theorem not_forall_holdsCopies :
    ¬ ∀ (options : Options) (jmxPath outputFolder : String) (σ : Session) (root : Xml.Element)
      (report : Report), CopiesAll options jmxPath outputFolder σ root report →
      ∀ r ∈ report.scripts, HoldsCopies
        (settingOf options (Path.parse jmxPath) (Path.parse outputFolder) root σ.disk)
        ((convert options jmxPath outputFolder).outcome σ).2.disk r := by
  intro hall
  obtain ⟨root, h, hfiles⟩ := copiesAll_planWithNamesakes
  obtain ⟨files, hsourced, hholds⟩ := hall _ _ _ _ _ _ h _ (.head _)
  obtain ⟨-, hsource, hcopy⟩ := outcome_planWithNamesakes
  -- there are as many sets as data sets, so the first set comes from the first data set
  have hlength : (files.map DataFile.dataSet).length = (Plan.dataSets root).length := by
    have hsets := congrArg List.length hsourced.sets
    have hcount := congrArg List.length hfiles
    simp only [List.length_map, List.length_cons, List.length_nil] at hsets hcount ⊢
    omega
  have hdataSets : files.map DataFile.dataSet = Plan.dataSets root :=
    hsourced.dataSets.eq_of_length hlength
  rw [← hdataSets, List.map_map] at hfiles
  obtain ⟨f, rest, rfl, hfile, -⟩ := List.map_eq_cons_iff.mp hfiles
  have hpath := hsourced.path f (.head _)
  rw [path?_planWithNamesakes (.head _) hfile, Option.some.injEq] at hpath
  have hbytes := hsourced.bytes f (.head _)
  rw [← hpath] at hbytes
  have hset := (List.cons.inj hsourced.sets).1
  have hheld := hholds f (.head _) _ (.head _)
  rw [← hset] at hheld
  have hchild : (Path.parse "out/Script_G").child "u.csv"
      = ⟨.relative, ["out", "Script_G", "u.csv"]⟩ := by decide +kernel
  rw [hchild] at hheld
  rw [hbytes] at hsource
  have hcopied := Disk.holds_of_read (Job.eq_ok_of_toOption_eq_some hcopy)
  have hsame : some f.bytes = some "2".toUTF8 := congrArg some (hheld.unique hcopied)
  exact absurd (hsource.symm.trans hsame) (by decide)

end VuserScript.Conversion
