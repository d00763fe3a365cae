/-
  VuserScript.Proofs.Conversion.OpenFiles

  Which files may not be written once a run is over. A copy may be used like the
  file that it is made of, and all other files that a run makes may be written;
  so if the files of the data sets may be, no file has become one that may not.
-/
import VuserScript.Proofs.Conversion.Bundles
import VuserScript.Proofs.Conversion.Repetition

namespace VuserScript.Conversion

open Plan (DataSet Group)
open Script (ParameterSet)
open Storage (Disk IsEntryName IsInside Location Path)

/-- The file that a path leads to may be written, if there is one. -/
def MayBeWritten (d : Disk) (p : Path) : Prop :=
  ∀ l bytes, d.locate p = .ok l → d.tree.get? l = some (.file bytes) →
    (d.tree.access l).write = true

section

variable {out : Location} {names : List String} {name : String} {folder source : Path}
  {s : DataSource} {d e : Disk} {warnings : List String}

/-- What may be done with a file outside the folders that grow stays the same. -/
theorem MayBeWritten.of_grownIn (h : MayBeWritten d source) (hgrown : Disk.GrownIn out names d e)
    (hsource : Disk.KeepsOut out names source) : MayBeWritten e source := by
  intro l bytes hl hfile
  obtain ⟨hlocate, hsame⟩ := hgrown.seen_eq hsource
  rw [hlocate] at hl
  obtain ⟨hentry, haccess⟩ := hsame l hl
  rw [haccess]
  exact h l bytes hl (hentry.symm.trans hfile)

theorem grownIn_of_inside (hmem : name ∈ names)
    (h : Disk.GrownTo (IsInside (out ++ [name])) (fun _ => False) d e) :
    Disk.GrownIn out names d e :=
  h.mono (fun _ hl => ⟨name, hmem, hl⟩) fun _ hl _ => hl.elim

/-! ## Data files -/

theorem Copied.keepsWritable {target : Path} (h : Copied source target d warnings e)
    (hopen : MayBeWritten d source) : Disk.KeepsWritable d e := by
  rcases h with ⟨hcopy, -⟩ | ⟨_, -, rfl, -⟩
  · refine .of_copy hcopy fun l hl => ?_
    obtain ⟨bytes, _, _, _, hread, -⟩ := Disk.copy_eq_ok hcopy
    obtain ⟨k, hk, hfile, -⟩ := Disk.read_eq_ok.mp hread
    obtain rfl : l = k := Except.ok.inj (hl.symm.trans hk)
    exact hopen l bytes hl hfile
  · exact .refl _

theorem CopiedTo.keepsWritable {targets : List Path} (h : CopiedTo source targets d warnings e)
    (hmem : name ∈ names) (hsource : IsRooted source) (hout : Disk.KeepsOut out names source)
    (htargets : ∀ target ∈ targets, IsEntryName source.name →
      ∃ file, IsEntryName file ∧ target = folder.child file)
    (hfolder : d.LeadsTo folder (out ++ [name])) (hopen : MayBeWritten d source) :
    Disk.KeepsWritable d e := by
  induction targets generalizing d warnings with
  | nil =>
    obtain ⟨rfl, -⟩ := h
    exact .refl _
  | cons target targets ih =>
    obtain ⟨c, first, others, hfirst, hothers, -⟩ := h
    have hgrown : Disk.GrownTo (IsInside (out ++ [name])) (fun _ => False) d c :=
      hfirst.grownTo hsource (htargets target (.head _)) hfolder
    exact (hfirst.keepsWritable hopen).trans
      (ih hothers (fun other hother => htargets other (.tail _ hother)) (hgrown.leadsTo hfolder)
        (hopen.of_grownIn (grownIn_of_inside hmem hgrown) hout))

/-- Bringing data files into a folder makes no file that may not be written, if they may be. -/
theorem Placed.keepsWritable {dataSets : List DataSet} {sets : List ParameterSet}
    (h : Placed s folder dataSets d sets warnings e) (hmem : name ∈ names)
    (hs : ReadsElsewhere s out names dataSets) (hfolder : d.LeadsTo folder (out ++ [name]))
    (hopen : ∀ dataSet ∈ dataSets, ∀ source, s.path? dataSet = some source →
      MayBeWritten d source) : Disk.KeepsWritable d e := by
  induction h with
  | nil => exact .refl _
  | unnamed path others ih =>
    exact ih hs.tail hfolder fun dataSet hdataSet => hopen dataSet (.tail _ hdataSet)
  | missing path absent others ih =>
    exact ih hs.tail hfolder fun dataSet hdataSet => hopen dataSet (.tail _ hdataSet)
  | @found dataSet rest source sets own warnings c d e path present copies others ih =>
    have hsource := isRooted_of_path? hs.rooted path
    have hgrown : Disk.GrownTo (IsInside (out ++ [name])) (fun _ => False) d c :=
      copies.grownTo hsource (fun _ => exists_child_of_mem_targets) hfolder
    have hfirst : Disk.KeepsWritable d c :=
      copies.keepsWritable hmem hsource (hs.keepsOut dataSet (.head _) source path)
        (fun _ => exists_child_of_mem_targets) hfolder (hopen dataSet (.head _) source path)
    refine hfirst.trans (ih hs.tail (hgrown.leadsTo hfolder) fun other hother p hp => ?_)
    exact (hopen other (.tail _ hother) p hp).of_grownIn (grownIn_of_inside hmem hgrown)
      (hs.tail.keepsOut other hother p hp)

theorem Written.keepsWritable {files : List (String × String)} (h : Written folder files d e) :
    Disk.KeepsWritable d e := by
  induction files generalizing d with
  | nil =>
    obtain rfl := h
    exact .refl _
  | cons file files ih =>
    obtain ⟨c, hwrite, hrest⟩ := h
    exact (Disk.KeepsWritable.of_write hwrite).trans (ih hrest)

end

/-! ## Runs -/

section

variable {s : Setting} {p q : Progress} {out : Location} {names : List String}

theorem Converted.keepsWritable {g : Group} {d e : Disk} {x : Stages} {r : GroupReport}
    (h : Converted s p g d x r q e) (hmem : s.scriptName p g ∈ names)
    (hs : ReadsElsewhere s.source out names s.dataSets) (hout : d.LeadsTo s.outputFolder out)
    (hopen : ∀ dataSet ∈ s.dataSets, ∀ source, s.source.path? dataSet = some source →
      MayBeWritten d source) : Disk.KeepsWritable d e := by
  have hname := isEntryName_scriptName s p g
  have hmakes := h.makes
  rw [groupFolder_eq] at hmakes
  have hmade := hout.ensureFolders_child hname
  rw [hmakes] at hmade
  have hleads := hout.child_of_ensureFolders hname hmakes
  rw [← groupFolder_eq] at hleads
  have hgrown : Disk.GrownIn out names d x.made :=
    hmade.mono nofun fun _ hl _ => ⟨_, hmem, hl⟩
  have hplaced : Disk.KeepsWritable x.made x.placed :=
    h.places.keepsWritable hmem hs hleads fun dataSet hdataSet source hsource =>
      (hopen dataSet hdataSet source hsource).of_grownIn hgrown
        (hs.keepsOut dataSet hdataSet source hsource)
  exact (Disk.KeepsWritable.of_folders hmade).trans (hplaced.trans h.writes.keepsWritable)

/-- A run that was not stopped makes no file that may not be written, if the files of the data sets
may be and come from elsewhere. -/
theorem Runs.keepsWritable {groups : List Group} {σ τ : Session} {reports : List GroupReport}
    (h : Runs s p groups σ reports none τ) (hs : ReadsElsewhere s.source out names s.dataSets)
    (hnames : ∀ name ∈ scriptNames s.options.scriptPrefix p groups, name ∈ names)
    (hout : σ.disk.LeadsTo s.outputFolder out)
    (hopen : ∀ dataSet ∈ s.dataSets, ∀ source, s.source.path? dataSet = some source →
      MayBeWritten σ.disk source) : Disk.KeepsWritable σ.disk τ.disk := by
  generalize hproblem : (none : Option Problem) = problem at h
  induction h with
  | done => exact .refl _
  | stopped stop => cases hproblem
  | @next p q g groups r reports problem σ ρ τ first others ih =>
    obtain ⟨x, hx⟩ := converted_of_ok first
    rw [hx.scriptNames_cons] at hnames
    have hmem : s.scriptName p g ∈ names := hnames _ (.head _)
    have hgrown := grownTo_of_convertGroup first hs.rooted hout
    have hgrownIn : Disk.GrownIn out names σ.disk ρ.disk :=
      hgrown.mono (fun _ hl => ⟨_, hmem, hl⟩) fun _ hl _ => ⟨_, hmem, hl⟩
    refine (hx.keepsWritable hmem hs hout hopen).trans
      (ih (fun name hname => hnames name (.tail _ hname)) (hgrown.leadsTo hout) ?_ hproblem)
    exact fun dataSet hdataSet source hsource =>
      (hopen dataSet hdataSet source hsource).of_grownIn hgrownIn
        (hs.keepsOut dataSet hdataSet source hsource)

end

end VuserScript.Conversion
