/-
  VuserScript.Proofs.Conversion.Repetition

  The steps of a conversion once more. They find the folders and the files of
  the first time, yet none of their questions is answered otherwise, since the
  files of the data sets lie elsewhere; so they write everything anew as it was,
  and report the same.
-/
import VuserScript.Proofs.Conversion.Confinement
import VuserScript.Proofs.Storage.Retracing

namespace VuserScript.Conversion

open Plan (DataSet Group)
open Script (ParameterSet)
open Storage (Disk IsEntryName Location Path Trouble)

/-! ## Operations that can be repeated -/

/-- On files with `P` an operation grows the disk in some folders only, and has `Q` if it answers.
If it does, and the first round ends with the disk `e`, then the operation answers the same in the
second round, wherever this has come to be at the same point. -/
structure Repeats {α : Type} (e : Disk) (out : Location) (names : List String) (P : Disk → Prop)
    (x : Job α) (Q : Disk → Prop) : Prop where
  ensures : Job.Ensures P (Disk.GrownIn out names) x Q
  again : ∀ {σ τ : Session} {a : α}, P σ.disk → x.outcome σ = (.ok a, τ) →
    Disk.GrownIn out names τ.disk e → ∀ {υ : Session}, Disk.Retraces σ.disk e υ.disk →
    ∃ ω, x.outcome υ = (.ok a, ω) ∧ Disk.Retraces τ.disk e ω.disk

namespace Repeats

variable {α β : Type} {e : Disk} {out : Location} {names : List String} {P Q S : Disk → Prop}
  {x : Job α} {f : α → Job β}

/-- An operation that leaves the files alone and whose answer does not depend on them. -/
theorem of_same (hdisk : ∀ σ, (x.outcome σ).2.disk = σ.disk)
    (hanswer : ∀ σ τ, (x.outcome σ).1 = (x.outcome τ).1) : Repeats e out names P x P where
  ensures := .of_same (.refl _ _) hdisk
  again {σ τ a} _ hx _ υ h := by
    refine ⟨(x.outcome υ).2, Prod.ext ?_ rfl, ?_⟩
    · rw [hanswer υ σ, hx]
    · have hτ := hdisk σ
      rw [hx] at hτ
      rw [hdisk, show τ.disk = σ.disk from hτ]
      exact h

theorem pure (a : α) : Repeats e out names P (Pure.pure a : Job α) P :=
  of_same (fun _ => rfl) fun _ _ => rfl

theorem orTrouble (problem : Trouble → Problem) (r : Except Trouble α) :
    Repeats e out names P (Job.orTrouble problem r) P :=
  of_same (fun _ => congrArg Session.disk (Job.outcome_orTrouble_snd ..))
    fun _ _ => Job.outcome_orTrouble_fst ..

theorem mono {Q' : Disk → Prop} (h : Repeats e out names P x Q) (hq : ∀ d, Q d → Q' d) :
    Repeats e out names P x Q' :=
  ⟨h.ensures.mono (fun _ h => h) (fun _ _ h => h) hq, h.again⟩

theorem bind (hx : Repeats e out names P x Q) (hf : ∀ a, Repeats e out names Q (f a) S) :
    Repeats e out names P (x >>= f) S where
  ensures := .bind Disk.GrownTo.trans hx.ensures fun a => (hf a).ensures
  again {σ τ b} hσ hout hgrown υ h := by
    obtain ⟨a, ρ, hfirst, hrest⟩ := Job.bind_eq_ok.mp hout
    have hρ : Q ρ.disk := by
      have hq := (hx.ensures σ hσ).2 a
      rw [hfirst] at hq
      exact hq rfl
    have hnext : Disk.GrownIn out names ρ.disk τ.disk := by
      have hgrown' := ((hf a).ensures ρ hρ).1
      rwa [hrest] at hgrown'
    obtain ⟨χ, hx', hχ⟩ := hx.again hσ hfirst (hnext.trans hgrown) h
    obtain ⟨ω, hf', hω⟩ := (hf a).again hρ hrest hgrown hχ
    exact ⟨ω, Job.bind_eq_ok.mpr ⟨a, χ, hx', hf'⟩, hω⟩

/-- An operation that looks at the files first, and does the same in both rounds. -/
theorem of_disk {g : Disk → Job β} (hg : ∀ d, Repeats e out names P (g d) Q)
    (hsame : ∀ c d, P d → Disk.GrownIn out names d e → Disk.Retraces d e c → g c = g d) :
    Repeats e out names P (Job.disk >>= g) Q where
  ensures := fun σ hσ => (hg σ.disk).ensures σ hσ
  again {σ τ b} hσ hout hgrown υ h := by
    have hnext : Disk.GrownIn out names σ.disk τ.disk := by
      have hgrown' := ((hg σ.disk).ensures σ hσ).1
      rwa [show (g σ.disk).outcome σ = (.ok b, τ) from hout] at hgrown'
    obtain ⟨ω, hf', hω⟩ := (hg σ.disk).again hσ hout hgrown h
    refine ⟨ω, ?_, hω⟩
    rw [← hsame υ.disk σ.disk hσ (hnext.trans hgrown) h] at hf'
    exact hf'

end Repeats

/-! ## Folders and files -/

theorem makeFolders_of_ok {what : String} {path : Path} {σ : Session} {d : Disk} {made : Unit}
    (h : σ.disk.ensureFolders path = (d, .ok made)) :
    (makeFolders what path).outcome σ = (.ok made, { σ with disk := d }) := by
  simp only [makeFolders, Job.outcome_bind, Job.outcome_disk, Job.outcome_setDisk, h]
  rfl

theorem writeFile_of_ok {folder : Path} {name text : String} {σ : Session} {d : Disk}
    (h : σ.disk.write (folder.child name) text.toUTF8 = .ok d) :
    (writeFile folder name text).outcome σ = (.ok (), { σ with disk := d }) := by
  simp only [writeFile, Job.outcome_bind, Job.outcome_disk, h]
  rfl

section

variable {e : Disk} {out : Location} {names : List String} {folder : Path} {name : String}

theorem repeats_makeFolders (what : String) (hmem : name ∈ names) (hname : IsEntryName name) :
    Repeats e out names (Disk.LeadsTo folder out) (makeFolders what (folder.child name))
      (Disk.LeadsTo (folder.child name) (out ++ [name])) where
  ensures := (ensures_makeFolders_child folder out what hname).mono (fun _ h => h)
    (fun _ _ h => h.mono (fun _ hl => ⟨name, hmem, hl⟩) fun _ hl _ => ⟨name, hmem, hl⟩)
    fun _ h => h
  again {σ τ made} _ hmake hgrown υ h := by
    obtain ⟨hagain, hτ⟩ := h.ensureFolders (makeFolders_eq_ok hmake) hgrown
    exact ⟨_, makeFolders_of_ok hagain, hτ⟩

theorem repeats_writeFile {file : String} (hmem : name ∈ names) (hfile : file ∈ scriptFileNames)
    (text : String) : Repeats e out names (Disk.LeadsTo folder (out ++ [name]))
      (writeFile folder file text) (Disk.LeadsTo folder (out ++ [name])) where
  ensures := (ensures_writeFile (isEntryName_of_mem_scriptFileNames hfile) text).mono
    (fun _ h => h) (fun _ _ h => h.mono (fun _ hl => ⟨name, hmem, hl⟩) fun _ hl _ => hl)
    fun _ h => h
  again {σ τ u} _ hwrite hgrown υ h := by
    have hput := writeFile_eq_ok hwrite
    have hnext : Disk.GrownTo (fun _ => True) (fun _ => True) σ.disk e :=
      (Disk.grownTo_of_write hput fun _ _ => trivial).trans
        (hgrown.mono (fun _ _ => trivial) fun _ _ _ => trivial)
    obtain ⟨d, hagain, hd⟩ := h.write hput hnext fun l hl =>
      hgrown.tree.file (Disk.get?_of_write hput hl)
    exact ⟨_, writeFile_of_ok hagain, hd⟩

/-! ## Copies -/

theorem copyFile_of_ok {source target : Path} {σ : Session} {d : Disk}
    (h : σ.disk.copy source target = .ok d) :
    (copyFile source target).outcome σ = (.ok [], { σ with disk := d }) := by
  simp only [copyFile, Job.outcome_bind, Job.outcome_disk, h]
  rfl

/-- A copy that fails is a warning, unless no file can have a name like this. -/
theorem copyFile_of_error {source target : Path} {σ : Session} {trouble : Trouble}
    (h : σ.disk.copy source target = .error trouble) : (copyFile source target).outcome σ
      = if trouble = .zeroCharacter then (.error (.storage .zeroCharacter), σ)
        else (.ok [copyWarning source target trouble],
          { σ with log := σ.log ++ [.ofWarning (copyWarning source target trouble)] }) := by
  simp only [copyFile, Job.outcome_bind, Job.outcome_disk, h]
  cases trouble <;> rfl

theorem repeats_copyFile {source target : Path} (hmem : name ∈ names) (hsource : IsRooted source)
    (hout : Disk.KeepsOut out names source) (hnear : Disk.IsNear folder target)
    (htarget : IsEntryName source.name → ∃ file, IsEntryName file ∧ target = folder.child file) :
    Repeats e out names (Disk.LeadsTo folder (out ++ [name])) (copyFile source target)
      (Disk.LeadsTo folder (out ++ [name])) := by
  have hensures : Job.Ensures (Disk.LeadsTo folder (out ++ [name])) (Disk.GrownIn out names)
      (copyFile source target) (Disk.LeadsTo folder (out ++ [name])) :=
    (ensures_copyFile hsource htarget).mono (fun _ h => h)
      (fun _ _ h => h.mono (fun _ hl => ⟨name, hmem, hl⟩) fun _ hl _ => hl) fun _ h => h
  refine ⟨hensures, fun {σ τ warnings} hσ hcopy hgrown {υ} h => ?_⟩
  have hnext : Disk.GrownIn out names σ.disk τ.disk := by
    have hgrown' := (hensures σ hσ).1
    rwa [hcopy] at hgrown'
  have hlast := hnext.trans hgrown
  cases hdisk : σ.disk.copy source target with
  | ok d =>
    rw [copyFile_of_ok hdisk] at hcopy
    cases hcopy
    obtain ⟨c, hagain, hc⟩ := h.copy hdisk hlast hgrown hσ hnear hout
    exact ⟨_, copyFile_of_ok hagain, hc⟩
  | error trouble =>
    rw [copyFile_of_error hdisk] at hcopy
    split at hcopy
    · cases hcopy
    · next hzero =>
      cases hcopy
      -- a file that can be read has a name, and goes to a name in the folder
      have hagain := copyFile_of_error <| h.copy_error hdisk hlast hσ hnear hout fun bytes hread =>
        have hname := hsource.isEntryName_of_read hread
        ⟨hname, htarget hname⟩
      rw [if_neg hzero] at hagain
      exact ⟨_, hagain, h⟩

/-! ## Data files -/

/-- The files of data sets come from elsewhere. -/
structure ReadsElsewhere (s : DataSource) (out : Location) (names : List String)
    (dataSets : List DataSet) : Prop where
  rooted : IsRooted s.folder
  keepsOut : ∀ dataSet ∈ dataSets, ∀ source, s.path? dataSet = some source →
    Disk.KeepsOut out names source

theorem ReadsElsewhere.tail {s : DataSource} {dataSet : DataSet} {rest : List DataSet}
    (h : ReadsElsewhere s out names (dataSet :: rest)) : ReadsElsewhere s out names rest :=
  ⟨h.rooted, fun other hmem => h.keepsOut other (.tail _ hmem)⟩

theorem isNear_join_parse {file : String} (h : '/' ∉ file.toList) :
    Disk.IsNear folder (folder.join (Path.parse file)) := by
  rcases Path.join_parse_of_no_slash h folder with heq | heq
  · exact .inl heq
  · exact .inr ⟨file, heq⟩

theorem repeats_place {s : DataSource} {parent : Path} {dataSet : DataSet}
    (hmem : name ∈ names) (hname : IsEntryName name) (hrooted : IsRooted s.folder)
    (hout : ∀ source, s.path? dataSet = some source → Disk.KeepsOut out names source) :
    Repeats e out names (Disk.LeadsTo (parent.child name) (out ++ [name]))
      (s.place (parent.child name) dataSet)
      (Disk.LeadsTo (parent.child name) (out ++ [name])) := by
  have hfolder : (parent.child name).name = name := Path.name_child parent name
  generalize parent.child name = folder at hfolder ⊢
  unfold DataSource.place
  cases hpath : s.path? dataSet with
  | none => exact .of_same (fun _ => rfl) fun _ _ => rfl
  | some source =>
    have hsource := isRooted_of_path? hrooted hpath
    have hslash := Path.no_slash_name fun part hpart => (hsource.parts part hpart).no_slash
    -- the name that the copy has in the folder, which need not be the name of a file
    have hcopied : '/' ∉ (folder.join (Path.parse source.name)).name.toList := by
      rcases Path.join_parse_of_no_slash hslash folder with heq | heq
      · rw [heq, hfolder]
        exact hname.no_slash
      · rw [heq, Path.name_child]
        exact hslash
    have hchild : IsEntryName source.name → folder.join (Path.parse source.name)
        = folder.child source.name := fun h => Path.join_parse_of_isEntryName h folder
    refine .of_disk (fun d => ?_) fun c d _ hgrown h => ?_
    · refine .bind (.orTrouble ..) fun isThere => ?_
      cases isThere with
      | false => exact .bind (.orTrouble ..) fun _ => .of_same (fun _ => rfl) fun _ _ => rfl
      | true =>
        refine .bind (repeats_copyFile hmem hsource (hout source hpath) (isNear_join_parse hslash)
          fun h => ⟨_, h, hchild h⟩) fun copied => ?_
        simp only [DataSource.parameterSet]
        cases s.writeDatFiles with
        | false => exact .of_same (fun _ => rfl) fun _ _ => rfl
        | true =>
          refine .bind (repeats_copyFile hmem hsource (hout source hpath)
            (isNear_join_parse (Storage.no_slash_datName hcopied)) fun h => ?_) fun _ => .pure _
          rw [hchild h, Path.name_child]
          have hdat := Storage.isEntryName_datName h
          exact ⟨_, hdat, Path.join_parse_of_isEntryName hdat folder⟩
    · simp only [Disk.exists?_congr (h.find_eq hgrown (hout source hpath)), Disk.resolve,
        h.workingFolder, hgrown.workingFolder]

theorem repeats_placeAll {s : DataSource} {parent : Path} {dataSets : List DataSet}
    (hmem : name ∈ names) (hname : IsEntryName name)
    (hs : ReadsElsewhere s out names dataSets) :
    Repeats e out names (Disk.LeadsTo (parent.child name) (out ++ [name]))
      (s.placeAll (parent.child name) dataSets)
      (Disk.LeadsTo (parent.child name) (out ++ [name])) := by
  induction dataSets with
  | nil => exact .pure _
  | cons dataSet rest ih =>
    refine .bind (repeats_place hmem hname hs.rooted (hs.keepsOut dataSet (.head _))) fun _ => ?_
    exact .bind (ih hs.tail) fun _ => .pure _

/-! ## Thread groups -/

/-- Converting a thread group can be repeated. -/
theorem repeats_convertGroup {s : Setting} (p : Progress) (g : Group)
    (hmem : s.scriptName p g ∈ names) (hs : ReadsElsewhere s.source out names s.dataSets) :
    Repeats e out names (Disk.LeadsTo s.outputFolder out) (convertGroup s p g) fun _ => True := by
  have hname := isEntryName_scriptName s p g
  have hfolder : s.outputFolder.join
      (Path.parse (folderName s.options.scriptPrefix p.taken (g.name p.number)))
      = s.outputFolder.child (s.scriptName p g) := groupFolder_eq s p g
  have hmake : Repeats e out names (Disk.LeadsTo s.outputFolder out)
      (makeFolders "script directory" (s.outputFolder.child (s.scriptName p g)))
      (Disk.LeadsTo (s.outputFolder.child (s.scriptName p g)) (out ++ [s.scriptName p g])) :=
    repeats_makeFolders _ hmem hname
  have hplace : Repeats e out names
      (Disk.LeadsTo (s.outputFolder.child (s.scriptName p g)) (out ++ [s.scriptName p g]))
      (s.source.placeAll (s.outputFolder.child (s.scriptName p g)) s.dataSets)
      (Disk.LeadsTo (s.outputFolder.child (s.scriptName p g)) (out ++ [s.scriptName p g])) :=
    repeats_placeAll hmem hname hs
  unfold convertGroup
  simp only [hfolder]
  generalize s.outputFolder.child (s.scriptName p g) = folder at hmake hplace ⊢
  have hsame : ∀ {α : Type} {x : Job α}, (∀ σ, (x.outcome σ).2.disk = σ.disk) →
      (∀ σ τ, (x.outcome σ).1 = (x.outcome τ).1) →
      Repeats e out names (Disk.LeadsTo folder (out ++ [s.scriptName p g])) x
        (Disk.LeadsTo folder (out ++ [s.scriptName p g])) := .of_same
  have hwrite : ∀ {file : String}, file ∈ scriptFileNames → ∀ text : String,
      Repeats e out names (Disk.LeadsTo folder (out ++ [s.scriptName p g]))
        (writeFile folder file text) (Disk.LeadsTo folder (out ++ [s.scriptName p g])) :=
    repeats_writeFile hmem
  -- the steps one by one; only the last looks at the files, for the working folder
  refine .bind hmake fun _ => .bind (hsame (fun _ => rfl) fun _ _ => rfl) fun _ => ?_
  refine .bind hplace fun placed => ?_
  refine .bind (.bind (hwrite (by decide) _) fun _ => hwrite (by decide) _) fun _ => ?_
  refine .bind (.bind (hwrite (by decide) _) fun _ => hwrite (by decide) _) fun _ => ?_
  refine .bind (hsame (fun σ => ?_) fun σ τ => ?_) fun bareWarnings => ?_
  · unfold warnIfBare
    cases g.items <;> rfl
  · unfold warnIfBare
    cases g.items <;> rfl
  refine .bind (hsame (fun _ => rfl) fun _ _ => rfl) fun _ =>
    .bind (hwrite (by decide) _) fun _ => ?_
  refine .bind (.of_disk (fun _ => hwrite (by decide) _) fun c d _ hgrown h => ?_) fun _ => ?_
  · rw [h.workingFolder, hgrown.workingFolder]
  · exact .mono (.pure _) fun _ _ => trivial

/-! ## Runs -/

/-- A run that was not stopped can be repeated on what it left behind. -/
theorem Runs.again {s : Setting} {p : Progress} {groups : List Group} {σ τ υ : Session}
    {reports : List GroupReport} (h : Runs s p groups σ reports none τ)
    (hs : ReadsElsewhere s.source out names s.dataSets) (hout : σ.disk.LeadsTo s.outputFolder out)
    (hnames : ∀ name ∈ scriptNames s.options.scriptPrefix p groups, name ∈ names)
    (hgrown : Disk.GrownIn out names τ.disk e) (hυ : Disk.Retraces σ.disk e υ.disk) :
    ∃ ω, Runs s p groups υ reports none ω ∧ Disk.Retraces τ.disk e ω.disk := by
  generalize hproblem : (none : Option Problem) = problem at h
  induction h generalizing υ with
  | done => exact ⟨υ, .done, hυ⟩
  | stopped stop => cases hproblem
  | @next p q g groups r reports problem σ ρ τ first others ih =>
    obtain ⟨x, hx⟩ := converted_of_ok first
    rw [hx.scriptNames_cons] at hnames
    have hmem : s.scriptName p g ∈ names := hnames _ (.head _)
    have hrest : ∀ name ∈ scriptNames s.options.scriptPrefix q groups, name ∈ names :=
      fun name hname => hnames name (.tail _ hname)
    have hfirst := grownTo_of_convertGroup first hs.rooted hout
    have hnext : Disk.GrownIn out names ρ.disk τ.disk :=
      (others.grownTo hs.rooted (hfirst.leadsTo hout)).mono
        (fun _ ⟨name, hname, hl⟩ => ⟨name, hrest name hname, hl⟩)
        fun _ ⟨name, hname, hl⟩ _ => ⟨name, hrest name hname, hl⟩
    obtain ⟨χ, hagain, hχ⟩ := (repeats_convertGroup p g hmem hs).again hout first
      (hnext.trans hgrown) hυ
    obtain ⟨ω, hruns, hω⟩ := ih (hfirst.leadsTo hout) hrest hgrown hχ hproblem
    exact ⟨ω, .next hagain hruns, hω⟩

end

end VuserScript.Conversion
