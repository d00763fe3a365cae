/-
  VuserScript.Proofs.Storage.Retracing

  The same operations on files once more. What they made of a disk the first
  time is there already when they start again, and on their way they give to
  each file the bytes that it had at the same point before. So they come to the
  same answers, as long as what they read is not among what they made.
-/
import VuserScript.Proofs.Storage.Growth

namespace VuserScript.Storage

/-! ## Kinds of entries -/

/-- Whether an entry is a folder. -/
def Entry.isFolder : Entry → Bool
  | folder => true
  | file _ => false

namespace FileTree

variable {t u : FileTree} {start l : Location}

/-- The kind of entry at a location: whether it is a folder, if anything is there. -/
def kind? (t : FileTree) (l : Location) : Option Bool :=
  (t.get? l).map Entry.isFolder

theorem kind?_eq_folder : t.kind? l = some true ↔ t.get? l = some .folder := by
  unfold kind?
  rcases t.get? l with _ | _ | _ <;> simp [Entry.isFolder]

/-- Two trees are alike at a location for a path that passes by: there is a folder, a file or
nothing in both, and the same may be done with a folder. -/
structure Alike (t u : FileTree) (l : Location) : Prop where
  kind : u.kind? l = t.kind? l
  access : t.get? l = some .folder → u.access l = t.access l

theorem SameAt.alike (h : t.SameAt u l) : t.Alike u l where
  kind := by rw [kind?, h.1, kind?]
  access _ := h.2

/-- A step depends on nothing but this. -/
theorem step_congr (h : t.Alike u start) (part : String) :
    u.step start part = t.step start part := by
  obtain ⟨hkind, haccess⟩ := h
  unfold kind? at hkind
  unfold step
  rcases ht : t.get? start with _ | _ | _ <;> rcases hu : u.get? start with _ | _ | _ <;>
    simp_all [Entry.isFolder]

/-! ## Stations -/

/-- Where a part of a path leads from a folder. -/
def onward (l : Location) (part : String) : Location :=
  if part = ".." then l.dropLast
  else if part = "." ∨ part = "" then l
  else l ++ [part]

/-- The locations that the parts of a path call at, one after another. -/
def stations (start : Location) : List String → List Location
  | [] => []
  | part :: parts => onward start part :: stations (onward start part) parts

theorem onward_of_step {part : String} (h : t.step start part = .ok l) : l = onward start part := by
  unfold onward
  rcases step_eq_ok h with ⟨hup, rfl⟩ | ⟨hhere, rfl⟩ | ⟨hup, hdot, hempty, rfl⟩
  · rw [if_pos hup]
  · have hup : part ≠ ".." := by
      rcases hhere with rfl | rfl <;> decide
    rw [if_neg hup, if_pos hhere]
  · rw [if_neg hup, if_neg (not_or.mpr ⟨hdot, hempty⟩)]

theorem follow_cons (part : String) (parts : List String) :
    t.follow start (part :: parts) = (t.step start part).bind fun l => t.follow l parts := rfl

/-- Parts lead to the same in trees that are alike at the stations. -/
theorem follow_congr {parts : List String}
    (h : ∀ k, k = start ∨ k ∈ stations start parts → t.Alike u k) :
    u.follow start parts = t.follow start parts := by
  induction parts generalizing start with
  | nil => rfl
  | cons part parts ih =>
    rw [follow_cons, follow_cons, step_congr (h start (.inl rfl))]
    cases hstep : t.step start part with
    | error cause => rfl
    | ok l =>
      obtain rfl := onward_of_step hstep
      exact ih fun k hk => h k (.inr (List.mem_cons.mpr hk))

theorem mem_stations_of_follow {parts : List String} (h : t.follow start parts = .ok l) :
    l = start ∨ l ∈ stations start parts := by
  induction parts generalizing start with
  | nil =>
    cases h
    exact .inl rfl
  | cons part parts ih =>
    rw [follow_cons] at h
    cases hstep : t.step start part with
    | error cause =>
      rw [hstep] at h
      cases h
    | ok k =>
      rw [hstep] at h
      obtain rfl := onward_of_step hstep
      exact .inr (List.mem_cons.mpr (ih h))

/-- The steps of a path call at no other locations than its parts. -/
theorem mem_stations_of_steps {p : Path} {k : Location} (h : k ∈ stations start p.steps) :
    k = start ∨ k ∈ stations start p.parts := by
  unfold Path.steps at h
  split at h
  · exact .inl (List.mem_singleton.mp h)
  · exact .inr h

end FileTree

namespace Disk

variable {c d d' e : Disk} {p source target : Path} {l : Location} {bytes : ByteArray}

/-- A path passes through a location: one of its stations, or where it leads, is there or inside. -/
def Passes (d : Disk) (p : Path) (l : Location) : Prop :=
  ∃ k, (k ∈ FileTree.stations (d.startOf p) p.parts ∨ d.locate p = .ok k) ∧ l <+: k

/-! ## Paths on two disks -/

theorem startOf_congr (h : e.workingFolder = d.workingFolder) (p : Path) :
    e.startOf p = d.startOf p := by
  rw [startOf, startOf, h]

theorem locate_congr (hworking : e.workingFolder = d.workingFolder)
    (h : ∀ k, k = d.startOf p ∨ k ∈ FileTree.stations (d.startOf p) p.parts →
      d.tree.Alike e.tree k) : e.locate p = d.locate p := by
  have hsteps : ∀ k, k = d.startOf p ∨ k ∈ FileTree.stations (d.startOf p) p.steps →
      d.tree.Alike e.tree k := fun k hk =>
    hk.elim (fun heq => h k (.inl heq)) fun hmem => h k (FileTree.mem_stations_of_steps hmem)
  rw [locate, locate, startOf_congr hworking, FileTree.follow_congr hsteps]

theorem find_congr (hlocate : e.locate p = d.locate p)
    (h : ∀ l, d.locate p = .ok l → e.tree.get? l = d.tree.get? l) : e.find p = d.find p := by
  rw [find, find, hlocate]
  cases hl : d.locate p with
  | error trouble => rfl
  | ok l => simp only [bind, Except.bind, h l hl]

theorem exists?_congr (h : e.find p = d.find p) : e.exists? p = d.exists? p := by
  rw [exists?, exists?, h]

theorem read_congr (h : e.find p = d.find p)
    (haccess : ∀ l, d.locate p = .ok l → e.tree.access l = d.tree.access l) :
    e.read p = d.read p := by
  rw [read, read, h]
  cases hfind : d.find p with
  | error trouble => rfl
  | ok found => simp only [bind, Except.bind, haccess found.1 (find_eq_ok.mp hfind).1]

/-- A name leads from a folder up, nowhere else, or into the folder. -/
theorem LeadsTo.locate_child_cases {name : String} {k : Location} (h : d.LeadsTo p l)
    (hk : d.locate (p.child name) = .ok k) : k = l.dropLast ∨ k = l ∨ k = l ++ [name] := by
  obtain ⟨j, hj, hstep⟩ := FileTree.follow_concat_eq_ok.mp (follow_of_locate hk)
  obtain rfl : l = j := Except.ok.inj ((follow_of_locate h.locate).symm.trans hj)
  rcases FileTree.step_eq_ok hstep with ⟨-, hup⟩ | ⟨-, hhere⟩ | ⟨-, -, -, hin⟩
  · exact .inl hup
  · exact .inr (.inl hhere)
  · exact .inr (.inr hin)

theorem isSame_iff : d.isSame p source = true
    ↔ ∃ l, d.locate p = .ok l ∧ d.locate source = .ok l ∧ (d.tree.get? l).isSome = true := by
  unfold isSame
  constructor
  · intro h
    split at h
    · next a x b y hp hsource =>
      obtain ⟨hp, hx⟩ := find_eq_ok.mp hp
      obtain ⟨hsource, -⟩ := find_eq_ok.mp hsource
      obtain rfl : a = b := by simpa using h
      exact ⟨a, hp, hsource, by rw [hx]; rfl⟩
    · cases h
  · rintro ⟨l, hp, hsource, hsome⟩
    obtain ⟨x, hx⟩ := Option.isSome_iff_exists.mp hsome
    rw [find_eq_ok.mpr ⟨hp, hx⟩, find_eq_ok.mpr ⟨hsource, hx⟩]
    simp

/-! ## Folders that are there -/

theorem LeadsTo.ensureFolder (h : d.LeadsTo p l) : d.ensureFolder p = .ok d := by
  have hmade : d.makeFolder p = .error (.system .alreadyExists p.text) := by
    rw [makeFolder, h.locate]
    simp only [bind, Except.bind, h.folder]
    rfl
  rw [Disk.ensureFolder, hmade]
  simp [isFolder_iff.mpr ⟨l, h⟩]

/-- Where there is a folder none is made. -/
theorem LeadsTo.ensureFolders (h : d.LeadsTo p l) : d.ensureFolders p = (d, .ok ()) := by
  obtain ⟨root, parts⟩ := p
  rw [Disk.ensureFolders]
  cases hparts : parts.reverse with
  | nil =>
    obtain rfl := List.reverse_eq_nil_iff.mp hparts
    rw [ensureFoldersFrom, h.ensureFolder]
  | cons part above =>
    obtain rfl := List.reverse_eq_iff.mp hparts
    rw [ensureFoldersFrom]
    simp only [h.ensureFolder]

/-! ## Two rounds -/

/-- How far a second round has come. The first one went through the disk `d` to its last disk `e`,
where the second one started; it is at `c` now. All is as it was left, but for files that have been
written once more: these are as they were when the first round was at this point. Whatever the
first round has written since may be written again. -/
structure Retraces (d e c : Disk) : Prop where
  workingFolder : c.workingFolder = e.workingFolder
  tree : ∀ l, c.tree.get? l = e.tree.get? l
    ∨ (c.tree.get? l = d.tree.get? l ∧ ∃ bytes, d.tree.get? l = some (.file bytes))
  access : ∀ l, c.tree.access l = e.tree.access l
    ∨ (c.tree.access l = d.tree.access l ∧ ∃ bytes, d.tree.get? l = some (.file bytes))
  writable : KeepsWritable d e

namespace Retraces

variable {files folders : Location → Prop}

theorem start (h : KeepsWritable d e) : Retraces d e e :=
  ⟨rfl, fun _ => .inl rfl, fun _ => .inl rfl, h⟩

theorem alike (h : Retraces d e c) (hgrown : GrownTo files folders d e) (l : Location) :
    e.tree.Alike c.tree l where
  kind := by
    rcases h.tree l with heq | ⟨heq, bytes, hfile⟩
    · rw [FileTree.kind?, heq, FileTree.kind?]
    · obtain ⟨others, he⟩ := hgrown.tree.file hfile
      rw [FileTree.kind?, FileTree.kind?, heq, hfile, he]
      rfl
  access he := by
    rcases h.access l with heq | ⟨-, bytes, hfile⟩
    · exact heq
    · obtain ⟨others, hother⟩ := hgrown.tree.file hfile
      rw [hother] at he
      cases he

theorem locate_eq (h : Retraces d e c) (hgrown : GrownTo files folders d e) (p : Path) :
    c.locate p = e.locate p :=
  locate_congr h.workingFolder fun k _ => h.alike hgrown k

theorem folder_iff (h : Retraces d e c) (hgrown : GrownTo files folders d e) (l : Location) :
    c.tree.get? l = some .folder ↔ e.tree.get? l = some .folder := by
  rw [← FileTree.kind?_eq_folder, ← FileTree.kind?_eq_folder, (h.alike hgrown l).kind]

/-- A folder of the first round is one of the second, and the same may be done with it. -/
theorem same_folder (h : Retraces d e c) (hgrown : GrownTo files folders d e)
    (hl : d.tree.get? l = some .folder) : d.tree.SameAt c.tree l := by
  obtain ⟨hsame, haccess⟩ := hgrown.tree.same_folder hl
  have he := hsame.trans hl
  exact ⟨((h.folder_iff hgrown l).mpr he).trans hl.symm,
    ((h.alike hgrown l).access he).trans haccess⟩

/-- A path that leads to a folder in the first round does so in the second. -/
theorem leadsTo (h : Retraces d e c) (hgrown : GrownTo files folders d e) (hp : d.LeadsTo p l) :
    c.LeadsTo p l := by
  obtain ⟨hlocate, hfolder⟩ := hgrown.leadsTo hp
  exact ⟨(h.locate_eq hgrown p).trans hlocate, (h.folder_iff hgrown l).mpr hfolder⟩

/-- Where nothing has changed from some point of the first round on, the second is as the first. -/
theorem sameAt (h : Retraces d e c) (hsame : d.tree.SameAt e.tree l) :
    d.tree.SameAt c.tree l := by
  constructor
  · rcases h.tree l with heq | ⟨heq, -⟩
    · exact heq.trans hsame.1
    · exact heq
  · rcases h.access l with heq | ⟨heq, -⟩
    · exact heq.trans hsame.2
    · exact heq

/-- In the end everything is as it was left. -/
theorem finish (h : Retraces e e c) (l : Location) : e.tree.SameAt c.tree l :=
  h.sameAt ⟨rfl, rfl⟩

/-! ## Folders and files -/

theorem ensureFolders {made : Unit} (h : Retraces d e c)
    (hmade : d.ensureFolders p = (d', .ok made)) (hgrown : GrownTo files folders d' e) :
    c.ensureFolders p = (c, .ok ()) ∧ Retraces d' e c := by
  have hfirst := grownTo_of_ensureFolders d p
  rw [hmade] at hfirst
  have hfar : GrownTo (fun _ => True) (fun _ => True) d e :=
    (hfirst.mono (fun _ _ => trivial) fun _ _ _ => trivial).trans
      (hgrown.mono (fun _ _ => trivial) fun _ _ _ => trivial)
  obtain ⟨l, hl⟩ := isFolder_iff.mp (isFolder_of_ensureFolders hmade)
  have he := hgrown.leadsTo hl
  have hc : c.LeadsTo p l :=
    ⟨(h.locate_eq hfar p).trans he.locate, (h.folder_iff hfar l).mpr he.folder⟩
  -- what was a file before the folder was made is the same file
  have hsame : ∀ {k : Location} {bytes : ByteArray}, d.tree.get? k = some (.file bytes) →
      d.tree.SameAt d'.tree k := hfirst.tree.same_file
  refine ⟨hc.ensureFolders, h.workingFolder, fun k => ?_, fun k => ?_,
    h.writable.of_grownTo hfirst⟩
  · rcases h.tree k with heq | ⟨heq, bytes, hfile⟩
    · exact .inl heq
    · have hfile' := (hsame hfile).1.trans hfile
      exact .inr ⟨heq.trans (hfile.trans hfile'.symm), bytes, hfile'⟩
  · rcases h.access k with heq | ⟨heq, bytes, hfile⟩
    · exact .inl heq
    · exact .inr ⟨heq.trans (hsame hfile).2.symm, bytes, (hsame hfile).1.trans hfile⟩

/-- Where the first round put a file that stayed, the second round may put one. -/
theorem mayPut (h : Retraces d e c) (hput : d.tree.mayPut l = true)
    (hc : ∃ bytes, c.tree.get? l = some (.file bytes))
    (he : ∃ bytes, e.tree.get? l = some (.file bytes)) : c.tree.mayPut l = true := by
  obtain ⟨bytes, hc⟩ := hc
  obtain ⟨others, he⟩ := he
  rw [FileTree.mayPut, hc]
  simp only
  rcases h.access l with heq | ⟨heq, first, hd⟩
  · -- a file that may not be written in the end might not be written before
    rw [heq]
    by_contra hclosed
    obtain ⟨⟨first, hd⟩, hno⟩ := h.writable l others he (by simpa using hclosed)
    rw [FileTree.mayPut, hd] at hput
    exact absurd (hput.symm.trans hno) (by decide)
  · rw [FileTree.mayPut, hd] at hput
    rw [heq]
    exact hput

/-- Where the first round might put nothing, the second may not either. -/
theorem not_mayPut (h : Retraces d e c) (hgrown : GrownTo files folders d e)
    (hput : d.tree.mayPut l = false) (hno : d.tree.get? l ≠ some .folder)
    (hfolder : d.tree.get? l.dropLast = some .folder) :
    c.tree.get? l ≠ some .folder ∧ c.tree.mayPut l = false := by
  have hfixed : d.tree.IsFixed l := by
    unfold FileTree.mayPut at hput
    rcases hl : d.tree.get? l with _ | _ | bytes <;> rw [hl] at hput
    · exact .nothing hl hfolder hput
    · exact absurd hl hno
    · exact .file hl hput
  obtain ⟨hsame, haccess⟩ := h.sameAt (hgrown.tree.same_of_isFixed hfixed)
  refine ⟨fun hc => hno (hsame.symm.trans hc), ?_⟩
  rw [← hput, FileTree.mayPut, FileTree.mayPut, hsame, haccess,
    (h.same_folder hgrown hfolder).2]

theorem write (h : Retraces d e c) (hwrite : d.write p bytes = .ok d')
    (hgrown : GrownTo files folders d e)
    (hlast : ∀ l, d.locate p = .ok l → ∃ others, e.tree.get? l = some (.file others)) :
    ∃ c', c.write p bytes = .ok c' ∧ Retraces d' e c' := by
  have hfirst : GrownTo (fun _ => True) (fun _ => True) d d' :=
    grownTo_of_write hwrite fun _ _ => trivial
  obtain ⟨l, hl, hno, hput, rfl⟩ := write_eq_ok.mp hwrite
  have hne : l ≠ [] := fun heq => hno (heq ▸ rfl)
  have hfile := d.tree.get?_put_self hne (.file bytes)
  have hlocate : c.locate p = .ok l := (h.locate_eq hgrown p).trans (hgrown.locate hl)
  obtain ⟨others, he⟩ := hlast l hl
  obtain ⟨found, hfound⟩ : ∃ found, c.tree.get? l = some (.file found) := by
    rcases h.tree l with heq | ⟨heq, found, hd⟩
    · exact ⟨others, heq.trans he⟩
    · exact ⟨found, heq.trans hd⟩
  have hagain : c.tree.mayPut l = true := h.mayPut hput ⟨found, hfound⟩ ⟨others, he⟩
  refine ⟨_, write_eq_ok.mpr ⟨l, hlocate, by simp [hfound], hagain, rfl⟩, h.workingFolder,
    fun k => ?_, fun k => ?_, h.writable.of_grownTo hfirst⟩
  · by_cases hk : k = l
    · subst hk
      exact .inr ⟨(c.tree.get?_put_self hne _).trans hfile.symm, bytes, hfile⟩
    · rw [c.tree.get?_put_of_ne hk, d.tree.get?_put_of_ne hk]
      exact h.tree k
  · rw [c.tree.access_put_of_some hfound]
    rcases h.access k with heq | ⟨heq, first, hd⟩
    · exact .inl heq
    · -- a file that was there may be used as it might be before it was written
      refine .inr ⟨heq.trans ?_, ?_⟩
      · by_cases hk : k = l
        · exact (d.tree.access_put_of_some (hk ▸ hd) _ k).symm
        · exact (d.tree.access_put_of_ne hk _).symm
      · by_cases hk : k = l
        · exact ⟨bytes, hk ▸ hfile⟩
        · exact ⟨first, (d.tree.get?_put_of_ne hk _).trans hd⟩

/-- What may be done with a file is set in both rounds alike. -/
theorem setAccess (h : Retraces d e c) (hfile : d.tree.get? l = some (.file bytes)) {a : Access}
    (hwritable : KeepsWritable (d.setAccess l a) e) :
    Retraces (d.setAccess l a) e (c.setAccess l a) := by
  refine ⟨h.workingFolder, fun k => ?_, fun k => ?_, hwritable⟩
  · rw [get?_setAccess, get?_setAccess]
    exact h.tree k
  · rw [get?_setAccess]
    by_cases hk : k = l
    · rw [hk]
      exact .inr ⟨(c.tree.access_setAccess_self l a).trans
        (d.tree.access_setAccess_self l a).symm, bytes, hfile⟩
    · have hc := c.tree.access_setAccess_of_ne hk a
      have hd := d.tree.access_setAccess_of_ne hk a
      rw [Disk.setAccess, Disk.setAccess, hc, hd]
      exact h.access k

end Retraces

/-! ## Copies -/

/-- A disk that grows by folders of some names, which lie in one folder, and inside these only. -/
abbrev GrownIn (out : Location) (names : List String) : Disk → Disk → Prop :=
  GrownTo (fun l => ∃ name ∈ names, IsInside (out ++ [name]) l)
    fun l => ∃ name ∈ names, l = out ++ [name]

section

variable {out : Location} {names : List String} {name : String} {folder : Path}
  {files folders : Location → Prop}

theorem GrownIn.folder_iff (h : GrownIn out names d e) (hl : ∀ name ∈ names, l ≠ out ++ [name]) :
    e.tree.get? l = some .folder ↔ d.tree.get? l = some .folder := by
  refine ⟨fun he => ?_, h.tree.folder⟩
  rcases h.tree l with hsame | ⟨-, -, -, bytes, hfile⟩ | ⟨⟨name, hname, heq⟩, -⟩
  · exact hsame.1.symm.trans he
  · rw [hfile] at he
    cases he
  · exact absurd heq (hl name hname)

/-- A path that starts at a root and passes through no folder of some names in another folder. -/
structure KeepsOut (out : Location) (names : List String) (p : Path) : Prop where
  absolute : p.isAbsolute = true
  stations : ∀ k ∈ FileTree.stations [] p.parts, ∀ name ∈ names, ¬ out ++ [name] <+: k

theorem keepsOut_of_not_passes (habs : p.isAbsolute = true)
    (h : ∀ name ∈ names, ¬ d.Passes p (out ++ [name])) : KeepsOut out names p := by
  have hstart : d.startOf p = [] := if_pos habs
  refine ⟨habs, fun k hk name hname hleads => h name hname ⟨k, .inl ?_, hleads⟩⟩
  rwa [hstart]

/-- A file that was there first is read in the end as well, if its path passes through no folder
that may have grown meanwhile. -/
theorem GrownIn.read (h : GrownIn out names d e) (hmade : GrownTo (fun _ => False) folders d' d)
    (hread : d'.read p = .ok bytes) (hapart : ∀ name ∈ names, ¬ d'.Passes p (out ++ [name])) :
    e.read p = .ok bytes := by
  obtain ⟨l, hl, hfile, hopen⟩ := read_eq_ok.mp hread
  obtain ⟨hd, hdaccess⟩ := hmade.tree.same_file hfile
  obtain ⟨he, heaccess⟩ : d.tree.SameAt e.tree l := by
    refine h.tree.same ?_ ?_
    · rintro ⟨name, hname, hinside⟩
      exact hapart name hname ⟨l, .inr hl, hinside.1⟩
    · rintro ⟨name, hname, rfl⟩
      exact hapart name hname ⟨_, .inr hl, List.prefix_refl _⟩
  refine read_eq_ok.mpr ⟨l, h.locate (hmade.locate hl), (he.trans hd).trans hfile, ?_⟩
  rw [heaccess, hdaccess, hopen]

/-- At the stations of such a path nothing changes. -/
theorem GrownIn.sameAt (h : GrownIn out names d e) (hsource : KeepsOut out names source)
    (hl : l = d.startOf source ∨ l ∈ FileTree.stations (d.startOf source) source.parts) :
    d.tree.SameAt e.tree l := by
  have hstart : d.startOf source = [] := if_pos hsource.absolute
  rw [hstart] at hl
  have hout : ∀ name ∈ names, ¬ out ++ [name] <+: l := by
    rcases hl with rfl | hl
    · simp
    · exact hsource.stations l hl
  refine h.tree.same ?_ ?_
  · rintro ⟨name, hname, hinside⟩
    exact hout name hname hinside.1
  · rintro ⟨name, hname, rfl⟩
    exact hout name hname (List.prefix_refl _)

/-- What is looked at by a path depends on its stations alone. -/
theorem seen_congr (hworking : e.workingFolder = d.workingFolder)
    (h : ∀ k, k = d.startOf source ∨ k ∈ FileTree.stations (d.startOf source) source.parts →
      d.tree.SameAt e.tree k) :
    e.locate source = d.locate source ∧ ∀ l, d.locate source = .ok l → d.tree.SameAt e.tree l :=
  ⟨locate_congr hworking fun k hk => (h k hk).alike,
    fun l hl => h l (FileTree.mem_stations_of_follow (follow_of_locate hl))⟩

theorem GrownIn.seen_eq (h : GrownIn out names d e) (hsource : KeepsOut out names source) :
    e.locate source = d.locate source ∧ ∀ l, d.locate source = .ok l → d.tree.SameAt e.tree l :=
  seen_congr h.workingFolder fun _ hk => h.sameAt hsource hk

/-- In the second round the same is looked at. -/
theorem Retraces.seen_eq (h : Retraces d e c) (hgrown : GrownIn out names d e)
    (hsource : KeepsOut out names source) : c.locate source = d.locate source
      ∧ ∀ l, d.locate source = .ok l → d.tree.SameAt c.tree l :=
  seen_congr (h.workingFolder.trans hgrown.workingFolder) fun _ hk =>
    h.sameAt (hgrown.sameAt hsource hk)

theorem Retraces.find_eq (h : Retraces d e c) (hgrown : GrownIn out names d e)
    (hsource : KeepsOut out names source) : c.find source = d.find source :=
  find_congr (h.seen_eq hgrown hsource).1 fun l hl => ((h.seen_eq hgrown hsource).2 l hl).1

theorem Retraces.read_eq (h : Retraces d e c) (hgrown : GrownIn out names d e)
    (hsource : KeepsOut out names source) : c.read source = d.read source :=
  read_congr (h.find_eq hgrown hsource) fun l hl => ((h.seen_eq hgrown hsource).2 l hl).2

theorem Retraces.isSame_eq {goal : Path} (h : Retraces d e c) (hgrown : GrownIn out names d e)
    (hsource : KeepsOut out names source) (hgoal : c.locate goal = d.locate goal) :
    c.isSame source goal = d.isSame source goal := by
  obtain ⟨hlocate, hentry⟩ := h.seen_eq hgrown hsource
  rw [Bool.eq_iff_iff, isSame_iff, isSame_iff, hlocate, hgoal]
  refine exists_congr fun l => and_congr_right fun hl => ?_
  rw [(hentry l hl).1]

/-- A path to a folder or to something that is called up from it, be it the folder above. -/
def IsNear (folder target : Path) : Prop :=
  target = folder ∨ ∃ part, target = folder.child part

theorem Retraces.locate_near (h : Retraces d e c) (hgrown : GrownTo files folders d e)
    (hfolder : d.LeadsTo folder l) (htarget : IsNear folder target) :
    c.locate target = d.locate target := by
  have hc := h.leadsTo hgrown hfolder
  rcases htarget with rfl | ⟨part, rfl⟩
  · exact hc.locate.trans hfolder.locate.symm
  · exact hfolder.locate_child_eq hc (h.same_folder hgrown hfolder.folder).2 part

/-- What is called up from one of the folders is a folder in the second round if it was one in the
first: none of the others is called up, as they lie beside it. -/
theorem Retraces.isFolder_near (h : Retraces d e c) (hgrown : GrownIn out names d e)
    (hfolder : d.LeadsTo folder (out ++ [name])) (htarget : IsNear folder target) :
    c.isFolder target = d.isFolder target := by
  rw [Bool.eq_iff_iff, isFolder_iff, isFolder_iff]
  refine ⟨?_, fun ⟨l, hl⟩ => ⟨l, h.leadsTo hgrown hl⟩⟩
  rintro ⟨l, hl⟩
  have hlocate := (h.locate_near hgrown hfolder htarget).symm.trans hl.locate
  have he := (h.folder_iff hgrown l).mp hl.folder
  refine ⟨l, hlocate, ?_⟩
  have hlength : ∀ name ∈ names, l.length ≠ out.length + 1 →
      l ≠ out ++ [name] := by
    rintro name - hne rfl
    simp at hne
  by_cases hself : l = out ++ [name]
  · rw [hself]
    exact hfolder.folder
  refine (hgrown.folder_iff fun name hname => hlength name hname ?_).mp he
  rcases htarget with rfl | ⟨part, rfl⟩
  · exact absurd (Except.ok.inj (hlocate.symm.trans hfolder.locate)) hself
  · rcases hfolder.locate_child_cases hlocate with rfl | rfl | rfl
    · simp
    · exact absurd rfl hself
    · simp

theorem Retraces.goalOf_eq (h : Retraces d e c) (hgrown : GrownIn out names d e)
    (hfolder : d.LeadsTo folder (out ++ [name])) (htarget : IsNear folder target)
    (source : Path) : c.goalOf source target = d.goalOf source target
      ∧ c.locate (d.goalOf source target).1 = d.locate (d.goalOf source target).1 := by
  have hisFolder := h.isFolder_near hgrown hfolder htarget
  unfold goalOf
  rw [hisFolder]
  refine ⟨rfl, ?_⟩
  by_cases hinto : d.isFolder target = true
  · obtain ⟨l, hl⟩ := isFolder_iff.mp hinto
    rw [if_pos hinto]
    exact hl.locate_child_eq (h.leadsTo hgrown hl) (h.same_folder hgrown hl.folder).2 source.name
  · rw [if_neg hinto]
    exact h.locate_near hgrown hfolder htarget

/-- A copy to a name in a folder goes to a name in this folder or in the one of this name. -/
theorem LeadsTo.goalOf_child {file : String} {k : Location} (h : d.LeadsTo folder l)
    (hfile : IsEntryName file) (hsource : IsEntryName source.name)
    (hk : d.locate (d.goalOf source (folder.child file)).1 = .ok k) :
    d.tree.get? k.dropLast = some .folder := by
  unfold goalOf at hk
  by_cases hinto : d.isFolder (folder.child file) = true
  · rw [if_pos hinto] at hk
    obtain ⟨j, hj⟩ := isFolder_iff.mp hinto
    obtain rfl := hj.locate_child hsource hk
    simpa using hj.folder
  · rw [if_neg hinto] at hk
    obtain rfl := h.locate_child hfile hk
    simpa using h.folder

/-- A copy that was made is made again. -/
theorem Retraces.copy (h : Retraces d e c) (hcopy : d.copy source target = .ok d')
    (hgrown : GrownIn out names d e) (hlater : GrownIn out names d' e)
    (hfolder : d.LeadsTo folder (out ++ [name])) (htarget : IsNear folder target)
    (hsource : KeepsOut out names source) :
    ∃ c', c.copy source target = .ok c' ∧ Retraces d' e c' := by
  have hmade : GrownTo (fun _ => True) (fun _ => True) d d' :=
    grownTo_of_copy hcopy fun _ _ => trivial
  obtain ⟨hgoal, hlocate⟩ := h.goalOf_eq hgrown hfolder htarget source
  obtain ⟨hother, bytes, written, here, there, hbytes, hhere, hwrite, hthere, rfl⟩ :=
    copy_eq_ok_iff.mp hcopy
  have hfile := get?_of_write hwrite hthere
  have hlast : ∀ k, d.locate (d.goalOf source target).1 = .ok k →
      ∃ others, e.tree.get? k = some (.file others) := by
    intro k hk
    obtain rfl : there = k := Except.ok.inj (hthere.symm.trans hk)
    exact hlater.tree.file ((get?_setAccess _ _ _ _).trans hfile)
  obtain ⟨c', hagain, hc⟩ := h.write hwrite hgrown hlast
  -- both copies may be used like the file, which is the same in both rounds
  obtain ⟨hfound, hseen⟩ := h.seen_eq hgrown hsource
  refine ⟨c'.setAccess there (d.tree.access here), copy_eq_ok_iff.mpr ⟨?_, bytes, c', here, there,
    (h.read_eq hgrown hsource).trans hbytes, hfound.trans hhere, ?_, ?_, ?_⟩,
    hc.setAccess hfile (h.writable.of_grownTo hmade)⟩
  · rw [hgoal, h.isSame_eq hgrown hsource hlocate, hother]
  · rw [hgoal, hagain]
  · rw [hgoal, hlocate, hthere]
  · rw [(hseen here hhere).2]

/-- A copy that failed fails again in the same way. What can be read has a name, and it goes to a
name in the folder. -/
theorem Retraces.copy_error {trouble : Trouble} (h : Retraces d e c)
    (hcopy : d.copy source target = .error trouble) (hgrown : GrownIn out names d e)
    (hfolder : d.LeadsTo folder (out ++ [name])) (htarget : IsNear folder target)
    (hsource : KeepsOut out names source)
    (hnamed : ∀ bytes, d.read source = .ok bytes → IsEntryName source.name
      ∧ ∃ file, IsEntryName file ∧ target = folder.child file) :
    c.copy source target = .error trouble := by
  obtain ⟨hgoal, hlocate⟩ := h.goalOf_eq hgrown hfolder htarget source
  rw [copy_eq_error_iff, hgoal, h.isSame_eq hgrown hsource hlocate, h.read_eq hgrown hsource]
  refine (copy_eq_error_iff.mp hcopy).imp_right fun ⟨hother, hfails⟩ => ⟨hother, ?_⟩
  refine hfails.imp_right fun ⟨bytes, hbytes, hwrite⟩ => ⟨bytes, hbytes, ?_⟩
  rw [write_eq_error, hlocate]
  refine (write_eq_error.mp hwrite).imp_right fun ⟨l, hl, hcause⟩ => ⟨l, hl, ?_⟩
  rcases hcause with ⟨hinto, htrouble⟩ | ⟨hno, hput, htrouble⟩
  · exact .inl ⟨(h.same_folder hgrown hinto).1.trans hinto, htrouble⟩
  · obtain ⟨hname, file, hfile, rfl⟩ := hnamed bytes hbytes
    have habove := hfolder.goalOf_child hfile hname hl
    obtain ⟨hno', hput'⟩ := h.not_mayPut hgrown hput hno habove
    exact .inr ⟨hno', hput', htrouble⟩

end

end Disk

end VuserScript.Storage
