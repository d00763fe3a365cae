/-
  VuserScript.Proofs.Storage.Growth

  How a tree of files may change when nothing is removed: `Grown` says which
  locations may get a file and which a folder. All operations on files change a
  disk in this way, paths keep leading where they led, and such changes compose.
-/
import VuserScript.Proofs.Storage.Operations

namespace VuserScript.Storage

/-- What is at a location has to stay: a file that may not be written, or nothing in a folder that
may not be. -/
inductive FileTree.IsFixed (t : FileTree) (l : Location) : Prop where
  | file {bytes : ByteArray} (there : t.get? l = some (.file bytes))
      (closed : (t.access l).write = false)
  | nothing (none : t.get? l = none) (folder : t.get? l.dropLast = some .folder)
      (closed : (t.access l.dropLast).write = false)

theorem FileTree.not_isFixed_of_mayPut {t : FileTree} {l : Location} (h : t.mayPut l = true) :
    ¬ t.IsFixed l := by
  unfold FileTree.mayPut at h
  rintro (⟨there, closed⟩ | ⟨none, -, closed⟩)
  · rw [there] at h
    exact absurd (h.symm.trans closed) (by decide)
  · rw [none] at h
    exact absurd (h.symm.trans closed) (by decide)

/-- At a location there is the same as before, and the same may be done with it. -/
def FileTree.SameAt (t u : FileTree) (l : Location) : Prop :=
  u.get? l = t.get? l ∧ u.access l = t.access l

/-- Parts lead to the same location in a tree in which all folders are as in another one. -/
theorem FileTree.follow_of_folders {t u : FileTree} {start l : Location} {parts : List String}
    (h : ∀ k, t.get? k = some .folder → t.SameAt u k) (hfollow : t.follow start parts = .ok l) :
    u.follow start parts = .ok l := by
  induction parts using List.reverseRecOn generalizing l with
  | nil => exact hfollow
  | append_singleton parts part ih =>
    obtain ⟨k, hk, hstep⟩ := follow_concat_eq_ok.mp hfollow
    refine follow_concat_eq_ok.mpr ⟨k, ih hk, ?_⟩
    obtain ⟨hsame, haccess⟩ := h k (isFolder_of_step hstep)
    rwa [step, hsame, haccess]

/-- A tree that has become another one: at some locations there is a file now, and no folder was
there before; at some there is a folder where nothing was; everything else is as it was, and so is
what has to stay. -/
def Grown (files folders : Location → Prop) (t u : FileTree) : Prop :=
  ∀ l, t.SameAt u l
    ∨ (files l ∧ ¬ t.IsFixed l ∧ t.get? l ≠ some .folder ∧ ∃ bytes, u.get? l = some (.file bytes))
    ∨ (folders l ∧ ¬ t.IsFixed l ∧ t.get? l = none ∧ u.get? l = some .folder)

namespace Grown

variable {files folders : Location → Prop} {t u v : FileTree} {l : Location}

theorem refl (files folders : Location → Prop) (t : FileTree) : Grown files folders t t :=
  fun _ => .inl ⟨rfl, rfl⟩

/-! ## What stays -/

/-- A folder stays, and with it may be done what might be done before. -/
theorem same_folder (h : Grown files folders t u) (hl : t.get? l = some .folder) :
    t.SameAt u l := by
  rcases h l with hsame | ⟨-, -, hno, -⟩ | ⟨-, -, hnone, -⟩
  · exact hsame
  · exact absurd hl hno
  · rw [hl] at hnone
    cases hnone

theorem folder (h : Grown files folders t u) (hl : t.get? l = some .folder) :
    u.get? l = some .folder :=
  (h.same_folder hl).1.trans hl

theorem same_of_isFixed (h : Grown files folders t u) (hl : t.IsFixed l) : t.SameAt u l := by
  rcases h l with hsame | ⟨-, hfree, -⟩ | ⟨-, hfree, -⟩
  · exact hsame
  · exact absurd hl hfree
  · exact absurd hl hfree

/-- What has to stay has to stay ever after. -/
theorem isFixed (h : Grown files folders t u) (hl : t.IsFixed l) : u.IsFixed l := by
  obtain ⟨hsame, haccess⟩ := h.same_of_isFixed hl
  cases hl with
  | file there closed => exact .file (hsame.trans there) (haccess ▸ closed)
  | nothing none folder closed =>
    obtain ⟨hfolder, haccess⟩ := h.same_folder folder
    exact .nothing (hsame.trans none) (hfolder.trans folder) (haccess ▸ closed)

theorem file {bytes : ByteArray} (h : Grown files folders t u)
    (hl : t.get? l = some (.file bytes)) : ∃ others, u.get? l = some (.file others) := by
  rcases h l with hsame | ⟨-, -, -, others, h⟩ | ⟨-, -, hnone, -⟩
  · exact ⟨bytes, hsame.1.trans hl⟩
  · exact ⟨others, h⟩
  · rw [hl] at hnone
    cases hnone

/-- If only folders are made, the files stay as they are. -/
theorem same_file {bytes : ByteArray} (h : Grown (fun _ => False) folders t u)
    (hl : t.get? l = some (.file bytes)) : t.SameAt u l := by
  rcases h l with hsame | ⟨hno, -⟩ | ⟨-, -, hnone, -⟩
  · exact hsame
  · exact hno.elim
  · rw [hl] at hnone
    cases hnone

/-- Nothing changes where no change is allowed. -/
theorem same (h : Grown files folders t u) (hfiles : ¬ files l) (hfolders : ¬ folders l) :
    t.SameAt u l := by
  rcases h l with hsame | ⟨hl, -⟩ | ⟨hl, -⟩
  · exact hsame
  · exact absurd hl hfiles
  · exact absurd hl hfolders

theorem follow (h : Grown files folders t u) {start : Location} {parts : List String}
    (hfollow : t.follow start parts = .ok l) : u.follow start parts = .ok l :=
  FileTree.follow_of_folders (fun _ hk => h.same_folder hk) hfollow

/-! ## Composition -/

theorem trans (h : Grown files folders t u) (h' : Grown files folders u v) :
    Grown files folders t v := by
  intro l
  rcases h l with hu | ⟨hl, hfree, ht, bytes, hu⟩ | ⟨hl, hfree, ht, hu⟩
  · rcases h' l with hv | ⟨hl, hfree, hu', hv⟩ | ⟨hl, hfree, hu', hv⟩
    · exact .inl ⟨hv.1.trans hu.1, hv.2.trans hu.2⟩
    · exact .inr (.inl ⟨hl, mt h.isFixed hfree, hu.1 ▸ hu', hv⟩)
    · exact .inr (.inr ⟨hl, mt h.isFixed hfree, hu.1 ▸ hu', hv⟩)
  · refine .inr (.inl ⟨hl, hfree, ht, ?_⟩)
    exact h'.file hu
  · exact .inr (.inr ⟨hl, hfree, ht, h'.folder hu⟩)

theorem mono {files' folders' : Location → Prop} (h : Grown files folders t u)
    (hfiles : ∀ l, files l → files' l) (hfolders : ∀ l, folders l → t.get? l = none → folders' l) :
    Grown files' folders' t u := by
  intro l
  rcases h l with hsame | ⟨hl, h⟩ | ⟨hl, hfree, hnone, h⟩
  · exact .inl hsame
  · exact .inr (.inl ⟨hfiles l hl, h⟩)
  · exact .inr (.inr ⟨hfolders l hl hnone, hfree, hnone, h⟩)

/-! ## Single changes -/

theorem sameAt_put_of_ne {k : Location} (h : k ≠ l) (e : Entry) : t.SameAt (t.put l e) k :=
  ⟨t.get?_put_of_ne h e, t.access_put_of_ne h e⟩

/-- A file that is put at a location, whatever may be done with it then. -/
theorem of_put_file (files folders : Location → Prop) (hl : files l)
    (h : t.get? l ≠ some .folder) (hput : t.mayPut l = true) (bytes : ByteArray) :
    Grown files folders t (t.put l (.file bytes)) := by
  intro k
  by_cases hk : k = l
  · subst hk
    have hne : k ≠ [] := fun hk => h (hk ▸ rfl)
    exact .inr (.inl ⟨hl, FileTree.not_isFixed_of_mayPut hput, h, bytes, t.get?_put_self hne _⟩)
  · exact .inl (sameAt_put_of_ne hk _)

theorem of_put_folder (files folders : Location → Prop) (hl : folders l) (h : t.get? l = none)
    (hput : t.mayPut l = true) : Grown files folders t (t.put l .folder) := by
  intro k
  by_cases hk : k = l
  · subst hk
    have hne : k ≠ [] := by
      rintro rfl
      cases h
    exact .inr (.inr ⟨hl, FileTree.not_isFixed_of_mayPut hput, h, t.get?_put_self hne _⟩)
  · exact .inl (sameAt_put_of_ne hk _)

/-- What may be done with a file that has changed may change as well. -/
theorem setAccess (h : Grown files folders t u) (hl : files l) (hfree : ¬ t.IsFixed l)
    (hno : t.get? l ≠ some .folder) {bytes : ByteArray} (hfile : u.get? l = some (.file bytes))
    (a : Access) : Grown files folders t (u.setAccess l a) := by
  intro k
  by_cases hk : k = l
  · subst hk
    exact .inr (.inl ⟨hl, hfree, hno, bytes, (u.get?_setAccess k k a).trans hfile⟩)
  · rcases h k with hsame | hnew | hnew
    · exact .inl ⟨(u.get?_setAccess l k a).trans hsame.1,
        (u.access_setAccess_of_ne hk a).trans hsame.2⟩
    · exact .inr (.inl (by rwa [FileTree.get?_setAccess]))
    · exact .inr (.inr (by rwa [FileTree.get?_setAccess]))

end Grown

/-! ## Inside a folder -/

/-- A location inside another one. -/
def IsInside (l k : Location) : Prop :=
  l <+: k ∧ k ≠ l

theorem isInside_concat (l : Location) (name : String) : IsInside l (l ++ [name]) :=
  ⟨List.prefix_append l [name], by simp⟩

theorem IsInside.concat {k : Location} (h : IsInside l k) (name : String) :
    IsInside l (k ++ [name]) := by
  refine ⟨h.1.trans (List.prefix_append k [name]), fun heq => ?_⟩
  have := h.1.length_le
  rw [← heq, List.length_append, List.length_singleton] at this
  omega

/-! ## Disks -/

/-- A disk that has become another one with the same working folder. -/
structure Disk.GrownTo (files folders : Location → Prop) (d e : Disk) : Prop where
  workingFolder : e.workingFolder = d.workingFolder
  tree : Grown files folders d.tree e.tree

namespace Disk

variable {files folders : Location → Prop} {c d e : Disk} {p : Path} {l : Location}

namespace GrownTo

theorem refl (files folders : Location → Prop) (d : Disk) : GrownTo files folders d d :=
  ⟨rfl, .refl _ _ _⟩

theorem trans (h : GrownTo files folders c d) (h' : GrownTo files folders d e) :
    GrownTo files folders c e :=
  ⟨h'.workingFolder.trans h.workingFolder, h.tree.trans h'.tree⟩

theorem mono {files' folders' : Location → Prop} (h : GrownTo files folders d e)
    (hfiles : ∀ l, files l → files' l)
    (hfolders : ∀ l, folders l → d.tree.get? l = none → folders' l) :
    GrownTo files' folders' d e :=
  ⟨h.workingFolder, h.tree.mono hfiles hfolders⟩

/-- A path that leads somewhere leads there ever after. -/
theorem locate (h : GrownTo files folders d e) (hp : d.locate p = .ok l) :
    e.locate p = .ok l := by
  obtain ⟨hzero, hlong, hfollow⟩ := locate_eq_ok.mp hp
  have hstart : e.startOf p = d.startOf p := by simp only [startOf, h.workingFolder]
  exact locate_eq_ok.mpr ⟨hzero, hlong, hstart ▸ h.tree.follow hfollow⟩

theorem leadsTo (h : GrownTo files folders d e) (hp : d.LeadsTo p l) : e.LeadsTo p l :=
  ⟨h.locate hp.locate, h.tree.folder hp.folder⟩

/-- A file at a location where no change is allowed is read as before. -/
theorem read_iff {bytes : ByteArray} (h : GrownTo files folders d e) (hp : d.locate p = .ok l)
    (hfiles : ¬ files l) (hfolders : ¬ folders l) :
    e.read p = .ok bytes ↔ d.read p = .ok bytes := by
  obtain ⟨hentry, haccess⟩ := h.tree.same hfiles hfolders
  simp only [read_eq_ok, hp, h.locate hp, Except.ok.injEq, exists_eq_left', hentry, haccess]

end GrownTo

/-- What is at a location and inside it is the same on two disks. -/
def SameFrom (l : Location) (d e : Disk) : Prop :=
  ∀ k, l <+: k → d.tree.SameAt e.tree k

/-- What is made in folders of other names leaves a folder alone. -/
theorem GrownTo.sameFrom {changed : String → Prop} {name : String}
    (h : GrownTo (fun k => ∃ other, changed other ∧ IsInside (l ++ [other]) k)
      (fun k => ∃ other, changed other ∧ k = l ++ [other]) d e) (hname : ¬ changed name) :
    SameFrom (l ++ [name]) d e := by
  intro k hk
  have hother : ∀ other, changed other → ¬ l ++ [other] <+: k := by
    intro other hchanged hleads
    rcases List.prefix_or_prefix_of_prefix hk hleads with hsame | hsame
    · obtain rfl : name = other := by simpa using hsame
      exact hname hchanged
    · obtain rfl : other = name := by simpa using hsame
      exact hname hchanged
  refine h.tree.same ?_ ?_
  · rintro ⟨other, hchanged, hleads, -⟩
    exact hother other hchanged hleads
  · rintro ⟨other, hchanged, rfl⟩
    exact hother other hchanged (List.prefix_refl _)

/-! ## Operations -/

theorem grownTo_of_write {bytes : ByteArray} (h : d.write p bytes = .ok e)
    (hfiles : ∀ l, d.locate p = .ok l → files l) : GrownTo files folders d e := by
  obtain ⟨l, hl, hno, hput, rfl⟩ := write_eq_ok.mp h
  exact ⟨rfl, .of_put_file _ _ (hfiles l hl) hno hput bytes⟩

theorem grownTo_of_makeFolder (h : d.makeFolder p = .ok e)
    (hfolders : ∀ l, d.locate p = .ok l → folders l) : GrownTo files folders d e := by
  obtain ⟨l, hl, hnone, hput, rfl⟩ := makeFolder_eq_ok.mp h
  exact ⟨rfl, .of_put_folder _ _ (hfolders l hl) hnone hput⟩

theorem grownTo_of_copy {source target : Path} (h : d.copy source target = .ok e)
    (hfiles : ∀ l, d.locate (d.goalOf source target).1 = .ok l → files l) :
    GrownTo files folders d e := by
  obtain ⟨bytes, written, here, there, -, -, hwrite, hthere, rfl⟩ := copy_eq_ok h
  have hthere' := hfiles there hthere
  have hgrown : GrownTo files folders d written := grownTo_of_write hwrite hfiles
  have hfile := get?_of_write hwrite hthere
  obtain ⟨l, hl, hno, hput, -⟩ := write_eq_ok.mp hwrite
  obtain rfl : there = l := Except.ok.inj (hthere.symm.trans hl)
  exact ⟨hgrown.workingFolder, hgrown.tree.setAccess hthere'
    (FileTree.not_isFixed_of_mayPut hput) hno hfile _⟩

theorem grownTo_of_ensureFolder (h : d.ensureFolder p = .ok e)
    (hfolders : ∀ l, d.locate p = .ok l → folders l) : GrownTo files folders d e := by
  rcases ensureFolder_eq_ok h with ⟨-, rfl⟩ | hmade
  · exact .refl _ _ _
  · exact grownTo_of_makeFolder hmade hfolders

theorem isFolder_of_ensureFolder (h : d.ensureFolder p = .ok e) : e.isFolder p = true := by
  rcases ensureFolder_eq_ok h with ⟨hfolder, rfl⟩ | hmade
  · exact hfolder
  · have hgrown : GrownTo (fun _ => False) (fun _ => True) d e :=
      grownTo_of_makeFolder hmade fun _ _ => trivial
    obtain ⟨l, hl, hnone, -, rfl⟩ := makeFolder_eq_ok.mp hmade
    have hne : l ≠ [] := by
      rintro rfl
      cases hnone
    exact isFolder_iff.mpr ⟨l, ⟨hgrown.locate hl, d.tree.get?_put_self hne _⟩⟩

/-- The locations of the path with a root and some parts, and of those it starts with. -/
def AlongPath (d : Disk) (root : Root) (parts : List String) (l : Location) : Prop :=
  ∃ leading, leading <+: parts ∧ d.locate ⟨root, leading⟩ = .ok l

theorem AlongPath.of_grownTo {root : Root} {parts : List String} (h : d.AlongPath root parts l)
    (hgrown : GrownTo files folders d e) : e.AlongPath root parts l := by
  obtain ⟨leading, hleading, hl⟩ := h
  exact ⟨leading, hleading, hgrown.locate hl⟩

theorem AlongPath.of_leading {root : Root} {a b : List String} (h : d.AlongPath root a l)
    (hab : a <+: b) : d.AlongPath root b l := by
  obtain ⟨leading, hleading, hl⟩ := h
  exact ⟨leading, hleading.trans hab, hl⟩

theorem grownTo_of_ensureFolder_along {root : Root} {parts : List String}
    (h : d.ensureFolder ⟨root, parts⟩ = .ok e) :
    GrownTo (fun _ => False) (e.AlongPath root parts) d e := by
  have hgrown : GrownTo (fun _ => False) (fun _ => True) d e :=
    grownTo_of_ensureFolder h fun _ _ => trivial
  exact grownTo_of_ensureFolder h fun l hl =>
    ⟨parts, List.prefix_refl _, hgrown.locate hl⟩

/-- Making a folder and those it lies in makes folders along its path only. -/
theorem grownTo_of_ensureFoldersFrom (root : Root) :
    ∀ (above : List String) (d : Disk), GrownTo (fun _ => False)
      ((d.ensureFoldersFrom root above).1.AlongPath root above.reverse) d
      (d.ensureFoldersFrom root above).1 := by
  intro above
  induction above with
  | nil =>
    intro d
    unfold ensureFoldersFrom
    split
    · next e he => exact grownTo_of_ensureFolder_along he
    · exact .refl _ _ _
  | cons part above ih =>
    intro d
    have hleads : above.reverse <+: (part :: above).reverse := by simp
    unfold ensureFoldersFrom
    simp only
    split
    · next e he => exact grownTo_of_ensureFolder_along he
    · next =>
      have habove := ih d
      split
      · next c trouble hc =>
        rw [hc] at habove
        exact habove.mono (fun _ h => h) fun _ h _ => h.of_leading hleads
      · next c hc =>
        rw [hc] at habove
        split
        · next e he =>
          have hlast := grownTo_of_ensureFolder_along he
          exact (habove.mono (fun _ h => h) fun _ h _ =>
            (h.of_leading hleads).of_grownTo hlast).trans hlast
        · exact habove.mono (fun _ h => h) fun _ h _ => h.of_leading hleads
    · exact .refl _ _ _

theorem grownTo_of_ensureFolders (d : Disk) (p : Path) : GrownTo (fun _ => False)
    ((d.ensureFolders p).1.AlongPath p.root p.parts) d (d.ensureFolders p).1 := by
  have h := grownTo_of_ensureFoldersFrom p.root p.parts.reverse d
  rwa [List.reverse_reverse] at h

theorem isFolder_of_ensureFoldersFrom {root : Root} {above : List String} {made : Unit}
    (h : d.ensureFoldersFrom root above = (e, .ok made)) :
    e.isFolder ⟨root, above.reverse⟩ = true := by
  cases above with
  | nil =>
    unfold ensureFoldersFrom at h
    split at h
    · next he => cases h; exact isFolder_of_ensureFolder he
    · cases h
  | cons part above =>
    unfold ensureFoldersFrom at h
    simp only at h
    split at h
    · next he => cases h; exact isFolder_of_ensureFolder he
    · split at h
      · cases h
      · split at h
        · next he => cases h; exact isFolder_of_ensureFolder he
        · cases h
    · cases h

theorem isFolder_of_ensureFolders {made : Unit} (h : d.ensureFolders p = (e, .ok made)) :
    e.isFolder p = true := by
  have := isFolder_of_ensureFoldersFrom h
  rwa [List.reverse_reverse] at this

/-! ## Files that may not be written -/

/-- No file has become one that may not be written: each of these was there before, and might not be
written then. -/
def KeepsWritable (d e : Disk) : Prop :=
  ∀ l bytes, e.tree.get? l = some (.file bytes) → (e.tree.access l).write = false →
    (∃ others, d.tree.get? l = some (.file others)) ∧ (d.tree.access l).write = false

namespace KeepsWritable

theorem refl (d : Disk) : KeepsWritable d d :=
  fun _ bytes hfile hclosed => ⟨⟨bytes, hfile⟩, hclosed⟩

theorem trans (h : KeepsWritable c d) (h' : KeepsWritable d e) : KeepsWritable c e := by
  intro l bytes he hclosed
  obtain ⟨⟨others, hd⟩, hno⟩ := h' l bytes he hclosed
  exact h l others hd hno

/-- What may not be written stays as it is, so that it does not matter when one starts to look. -/
theorem of_grownTo (h : KeepsWritable c e) (hgrown : GrownTo files folders c d) :
    KeepsWritable d e := by
  intro l bytes he hclosed
  obtain ⟨⟨others, hc⟩, hno⟩ := h l bytes he hclosed
  obtain ⟨hsame, haccess⟩ := hgrown.tree.same_of_isFixed (.file hc hno)
  exact ⟨⟨others, hsame.trans hc⟩, haccess ▸ hno⟩

/-- Making folders makes no such file. -/
theorem of_folders (h : GrownTo (fun _ => False) folders d e) : KeepsWritable d e := by
  intro l bytes he hclosed
  rcases h.tree l with ⟨hsame, haccess⟩ | ⟨hno, -⟩ | ⟨-, -, -, hfolder⟩
  · exact ⟨⟨bytes, hsame.symm.trans he⟩, haccess ▸ hclosed⟩
  · exact hno.elim
  · rw [he] at hfolder
    cases hfolder

/-- Nor does a write: a new file may be written, and one that is written might be. -/
theorem of_write {bytes : ByteArray} (h : d.write p bytes = .ok e) : KeepsWritable d e := by
  obtain ⟨k, hk, -, hput, rfl⟩ := write_eq_ok.mp h
  intro l others he hclosed
  by_cases hl : l = k
  · subst hl
    unfold FileTree.mayPut at hput
    cases hfound : d.tree.get? l with
    | none =>
      rw [d.tree.access_put_of_none hfound] at hclosed
      cases hclosed
    | some found =>
      rw [d.tree.access_put_of_some hfound] at hclosed
      rw [hfound] at hput
      exact absurd (hput.symm.trans hclosed) (by decide)
  · rw [d.tree.get?_put_of_ne hl] at he
    rw [d.tree.access_put_of_ne hl] at hclosed
    exact ⟨⟨others, he⟩, hclosed⟩

/-- Nor does a copy of a file that may be written. -/
theorem of_copy {source target : Path} (h : d.copy source target = .ok e)
    (hsource : ∀ l, d.locate source = .ok l → (d.tree.access l).write = true) :
    KeepsWritable d e := by
  obtain ⟨bytes, written, here, there, -, hhere, hwrite, -, rfl⟩ := copy_eq_ok h
  intro l others he hclosed
  rw [get?_setAccess] at he
  by_cases hl : l = there
  · subst hl
    have hopen := (written.tree.access_setAccess_self l (d.tree.access here)) ▸ hclosed
    exact absurd ((hsource here hhere).symm.trans hopen) (by decide)
  · have haccess := written.tree.access_setAccess_of_ne hl (d.tree.access here)
    exact of_write hwrite l others he (haccess ▸ hclosed)

end KeepsWritable

/-! ## In a folder -/

variable {name : String}

/-- Making a folder in a folder that is there makes no other folder. -/
theorem LeadsTo.ensureFolders_child (h : d.LeadsTo p l) (hname : IsEntryName name) :
    GrownTo (fun _ => False) (· = l ++ [name]) d (d.ensureFolders (p.child name)).1 := by
  have hgrown := grownTo_of_ensureFolders d (p.child name)
  refine hgrown.mono (fun _ h => h) fun k hk hnone => ?_
  obtain ⟨leading, hleading, hk⟩ := hk
  rcases List.prefix_concat_iff.mp hleading with rfl | hleading
  · exact (hgrown.leadsTo h).locate_child hname hk
  · -- what the folder lies in was there already
    obtain ⟨j, hj, hfolder⟩ :=
      FileTree.isFolder_of_follow_leading hleading (follow_of_locate h.locate) h.folder
    have hk := follow_of_locate hk
    have hstart : (d.ensureFolders (p.child name)).1.startOf ⟨p.root, leading⟩ = d.startOf p := by
      simp only [startOf, hgrown.workingFolder, Path.isAbsolute]
      rfl
    have hkj : k = j := Except.ok.inj ((hstart ▸ hk).symm.trans (hgrown.tree.follow hj))
    rw [hkj, hfolder] at hnone
    cases hnone

/-- The folder that is made is in this folder. -/
theorem LeadsTo.child_of_ensureFolders {made : Unit} (h : d.LeadsTo p l) (hname : IsEntryName name)
    (hmade : d.ensureFolders (p.child name) = (e, .ok made)) :
    e.LeadsTo (p.child name) (l ++ [name]) := by
  have hgrown := h.ensureFolders_child hname
  rw [hmade] at hgrown
  obtain ⟨k, hk⟩ := isFolder_iff.mp (isFolder_of_ensureFolders hmade)
  obtain rfl := (hgrown.leadsTo h).locate_child hname hk.locate
  exact hk

theorem LeadsTo.write_child {bytes : ByteArray} (h : d.LeadsTo p l) (hname : IsEntryName name)
    (hwrite : d.write (p.child name) bytes = .ok e) : GrownTo (IsInside l) folders d e :=
  grownTo_of_write hwrite fun _ hk => h.locate_child hname hk ▸ isInside_concat l name

/-- Where a name leads to from a folder, a proper name or not, depends on this folder alone. -/
theorem LeadsTo.locate_child_eq (h : d.LeadsTo p l) (h' : e.LeadsTo p l)
    (haccess : e.tree.access l = d.tree.access l) (name : String) :
    e.locate (p.child name) = d.locate (p.child name) := by
  have hchild : ∀ b : Disk, b.LeadsTo p l →
      b.tree.follow (b.startOf (p.child name)) (p.child name).steps = b.tree.step l name := by
    intro b hb
    have hstart : b.startOf (p.child name) = b.startOf p := rfl
    rw [hstart, Path.steps_child, FileTree.follow_append, follow_of_locate hb.locate]
    exact bind_pure (b.tree.step l name)
  have hstep : e.tree.step l name = d.tree.step l name := by
    rw [FileTree.step, FileTree.step, h.folder, h'.folder, haccess]
  rw [Disk.locate, Disk.locate, hchild d h, hchild e h', hstep]

/-- A path leads to the same folder on two disks, and all that is in this folder is the same. -/
def SameFolder (p : Path) (d e : Disk) : Prop :=
  ∃ l, d.LeadsTo p l ∧ e.LeadsTo p l ∧ SameFrom l d e

theorem SameFolder.holds {bytes : ByteArray} (h : SameFolder p d e) (hname : IsEntryName name)
    (hd : d.Holds (p.child name) bytes) : e.Holds (p.child name) bytes := by
  obtain ⟨l, hl, hl', hsame⟩ := h
  obtain ⟨k, hk, hfile⟩ := hd
  have hleads : l <+: k := hl.locate_child hname hk ▸ List.prefix_append l [name]
  exact ⟨k, (hl.locate_child_eq hl' (hsame l (List.prefix_refl l)).2 name).trans hk,
    (hsame k hleads).1.trans hfile⟩

/-- A copy into a folder that is there stays in this folder. -/
theorem LeadsTo.copy_child {source : Path} (h : d.LeadsTo p l) (hname : IsEntryName name)
    (hsource : IsEntryName source.name) (hcopy : d.copy source (p.child name) = .ok e) :
    GrownTo (IsInside l) folders d e := by
  refine grownTo_of_copy hcopy fun j hj => ?_
  unfold goalOf at hj
  by_cases hfolder : d.isFolder (p.child name) = true
  · rw [if_pos hfolder] at hj
    obtain ⟨k, hk⟩ := isFolder_iff.mp hfolder
    obtain rfl := h.locate_child hname hk.locate
    exact hk.locate_child hsource hj ▸ (isInside_concat l name).concat source.name
  · rw [if_neg hfolder] at hj
    exact h.locate_child hname hj ▸ isInside_concat l name

end Disk

end VuserScript.Storage
