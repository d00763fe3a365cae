/-
  VuserScript.Proofs.Storage.Operations

  When operations on files answer, and what they answer then. Each statement
  takes an operation apart into the location that a path leads to and the entry
  that is there.
-/
import VuserScript.Proofs.Storage.Paths
import VuserScript.Storage.Disk

namespace VuserScript.Storage

namespace FileTree

variable {t : FileTree} {start l : Location}

@[simp] theorem get?_nil (t : FileTree) : t.get? [] = some .folder := rfl

/-! ## Steps -/

theorem isFolder_of_step {part : String} (h : t.step start part = .ok l) :
    t.get? start = some .folder := by
  unfold step at h
  split at h <;> first | assumption | cases h

/-- Where a step leads: up, nowhere else, or to a name in the folder. -/
theorem step_eq_ok {part : String} (h : t.step start part = .ok l) :
    (part = ".." ∧ l = start.dropLast) ∨ ((part = "." ∨ part = "") ∧ l = start)
      ∨ (part ≠ ".." ∧ part ≠ "." ∧ part ≠ "" ∧ l = start ++ [part]) := by
  rw [step, isFolder_of_step h] at h
  dsimp only at h
  by_cases hempty : part = ""
  · rw [if_pos hempty] at h
    exact .inr (.inl ⟨.inr hempty, (Except.ok.inj h).symm⟩)
  rw [if_neg hempty] at h
  by_cases hclosed : (!(t.access start).search) = true
  · rw [if_pos hclosed] at h
    cases h
  rw [if_neg hclosed] at h
  by_cases hup : part = ".."
  · rw [if_pos hup] at h
    exact .inl ⟨hup, (Except.ok.inj h).symm⟩
  rw [if_neg hup] at h
  by_cases hdot : part = "."
  · rw [if_pos hdot] at h
    exact .inr (.inl ⟨.inl hdot, (Except.ok.inj h).symm⟩)
  rw [if_neg hdot] at h
  split at h
  · cases h
  · exact .inr (.inr ⟨hup, hdot, hempty, (Except.ok.inj h).symm⟩)

theorem step_of_isEntryName {name : String} (hname : IsEntryName name)
    (h : t.step start name = .ok l) : l = start ++ [name] := by
  rcases step_eq_ok h with ⟨hup, -⟩ | ⟨hdot | hempty, -⟩ | ⟨-, -, -, hin⟩
  · exact absurd hup hname.ne_dots
  · exact absurd hdot hname.ne_dot
  · exact absurd hempty hname.ne_empty
  · exact hin

/-! ## Following parts -/

@[simp] theorem follow_nil : t.follow start [] = .ok start := rfl

theorem follow_append (a b : List String) :
    t.follow start (a ++ b) = (t.follow start a).bind fun l => t.follow l b := by
  simp only [follow, List.foldlM_append]
  rfl

theorem follow_concat_eq_ok {parts : List String} {part : String} :
    t.follow start (parts ++ [part]) = .ok l
      ↔ ∃ k, t.follow start parts = .ok k ∧ t.step k part = .ok l := by
  rw [follow_append]
  cases t.follow start parts with
  | error cause => simp [Except.bind]
  | ok k => simp [Except.bind, follow]

/-- The parts of a path lead where the path itself does. -/
theorem follow_of_steps {p : Path} (h : t.follow start p.steps = .ok l) :
    t.follow start p.parts = .ok l := by
  unfold Path.steps at h
  split at h
  · next hparts =>
    rw [hparts.2]
    obtain ⟨k, hk, hstep⟩ :=
      follow_concat_eq_ok.mp (show t.follow start ([] ++ ["."]) = .ok l from h)
    obtain rfl : start = k := Except.ok.inj hk
    rcases step_eq_ok hstep with ⟨hup, -⟩ | ⟨-, rfl⟩ | ⟨-, hdot, -⟩
    · exact absurd hup (by decide)
    · rfl
    · exact absurd rfl hdot
  · exact h

/-- Where parts lead can be told from the parts alone. -/
theorem follow_eq_normal {parts : List String} (h : t.follow start parts = .ok l)
    (hparts : ∀ part ∈ parts, part ≠ "." ∧ part ≠ "") : l = parts.foldl
      (fun above part => if part = ".." then above.dropLast else above ++ [part]) start := by
  induction parts using List.reverseRecOn generalizing l with
  | nil => cases h; rfl
  | append_singleton parts part ih =>
    obtain ⟨k, hk, hstep⟩ := follow_concat_eq_ok.mp h
    have hk := ih hk fun part hpart => hparts part (List.mem_append_left _ hpart)
    obtain ⟨hdot, hempty⟩ := hparts part (by simp)
    rw [List.foldl_append, ← hk, List.foldl_cons, List.foldl_nil]
    rcases step_eq_ok hstep with ⟨rfl, rfl⟩ | ⟨rfl | rfl, -⟩ | ⟨hup, -, -, rfl⟩
    · rfl
    · exact absurd rfl hdot
    · exact absurd rfl hempty
    · rw [if_neg hup]

/-- Parts that lead to a folder start with parts that lead to one. -/
theorem isFolder_of_follow_leading {a parts : List String} (hleads : a <+: parts)
    (h : t.follow start parts = .ok l) (hl : t.get? l = some .folder) :
    ∃ k, t.follow start a = .ok k ∧ t.get? k = some .folder := by
  induction parts using List.reverseRecOn generalizing l with
  | nil =>
    obtain rfl := List.prefix_nil.mp hleads
    exact ⟨l, h, hl⟩
  | append_singleton parts part ih =>
    rcases List.prefix_concat_iff.mp hleads with rfl | hleads
    · exact ⟨l, h, hl⟩
    · obtain ⟨k, hk, hstep⟩ := follow_concat_eq_ok.mp h
      exact ih hleads hk (isFolder_of_step hstep)

/-- All that a location lies in are folders. -/
def FoldersAbove (t : FileTree) (l : Location) : Prop :=
  ∀ k, k <+: l → k ≠ l → t.get? k = some .folder

theorem foldersAbove_nil : t.FoldersAbove [] := by
  intro k hk hne
  exact absurd (List.prefix_nil.mp hk) hne

theorem FoldersAbove.dropLast (h : t.FoldersAbove l) : t.get? l.dropLast = some .folder := by
  by_cases hl : l = []
  · rw [hl]
    rfl
  · refine h _ (List.dropLast_prefix l) fun heq => ?_
    have hlength := congrArg List.length heq
    rw [List.length_dropLast] at hlength
    have := List.length_pos_iff.mpr hl
    omega

theorem FoldersAbove.of_leading {k : Location} (h : t.FoldersAbove l) (hk : k <+: l) :
    t.FoldersAbove k := by
  intro j hj hne
  refine h j (hj.trans hk) fun heq => ?_
  rw [heq] at hj
  exact hne (heq.trans (hj.eq_of_length_le hk.length_le))

/-- Where a step leads, all above is a folder if all above its start is. -/
theorem FoldersAbove.step {part : String} (h : t.FoldersAbove start)
    (hstep : t.step start part = .ok l) : t.FoldersAbove l := by
  rcases step_eq_ok hstep with ⟨-, rfl⟩ | ⟨-, rfl⟩ | ⟨-, -, -, rfl⟩
  · exact h.of_leading (List.dropLast_prefix start)
  · exact h
  · intro k hk hne
    rcases List.prefix_concat_iff.mp hk with rfl | hk
    · exact absurd rfl hne
    · by_cases heq : k = start
      · exact heq ▸ isFolder_of_step hstep
      · exact h k hk heq

theorem FoldersAbove.follow {parts : List String} (h : t.FoldersAbove start)
    (hfollow : t.follow start parts = .ok l) : t.FoldersAbove l := by
  induction parts using List.reverseRecOn generalizing l with
  | nil => cases hfollow; exact h
  | append_singleton parts part ih =>
    obtain ⟨k, hk, hstep⟩ := follow_concat_eq_ok.mp hfollow
    exact (ih hk).step hstep

end FileTree

namespace Disk

variable {d e : Disk} {p : Path} {l : Location} {bytes : ByteArray}

/-! ## Locations -/

theorem locate_eq_ok : d.locate p = .ok l ↔ '\x00' ∉ p.text.toList
    ∧ p.text.utf8ByteSize ≤ longestPath ∧ d.tree.follow (d.startOf p) p.steps = .ok l := by
  unfold locate
  split
  · next h => simp [h]
  · next h =>
    split
    · next hlong => simp [Nat.not_le.mpr hlong]
    · next hlong =>
      cases d.tree.follow (d.startOf p) p.steps <;> simp [h, Nat.not_lt.mp hlong]

/-- The parts of a path that leads somewhere lead there as well. -/
theorem follow_of_locate (h : d.locate p = .ok l) :
    d.tree.follow (d.startOf p) p.parts = .ok l :=
  FileTree.follow_of_steps (locate_eq_ok.mp h).2.2

/-- A path leads to the location that its absolute form spells out. The working folder has to be a
proper location if it matters. -/
theorem locate_eq_resolve (h : d.locate p = .ok l) (hparts : ∀ part ∈ p.parts, Path.IsPart part)
    (hfolder : p.isAbsolute = true ∨ ∀ name ∈ d.workingFolder, IsEntryName name) :
    l = (p.resolve d.workingFolder).parts := by
  have hl := FileTree.follow_eq_normal (follow_of_locate h) fun part hpart =>
    ⟨(hparts part hpart).ne_dot, (hparts part hpart).ne_empty⟩
  rw [hl, Path.resolve, startOf]
  by_cases habs : p.isAbsolute = true
  · rw [if_pos habs, if_pos habs, Path.normalParts]
  · have hnormal : Path.normalParts d.workingFolder = d.workingFolder :=
      Path.normalParts_of_no_dots fun hmem => (hfolder.resolve_left habs _ hmem).ne_dots rfl
    rw [if_neg habs, if_neg habs]
    conv_lhs => rw [← hnormal]
    simp only [Path.normalParts, List.foldl_append]

theorem resolve_eq_ok {q : Path} :
    d.resolve p = .ok q ↔ '\x00' ∉ p.text.toList ∧ p.resolve d.workingFolder = q := by
  unfold Disk.resolve
  split
  · next h => simp [h]
  · next h => simp [h]

theorem find_eq_ok {entry : Entry} :
    d.find p = .ok (l, entry) ↔ d.locate p = .ok l ∧ d.tree.get? l = some entry := by
  unfold find
  cases hl : d.locate p with
  | error trouble => simp [bind, Except.bind]
  | ok k =>
    simp only [bind, Except.bind]
    cases hk : d.tree.get? k with
    | none =>
      simp only [throw, throwThe, MonadExceptOf.throw, Except.ok.injEq, reduceCtorEq, false_iff]
      rintro ⟨rfl, h⟩
      simp [hk] at h
    | some found =>
      simp only [pure, Except.pure, Except.ok.injEq, Prod.mk.injEq]
      constructor
      · rintro ⟨rfl, rfl⟩
        exact ⟨rfl, hk⟩
      · rintro ⟨rfl, h⟩
        exact ⟨rfl, Option.some.inj (hk.symm.trans h)⟩

/-- The file at a path has some bytes, whether or not it may be read. -/
def Holds (d : Disk) (p : Path) (bytes : ByteArray) : Prop :=
  ∃ l, d.locate p = .ok l ∧ d.tree.get? l = some (.file bytes)

theorem Holds.unique {others : ByteArray} (h : d.Holds p bytes) (h' : d.Holds p others) :
    bytes = others := by
  obtain ⟨l, hl, hfile⟩ := h
  obtain ⟨k, hk, hother⟩ := h'
  obtain rfl : l = k := Except.ok.inj (hl.symm.trans hk)
  simpa using hfile.symm.trans hother

theorem read_eq_ok : d.read p = .ok bytes ↔ ∃ l, d.locate p = .ok l
    ∧ d.tree.get? l = some (.file bytes) ∧ (d.tree.access l).read = true := by
  simp only [← and_assoc, ← find_eq_ok]
  unfold read
  cases hf : d.find p with
  | error trouble => simp [bind, Except.bind]
  | ok found =>
    obtain ⟨k, entry⟩ := found
    cases hread : (d.tree.access k).read <;> cases entry <;>
      simp [bind, Except.bind, pure, Except.pure, throw, throwThe, MonadExceptOf.throw, hread]

theorem holds_of_read (h : d.read p = .ok bytes) : d.Holds p bytes := by
  obtain ⟨l, hl, hfile, -⟩ := read_eq_ok.mp h
  exact ⟨l, hl, hfile⟩

theorem exists?_of_read (h : d.read p = .ok bytes) : d.exists? p = .ok true := by
  obtain ⟨l, hl, hfile⟩ := holds_of_read h
  rw [exists?, find_eq_ok.mpr ⟨hl, hfile⟩]

/-- A path leads to a folder at a location. -/
structure LeadsTo (p : Path) (l : Location) (d : Disk) : Prop where
  locate : d.locate p = .ok l
  folder : d.tree.get? l = some .folder

theorem isFolder_iff : d.isFolder p = true ↔ ∃ l, d.LeadsTo p l := by
  have hfind : ∀ l, d.LeadsTo p l ↔ d.find p = .ok (l, .folder) := fun l =>
    ⟨fun h => find_eq_ok.mpr ⟨h.locate, h.folder⟩,
      fun h => ⟨(find_eq_ok.mp h).1, (find_eq_ok.mp h).2⟩⟩
  simp only [hfind]
  unfold isFolder
  split
  · next h => simp [h]
  · next h =>
    simp only [Bool.false_eq_true, false_iff, not_exists]
    exact fun k hk => h k hk

/-- What is in a folder under a name is at the location of the folder with the name behind it. -/
theorem LeadsTo.locate_child {name : String} {k : Location} (h : d.LeadsTo p l)
    (hname : IsEntryName name) (hchild : d.locate (p.child name) = .ok k) : k = l ++ [name] := by
  obtain ⟨j, hj, hstep⟩ := FileTree.follow_concat_eq_ok.mp (follow_of_locate hchild)
  obtain rfl : l = j := Except.ok.inj ((follow_of_locate h.locate).symm.trans hj)
  exact FileTree.step_of_isEntryName hname hstep

/-- A file that is read by an absolute path has a name: it is not called up by `.` or `..`. -/
theorem isEntryName_of_read (h : d.read p = .ok bytes) (habs : p.isAbsolute = true)
    (hparts : ∀ part ∈ p.parts, '/' ∉ part.toList) : IsEntryName p.name := by
  obtain ⟨l, hl, hfile⟩ := holds_of_read h
  have hfollow := follow_of_locate hl
  rw [startOf, if_pos habs] at hfollow
  obtain ⟨root, parts⟩ := p
  induction parts using List.reverseRecOn with
  | nil =>
    cases hfollow
    cases hfile
  | append_singleton parts part =>
    obtain ⟨k, hk, hstep⟩ := FileTree.follow_concat_eq_ok.mp hfollow
    -- a last part `.` or `..` would lead to a folder, where no file is read
    have habove := FileTree.foldersAbove_nil.follow hk
    have hname : (⟨root, parts ++ [part]⟩ : Path).name = part := Path.name_child ⟨root, parts⟩ part
    rw [hname]
    rcases FileTree.step_eq_ok hstep with ⟨-, rfl⟩ | ⟨-, rfl⟩ | ⟨hup, hdot, hempty, -⟩
    · rw [habove.dropLast] at hfile
      cases hfile
    · rw [FileTree.isFolder_of_step hstep] at hfile
      cases hfile
    · exact ⟨hempty, hdot, hup, hparts part (by simp)⟩

/-! ## Changes -/

theorem write_eq_ok : d.write p bytes = .ok e ↔ ∃ l, d.locate p = .ok l
    ∧ d.tree.get? l ≠ some .folder ∧ d.tree.mayPut l = true
    ∧ e = { d with tree := d.tree.put l (.file bytes) } := by
  unfold write
  cases hl : d.locate p with
  | error trouble => simp [bind, Except.bind]
  | ok k =>
    simp only [bind, Except.bind, Except.ok.injEq, exists_eq_left']
    by_cases hfolder : d.tree.get? k = some .folder
    · simp [hfolder, throw, throwThe, MonadExceptOf.throw]
    · cases hput : d.tree.mayPut k <;>
        simp [hfolder, pure, Except.pure, throw, throwThe, MonadExceptOf.throw, eq_comm]

/-- What is written is there. -/
theorem get?_of_write (h : d.write p bytes = .ok e) (hl : d.locate p = .ok l) :
    e.tree.get? l = some (.file bytes) := by
  obtain ⟨k, hk, hno, -, rfl⟩ := write_eq_ok.mp h
  obtain rfl : l = k := Except.ok.inj (hl.symm.trans hk)
  have hne : l ≠ [] := by
    rintro rfl
    exact hno rfl
  exact d.tree.get?_put_self hne _

theorem write_eq_error {trouble : Trouble} : d.write p bytes = .error trouble
    ↔ d.locate p = .error trouble ∨ ∃ l, d.locate p = .ok l
      ∧ (d.tree.get? l = some .folder ∧ trouble = .system .isFolder p.text
        ∨ d.tree.get? l ≠ some .folder ∧ d.tree.mayPut l = false
          ∧ trouble = .system .denied p.text) := by
  unfold write
  cases hl : d.locate p with
  | error other => simp [bind, Except.bind]
  | ok k =>
    simp only [bind, Except.bind, reduceCtorEq, false_or, Except.ok.injEq, exists_eq_left']
    by_cases hfolder : d.tree.get? k = some .folder
    · simpa [hfolder, throw, throwThe, MonadExceptOf.throw] using eq_comm
    · cases hput : d.tree.mayPut k with
      | true => simp [hfolder, pure, Except.pure]
      | false => simpa [hfolder, throw, throwThe, MonadExceptOf.throw] using eq_comm

theorem makeFolder_eq_ok : d.makeFolder p = .ok e ↔ ∃ l, d.locate p = .ok l
    ∧ d.tree.get? l = none ∧ d.tree.mayPut l = true
    ∧ e = { d with tree := d.tree.put l .folder } := by
  unfold makeFolder
  cases hl : d.locate p with
  | error trouble => simp [bind, Except.bind]
  | ok k =>
    simp only [bind, Except.bind, Except.ok.injEq, exists_eq_left']
    cases hfound : d.tree.get? k with
    | some found => simp [throw, throwThe, MonadExceptOf.throw]
    | none =>
      cases hput : d.tree.mayPut k <;>
        simp [pure, Except.pure, throw, throwThe, MonadExceptOf.throw, eq_comm]

theorem ensureFolder_eq_ok (h : d.ensureFolder p = .ok e) :
    (d.isFolder p = true ∧ e = d) ∨ d.makeFolder p = .ok e := by
  unfold ensureFolder at h
  split at h
  · next hmade => exact .inr (by rw [hmade, h])
  · cases h
  · cases h
  · split at h
    · next hfolder => exact .inl ⟨hfolder, (Except.ok.inj h).symm⟩
    · cases h

@[simp] theorem get?_setAccess (d : Disk) (goal other : Location) (a : Access) :
    (d.setAccess goal a).tree.get? other = d.tree.get? other :=
  d.tree.get?_setAccess goal other a

/-- Where a copy goes, and how this is named if it is the file itself. -/
def goalOf (d : Disk) (source target : Path) : Path × String :=
  if d.isFolder target then
    (target.child source.name, Text.quoted (target.child source.name).text)
  else (target, named target)

/-- A copy is a write of what is read, with which may be done afterwards what may be done with the
file. -/
theorem copy_eq (d : Disk) (source target : Path) : d.copy source target
    = if d.isSame source (d.goalOf source target).1 then
        .error (.sameFile (named source) (d.goalOf source target).2)
      else (d.read source).bind fun bytes =>
        (d.write (d.goalOf source target).1 bytes).bind fun written =>
        (d.locate source).bind fun here =>
        (d.locate (d.goalOf source target).1).bind fun there =>
          .ok (written.setAccess there (d.tree.access here)) := by
  unfold copy goalOf
  cases d.isFolder target <;> rfl

theorem copy_eq_ok_iff {source target : Path} : d.copy source target = .ok e
    ↔ d.isSame source (d.goalOf source target).1 = false
      ∧ ∃ bytes written here there, d.read source = .ok bytes ∧ d.locate source = .ok here
        ∧ d.write (d.goalOf source target).1 bytes = .ok written
        ∧ d.locate (d.goalOf source target).1 = .ok there
        ∧ e = written.setAccess there (d.tree.access here) := by
  rw [copy_eq]
  cases d.isSame source (d.goalOf source target).1 with
  | true => simp
  | false =>
    simp only [Bool.false_eq_true, if_false, true_and]
    constructor
    · intro h
      cases hread : d.read source with
      | error trouble => simp [hread, Except.bind] at h
      | ok bytes =>
        obtain ⟨here, hhere, -⟩ := read_eq_ok.mp hread
        cases hwrite : d.write (d.goalOf source target).1 bytes with
        | error trouble => simp [hread, hwrite, Except.bind] at h
        | ok written =>
          obtain ⟨there, hthere, -⟩ := write_eq_ok.mp hwrite
          simp only [hread, hwrite, hhere, hthere, Except.bind, Except.ok.injEq] at h
          exact ⟨bytes, written, here, there, rfl, hhere, hwrite, hthere, h.symm⟩
    · rintro ⟨bytes, written, here, there, hread, hhere, hwrite, hthere, rfl⟩
      simp only [hread, hwrite, hhere, hthere, Except.bind]

theorem copy_eq_ok {source target : Path} (h : d.copy source target = .ok e) :
    ∃ bytes written here there, d.read source = .ok bytes ∧ d.locate source = .ok here
      ∧ d.write (d.goalOf source target).1 bytes = .ok written
      ∧ d.locate (d.goalOf source target).1 = .ok there
      ∧ e = written.setAccess there (d.tree.access here) :=
  (copy_eq_ok_iff.mp h).2

/-- A copy fails because the two are the same file, or because of what reading or writing fails. -/
theorem copy_eq_error_iff {source target : Path} {trouble : Trouble} :
    d.copy source target = .error trouble
      ↔ (d.isSame source (d.goalOf source target).1 = true
          ∧ trouble = .sameFile (named source) (d.goalOf source target).2)
        ∨ d.isSame source (d.goalOf source target).1 = false
          ∧ (d.read source = .error trouble ∨ ∃ bytes, d.read source = .ok bytes
            ∧ d.write (d.goalOf source target).1 bytes = .error trouble) := by
  rw [copy_eq]
  cases d.isSame source (d.goalOf source target).1 with
  | true => simp [eq_comm]
  | false =>
    cases hread : d.read source with
    | error other => simp [Except.bind]
    | ok bytes =>
      obtain ⟨here, hhere, -⟩ := read_eq_ok.mp hread
      cases hwrite : d.write (d.goalOf source target).1 bytes with
      | error other => simp [hwrite, Except.bind]
      | ok written =>
        obtain ⟨there, hthere, -⟩ := write_eq_ok.mp hwrite
        simp [hwrite, hhere, hthere, Except.bind]

end Disk

end VuserScript.Storage
