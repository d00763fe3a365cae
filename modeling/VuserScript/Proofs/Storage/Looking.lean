/-
  VuserScript.Proofs.Storage.Looking

  What comes of looking for a path. There is an answer unless the path, or a
  name in a folder on its way, is longer than the system allows, or a folder on
  the way may not be searched. Copying files
  makes no folders and takes none away, so that this does not change, and what
  has been found once is found ever after.
-/
import VuserScript.Proofs.Storage.Growth

namespace VuserScript.Storage

/-! ## Characters of paths -/

namespace Path

variable {c : Char}

/-- Apart from slashes and the period for the path without parts, a path is written with the
characters of its parts. -/
theorem mem_text_iff {p : Path} (hslash : c ≠ '/') (hdot : c ≠ '.') :
    c ∈ p.text.toList ↔ ∃ part ∈ p.parts, c ∈ part.toList := by
  have hjoined : ∀ parts : List String, c ∈ ("/".intercalate parts).toList
      ↔ ∃ part ∈ parts, c ∈ part.toList := by
    intro parts
    rw [toList_intercalate_slash, joined]
    induction parts with
    | nil => simp
    | cons part parts ih =>
      cases parts with
      | nil => simp
      | cons next parts =>
        rw [List.map_cons, List.map_cons, List.intercalate_cons_cons]
        rw [List.map_cons] at ih
        simp [ih, hslash]
  obtain ⟨root, parts⟩ := p
  cases root with
  | relative =>
    by_cases hparts : parts = []
    · subst hparts
      simpa [text] using hdot
    · simp only [text, List.isEmpty_iff, hparts, if_false, hjoined]
  | absolute =>
    rw [text, String.toList_append, List.mem_append, hjoined]
    simp [hslash]
  | doubled =>
    rw [text, String.toList_append, List.mem_append, hjoined]
    simp [hslash]

theorem mem_of_mem_splitSlashes {cs part : List Char} (h : part ∈ splitSlashes cs) (hc : c ∈ part) :
    c ∈ cs := by
  induction cs generalizing part with
  | nil =>
    obtain rfl := List.mem_singleton.mp h
    exact hc
  | cons x rest ih =>
    by_cases hx : x = '/'
    · rw [splitSlashes, if_pos hx, List.mem_cons] at h
      rcases h with rfl | h
      · cases hc
      · exact .tail _ (ih h hc)
    · obtain ⟨first, parts, hsplit, heq⟩ := splitSlashes_cons_of_ne hx rest
      rw [heq, List.mem_cons] at h
      rcases h with rfl | h
      · rcases List.mem_cons.mp hc with rfl | hc
        · exact .head _
        · exact .tail _ (ih (by simp [hsplit]) hc)
      · exact .tail _ (ih (by simp [hsplit, h]) hc)

/-- The parts of a path that is read from a text have no other characters than the text. -/
theorem mem_of_mem_parse {s part : String} (h : part ∈ (parse s).parts) (hc : c ∈ part.toList) :
    c ∈ s.toList := by
  simp only [parse, List.mem_map, List.mem_filter] at h
  obtain ⟨cs, ⟨hmem, -⟩, rfl⟩ := h
  rw [String.toList_ofList] at hc
  exact mem_of_mem_splitSlashes hmem hc

/-- A path that a file can have: no part of it holds the character of number zero. -/
def HasNoZero (p : Path) : Prop :=
  '\x00' ∉ p.text.toList

theorem hasNoZero_iff {p : Path} : p.HasNoZero ↔ ∀ part ∈ p.parts, '\x00' ∉ part.toList := by
  rw [HasNoZero, mem_text_iff (by decide) (by decide)]
  simp

theorem HasNoZero.name {p : Path} (h : p.HasNoZero) : '\x00' ∉ p.name.toList := by
  rw [Path.name]
  cases hlast : p.parts.getLast? with
  | none => decide
  | some part => exact hasNoZero_iff.mp h part (List.mem_of_getLast? hlast)

theorem HasNoZero.child {p : Path} {name : String} (h : p.HasNoZero)
    (hname : '\x00' ∉ name.toList) : (p.child name).HasNoZero := by
  refine hasNoZero_iff.mpr fun part hpart => ?_
  rcases List.mem_append.mp hpart with hpart | hpart
  · exact hasNoZero_iff.mp h part hpart
  · rwa [List.mem_singleton.mp hpart]

theorem HasNoZero.join_parse {p : Path} {s : String} (h : p.HasNoZero)
    (hs : '\x00' ∉ s.toList) : (p.join (parse s)).HasNoZero := by
  have hparse : ∀ part ∈ (parse s).parts, '\x00' ∉ part.toList :=
    fun part hpart hc => hs (mem_of_mem_parse hpart hc)
  refine hasNoZero_iff.mpr fun part hpart => ?_
  unfold join at hpart
  split at hpart
  · exact hparse part hpart
  · rcases List.mem_append.mp hpart with hpart | hpart
    · exact hasNoZero_iff.mp h part hpart
    · exact hparse part hpart

/-- A path is one that a file can have, whether or not all parts between its slashes are kept. -/
theorem hasNoZero_exact_of_parse {s : String} (h : (parse s).HasNoZero) : (exact s).HasNoZero := by
  refine hasNoZero_iff.mpr fun part hpart hzero => ?_
  obtain ⟨cs, hmem, rfl⟩ := List.mem_map.mp hpart
  rw [String.toList_ofList] at hzero
  have hkept : cs ≠ [] ∧ cs ≠ ['.'] := by
    constructor <;> rintro rfl <;> revert hzero <;> decide
  refine hasNoZero_iff.mp h (String.ofList cs) ?_ (by rwa [String.toList_ofList])
  refine List.mem_map_of_mem (List.mem_filter.mpr ⟨List.mem_of_mem_drop hmem, ?_⟩)
  exact decide_eq_true hkept

end Path

/-- The name of the data file of a CSV file has no characters but those of the file and of the
extension. -/
theorem mem_of_mem_datName {c : Char} {name : String} (h : c ∈ (Script.datName name).toList) :
    c ∈ name.toList ∨ c ∈ ".dat".toList := by
  rw [Script.datName, String.toList_append, String.toList_ofList] at h
  rcases List.mem_append.mp h with h | h
  · left
    split at h
    · exact h
    · have hdrop := List.mem_of_mem_drop (List.mem_reverse.mp h)
      exact List.mem_reverse.mp ((List.dropWhile_sublist _).subset hdrop)
  · exact .inr h

/-! ## Following parts that lead nowhere -/

namespace FileTree

variable {t u : FileTree} {start l : Location}

/-- Parts lead nowhere if they do up to some part, and that part does not lead on. -/
theorem follow_eq_error_iff {parts : List String} {cause : Cause} :
    t.follow start parts = .error cause ↔ ∃ above part below l, parts = above ++ part :: below
      ∧ t.follow start above = .ok l ∧ t.step l part = .error cause := by
  constructor
  · intro h
    induction parts generalizing start with
    | nil => cases h
    | cons part parts ih =>
      cases hstep : t.step start part with
      | error other =>
        rw [show t.follow start (part :: parts) = (t.step start part).bind _ from rfl, hstep] at h
        obtain rfl : other = cause := Except.error.inj h
        exact ⟨[], part, parts, start, rfl, rfl, hstep⟩
      | ok k =>
        rw [show t.follow start (part :: parts) = (t.step start part).bind _ from rfl, hstep] at h
        obtain ⟨above, stop, below, l, rfl, habove, hstop⟩ := ih h
        refine ⟨part :: above, stop, below, l, rfl, ?_, hstop⟩
        rw [show t.follow start (part :: above) = (t.step start part).bind _ from rfl, hstep]
        exact habove
  · rintro ⟨above, part, below, l, rfl, habove, hstep⟩
    rw [follow_append, habove, Except.bind]
    rw [show t.follow l (part :: below) = (t.step l part).bind _ from rfl, hstep]
    rfl

/-- Why the system refuses to look for a part of a path in a folder: the folder may not be searched,
or no name is as long as the part. -/
inductive Refuses (t : FileTree) (l : Location) (part : String) : Cause → Prop where
  | denied (folder : t.get? l = some .folder) (closed : (t.access l).search = false)
      (named : part ≠ "") : Refuses t l part .denied
  | nameTooLong (folder : t.get? l = some .folder) (opened : (t.access l).search = true)
      (long : longestName < part.utf8ByteSize) : Refuses t l part .nameTooLong

theorem refuses_iff {part : String} {cause : Cause} : t.Refuses l part cause
    ↔ t.step l part = .error cause ∧ cause.isAbsence = false := by
  constructor
  · rintro (⟨folder, closed, named⟩ | ⟨folder, opened, long⟩)
    · simp [step, folder, named, closed, Cause.isAbsence]
    · have hlong : part ≠ ".." ∧ part ≠ "." ∧ part ≠ "" := by
        refine ⟨?_, ?_, ?_⟩ <;> rintro rfl <;> revert long <;> decide
      simp [step, folder, opened, hlong, long, Cause.isAbsence]
  · rintro ⟨hstep, habsence⟩
    unfold step at hstep
    split at hstep
    · cases hstep
      cases habsence
    · cases hstep
      cases habsence
    · next folder =>
      split at hstep
      · cases hstep
      next named =>
      split at hstep
      · next closed =>
        cases hstep
        exact .denied folder (by simpa using closed) named
      next opened =>
      split at hstep
      · cases hstep
      split at hstep
      · cases hstep
      split at hstep
      · next long =>
        cases hstep
        exact .nameTooLong folder (by simpa using opened) long
      · cases hstep

theorem Refuses.of_sameAt {part : String} {cause : Cause} (h : t.Refuses l part cause)
    (hsame : t.get? l = some .folder → t.SameAt u l) : u.Refuses l part cause := by
  cases h with
  | denied folder closed named =>
    obtain ⟨hentry, haccess⟩ := hsame folder
    exact .denied (hentry.trans folder) (haccess ▸ closed) named
  | nameTooLong folder opened long =>
    obtain ⟨hentry, haccess⟩ := hsame folder
    exact .nameTooLong (hentry.trans folder) (haccess ▸ opened) long

end FileTree

namespace Disk

variable {c d e : Disk} {p source target : Path} {cause : Cause}

/-! ## Refusals -/

/-- Why the system refuses to look for a path: it is too long as a whole, or a folder on its way may
not be searched for the next part, or this part is too long. -/
inductive Refuses (d : Disk) (p : Path) : Cause → Prop where
  | long (noZero : p.HasNoZero) (long : longestPath < p.text.utf8ByteSize) :
      Refuses d p .nameTooLong
  | onTheWay (noZero : p.HasNoZero) (short : p.text.utf8ByteSize ≤ longestPath)
      {above below : List String} {part : String} {l : Location} {cause : Cause}
      (steps : p.steps = above ++ part :: below)
      (leads : d.tree.follow (d.startOf p) above = .ok l)
      (refused : d.tree.Refuses l part cause) : Refuses d p cause

theorem Refuses.hasNoZero (h : d.Refuses p cause) : p.HasNoZero := by
  cases h <;> assumption

theorem refuses_iff : d.Refuses p cause
    ↔ d.locate p = .error (.system cause p.text) ∧ cause.isAbsence = false := by
  unfold locate
  constructor
  · rintro (⟨noZero, long⟩ | ⟨noZero, short, steps, leads, refused⟩)
    · rw [if_neg noZero, if_pos long]
      exact ⟨rfl, rfl⟩
    · obtain ⟨hstep, habsence⟩ := FileTree.refuses_iff.mp refused
      rw [if_neg noZero, if_neg (Nat.not_lt.mpr short),
        FileTree.follow_eq_error_iff.mpr ⟨_, _, _, _, steps, leads, hstep⟩]
      exact ⟨rfl, habsence⟩
  · rintro ⟨hlocate, habsence⟩
    split at hlocate
    · cases hlocate
    next noZero =>
    split at hlocate
    · next long =>
      cases hlocate
      exact .long noZero long
    next short =>
    split at hlocate
    · cases hlocate
    · next stop hfollow =>
      cases hlocate
      obtain ⟨above, part, below, l, steps, leads, hstep⟩ :=
        FileTree.follow_eq_error_iff.mp hfollow
      exact .onTheWay noZero (Nat.not_lt.mp short) steps leads
        (FileTree.refuses_iff.mpr ⟨hstep, habsence⟩)

/-- A path is not located for a cause that is told with the path, or because no path is like it. -/
theorem locate_eq_error {trouble : Trouble} (h : d.locate p = .error trouble) :
    (trouble = .zeroCharacter ∧ ¬ p.HasNoZero) ∨ ∃ cause, trouble = .system cause p.text := by
  unfold locate at h
  split at h
  · next hzero =>
    cases h
    exact .inl ⟨rfl, fun hno => hno hzero⟩
  · split at h
    · cases h
      exact .inr ⟨_, rfl⟩
    · split at h
      · cases h
      · cases h
        exact .inr ⟨_, rfl⟩

theorem find_eq_error {trouble : Trouble} (h : d.find p = .error trouble) :
    d.locate p = .error trouble ∨ trouble = .system .noEntry p.text := by
  unfold find at h
  cases hl : d.locate p with
  | error other =>
    rw [hl] at h
    cases h
    exact .inl rfl
  | ok l =>
    rw [hl] at h
    simp only [bind, Except.bind] at h
    split at h
    · cases h
    · cases h
      exact .inr rfl

theorem exists?_eq_true_iff : d.exists? p = .ok true ↔ ∃ found, d.find p = .ok found := by
  unfold exists?
  cases d.find p with
  | ok found => simp
  | error trouble =>
    cases trouble with
    | system cause path =>
      cases habsence : cause.isAbsence <;> simp [habsence]
    | _ => simp

/-- Whether something is at a path cannot be told exactly if the system refuses to look for it. -/
theorem exists?_eq_error_iff {trouble : Trouble} : d.exists? p = .error trouble
    ↔ ∃ cause, d.Refuses p cause ∧ trouble = .system cause p.text := by
  simp only [refuses_iff]
  unfold exists?
  constructor
  · intro h
    split at h
    · cases h
    · next cause path hfind =>
      split at h
      · cases h
      · next habsence =>
        cases h
        rcases find_eq_error hfind with hlocate | hother
        · rcases locate_eq_error hlocate with ⟨hzero, -⟩ | ⟨_, heq⟩
          · cases hzero
          · cases heq
            exact ⟨cause, ⟨hlocate, by simpa using habsence⟩, rfl⟩
        · cases hother
          exact absurd rfl habsence
    · cases h
  · rintro ⟨cause, ⟨hlocate, habsence⟩, rfl⟩
    have hfind : d.find p = .error (.system cause p.text) := by
      rw [find, hlocate]
      rfl
    simp only [hfind, habsence, Bool.false_eq_true, if_false]

/-- Nothing is at a path that no file can have. -/
theorem exists?_of_zero (h : ¬ p.HasNoZero) : d.exists? p = .ok false := by
  have hlocate : d.locate p = .error .zeroCharacter := if_pos (not_not.mp h)
  rw [exists?, find, hlocate]
  rfl

/-- What is there can be found, and its path is one that a file can have. -/
theorem hasNoZero_of_exists (h : d.exists? p = .ok true) : p.HasNoZero := by
  obtain ⟨⟨l, entry⟩, hfind⟩ := exists?_eq_true_iff.mp h
  exact (locate_eq_ok.mp (find_eq_ok.mp hfind).1).1

theorem LeadsTo.hasNoZero {l : Location} (h : d.LeadsTo p l) : p.HasNoZero :=
  (locate_eq_ok.mp h.locate).1

/-! ## Changes that keep the folders -/

/-- A disk that has become another one by changes of files alone. -/
abbrev KeepsFolders (d e : Disk) : Prop :=
  GrownTo (fun _ => True) (fun _ => False) d e

theorem KeepsFolders.same_folder {l : Location} (h : KeepsFolders d e)
    (he : e.tree.get? l = some .folder) : e.tree.SameAt d.tree l := by
  rcases h.tree l with hsame | ⟨-, -, -, bytes, hfile⟩ | ⟨hno, -⟩
  · exact ⟨hsame.1.symm, hsame.2.symm⟩
  · rw [hfile] at he
    cases he
  · exact hno.elim

theorem KeepsFolders.refuses_iff (h : KeepsFolders d e) :
    e.Refuses p cause ↔ d.Refuses p cause := by
  have hstart : e.startOf p = d.startOf p := by simp only [startOf, h.workingFolder]
  constructor
  · rintro (⟨noZero, long⟩ | ⟨noZero, short, steps, leads, refused⟩)
    · exact .long noZero long
    · rw [hstart] at leads
      exact .onTheWay noZero short steps
        (FileTree.follow_of_folders (fun _ => h.same_folder) leads)
        (refused.of_sameAt h.same_folder)
  · rintro (⟨noZero, long⟩ | ⟨noZero, short, steps, leads, refused⟩)
    · exact .long noZero long
    · rw [← hstart] at leads
      exact .onTheWay noZero short steps (h.tree.follow leads)
        (refused.of_sameAt h.tree.same_folder)

/-- What has been found once is found ever after. -/
theorem KeepsFolders.exists?_eq_true (h : KeepsFolders d e) (hd : d.exists? p = .ok true) :
    e.exists? p = .ok true := by
  obtain ⟨⟨l, entry⟩, hfind⟩ := exists?_eq_true_iff.mp hd
  obtain ⟨hlocate, hentry⟩ := find_eq_ok.mp hfind
  obtain ⟨other, hother⟩ : ∃ other, e.tree.get? l = some other := by
    rcases h.tree l with hsame | ⟨-, -, -, bytes, hfile⟩ | ⟨hno, -⟩
    · exact ⟨entry, hsame.1.trans hentry⟩
    · exact ⟨_, hfile⟩
    · exact hno.elim
  exact exists?_eq_true_iff.mpr ⟨_, find_eq_ok.mpr ⟨h.locate hlocate, hother⟩⟩

/-- What is not found in the end was not there before. -/
theorem KeepsFolders.exists?_eq_false (h : KeepsFolders d e) (he : e.exists? p = .ok false) :
    d.exists? p = .ok false := by
  cases hd : d.exists? p with
  | error trouble =>
    -- such a path would not be looked at in the end either
    obtain ⟨cause, hrefuses, rfl⟩ := exists?_eq_error_iff.mp hd
    have hlater := exists?_eq_error_iff.mpr ⟨cause, h.refuses_iff.mpr hrefuses, rfl⟩
    rw [hlater] at he
    cases he
  | ok isThere =>
    cases isThere with
    | false => rfl
    | true =>
      rw [h.exists?_eq_true hd] at he
      cases he

/-! ## Copies -/

theorem keepsFolders_of_copy (h : d.copy source target = .ok e) : KeepsFolders d e :=
  grownTo_of_copy h fun _ _ => trivial

theorem locate_ne_zeroCharacter (h : p.HasNoZero) : d.locate p ≠ .error .zeroCharacter := by
  intro hlocate
  rcases locate_eq_error hlocate with ⟨-, hzero⟩ | ⟨cause, hcause⟩
  · exact hzero h
  · cases hcause

theorem read_ne_zeroCharacter (h : p.HasNoZero) : d.read p ≠ .error .zeroCharacter := by
  intro hread
  unfold read at hread
  cases hfind : d.find p with
  | error trouble =>
    rw [hfind] at hread
    cases hread
    rcases find_eq_error hfind with hlocate | hother
    · exact locate_ne_zeroCharacter h hlocate
    · cases hother
  | ok found =>
    obtain ⟨l, entry⟩ := found
    rw [hfind] at hread
    simp only [bind, Except.bind] at hread
    split at hread
    · cases entry <;> cases hread
    · cases hread

theorem write_ne_zeroCharacter {bytes : ByteArray} (h : p.HasNoZero) :
    d.write p bytes ≠ .error .zeroCharacter := by
  intro hwrite
  rcases write_eq_error.mp hwrite with hlocate | ⟨l, -, ⟨-, hother⟩ | ⟨-, -, hother⟩⟩
  · exact locate_ne_zeroCharacter h hlocate
  · cases hother
  · cases hother

/-- A copy fails for a cause that can be told if both paths are such as files can have. -/
theorem copy_ne_zeroCharacter (hsource : source.HasNoZero) (htarget : target.HasNoZero) :
    d.copy source target ≠ .error .zeroCharacter := by
  have hgoal : (d.goalOf source target).1.HasNoZero := by
    unfold goalOf
    split
    · exact htarget.child hsource.name
    · exact htarget
  intro h
  rcases copy_eq_error_iff.mp h with ⟨-, hother⟩ | ⟨-, hread | ⟨bytes, -, hwrite⟩⟩
  · cases hother
  · exact read_ne_zeroCharacter hsource hread
  · exact write_ne_zeroCharacter hgoal hwrite

/-! ## Paths that no file has -/

/-- What is at a path can be told unless it is one that no file has. -/
theorem entryAt_eq_error {s : String} {trouble : Trouble} (h : d.entryAt s = .error trouble) :
    trouble = .zeroCharacter ∧ ¬ (Path.parse s).HasNoZero := by
  unfold entryAt at h
  split at h
  · cases h
  · split at h
    · cases h
    · next hfind =>
      cases h
      refine ⟨rfl, fun hparse => ?_⟩
      rcases find_eq_error hfind with hlocate | hother
      · rcases locate_eq_error hlocate with ⟨-, hzero⟩ | ⟨cause, hcause⟩
        · exact hzero (Path.hasNoZero_exact_of_parse hparse)
        · cases hcause
      · cases hother
    · cases h

/-- No folder is made at such a path, nor any of those that it lies in. -/
theorem ensureFolders_of_zero (h : ¬ p.HasNoZero) :
    d.ensureFolders p = (d, .error .zeroCharacter) := by
  obtain ⟨root, parts⟩ := p
  have hlocate : d.locate ⟨root, parts⟩ = .error .zeroCharacter := if_pos (not_not.mp h)
  have hfolder : d.ensureFolder ⟨root, parts⟩ = .error .zeroCharacter := by
    simp only [ensureFolder, makeFolder, hlocate, bind, Except.bind]
  obtain ⟨part, hpart, -⟩ : ∃ part ∈ parts, '\x00' ∈ part.toList := by
    simpa using mt Path.hasNoZero_iff.mpr h
  obtain ⟨last, above, hreverse⟩ : ∃ last above, parts.reverse = last :: above :=
    List.exists_cons_of_ne_nil (List.ne_nil_of_mem (List.mem_reverse.mpr hpart))
  have hwhole : (last :: above).reverse = parts := by
    rw [← hreverse, List.reverse_reverse]
  rw [ensureFolders, hreverse, ensureFoldersFrom]
  simp only [hwhole, hfolder]

end Disk

end VuserScript.Storage
