/-
  VuserScript.Proofs.Storage.Deposits

  What is in a folder after files were put into it one after another. Under a
  name that no folder has there is the last file that was put there; a folder
  stays, and takes in what was to be put in its place.
-/
import VuserScript.Proofs.Storage.Growth

namespace VuserScript.Storage

/-! ## The last file of a name -/

/-- The bytes of the last of some files that has a name. -/
def lastNamed (name : String) (files : List (String × ByteArray)) : Option ByteArray :=
  files.reverse.lookup name

@[simp] theorem lastNamed_nil (name : String) : lastNamed name [] = none := rfl

theorem lastNamed_append (name : String) (a b : List (String × ByteArray)) :
    lastNamed name (a ++ b) = (lastNamed name b).or (lastNamed name a) := by
  rw [lastNamed, List.reverse_append, List.lookup_append]
  rfl

theorem lastNamed_singleton_self (name : String) (bytes : ByteArray) :
    lastNamed name [(name, bytes)] = some bytes := by
  simp [lastNamed]

theorem lastNamed_singleton_of_ne {name other : String} (h : name ≠ other) (bytes : ByteArray) :
    lastNamed name [(other, bytes)] = none := by
  simp [lastNamed, List.lookup_cons, beq_eq_false_iff_ne.mpr h]

theorem lastNamed_ne_none {name : String} {files : List (String × ByteArray)}
    (h : name ∈ files.map Prod.fst) : lastNamed name files ≠ none := by
  obtain ⟨file, hfile, rfl⟩ := List.mem_map.mp h
  intro hnone
  simpa using List.lookup_eq_none_iff.mp hnone file (List.mem_reverse.mpr hfile)

theorem lastNamed_eq_none {name : String} {files : List (String × ByteArray)}
    (h : name ∉ files.map Prod.fst) : lastNamed name files = none := by
  refine List.lookup_eq_none_iff.mpr fun file hfile => ?_
  rw [bne_iff_ne]
  rintro rfl
  exact h (List.mem_map_of_mem (List.mem_reverse.mp hfile))

/-! ## A place in a folder -/

/-- What is at a place once files were put there, by the last of them. -/
def placeAfter (place : Option Entry) (last : Option ByteArray) : Option Entry :=
  if place = some .folder then some .folder else (last.map .file).or place

@[simp] theorem placeAfter_none (place : Option Entry) : placeAfter place none = place := by
  unfold placeAfter
  split
  · next h => exact h.symm
  · rfl

theorem placeAfter_of_ne_folder {place : Option Entry} (h : place ≠ some .folder)
    (bytes : ByteArray) : placeAfter place (some bytes) = some (.file bytes) := by
  simp [placeAfter, h]

/-- Of files that are put to a place in two turns the last of the second turn counts first. -/
theorem placeAfter_placeAfter (place : Option Entry) (a b : Option ByteArray) :
    placeAfter (placeAfter place a) b = placeAfter place (b.or a) := by
  by_cases h : place = some .folder
  · simp [placeAfter, h]
  · cases a <;> cases b <;> simp [placeAfter, h]

/-- A file can be got back from a place if and only if the last one was it, and no folder is in
its way. -/
theorem placeAfter_eq_file_iff {place : Option Entry} {last : Option ByteArray}
    (hlast : last ≠ none) (bytes : ByteArray) :
    placeAfter place last = some (.file bytes) ↔ place ≠ some .folder ∧ last = some bytes := by
  obtain ⟨found, rfl⟩ := Option.ne_none_iff_exists'.mp hlast
  by_cases h : place = some .folder
  · simp [placeAfter, h]
  · simp [placeAfter, h]

namespace Disk

variable {folder : Path} {l : Location} {c d e : Disk} {name : String} {bytes : ByteArray}

/-! ## Deposits -/

/-- Files put into a folder one after another. Nothing else is changed in it or around it, but
in a folder of the same name. -/
structure Deposits (folder : Path) (l : Location) (files : List (String × ByteArray))
    (d e : Disk) : Prop where
  grown : GrownTo (IsInside l) (fun _ => False) d e
  place : ∀ name, e.tree.get? (l ++ [name])
    = placeAfter (d.tree.get? (l ++ [name])) (lastNamed name files)
  locate : ∀ name ∈ files.map Prod.fst, e.locate (folder.child name) = .ok (l ++ [name])

namespace Deposits

variable {files : List (String × ByteArray)}

theorem refl (folder : Path) (l : Location) (d : Disk) : Deposits folder l [] d d where
  grown := .refl _ _ d
  place := by simp
  locate := by simp

theorem trans {a b : List (String × ByteArray)} (h : Deposits folder l a c d)
    (h' : Deposits folder l b d e) : Deposits folder l (a ++ b) c e where
  grown := h.grown.trans h'.grown
  place name := by rw [h'.place, h.place, placeAfter_placeAfter, lastNamed_append]
  locate name hname := by
    rw [List.map_append, List.mem_append] at hname
    rcases hname with hname | hname
    · exact h'.grown.locate (h.locate name hname)
    · exact h'.locate name hname

/-- The folder holds a file if and only if it was the last one put there under its name, and no
folder was there. -/
theorem holds_iff (h : Deposits folder l files d e) (hname : name ∈ files.map Prod.fst) :
    e.Holds (folder.child name) bytes
      ↔ d.tree.get? (l ++ [name]) ≠ some .folder ∧ lastNamed name files = some bytes := by
  rw [← placeAfter_eq_file_iff (lastNamed_ne_none hname), ← h.place, Holds]
  simp [h.locate name hname]

end Deposits

/-! ## Single files -/

theorem LeadsTo.deposits_of_write (h : d.LeadsTo folder l) (hname : IsEntryName name)
    (hwrite : d.write (folder.child name) bytes = .ok e) :
    Deposits folder l [(name, bytes)] d e := by
  have hgrown : GrownTo (IsInside l) (fun _ => False) d e := h.write_child hname hwrite
  obtain ⟨k, hk, hno, -, rfl⟩ := write_eq_ok.mp hwrite
  obtain rfl := h.locate_child hname hk
  refine ⟨hgrown, fun other => ?_, fun other hother => ?_⟩
  · by_cases hother : other = name
    · subst hother
      rw [lastNamed_singleton_self, placeAfter_of_ne_folder hno]
      exact d.tree.get?_put_self (by simp) _
    · rw [lastNamed_singleton_of_ne hother, placeAfter_none]
      exact d.tree.get?_put_of_ne (by simpa using hother) _
  · obtain rfl := List.mem_singleton.mp hother
    exact hgrown.locate hk

/-- A copy is one of the file as it is, put into the folder; if a folder of its name is there, this
folder takes the copy in. -/
theorem LeadsTo.deposits_of_copy {source : Path} (h : d.LeadsTo folder l)
    (hname : IsEntryName name) (hsource : IsEntryName source.name)
    (hcopy : d.copy source (folder.child name) = .ok e) :
    ∃ bytes, d.read source = .ok bytes ∧ Deposits folder l [(name, bytes)] d e := by
  have hgrown : GrownTo (IsInside l) (fun _ => False) d e := h.copy_child hname hsource hcopy
  obtain ⟨bytes, written, here, there, hread, -, hwrite, -, rfl⟩ := copy_eq_ok hcopy
  refine ⟨bytes, hread, ?_⟩
  unfold goalOf at hwrite
  by_cases hfolder : d.isFolder (folder.child name) = true
  · rw [if_pos hfolder] at hwrite
    obtain ⟨k, hk⟩ := isFolder_iff.mp hfolder
    obtain rfl := h.locate_child hname hk.locate
    obtain ⟨j, hj, -, -, rfl⟩ := write_eq_ok.mp hwrite
    obtain rfl := hk.locate_child hsource hj
    refine ⟨hgrown, fun other => ?_, fun other hother => ?_⟩
    · -- one name more leads to the copy than to a place in the folder
      have hne : l ++ [other] ≠ l ++ [name] ++ [source.name] := fun heq => by
        simpa using congrArg List.length heq
      rw [get?_setAccess]
      refine (d.tree.get?_put_of_ne hne _).trans ?_
      by_cases hother : other = name
      · simp [hother, hk.folder, placeAfter]
      · rw [lastNamed_singleton_of_ne hother, placeAfter_none]
    · obtain rfl := List.mem_singleton.mp hother
      exact hgrown.locate hk.locate
  · rw [if_neg hfolder] at hwrite
    have hwritten := h.deposits_of_write hname hwrite
    refine ⟨hgrown, fun other => ?_, fun other hother => ?_⟩
    · rw [get?_setAccess]
      exact hwritten.place other
    · obtain rfl := List.mem_singleton.mp hother
      obtain ⟨k, hk, -⟩ := write_eq_ok.mp hwrite
      exact h.locate_child hname hk ▸ hgrown.locate hk

end Disk

end VuserScript.Storage
