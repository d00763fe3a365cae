/-
  VuserScript.Proofs.Storage.Paths

  The parts of paths that are read from texts. None of them holds a slash, and
  a path of such parts is read back from its written form. In particular the
  name of an entry is read as a path with this one part; so a name never leads
  out of the folder it is joined to.
-/
import VuserScript.Proofs.Text.Parts
import VuserScript.Script.ParameterSet
import VuserScript.Storage.Path
import Mathlib.Data.List.Induction

namespace VuserScript.Storage

/-- A name that an entry of a folder can have. -/
structure IsEntryName (name : String) : Prop where
  ne_empty : name ≠ ""
  ne_dot : name ≠ "."
  ne_dots : name ≠ ".."
  no_slash : '/' ∉ name.toList

/-- The name of the data file of a CSV file has an extension, and no slash but those of the file. -/
theorem toList_datName {name : String} (h : '/' ∉ name.toList) :
    ∃ cs, (Script.datName name).toList = cs ++ ['.', 'd', 'a', 't'] ∧ '/' ∉ cs := by
  refine ⟨_, by rw [Script.datName, String.toList_append, String.toList_ofList]; rfl, ?_⟩
  split
  · exact h
  · intro hmem
    have hdrop := List.mem_of_mem_drop (List.mem_reverse.mp hmem)
    exact h (List.mem_reverse.mp ((List.dropWhile_sublist _).subset hdrop))

theorem no_slash_datName {name : String} (h : '/' ∉ name.toList) :
    '/' ∉ (Script.datName name).toList := by
  obtain ⟨cs, heq, hcs⟩ := toList_datName h
  simp [heq, hcs]

/-- The data file of a CSV file can be an entry as well. -/
theorem isEntryName_datName {name : String} (h : IsEntryName name) :
    IsEntryName (Script.datName name) := by
  obtain ⟨cs, heq, hcs⟩ := toList_datName h.no_slash
  refine ⟨?_, ?_, ?_, by simp [heq, hcs]⟩ <;> intro hname <;> rw [hname] at heq <;>
    simpa using congrArg List.length heq

namespace Path

/-! ## Between slashes -/

theorem splitSlashes_eq_splitOn (cs : List Char) : splitSlashes cs = cs.splitOn '/' := by
  induction cs with
  | nil => rfl
  | cons c rest ih =>
    rw [splitSlashes, List.splitOn_cons_eq_if_modifyHead, ih]
    obtain ⟨part, parts, h⟩ := List.exists_cons_of_ne_nil (List.splitOn_ne_nil '/' rest)
    by_cases hc : c = '/' <;> simp [hc, h]

theorem splitSlashes_cons_of_ne {c : Char} (hc : c ≠ '/') (rest : List Char) :
    ∃ part parts, splitSlashes rest = part :: parts
      ∧ splitSlashes (c :: rest) = (c :: part) :: parts := by
  obtain ⟨part, parts, h⟩ := List.exists_cons_of_ne_nil (List.splitOn_ne_nil '/' rest)
  rw [← splitSlashes_eq_splitOn] at h
  exact ⟨part, parts, h, by simp [splitSlashes, hc, h]⟩

theorem no_slash_of_mem_splitSlashes {cs part : List Char} (h : part ∈ splitSlashes cs) :
    '/' ∉ part := by
  rw [splitSlashes_eq_splitOn] at h
  exact Text.not_mem_of_mem_splitOn h

/-! ## Parts of a path -/

/-- A part of a path that is read from a text. -/
structure IsPart (part : String) : Prop where
  ne_empty : part ≠ ""
  ne_dot : part ≠ "."
  no_slash : '/' ∉ part.toList

theorem isPart_of_mem_parse {s part : String} (h : part ∈ (parse s).parts) : IsPart part := by
  simp only [parse, List.mem_map, List.mem_filter, decide_eq_true_eq] at h
  obtain ⟨cs, ⟨hmem, hempty, hdot⟩, rfl⟩ := h
  refine ⟨?_, ?_, by simpa using no_slash_of_mem_splitSlashes hmem⟩
  · rwa [Ne, String.ofList_eq_empty_iff]
  · intro heq
    exact hdot (by simpa using congrArg String.toList heq)

/-! ## Written forms -/

/-- The characters of parts with slashes between them. -/
def joined (parts : List String) : List Char :=
  ['/'].intercalate (parts.map String.toList)

theorem toList_intercalate_slash (parts : List String) :
    ("/".intercalate parts).toList = joined parts := by
  rw [String.toList_intercalate]
  rfl

theorem head?_joined {parts : List String} (h : ∀ part ∈ parts, IsPart part) :
    (joined parts).head? ≠ some '/' := by
  cases parts with
  | nil => simp [joined]
  | cons part rest =>
    obtain ⟨hempty, -, hslash⟩ := h part (.head _)
    obtain ⟨c, cs, hcs⟩ := List.exists_cons_of_ne_nil
      (fun heq => hempty (String.toList_eq_nil_iff.mp heq) : part.toList ≠ [])
    have hc : c ≠ '/' := by
      rintro rfl
      exact hslash (hcs ▸ .head _)
    cases rest <;> simp [joined, List.intercalate_cons_cons, hcs, hc]

theorem parts_joined {parts : List String} (h : ∀ part ∈ parts, IsPart part) :
    ((splitSlashes (joined parts)).filter fun part => part ≠ [] ∧ part ≠ ['.']).map String.ofList
      = parts := by
  by_cases hparts : parts = []
  · rw [hparts]
    rfl
  have hslash : ∀ cs ∈ parts.map String.toList, '/' ∉ cs := by
    intro cs hcs
    obtain ⟨part, hpart, rfl⟩ := List.mem_map.mp hcs
    exact (h part hpart).no_slash
  have hkept : ∀ cs ∈ parts.map String.toList, decide (cs ≠ [] ∧ cs ≠ ['.']) = true := by
    intro cs hcs
    obtain ⟨part, hpart, rfl⟩ := List.mem_map.mp hcs
    rw [decide_eq_true_eq]
    exact ⟨fun heq => (h part hpart).ne_empty (String.toList_inj.mp heq),
      fun heq => (h part hpart).ne_dot (String.toList_inj.mp heq)⟩
  rw [splitSlashes_eq_splitOn, joined, List.splitOn_intercalate '/' hslash (by simpa using hparts),
    List.filter_eq_self.mpr hkept, List.map_map]
  simp [Function.comp_def]

/-- The root is told by the slashes in front. -/
theorem rootOf_of_head? {cs : List Char} (h : cs.head? ≠ some '/') :
    rootOf cs = .relative ∧ rootOf ('/' :: cs) = .absolute
      ∧ rootOf ('/' :: '/' :: cs) = .doubled := by
  cases cs with
  | nil => exact ⟨rfl, rfl, rfl⟩
  | cons c cs =>
    have hc : c ≠ '/' := by simpa using h
    refine ⟨?_, ?_, ?_⟩ <;> unfold rootOf <;> split <;> grind

/-- A path is read back from its written form. -/
theorem parse_text {p : Path} (h : ∀ part ∈ p.parts, IsPart part) : parse p.text = p := by
  obtain ⟨root, parts⟩ := p
  obtain ⟨hrelative, habsolute, hdoubled⟩ := rootOf_of_head? (head?_joined h)
  have hparts := parts_joined h
  cases root with
  | relative =>
    by_cases hempty : parts = []
    · rw [hempty]
      rfl
    · simp only [text, List.isEmpty_iff, hempty, if_false, parse, toList_intercalate_slash,
        hrelative, hparts]
  | absolute =>
    have htext : (text ⟨.absolute, parts⟩).toList = '/' :: joined parts := by
      simp only [text, String.toList_append, toList_intercalate_slash]
      rfl
    rw [parse, htext, habsolute, splitSlashes, if_pos rfl]
    simpa using hparts
  | doubled =>
    have htext : (text ⟨.doubled, parts⟩).toList = '/' :: '/' :: joined parts := by
      simp only [text, String.toList_append, toList_intercalate_slash]
      rfl
    rw [parse, htext, hdoubled, splitSlashes, if_pos rfl, splitSlashes, if_pos rfl]
    simpa using hparts

/-! ## Names -/

theorem isPart_of_isEntryName {name : String} (h : IsEntryName name) : IsPart name :=
  ⟨h.ne_empty, h.ne_dot, h.no_slash⟩

/-- A name is read as a path with this one part. -/
theorem parse_of_isEntryName {name : String} (h : IsEntryName name) :
    parse name = ⟨.relative, [name]⟩ := by
  have hparts : ∀ part ∈ [name], IsPart part := by simpa using isPart_of_isEntryName h
  simpa [text] using parse_text (p := ⟨.relative, [name]⟩) hparts

theorem join_parse_of_isEntryName {name : String} (h : IsEntryName name) (folder : Path) :
    folder.join (parse name) = folder.child name := by
  rw [parse_of_isEntryName h]
  rfl

/-- Joined to a folder, a text without slashes is a name in it or changes nothing. -/
theorem join_parse_of_no_slash {s : String} (h : '/' ∉ s.toList) (folder : Path) :
    folder.join (parse s) = folder ∨ folder.join (parse s) = folder.child s := by
  have hroot : rootOf s.toList = .relative := (rootOf_of_head? fun hhead =>
    h (List.mem_of_mem_head? hhead)).1
  have hparts : (parse s).parts = [] ∨ (parse s).parts = [s] := by
    rw [parse, splitSlashes_eq_splitOn, List.splitOn_eq_singleton h]
    by_cases hkept : s.toList ≠ [] ∧ s.toList ≠ ['.']
    · simp [hkept]
    · simp only [List.filter_cons, hkept]
      exact .inl rfl
  have habs : (parse s).isAbsolute = false := by
    rw [isAbsolute, parse, hroot]
    rfl
  rw [join, habs]
  rcases hparts with hparts | hparts <;> rw [hparts]
  · exact .inl (by simp)
  · exact .inr rfl

@[simp] theorem name_child (folder : Path) (name : String) : (folder.child name).name = name := by
  simp [child, Path.name]

@[simp] theorem steps_child (folder : Path) (name : String) :
    (folder.child name).steps = folder.parts ++ [name] := by
  simp [child, steps]

theorem no_slash_name {p : Path} (h : ∀ part ∈ p.parts, '/' ∉ part.toList) :
    '/' ∉ p.name.toList := by
  rw [name]
  cases hlast : p.parts.getLast? with
  | none => decide
  | some part => exact h part (List.mem_of_getLast? hlast)

/-! ## Absolute forms -/

/-- The absolute form of a path has no parts but those of the working folder and its own. -/
theorem mem_resolve {workingFolder : List String} {p : Path} {part : String}
    (h : part ∈ (p.resolve workingFolder).parts) : part ∈ workingFolder ∨ part ∈ p.parts := by
  have hnormal : ∀ (parts above : List String), part ∈ parts.foldl
      (fun above part => if part = ".." then above.dropLast else above ++ [part]) above →
      part ∈ above ∨ part ∈ parts := by
    intro parts
    induction parts with
    | nil => exact fun above h => .inl h
    | cons first rest ih =>
      intro above h
      rcases ih (if first = ".." then above.dropLast else above ++ [first]) h with h | h
      · split at h
        · exact .inl (List.dropLast_subset _ h)
        · rcases List.mem_append.mp h with h | h
          · exact .inl h
          · exact .inr (List.mem_singleton.mp h ▸ .head _)
      · exact .inr (.tail _ h)
  rcases hnormal _ [] h with h | h
  · cases h
  · split at h
    · exact .inr h
    · exact List.mem_append.mp h

theorem normalParts_of_no_dots {parts : List String} (h : ".." ∉ parts) :
    normalParts parts = parts := by
  induction parts using List.reverseRecOn with
  | nil => rfl
  | append_singleton parts part ih =>
    rw [List.mem_append, List.mem_singleton, not_or] at h
    obtain ⟨hparts, hpart⟩ := h
    rw [normalParts] at ih ⊢
    rw [List.foldl_append, ih hparts, List.foldl_cons, List.foldl_nil, if_neg (Ne.symm hpart)]

end Path

end VuserScript.Storage
