/-
  VuserScript.Proofs.Script.Sections

  Reading the sections of a configuration file back from its text. A section
  starts with its heading in brackets and goes on to the next one; the lines in
  it with an equals sign are its entries. A text that is written section by
  section is read as these sections, unless there are line feeds within lines.
-/
import VuserScript.Script.Bundle

namespace VuserScript.Script

open Script.Bundle (joinLines)

/-! ## Lines -/

/-- The lines of a text. -/
def linesOf (text : String) : List String :=
  (text.toList.splitOn '\n').map String.ofList

theorem joinLines_concat {lines : List String} (h : lines ≠ []) :
    joinLines lines ++ "\n" = joinLines (lines ++ [""]) := by
  obtain ⟨line, lines, rfl⟩ := List.exists_cons_of_ne_nil h
  refine String.toList_inj.mp ?_
  rw [String.toList_append, List.cons_append, Bundle.toList_joinLines_cons,
    Bundle.toList_joinLines_cons, List.flatMap_append, List.append_assoc]
  rfl

/-- Lines that are joined and ended by line feeds are read back, with an empty one behind. -/
theorem linesOf_joinLines {lines : List String} (hne : lines ≠ [])
    (h : ∀ line ∈ lines, '\n' ∉ line.toList) :
    linesOf (joinLines lines ++ "\n") = lines ++ [""] := by
  have hlines : ∀ cs ∈ (lines ++ [""]).map String.toList, '\n' ∉ cs := by
    intro cs hcs
    obtain ⟨line, hline, rfl⟩ := List.mem_map.mp hcs
    rcases List.mem_append.mp hline with hline | hline
    · exact h line hline
    · obtain rfl := List.mem_singleton.mp hline
      decide
  have hsplit := List.splitOn_intercalate '\n' hlines (by simp)
  have hbreak : "\n".toList = ['\n'] := by decide
  rw [linesOf, joinLines_concat hne, joinLines, String.toList_intercalate, hbreak, hsplit,
    List.map_map]
  simp [Function.comp_def]

/-! ## Sections -/

/-- A section of a configuration file: its heading and its entries, each a key and a value. -/
structure Section where
  heading : String
  entries : List (String × String)
  deriving DecidableEq, Repr

/-- The lines of a section, with an empty one behind it. -/
def Section.lines (s : Section) : List String :=
  ("[" ++ s.heading ++ "]") :: (s.entries.map fun entry => entry.1 ++ "=" ++ entry.2) ++ [""]

/-- The heading that a line is, if it is one. -/
def heading? (line : String) : Option String :=
  match line.toList with
  | '[' :: rest => if rest.getLast? = some ']' then some (String.ofList rest.dropLast) else none
  | _ => none

/-- The entry that a line is, if it is one: the key ends at the first equals sign. -/
def keyValue? (line : String) : Option (String × String) :=
  match line.toList.dropWhile (· != '=') with
  | _ :: value => some (String.ofList (line.toList.takeWhile (· != '=')), String.ofList value)
  | [] => none

/-- The entries above the first heading, and the sections from there on. -/
def readLines : List String → List (String × String) × List Section
  | [] => ([], [])
  | line :: rest =>
    let (entries, sections) := readLines rest
    match heading? line with
    | some heading => ([], ⟨heading, entries⟩ :: sections)
    | none => ((keyValue? line).toList ++ entries, sections)

/-- The sections of a text. -/
def sectionsOf (text : String) : List Section :=
  (readLines (linesOf text)).2

/-! ## Reading lines -/

theorem readLines_heading (heading : String) (rest : List String) :
    readLines (("[" ++ heading ++ "]") :: rest)
      = ([], ⟨heading, (readLines rest).1⟩ :: (readLines rest).2) := by
  have hline : ("[" ++ heading ++ "]").toList = '[' :: (heading.toList ++ [']']) := by simp
  have hheading : heading? ("[" ++ heading ++ "]") = some heading := by
    simp [heading?, hline]
  rw [readLines, hheading]

/-- A key that is told from a heading, and ends at the first equals sign behind it. -/
def IsKey (key : String) : Prop :=
  key.toList.head? ≠ some '[' ∧ '=' ∉ key.toList

instance : DecidablePred IsKey := fun key =>
  inferInstanceAs (Decidable (key.toList.head? ≠ some '[' ∧ '=' ∉ key.toList))

theorem readLines_entry {key : String} (h : IsKey key) (value : String) (rest : List String) :
    readLines ((key ++ "=" ++ value) :: rest)
      = ((key, value) :: (readLines rest).1, (readLines rest).2) := by
  obtain ⟨hhead, hsign⟩ := h
  have hline : (key ++ "=" ++ value).toList = key.toList ++ '=' :: value.toList := by simp
  have hkept : ∀ c ∈ key.toList, (c != '=') = true := by
    intro c hc
    rw [bne_iff_ne]
    rintro rfl
    exact hsign hc
  have hheading : heading? (key ++ "=" ++ value) = none := by
    rw [heading?, hline]
    split
    · next rest heq =>
      cases hkey : key.toList with
      | nil => simp [hkey] at heq
      | cons c cs =>
        rw [hkey, List.cons_append, List.cons.injEq] at heq
        exact absurd (by rw [hkey, heq.1]; rfl) hhead
    · rfl
  have hentry : keyValue? (key ++ "=" ++ value) = some (key, value) := by
    rw [keyValue?, hline, List.dropWhile_append_of_pos hkept, List.takeWhile_append_of_pos hkept]
    simp
  rw [readLines, hheading, hentry]
  rfl

/-- Sections behind others are read by themselves. -/
theorem readLines_append (lines : List String) {others : List String}
    (h : (readLines others).1 = []) : readLines (lines ++ others)
      = ((readLines lines).1, (readLines lines).2 ++ (readLines others).2) := by
  induction lines with
  | nil => simp [readLines, ← h]
  | cons line lines ih =>
    rw [List.cons_append, readLines, readLines, ih]
    cases heading? line <;> rfl

theorem readLines_entries {entries : List (String × String)}
    (h : ∀ entry ∈ entries, IsKey entry.1) :
    readLines ((entries.map fun entry => entry.1 ++ "=" ++ entry.2) ++ [""]) = (entries, []) := by
  induction entries with
  | nil => decide
  | cons entry entries ih =>
    rw [List.map_cons, List.cons_append, readLines_entry (h _ (.head _)),
      ih fun other hother => h other (.tail _ hother)]

/-- A section with keys that are read back, and without line feeds of its own. -/
structure Section.IsPlain (s : Section) : Prop where
  heading : '\n' ∉ s.heading.toList
  keys : ∀ entry ∈ s.entries, IsKey entry.1 ∧ '\n' ∉ entry.1.toList
  values : ∀ entry ∈ s.entries, '\n' ∉ entry.2.toList

theorem readLines_lines {s : Section} (h : s.IsPlain) : readLines s.lines = ([], [s]) := by
  rw [Section.lines, List.cons_append, readLines_heading,
    readLines_entries fun entry hentry => (h.keys entry hentry).1]

theorem no_break_of_mem_lines {s : Section} (h : s.IsPlain) :
    ∀ line ∈ s.lines, '\n' ∉ line.toList := by
  intro line hline
  rw [Section.lines, List.cons_append, List.mem_cons, List.mem_append, List.mem_map] at hline
  rcases hline with rfl | ⟨entry, hentry, rfl⟩ | hline
  · simp [h.heading]
  · simp [(h.keys entry hentry).2, h.values entry hentry]
  · obtain rfl := List.mem_singleton.mp hline
    decide

theorem readLines_flatMap_lines {sections : List Section} (h : ∀ s ∈ sections, s.IsPlain) :
    readLines (sections.flatMap Section.lines ++ [""]) = ([], sections) := by
  induction sections with
  | nil => decide
  | cons s sections ih =>
    have hrest := ih fun other hother => h other (.tail _ hother)
    rw [List.flatMap_cons, List.append_assoc, readLines_append _ (by rw [hrest]), hrest,
      readLines_lines (h s (.head _))]
    rfl

/-- A text that is written section by section, behind lines that say nothing, is read back. -/
theorem sectionsOf_joinLines {preamble : List String} {sections : List Section}
    (hpreamble : readLines preamble = ([], [])) (hlines : ∀ line ∈ preamble, '\n' ∉ line.toList)
    (hne : preamble ++ sections.flatMap Section.lines ≠ []) (h : ∀ s ∈ sections, s.IsPlain) :
    sectionsOf (joinLines (preamble ++ sections.flatMap Section.lines) ++ "\n") = sections := by
  have hbreak : ∀ line ∈ preamble ++ sections.flatMap Section.lines, '\n' ∉ line.toList := by
    intro line hline
    rcases List.mem_append.mp hline with hline | hline
    · exact hlines line hline
    · obtain ⟨s, hs, hline⟩ := List.mem_flatMap.mp hline
      exact no_break_of_mem_lines (h s hs) line hline
  have hread := readLines_flatMap_lines h
  rw [sectionsOf, linesOf_joinLines hne hbreak, List.append_assoc,
    readLines_append _ (by rw [hread]), hread, hpreamble]
  rfl

end VuserScript.Script
