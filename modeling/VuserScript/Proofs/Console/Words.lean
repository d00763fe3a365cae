/-
  VuserScript.Proofs.Console.Words

  The words by which a command is given its options and its operands, in all the
  ways in which they can be put: with values behind an option or in its word, and
  with letters that share a hyphen. They are read back as they were meant.
-/
import VuserScript.Console.Arguments
import Mathlib.Data.List.TakeWhile

namespace VuserScript.Console

/-! ## Spelling -/

/-- Letters behind a hyphen: `times` for more records, and characters that follow them. -/
def letterWord (times : Nat) (rest : List Char) : String :=
  String.ofList ('-' :: List.replicate times 'v' ++ rest)

/-- The options that the letters for more records give. -/
def verboseTimes (times : Nat) : List (Choice × String) :=
  List.replicate times (.verbose, "")

/-- Words for options with their values and for operands, in the order in which they come. An
operand does not start with a hyphen, unless two hyphens alone have ended the options. -/
inductive Spells : List String → List (Choice × String) → List String → Prop where
  | nothing : Spells [] [] []
  | operand {words : List String} {given : List (Choice × String)} {operands : List String}
      {word : String} (plain : word.toList.head? ≠ some '-')
      (others : Spells words given operands) : Spells (word :: words) given (word :: operands)
  | operandsAlone (operands : List String) : Spells ("--" :: operands) [] operands
  | value {words : List String} {given : List (Choice × String)} {operands : List String}
      {c : Choice} (known : c ∈ Command.convert.choices) (takes : c.takesValue = true)
      (value : String) (others : Spells words given operands) :
      Spells (c.longName :: value :: words) ((c, value) :: given) operands
  | joined {words : List String} {given : List (Choice × String)} {operands : List String}
      {c : Choice} (known : c ∈ Command.convert.choices) (takes : c.takesValue = true)
      (value : String) (others : Spells words given operands) :
      Spells ((c.longName ++ "=" ++ value) :: words) ((c, value) :: given) operands
  | flag {words : List String} {given : List (Choice × String)} {operands : List String}
      {c : Choice} (known : c ∈ Command.convert.choices) (takes : c.takesValue = false)
      (others : Spells words given operands) :
      Spells (c.longName :: words) ((c, "") :: given) operands
  | letters {words : List String} {given : List (Choice × String)} {operands : List String}
      (times : Nat) (others : Spells words given operands) :
      Spells (letterWord (times + 1) [] :: words) (verboseTimes (times + 1) ++ given) operands
  | letterValue {words : List String} {given : List (Choice × String)} {operands : List String}
      (times : Nat) (value : String) (others : Spells words given operands) :
      Spells (letterWord times ['o'] :: value :: words)
        (verboseTimes times ++ (.output, value) :: given) operands
  | letterJoined {words : List String} {given : List (Choice × String)} {operands : List String}
      (times : Nat) {value : String} (filled : value ≠ "")
      (others : Spells words given operands) :
      Spells (letterWord times ('o' :: value.toList) :: words)
        (verboseTimes times ++ (.output, value) :: given) operands

namespace Arguments

/-! ## Words with long names -/

theorem toList_longName (c : Choice) :
    c.longName.toList = '-' :: '-' :: c.longName.toList.drop 2 := by
  cases c <;> decide

theorem drop_longName_ne_nil (c : Choice) : c.longName.toList.drop 2 ≠ [] := by
  cases c <;> decide

theorem equals_not_mem_longName (c : Choice) : '=' ∉ c.longName.toList := by
  cases c <;> decide

theorem find?_longName {c : Choice} (h : c ∈ Command.convert.choices) :
    (Command.convert.choices.find? fun d => d.longName = c.longName) = some c := by
  cases c <;> first | decide | exact absurd h (by decide)

theorem ne_equals {cs : List Char} (h : '=' ∉ cs) : ∀ c ∈ cs, decide (c ≠ '=') = true := by
  intro c hc
  refine decide_eq_true ?_
  rintro rfl
  exact h hc

theorem splitValue_of_not_mem {cs : List Char} (h : '=' ∉ cs) : splitValue cs = (cs, none) := by
  rw [splitValue, List.dropWhile_eq_nil_iff.mpr (ne_equals h)]

theorem splitValue_append {cs : List Char} (h : '=' ∉ cs) (value : List Char) :
    splitValue (cs ++ '=' :: value) = (cs, some value) := by
  rw [splitValue, List.dropWhile_append_of_pos (ne_equals h),
    List.takeWhile_append_of_pos (ne_equals h)]
  simp

/-- A word that starts with a hyphen and goes on is one for options. -/
theorem isOption_of_toList {word : String} {c : Char} {rest : List Char}
    (h : word.toList = '-' :: c :: rest) : isOption word = true := by
  have hlength : 1 < word.length := by
    rw [← String.length_toList, h, List.length_cons, List.length_cons]
    omega
  rw [isOption, h, List.head?_cons, decide_eq_true rfl, decide_eq_true hlength]
  rfl

/-- A word with two hyphens and more is not the one that ends the options. -/
theorem ne_hyphens {word : String} {c : Char} {rest : List Char}
    (h : word.toList = '-' :: c :: rest) (hrest : c = '-' → rest ≠ []) : word ≠ "--" := by
  rintro rfl
  have hparts : c = '-' ∧ rest = [] := by simpa using h.symm
  exact hrest hparts.1 hparts.2

theorem readOption_longName {c : Choice} (h : c ∈ Command.convert.choices) :
    readOption Command.convert.choices c.longName
      = .ok (if c.takesValue then ([], some (c, c.longName)) else ([(c, "")], none)) := by
  rw [readOption, splitValue_of_not_mem (equals_not_mem_longName c)]
  simp only [String.ofList_toList, find?_longName h]

theorem readOption_joined {c : Choice} (h : c ∈ Command.convert.choices)
    (htakes : c.takesValue = true) (value : String) :
    readOption Command.convert.choices (c.longName ++ "=" ++ value)
      = .ok ([(c, value)], none) := by
  have hchars : (c.longName ++ "=" ++ value).toList = c.longName.toList ++ '=' :: value.toList := by
    simp
  rw [readOption, hchars, splitValue_append (equals_not_mem_longName c)]
  simp only [String.ofList_toList, find?_longName h, htakes, if_true]

/-! ## Words with letters -/

theorem readLetters_verbose (times : Nat) {cs : List Char} {letters : Letters}
    (h : readLetters Command.convert.choices cs = .ok letters) :
    readLetters Command.convert.choices (List.replicate times 'v' ++ cs)
      = .ok (verboseTimes times ++ letters.1, letters.2) := by
  induction times with
  | zero => exact h
  | succ times ih =>
    have hfind : (Command.convert.choices.find? fun c => c.letter? = some 'v')
        = some .verbose := by
      decide
    rw [List.replicate_succ, List.cons_append, readLetters]
    simp only [hfind, ih, Choice.takesValue]
    rfl

theorem readLetters_output (value : List Char) :
    readLetters Command.convert.choices ('o' :: value)
      = .ok (if value.isEmpty then ([], some (.output, "-o"))
        else ([(.output, String.ofList value)], none)) := by
  have hfind : (Command.convert.choices.find? fun c => c.letter? = some 'o') = some .output := by
    decide
  rw [readLetters]
  simp only [hfind, Choice.takesValue, if_true]

theorem splitValue_fst (cs : List Char) :
    (splitValue cs).1 = cs.takeWhile fun c => decide (c ≠ '=') := by
  rw [splitValue]
  split
  · rfl
  · next heq => exact (List.takeWhile_eq_self_iff.mpr (List.dropWhile_eq_nil_iff.mp heq)).symm

/-- A word with letters is not read as a long name. -/
theorem readOption_letters {c : Char} {rest : List Char} (hc : c ≠ '-') (hequals : c ≠ '=') :
    readOption Command.convert.choices (String.ofList ('-' :: c :: rest))
      = readLetters Command.convert.choices (c :: rest) := by
  have hname : (splitValue ('-' :: c :: rest)).1
      = '-' :: c :: rest.takeWhile fun d => decide (d ≠ '=') := by
    rw [splitValue_fst]
    simp [hequals]
  have hfind : (Command.convert.choices.find? fun d =>
      d.longName = String.ofList (splitValue ('-' :: c :: rest)).1) = none := by
    refine List.find?_eq_none.mpr fun d _ heq => hc ?_
    -- the second character of a long name is a hyphen
    have hchars := congrArg String.toList (of_decide_eq_true heq)
    rw [toList_longName, String.toList_ofList, hname] at hchars
    exact (List.cons.inj (List.cons.inj hchars).2).1.symm
  have htake : (String.ofList ('-' :: c :: rest)).toList.take 2 ≠ ['-', '-'] := by
    rw [String.toList_ofList]
    simpa using hc
  rw [readOption]
  simp only [String.toList_ofList] at htake ⊢
  simp only [hfind, if_neg htake]
  rfl

/-- The characters of a word with letters: behind the hyphen there is one of the two letters. -/
theorem toList_letterWord {times : Nat} {rest : List Char}
    (h : times ≠ 0 ∨ rest.head? = some 'o') :
    ∃ c others, c ≠ '-' ∧ c ≠ '=' ∧ List.replicate times 'v' ++ rest = c :: others
      ∧ (letterWord times rest).toList = '-' :: c :: others := by
  have hword : ∀ c others, List.replicate times 'v' ++ rest = c :: others →
      (letterWord times rest).toList = '-' :: c :: others := by
    intro c others heq
    rw [letterWord, String.toList_ofList, List.cons_append, heq]
  cases times with
  | zero =>
    have hhead := h.resolve_left fun hne => hne rfl
    obtain ⟨others, rfl⟩ := List.head?_eq_some_iff.mp hhead
    exact ⟨'o', others, by decide, by decide, rfl, hword _ _ rfl⟩
  | succ times => exact ⟨'v', _, by decide, by decide, rfl, hword _ _ rfl⟩

theorem readOption_letterWord {times : Nat} {rest : List Char} {letters : Letters}
    (h : times ≠ 0 ∨ rest.head? = some 'o')
    (hrest : readLetters Command.convert.choices rest = .ok letters) :
    readOption Command.convert.choices (letterWord times rest)
      = .ok (verboseTimes times ++ letters.1, letters.2) := by
  obtain ⟨c, others, hc, hequals, hchars, -⟩ := toList_letterWord h
  rw [letterWord, List.cons_append, hchars, readOption_letters hc hequals, ← hchars]
  exact readLetters_verbose times hrest

theorem readLetters_nil : readLetters Command.convert.choices [] = .ok ([], none) := rfl

/-! ## Reading -/

section

variable {word value name : String} {words operands : List String}
  {given first : List (Choice × String)} {c : Choice} {d : Char} {rest : List Char}

/-- A word for options that all have their values. -/
theorem read_options (hword : word.toList = '-' :: d :: rest) (hrest : d = '-' → rest ≠ [])
    (hfirst : readOption Command.convert.choices word = .ok (first, none))
    (hothers : read Command.convert.choices true words = .ok ⟨given, operands⟩) :
    read Command.convert.choices true (word :: words) = .ok ⟨first ++ given, operands⟩ := by
  rw [read, if_neg (ne_hyphens hword hrest), if_pos (isOption_of_toList hword), hfirst, hothers]
  rfl

/-- A word for options whose last one has its value in the next word. -/
theorem read_options_value (hword : word.toList = '-' :: d :: rest) (hrest : d = '-' → rest ≠ [])
    (hfirst : readOption Command.convert.choices word = .ok (first, some (c, name)))
    (hothers : read Command.convert.choices true words = .ok ⟨given, operands⟩) :
    read Command.convert.choices true (word :: value :: words)
      = .ok ⟨first ++ (c, value) :: given, operands⟩ := by
  rw [read, if_neg (ne_hyphens hword hrest), if_pos (isOption_of_toList hword), hfirst]
  simp only [hothers]
  rw [List.append_cons]
  rfl

/-- A word for an operand. -/
theorem read_operand (hplain : word.toList.head? ≠ some '-')
    (hothers : read Command.convert.choices true words = .ok ⟨given, operands⟩) :
    read Command.convert.choices true (word :: words) = .ok ⟨given, word :: operands⟩ := by
  have hne : word ≠ "--" := by
    rintro rfl
    exact hplain (by decide)
  have hoption : ¬ isOption word = true := by
    rw [isOption, decide_eq_false hplain]
    exact Bool.false_ne_true
  rw [read, if_neg hne, if_neg hoption, hothers]
  rfl

end

/-- Words that spell options and operands are read as these. -/
theorem read_of_spells {words : List String} {given : List (Choice × String)}
    {operands : List String} (h : Spells words given operands) :
    read Command.convert.choices true words = .ok ⟨given, operands⟩ := by
  induction h with
  | nothing => rfl
  | operand plain others ih => exact read_operand plain ih
  | operandsAlone operands => rw [read, if_pos rfl]
  | @value words given operands c known takes value others ih =>
    have hread := readOption_longName known
    rw [takes, if_pos rfl] at hread
    exact read_options_value (toList_longName c) (fun _ => drop_longName_ne_nil c) hread ih
  | @joined words given operands c known takes value others ih =>
    have hword : (c.longName ++ "=" ++ value).toList
        = '-' :: '-' :: (c.longName.toList.drop 2 ++ '=' :: value.toList) := by
      rw [String.toList_append, String.toList_append, toList_longName]
      simp
    exact read_options hword (fun _ => by simp) (readOption_joined known takes value) ih
  | @flag words given operands c known takes others ih =>
    have hread := readOption_longName known
    rw [takes, if_neg Bool.false_ne_true] at hread
    exact read_options (toList_longName c) (fun _ => drop_longName_ne_nil c) hread ih
  | letters times others ih =>
    have hstart : times + 1 ≠ 0 ∨ [].head? = some 'o' := .inl (Nat.succ_ne_zero times)
    obtain ⟨c, rest, hc, -, -, hword⟩ := toList_letterWord hstart
    have hread := readOption_letterWord hstart readLetters_nil
    rw [List.append_nil] at hread
    exact read_options hword (fun heq => absurd heq hc) hread ih
  | @letterValue words given operands times value others ih =>
    have hstart : times ≠ 0 ∨ ['o'].head? = some 'o' := .inr rfl
    obtain ⟨c, rest, hc, -, -, hword⟩ := toList_letterWord hstart
    have hread := readOption_letterWord hstart (readLetters_output [])
    rw [List.isEmpty_nil, if_pos rfl, List.append_nil] at hread
    exact read_options_value hword (fun heq => absurd heq hc) hread ih
  | @letterJoined words given operands times value filled others ih =>
    have hstart : times ≠ 0 ∨ ('o' :: value.toList).head? = some 'o' := .inr rfl
    obtain ⟨c, rest, hc, -, -, hword⟩ := toList_letterWord hstart
    have hfilled : ¬ value.toList.isEmpty = true := by
      rw [List.isEmpty_iff, String.toList_eq_nil_iff]
      exact filled
    have hread := readOption_letterWord hstart (readLetters_output value.toList)
    rw [if_neg hfilled, String.ofList_toList] at hread
    have hwhole := read_options hword (fun heq => absurd heq hc) hread ih
    rwa [List.append_assoc, List.singleton_append] at hwhole

end Arguments

end VuserScript.Console
