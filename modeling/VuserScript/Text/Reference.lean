/-
  VuserScript.Text.Reference

  References to variables. A plan writes `${name}`, a script writes `{name}`;
  `scriptFormList` turns the first form into the second, from the left and without
  overlap. A name is not empty and ends at the first closing brace.
-/

namespace VuserScript.Text

/-- The reference at the start of a text: its name and what follows it. -/
def reference? : List Char → Option (List Char × List Char)
  | '$' :: '{' :: s =>
    match s.takeWhile (· != '}'), s.dropWhile (· != '}') with
    | c :: name, _ :: rest => some (c :: name, rest)
    | _, _ => none
  | _ => none

theorem eq_of_reference? {s name rest : List Char} (h : reference? s = some (name, rest)) :
    s = '$' :: '{' :: (name ++ '}' :: rest) := by
  unfold reference? at h
  split at h
  · rename_i s
    split at h
    · rename_i c n d r htake hdrop
      have hd : d = '}' := by
        have := List.head?_dropWhile_not (· != '}') s
        rw [hdrop] at this
        simpa using this
      have := List.takeWhile_append_dropWhile (p := (· != '}')) (l := s)
      rw [htake, hdrop] at this
      cases h
      rw [← this, hd]
    · cases h
  · cases h

theorem length_lt_of_reference? {s name rest : List Char}
    (h : reference? s = some (name, rest)) : rest.length < s.length := by
  rw [eq_of_reference? h]
  simp only [List.length_cons, List.length_append]
  omega

/-- Each reference loses its dollar sign; all other characters stay. -/
def scriptFormList (s : List Char) : List Char :=
  match _h : reference? s with
  | some (name, rest) => '{' :: (name ++ '}' :: scriptFormList rest)
  | none =>
    match s with
    | [] => []
    | c :: r => c :: scriptFormList r
termination_by s.length
decreasing_by
  · exact length_lt_of_reference? _h
  · simp

/-- The text with the references of a plan written as those of a script. -/
def scriptForm (s : String) : String :=
  String.ofList (scriptFormList s.toList)

@[simp] theorem toList_scriptForm (s : String) :
    (scriptForm s).toList = scriptFormList s.toList := by
  simp [scriptForm]

end VuserScript.Text
