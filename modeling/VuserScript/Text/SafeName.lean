/-
  VuserScript.Text.SafeName

  Names that are safe as folder names and as section names of a configuration
  file: every character outside the ASCII letters, the digits, `_` and `-`
  becomes `_`.
-/

namespace VuserScript.Text

/-- An ASCII letter, a digit, `_` or `-`. -/
def isSafe (c : Char) : Bool :=
  c.isAlphanum || c == '_' || c == '-'

/-- One character of a safe name. -/
def safeChar (c : Char) : Char :=
  if isSafe c then c else '_'

/-- The name with each unsafe character replaced by `_`. -/
def safeName (s : String) : String :=
  String.ofList (s.toList.map safeChar)

theorem isSafe_safeChar (c : Char) : isSafe (safeChar c) = true := by
  unfold safeChar
  split
  · assumption
  · rfl

@[simp] theorem toList_safeName (s : String) : (safeName s).toList = s.toList.map safeChar := by
  simp [safeName]

/-- A safe name is that of itself. -/
theorem safeName_safeName (s : String) : safeName (safeName s) = safeName s := by
  have hchar : ∀ c, safeChar (safeChar c) = safeChar c := fun c => if_pos (isSafe_safeChar c)
  refine String.toList_inj.mp ?_
  simp [Function.comp_def, hchar]

end VuserScript.Text
