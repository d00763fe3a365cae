/-
  VuserScript.Text.Ranges

  Classes of characters as closed ranges of their numbers.
-/

namespace VuserScript.Text

/-- Whether a number lies in one of the ranges. -/
def inRanges (n : Nat) (ranges : List (Nat × Nat)) : Bool :=
  ranges.any fun (first, last) => first ≤ n && n ≤ last

end VuserScript.Text
