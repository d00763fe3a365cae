/-
  VuserScript.Log

  Records of what happens during a run, in the order in which it happens.
-/

namespace VuserScript

/-- How much a record matters. -/
inductive Level where
  | debug
  | info
  | warning
  | error
  deriving DecidableEq, Repr

/-- A message and how much it matters. -/
structure Record where
  level : Level
  message : String
  deriving DecidableEq, Repr

namespace Record

/-- A record of a warning. -/
def ofWarning (message : String) : Record :=
  ⟨.warning, message⟩

/-- The messages of the warnings among records. -/
def warnings (log : List Record) : List String :=
  (log.filter (·.level == .warning)).map (·.message)

end Record

end VuserScript
