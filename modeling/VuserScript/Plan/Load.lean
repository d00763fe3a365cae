/-
  VuserScript.Plan.Load

  Loading a plan from a file.
-/
import VuserScript.Session
import VuserScript.Xml.Document

namespace VuserScript.Plan

open Storage (Path)

/-- The tag of the root element of a plan. -/
def rootTag : String := "jmeterTestPlan"

/-- The root element of the plan in a file. -/
def load (pathText : String) : Job Xml.Element := do
  let path := Path.parse pathText
  let disk ← Job.disk
  unless ← Job.orTrouble .storage (disk.exists? path) do
    throw (.plan (.missing pathText))
  let bytes ← Job.orTrouble (fun trouble => .plan (.unreadable trouble)) (disk.read path)
  match Xml.Document.read bytes with
  | .ok root =>
    if root.tag = rootTag then pure root else throw (.plan (.wrongRoot root.tag))
  | .error (.malformed problem) => throw (.plan (.malformed problem))
  | .error failure => throw (.encoding failure)

end VuserScript.Plan
