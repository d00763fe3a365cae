/-
  VuserScript.Yaml.Token.Directive

  Directives, which stand before a document: the version of the language, and
  the handles of tags. Others are passed over.
-/
import VuserScript.Yaml.Token.Property

namespace VuserScript.Yaml.Scanner

/-- The word behind the percent sign. -/
def directiveName (start : Place) : Scanner String := do
  let name ← run isNameChar
  if name.isEmpty then want .directive start .nameCharacter
  unless endsWord (← peek) do
    want .directive start .nameCharacter
  pure (String.ofList name)

/-- A number of the version. -/
def versionNumber (start : Place) : Scanner Nat := do
  let digits ← run Char.isDigit
  if digits.isEmpty then want .directive start .digit
  if longestInt < digits.length then throw (.misfit (.longInteger digits.length))
  pure (numberOf 10 digits)

/-- The two numbers of the version. -/
def version (start : Place) : Scanner Directive := do
  let _ ← run (· == ' ')
  let major ← versionNumber start
  unless (← peek) == some '.' do
    want .directive start .digitOrPeriod
  skip 1
  let minor ← versionNumber start
  unless endsWord (← peek) do
    want .directive start .digitOrSpace
  pure (.version major minor)

/-- A handle and the first part of the tags it stands for. -/
def handleDirective (start : Place) : Scanner Directive := do
  let _ ← run (· == ' ')
  let handle ← tagHandle .directive start
  unless (← peek) == some ' ' do
    want .directive start .space
  let _ ← run (· == ' ')
  let first ← tagText .directive .directiveText start
  unless endsWord (← peek) do
    want .directive start .space
  pure (.handle handle first)

/-- A directive up to the end of its line, and where it ends. -/
def directive : Scanner (Directive × Place) := do
  let start ← place
  skip 1
  let name ← directiveName start
  let d ← match name with
    | "YAML" => version start
    | "TAG" => handleDirective start
    | _ => pure .other
  let stop ← place
  if d = .other then
    let _ ← run fun c => !isBreak c
  restOfLine .directive start
  pure (d, stop)

end VuserScript.Yaml.Scanner
