/-
  VuserScript.Console.Arguments

  Reading the words behind a command. Options may have their value in the same
  word, letters may share a hyphen, and two hyphens end the options.
-/
import VuserScript.Console.Command
import VuserScript.Text.Quoted
import VuserScript.Text.Similarity

namespace VuserScript.Console

/-! ## Problems -/

/-- Why a path that is given cannot be used. -/
inductive PathProblem where
  | noFile
  | folderGiven
  | fileGiven
  | closedFile
  | closedFolder
  deriving DecidableEq, Repr

/-- The wording of a problem with a path. -/
def PathProblem.message (path : String) : PathProblem → String
  | noFile => "File " ++ Text.quoted path ++ " does not exist."
  | folderGiven => "File " ++ Text.quoted path ++ " is a directory."
  | fileGiven => "Directory " ++ Text.quoted path ++ " is a file."
  | closedFile => "File " ++ Text.quoted path ++ " is not readable."
  | closedFolder => "Directory " ++ Text.quoted path ++ " is not readable."

/-- Why words are no call of a command. -/
inductive UsageProblem where
  | unknownOption (name : String) (similar : List String)
  | unknownCommand (name : String) (similar : List String)
  | valueMissing (name : String)
  | valueUnwanted (name : String)
  | commandMissing
  | operandMissing (name : String)
  | extraOperands (operands : List String)
  /-- A value that cannot be used, by the names of what it is given for. -/
  | wrongPath (names : List String) (path : String) (problem : PathProblem)
  deriving DecidableEq, Repr

namespace UsageProblem

/-- A question that suggests other names. -/
def hint : List String → String
  | [] => ""
  | [name] => " Did you mean " ++ Text.quoted name ++ "?"
  | names => " (Did you mean one of: " ++ ", ".intercalate (names.map Text.quoted) ++ "?)"

/-- The wording of a problem with words. -/
def message : UsageProblem → String
  | unknownOption name similar => "No such option " ++ Text.quoted name ++ "." ++ hint similar
  | unknownCommand name similar => "No such command " ++ Text.quoted name ++ "." ++ hint similar
  | valueMissing name => "Option " ++ Text.quoted name ++ " requires an argument."
  | valueUnwanted name => "Option " ++ Text.quoted name ++ " does not take a value."
  | commandMissing => "Missing command."
  | operandMissing name => "Missing argument " ++ Text.quoted name ++ "."
  | extraOperands operands =>
    "Got unexpected extra argument" ++ (if operands.length = 1 then "" else "s") ++ " ("
      ++ " ".intercalate operands ++ ")"
  | wrongPath names path problem =>
    "Invalid value for " ++ " / ".intercalate (names.map Text.quoted) ++ ": "
      ++ problem.message path

/-- Whether the usage of the command is shown with the problem. -/
def showsUsage : UsageProblem → Bool
  | valueMissing _ | valueUnwanted _ => false
  | _ => true

end UsageProblem

/-! ## Words -/

/-- The options that are given with their values, and the operands. -/
structure Arguments where
  given : List (Choice × String) := []
  operands : List String := []
  deriving DecidableEq, Repr

namespace Arguments

/-- The part of a word before an equals sign, and the part behind it if there is one. -/
def splitValue (cs : List Char) : List Char × Option (List Char) :=
  match cs.dropWhile (· ≠ '=') with
  | _ :: value => (cs.takeWhile (· ≠ '='), some value)
  | [] => (cs, none)

/-- What letters behind a hyphen give: options, and an option that lacks its value. -/
abbrev Letters := List (Choice × String) × Option (Choice × String)

/-- Reads letters behind a hyphen. The rest behind an option with a value is that value. -/
def readLetters (choices : List Choice) : List Char → Except UsageProblem Letters
  | [] => .ok ([], none)
  | letter :: rest =>
    let name := String.ofList ['-', letter]
    match choices.find? fun c => c.letter? = some letter with
    | none => .error (.unknownOption name [])
    | some c =>
      if c.takesValue then
        .ok (if rest.isEmpty then ([], some (c, name)) else ([(c, String.ofList rest)], none))
      else do
        let (given, open?) ← readLetters choices rest
        pure ((c, "") :: given, open?)

/-- Reads a word that starts with a hyphen: the options in it, and one that lacks its value. -/
def readOption (choices : List Choice) (word : String) : Except UsageProblem Letters :=
  let (nameChars, value?) := splitValue word.toList
  let name := String.ofList nameChars
  match choices.find? fun c => c.longName = name, value? with
  | some c, some value =>
    if c.takesValue then .ok ([(c, String.ofList value)], none) else .error (.valueUnwanted name)
  | some c, none => .ok (if c.takesValue then ([], some (c, name)) else ([(c, "")], none))
  | none, _ =>
    if word.toList.take 2 = ['-', '-'] then
      .error (.unknownOption name (Text.suggestions name (choices.map Choice.longName)))
    else readLetters choices (word.toList.drop 1)

/-- Whether a word gives options: it starts with a hyphen and is not one alone. -/
def isOption (word : String) : Bool :=
  word.toList.head? = some '-' && 1 < word.length

/-- Adds options that come first. -/
def withGiven (given : List (Choice × String)) (a : Arguments) : Arguments :=
  { a with given := given ++ a.given }

/-- Reads words. If options may not stand behind operands, the first operand ends them. -/
def read (choices : List Choice) (isMixed : Bool) : List String → Except UsageProblem Arguments
  | [] => .ok {}
  | word :: rest =>
    if word = "--" then .ok { operands := rest }
    else if isOption word then do
      match ← readOption choices word with
      | (given, none) => withGiven given <$> read choices isMixed rest
      | (given, some (c, name)) =>
        match rest with
        | value :: rest => withGiven (given ++ [(c, value)]) <$> read choices isMixed rest
        | [] => throw (.valueMissing name)
    else if isMixed then do
      let a ← read choices isMixed rest
      pure { a with operands := word :: a.operands }
    else .ok { operands := word :: rest }

/-- Whether an option is given. -/
def has (a : Arguments) (c : Choice) : Bool :=
  a.given.any fun entry => entry.1 = c

/-- The value of an option; of several the last one counts. -/
def value? (a : Arguments) (c : Choice) : Option String :=
  a.given.reverse.lookup c

/-- How often an option is given. -/
def count (a : Arguments) (c : Choice) : Nat :=
  (a.given.filter fun entry => entry.1 = c).length

end Arguments

end VuserScript.Console
