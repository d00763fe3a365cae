/-
  VuserScript.OptionsFile

  The options in a file, which is a YAML mapping of names to values. An empty
  file leaves all options at their defaults.
-/
import VuserScript.Session
import VuserScript.Yaml.Document

namespace VuserScript.OptionsFile

open Storage (Path)
open Yaml (Document Value)

/-! ## Keys -/

/-- A value as the value of an option. -/
def optionValue : Value → OptionValue
  | .bool b => .bool b
  | .text s => .text s
  | v => .other v.typeName

/-- Gives a name a value; a name that is there already keeps its place. -/
def put (entries : List (String × OptionValue)) (name : String) (v : OptionValue) :
    List (String × OptionValue) :=
  if entries.any fun entry => entry.1 == name then
    entries.map fun entry => if entry.1 == name then (name, v) else entry
  else entries ++ [(name, v)]

/-- The entries whose keys are names. -/
def named (entries : List (Value × Value)) : List (String × OptionValue) :=
  entries.foldl (fun found entry =>
    match entry.1 with
    | .text name => put found name (optionValue entry.2)
    | _ => found) []

/-- The number that a value is, if it is one; truth values are the numbers zero and one. -/
def number? : Value → Option Float
  | .bool b => some (if b then 1.0 else 0.0)
  | .int n => some (Float.ofInt n)
  | .float x => some x
  | _ => none

/-- Why two keys, of which the second comes first, have no order, unless both are numbers or both
of one type. A moment in a zone has no order with one in no zone. -/
def orderProblem? (a b : Value) : Option String :=
  match a, b with
  | .date, .moment _ | .moment _, .date =>
    some "can't compare datetime.datetime to datetime.date"
  | .moment x, .moment y =>
    if x = y then none else some "can't compare offset-naive and offset-aware datetimes"
  | a, b =>
    if a.typeName = b.typeName ∨ ((number? a).isSome ∧ (number? b).isSome) then none
    else some ("'<' not supported between instances of " ++ Text.quoted a.fullTypeName ++ " and "
      ++ Text.quoted b.fullTypeName)

/-- The first of two keys in order. -/
def least (a b : Value) : Value :=
  match number? a, number? b with
  | some x, some y => if y < x then b else a
  | _, _ => a

/-- Why keys have no order, by the first two neighbours that have none. -/
def unordered? : List Value → Option String
  | a :: b :: rest => (orderProblem? b a).orElse fun _ => unordered? (b :: rest)
  | _ => none

/-- The problem with keys that are no options when not all of them are names: they are put in
order to be told, where the first one has to be a name. -/
def keyProblem (keys : List Value) : Problem :=
  match unordered? keys, keys with
  | some problem, _ => .type problem
  | none, first :: rest =>
    .type ("sequence item 0: expected str instance, " ++ (rest.foldl least first).fullTypeName
      ++ " found")
  | none, [] => .type ""

/-- Whether a key is the name of an option. -/
def isOption : Value → Bool
  | .text name => Options.names.contains name
  | _ => false

/-- Whether a value is a text. -/
def isText : Value → Bool
  | .text _ => true
  | _ => false

/-- Whether a value is null. -/
def isNull : Value → Bool
  | .null => true
  | _ => false

/-- The keys that are no options, with at most one null. -/
def unknownKeys (entries : List (Value × Value)) : List Value :=
  let keys := (entries.map (·.1)).filter fun key => !isOption key
  (keys.filter isNull).take 1 ++ keys.filter fun key => !isNull key

/-! ## Reading -/

/-- The options that a document gives; `path` is where it comes from. -/
def ofDocument (path : String) (d : Document) : Except Problem Options :=
  match d.rootValue with
  | .null => .ok {}
  | .mapping =>
    let unknown := unknownKeys d.entries
    if unknown.all isText then
      match Options.ofEntries path (named d.entries) with
      | .ok o => .ok o
      | .error problem => .error (.options problem)
    else .error (keyProblem unknown)
  | _ => .error (.optionsFile (.notMapping path))

/-- The options that a text gives. -/
def ofSource (path : String) (source : Yaml.Source) : Except Problem Options :=
  match Document.read source with
  | .ok d => ofDocument path d
  | .error (.undecodable fault) => .error (.undecodable fault)
  | .error (.misfit m) => .error (.misfit m)
  | .error failure => .error (.optionsFile (.malformed path failure))

/-- The options in the file at a path. -/
def load (pathText : String) : Job Options := do
  let path := Path.parse pathText
  let disk ← Job.disk
  unless ← Job.orTrouble .storage (disk.exists? path) do
    throw (.optionsMissing pathText)
  let bytes ← Job.orTrouble .storage (disk.read path)
  MonadExcept.ofExcept (ofSource pathText (.ofBytes bytes.toList))

end VuserScript.OptionsFile
