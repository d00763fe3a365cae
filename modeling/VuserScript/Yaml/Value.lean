/-
  VuserScript.Yaml.Value

  What nodes stand for. Of a collection only the type is told here; what it
  holds is found through its node.
-/

namespace VuserScript.Yaml

/-- What a node stands for. -/
inductive Value where
  | null
  | bool (b : Bool)
  | int (n : Int)
  | float (x : Float)
  | text (s : String)
  | bytes
  | date
  /-- A date and a time of the day. -/
  | moment (hasZone : Bool)
  | list
  | set
  | mapping
  deriving Repr

namespace Value

/-- The name of the type of a value. -/
def typeName : Value → String
  | null => "NoneType"
  | bool _ => "bool"
  | int _ => "int"
  | float _ => "float"
  | text _ => "str"
  | bytes => "bytes"
  | date => "date"
  | moment _ => "datetime"
  | list => "list"
  | set => "set"
  | mapping => "dict"

/-- The name of the type of a value, with the module it comes from if it is not built in. -/
def fullTypeName : Value → String
  | date => "datetime.date"
  | moment _ => "datetime.datetime"
  | v => v.typeName

/-- Whether a value may be a key. -/
def isKey : Value → Bool
  | list | set | mapping => false
  | _ => true

end Value

end VuserScript.Yaml
