/-
  VuserScript.Plan.Request

  The request of a sampler: a method, a URL put together from its parts, the
  arguments in document order, and whether the first argument is the body.
-/
import VuserScript.Plan.Property
import VuserScript.Text.Reference

namespace VuserScript.Plan

open Xml (Element)

/-- A name and a value; what is not set is empty. -/
structure Argument where
  name : String
  value : String
  deriving DecidableEq, Repr

/-- A request, before it is written in a script. -/
structure Request where
  name : String
  method : String
  baseUrl : String
  arguments : List Argument
  rawBody : Bool
  deriving DecidableEq, Repr

/-- Whether a method is GET, in any case. -/
def isGetMethod (method : String) : Bool :=
  method.toList.map Char.toUpper == ['G', 'E', 'T']

/-- Whether a request uses the method GET. -/
def Request.isGet (r : Request) : Bool :=
  isGetMethod r.method

/-! ## Arguments -/

/-- The argument that an element defines, unless it has neither a name nor a value. -/
def argument? (e : Element) : Option Argument :=
  match stringProperty? e "Argument.name", stringProperty? e "Argument.value" with
  | none, none => none
  | name, value => some ⟨name.getD "", value.getD ""⟩

/-- Whether an element is the list of a sampler's arguments. -/
def isArgumentList (e : Element) : Bool :=
  e.tag == "elementProp" && e.attribute? "name" == some "HTTPsampler.Arguments"
    && e.attribute? "elementType" == some "Arguments"

/-- Whether an element is the collection within a list of arguments. -/
def isArgumentCollection (e : Element) : Bool :=
  e.tag == "collectionProp" && e.attribute? "name" == some "Arguments.arguments"

/-- Whether an element is an argument. -/
def isArgument (e : Element) : Bool :=
  e.tag == "elementProp" && e.attribute? "elementType" == some "HTTPArgument"

/-- The arguments of a sampler. Names may repeat, as in the body of a form. -/
def argumentsOf (sampler : Element) : List Argument :=
  (sampler.children.filter isArgumentList).flatMap fun list =>
    (list.children.filter isArgumentCollection).flatMap fun collection =>
      (collection.children.filter isArgument).filterMap argument?

/-! ## URLs -/

/-- The URL of a sampler, put together from its parts. -/
def baseUrlOf (sampler : Element) : String :=
  let part (name : String) : Option String :=
    filled? (stringProperty? sampler ("HTTPSampler." ++ name))
  let protocol := (part "protocol").getD "http"
  let domain := (part "domain").getD "localhost"
  let number := match part "port" with
    | some number => ":" ++ number
    | none => ""
  let path := match part "path" with
    | some path => if path.toList.head? == some '/' then path else "/" ++ path
    | none => ""
  protocol ++ "://" ++ domain ++ number ++ path

/-- What stands between a URL and the arguments that are appended to it. -/
def querySeparator (url : String) : String :=
  if '?' ∉ url.toList then "?"
  else if url.toList.getLast? == some '&' || url.toList.getLast? == some '?' then ""
  else "&"

/-- An argument within a query. -/
def Argument.query (a : Argument) : String :=
  Text.scriptForm a.name ++ "=" ++ Text.scriptForm a.value

/-- A URL with arguments appended as a query. -/
def appendQuery (url : String) (arguments : List Argument) : String :=
  if arguments.isEmpty then url
  else url ++ querySeparator url ++ "&".intercalate (arguments.map Argument.query)

/-- The request of a sampler that goes by a name. -/
def requestOf (sampler : Element) (name : String) : Request :=
  { name
    method := Text.trim ((filled? (stringProperty? sampler "HTTPSampler.method")).getD "GET")
    baseUrl := baseUrlOf sampler
    arguments := argumentsOf sampler
    rawBody := flag sampler "HTTPSampler.postBodyRaw" false }

end VuserScript.Plan
