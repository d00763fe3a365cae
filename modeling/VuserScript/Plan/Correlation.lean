/-
  VuserScript.Plan.Correlation

  Values that a script takes from answers. An extractor counts if both the name
  of the parameter and the expression are there and not blank; both are kept as
  they are written.
-/
import VuserScript.Plan.Pairing

namespace VuserScript.Plan

open Xml (Element)

/-- How a value is found in an answer. -/
inductive CorrelationKind where
  | regex
  | json
  deriving DecidableEq, Repr

/-- A parameter and the expression that gives its value. -/
structure Correlation where
  kind : CorrelationKind
  parameter : String
  expression : String
  deriving DecidableEq, Repr

/-- The first of two properties that is there, blank or not. -/
def eitherProperty? (e : Element) (first second : String) : Option String :=
  stringProperty? e first <|> stringProperty? e second

/-- The correlation of a parameter and an expression, if both are filled. -/
def filledCorrelation? (kind : CorrelationKind) (parameter expression : Option String) :
    Option Correlation :=
  match filled? parameter, filled? expression with
  | some parameter, some expression => some ⟨kind, parameter, expression⟩
  | _, _ => none

/-- The correlation of an extractor by regular expression. -/
def regexCorrelation? (e : Element) : Option Correlation :=
  filledCorrelation? .regex (stringProperty? e "RegexExtractor.refname")
    (stringProperty? e "RegexExtractor.regex")

/-- The correlation of an extractor by JSON path; older plans have the singular properties. -/
def jsonCorrelation? (e : Element) : Option Correlation :=
  filledCorrelation? .json
    (eitherProperty? e "JSONPostProcessor.referenceNames" "JSONPostProcessor.referenceName")
    (eitherProperty? e "JSONPostProcessor.jsonPathExprs" "JSONPostProcessor.jsonPathExpr")

/-- The correlations of the extractors by regular expression among test elements. -/
def regexCorrelations (parts : List Element) : List Correlation :=
  (parts.filter (·.tag == regexExtractor)).filterMap regexCorrelation?

/-- The correlations of the extractors by JSON path among test elements. -/
def jsonCorrelations (parts : List Element) : List Correlation :=
  (parts.filter (·.tag == jsonExtractor)).filterMap jsonCorrelation?

/-- The correlations of a sampler, by the test elements of its container: those by regular
expression come first. -/
def correlations (parts : List Element) : List Correlation :=
  regexCorrelations parts ++ jsonCorrelations parts

end VuserScript.Plan
