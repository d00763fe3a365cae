/-
  VuserScript.Yaml.Token

  The tokens of a YAML text. Block collections have no brackets; tokens that
  stand for no character mark where they start and end.
-/
import VuserScript.Yaml.Fault

namespace VuserScript.Yaml

/-- The name of a tag as it is written: with a handle that stands for the first part of it, or
whole. -/
structure TagName where
  handle : Option String
  rest : String
  deriving DecidableEq, Repr

/-- A line that starts with a percent sign. -/
inductive Directive where
  | version (major minor : Nat)
  | handle (handle first : String)
  | other
  deriving DecidableEq, Repr

/-- What a token is. -/
inductive TokenKind where
  | streamStart
  | streamEnd
  | directive (d : Directive)
  | documentStart
  | documentEnd
  | blockSequenceStart
  | blockMappingStart
  | blockEnd
  | flowSequenceStart
  | flowSequenceEnd
  | flowMappingStart
  | flowMappingEnd
  | blockEntry
  | flowEntry
  | key
  | value
  | aliasName (name : String)
  | anchor (name : String)
  | tag (name : TagName)
  /-- A scalar; one that is written without quotes or a block is plain. -/
  | scalar (text : String) (isPlain : Bool)
  deriving DecidableEq, Repr

/-- The name of a token in messages. -/
def TokenKind.name : TokenKind → String
  | streamStart => "<stream start>"
  | streamEnd => "<stream end>"
  | directive _ => "<directive>"
  | documentStart => "<document start>"
  | documentEnd => "<document end>"
  | blockSequenceStart => "<block sequence start>"
  | blockMappingStart => "<block mapping start>"
  | blockEnd => "<block end>"
  | flowSequenceStart => "["
  | flowSequenceEnd => "]"
  | flowMappingStart => "\x7b"
  | flowMappingEnd => "\x7d"
  | blockEntry => "-"
  | flowEntry => ","
  | key => "?"
  | value => ":"
  | aliasName _ => "<alias>"
  | anchor _ => "<anchor>"
  | tag _ => "<tag>"
  | scalar _ _ => "<scalar>"

/-- A token, and where it starts and ends. -/
structure Token where
  kind : TokenKind
  start : Place
  stop : Place
  deriving DecidableEq, Repr

end VuserScript.Yaml
