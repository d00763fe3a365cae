/-
  VuserScript.Text.Markup

  Text with tags. A tag in brackets opens a style, and one that begins with a
  slash closes it; `[/]` closes the last style that is open. A backslash in front
  of a tag makes it plain text. Between the tags, names of emoji stand for emoji.
  Styles do not show here, so that what is shown is the text without its tags.
-/
import VuserScript.Text.Emoji
import VuserScript.Text.Style

namespace VuserScript.Text

/-- A tag: what comes before the equals sign, and behind it if there is one. -/
structure Tag where
  name : List Char
  parameters : Option (List Char)
  deriving DecidableEq, Repr

namespace Tag

/-- The tag that is written between brackets. -/
def ofInner (inner : List Char) : Tag :=
  match inner.span (· ≠ '=') with
  | (name, []) => ⟨name, none⟩
  | (name, _ :: parameters) => ⟨name, some parameters⟩

/-- A tag as it is written. -/
def text (t : Tag) : String :=
  String.ofList ('[' :: t.name ++ (t.parameters.map ('=' :: ·)).getD [] ++ [']'])

end Tag

/-- A part of a text with tags. -/
inductive MarkupPart where
  | text (cs : List Char)
  /-- A tag, and how many characters come before it. -/
  | tag (t : Tag) (position : Nat)
  deriving DecidableEq, Repr

/-- Why a closing tag has nothing to close. -/
inductive MarkupFault where
  /-- No open tag has the style. -/
  | unmatched (tag : Tag) (position : Nat)
  /-- No tag is open. -/
  | nothingOpen (position : Nat)
  deriving DecidableEq, Repr

/-- The wording of a fault. -/
def MarkupFault.message : MarkupFault → String
  | unmatched tag position =>
    "closing tag '" ++ tag.text ++ "' at position " ++ toString position
      ++ " doesn't match any open tag"
  | nothingOpen position =>
    "closing tag '[/]' at position " ++ toString position ++ " has nothing to close"

namespace Markup

/-! ## Parts -/

/-- The inside of brackets that hold a tag, and what follows them. -/
def bracketed? : List Char → Option (List Char × List Char)
  | '[' :: c :: rest =>
    let startsTag := ('a' ≤ c && c ≤ 'z') || c == '#' || c == '/' || c == '@'
    let (inner, after) := rest.span fun d => d ≠ '[' && d ≠ ']'
    match after with
    | ']' :: after => if startsTag then some (c :: inner, after) else none
    | _ => none
  | _ => none

/-- A text given in reverse, if it is there at all. -/
def textPart (reversed : List Char) : List MarkupPart :=
  if reversed.isEmpty then [] else [.text reversed.reverse]

/-- The parts of a text from a position on. `plain` is the text behind the last tag, in reverse,
which some backslashes follow. Of the backslashes in front of a tag two stand for one, and a single
one that is left makes the tag text. `fuel` is more than the length. -/
def partsFrom (position : Nat) (plain : List Char) (slashes : Nat) :
    (fuel : Nat) → List Char → List MarkupPart
  | 0, _ => []
  | fuel + 1, cs =>
    match bracketed? cs with
    | some (inner, after) =>
      let part := if slashes % 2 = 1 then .text ('[' :: inner ++ [']'])
        else .tag (Tag.ofInner inner) position
      textPart plain ++ textPart (List.replicate (slashes / 2) '\\')
        ++ part :: partsFrom (position + inner.length + 2) [] 0 fuel after
    | none =>
      let all := List.replicate slashes '\\' ++ plain
      match cs with
      | [] => textPart all
      | '\\' :: rest => partsFrom (position + 1) plain (slashes + 1) fuel rest
      | c :: rest => partsFrom (position + 1) (c :: all) 0 fuel rest

/-- The parts of a text. -/
def parts (cs : List Char) : List MarkupPart :=
  partsFrom 0 [] 0 (cs.length + 1) cs

/-! ## Plain text -/

/-- A text without the backslashes in front of opening brackets. -/
def unescaped : List Char → List Char
  | '\\' :: '[' :: rest => '[' :: unescaped rest
  | c :: rest => c :: unescaped rest
  | [] => []

/-- What parts show, where some styles are open, the last one first. -/
def shown (opened : List (List Char)) : List MarkupPart → Except MarkupFault (List Char)
  | [] => .ok []
  | .text cs :: rest => do
    let others ← shown opened rest
    pure (Emoji.replace (unescaped cs) ++ others)
  | .tag t position :: rest =>
    match t.name with
    | '/' :: name =>
      match trimList name, opened with
      | [], [] => .error (.nothingOpen position)
      | [], _ :: opened => shown opened rest
      | name, opened =>
        let name := Style.normalName name
        if opened.contains name then shown (opened.erase name) rest
        else .error (.unmatched t position)
    | name => shown (Style.normalName name :: opened) rest

/-- What a text with tags shows. -/
def plainText (s : String) : Except MarkupFault String :=
  (shown [] (parts s.toList)).map String.ofList

end Markup

end VuserScript.Text
