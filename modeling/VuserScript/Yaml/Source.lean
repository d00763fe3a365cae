/-
  VuserScript.Yaml.Source

  The text of a file, as far as it can be read. It is read in portions, each of
  them when a character of it is asked for, so that what is wrong with a portion
  shows only when everything before it has been looked at.
-/
import VuserScript.Text.Feed
import VuserScript.Yaml.Fault

namespace VuserScript.Yaml

/-- A text, and what is met behind it if that is not the end. -/
structure Source where
  text : List Char
  ending : Option Failure := none

namespace Source

/-! ## Characters -/

/-- A character that a text may hold. -/
def isAcceptable (c : Char) : Bool :=
  let n := c.toNat
  c == '\t' || c == '\n' || c == '\r' || (0x20 ≤ n && n ≤ 0x7E) || n == 0x85
    || (0xA0 ≤ n && n ≤ 0xFFFD) || 0x10000 ≤ n

/-- The first character that a text may not hold; `index` characters come before the text. -/
def unacceptable? (index : Nat) : List Char → Option Failure
  | [] => none
  | c :: rest =>
    if isAcceptable c then unacceptable? (index + 1) rest else some (.unacceptable c index)

/-! ## Portions -/

/-- How many characters are asked for at once. -/
def portionSize : Nat := 4096

/-- The text behind `index` characters, of which `first` is read already. Every portion has a
character, so that the bytes bound the number of portions. -/
def behind : (fuel : Nat) → (index : Nat) → (first : List Char) → Text.Feed → Source
  | 0, _, first, _ => ⟨first, none⟩
  | fuel + 1, index, first, feed =>
    match unacceptable? index first with
    | some failure => ⟨[], some failure⟩
    | none =>
      match feed.take portionSize with
      | .error fault => ⟨first, some (.undecodable fault)⟩
      | .ok ([], _) => ⟨first, none⟩
      | .ok (next, feed) =>
        let source := behind fuel (index + first.length) next feed
        { source with text := first ++ source.text }

/-- The text that bytes stand for. Two portions are read before anything is looked at. -/
def ofBytes (bytes : List UInt8) : Source :=
  let twice : Except Text.Utf8Fault (List Char × Text.Feed) := do
    let (first, feed) ← Text.Feed.take { bytes } portionSize
    let (second, feed) ← feed.take portionSize
    pure (first ++ second, feed)
  match twice with
  | .error fault => ⟨[], some (.undecodable fault)⟩
  | .ok (first, feed) => behind (bytes.length + 2) 0 first feed

end Source

end VuserScript.Yaml
