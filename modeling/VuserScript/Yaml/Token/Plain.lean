/-
  VuserScript.Yaml.Token.Plain

  Scalars without quotes. They end at a colon before a gap, at a comment, at
  brackets within flow collections, and where a line is not indented enough.
-/
import VuserScript.Yaml.Cursor

namespace VuserScript.Yaml.Scanner

/-- A character that ends a word of a plain scalar, by the one behind it. -/
def endsPlainWord (inFlow : Bool) (c : Char) (next : Option Char) : Bool :=
  isSpaceOrTab c || isBreak c
    || (c == ':' && (isGap next || (inFlow && next.any fun d => ",[]\x7b\x7d".toList.contains d)))
    || (inFlow && ",?[]\x7b\x7d".toList.contains c)

/-- A word of a plain scalar at a place, what follows it, and where. -/
def plainWordFrom (inFlow : Bool) (place : Place) : List Char → List Char × List Char × Place
  | [] => ([], [], place)
  | c :: rest =>
    if endsPlainWord inFlow c rest.head? then ([], c :: rest, place)
    else
      let (word, behind) := plainWordFrom inFlow (place.next c) rest
      (c :: word, behind)

/-- A word of a plain scalar. A colon behind it is looked at together with the next character. -/
def plainWord (inFlow : Bool) : Scanner (List Char) := do
  let c ← get
  let (word, rest, place) := plainWordFrom inFlow c.place c.rest
  set { c with rest, place }
  if (← peek) == some ':' then demand 2
  pure word

/-- The line ends of empty lines, unless one of them is followed by a separator of documents. -/
def plainLines : (fuel : Nat) → Scanner (Option (List Char))
  | 0 => pure (some [])
  | fuel + 1 => do
    let _ ← run (· == ' ')
    match ← lineEnd with
    | [] => pure (some [])
    | ends =>
      if ← atSeparator then pure none
      else
        let more ← plainLines fuel
        pure (more.map (ends ++ ·))

/-- What spaces and line ends between words stand for, nothing before a separator of documents;
and whether there was a line end. -/
def plainGap : Scanner (List Char × Bool) := do
  let spaces ← run (· == ' ')
  match ← lineEnd with
  | [] => pure (spaces, false)
  | ends =>
    if ← atSeparator then pure ([], true)
    else
      match ← plainLines (← bound) with
      | some more => pure (folded ends more, true)
      | none => pure ([], true)

/-- The words of a plain scalar, behind a gap; where the last one ends, and whether a line end
follows it. -/
def plainText (inFlow : Bool) (parent : Int) :
    (fuel : Nat) → (gap : List Char × Bool) → (stop : Place) → Scanner (List Char × Place × Bool)
  | 0, gap, stop => pure ([], stop, gap.2)
  | fuel + 1, gap, stop => do
    if (← peek) == some '#' then pure ([], stop, gap.2)
    else
      let word ← plainWord inFlow
      if word.isEmpty then pure ([], stop, gap.2)
      else
        let stop ← place
        let next ← plainGap
        if next.1.isEmpty || (!inFlow && ((← place).column : Int) < parent + 1) then
          pure (gap.1 ++ word, stop, next.2)
        else
          let (text, rest) ← plainText inFlow parent fuel next stop
          pure (gap.1 ++ word ++ text, rest)

/-- A plain scalar within a collection that is indented to a column, or outside of all; where it
ends, and whether a line end follows it. -/
def plainScalar (inFlow : Bool) (parent : Int) : Scanner (String × Place × Bool) := do
  let c ← get
  let (text, rest) ← plainText inFlow parent c.bound ([], false) c.place
  pure (String.ofList text, rest)

end VuserScript.Yaml.Scanner
