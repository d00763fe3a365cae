/-
  VuserScript.Yaml.Token.Stream

  The tokens of a text in order. A key need not be marked: whether a scalar or
  a collection is one shows at the colon behind it. So tokens wait as long as
  one of them may turn out to start a key, and the mark of the key, with the
  start of its mapping, is put before it when the colon is met. A fault that is
  met while tokens wait comes before them.
-/
import VuserScript.Yaml.Token.Block
import VuserScript.Yaml.Token.Directive
import VuserScript.Yaml.Token.Plain
import VuserScript.Yaml.Token.Quoted

namespace VuserScript.Yaml

/-- A token that may turn out to start a key. -/
structure KeyCandidate where
  /-- How many tokens come before it. -/
  number : Nat
  /-- Whether nothing but a key may stand there. -/
  isRequired : Bool
  place : Place

/-- How far a text has been cut into tokens. -/
structure TokenReader where
  cursor : Cursor
  /-- The tokens that wait. -/
  waiting : List Token
  /-- How many tokens came before them. -/
  released : Nat := 0
  /-- How many flow collections are open. -/
  depth : Int := 0
  /-- The column of the innermost block collection; -1 outside of all. -/
  column : Int := -1
  /-- The columns around it, the innermost first. -/
  outerColumns : List Int := []
  /-- Whether a key without a mark may start at the next token. -/
  mayStartKey : Bool := true
  /-- The candidates by the number of open flow collections. -/
  candidates : List (Int × KeyCandidate) := []
  isDone : Bool := false

/-- A step of cutting. -/
abbrev TokenStep := StateT TokenReader (Except Failure)

namespace TokenReader

/-- The longest distance from the start of a key without a mark to its colon. -/
def longestKey : Nat := 1024

/-! ## Keys without a mark -/

/-- Stops because what has to be a key is none. -/
def refuseCandidate {α : Type} (k : KeyCandidate) : TokenStep α := do
  throw (.within .simpleKey k.place .missingColon (← get).cursor.place)

/-- Whether a candidate cannot be a key any more: keys stay in one line and are not too long. -/
def isStale (here : Place) (k : KeyCandidate) : Bool :=
  k.place.line != here.line || longestKey < here.index - k.place.index

/-- Drops the candidates that cannot be keys any more. -/
def dropStale : TokenStep Unit := do
  let r ← get
  let stale := isStale r.cursor.place
  match r.candidates.find? fun entry => stale entry.2 && entry.2.isRequired with
  | some (_, k) => refuseCandidate k
  | none => set { r with candidates := r.candidates.filter fun entry => !stale entry.2 }

/-- Drops the candidate among the open flow collections. -/
def dropCandidate : TokenStep Unit := do
  let r ← get
  match r.candidates.lookup r.depth with
  | some k =>
    if k.isRequired then refuseCandidate k
    set { r with candidates := r.candidates.filter fun entry => entry.1 != r.depth }
  | none => pure ()

/-- Makes the next token a candidate if it may be one. -/
def addCandidate : TokenStep Unit := do
  if (← get).mayStartKey then
    dropCandidate
    modify fun r =>
      let place := r.cursor.place
      let k : KeyCandidate :=
        ⟨r.released + r.waiting.length, r.depth == 0 && r.column == place.column, place⟩
      { r with candidates := (r.depth, k) :: r.candidates }

/-! ## Adding tokens -/

/-- Adds a token. -/
def add (kind : TokenKind) (start stop : Place) : TokenStep Unit :=
  modify fun r => { r with waiting := r.waiting ++ [⟨kind, start, stop⟩] }

/-- Adds a token that stands for no character. -/
def addEmpty (kind : TokenKind) : TokenStep Unit := do
  let place := (← get).cursor.place
  add kind place place

/-- Puts a token that stands for no character before the one with a number. -/
def insert (number : Nat) (kind : TokenKind) (place : Place) : TokenStep Unit :=
  modify fun r =>
    let before := number - r.released
    { r with
      waiting := r.waiting.take before ++ ⟨kind, place, place⟩ :: r.waiting.drop before }

/-- Reads from the cursor. -/
def scan {α : Type} (s : Scanner α) : TokenStep α := do
  let r ← get
  match StateT.run s r.cursor with
  | .ok (a, cursor) =>
    set { r with cursor }
    pure a
  | .error failure => throw failure

/-- Adds a token of a fixed number of characters. -/
def addFixed (kind : TokenKind) (count : Nat) : TokenStep Unit := do
  let start := (← get).cursor.place
  scan (Scanner.skip count)
  add kind start (← get).cursor.place

/-- Adds a token that is read by a scanner. -/
def addScanned (s : Scanner TokenKind) : TokenStep Unit := do
  let start := (← get).cursor.place
  let kind ← scan s
  add kind start (← get).cursor.place

/-- Allows a key without a mark at the next token, or not. -/
def allowKey (allowed : Bool) : TokenStep Unit :=
  modify fun r => { r with mayStartKey := allowed }

/-! ## Indentation -/

/-- The block collections that end before a column: the columns that stay, and how many end. -/
def unwound (column current : Int) : List Int → Int × List Int × Nat
  | [] => (current, [], 0)
  | outer :: others =>
    if column < current then
      let (current, others, count) := unwound column outer others
      (current, others, count + 1)
    else (current, outer :: others, 0)

/-- Ends the block collections that are indented beyond a column. -/
def unwind (column : Int) : TokenStep Unit := do
  let r ← get
  if r.depth == 0 then
    let (current, others, count) := unwound column r.column r.outerColumns
    let ended : Token := ⟨.blockEnd, r.cursor.place, r.cursor.place⟩
    set { r with
      column := current
      outerColumns := others
      waiting := r.waiting ++ List.replicate count ended }

/-- Opens a block collection at a column if it is indented beyond the innermost one. -/
def indent (column : Int) : TokenStep Bool := do
  let r ← get
  if r.column < column then
    set { r with column, outerColumns := r.column :: r.outerColumns }
    pure true
  else pure false

/-! ## The kinds of tokens -/

/-- Ends all block collections, for what stands outside of documents. -/
def leaveBlocks : TokenStep Unit := do
  unwind (-1)
  dropCandidate
  allowKey false

/-- The end of the text. -/
def endStream : TokenStep Unit := do
  leaveBlocks
  addEmpty .streamEnd
  modify fun r => { r with candidates := [], isDone := true }

/-- A directive. -/
def addDirective : TokenStep Unit := do
  leaveBlocks
  let start := (← get).cursor.place
  let (d, stop) ← scan Scanner.directive
  add (.directive d) start stop

/-- A line that separates documents. -/
def addSeparator (kind : TokenKind) : TokenStep Unit := do
  leaveBlocks
  addFixed kind 3

/-- The opening bracket of a flow collection. -/
def openFlow (kind : TokenKind) : TokenStep Unit := do
  addCandidate
  modify fun r => { r with depth := r.depth + 1 }
  allowKey true
  addFixed kind 1

/-- The closing bracket of a flow collection. -/
def closeFlow (kind : TokenKind) : TokenStep Unit := do
  dropCandidate
  modify fun r => { r with depth := r.depth - 1 }
  allowKey false
  addFixed kind 1

/-- A comma between the entries of a flow collection. -/
def addFlowEntry : TokenStep Unit := do
  allowKey true
  dropCandidate
  addFixed .flowEntry 1

/-- Outside of flow collections: a block collection starts here if it is indented beyond the
innermost one; what is written so may stand only where a key may start. -/
def startBlock (kind : TokenKind) (complaint : Complaint) : TokenStep Unit := do
  let r ← get
  if r.depth == 0 then
    let place := r.cursor.place
    unless r.mayStartKey do
      throw (.plain complaint place)
    if ← indent place.column then
      addEmpty kind

/-- The hyphen of an entry of a block sequence. -/
def addBlockEntry : TokenStep Unit := do
  startBlock .blockSequenceStart .entryNotAllowed
  allowKey true
  dropCandidate
  addFixed .blockEntry 1

/-- The mark of a key. -/
def addKey : TokenStep Unit := do
  startBlock .blockMappingStart .keyNotAllowed
  allowKey ((← get).depth == 0)
  dropCandidate
  addFixed .key 1

/-- The colon of a value, which may make a key of what waits. -/
def addValue : TokenStep Unit := do
  let r ← get
  match r.candidates.lookup r.depth with
  | some k =>
    set { r with candidates := r.candidates.filter fun entry => entry.1 != r.depth }
    insert k.number .key k.place
    if r.depth == 0 then
      if ← indent k.place.column then
        insert k.number .blockMappingStart k.place
    allowKey false
  | none =>
    startBlock .blockMappingStart .valueNotAllowed
    allowKey (r.depth == 0)
    dropCandidate
  addFixed .value 1

/-- A token that may start a key. -/
def addSimple (s : Scanner TokenKind) : TokenStep Unit := do
  addCandidate
  allowKey false
  addScanned s

/-- A block scalar. -/
def addBlockScalar (isFolded : Bool) : TokenStep Unit := do
  allowKey true
  dropCandidate
  let column := (← get).column
  addScanned (do
    let text ← Scanner.blockScalar isFolded column
    pure (.scalar text false))

/-- A plain scalar. -/
def addPlain : TokenStep Unit := do
  addCandidate
  let r ← get
  let (text, stop, endsWithLine) ← scan (Scanner.plainScalar (r.depth != 0) r.column)
  allowKey endsWithLine
  add (.scalar text true) r.cursor.place stop

/-! ## The next token -/

/-- Whether a line that separates documents starts with a character that comes next. -/
def startsSeparator (c : Char) : TokenStep Bool := do
  if (c == '-' || c == '.') && (← get).cursor.place.column == 0 then scan Scanner.atSeparator
  else pure false

/-- Whether a hyphen, a question mark or a colon that comes next is the mark of an entry, a key or
a value, and not the start of a plain scalar. -/
def isMark (c : Char) : TokenStep Bool := do
  if c != '-' && (← get).depth != 0 then pure true
  else pure (isGap (← scan (Scanner.peekAt 1)))

/-- Adds the token of a mark. -/
def addMark (c : Char) : TokenStep Unit :=
  if c == '-' then addBlockEntry
  else if c == '?' then addKey
  else addValue

/-- Whether a plain scalar may start with a character whatever follows it. -/
def startsPlain (c : Char) : Bool :=
  !(isGap (some c) || "-?:,[]\x7b\x7d#&*!|>'\"%@\x60".toList.contains c)

/-- Refuses a character that comes next, after a look at the one behind it. -/
def refuseNext (c : Char) : TokenStep Unit := do
  let _ ← scan (Scanner.peekAt 1)
  throw (.fault ⟨some (.nextToken, none), .cannotStartToken c, (← get).cursor.place⟩)

/-- Adds the token that starts with a character. -/
def addNext (c : Char) : TokenStep Unit := do
  let r ← get
  let inFlow := r.depth != 0
  if c == '%' && r.cursor.place.column == 0 then addDirective
  else if ← startsSeparator c then
    addSeparator (if c == '-' then .documentStart else .documentEnd)
  else if c == '[' then openFlow .flowSequenceStart
  else if c == '\x7b' then openFlow .flowMappingStart
  else if c == ']' then closeFlow .flowSequenceEnd
  else if c == '\x7d' then closeFlow .flowMappingEnd
  else if c == ',' then addFlowEntry
  else if c == '-' || c == '?' || c == ':' then
    if ← isMark c then addMark c else addPlain
  else if c == '*' then addSimple (TokenKind.aliasName <$> Scanner.anchorName .aliasName)
  else if c == '&' then addSimple (TokenKind.anchor <$> Scanner.anchorName .anchor)
  else if c == '!' then addSimple (TokenKind.tag <$> Scanner.tagName)
  else if c == '|' && !inFlow then addBlockScalar false
  else if c == '>' && !inFlow then addBlockScalar true
  else if c == '\'' then addSimple ((TokenKind.scalar · false) <$> Scanner.quotedScalar false)
  else if c == '"' then addSimple ((TokenKind.scalar · false) <$> Scanner.quotedScalar true)
  else if startsPlain c then addPlain
  else refuseNext c

/-- Passes over what stands between tokens. A line end lets a key start, except within flow
collections. -/
def skipGap : TokenStep Unit := do
  let crossed ← scan Scanner.gap
  modify fun r => { r with mayStartKey := r.mayStartKey || (crossed && r.depth == 0) }

/-- Adds the next token, with those that start or end collections before it. -/
def fetch : TokenStep Unit := do
  skipGap
  dropStale
  unwind (← get).cursor.place.column
  match ← scan Scanner.peek with
  | none => endStream
  | some c => addNext c

/-! ## All tokens -/

/-- Whether the first token that waits may start a key. -/
def firstMayBeKey (r : TokenReader) : Bool :=
  r.candidates.any fun entry => entry.2.number == r.released

/-- The tokens in order, up to the end of the text or the first fault. -/
def releaseAll : (fuel : Nat) → TokenReader → List Token × Option Failure
  | 0, _ => ([], none)
  | fuel + 1, r =>
    if r.isDone then (r.waiting, none)
    else
      let fetched (r : TokenReader) : List Token × Option Failure :=
        match fetch.run r with
        | .ok (_, r) => releaseAll fuel r
        | .error failure => ([], some failure)
      match r.waiting with
      | [] => fetched r
      | first :: others =>
        match dropStale.run r with
        | .error failure => ([], some failure)
        | .ok (_, r) =>
          if r.firstMayBeKey then fetched r
          else
            let (tokens, failure) :=
              releaseAll fuel { r with waiting := others, released := r.released + 1 }
            (first :: tokens, failure)

/-- Passes over a byte order mark at the start of a text. -/
def skipMark : Scanner Unit := do
  if (← Scanner.peek) == some '\uFEFF' then Scanner.skip 1

/-- The tokens of a text, up to its end or the first fault. Each fetch passes over a character, and
adds at most a token, the mark of a key and the start of a block collection, which ends once. -/
def tokens (source : Source) : List Token × Option Failure :=
  match StateT.run skipMark (Cursor.ofSource source) with
  | .ok (_, cursor) =>
    releaseAll (10 * cursor.bound) { cursor, waiting := [⟨.streamStart, {}, {}⟩] }
  | .error failure => ([], some failure)

end TokenReader

end VuserScript.Yaml
