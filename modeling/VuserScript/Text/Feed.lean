/-
  VuserScript.Text.Feed

  Reading a text in UTF-8 bit by bit. Bytes are decoded in blocks, so that the
  place of bytes that make no character is counted from the start of their
  block, or from the start of the character that was begun in the block before
  it. Line ends become line feeds on the way.
-/
import VuserScript.Text.LineEnd
import VuserScript.Text.Utf8

namespace VuserScript.Text

/-- How far a text has been read. -/
structure Feed where
  /-- The bytes that are still to come. -/
  bytes : List UInt8
  /-- The first bytes of a character that the last block did not end. -/
  begun : List UInt8 := []
  /-- Whether the last block ends in a carriage return, behind which a line feed may follow. -/
  heldReturn : Bool := false
  /-- The characters of the last block that have not been asked for yet. -/
  chars : List Char := []
  /-- The bytes of the last block for each of its characters. -/
  density : Float := 0.0

namespace Feed

/-- The least number of bytes in a block, unless the text ends before. -/
def leastBlock : Nat := 8192

/-- How many bytes the next block has when some characters are wanted. -/
def blockSize (f : Feed) (wanted : Nat) : Nat :=
  let density := if f.density < 1.0 then 1.0 else f.density
  max leastBlock (density * Float.ofNat wanted).toUInt64.toNat

/-- Whether bytes are the first two of a surrogate, which is refused once the third is there. -/
def beginsSurrogate : List UInt8 → Bool
  | [a, b] => a == 0xED && 0xA0 ≤ b && b ≤ 0xBF
  | _ => false

/-- The characters of bytes, and the bytes at the end that begin another character. -/
def decodeBegun (bytes : List UInt8) : Except Utf8Fault (List Char × List UInt8) :=
  match Utf8.decode bytes with
  | .ok cs => .ok (cs, [])
  | .error fault =>
    if fault.reason = .cut || beginsSurrogate (bytes.drop fault.position) then
      (Utf8.decode (bytes.take fault.position)).map (·, bytes.drop fault.position)
    else .error fault

/-- Decodes the next block. The answer tells whether there was anything to decode. -/
def readBlock (f : Feed) (wanted : Nat) : Except Utf8Fault (Bool × Feed) := do
  let size := f.blockSize wanted
  let block := f.bytes.take size
  let isLast := block.isEmpty
  let (cs, begun) ←
    if isLast then (Utf8.decode f.begun).map (·, []) else decodeBegun (f.begun ++ block)
  let released := f.heldReturn && (isLast || !cs.isEmpty)
  let cs := if released then '\r' :: cs else cs
  let holds := !isLast && cs.getLast? == some '\r'
  let chars := normalLineEnds (if holds then cs.dropLast else cs)
  let density := if chars.isEmpty then 0.0
    else Float.ofNat block.length / Float.ofNat chars.length
  let heldReturn := holds || (f.heldReturn && !released)
  pure (!(isLast && chars.isEmpty), ⟨f.bytes.drop size, begun, heldReturn, chars, density⟩)

/-- The next characters, as many as are wanted or as there are. Each block but the last two takes
a byte, so that the bytes bound the number of blocks. -/
def takeFrom : (fuel : Nat) → (wanted : Nat) → Feed → Except Utf8Fault (List Char × Feed)
  | 0, _, f => .ok ([], f)
  | fuel + 1, wanted, f => do
    let first := f.chars.take wanted
    let f := { f with chars := f.chars.drop wanted }
    if first.length = wanted then pure (first, f)
    else
      let wanted := wanted - first.length
      let (goesOn, f) ← f.readBlock wanted
      if goesOn then
        let (others, f) ← takeFrom fuel wanted f
        pure (first ++ others, f)
      else pure (first, f)

/-- The next characters, as many as are wanted or as there are. -/
def take (f : Feed) (wanted : Nat) : Except Utf8Fault (List Char × Feed) :=
  takeFrom (f.bytes.length + 3) wanted f

end Feed

end VuserScript.Text
