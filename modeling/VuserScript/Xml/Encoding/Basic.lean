/-
  VuserScript.Xml.Encoding.Basic

  The encodings of a document and how each one turns bytes into readings. A
  multi-byte character whose bytes run past the end is `truncated`, whatever
  the bytes that are there; elsewhere a byte that starts no character is
  `malformed` on its own.
-/
import VuserScript.Xml.Symbol

namespace VuserScript.Xml

/-- How the bytes of a document stand for characters. -/
inductive Encoding where
  | utf8
  | utf16 (bigEndian : Bool)
  | latin1
  | ascii
  /-- One byte to the character, by a table in which U+FFFD stands for a byte without meaning. -/
  | table (characters : List Char)
  deriving DecidableEq

namespace Encoding

/-- Bytes in a code unit. -/
def unitSize : Encoding → Nat
  | utf16 _ => 2
  | _ => 1

/-- What an encoding makes of names. -/
def alphabet : Encoding → Alphabet
  | utf8 | ascii => .utf8
  | utf16 _ | latin1 => .latin
  | table _ => .bytes

/-! ## UTF-8 -/

/-- A continuation byte. -/
def isContinuation (b : UInt8) : Bool :=
  0x80 ≤ b && b ≤ 0xBF

/-- The six low bits of a continuation byte. -/
def low6 (b : UInt8) : Nat :=
  b.toNat % 0x40

/-- How many bytes a character has by its first byte; `none` if none starts so. -/
def sequenceLength? (b : UInt8) : Option Nat :=
  if b < 0x80 then some 1
  else if 0xC0 ≤ b && b ≤ 0xDF then some 2
  else if 0xE0 ≤ b && b ≤ 0xEF then some 3
  else if 0xF0 ≤ b && b ≤ 0xF4 then some 4
  else none

/-- The character of two bytes. -/
def pair? (a b : UInt8) : Option Char :=
  if 0xC2 ≤ a && isContinuation b then some (Char.ofNat (a.toNat % 0x20 * 0x40 + low6 b)) else none

/-- The character of three bytes: neither an overlong form nor a surrogate. -/
def triple? (a b c : UInt8) : Option Char :=
  if isContinuation b && isContinuation c && (a != 0xE0 || 0xA0 ≤ b) && (a != 0xED || b ≤ 0x9F) then
    some (Char.ofNat ((a.toNat % 0x10 * 0x40 + low6 b) * 0x40 + low6 c))
  else none

/-- The character of four bytes: neither an overlong form nor past U+10FFFF. -/
def quadruple? (a b c d : UInt8) : Option Char :=
  if isContinuation b && isContinuation c && isContinuation d
      && (a != 0xF0 || 0x90 ≤ b) && (a != 0xF4 || b ≤ 0x8F) then
    some (Char.ofNat (((a.toNat % 0x08 * 0x40 + low6 b) * 0x40 + low6 c) * 0x40 + low6 d))
  else none

/-- The reading at a byte with others behind it, and how many of those belong to it. -/
def firstUtf8 (a : UInt8) (rest : List UInt8) : Reading × Nat :=
  let whole (found : Option Char) (width : Nat) : Reading × Nat :=
    match found with
    | some c => if isXmlChar c then (.char c width, width - 1) else (.malformed true, 0)
    | none => (.malformed true, 0)
  match sequenceLength? a, rest with
  | none, _ => (.malformed false, 0)
  | some 1, _ => (Reading.ofChar (Char.ofNat a.toNat) 1, 0)
  | some 2, b :: _ => whole (pair? a b) 2
  | some 3, b :: c :: _ => whole (triple? a b c) 3
  | some 4, b :: c :: d :: _ => whole (quadruple? a b c d) 4
  | some _, _ => (.truncated (rest.length + 1), rest.length)

/-- The readings of bytes in UTF-8, after `skip` bytes that are part of the last reading. -/
def readUtf8 : (skip : Nat) → List UInt8 → List Reading
  | _, [] => []
  | skip + 1, _ :: rest => readUtf8 skip rest
  | 0, a :: rest =>
    let (reading, more) := firstUtf8 a rest
    reading :: readUtf8 more rest

/-! ## UTF-16 -/

/-- The code unit of two bytes. -/
def codeUnit (bigEndian : Bool) (a b : UInt8) : Nat :=
  if bigEndian then a.toNat * 0x100 + b.toNat else b.toNat * 0x100 + a.toNat

/-- The readings of bytes in UTF-16. A high surrogate takes the next unit with it, whichever it
is; a low surrogate on its own is malformed. -/
def readUtf16 (bigEndian : Bool) : List UInt8 → List Reading
  | [] => []
  | [_] => [.stray]
  | a :: b :: rest =>
    let unit := codeUnit bigEndian a b
    if 0xD800 ≤ unit && unit < 0xDC00 then
      match rest with
      | c :: d :: more =>
        let low := codeUnit bigEndian c d % 0x400
        Reading.ofChar (Char.ofNat (0x10000 + unit % 0x400 * 0x400 + low)) 2
          :: readUtf16 bigEndian more
      | _ => [.truncated 1]
    else if 0xDC00 ≤ unit && unit < 0xE000 then .malformed false :: readUtf16 bigEndian rest
    else Reading.ofChar (Char.ofNat unit) 1 :: readUtf16 bigEndian rest

/-! ## One byte to the character -/

/-- The reading of a byte by a table, in which a byte past the end has no meaning. -/
def readByte (characters : Array Char) (b : UInt8) : Reading :=
  match characters[b.toNat]? with
  | some c => if c == '\uFFFD' then .malformed false else Reading.ofChar c 1
  | none => .malformed false

/-- The reading of a byte of ASCII. -/
def readAscii (b : UInt8) : Reading :=
  if b < 0x80 then Reading.ofChar (Char.ofNat b.toNat) 1 else .malformed false

/-- The readings of bytes in an encoding. -/
def readings : Encoding → List UInt8 → List Reading
  | utf8, bytes => readUtf8 0 bytes
  | utf16 bigEndian, bytes => readUtf16 bigEndian bytes
  | latin1, bytes => bytes.map fun b => Reading.ofChar (Char.ofNat b.toNat) 1
  | ascii, bytes => bytes.map readAscii
  | table characters, bytes => bytes.map (readByte characters.toArray)

end Encoding

end VuserScript.Xml
