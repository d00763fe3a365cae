/-
  VuserScript.Text.Utf8

  Bytes as text in UTF-8. Bytes that make no character are reported with their
  place: a byte that starts none, the bytes before one that does not continue
  them, or the bytes that the end cuts short.
-/
import VuserScript.Text.Quoted

namespace VuserScript.Text

/-- Why bytes make no character. -/
inductive Utf8Reason where
  | badStart
  | badContinuation
  | cut
  deriving DecidableEq, Repr

/-- Bytes that make no character, and how many come before them. -/
structure Utf8Fault where
  position : Nat
  bytes : List UInt8
  reason : Utf8Reason
  deriving DecidableEq, Repr

/-- The wording of a reason. -/
def Utf8Reason.message : Utf8Reason → String
  | badStart => "invalid start byte"
  | badContinuation => "invalid continuation byte"
  | cut => "unexpected end of data"

/-- The wording of a fault: one byte is shown, several are told by their places. -/
def Utf8Fault.message (f : Utf8Fault) : String :=
  let bytes := match f.bytes with
    | [b] =>
      "byte 0x" ++ String.ofList (hexDigits 2 b.toNat) ++ " in position " ++ toString f.position
    | bytes =>
      "bytes in position " ++ toString f.position ++ "-" ++ toString (f.position + bytes.length - 1)
  "'utf-8' codec can't decode " ++ bytes ++ ": " ++ f.reason.message

namespace Utf8

/-- How many bytes follow the first one of a character; `none` if it starts none. -/
def followerCount? (a : UInt8) : Option Nat :=
  if a < 0x80 then some 0
  else if 0xC2 ≤ a && a ≤ 0xDF then some 1
  else if 0xE0 ≤ a && a ≤ 0xEF then some 2
  else if 0xF0 ≤ a && a ≤ 0xF4 then some 3
  else none

/-- Whether a byte may come second: there are no overlong forms, no surrogates and nothing past
U+10FFFF. -/
def maySecond (a b : UInt8) : Bool :=
  0x80 ≤ b && b ≤ 0xBF && (a != 0xE0 || 0xA0 ≤ b) && (a != 0xED || b ≤ 0x9F)
    && (a != 0xF0 || 0x90 ≤ b) && (a != 0xF4 || b ≤ 0x8F)

/-- The bytes that follow the first one of a character, as far as they may. -/
def followers (a : UInt8) (count : Nat) : List UInt8 → List UInt8
  | [] => []
  | b :: rest =>
    if maySecond a b then (b :: rest.takeWhile fun c => 0x80 ≤ c && c ≤ 0xBF).take count else []

/-- The bits of the first byte that belong to the number of the character. -/
def leadingBits (a : UInt8) : Nat → Nat
  | 0 => a.toNat
  | 1 => a.toNat % 0x20
  | 2 => a.toNat % 0x10
  | _ => a.toNat % 0x08

/-- The first character of bytes, and how many bytes of it follow the first one. -/
def firstChar (position : Nat) (a : UInt8) (rest : List UInt8) : Except Utf8Fault (Char × Nat) :=
  match followerCount? a with
  | none => .error ⟨position, [a], .badStart⟩
  | some count =>
    let others := followers a count rest
    if others.length = count then
      let number := others.foldl (fun n b => n * 0x40 + b.toNat % 0x40) (leadingBits a count)
      .ok (Char.ofNat number, count)
    else if others.length = rest.length then .error ⟨position, a :: others, .cut⟩
    else .error ⟨position, a :: others, .badContinuation⟩

/-- The characters of bytes at a position, after `skip` bytes that are part of the last one. -/
def decodeFrom (position skip : Nat) : List UInt8 → Except Utf8Fault (List Char)
  | [] => .ok []
  | a :: rest =>
    match skip with
    | skip + 1 => decodeFrom (position + 1) skip rest
    | 0 => do
      let (c, more) ← firstChar position a rest
      let cs ← decodeFrom (position + 1) more rest
      pure (c :: cs)

/-- The characters of bytes. -/
def decode (bytes : List UInt8) : Except Utf8Fault (List Char) :=
  decodeFrom 0 0 bytes

end Utf8

end VuserScript.Text
